/-
  Spark.Lib.Tally

  Counting along a run.  `tally step w s es` adds up the weight `w` of every step
  of a run.

  The accounting rule (`run_account`) is for stocks: when every step leaves as
  much in stock as there was, more by what it earns and less by what it spends,
  the totals of a whole run balance as well; when the steps that meet a condition
  leave no more than that, a run of such steps spends no more than it had and
  earned (`run_account_le`).
-/

import Spark.Lib.Run

namespace Spark.Lib

variable {σ ε : Type*}

/-- The sum of `w` over the steps of a run, each in the state it fires in. -/
def tally (step : σ → ε → Option σ) (w : σ → ε → Nat) : σ → List ε → Nat
  | _, [] => 0
  | s, e :: es => w s e + ((step s e).map fun t => tally step w t es).getD 0

@[simp] theorem tally_nil (step : σ → ε → Option σ) (w : σ → ε → Nat) (s : σ) :
    tally step w s [] = 0 := rfl

theorem tally_cons {step : σ → ε → Option σ} {s t : σ} {e : ε} (ht : step s e = some t)
    (w : σ → ε → Nat) (es : List ε) :
    tally step w s (e :: es) = w s e + tally step w t es := by
  rw [tally, ht]
  rfl

theorem tally_add (step : σ → ε → Option σ) (v w : σ → ε → Nat) (s : σ) (es : List ε) :
    tally step (fun s e => v s e + w s e) s es = tally step v s es + tally step w s es := by
  induction es generalizing s with
  | nil => rfl
  | cons e es ih =>
      cases ht : step s e with
      | none => simp only [tally, ht, Option.map_none, Option.getD_none, Nat.add_zero]
      | some t =>
          rw [tally_cons ht, tally_cons ht, tally_cons ht, ih]
          omega

/-- A weight that counts what the events themselves come with. -/
theorem tally_length {α : Type*} {step : σ → ε → Option σ} {s t : σ} {es : List ε}
    (hrun : run step s es = some t) (k : Nat) (f : ε → List α) :
    tally step (fun _ e => k * (f e).length) s es = k * (es.flatMap f).length := by
  induction es generalizing s with
  | nil => rfl
  | cons e es ih =>
      obtain ⟨u, hu, hrest⟩ := run_cons_some hrun
      rw [tally_cons hu, ih hrest, List.flatMap_cons, List.length_append, Nat.mul_add]

/-- **Accounting rule.**  A stock to which every step adds what it earns and from
    which it takes what it spends: over a whole run, what was spent and what is
    left are what there was and what was earned. -/
theorem run_account {step : σ → ε → Option σ} {stock : σ → Nat} {spent earned : σ → ε → Nat}
    (hstep : ∀ s e t, step s e = some t → spent s e + stock t = stock s + earned s e) :
    ∀ (es : List ε) (s t : σ), run step s es = some t →
      tally step spent s es + stock t = stock s + tally step earned s es := by
  intro es
  induction es with
  | nil =>
      intro s t hrun
      obtain rfl := Option.some.inj hrun
      rw [tally_nil, tally_nil, Nat.zero_add, Nat.add_zero]
  | cons e es ih =>
      intro s t hrun
      obtain ⟨u, hu, hrest⟩ := run_cons_some hrun
      have hhead := hstep s e u hu
      have htail := ih u t hrest
      rw [tally_cons hu, tally_cons hu]
      omega

/-- Accounting rule for conditioned runs: a stock that loses what is not spent. -/
theorem run_account_le {step : σ → ε → Option σ} {ok : σ → ε → Prop} {stock : σ → Nat}
    {spent earned : σ → ε → Nat}
    (hstep : ∀ s e t, ok s e → step s e = some t → spent s e + stock t ≤ stock s + earned s e) :
    ∀ (es : List ε) (s t : σ), Along step ok s es → run step s es = some t →
      tally step spent s es + stock t ≤ stock s + tally step earned s es := by
  intro es
  induction es with
  | nil =>
      intro s t _ hrun
      obtain rfl := Option.some.inj hrun
      exact Nat.le_of_eq (Nat.add_comm 0 (stock s))
  | cons e es ih =>
      intro s t hok hrun
      obtain ⟨u, hu, hrest⟩ := run_cons_some hrun
      have hhead := hstep s e u hok.head hu
      have htail := ih u t (hok.tail hu) hrest
      rw [tally_cons hu, tally_cons hu]
      omega

/-- **Termination rule.**  A run whose steps each leave less in stock is no longer
    than what it takes out. -/
theorem run_length_le {step : σ → ε → Option σ} {ok : σ → ε → Prop} {stock : σ → Nat}
    (hstep : ∀ s e t, ok s e → step s e = some t → stock t < stock s) :
    ∀ (es : List ε) (s t : σ), Along step ok s es → run step s es = some t →
      es.length + stock t ≤ stock s := by
  intro es
  induction es with
  | nil =>
      intro s t _ hrun
      obtain rfl := Option.some.inj hrun
      exact Nat.le_of_eq (Nat.zero_add (stock s))
  | cons e es ih =>
      intro s t hok hrun
      obtain ⟨u, hu, hrest⟩ := run_cons_some hrun
      have hhead := hstep s e u hok.head hu
      have htail := ih u t (hok.tail hu) hrest
      rw [List.length_cons]
      omega

end Spark.Lib
