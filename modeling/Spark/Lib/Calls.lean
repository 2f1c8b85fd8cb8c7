/-
  Spark.Lib.Calls

  Outstanding asynchronous calls.  Each call gets the next serial number when
  it is issued and is answered at most once, at any later time and in any
  order; what is kept of a call (its arguments, its completion closure) is the
  type parameter.
-/

import Mathlib.Data.List.Nodup

namespace Spark.Lib

variable {α : Type*}

/-- The calls issued and not yet answered, oldest first, each with its serial
    number; `issued` is the number of calls ever issued. -/
structure Calls (α : Type*) where
  issued : Nat := 0
  outstanding : List (Nat × α) := []

namespace Calls

/-- Issue a call. -/
def issue (c : Calls α) (a : α) : Calls α :=
  { issued := c.issued + 1, outstanding := c.outstanding ++ [(c.issued, a)] }

/-- The outstanding call with serial number `n`. -/
def find? (c : Calls α) (n : Nat) : Option α :=
  (c.outstanding.find? fun p => p.1 == n).map Prod.snd

/-- Take the outstanding call with serial number `n` out, if there is one. -/
def answer (c : Calls α) (n : Nat) : Option (α × Calls α) :=
  (c.find? n).map fun a =>
    (a, { c with outstanding := c.outstanding.filter fun q => q.1 != n })

@[simp] theorem mem_issue {c : Calls α} {a : α} {p : Nat × α} :
    p ∈ (c.issue a).outstanding ↔ p ∈ c.outstanding ∨ p = (c.issued, a) := by
  simp [issue]

theorem mem_of_find? {c : Calls α} {n : Nat} {a : α} (h : c.find? n = some a) :
    (n, a) ∈ c.outstanding := by
  obtain ⟨⟨m, b⟩, hfind, rfl⟩ := Option.map_eq_some_iff.mp h
  have hm : m = n := by simpa using List.find?_some hfind
  exact hm ▸ List.mem_of_find?_eq_some hfind

/-- What an answered call was, and that only calls that were outstanding stay so. -/
theorem answer_some {c c' : Calls α} {n : Nat} {a : α} (h : c.answer n = some (a, c')) :
    c.find? n = some a ∧ c'.issued = c.issued ∧
      ∀ p, p ∈ c'.outstanding ↔ p ∈ c.outstanding ∧ p.1 ≠ n := by
  obtain ⟨b, hfind, heq⟩ := Option.map_eq_some_iff.mp h
  obtain ⟨rfl, rfl⟩ := Prod.mk.inj heq
  refine ⟨hfind, rfl, ?_⟩
  intro p
  simp

/-- When at most one call is outstanding, its answer leaves none. -/
theorem answered_of_length_le_one {c c' : Calls α} {n : Nat} {a : α}
    (hlen : c.outstanding.length ≤ 1) (hfind : c.find? n = some a)
    (hcalls : ∀ p, p ∈ c'.outstanding ↔ p ∈ c.outstanding ∧ p.1 ≠ n) :
    c.outstanding = [(n, a)] ∧ c'.outstanding = [] := by
  have hmem : (n, a) ∈ c.outstanding := mem_of_find? hfind
  obtain ⟨p, hp⟩ := List.length_eq_one_iff.mp (Nat.le_antisymm hlen (List.length_pos_of_mem hmem))
  obtain rfl : (n, a) = p := List.mem_singleton.mp (hp ▸ hmem)
  refine ⟨hp, List.eq_nil_iff_forall_not_mem.mpr ?_⟩
  intro q hq
  obtain ⟨hbefore, hne⟩ := (hcalls q).mp hq
  rw [hp] at hbefore
  exact hne (congrArg Prod.fst (List.mem_singleton.mp hbefore))

-- ============================================================================
-- Serial numbers
-- ============================================================================

/-- Serial numbers are given out once: an outstanding call has been issued and
    is the only one with its number. -/
structure Distinct (c : Calls α) : Prop where
  issued : ∀ p ∈ c.outstanding, p.1 < c.issued
  unique : ∀ p ∈ c.outstanding, ∀ q ∈ c.outstanding, p.1 = q.1 → p = q

theorem Distinct.none_outstanding (n : Nat) : ({ issued := n } : Calls α).Distinct := by
  constructor
  · intro p hp
    cases hp
  · intro p hp
    cases hp

theorem Distinct.issue {c : Calls α} (h : c.Distinct) (a : α) : (c.issue a).Distinct := by
  constructor
  · intro p hp
    rcases mem_issue.mp hp with hp | rfl
    · exact Nat.lt_succ_of_lt (h.issued p hp)
    · exact Nat.lt_succ_self c.issued
  · intro p hp q hq heq
    rcases mem_issue.mp hp with hp | rfl <;> rcases mem_issue.mp hq with hq | rfl
    · exact h.unique p hp q hq heq
    · exact absurd heq (Nat.ne_of_lt (h.issued p hp))
    · exact absurd heq.symm (Nat.ne_of_lt (h.issued q hq))
    · rfl

theorem Distinct.answered {c c' : Calls α} (h : c.Distinct) (hissued : c'.issued = c.issued)
    (hcalls : ∀ p ∈ c'.outstanding, p ∈ c.outstanding) : c'.Distinct := by
  constructor
  · intro p hp
    rw [hissued]
    exact h.issued p (hcalls p hp)
  · intro p hp q hq heq
    exact h.unique p (hcalls p hp) q (hcalls q hq) heq

/-- The only outstanding call with a number is the one found under it. -/
theorem Distinct.eq_of_find? {c : Calls α} (h : c.Distinct) {n : Nat} {a : α}
    (hfind : c.find? n = some a) {p : Nat × α} (hp : p ∈ c.outstanding) (hn : p.1 = n) :
    p = (n, a) :=
  h.unique p hp (n, a) (mem_of_find? hfind) hn

/-- The same for the list itself: no two entries have one number. -/
structure Numbered (c : Calls α) : Prop where
  issued : ∀ p ∈ c.outstanding, p.1 < c.issued
  nodup : (c.outstanding.map Prod.fst).Nodup

theorem Numbered.none_outstanding (n : Nat) : ({ issued := n } : Calls α).Numbered :=
  ⟨fun _ hp => absurd hp List.not_mem_nil, List.nodup_nil⟩

theorem Numbered.issue {c : Calls α} (h : c.Numbered) (a : α) : (c.issue a).Numbered := by
  constructor
  · intro p hp
    rcases mem_issue.mp hp with hp | rfl
    · exact Nat.lt_succ_of_lt (h.issued p hp)
    · exact Nat.lt_succ_self c.issued
  · have hfresh : c.issued ∉ c.outstanding.map Prod.fst := by
      intro hmem
      obtain ⟨p, hp, heq⟩ := List.mem_map.mp hmem
      exact Nat.ne_of_lt (h.issued p hp) heq
    rw [Calls.issue, List.map_append]
    exact h.nodup.append (List.nodup_singleton _) (List.disjoint_singleton.mpr hfresh)

/-- The entry that is found is the one that is filtered out. -/
theorem perm_cons_filter {l : List (Nat × α)} (h : (l.map Prod.fst).Nodup) {n : Nat}
    {p : Nat × α} (hfind : (l.find? fun q => q.1 == n) = some p) :
    l.Perm (p :: l.filter fun q => q.1 != n) := by
  induction l with
  | nil => cases hfind
  | cons q l ih =>
      rw [List.map_cons, List.nodup_cons] at h
      by_cases hq : q.1 = n
      · obtain rfl : q = p := by simpa [List.find?_cons, hq] using hfind
        have hrest : l.filter (fun r => r.1 != n) = l := by
          refine List.filter_eq_self.mpr ?_
          intro r hr
          have hne : r.1 ≠ q.1 := fun heq => h.1 (heq ▸ List.mem_map_of_mem hr)
          simpa [← hq] using hne
        rw [List.filter_cons_of_neg (by simp [hq]), hrest]
      · rw [List.find?_cons_of_neg (by simpa using hq)] at hfind
        rw [List.filter_cons_of_pos (by simpa using hq)]
        exact ((ih h.2 hfind).cons q).trans (List.Perm.swap p q _)

/-- Every outstanding call can be answered. -/
theorem Numbered.exists_answer {c : Calls α} (h : c.Numbered) {n : Nat} {a : α}
    (hmem : (n, a) ∈ c.outstanding) : ∃ c', c.answer n = some (a, c') := by
  obtain ⟨p, hfind⟩ : ∃ p, (c.outstanding.find? fun q => q.1 == n) = some p := by
    refine Option.isSome_iff_exists.mp (List.find?_isSome.mpr ⟨(n, a), hmem, ?_⟩)
    exact beq_self_eq_true n
  have hp : p = (n, a) := by
    have hn : p.1 = n := by simpa using List.find?_some hfind
    exact List.inj_on_of_nodup_map h.nodup (List.mem_of_find?_eq_some hfind) hmem hn
  refine ⟨{ c with outstanding := c.outstanding.filter fun q => q.1 != n }, ?_⟩
  rw [Calls.answer, Calls.find?, hfind, hp]
  rfl

/-- An answered call is one entry, and the others stay. -/
theorem Numbered.answer {c c' : Calls α} (h : c.Numbered) {n : Nat} {a : α}
    (hanswer : c.answer n = some (a, c')) :
    c.outstanding.Perm ((n, a) :: c'.outstanding) ∧ c'.Numbered := by
  obtain ⟨b, hfind, heq⟩ := Option.map_eq_some_iff.mp hanswer
  obtain ⟨rfl, rfl⟩ := Prod.mk.inj heq
  obtain ⟨⟨m, b'⟩, hfind', rfl⟩ := Option.map_eq_some_iff.mp hfind
  obtain rfl : m = n := by simpa using List.find?_some hfind'
  refine ⟨perm_cons_filter h.nodup hfind', ?_, ?_⟩
  · intro p hp
    exact h.issued p (List.mem_filter.mp hp).1
  · exact h.nodup.sublist (List.filter_sublist.map Prod.fst)

end Calls

end Spark.Lib
