/-
  Spark.Lib.Pattern

  Regular expressions that are sequences of quantified character classes and
  zero-width tests, and the backtracking matcher that runs them.

  A greedy item tries its longest run first and gives back one element at a
  time; a possessive item gives nothing back.  `matchAt_cons_isSome` says what
  one item may take from the text, and every result about a pattern follows
  from it item by item.  Without possessive items and tests the order of the
  attempts does not matter: the matcher succeeds on exactly the words of the
  pattern's language (`matchAt_isSome_iff`), and a search succeeds exactly on
  the texts that contain one (`firstMatch_isSome_iff`).
-/

import Mathlib.Computability.Language

namespace Spark.Lib

variable {α : Type*}

-- ============================================================================
-- Patterns
-- ============================================================================

/-- One item of a pattern. -/
inductive Item (α : Type*)
  /-- Between `min` and `max` elements of the class; `none` is no bound. -/
  | rep (cls : α → Bool) (min : Nat) (max : Option Nat) (possessive : Bool)
  /-- A test of the position and of the text from there on. -/
  | test (holds : Nat → List α → Bool)

/-- Exactly one element of the class. -/
abbrev Item.one (cls : α → Bool) : Item α := .rep cls 1 (some 1) false

abbrev Pattern (α : Type*) := List (Item α)

/-- The elements at the front of `s` that are in the class, `max` at most. -/
def runLength (cls : α → Bool) (max : Option Nat) (s : List α) : Nat :=
  match max with
  | none => (s.takeWhile cls).length
  | some m => min m (s.takeWhile cls).length

/-- The numbers of elements an item may take, in the order they are tried. -/
def attempts (cls : α → Bool) (min : Nat) (max : Option Nat) (possessive : Bool) (s : List α) :
    List Nat :=
  let longest := runLength cls max s
  if possessive then if min ≤ longest then [longest] else []
  else (List.range' min (longest + 1 - min)).reverse

namespace Pattern

/-- Match a pattern at position `pos`, where the text goes on with `s`, and
    stop where `accept` allows it: the end of the first match found. -/
def matchAt (accept : List α → Bool) : Pattern α → Nat → List α → Option Nat
  | [], pos, s => if accept s then some pos else none
  | .test holds :: items, pos, s => if holds pos s then matchAt accept items pos s else none
  | .rep cls min max possessive :: items, pos, s =>
      (attempts cls min max possessive s).findSome? fun n =>
        matchAt accept items (pos + n) (s.drop n)

/-- The leftmost match in a text: its location and its length. -/
def firstMatch (p : Pattern α) (s : List α) : Option (Nat × Nat) :=
  (List.range (s.length + 1)).findSome? fun pos =>
    (p.matchAt (fun _ => true) pos (s.drop pos)).map fun stop => (pos, stop - pos)

/-- The pattern matches the whole text. -/
def matchesWhole (p : Pattern α) (s : List α) : Bool :=
  (p.matchAt List.isEmpty 0 s).isSome

end Pattern

-- ============================================================================
-- What one item may take
-- ============================================================================

/-- A word of `min` to `max` elements of the class. -/
def Repeats (cls : α → Bool) (min : Nat) (max : Option Nat) (u : List α) : Prop :=
  (∀ x ∈ u, cls x = true) ∧ min ≤ u.length ∧ ∀ m ∈ max, u.length ≤ m

/-- The run `u` cannot be made longer when `v` follows. -/
def Exhausts (cls : α → Bool) (max : Option Nat) (u v : List α) : Prop :=
  max = some u.length ∨ ∀ x ∈ v.head?, cls x = false

/-- At `pos` the item may take `u` from a text that goes on with `v`. -/
def Item.Takes (pos : Nat) (u v : List α) : Item α → Prop
  | .rep cls min max possessive =>
      Repeats cls min max u ∧ (possessive = true → Exhausts cls max u v)
  | .test holds => u = [] ∧ holds pos v = true

theorem le_length_takeWhile_iff {cls : α → Bool} {s : List α} {n : Nat} :
    n ≤ (s.takeWhile cls).length ↔ n ≤ s.length ∧ ∀ x ∈ s.take n, cls x = true := by
  induction s generalizing n with
  | nil => simp
  | cons a s ih =>
      cases n with
      | zero => simp
      | succ n =>
          by_cases ha : cls a = true
          · simp [ha, ih]
          · simp [ha]

theorem le_runLength_iff {cls : α → Bool} {max : Option Nat} {s : List α} {n : Nat} :
    n ≤ runLength cls max s ↔
      n ≤ s.length ∧ (∀ x ∈ s.take n, cls x = true) ∧ ∀ m ∈ max, n ≤ m := by
  cases max with
  | none => simp [runLength, le_length_takeWhile_iff]
  | some m =>
      simp only [runLength, Nat.le_min, le_length_takeWhile_iff, Option.mem_def, Option.some.injEq,
        forall_eq']
      tauto

/-- Greedy: any length between the least one and the longest run. -/
theorem mem_attempts_greedy {cls : α → Bool} {min : Nat} {max : Option Nat} {s : List α}
    {n : Nat} : n ∈ attempts cls min max false s ↔ min ≤ n ∧ n ≤ runLength cls max s := by
  simp only [attempts, Bool.false_eq_true, if_false, List.mem_reverse, List.mem_range'_1]
  omega

/-- Possessive: the longest run, if it is long enough. -/
theorem mem_attempts_possessive {cls : α → Bool} {min : Nat} {max : Option Nat} {s : List α}
    {n : Nat} : n ∈ attempts cls min max true s ↔ min ≤ n ∧ n = runLength cls max s := by
  simp only [attempts, if_true]
  split
  · next h =>
      simp only [List.mem_singleton]
      omega
  · next h =>
      simp only [List.not_mem_nil, false_iff]
      omega

/-- A run is as long as it can be exactly when it exhausts what follows. -/
theorem length_eq_runLength_iff {cls : α → Bool} {max : Option Nat} {u v : List α}
    (hcls : ∀ x ∈ u, cls x = true) (hmax : ∀ m ∈ max, u.length ≤ m) :
    u.length = runLength cls max (u ++ v) ↔ Exhausts cls max u v := by
  have hle : u.length ≤ runLength cls max (u ++ v) := by
    rw [le_runLength_iff]
    refine ⟨by simp, ?_, hmax⟩
    rw [List.take_left]
    exact hcls
  have hnext : u.length + 1 ≤ runLength cls max (u ++ v) ↔ ¬ Exhausts cls max u v := by
    rw [le_runLength_iff, Exhausts]
    cases v with
    | nil => simp
    | cons a v =>
        have htake : (u ++ a :: v).take (u.length + 1) = u ++ [a] := by
          rw [List.take_append, List.take_of_length_le (Nat.le_succ _)]
          simp
        have hfits : (∀ m ∈ max, u.length + 1 ≤ m) ↔ max ≠ some u.length := by
          constructor
          · intro hm hnot
            have := hm u.length hnot
            omega
          · intro hne m hm
            have hbound := hmax m hm
            have hm' : m ≠ u.length := fun heq => hne (heq ▸ hm)
            omega
        have hlen : u.length + 1 ≤ (u ++ a :: v).length := by
          rw [List.length_append, List.length_cons]
          omega
        have hmore : (∀ x ∈ u ++ [a], cls x = true) ↔ cls a = true := by
          rw [List.forall_mem_append, List.forall_mem_singleton]
          exact and_iff_right hcls
        simp only [htake, hfits, hlen, hmore, List.head?_cons, Option.mem_some_iff, forall_eq',
          true_and]
        cases cls a <;> simp
  constructor
  · intro heq
    by_contra hnot
    have := hnext.mpr hnot
    omega
  · intro hex
    have hnot : ¬ u.length + 1 ≤ runLength cls max (u ++ v) := fun h => hnext.mp h hex
    omega

/-- The lengths between the least one and the longest run are those of the fronts
    of the text that repeat the class. -/
theorem le_runLength_iff_repeats {cls : α → Bool} {min : Nat} {max : Option Nat} {s : List α}
    {n : Nat} : min ≤ n ∧ n ≤ runLength cls max s ↔
      ∃ u v, s = u ++ v ∧ n = u.length ∧ Repeats cls min max u := by
  rw [le_runLength_iff]
  constructor
  · rintro ⟨hmin, hlen, hcls, hmax⟩
    have htake : n = (s.take n).length := by rw [List.length_take, Nat.min_eq_left hlen]
    refine ⟨s.take n, s.drop n, (List.take_append_drop n s).symm, htake, hcls, ?_, ?_⟩
    · rw [← htake]
      exact hmin
    · rw [← htake]
      exact hmax
  · rintro ⟨u, v, rfl, rfl, hcls, hmin, hmax⟩
    refine ⟨hmin, by simp, ?_, hmax⟩
    rw [List.take_left]
    exact hcls

/-- A number that is tried splits the text into what is taken and the rest. -/
theorem mem_attempts_iff {cls : α → Bool} {min : Nat} {max : Option Nat} {possessive : Bool}
    {s : List α} {n : Nat} (pos : Nat) : n ∈ attempts cls min max possessive s ↔
      ∃ u v, s = u ++ v ∧ n = u.length ∧
        Item.Takes pos u v (.rep cls min max possessive) := by
  cases possessive with
  | false =>
      rw [mem_attempts_greedy, le_runLength_iff_repeats]
      simp [Item.Takes]
  | true =>
      rw [mem_attempts_possessive]
      constructor
      · rintro ⟨hmin, heq⟩
        obtain ⟨u, v, rfl, rfl, hrep⟩ := le_runLength_iff_repeats.mp ⟨hmin, heq.le⟩
        refine ⟨u, v, rfl, rfl, hrep, ?_⟩
        intro _
        exact (length_eq_runLength_iff hrep.1 hrep.2.2).mp heq
      · rintro ⟨u, v, rfl, rfl, hrep, hex⟩
        exact ⟨hrep.2.1, (length_eq_runLength_iff hrep.1 hrep.2.2).mpr (hex rfl)⟩

namespace Pattern

variable {accept : List α → Bool} {items : Pattern α} {pos : Nat} {s : List α}

theorem matchAt_nil_isSome :
    (matchAt accept [] pos s).isSome = true ↔ accept s = true := by
  unfold matchAt
  split <;> simp [*]

/-- **One item.**  A match takes some front of the text with the first item and
    goes on with the rest of the pattern behind it. -/
theorem matchAt_cons_isSome {item : Item α} :
    (matchAt accept (item :: items) pos s).isSome = true ↔
      ∃ u v, s = u ++ v ∧ item.Takes pos u v ∧
        (matchAt accept items (pos + u.length) v).isSome = true := by
  cases item with
  | test holds =>
      have hcond : (matchAt accept (.test holds :: items) pos s).isSome = true ↔
          holds pos s = true ∧ (matchAt accept items pos s).isSome = true := by
        rw [matchAt]
        split <;> simp [*]
      rw [hcond]
      constructor
      · rintro ⟨hholds, hrest⟩
        exact ⟨[], s, rfl, ⟨rfl, hholds⟩, hrest⟩
      · rintro ⟨u, v, rfl, ⟨rfl, hholds⟩, hrest⟩
        exact ⟨hholds, hrest⟩
  | rep cls min max possessive =>
      have hcond : (matchAt accept (.rep cls min max possessive :: items) pos s).isSome = true ↔
          ∃ n ∈ attempts cls min max possessive s,
            (matchAt accept items (pos + n) (s.drop n)).isSome = true := by
        rw [matchAt, List.findSome?_isSome_iff]
      rw [hcond]
      constructor
      · rintro ⟨n, hn, hrest⟩
        obtain ⟨u, v, rfl, rfl, htakes⟩ := (mem_attempts_iff pos).mp hn
        rw [List.drop_left] at hrest
        exact ⟨u, v, rfl, htakes, hrest⟩
      · rintro ⟨u, v, rfl, htakes, hrest⟩
        refine ⟨u.length, (mem_attempts_iff pos).mpr ⟨u, v, rfl, rfl, htakes⟩, ?_⟩
        rw [List.drop_left]
        exact hrest

-- ============================================================================
-- The language of a greedy pattern
-- ============================================================================

end Pattern

/-- The words an item takes, whatever surrounds them. -/
def Item.language : Item α → Language α
  | .rep cls min max _ => {u | Repeats cls min max u}
  | .test _ => 1

/-- The item neither looks around nor refuses to give back. -/
def Item.Plain : Item α → Prop
  | .rep _ _ _ possessive => possessive = false
  | .test _ => False

theorem Item.takes_iff_mem_language {item : Item α} (h : item.Plain) {pos : Nat} {u v : List α} :
    item.Takes pos u v ↔ u ∈ item.language := by
  cases item with
  | rep cls min max possessive =>
      obtain rfl : possessive = false := h
      exact and_iff_left nofun
  | test holds => exact h.elim

namespace Pattern

/-- The words a pattern matches. -/
def language (p : Pattern α) : Language α := (p.map Item.language).prod

theorem language_cons (item : Item α) (p : Pattern α) :
    language (item :: p) = item.language * language p := by
  rw [language, List.map_cons, List.prod_cons, language]

variable {accept : List α → Bool} {p : Pattern α} {s : List α}

/-- **Backtracking is complete.**  A greedy pattern matches a text at a
    position exactly when the text begins with a word of its language. -/
theorem matchAt_isSome_iff (hplain : ∀ item ∈ p, item.Plain) {pos : Nat} :
    (p.matchAt accept pos s).isSome = true ↔
      ∃ u ∈ p.language, ∃ v, s = u ++ v ∧ accept v = true := by
  induction p generalizing pos s with
  | nil =>
      rw [matchAt_nil_isSome]
      constructor
      · intro h
        exact ⟨[], rfl, s, rfl, h⟩
      · rintro ⟨u, hu, v, rfl, h⟩
        obtain rfl : u = [] := hu
        exact h
  | cons item p ih =>
      have hrest : ∀ {pos : Nat} {v : List α}, (matchAt accept p pos v).isSome = true ↔
          ∃ u ∈ language p, ∃ w, v = u ++ w ∧ accept w = true :=
        ih fun i hi => hplain i (List.mem_cons_of_mem item hi)
      have hitem := hplain item List.mem_cons_self
      simp only [matchAt_cons_isSome, hrest, language_cons, Language.mem_mul,
        Item.takes_iff_mem_language hitem]
      constructor
      · rintro ⟨u, w, rfl, hu, u', hu', v, rfl, hv⟩
        exact ⟨u ++ u', ⟨u, hu, u', hu', rfl⟩, v, by rw [List.append_assoc], hv⟩
      · rintro ⟨-, ⟨u, hu, u', hu', rfl⟩, v, rfl, hv⟩
        exact ⟨u, u' ++ v, by rw [List.append_assoc], hu, u', hu', v, rfl, hv⟩

/-- A search succeeds exactly when the text contains a word of the language. -/
theorem firstMatch_isSome_iff (hplain : ∀ item ∈ p, item.Plain) :
    (p.firstMatch s).isSome = true ↔ ∃ a, ∃ u ∈ p.language, ∃ b, s = a ++ u ++ b := by
  simp only [firstMatch, List.findSome?_isSome_iff, List.mem_range, Option.isSome_map,
    matchAt_isSome_iff hplain, and_true]
  constructor
  · rintro ⟨pos, -, u, hu, v, hdrop⟩
    refine ⟨s.take pos, u, hu, v, ?_⟩
    rw [List.append_assoc, ← hdrop, List.take_append_drop]
  · rintro ⟨a, u, hu, b, rfl⟩
    refine ⟨a.length, ?_, u, hu, b, ?_⟩
    · simp only [List.length_append]
      omega
    · rw [List.append_assoc, List.drop_left]

end Pattern

end Spark.Lib
