/-
  Spark.Lib.ArgMin

  Scanning a list for the entry with the smallest key, the way a loop does that
  keeps the best candidate so far: `xs.foldl (keepSmaller key) init`.

  The rules say that the result is the initial candidate or an entry
  (`foldl_keepSmaller_mem`), that no entry and not the initial candidate has a
  smaller key (`key_foldl_keepSmaller_le`, `key_foldl_keepSmaller_le_init`), and
  that an entry which beats the initial candidate makes the result an entry
  (`foldl_keepSmaller_mem_of_lt`).
-/

import Mathlib.Order.Lattice

namespace Spark.Lib

variable {α β : Type*} [LinearOrder β] {x : α} {xs : List α}

/-- The better of two candidates; a tie keeps the one in hand. -/
def keepSmaller (key : α → β) (best x : α) : α := if key x < key best then x else best

theorem key_keepSmaller (key : α → β) (best x : α) :
    key (keepSmaller key best x) = min (key best) (key x) := by
  unfold keepSmaller
  split
  case isTrue h => exact (min_eq_right h.le).symm
  case isFalse h => exact (min_eq_left (not_lt.mp h)).symm

theorem foldl_keepSmaller_mem (key : α → β) (init : α) (xs : List α) :
    xs.foldl (keepSmaller key) init = init ∨ xs.foldl (keepSmaller key) init ∈ xs := by
  induction xs generalizing init with
  | nil => exact Or.inl rfl
  | cons x xs ih =>
      rw [List.foldl_cons]
      rcases ih (keepSmaller key init x) with hkept | hmem
      · rw [hkept]
        unfold keepSmaller
        split
        · exact Or.inr List.mem_cons_self
        · exact Or.inl rfl
      · exact Or.inr (List.mem_cons_of_mem x hmem)

theorem key_foldl_keepSmaller_le_init (key : α → β) (init : α) (xs : List α) :
    key (xs.foldl (keepSmaller key) init) ≤ key init := by
  induction xs generalizing init with
  | nil => exact le_rfl
  | cons x xs ih =>
      have hkept : key (keepSmaller key init x) ≤ key init := by
        rw [key_keepSmaller key init x]
        exact min_le_left (key init) (key x)
      exact (ih (keepSmaller key init x)).trans hkept

theorem key_foldl_keepSmaller_le (key : α → β) (init : α) (hx : x ∈ xs) :
    key (xs.foldl (keepSmaller key) init) ≤ key x := by
  induction xs generalizing init with
  | nil => cases hx
  | cons y ys ih =>
      rw [List.foldl_cons]
      rcases List.mem_cons.mp hx with rfl | htail
      · have hkept : key (keepSmaller key init x) ≤ key x := by
          rw [key_keepSmaller key init x]
          exact min_le_right (key init) (key x)
        exact (key_foldl_keepSmaller_le_init key (keepSmaller key init x) ys).trans hkept
      · exact ih (keepSmaller key init y) htail

/-- An entry with a smaller key than the initial candidate displaces it. -/
theorem foldl_keepSmaller_mem_of_lt {key : α → β} {init : α} (hx : x ∈ xs)
    (hlt : key x < key init) :
    xs.foldl (keepSmaller key) init ∈ xs := by
  rcases foldl_keepSmaller_mem key init xs with hkept | hmem
  · have hle : key init ≤ key x := hkept ▸ key_foldl_keepSmaller_le key init hx
    exact absurd hlt (not_lt.mpr hle)
  · exact hmem

end Spark.Lib
