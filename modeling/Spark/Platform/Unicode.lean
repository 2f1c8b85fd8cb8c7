/-
  Spark.Platform.Unicode

  The two lengths of a Swift `String`: `utf16`, the code units that
  `NSRegularExpression` and `NSRange` see, and `count`, the number of
  `Character`s, i.e. of extended grapheme clusters.

  The cluster boundaries are the rules of Unicode's text segmentation (GB1 to
  GB999); the two properties of scalars they look at are tables that come with
  the system and change with its Unicode version.  `UnicodeData` is any such
  table, with the entries of the scalars the app's patterns can match.
-/

import Mathlib.Data.List.Basic
import Spark.Platform.Foundation

namespace Spark

-- ============================================================================
-- Code units
-- ============================================================================

/-- The UTF-16 code units of a scalar: itself, or a pair of surrogates. -/
def utf16Units (c : Char) : List Nat :=
  if c.toNat < 0x10000 then [c.toNat]
  else [0xD800 + (c.toNat - 0x10000) / 0x400, 0xDC00 + (c.toNat - 0x10000) % 0x400]

/-- `utf16`. -/
def utf16 (s : String) : List Nat := s.toList.flatMap utf16Units

theorem utf16Units_of_unit_lt {c : Char} (h : ∀ u ∈ utf16Units c, u < 0xD800) :
    utf16Units c = [c.toNat] := by
  unfold utf16Units at h ⊢
  split
  · rfl
  · next hlarge =>
      rw [if_neg hlarge] at h
      have hfirst := h _ List.mem_cons_self
      omega

/-- A text without surrogates has one unit for each scalar. -/
theorem utf16_eq_map {s : String} (h : ∀ u ∈ utf16 s, u < 0xD800) :
    utf16 s = s.toList.map Char.toNat := by
  rw [List.map_eq_flatMap, utf16]
  apply List.flatMap_congr
  intro c hc
  apply utf16Units_of_unit_lt
  intro u hu
  exact h u (List.mem_flatMap.mpr ⟨c, hc, hu⟩)

theorem utf16_of_scalars {s : String} (h : ∀ c ∈ s.toList, c.toNat < 0x10000) :
    utf16 s = s.toList.map Char.toNat := by
  rw [List.map_eq_flatMap, utf16]
  apply List.flatMap_congr
  intro c hc
  exact if_pos (h c hc)

theorem utf16Units_ne_nil (c : Char) : utf16Units c ≠ [] := by
  unfold utf16Units
  split <;> simp

-- ============================================================================
-- Grapheme clusters
-- ============================================================================

/-- `Grapheme_Cluster_Break`, with `Extended_Pictographic` (whose scalars have
    no other value) in the same list. -/
inductive GraphemeBreak
  | cr
  | lf
  | control
  | extend
  | zwj
  | regionalIndicator
  | prepend
  | spacingMark
  | l
  | v
  | t
  | lv
  | lvt
  | extendedPictographic
  | other
  deriving DecidableEq, Repr

/-- `Indic_Conjunct_Break`. -/
inductive ConjunctBreak
  | consonant
  | linker
  | extend
  | none
  deriving DecidableEq, Repr

/-- A printable ASCII scalar, or one of the two others that fold to an ASCII
    letter: "ſ" (U+017F) and the Kelvin sign (U+212A). -/
def IsGraphic (u : Nat) : Prop := (0x20 ≤ u ∧ u < 0x7F) ∨ u = 0x17F ∨ u = 0x212A

/-- The tables of a Unicode version.  In every version the scalars of
    `IsGraphic` combine with nothing. -/
class UnicodeData where
  graphemeBreak : Char → GraphemeBreak
  conjunctBreak : Char → ConjunctBreak
  graphemeBreak_graphic : ∀ c : Char, IsGraphic c.toNat → graphemeBreak c = .other
  conjunctBreak_graphic : ∀ c : Char, IsGraphic c.toNat → conjunctBreak c = .none

section Clusters

variable [UnicodeData]

open UnicodeData

/-- GB11: the joiner comes after a pictograph and its extenders. -/
def joinsPictograph (before : List Char) : Bool :=
  match before.dropWhile fun c => graphemeBreak c == .extend with
  | c :: _ => graphemeBreak c == .extendedPictographic
  | [] => false

/-- GB9c: `c` continues a conjunct: before it are a consonant and then linkers
    and extenders, at least one linker among them. -/
def continuesConjunct (before : List Char) (c : Char) : Bool :=
  let joins := fun d => conjunctBreak d == .linker || conjunctBreak d == .extend
  conjunctBreak c == .consonant &&
    (before.takeWhile joins).any (fun d => conjunctBreak d == .linker) &&
    (before.dropWhile joins).head?.any fun d => conjunctBreak d == .consonant

/-- There is a cluster boundary between the scalars `before`, nearest first,
    and `c`. -/
def breaksBefore (before : List Char) (c : Char) : Bool :=
  match before with
  | [] => true
  | p :: rest =>
      match graphemeBreak p, graphemeBreak c with
      -- GB3 to GB5
      | .cr, .lf => false
      | .cr, _ => true
      | .lf, _ => true
      | .control, _ => true
      | _, .cr => true
      | _, .lf => true
      | _, .control => true
      -- GB6 to GB8
      | .l, .l => false
      | .l, .v => false
      | .l, .lv => false
      | .l, .lvt => false
      | .lv, .v => false
      | .lv, .t => false
      | .v, .v => false
      | .v, .t => false
      | .lvt, .t => false
      | .t, .t => false
      -- GB9 to GB9b
      | _, .extend => false
      | _, .zwj => false
      | _, .spacingMark => false
      | .prepend, _ => false
      -- GB11
      | .zwj, .extendedPictographic => !joinsPictograph rest
      -- GB12 and GB13: flags are pairs
      | .regionalIndicator, .regionalIndicator =>
          (before.takeWhile fun d => graphemeBreak d == .regionalIndicator).length % 2 == 0
      -- GB9c and GB999
      | _, _ => !continuesConjunct before c

/-- The boundaries in front of the scalars of a text, after those of `before`. -/
def boundaries : List Char → List Char → Nat
  | _, [] => 0
  | before, c :: cs => (if breaksBefore before c then 1 else 0) + boundaries (c :: before) cs

/-- `count`: the number of `Character`s. -/
def count (s : String) : Nat := boundaries [] s.toList

theorem boundaries_le_length_flatMap (before cs : List Char) :
    boundaries before cs ≤ (cs.flatMap utf16Units).length := by
  induction cs generalizing before with
  | nil => exact Nat.zero_le _
  | cons c cs ih =>
      have hrest := ih (c :: before)
      have hunits : 1 ≤ (utf16Units c).length :=
        List.length_pos_iff.mpr (utf16Units_ne_nil c)
      rw [boundaries, List.flatMap_cons, List.length_append]
      split <;> omega

/-- The range `NSRange(location: 0, length: count)` is inside the text. -/
theorem count_le_length_utf16 (s : String) : count s ≤ (utf16 s).length :=
  boundaries_le_length_flatMap [] s.toList

/-- Two scalars of `IsGraphic` are two clusters. -/
theorem breaksBefore_graphic {before : List Char} {c : Char}
    (hbefore : ∀ d ∈ before, IsGraphic d.toNat) (hc : IsGraphic c.toNat) :
    breaksBefore before c = true := by
  cases before with
  | nil => rfl
  | cons p rest =>
      have hp := graphemeBreak_graphic p (hbefore p List.mem_cons_self)
      have hnone := conjunctBreak_graphic c hc
      simp [breaksBefore, hp, graphemeBreak_graphic c hc, continuesConjunct, hnone]

theorem boundaries_graphic {before cs : List Char} (hbefore : ∀ d ∈ before, IsGraphic d.toNat)
    (hcs : ∀ c ∈ cs, IsGraphic c.toNat) : boundaries before cs = cs.length := by
  induction cs generalizing before with
  | nil => rfl
  | cons c cs ih =>
      obtain ⟨hc, hcs⟩ := List.forall_mem_cons.mp hcs
      have hrest := ih (List.forall_mem_cons.mpr ⟨hc, hbefore⟩) hcs
      rw [boundaries, hrest, breaksBefore_graphic hbefore hc, if_pos rfl, List.length_cons,
        Nat.add_comm]

/-- A text of such scalars has as many `Character`s as code units. -/
theorem count_graphic {s : String} (h : ∀ c ∈ s.toList, IsGraphic c.toNat) :
    count s = (utf16 s).length := by
  have hscalars : ∀ c ∈ s.toList, c.toNat < 0x10000 := by
    intro c hc
    have hgraphic := h c hc
    unfold IsGraphic at hgraphic
    omega
  rw [count, boundaries_graphic (by simp) h, utf16_of_scalars hscalars, List.length_map]

end Clusters

-- ============================================================================
-- A table
-- ============================================================================

/-- The entries of Latin text, combining accents, flags and some pictographs. -/
def someGraphemeBreak (c : Char) : GraphemeBreak :=
  let n := c.toNat
  if n = 0x0D then .cr
  else if n = 0x0A then .lf
  else if n < 0x20 ∨ (0x7F ≤ n ∧ n < 0xA0) then .control
  else if 0x300 ≤ n ∧ n < 0x370 ∨ n = 0xFE0F then .extend
  else if n = 0x200D then .zwj
  else if 0x1F1E6 ≤ n ∧ n ≤ 0x1F1FF then .regionalIndicator
  else if 0x1F400 ≤ n ∧ n ≤ 0x1F64F then .extendedPictographic
  else .other

/-- A table that is right for the texts of the runs that are evaluated. -/
instance someUnicodeData : UnicodeData where
  graphemeBreak := someGraphemeBreak
  conjunctBreak _ := .none
  graphemeBreak_graphic c h := by
    unfold IsGraphic at h
    simp only [someGraphemeBreak]
    rw [if_neg (by omega), if_neg (by omega), if_neg (by omega), if_neg (by omega),
      if_neg (by omega), if_neg (by omega), if_neg (by omega)]
  conjunctBreak_graphic _ _ := rfl

/-- A flag, a family joined to one picture, and an accented letter. -/
example : count "🇮🇳👨‍👩‍👧e\u0301\r\n" = 4 ∧ (utf16 "🇮🇳👨‍👩‍👧e\u0301\r\n").length = 16 := by
  decide

end Spark
