/-
  Spark.Validations

  The two text checks: `String.isValidEmail`, an `NSRegularExpression` search,
  and `Validations.isValidPhone`, an `NSPredicate` MATCHES.

  `isValidEmail` searches the first `count` UTF-16 units for a match instead of
  matching the whole text, so it accepts every text with an address somewhere
  in that range (`isValidEmail_iff`).  In the phone pattern the optional sign
  may also be a digit, and the `+` behind it makes it possessive: the first
  digit is always taken by it, so a number without a sign needs one digit more
  and may have one digit more than a number with a sign (`isValidPhone_iff`).
-/

import Mathlib.Tactic.Tauto
import Spark.Lib.Pattern
import Spark.Platform.Unicode

namespace Spark

open Spark.Lib

-- ============================================================================
-- Character classes
-- ============================================================================

/-- The class `[lo-hi]` of code units. -/
def inRange (lo hi : Char) (u : Nat) : Bool := lo.toNat ≤ u && u ≤ hi.toNat

/-- The class of the characters listed. -/
def oneOf (cs : List Char) (u : Nat) : Bool := cs.any fun c => c.toNat == u

/-- Simple case folding, where it leads to an ASCII letter. -/
def simpleCaseFold (u : Nat) : Nat :=
  if inRange 'A' 'Z' u then u + 0x20
  else if u = 0x17F then 's'.toNat
  else if u = 0x212A then 'k'.toNat
  else u

/-- `.caseInsensitive`: a class of ASCII characters, with every character that
    folds to the same as one of them. -/
def caseInsensitive (cls : Nat → Bool) (u : Nat) : Bool :=
  let folded := simpleCaseFold u
  cls u || cls folded || (inRange 'a' 'z' folded && cls (folded - 0x20))

/-- `[A-Za-z]`. -/
def letterClass (u : Nat) : Bool := inRange 'A' 'Z' u || inRange 'a' 'z' u

/-- `[A-Z0-9a-z._%+-]`. -/
def localClass (u : Nat) : Bool :=
  inRange 'A' 'Z' u || inRange '0' '9' u || inRange 'a' 'z' u || oneOf ['.', '_', '%', '+', '-'] u

/-- `[A-Za-z0-9.-]`. -/
def domainClass (u : Nat) : Bool :=
  inRange 'A' 'Z' u || inRange 'a' 'z' u || inRange '0' '9' u || oneOf ['.', '-'] u

-- ============================================================================
-- E-mail
-- ============================================================================

/-- `[A-Z0-9a-z._%+-]+@[A-Za-z0-9.-]+\.[A-Za-z]{2,64}`, `.caseInsensitive`. -/
def emailPattern : Pattern Nat :=
  [.rep (caseInsensitive localClass) 1 none false, .one (oneOf ['@']),
   .rep (caseInsensitive domainClass) 1 none false, .one (oneOf ['.']),
   .rep (caseInsensitive letterClass) 2 (some 64) false]

/-- `firstMatch(in:options:range:)`. -/
def firstMatch (regex : Pattern Nat) (s : String) (range : NSRange) : Option NSRange :=
  (regex.firstMatch (((utf16 s).drop range.location).take range.length)).map fun found =>
    ⟨range.location + found.1, found.2⟩

def isValidEmail [UnicodeData] (s : String) : Bool :=
  firstMatch emailPattern s ⟨0, count s⟩ ≠ none

-- ============================================================================
-- What the e-mail check accepts
-- ============================================================================

/-- `local@domain.tld`, the letters compared without case. -/
def IsAddress (us : List Nat) : Prop :=
  ∃ localPart domain tld, us = localPart ++ '@'.toNat :: domain ++ '.'.toNat :: tld ∧
    (localPart ≠ [] ∧ ∀ u ∈ localPart, caseInsensitive localClass u = true) ∧
    (domain ≠ [] ∧ ∀ u ∈ domain, caseInsensitive domainClass u = true) ∧
    (2 ≤ tld.length ∧ tld.length ≤ 64) ∧ ∀ u ∈ tld, caseInsensitive letterClass u = true

/-- Somewhere in the text a local-part character and "@" are followed by domain
    characters, at least one, a dot and two letters. -/
def HoldsAddress (us : List Nat) : Prop :=
  ∃ before l domain x y after,
    us = before ++ l :: '@'.toNat :: domain ++ '.'.toNat :: x :: y :: after ∧
    caseInsensitive localClass l = true ∧
    (domain ≠ [] ∧ ∀ u ∈ domain, caseInsensitive domainClass u = true) ∧
    caseInsensitive letterClass x = true ∧ caseInsensitive letterClass y = true

theorem mem_language_one {cls : Nat → Bool} {u : List Nat} :
    u ∈ (Item.one cls).language ↔ ∃ x, u = [x] ∧ cls x = true := by
  constructor
  · rintro ⟨hcls, hmin, hmax⟩
    have hlen : u.length = 1 := Nat.le_antisymm (hmax 1 rfl) hmin
    obtain ⟨x, rfl⟩ := List.length_eq_one_iff.mp hlen
    exact ⟨x, rfl, hcls x List.mem_cons_self⟩
  · rintro ⟨x, rfl, hx⟩
    exact ⟨by simpa using hx, le_refl 1, by simp⟩

theorem oneOf_singleton {c : Char} {u : Nat} : oneOf [c] u = true ↔ u = c.toNat := by
  simp only [oneOf, List.any_cons, List.any_nil, Bool.or_false, beq_iff_eq]
  exact eq_comm

theorem mem_language_plus {cls : Nat → Bool} {u : List Nat} :
    u ∈ (Item.rep cls 1 none false).language ↔ u ≠ [] ∧ ∀ x ∈ u, cls x = true := by
  constructor
  · rintro ⟨hcls, hmin, -⟩
    exact ⟨List.length_pos_iff.mp hmin, hcls⟩
  · rintro ⟨hne, hcls⟩
    exact ⟨hcls, List.length_pos_iff.mpr hne, nofun⟩

/-- The words of the pattern are the addresses. -/
theorem mem_language_emailPattern {us : List Nat} :
    us ∈ emailPattern.language ↔ IsAddress us := by
  simp only [emailPattern, Pattern.language_cons, Language.mem_mul, mem_language_plus,
    mem_language_one, oneOf_singleton]
  constructor
  · rintro ⟨localPart, hlocal, -, ⟨-, ⟨-, rfl, rfl⟩, -, ⟨domain, hdomain, -, ⟨-, ⟨-, rfl, rfl⟩, -,
      ⟨tld, ⟨hcls, hmin, hmax⟩, rest, hrest, rfl⟩, rfl⟩, rfl⟩, rfl⟩, rfl⟩
    obtain rfl : rest = [] := hrest
    refine ⟨localPart, domain, tld, by simp, hlocal, hdomain, ⟨hmin, hmax 64 rfl⟩, hcls⟩
  · rintro ⟨localPart, domain, tld, rfl, hlocal, hdomain, ⟨hmin, hmax⟩, hcls⟩
    refine ⟨localPart, hlocal, _, ⟨_, ⟨_, rfl, rfl⟩, _, ⟨domain, hdomain, _, ⟨_, ⟨_, rfl, rfl⟩, _,
      ⟨tld, ⟨hcls, hmin, by simpa using hmax⟩, [], rfl, rfl⟩, rfl⟩, rfl⟩, rfl⟩, by simp⟩

theorem emailPattern_plain : ∀ item ∈ emailPattern, item.Plain := by
  simp [emailPattern, Item.Plain]

/-- A text contains an address exactly when it contains the end of a local
    part, a domain and the beginning of a top-level domain. -/
theorem exists_address_iff {us : List Nat} :
    (∃ a, ∃ u, IsAddress u ∧ ∃ b, us = a ++ u ++ b) ↔ HoldsAddress us := by
  constructor
  · rintro ⟨a, -, ⟨localPart, domain, tld, rfl, ⟨hne, hlocal⟩, hdomain, ⟨hmin, -⟩, htld⟩, b, rfl⟩
    obtain ⟨front, l, rfl⟩ := (List.eq_nil_or_concat localPart).resolve_left hne
    obtain ⟨x, y, rest, rfl⟩ : ∃ x y rest, tld = x :: y :: rest := by
      match tld, hmin with
      | x :: y :: rest, _ => exact ⟨x, y, rest, rfl⟩
    refine ⟨a ++ front, l, domain, x, y, rest ++ b, by simp, hlocal l (by simp), hdomain,
      htld x (by simp), htld y (by simp)⟩
  · rintro ⟨before, l, domain, x, y, after, rfl, hl, hdomain, hx, hy⟩
    refine ⟨before, l :: '@'.toNat :: domain ++ '.'.toNat :: [x, y], ?_, after, by simp⟩
    exact ⟨[l], domain, [x, y], rfl, ⟨by simp, by simpa using hl⟩, hdomain, by simp,
      by simpa using ⟨hx, hy⟩⟩

theorem HoldsAddress.of_address {us : List Nat} (h : IsAddress us) : HoldsAddress us :=
  exists_address_iff.mp ⟨[], us, h, [], by simp⟩

/-- What matches a class of printable ASCII without case combines with nothing. -/
theorem isGraphic_of_caseInsensitive {cls : Nat → Bool} {u : Nat}
    (hcls : ∀ v, cls v = true → 0x20 ≤ v ∧ v < 0x7F) (h : caseInsensitive cls u = true) :
    IsGraphic u := by
  have hfolded : 0x20 ≤ simpleCaseFold u ∧ simpleCaseFold u < 0x7F → IsGraphic u := by
    unfold simpleCaseFold IsGraphic
    split
    · next hupper =>
        simp only [inRange, Bool.and_eq_true, decide_eq_true_eq, Char.reduceToNat] at hupper
        omega
    · split
      · omega
      · split <;> omega
  simp only [caseInsensitive, Bool.or_eq_true, Bool.and_eq_true] at h
  rcases h with (h | h) | ⟨h, -⟩
  · exact .inl (hcls u h)
  · exact hfolded (hcls _ h)
  · simp only [inRange, Bool.and_eq_true, decide_eq_true_eq, Char.reduceToNat] at h
    exact hfolded ⟨by omega, by omega⟩

theorem graphic_localClass (v : Nat) (h : localClass v = true) : 0x20 ≤ v ∧ v < 0x7F := by
  simp [localClass, inRange, oneOf] at h
  omega

theorem graphic_domainClass (v : Nat) (h : domainClass v = true) : 0x20 ≤ v ∧ v < 0x7F := by
  simp [domainClass, inRange, oneOf] at h
  omega

theorem graphic_letterClass (v : Nat) (h : letterClass v = true) : 0x20 ≤ v ∧ v < 0x7F := by
  simp [letterClass, inRange] at h
  omega

theorem IsAddress.isGraphic {us : List Nat} (h : IsAddress us) : ∀ u ∈ us, IsGraphic u := by
  obtain ⟨localPart, domain, tld, rfl, ⟨-, hlocal⟩, ⟨-, hdomain⟩, -, htld⟩ := h
  intro u hu
  simp only [List.mem_append, List.mem_cons] at hu
  rcases hu with (hu | rfl | hu) | rfl | hu
  · exact isGraphic_of_caseInsensitive graphic_localClass (hlocal u hu)
  · exact .inl (by decide)
  · exact isGraphic_of_caseInsensitive graphic_domainClass (hdomain u hu)
  · exact .inl (by decide)
  · exact isGraphic_of_caseInsensitive graphic_letterClass (htld u hu)

/-- An address has as many `Character`s as code units. -/
theorem count_of_address [UnicodeData] {s : String} (h : IsAddress (utf16 s)) :
    count s = (utf16 s).length := by
  have hunits : ∀ u ∈ utf16 s, u < 0xD800 := by
    intro u hu
    have hgraphic := h.isGraphic u hu
    unfold IsGraphic at hgraphic
    omega
  apply count_graphic
  intro c hc
  apply h.isGraphic
  rw [utf16_eq_map hunits]
  exact List.mem_map_of_mem hc

/-- **What the search accepts.**  A text passes exactly when its first `count`
    code units contain an address. -/
theorem isValidEmail_iff [UnicodeData] {s : String} :
    isValidEmail s = true ↔ HoldsAddress ((utf16 s).take (count s)) := by
  have hfound : isValidEmail s = true ↔
      (emailPattern.firstMatch ((utf16 s).take (count s))).isSome = true := by
    rw [isValidEmail, decide_eq_true_iff, ← Option.isSome_iff_ne_none, firstMatch,
      Option.isSome_map, List.drop_zero]
  rw [hfound, Pattern.firstMatch_isSome_iff emailPattern_plain]
  simp only [mem_language_emailPattern, exists_address_iff]

/-- An empty text holds no address. -/
theorem isValidEmail_empty [UnicodeData] : isValidEmail "" = false := by
  rw [Bool.eq_false_iff, Ne, isValidEmail_iff]
  rintro ⟨before, l, domain, x, y, after, htext, -⟩
  simp [utf16] at htext

/-- **When the check is exact.**  For every text: it passes exactly when it is
    an address as a whole, if and only if it is one or holds none in its first
    `count` code units. -/
theorem isValidEmail_exact_iff [UnicodeData] (s : String) :
    (isValidEmail s = true ↔ IsAddress (utf16 s)) ↔
      IsAddress (utf16 s) ∨ ¬ HoldsAddress ((utf16 s).take (count s)) := by
  rw [isValidEmail_iff]
  by_cases haddress : IsAddress (utf16 s)
  · have hall : (utf16 s).take (count s) = utf16 s := by
      rw [count_of_address haddress, List.take_length]
    simp only [haddress, hall, HoldsAddress.of_address haddress, iff_self, true_or]
  · simp only [haddress, iff_false, false_or]

/-- A text with an address in it passes, and is not one: "é" is in no class. -/
theorem sentence_not_exact :
    isValidEmail "écris à a@b.cc" = true ∧
    ¬ (isValidEmail "écris à a@b.cc" = true ↔ IsAddress (utf16 "écris à a@b.cc")) := by
  have hvalid : isValidEmail "écris à a@b.cc" = true := by decide
  refine ⟨hvalid, ?_⟩
  intro h
  have hgraphic := (h.mp hvalid).isGraphic 0xE9 (by decide)
  unfold IsGraphic at hgraphic
  omega

-- ============================================================================
-- Phone
-- ============================================================================

def isLineTerminator (u : Nat) : Bool :=
  (0x0A ≤ u && u ≤ 0x0D) || u == 0x85 || u == 0x2028 || u == 0x2029

/-- `$`: at the end, or before the line terminator that ends the text. -/
def atEnd : List Nat → Bool
  | [] => true
  | [u] => isLineTerminator u
  | us => us == [0x0D, 0x0A]

/-- `^[0-9+]{0,1}+[0-9]{5,16}$`. -/
def phoneRegex : Pattern Nat :=
  [.test fun pos _ => pos == 0,
   .rep (fun u => inRange '0' '9' u || oneOf ['+'] u) 0 (some 1) true,
   .rep (inRange '0' '9') 5 (some 16) false,
   .test fun _ rest => atEnd rest]

/-- `SELF MATCHES`: the whole text. -/
def Validations.isValidPhone (phone : String) : Bool := phoneRegex.matchesWhole (utf16 phone)

-- ============================================================================
-- What the phone check accepts
-- ============================================================================

namespace Validations

/-- An optional "+" and 5 to 16 decimal digits. -/
def IsPhone (cs : List Char) : Prop :=
  ∃ digits, (cs = '+' :: digits ∨ cs = digits) ∧ (∀ c ∈ digits, c.isDigit = true) ∧
    5 ≤ digits.length ∧ digits.length ≤ 16

theorem inRange_digits {c : Char} : inRange '0' '9' c.toNat = true ↔ c.isDigit = true := by
  rw [Char.isDigit_iff_toNat]
  simp [inRange]

theorem oneOf_plus {c : Char} : oneOf ['+'] c.toNat = true ↔ c = '+' := by
  rw [oneOf_singleton, Char.toNat_inj]

theorem lt_of_inRange_digits {u : Nat} (h : inRange '0' '9' u = true) : u < 0xD800 := by
  simp [inRange] at h
  omega

/-- Code units: one digit or "+", then 5 to 16 digits.  The first item cannot
    stay empty, since the digit behind it would have been its own. -/
theorem isValidPhone_iff_units {s : String} :
    isValidPhone s = true ↔ ∃ u us, utf16 s = u :: us ∧
      (inRange '0' '9' u = true ∨ oneOf ['+'] u = true) ∧
      (∀ v ∈ us, inRange '0' '9' v = true) ∧ 5 ≤ us.length ∧ us.length ≤ 16 := by
  simp only [isValidPhone, Pattern.matchesWhole, phoneRegex, Pattern.matchAt_cons_isSome,
    Pattern.matchAt_nil_isSome, Item.Takes]
  constructor
  · rintro ⟨-, rest, htext, ⟨rfl, -⟩, sign, -, rfl, ⟨⟨hsign, -, hone⟩, hexhausts⟩, digits, -, rfl,
      ⟨⟨hdigits, hmin, hmax⟩, -⟩, -, last, rfl, ⟨rfl, -⟩, hlast⟩
    obtain rfl : last = [] := List.isEmpty_iff.mp hlast
    have hlen : sign.length = 1 := by
      rcases hexhausts trivial with hfull | hnext
      · exact (Option.some.inj hfull).symm
      · cases digits with
        | nil => cases hmin
        | cons d digits =>
            have hclass := Bool.or_eq_false_iff.mp (hnext d rfl)
            have hdigit := hdigits d List.mem_cons_self
            rw [hclass.1] at hdigit
            cases hdigit
    obtain ⟨u, rfl⟩ := List.length_eq_one_iff.mp hlen
    refine ⟨u, digits, by simpa using htext, ?_, hdigits, hmin, hmax 16 rfl⟩
    simpa using hsign u List.mem_cons_self
  · rintro ⟨u, us, htext, hu, hus, hmin, hmax⟩
    refine ⟨[], _, htext, ⟨rfl, rfl⟩, [u], us, rfl, ⟨⟨?_, Nat.zero_le _, by simp⟩, ?_⟩, us, [],
      by simp, ⟨⟨hus, hmin, by simpa using hmax⟩,
        fun h => absurd h Bool.false_ne_true⟩, [], [], rfl, ⟨rfl, rfl⟩, rfl⟩
    · simpa using hu
    · exact fun _ => .inl rfl

/-- **What the predicate accepts.**  One digit or "+", then 5 to 16 digits. -/
theorem isValidPhone_iff {s : String} :
    isValidPhone s = true ↔ ∃ c digits, s.toList = c :: digits ∧ (c.isDigit = true ∨ c = '+') ∧
      (∀ d ∈ digits, d.isDigit = true) ∧ 5 ≤ digits.length ∧ digits.length ≤ 16 := by
  rw [isValidPhone_iff_units]
  constructor
  · rintro ⟨u, us, htext, hu, hus, hlen⟩
    have hunits : ∀ v ∈ utf16 s, v < 0xD800 := by
      intro v hv
      rw [htext, List.mem_cons] at hv
      rcases hv with rfl | hv
      · rcases hu with hu | hu
        · exact lt_of_inRange_digits hu
        · rw [oneOf_singleton] at hu
          rw [hu]
          decide
      · exact lt_of_inRange_digits (hus v hv)
    rw [utf16_eq_map hunits, List.map_eq_cons_iff] at htext
    obtain ⟨c, digits, htext, rfl, rfl⟩ := htext
    refine ⟨c, digits, htext, hu.imp inRange_digits.mp oneOf_plus.mp, ?_, by simpa using hlen⟩
    intro d hd
    exact inRange_digits.mp (hus _ (List.mem_map_of_mem hd))
  · rintro ⟨c, digits, htext, hc, hdigits, hlen⟩
    have hscalars : ∀ d ∈ s.toList, d.toNat < 0x10000 := by
      intro d hd
      rw [htext, List.mem_cons] at hd
      rcases hd with rfl | hd
      · rcases hc with hc | rfl
        · exact Nat.lt_trans (lt_of_inRange_digits (inRange_digits.mpr hc)) (by decide)
        · decide
      · exact Nat.lt_trans (lt_of_inRange_digits (inRange_digits.mpr (hdigits d hd))) (by decide)
    refine ⟨c.toNat, digits.map Char.toNat, ?_, hc.imp inRange_digits.mpr oneOf_plus.mpr, ?_,
      by simpa using hlen⟩
    · rw [utf16_of_scalars hscalars, htext, List.map_cons]
    · intro v hv
      obtain ⟨d, hd, rfl⟩ := List.mem_map.mp hv
      exact inRange_digits.mpr (hdigits d hd)

/-- Digits only: the first one is taken as the sign. -/
theorem isValidPhone_of_digits {s : String} (h : ∀ c ∈ s.toList, c.isDigit = true) :
    isValidPhone s = true ↔ 6 ≤ s.toList.length ∧ s.toList.length ≤ 17 := by
  rw [isValidPhone_iff]
  cases htext : s.toList with
  | nil => simp
  | cons c digits =>
      rw [htext, List.forall_mem_cons] at h
      simp only [List.cons.injEq, List.length_cons]
      constructor
      · rintro ⟨c', digits', ⟨rfl, rfl⟩, -, -, hmin, hmax⟩
        omega
      · rintro ⟨hmin, hmax⟩
        exact ⟨c, digits, ⟨rfl, rfl⟩, .inl h.1, h.2, by omega, by omega⟩

theorem isPhone_of_digits {cs : List Char} (h : ∀ c ∈ cs, c.isDigit = true) :
    IsPhone cs ↔ 5 ≤ cs.length ∧ cs.length ≤ 16 := by
  constructor
  · rintro ⟨digits, rfl | rfl, -, hlen⟩
    · exact absurd (h '+' List.mem_cons_self) (by decide)
    · exact hlen
  · intro hlen
    exact ⟨cs, .inr rfl, h, hlen⟩

/-- Anything else passes exactly when it is a sign and 5 to 16 digits. -/
theorem isValidPhone_of_not_digits {s : String} (h : ¬ ∀ c ∈ s.toList, c.isDigit = true) :
    isValidPhone s = true ↔ IsPhone s.toList := by
  rw [isValidPhone_iff]
  constructor
  · rintro ⟨c, digits, htext, hc | rfl, hdigits, hlen⟩
    · rw [htext, List.forall_mem_cons] at h
      exact absurd ⟨hc, hdigits⟩ h
    · exact ⟨digits, .inl htext, hdigits, hlen⟩
  · rintro ⟨digits, htext | htext, hdigits, hlen⟩
    · exact ⟨'+', digits, htext, .inr rfl, hdigits, hlen⟩
    · rw [htext] at h
      exact absurd hdigits h

/-- **When the predicate is exact.**  For every text: it is accepted exactly
    when it is an optional "+" and 5 to 16 digits, if and only if it is not 5 or
    17 digits without a sign. -/
theorem isValidPhone_exact_iff (s : String) :
    (isValidPhone s = true ↔ IsPhone s.toList) ↔
      ¬ ((∀ c ∈ s.toList, c.isDigit = true) ∧
        (s.toList.length = 5 ∨ s.toList.length = 17)) := by
  by_cases hdigits : ∀ c ∈ s.toList, c.isDigit = true
  · rw [isValidPhone_of_digits hdigits, isPhone_of_digits hdigits]
    constructor
    · rintro h ⟨-, hlen⟩
      omega
    · intro h
      have hlen : s.toList.length ≠ 5 ∧ s.toList.length ≠ 17 := by tauto
      omega
  · exact iff_of_true (isValidPhone_of_not_digits hdigits) fun h => hdigits h.1

/-- Five digits are a phone number and are rejected; seventeen are not one and
    pass. -/
theorem digits_not_exact :
    (isValidPhone "12345" = false ∧ IsPhone "12345".toList) ∧
    (isValidPhone "12345678901234567" = true ∧ ¬ IsPhone "12345678901234567".toList) := by
  have hfive : ∀ c ∈ "12345".toList, c.isDigit = true := List.all_eq_true.mp (by decide)
  have hseventeen : ∀ c ∈ "12345678901234567".toList, c.isDigit = true :=
    List.all_eq_true.mp (by decide)
  refine ⟨⟨by decide, ?_⟩, by decide, ?_⟩
  · rw [isPhone_of_digits hfive]
    decide
  · rw [isPhone_of_digits hseventeen]
    decide

end Validations

end Spark
