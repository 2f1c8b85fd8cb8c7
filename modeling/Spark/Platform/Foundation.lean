/-
  Spark.Platform.Foundation

  What the app uses of Foundation: errors, text ranges in UTF-16 units, and
  `UserDefaults`, the persistent key-value store the profile is kept in.

  `UserDefaults` is a function from keys to values: a key is absent (`none`)
  or holds one property-list object.  `setValue(nil, forKey:)` removes the
  key, as documented.
-/

import Mathlib.Logic.Function.Basic

namespace Spark

/-- An error handed to a completion closure; only its presence is tested. -/
structure NSError where
  code : Int
  deriving DecidableEq, Repr

abbrev Data := List UInt8

/-- The bytes `PropertyListEncoder().encode` returns for a `Data` payload;
    `PropertyListDecoder().decode(Data.self, from:)` gives the payload back. -/
structure EncodedData where
  payload : Data
  deriving DecidableEq, Repr

/-- A property-list object.  The app stores strings and encoded data only. -/
inductive PropertyListValue
  | string (s : String)
  | data (d : EncodedData)
  | number (n : Int)
  deriving DecidableEq, Repr

-- ============================================================================
-- UserDefaults
-- ============================================================================

/-- The contents of `UserDefaults.standard`. -/
abbrev UserDefaults := String → Option PropertyListValue

namespace UserDefaults

/-- A store with no key, as after a fresh install. -/
def empty : UserDefaults := fun _ => none

/-- `UserDefaults.setValue(_:forKey:)`; a `nil` value removes the key. -/
def setValue (d : UserDefaults) (value : Option PropertyListValue) (key : String) :
    UserDefaults := Function.update d key value

/-- `UserDefaults.removeObject(forKey:)`. -/
def removeObject (d : UserDefaults) (key : String) : UserDefaults :=
  Function.update d key none

/-- `value(forKey:) as? String`. -/
def string? (d : UserDefaults) (key : String) : Option String :=
  match d key with
  | some (.string s) => some s
  | _ => none

/-- `data(forKey:)`. -/
def data? (d : UserDefaults) (key : String) : Option EncodedData :=
  match d key with
  | some (.data e) => some e
  | _ => none

/-- A call `setValue(value, forKey: key)`. -/
abbrev Write := String × Option PropertyListValue

/-- Perform a sequence of `setValue(_:forKey:)` calls in order. -/
def perform (d : UserDefaults) (writes : List Write) : UserDefaults :=
  writes.foldl (fun d w => d.setValue w.2 w.1) d

@[simp] theorem setValue_self (d : UserDefaults) (v : Option PropertyListValue) (k : String) :
    d.setValue v k k = v := Function.update_self ..

theorem setValue_ne {d : UserDefaults} {v : Option PropertyListValue} {k k' : String}
    (h : k' ≠ k) : d.setValue v k k' = d k' := Function.update_of_ne h ..

/-- Writing the value a key already holds changes nothing. -/
theorem setValue_eq_self_iff {d : UserDefaults} {v : Option PropertyListValue} {k : String} :
    d.setValue v k = d ↔ d k = v := by
  constructor
  · intro h
    rw [← h, setValue_self]
  · intro h
    rw [setValue, ← h, Function.update_eq_self]

/-- The same for writes under two different keys. -/
theorem setValue_setValue_eq_self_iff {d : UserDefaults} {v v' : Option PropertyListValue}
    {k k' : String} (hne : k ≠ k') :
    (d.setValue v k).setValue v' k' = d ↔ d k = v ∧ d k' = v' := by
  constructor
  · intro h
    refine ⟨?_, ?_⟩
    · rw [← congrFun h k, setValue_ne hne, setValue_self]
    · rw [← congrFun h k', setValue_self]
  · rintro ⟨hk, hk'⟩
    rw [setValue_eq_self_iff.mpr hk, setValue_eq_self_iff.mpr hk']

@[simp] theorem perform_nil (d : UserDefaults) : d.perform [] = d := rfl

@[simp] theorem perform_cons (d : UserDefaults) (w : Write) (ws : List Write) :
    d.perform (w :: ws) = (d.setValue w.2 w.1).perform ws := rfl

/-- A key that no write names keeps its value. -/
theorem perform_of_not_mem {d : UserDefaults} {ws : List Write} {k : String}
    (h : k ∉ ws.map Prod.fst) : d.perform ws k = d k := by
  induction ws generalizing d with
  | nil => rfl
  | cons w ws ih =>
      simp only [List.map_cons, List.mem_cons, not_or] at h
      rw [perform_cons, ih h.2, setValue_ne h.1]

theorem string?_of_eq {d d' : UserDefaults} {k : String} (h : d k = d' k) :
    d.string? k = d'.string? k := by
  simp only [string?, h]

/-- A text written with `setValue(text, forKey:)` is read back. -/
theorem string?_of_text {d : UserDefaults} {k : String} {text : Option String}
    (h : d k = text.map .string) : d.string? k = text := by
  simp only [string?, h]
  cases text <;> rfl

theorem data?_of_eq {d d' : UserDefaults} {k : String} (h : d k = d' k) :
    d.data? k = d'.data? k := by
  simp only [data?, h]

theorem data?_of_data {d : UserDefaults} {k : String} {v : Option EncodedData}
    (h : d k = v.map .data) : d.data? k = v := by
  simp only [data?, h]
  cases v <;> rfl

end UserDefaults

-- ============================================================================
-- Text ranges
-- ============================================================================

/-- A range of UTF-16 code units of a text. -/
structure NSRange where
  location : Nat
  length : Nat
  deriving DecidableEq, Repr

/-- Number of UTF-16 code units of a Unicode scalar. -/
def utf16Width (c : Char) : Nat := if c.toNat < 0x10000 then 1 else 2

/-- The scalars before UTF-16 offset `n`. -/
def takeUTF16 : Nat → List Char → List Char
  | _, [] => []
  | n, c :: cs => if n = 0 then [] else c :: takeUTF16 (n - utf16Width c) cs

/-- The scalars from UTF-16 offset `n` on. -/
def dropUTF16 : Nat → List Char → List Char
  | _, [] => []
  | n, c :: cs => if n = 0 then c :: cs else dropUTF16 (n - utf16Width c) cs

/-- `replacingCharacters(in:with:)`: the text with the range replaced. -/
def replacingCharacters (text : String) (range : NSRange) (string : String) : String :=
  String.ofList (takeUTF16 range.location text.toList ++ string.toList ++
    dropUTF16 (range.location + range.length) text.toList)

/-- A digit typed at the end, and a text pasted over everything. -/
example : replacingCharacters "555000" ⟨6, 0⟩ "1" = "5550001" ∧
    replacingCharacters "555000" ⟨0, 6⟩ "1234" = "1234" := by decide

end Spark
