/-
  Spark.Platform.JSON

  JSON values as `JSONSerialization` returns them, and where a path of keys and
  indices leads in one.

  A forced cast of the app asks for one kind of value and a subscript for one
  part of it; a path asks for both at once, and fails where either does
  (`member?_key`, `member?_index`).
-/

import Spark.Platform.Foundation
import Mathlib.Data.Finset.Insert
import Mathlib.Data.Rat.Defs

namespace Spark

/-- The tree of Foundation objects that stands for a JSON text; a dictionary has
    each key once. -/
inductive JSONObject
  | null
  | bool (b : Bool)
  | number (n : ℚ)
  | string (s : String)
  | array (items : List JSONObject)
  | dictionary (keys : Finset String) (value : {key // key ∈ keys} → JSONObject)

/-- A step of a path. -/
inductive PathStep
  | key (key : String)
  | index (index : Nat)
  deriving DecidableEq, Repr

namespace JSONObject

/-- `as? String`. -/
def string? : JSONObject → Option String
  | .string s => some s
  | _ => none

/-- `as? NSArray`. -/
def array? : JSONObject → Option (List JSONObject)
  | .array items => some items
  | _ => none

/-- `as? [String: Any]`, a dictionary by its subscript. -/
def dictionary? : JSONObject → Option (String → Option JSONObject)
  | .dictionary keys value => some fun key => if h : key ∈ keys then some (value ⟨key, h⟩) else none
  | _ => none

/-- The member a step leads to. -/
def member? : JSONObject → PathStep → Option JSONObject
  | .dictionary keys value, .key key => if h : key ∈ keys then some (value ⟨key, h⟩) else none
  | .array items, .index index => items[index]?
  | _, _ => none

/-- Where a path leads. -/
def get? (json : JSONObject) (path : List PathStep) : Option JSONObject :=
  path.foldlM member? json

/-- A key is looked up in a dictionary. -/
theorem member?_key (json : JSONObject) (key : String) :
    json.member? (.key key) = json.dictionary? >>= fun dictionary => dictionary key := by
  cases json <;> rfl

/-- An index is looked up in an array. -/
theorem member?_index (json : JSONObject) (index : Nat) :
    json.member? (.index index) = json.array? >>= fun items => items[index]? := by
  cases json <;> rfl

theorem string?_eq_some_iff {json : JSONObject} {text : String} :
    json.string? = some text ↔ json = .string text := by
  cases json <;> simp [string?]

end JSONObject

-- ============================================================================
-- Messages
-- ============================================================================

/-- A message that the object does not answer. -/
inductive NSException
  | unrecognizedSelector
  deriving DecidableEq, Repr

/-- A subscript, which `nil` and dictionaries answer. -/
def objectForKeyedSubscript (object : Option JSONObject) (key : String) :
    Except NSException (Option JSONObject) :=
  match object with
  | none => .ok none
  | some object =>
      match object.dictionary? with
      | some dictionary => .ok (dictionary key)
      | none => .error .unrecognizedSelector

/-- The text that answers `isEqualToString:` or `length`, which are for `nil` and
    strings. -/
def stringMessage : Option JSONObject → Except NSException (Option String)
  | none => .ok none
  | some (.string s) => .ok (some s)
  | some _ => .error .unrecognizedSelector

-- ============================================================================
-- Foundation
-- ============================================================================

/-- What is called of Foundation and may be any function. -/
class Foundation where
  /-- `JSONSerialization.jsonObject(with:options:)` with `.allowFragments`: it
      throws, or returns the parsed tree. -/
  jsonObject : Data → Except NSError JSONObject
  /-- The text of an array in `print`. -/
  description : List JSONObject → String
  /-- The text of an object that is no string in a format, `%@`. -/
  objectDescription : JSONObject → String
  /-- The text of an error in a string interpolation. -/
  errorDescription : NSError → String
  /-- `replacingOccurrences(of:with:)`; its search is not literal. -/
  replacingOccurrences : (text target replacement : String) → String

namespace Foundation

/-- The same without options: a text that is neither an array nor a dictionary is
    an error. -/
def jsonObjectWithoutFragments [Foundation] (data : Data) : Except NSError JSONObject :=
  match jsonObject data with
  | .ok (.array items) => .ok (.array items)
  | .ok (.dictionary keys value) => .ok (.dictionary keys value)
  | .ok _ => .error ⟨3840⟩
  | .error error => .error error

/-- `%@` of an object. -/
def formatText [Foundation] : JSONObject → String
  | .string s => s
  | object => objectDescription object

end Foundation

end Spark
