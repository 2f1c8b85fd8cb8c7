/-
  Spark.Controllers.DistanceReply

  The completion handler of `getTotalDistance()`, which walks through the reply
  of the distance service to `rows[0].elements[0].distance.text`.

  The walk is a chain of forced casts, forced unwraps and unchecked indices
  inside a `do` / `catch` that catches only what the parser throws.  It gets to
  its end exactly when the path leads to a string
  (`get?_distancePath_eq_some_iff`), and traps wherever the path breaks; so the
  handler is right about what arrives exactly when the request has failed, the
  data is not JSON, or it holds the text of a distance (`handles_iff`).
-/

import Spark.Platform.JSON
import Spark.Lib.Program

namespace Spark

open Spark.Lib
open JSONObject

namespace GoogleMapController

/-- The `print` statements of the handler, in the order of the source. -/
inductive PrintStatement
  | failure
  | rows
  | distance
  | error
  deriving DecidableEq, Repr

/-- A printed text and the statement that printed it. -/
structure Line where
  statement : PrintStatement
  text : String
  deriving DecidableEq, Repr

open Foundation Program

section Reply

variable {URLResponse : Type} [Foundation]

/-- The completion handler of `getTotalDistance()`.  `force` stands for `as!`,
    `!` and the subscript of an `NSArray`, which trap; `attempt` for `try`. -/
def getTotalDistanceCompletion (data : Option Data) (_response : Option URLResponse)
    (error : Option NSError) : Program Line NSError PUnit :=
  if error ≠ none then
    print ⟨.failure, "errror"⟩
  else
    doCatch
      (do
        let bytes ← force data
        let object ← attempt (jsonObject bytes)
        let json ← force object.dictionary?
        let rows ← force (json "rows" >>= array?)
        print ⟨.rows, description rows⟩
        let row ← force rows[0]?
        let dic ← force row.dictionary?
        let elements ← force (dic "elements" >>= array?)
        let element ← force elements[0]?
        let dis ← force element.dictionary?
        let distaneMiles ← force (dis "distance" >>= dictionary?)
        let miles ← force (distaneMiles "text" >>= string?)
        print ⟨.distance, replacingOccurrences miles " mi" ""⟩)
      fun error => print ⟨.error, "error:" ++ errorDescription error⟩

-- ============================================================================
-- The walk and the path
-- ============================================================================

section Walk

omit [Foundation]

/-- `rows[0].elements[0].distance.text`. -/
def distancePath : List PathStep :=
  [.key "rows", .index 0, .key "elements", .index 0, .key "distance", .key "text"]

/-- The part of the walk before the rows are printed. -/
def rows? (object : JSONObject) : Option (List JSONObject) :=
  object.dictionary? >>= fun json => json "rows" >>= array?

/-- The part of the walk after it. -/
def miles? (rows : List JSONObject) : Option String := do
  let row ← rows[0]?
  let dic ← row.dictionary?
  let elements ← dic "elements" >>= array?
  let element ← elements[0]?
  let dis ← element.dictionary?
  let distaneMiles ← dis "distance" >>= dictionary?
  distaneMiles "text" >>= string?

/-- The walk reaches a string exactly when the path leads to it. -/
theorem get?_distancePath (object : JSONObject) :
    object.get? distancePath >>= string? = rows? object >>= miles? := by
  unfold get? distancePath rows? miles?
  simp only [List.foldlM_cons, List.foldlM_nil, member?_key, member?_index, bind_assoc, pure_bind]

theorem get?_distancePath_eq_some_iff {object : JSONObject} {text : String} :
    object.get? distancePath = some (.string text) ↔
      ∃ rows, rows? object = some rows ∧ miles? rows = some text := by
  have hchain : (object.get? distancePath >>= string?) = some text ↔
      (rows? object >>= miles?) = some text := by
    rw [get?_distancePath]
  simpa [string?_eq_some_iff, Option.bind_eq_some_iff] using hchain

end Walk

-- ============================================================================
-- How the handler ends
-- ============================================================================

variable {response : Option URLResponse} {bytes : Data} {object : JSONObject}

/-- A failed request is reported, whatever else has arrived. -/
theorem completion_failed (data : Option Data) {error : Option NSError} (herror : error ≠ none) :
    getTotalDistanceCompletion data response error = ⟨[⟨.failure, "errror"⟩], .returned ⟨⟩⟩ := by
  unfold getTotalDistanceCompletion
  rw [if_pos herror]
  rfl

/-- Absent data traps. -/
theorem completion_absent :
    getTotalDistanceCompletion none response none = ⟨[], .trapped⟩ := by
  unfold getTotalDistanceCompletion
  rw [if_neg (not_not.mpr rfl)]
  rfl

/-- What the parser throws is caught and reported. -/
theorem completion_notJSON {error : NSError} (hparser : jsonObject bytes = .error error) :
    getTotalDistanceCompletion (some bytes) response none =
      ⟨[⟨.error, "error:" ++ errorDescription error⟩], .returned ⟨⟩⟩ := by
  unfold getTotalDistanceCompletion
  rw [if_neg (not_not.mpr rfl)]
  simp only [force_some, pure_bind, hparser]
  rfl

/-- In a parsed reply the walk is made in two parts, with a line after each. -/
theorem completion_parsed (hparser : jsonObject bytes = .ok object) :
    getTotalDistanceCompletion (some bytes) response none =
      doCatch
        (do
          let rows ← force (rows? object)
          print ⟨.rows, description rows⟩
          let miles ← force (miles? rows)
          print ⟨.distance, replacingOccurrences miles " mi" ""⟩)
        fun error => print ⟨.error, "error:" ++ errorDescription error⟩ := by
  unfold getTotalDistanceCompletion rows? miles?
  rw [if_neg (not_not.mpr rfl)]
  simp only [force_bind, force_some, attempt_ok, bind_assoc, pure_bind, hparser]

/-- A reply without an array of rows traps. -/
theorem completion_noRows (hparser : jsonObject bytes = .ok object)
    (hrows : rows? object = none) :
    getTotalDistanceCompletion (some bytes) response none = ⟨[], .trapped⟩ := by
  rw [completion_parsed hparser, hrows]
  rfl

/-- Rows without a distance text are printed, and then the handler traps. -/
theorem completion_noMiles {rows : List JSONObject} (hparser : jsonObject bytes = .ok object)
    (hrows : rows? object = some rows) (hmiles : miles? rows = none) :
    getTotalDistanceCompletion (some bytes) response none =
      ⟨[⟨.rows, description rows⟩], .trapped⟩ := by
  rw [completion_parsed hparser, hrows]
  simp only [force_some, pure_bind, hmiles]
  rfl

/-- The reply the handler is written for. -/
theorem completion_answered {rows : List JSONObject} {text : String}
    (hparser : jsonObject bytes = .ok object) (hrows : rows? object = some rows)
    (hmiles : miles? rows = some text) :
    getTotalDistanceCompletion (some bytes) response none =
      ⟨[⟨.rows, description rows⟩, ⟨.distance, replacingOccurrences text " mi" ""⟩],
        .returned ⟨⟩⟩ := by
  rw [completion_parsed hparser, hrows]
  simp only [force_some, pure_bind, hmiles]
  rfl

-- ============================================================================
-- When it handles what arrives
-- ============================================================================

/-- The data is JSON and holds this string at `rows[0].elements[0].distance.text`. -/
def DistanceText (data : Option Data) (text : String) : Prop :=
  ∃ bytes object, data = some bytes ∧ jsonObject bytes = .ok object ∧
    object.get? distancePath = some (.string text)

/-- The data is not JSON. -/
def NotJSON (data : Option Data) : Prop :=
  ∃ bytes error, data = some bytes ∧ jsonObject bytes = .error error

/-- The handler returns, prints a distance exactly when there is one, and prints
    an error last when there is none. -/
structure Handles (data : Option Data) (response : Option URLResponse)
    (error : Option NSError) : Prop where
  returns : (getTotalDistanceCompletion data response error).outcome = .returned ⟨⟩
  distance_iff :
    (∃ line ∈ (getTotalDistanceCompletion data response error).output,
      line.statement = .distance) ↔ ∃ text, DistanceText data text
  error_last : (¬ ∃ text, DistanceText data text) →
    ∃ line, (getTotalDistanceCompletion data response error).output.getLast? = some line ∧
      (line.statement = .failure ∨ line.statement = .error)

theorem distanceText_some_iff {text : String} (hparser : jsonObject bytes = .ok object) :
    DistanceText (some bytes) text ↔
      ∃ rows, rows? object = some rows ∧ miles? rows = some text := by
  rw [← get?_distancePath_eq_some_iff]
  constructor
  · rintro ⟨bytes', object', hbytes, hparser', htext⟩
    obtain rfl := Option.some.inj hbytes
    obtain rfl := Except.ok.inj (hparser.symm.trans hparser')
    exact htext
  · intro htext
    exact ⟨bytes, object, rfl, hparser, htext⟩

theorem not_handles_of_trapped {data : Option Data} {error : Option NSError}
    (h : (getTotalDistanceCompletion data response error).outcome = .trapped) :
    ¬ Handles data response error := by
  intro hhandles
  have hreturns := hhandles.returns
  rw [h] at hreturns
  cases hreturns

/-- A handler that has printed one error is right when there is no distance. -/
theorem handles_iff_of_error {data : Option Data} {error : Option NSError} {line : Line}
    (h : getTotalDistanceCompletion data response error = ⟨[line], .returned ⟨⟩⟩)
    (hline : line.statement = .failure ∨ line.statement = .error) :
    Handles data response error ↔ ¬ ∃ text, DistanceText data text := by
  have hnone : ¬ ∃ line ∈ (getTotalDistanceCompletion data response error).output,
      line.statement = .distance := by
    rw [h]
    rcases hline with hline | hline <;> simp [hline]
  constructor
  · intro hhandles htext
    exact hnone (hhandles.distance_iff.mpr htext)
  · intro htext
    refine ⟨by rw [h], iff_of_false hnone htext, fun _ => ⟨line, ?_, hline⟩⟩
    rw [h]
    rfl

/-- A parsed reply is handled exactly when the walk gets to its end. -/
theorem handles_parsed_iff (hparser : jsonObject bytes = .ok object) :
    Handles (some bytes) response none ↔ ∃ text, DistanceText (some bytes) text := by
  simp only [distanceText_some_iff hparser]
  cases hrows : rows? object with
  | none =>
      have hends : getTotalDistanceCompletion (some bytes) response none = ⟨[], .trapped⟩ :=
        completion_noRows hparser hrows
      refine iff_of_false (not_handles_of_trapped (by rw [hends])) ?_
      rintro ⟨text, rows, hsome, -⟩
      cases hsome
  | some rows =>
      cases hmiles : miles? rows with
      | none =>
          have hends : getTotalDistanceCompletion (some bytes) response none =
              ⟨[⟨.rows, description rows⟩], .trapped⟩ := completion_noMiles hparser hrows hmiles
          refine iff_of_false (not_handles_of_trapped (by rw [hends])) ?_
          rintro ⟨text, rows', hsome, htext⟩
          obtain rfl := Option.some.inj hsome
          cases hmiles.symm.trans htext
      | some text =>
          have hends : getTotalDistanceCompletion (some bytes) response none =
              ⟨[⟨.rows, description rows⟩, ⟨.distance, replacingOccurrences text " mi" ""⟩],
                .returned ⟨⟩⟩ := completion_answered hparser hrows hmiles
          have htext : ∃ text, DistanceText (some bytes) text :=
            ⟨text, (distanceText_some_iff hparser).mpr ⟨rows, hrows, hmiles⟩⟩
          refine iff_of_true ⟨by rw [hends], iff_of_true ?_ htext, fun h => absurd htext h⟩
            ⟨text, rows, rfl, hmiles⟩
          rw [hends]
          exact ⟨_, List.mem_cons_of_mem _ List.mem_cons_self, rfl⟩

/-- After a request that succeeded. -/
theorem handles_succeeded_iff (data : Option Data) (response : Option URLResponse) :
    Handles data response none ↔ NotJSON data ∨ ∃ text, DistanceText data text := by
  cases data with
  | none =>
      refine iff_of_false (not_handles_of_trapped (by rw [completion_absent])) ?_
      rintro (⟨bytes, error, hbytes, -⟩ | ⟨text, bytes, object, hbytes, -⟩) <;> cases hbytes
  | some bytes =>
      cases hparser : jsonObject bytes with
      | error error =>
          have hnone : ¬ ∃ text, DistanceText (some bytes) text := by
            rintro ⟨text, bytes', object, hbytes, hobject, -⟩
            obtain rfl := Option.some.inj hbytes
            cases hparser.symm.trans hobject
          rw [handles_iff_of_error (completion_notJSON hparser) (.inr rfl)]
          exact iff_of_true hnone (.inl ⟨bytes, error, rfl, hparser⟩)
      | ok object =>
          rw [handles_parsed_iff hparser]
          refine (or_iff_right ?_).symm
          rintro ⟨bytes', error, hbytes, herror⟩
          obtain rfl := Option.some.inj hbytes
          cases hparser.symm.trans herror

/-- **The distance reply.**  The handler handles an outcome exactly when the
    request has succeeded with data that is not JSON or holds the text of a
    distance, or has failed without such a text. -/
theorem handles_iff (data : Option Data) (response : Option URLResponse)
    (error : Option NSError) :
    Handles data response error ↔
      (error = none ∧ (NotJSON data ∨ ∃ text, DistanceText data text)) ∨
        (error ≠ none ∧ ¬ ∃ text, DistanceText data text) := by
  by_cases herror : error = none
  · subst herror
    rw [handles_succeeded_iff]
    simp
  · rw [handles_iff_of_error (completion_failed data herror) (.inl rfl)]
    simp [herror]

end Reply

/-- The service denies a request with an empty array of rows. -/
def deniedReply : Data := "\x7b\"rows\":[],\"status\":\"REQUEST_DENIED\"\x7d".toUTF8.toList

/-- The tree of this reply. -/
def deniedObject : JSONObject :=
  .dictionary ["rows", "status"].toFinset fun key =>
    if key.1 = "rows" then .array [] else .string "REQUEST_DENIED"

/-- Foundation, as far as this reply goes. -/
instance deniedService : Foundation where
  jsonObject bytes := if bytes = deniedReply then .ok deniedObject else .error ⟨3840⟩
  description _ := "(\n)"
  objectDescription _ := "\x7b\n\x7d"
  errorDescription error := "Error Domain=NSCocoaErrorDomain Code=" ++ toString error.code
  replacingOccurrences text target replacement := text.replace target replacement

/-- The rows are printed, the first one is asked for, and the app traps. -/
theorem deniedReply_traps :
    getTotalDistanceCompletion (some deniedReply) (none : Option Unit) none =
        ⟨[⟨.rows, "(\n)"⟩], .trapped⟩ ∧
      ¬ Handles (some deniedReply) (none : Option Unit) none := by
  have hparser : jsonObject deniedReply = .ok deniedObject := if_pos rfl
  have hrows : rows? deniedObject = some [] := rfl
  have htraps : getTotalDistanceCompletion (some deniedReply) (none : Option Unit) none =
      ⟨[⟨.rows, "(\n)"⟩], .trapped⟩ := completion_noMiles hparser hrows rfl
  exact ⟨htraps, not_handles_of_trapped (by rw [htraps])⟩

end GoogleMapController

end Spark
