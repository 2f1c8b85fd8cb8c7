/-
  Spark.Firebase.TokenResult

  `FIRAuthTokenResult`: what an ID token says of itself.

  A token is a header, a payload and a signature with dots between; the payload
  is JSON in base-64 for URLs.  `fir_base64URLEncodedString` writes that form and
  `tokenResultWithToken` undoes it: it turns the characters back, restores the
  padding and decodes.  Whatever the bytes of the payload are, they are what the
  JSON parser gets to see (`tokenResultWithToken_issued`), so a token service
  takes an issued token for expired exactly when it says so
  (`expired_issued_iff`).
-/

import Spark.Firebase.SecureTokenService
import Spark.Platform.JSON
import Spark.Platform.NSData
import Spark.Platform.Unicode

namespace Spark.Firebase

open Spark.Lib

-- ============================================================================
-- Base-64 for URLs
-- ============================================================================

def replaceOccurrences (target replacement : Char) (l : List Char) : List Char :=
  l.map fun c => if c = target then replacement else c

/-- `fir_base64URLEncodedStringWithOptions:` without options. -/
def fir_base64URLEncodedString (data : Data) : String :=
  let string := (base64EncodedString data).toList
  let string := replaceOccurrences '/' '_' string
  let string := replaceOccurrences '+' '-' string
  String.ofList (string.filter fun c => c ≠ '=')

/-- The length of an `NSString`. -/
def utf16Length (l : List Char) : Nat := (l.flatMap utf16Units).length

theorem utf16Length_append_pad (l : List Char) : utf16Length (l ++ ['=']) = utf16Length l + 1 := by
  rw [utf16Length, List.flatMap_append, List.length_append]
  rfl

/-- The loop that pads the payload. -/
def appendPadding (tokenPayload : List Char) : List Char :=
  if utf16Length tokenPayload % 4 ≠ 0 then appendPadding (tokenPayload ++ ['=']) else tokenPayload
termination_by (4 - utf16Length tokenPayload % 4) % 4
decreasing_by
  rw [utf16Length_append_pad]
  omega

theorem appendPadding_eq (l : List Char) :
    appendPadding l = l ++ List.replicate ((4 - utf16Length l % 4) % 4) '=' := by
  fun_induction appendPadding l with
  | case1 l hlength ih =>
      have hcount : (4 - utf16Length l % 4) % 4 = (4 - (utf16Length l + 1) % 4) % 4 + 1 := by omega
      rw [ih, utf16Length_append_pad, hcount, List.replicate_succ, List.append_assoc]
      rfl
  | case2 l hlength =>
      have hcount : (4 - utf16Length l % 4) % 4 = 0 := by omega
      rw [hcount, List.replicate_zero, List.append_nil]

-- ============================================================================
-- Token results
-- ============================================================================

/-- The dates are seconds since 1970. -/
structure AuthTokenResult where
  token : String
  expirationDate : ℚ
  authDate : ℚ
  issuedAtDate : ℚ
  signInProvider : Option JSONObject
  signInSecondFactor : Option JSONObject
  claims : String → Option JSONObject

/-- The bytes of the payload of a token. -/
def decodedTokenPayloadData (token : String) : Option Data :=
  match token.toList.splitOn '.' with
  | [_, IDToken, _] =>
      let tokenPayload := replaceOccurrences '-' '+' (replaceOccurrences '_' '/' IDToken)
      initWithBase64EncodedString (String.ofList (appendPadding tokenPayload))
  | _ => none

/-- `doubleValue`, which `nil`, numbers and strings answer. -/
def doubleValue (ofString : String → ℚ) : Option JSONObject → Except NSException ℚ
  | none => .ok 0
  | some (.number n) => .ok n
  | some (.bool b) => .ok (if b then 1 else 0)
  | some (.string s) => .ok (ofString s)
  | some _ => .error .unrecognizedSelector

/-- What is made of the payload once it has been parsed. -/
def tokenResultWithPayload (ofString : String → ℚ) (token : String) (json : JSONObject) :
    Except NSException AuthTokenResult := do
  let expirationDate ← doubleValue ofString (← objectForKeyedSubscript (some json) "exp")
  let authDate ← doubleValue ofString (← objectForKeyedSubscript (some json) "auth_time")
  let issuedAtDate ← doubleValue ofString (← objectForKeyedSubscript (some json) "iat")
  let firebase ← objectForKeyedSubscript (some json) "firebase"
  let signInProvider ← objectForKeyedSubscript firebase "sign_in_provider"
  let signInSecondFactor ← objectForKeyedSubscript firebase "sign_in_second_factor"
  return {
    token, expirationDate, authDate, issuedAtDate, signInProvider, signInSecondFactor
    claims := (json.dictionary?).getD fun _ => none }

/-- `tokenResultWithToken:`; `none` for `nil`. -/
def tokenResultWithToken [Foundation] (ofString : String → ℚ) (token : String) :
    Except NSException (Option AuthTokenResult) :=
  match decodedTokenPayloadData token with
  | none => .ok none
  | some data =>
      match Foundation.jsonObject data with
      | .error _ => .ok none
      | .ok json => (tokenResultWithPayload ofString token json).map some

-- ============================================================================
-- Issued tokens
-- ============================================================================

theorem mem_of_mem_replaceOccurrences {target replacement c : Char} {l : List Char}
    (h : c ∈ replaceOccurrences target replacement l) (hne : c ≠ replacement) : c ∈ l := by
  obtain ⟨x, hx, hc⟩ := List.mem_map.mp h
  split at hc
  · exact absurd hc.symm hne
  · exact hc ▸ hx

/-- The encoder writes neither a dot nor a character of the other alphabet. -/
theorem not_mem_base64 {data : Data} {c : Char} (hpad : c ≠ '=') (h : base64Value c = none) :
    c ∉ base64.encode data := by
  intro hmem
  rcases Base64.mem_encode hmem with rfl | ⟨d, hd, rfl⟩
  · exact hpad rfl
  · have hvalue : base64Value (base64.symbol d) = some d := base64.value_symbol d hd
    rw [h] at hvalue
    cases hvalue

/-- What is done to the characters is undone. -/
theorem replaceOccurrences_undo {l : List Char} (hline : '_' ∉ l) (hdash : '-' ∉ l) :
    replaceOccurrences '-' '+' (replaceOccurrences '_' '/'
        ((replaceOccurrences '+' '-' (replaceOccurrences '/' '_' l)).filter fun c => c ≠ '=')) =
      Base64.unpadded l '=' := by
  induction l with
  | nil => rfl
  | cons c l ih =>
      simp only [List.mem_cons, not_or] at hline hdash
      have hrest := ih hline.2 hdash.2
      simp only [replaceOccurrences, Base64.unpadded, List.map_cons] at hrest ⊢
      by_cases hslash : c = '/'
      · subst hslash
        simpa using hrest
      · by_cases hplus : c = '+'
        · subst hplus
          simpa using hrest
        · by_cases hequals : c = '='
          · subst hequals
            simpa using hrest
          · simpa [hslash, hplus, hequals, Ne.symm hline.1, Ne.symm hdash.1] using hrest

theorem utf16Length_symbols {l : List Char} (h : ∀ c ∈ l, ∃ d < 64, c = base64Symbol d) :
    utf16Length l = l.length := by
  have hunit : ∀ d < 64, (utf16Units (base64Symbol d)).length = 1 := by decide
  induction l with
  | nil => rfl
  | cons c l ih =>
      obtain ⟨d, hd, rfl⟩ := h c List.mem_cons_self
      have hrest := ih fun c hc => h c (List.mem_cons_of_mem _ hc)
      rw [utf16Length, List.flatMap_cons, List.length_append, hunit d hd, ← utf16Length, hrest,
        List.length_cons, Nat.add_comm]

/-- The payload is read as it was encoded. -/
theorem decodedTokenPayloadData_issued {header signature : String} (hheader : '.' ∉ header.toList)
    (hsignature : '.' ∉ signature.toList) (data : Data) :
    decodedTokenPayloadData
      (header ++ "." ++ fir_base64URLEncodedString data ++ "." ++ signature) = some data := by
  have hparts : (header ++ "." ++ fir_base64URLEncodedString data ++ "." ++
        signature).toList.splitOn '.' =
      [header.toList, (fir_base64URLEncodedString data).toList, signature.toList] := by
    have hdot : '.' ∉ (fir_base64URLEncodedString data).toList := by
      intro hmem
      rw [fir_base64URLEncodedString, String.toList_ofList, base64EncodedString,
        String.toList_ofList] at hmem
      have hmem := mem_of_mem_replaceOccurrences (List.mem_filter.mp hmem).1 (by decide)
      have hmem := mem_of_mem_replaceOccurrences hmem (by decide)
      exact not_mem_base64 (by decide) (by decide) hmem
    have hnone : ∀ l ∈ [header.toList, (fir_base64URLEncodedString data).toList,
        signature.toList], '.' ∉ l := by
      simp [hheader, hdot, hsignature]
    rw [← List.splitOn_intercalate '.' hnone (List.cons_ne_nil _ _)]
    congr 1
    simp [List.intercalate]
  have hpadded : base64.encode data = Base64.unpadded (base64.encode data) '=' ++
      List.replicate ((4 - (Base64.unpadded (base64.encode data) '=').length % 4) % 4) '=' :=
    Base64.encode_eq_append_pad data
  rw [decodedTokenPayloadData, hparts]
  dsimp only
  rw [fir_base64URLEncodedString, String.toList_ofList, base64EncodedString, String.toList_ofList,
    replaceOccurrences_undo (not_mem_base64 (by decide) (by decide))
      (not_mem_base64 (by decide) (by decide)),
    appendPadding_eq, utf16Length_symbols, ← hpadded]
  · exact initWithBase64EncodedString_base64EncodedString data
  · intro c hc
    obtain ⟨hmem, hpad⟩ := List.mem_filter.mp hc
    rcases Base64.mem_encode hmem with rfl | hsymbol
    · exact absurd rfl (of_decide_eq_true hpad)
    · exact hsymbol

/-- **An issued token is read.**  Whatever the header, the signature and the bytes
    of the payload are, the token says what the JSON parser makes of those bytes,
    and nothing if they are not JSON. -/
theorem tokenResultWithToken_issued [Foundation] (ofString : String → ℚ)
    {header signature : String} (hheader : '.' ∉ header.toList)
    (hsignature : '.' ∉ signature.toList) (data : Data) :
    tokenResultWithToken ofString
        (header ++ "." ++ fir_base64URLEncodedString data ++ "." ++ signature) =
      match Foundation.jsonObject data with
      | .error _ => .ok none
      | .ok json =>
          (tokenResultWithPayload ofString
            (header ++ "." ++ fir_base64URLEncodedString data ++ "." ++ signature) json).map some := by
  rw [tokenResultWithToken, decodedTokenPayloadData_issued hheader hsignature]

-- ============================================================================
-- The token service
-- ============================================================================

/-- The date that a token service reads from a token. -/
def expirationDate [Foundation] (ofString : String → ℚ) (token : String) :
    Except NSException (Option ℚ) :=
  (tokenResultWithToken ofString token).map fun tokenResult =>
    tokenResult.map AuthTokenResult.expirationDate

/-- A service takes an issued token for expired exactly when its claims say so;
    `date` is what it reads from the tokens that are read without an exception. -/
theorem expired_issued_iff [Foundation] {κ : Type} {ofString : String → ℚ}
    {date : String → Option ℚ}
    (hdate : ∀ token read, expirationDate ofString token = .ok read → date token = read)
    {header signature : String} (hheader : '.' ∉ header.toList)
    (hsignature : '.' ∉ signature.toList) {data : Data} {json : JSONObject}
    (hjson : Foundation.jsonObject data = .ok json) {response : SecureTokenResponse}
    (htoken : response.accessToken =
      header ++ "." ++ fir_base64URLEncodedString data ++ "." ++ signature)
    {tokenResult : AuthTokenResult}
    (hresult : tokenResultWithPayload ofString response.accessToken json = .ok tokenResult)
    (s : SecureTokenService κ) (retryIfExpired : Bool) (now : ℚ) :
    s.Expired date retryIfExpired response now ↔
      s.accessToken ≠ some response.accessToken ∧ retryIfExpired = true ∧
        tokenResult.expirationDate - now ≤ kFiveMinutes := by
  have hread : tokenResultWithToken ofString response.accessToken = .ok (some tokenResult) := by
    rw [htoken] at hresult ⊢
    rw [tokenResultWithToken, decodedTokenPayloadData_issued hheader hsignature]
    simp only [hjson, hresult]
    rfl
  have hexpires : date response.accessToken = some tokenResult.expirationDate := by
    refine hdate _ _ ?_
    rw [expirationDate, hread]
    rfl
  rw [SecureTokenService.Expired, hexpires]
  rfl

-- ============================================================================
-- A token
-- ============================================================================

def expPayload : Data := "\x7b\"exp\":7200\x7d".toUTF8.toList

/-- Foundation, as far as this token goes. -/
instance claimsOnly : Foundation where
  jsonObject data :=
    if data = expPayload then .ok (.dictionary {"exp"} fun _ => .number 7200) else .error ⟨3840⟩
  description _ := "(\n)"
  objectDescription _ := "\x7b\n\x7d"
  errorDescription error := "Error Domain=NSCocoaErrorDomain Code=" ++ toString error.code
  replacingOccurrences text _ _ := text

theorem tokenResultWithToken_issued_expPayload :
    ∃ tokenResult, tokenResultWithToken (fun _ => 0)
        ("e30" ++ "." ++ fir_base64URLEncodedString expPayload ++ "." ++ "c2ln") =
      .ok (some tokenResult) ∧ tokenResult.expirationDate = 7200 := by
  have hjson : Foundation.jsonObject expPayload =
      .ok (.dictionary {"exp"} fun _ => .number 7200) := if_pos rfl
  rw [tokenResultWithToken_issued _ (by decide) (by decide), hjson]
  exact ⟨_, rfl, rfl⟩

end Spark.Firebase
