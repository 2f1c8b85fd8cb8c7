/-
  Spark.Firebase.WebUtils

  The errors of the phone sign-in client and the callback URL of its reCAPTCHA
  page: which URL ends the flow of an event (`isExpectedCallbackURL`), what
  token or error it carries (`reCAPTCHATokenForURL`), and which authorized
  domain serves the page (`authDomain?`).

  A URL's query is read twice, by two different readers.  The first, a
  dictionary built back to front, gives each key the value of its first
  occurrence (`dictionaryWithHttpArgumentsString_eq`), as the second, a search
  through the query items, does.  Reading the error that a URL carries raises an
  exception unless the JSON is what the page makes (`readable_iff`).
-/

import Spark.Platform.JSON
import Spark.Platform.Unicode

namespace Spark.Firebase

-- ============================================================================
-- Errors
-- ============================================================================

/-- The `FIRAuthErrorCode`s that the client tests or makes. -/
inductive AuthErrorCode
  | internalError
  | missingAppToken
  | invalidAppCredential
  | missingPhoneNumber
  | notificationNotForwarded
  | webContextAlreadyPresented
  | webContextCancelled
  | unexpectedResponse
  | jsonSerialization
  | invalidClientID
  | webNetworkRequestFailed
  | webInternalError
  | appVerificationUserInteractionFailure
  | other (code : Int)
  deriving DecidableEq, Repr

/-- An error, the code of its underlying error and its reason, if it has them. -/
structure AuthError where
  code : AuthErrorCode
  underlying : Option AuthErrorCode := none
  reason : Option String := none
  deriving DecidableEq, Repr

/-- `errorWithCode:message:` for a message that comes from elsewhere. -/
def errorWithCode (code : AuthErrorCode) (message : Option JSONObject) :
    Except NSException AuthError :=
  (stringMessage message).map fun message =>
    { code, reason := message.filter fun message => message ≠ "" }

/-- The codes that `URLResponseErrorWithCode:message:` knows. -/
def URLResponseErrorCode? (code : String) : Option AuthErrorCode :=
  if code = "auth/invalid-oauth-client-id" then some .invalidClientID
  else if code = "auth/network-request-failed" then some .webNetworkRequestFailed
  else if code = "auth/internal-error" then some .webInternalError
  else none

/-- `[FIRAuthErrorUtils URLResponseErrorWithCode:message:]`. -/
def URLResponseError (code message : Option JSONObject) :
    Except NSException (Option AuthError) :=
  match stringMessage code with
  | .error exception => .error exception
  | .ok code =>
      match code.bind URLResponseErrorCode? with
      | some code => (errorWithCode code message).map some
      | none => .ok none

-- ============================================================================
-- URLs
-- ============================================================================

/-- What is called of Foundation's URL classes and may be any function.  A URL
    holds percent-encoded text, so its query is ASCII. -/
class NSURL (URL : Type) where
  /-- `[NSURL URLWithString:]`. -/
  urlWithString : String → Option URL
  /-- The URL without its query and fragment has this scheme, host and path. -/
  hasBase : URL → (scheme host path : String) → Bool
  /-- `URL.query`. -/
  query : URL → Option String
  /-- `queryItems` of the `NSURLComponents` of a URL. -/
  queryItems : URL → List (String × Option String)
  /-- `queryItems` of `[NSURLComponents componentsWithString:]`. -/
  queryItemsOfString : String → List (String × Option String)
  /-- `stringByRemovingPercentEncoding`. -/
  removingPercentEncoding : String → Option String

open NSURL

section URLs

variable {URL : Type} [NSURL URL]

/-- `[FIRAuthWebUtils queryItemValue:from:]`. -/
def queryItemValue (name : String) (queryList : List (String × Option String)) : Option String :=
  (queryList.find? fun item => item.1 == name).bind Prod.snd

variable (URL) in
def stringByUnescapingFromURLArgument (argument : List Char) : Option String :=
  removingPercentEncoding URL
    (String.ofList (argument.map fun c => if c = '+' then ' ' else c))

variable (URL) in
/-- The key and the value of one component of a query. -/
def httpArgument (component : List Char) : String × String :=
  let key := component.takeWhile (· ≠ '=')
  let val := (component.drop key.length).tail
  ((stringByUnescapingFromURLArgument URL key).getD "",
    if '=' ∈ component then (stringByUnescapingFromURLArgument URL val).getD "" else "")

variable (URL) in
/-- `[FIRAuthWebUtils dictionaryWithHttpArgumentsString:]`; the components are
    stored in reverse order. -/
def dictionaryWithHttpArgumentsString (argString : Option String) : String → Option String :=
  let components := (argString.map fun s => s.toList.splitOn '&').getD []
  (components.reverse.filter fun component => !component.isEmpty).foldl
    (fun ret component =>
      let argument := httpArgument URL component
      Function.update ret argument.1 (some argument.2))
    fun _ => none

/-- `[FIRAuthWebUtils isExpectedCallbackURL:eventID:authType:callbackScheme:]`. -/
def isExpectedCallbackURL (url : Option URL) (eventID authType callbackScheme : String) : Bool :=
  match url with
  | none => false
  | some url =>
      if hasBase url callbackScheme "firebaseauth" "/link" then
        let queryItems := dictionaryWithHttpArgumentsString URL (query url)
        let deeplinkURL : Option URL := (queryItems "deep_link_id").bind urlWithString
        let deeplinkQueryItems := dictionaryWithHttpArgumentsString URL (deeplinkURL.bind query)
        deeplinkQueryItems "authType" == some authType &&
          deeplinkQueryItems "eventId" == some eventID
      else false

/-- What `reCAPTCHATokenForURL:error:` makes of the JSON of the `firebaseError`
    item. -/
def errorWithErrorDict [Foundation] (deepLinkURL : String) (errorDict : JSONObject) :
    Except NSException AuthError := do
  let code ← objectForKeyedSubscript (some errorDict) "code"
  let message ← objectForKeyedSubscript (some errorDict) "message"
  match ← URLResponseError code message with
  | some error => return error
  | none =>
      let reason := match code, message with
        | some code, some message =>
            "[" ++ Foundation.formatText code ++ "] - " ++ Foundation.formatText message
        | _, _ => "An unknown error occurred with the following response: " ++ deepLinkURL
      return { code := .appVerificationUserInteractionFailure, reason := some reason }

/-- The error that `reCAPTCHATokenForURL:error:` makes of the `firebaseError` item. -/
def firebaseError [Foundation] (deepLinkURL text : String) : Except NSException AuthError :=
  match Foundation.jsonObjectWithoutFragments text.toUTF8.toList with
  | .error _ => .ok { code := .jsonSerialization }
  | .ok errorDict => errorWithErrorDict deepLinkURL errorDict

/-- `reCAPTCHATokenForURL:error:`: the token and the error left in `error`. -/
def reCAPTCHATokenForURL [Foundation] (url : Option URL) :
    Except NSException (Option String × Option AuthError) :=
  let queryItems := (url.map NSURL.queryItems).getD []
  match queryItemValue "deep_link_id" queryItems with
  | none => .ok (none, none)
  | some deepLinkURL =>
      let queryItems := queryItemsOfString URL deepLinkURL
      match queryItemValue "recaptchaToken" queryItems with
      | some recaptchaToken => .ok (some recaptchaToken, none)
      | none =>
          match queryItemValue "firebaseError" queryItems with
          | none => .ok (none, none)
          | some text => (firebaseError deepLinkURL text).map fun error => (none, some error)

-- ============================================================================
-- Readable URLs
-- ============================================================================

/-- The JSON of a `firebaseError` item that answers what it is asked: a
    dictionary whose "code" is a text or missing, and whose "message" is one too
    where the code is known. -/
def WellFormedError (errorDict : JSONObject) : Prop :=
  ∃ dictionary code, errorDict.dictionary? = some dictionary ∧
    stringMessage (dictionary "code") = .ok code ∧
    ((code.bind URLResponseErrorCode?).isSome →
      ∃ message, stringMessage (dictionary "message") = .ok message)

/-- A `firebaseError` item of the URL, if it is read and is JSON, is well formed. -/
def Readable [Foundation] (url : URL) : Prop :=
  ∀ deepLinkURL, queryItemValue "deep_link_id" (NSURL.queryItems url) = some deepLinkURL →
    queryItemValue "recaptchaToken" (queryItemsOfString URL deepLinkURL) = none →
    ∀ text, queryItemValue "firebaseError" (queryItemsOfString URL deepLinkURL) = some text →
    ∀ errorDict, Foundation.jsonObjectWithoutFragments text.toUTF8.toList = .ok errorDict →
      WellFormedError errorDict

omit [NSURL URL] in
theorem URLResponseError_ok_iff {code message : Option JSONObject} :
    (∃ error, URLResponseError code message = .ok error) ↔
      ∃ text, stringMessage code = .ok text ∧
        ((text.bind URLResponseErrorCode?).isSome → ∃ text, stringMessage message = .ok text) := by
  rw [URLResponseError]
  cases stringMessage code with
  | error exception => simp
  | ok text =>
      simp only [Except.ok.injEq, exists_eq_left']
      cases text.bind URLResponseErrorCode? with
      | none => simp
      | some known =>
          simp only [errorWithCode, Option.isSome_some, true_imp_iff]
          cases stringMessage message <;> simp [Except.map]

omit [NSURL URL] in
theorem errorWithErrorDict_ok_iff [Foundation] {deepLinkURL : String} {errorDict : JSONObject} :
    (∃ error, errorWithErrorDict deepLinkURL errorDict = .ok error) ↔
      WellFormedError errorDict := by
  rw [errorWithErrorDict, WellFormedError]
  simp only [objectForKeyedSubscript]
  cases errorDict.dictionary? with
  | none => simp [bind, Except.bind]
  | some dictionary =>
      simp only [bind, Except.bind, Option.some.injEq, exists_and_left, exists_eq_left',
        ← URLResponseError_ok_iff]
      cases URLResponseError (dictionary "code") (dictionary "message") with
      | error exception => simp
      | ok error => cases error <;> simp [pure, Except.pure]

theorem firebaseError_ok_iff [Foundation] (deepLinkURL text : String) :
    (∃ error, firebaseError deepLinkURL text = .ok error) ↔
      ∀ errorDict, Foundation.jsonObjectWithoutFragments text.toUTF8.toList = .ok errorDict →
        WellFormedError errorDict := by
  rw [firebaseError]
  cases Foundation.jsonObjectWithoutFragments text.toUTF8.toList with
  | error error => simp
  | ok errorDict => simp [errorWithErrorDict_ok_iff]

/-- **When a callback URL is read without an exception.** -/
theorem readable_iff [Foundation] {url : URL} :
    Readable url ↔ ∃ read, reCAPTCHATokenForURL (some url) = .ok read := by
  simp only [Readable, reCAPTCHATokenForURL, Option.map_some, Option.getD_some]
  cases queryItemValue "deep_link_id" (NSURL.queryItems url) with
  | none => simp
  | some deepLinkURL =>
      simp only [Option.some.injEq, forall_eq']
      cases queryItemValue "recaptchaToken" (queryItemsOfString URL deepLinkURL) with
      | some recaptchaToken => simp
      | none =>
          cases queryItemValue "firebaseError" (queryItemsOfString URL deepLinkURL) with
          | none => simp
          | some text =>
              simp only [Option.some.injEq, forall_eq', true_imp_iff,
                ← firebaseError_ok_iff deepLinkURL]
              cases firebaseError deepLinkURL text <;> simp [Except.map]

-- ============================================================================
-- The first occurrence of a key
-- ============================================================================

/-- **The first occurrence of a key wins.**  The dictionary gives a key the
    value of the first nonempty component with this key. -/
theorem dictionaryWithHttpArgumentsString_eq (argString : Option String) (key : String) :
    dictionaryWithHttpArgumentsString URL argString key =
      ((((argString.map fun s => s.toList.splitOn '&').getD []).filter
        fun component => !component.isEmpty).map (httpArgument URL)).lookup key := by
  rw [dictionaryWithHttpArgumentsString, List.filter_reverse]
  generalize ((argString.map fun s => s.toList.splitOn '&').getD []).filter
    (fun component => !component.isEmpty) = components
  induction components with
  | nil => rfl
  | cons component components ih =>
      simp only [List.reverse_cons, List.foldl_append, List.foldl_cons, List.foldl_nil,
        List.map_cons]
      obtain ⟨key', val⟩ := httpArgument URL component
      by_cases h : key = key'
      · subst h
        rw [Function.update_self, List.lookup_cons_self]
      · rw [Function.update_of_ne h, ih, List.lookup_cons, beq_eq_false_iff_ne.mpr h]

end URLs

-- ============================================================================
-- Authorized domains
-- ============================================================================

def supportedAuthDomains : List String := ["firebaseapp.com", "web.app"]

/-- The loop of `fetchAuthDomainWithRequestConfiguration:completion:` over
    `response.authorizedDomains`. -/
def authDomain? (authorizedDomains : List String) : Option String :=
  (authorizedDomains.find? fun domain =>
    supportedAuthDomains.any fun supported =>
      (utf16 supported).length + 2 ≤ (utf16 domain).length &&
        supported.toList.isSuffixOf domain.toList).filter
    fun domain => domain.length ≠ 0

/-- Only a proper subdomain of a supported domain serves the page. -/
theorem authDomain?_some {authorizedDomains : List String} {domain : String}
    (h : authDomain? authorizedDomains = some domain) :
    domain ∈ authorizedDomains ∧ ∃ supported ∈ supportedAuthDomains,
      supported.toList <:+ domain.toList ∧
        (utf16 supported).length + 2 ≤ (utf16 domain).length := by
  obtain ⟨hfind, -⟩ := Option.filter_eq_some_iff.mp h
  refine ⟨List.mem_of_find?_eq_some hfind, ?_⟩
  have hany := List.find?_some hfind
  simp only [List.any_eq_true, Bool.and_eq_true, decide_eq_true_eq] at hany
  obtain ⟨supported, hmem, hlength, hsuffix⟩ := hany
  exact ⟨supported, hmem, List.isSuffixOf_iff_suffix.mp hsuffix, hlength⟩

end Spark.Firebase
