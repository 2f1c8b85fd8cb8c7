/-
  Spark.Firebase.PhoneAuthProvider

  `FIRPhoneAuthProvider verifyPhoneNumber:UIDelegate:completion:` with what it
  uses of its `FIRAuth`: the managers of the push token, of the notifications
  and of the app credential, the presenter of the reCAPTCHA page, and the
  backend.

  A call is verified to come from the app, by a push notification or else by
  the reCAPTCHA page, and only then a verification code is requested.  Each
  block of the source is a function here; where the source hands a block to a
  manager or a request, the call it captures waits there (`Attempt`), and one
  step is one block that runs: a request is answered, a timer fires, the
  application passes on a token, a notification or a URL, or the main queue
  moves on.  All but the main queue's blocks run on the serial global work
  queue, so steps do not overlap.

  What is relied on outside the source:
    * a request is answered at most once, with a reply of its kind;
    * a timer fires once, a dismissal completes at most once;
    * `SFSafariViewController` exists, and the build is one for a device.
  A block that calls the missing completion of a presentation, or raises an
  exception over what the page returns, ends the process (`Crash`).
-/

import Spark.Firebase.AppCredentialManager
import Spark.Firebase.RemoteNotifications
import Spark.Firebase.WebUtils
import Spark.Lib.Calls

namespace Spark.Firebase

open Spark.Lib

-- ============================================================================
-- Calls and requests
-- ============================================================================

/-- A call of `verifyPhoneNumber:UIDelegate:completion:`; the serial number
    stands for its completion. -/
structure VerifyCall where
  serial : Nat
  phoneNumber : String
  deriving DecidableEq, Repr

/-- What the blocks of `verifyClientAndSendVerificationCodeToPhoneNumber:...`
    capture. -/
structure Attempt where
  call : VerifyCall
  retryOnInvalidAppCredential : Bool
  deriving DecidableEq, Repr

inductive BackendRequest
  | verifyClient (attempt : Attempt) (appToken : Data) (isSandbox : Bool)
  | getProjectConfig (attempt : Attempt) (eventID : String)
  | sendVerificationCode (attempt : Attempt) (appCredential : Option AppCredential)
      (reCAPTCHAToken : Option String)
  | sendVerificationCodeForTesting (attempt : Attempt)

inductive BackendReply
  /-- The receipt. -/
  | verifyClient (result : Except AuthError String)
  /-- The authorized domains. -/
  | projectConfig (result : Except AuthError (List String))
  /-- The verification ID. -/
  | verificationCode (result : Except AuthError (Option String))

/-- The arguments of a completion. -/
structure Completion where
  call : VerifyCall
  verificationID : Option String
  error : Option AuthError
  deriving DecidableEq, Repr

/-- What ends the process. -/
inductive Crash
  | missingCompletion
  | exception (exception : NSException)
  deriving DecidableEq, Repr

-- ============================================================================
-- The presenter
-- ============================================================================

/-- The URL of the reCAPTCHA page. -/
structure ReCAPTCHAURL where
  authDomain : String
  eventID : String
  deriving DecidableEq, Repr

/-- `FIRAuthURLPresenter`; the matcher is the event ID it captures, a controller
    is its number. -/
structure URLPresenter where
  isPresenting : Bool := false
  callbackMatcher : Option String := none
  completion : Option Attempt := none
  safariViewController : Option Nat := none
  created : Nat := 0

/-- The `finishBlock` of a presentation: the completion, if one was kept, and
    its arguments. -/
structure FinishBlock (URL : Type) where
  completion : Option Attempt
  result : Except AuthError URL

/-- The blocks the client dispatches to the main queue. -/
inductive MainBlock (URL : Type)
  | completion (completion : Completion)
  | presentSafariViewController (url : ReCAPTCHAURL)
  | webContextAlreadyPresented (attempt : Attempt)
  | dismissViewController (finish : FinishBlock URL)

/-- What is dispatched after a delay. -/
inductive Timer
  | probing
  | registration (applicableCallbacks : Nat)
  | verification (receipt : String)
  deriving DecidableEq, Repr

-- ============================================================================
-- The client
-- ============================================================================

structure Configuration where
  callbackScheme : String
  isAppVerificationDisabledForTesting : Bool
  emulatorHostAndPort : Option String
  detectedTokenType : APNSTokenType
  /-- The strings that `randomStringWithLength:` returns. -/
  randomString : Nat → String

/-- `calls` are the numbers of the calls made so far, `sent` the requests,
    `completions` what the completions were called with; `dismissals` are the
    finish blocks that wait for the page to disappear. -/
structure PhoneAuthProvider (URL : Type) where
  config : Configuration
  calls : List String := []
  notificationManager : NotificationManager VerifyCall := {}
  tokenManager : APNSTokenManager Attempt := {}
  appCredentialManager : AppCredentialManager Attempt := {}
  authURLPresenter : URLPresenter := {}
  eventIDs : Nat := 0
  requests : Calls BackendRequest := {}
  sent : List BackendRequest := []
  timers : List Timer := []
  dismissals : List (FinishBlock URL) := []
  mainQueue : List (MainBlock URL) := []
  completions : List Completion := []
  trapped : Bool := false

namespace PhoneAuthProvider

variable {URL : Type}

def request (s : PhoneAuthProvider URL) (r : BackendRequest) : PhoneAuthProvider URL :=
  { s with requests := s.requests.issue r, sent := s.sent ++ [r] }

def dispatchAfter (s : PhoneAuthProvider URL) (t : Timer) : PhoneAuthProvider URL :=
  { s with timers := s.timers ++ [t] }

def dispatchAsync (s : PhoneAuthProvider URL) (b : MainBlock URL) : PhoneAuthProvider URL :=
  { s with mainQueue := s.mainQueue ++ [b] }

/-- `callBackOnMainThread`. -/
def callBackOnMainThread (s : PhoneAuthProvider URL) (call : VerifyCall)
    (verificationID : Option String) (error : Option AuthError) : PhoneAuthProvider URL :=
  s.dispatchAsync
    (.completion ⟨call, if error = none then verificationID else none, error⟩)

/-- `presentURL:UIDelegate:callbackMatcher:completion:`. -/
def presentURL (s : PhoneAuthProvider URL) (url : ReCAPTCHAURL) (completion : Attempt) :
    PhoneAuthProvider URL :=
  if s.authURLPresenter.isPresenting then s.dispatchAsync (.webContextAlreadyPresented completion)
  else
    { s with
      authURLPresenter :=
        { s.authURLPresenter with
          isPresenting := true
          callbackMatcher := some url.eventID
          completion := some completion } }.dispatchAsync (.presentSafariViewController url)

/-- `reCAPTCHAFlowWithUIDelegate:completion:` up to the page or the request for
    its domain. -/
def reCAPTCHAFlow (s : PhoneAuthProvider URL) (a : Attempt) : PhoneAuthProvider URL :=
  let eventID := s.config.randomString s.eventIDs
  let s := { s with eventIDs := s.eventIDs + 1 }
  match s.config.emulatorHostAndPort with
  | some host => s.presentURL ⟨host, eventID⟩ a
  | none => s.request (.getProjectConfig a eventID)

/-- The block that `verifyClientAndSendVerificationCodeToPhoneNumber:...` hands
    to `verifyClientWithUIDelegate:completion:`.  With neither a credential nor
    a token nor an error it does nothing. -/
def verifyClientCompletion (s : PhoneAuthProvider URL) (a : Attempt)
    (appCredential : Option AppCredential) (reCAPTCHAToken : Option String)
    (error : Option AuthError) : PhoneAuthProvider URL :=
  match error, appCredential, reCAPTCHAToken with
  | some error, _, _ => s.callBackOnMainThread a.call none (some error)
  | none, some appCredential, _ => s.request (.sendVerificationCode a (some appCredential) none)
  | none, none, some reCAPTCHAToken => s.request (.sendVerificationCode a none (some reCAPTCHAToken))
  | none, none, none => s

/-- The block handed to `getTokenWithCallback:`. -/
def getTokenCallback (s : PhoneAuthProvider URL) (token : Option APNSToken) (a : Attempt) :
    PhoneAuthProvider URL :=
  match token with
  | none => s.reCAPTCHAFlow a
  | some token => s.request (.verifyClient a token.data (token.type = .sandbox))

/-- `verifyClientWithUIDelegate:completion:`. -/
def verifyClient (s : PhoneAuthProvider URL) (a : Attempt) : PhoneAuthProvider URL :=
  match s.appCredentialManager.credential with
  | some credential => s.verifyClientCompletion a (some credential) none none
  | none =>
      match s.tokenManager.getTokenWithCallback a with
      | .token token => s.getTokenCallback (some token) a
      | .joined m => { s with tokenManager := m }
      | .started m array => { s with tokenManager := m }.dispatchAfter (.registration array)

def verifyClientAndSendVerificationCode (s : PhoneAuthProvider URL) (a : Attempt) :
    PhoneAuthProvider URL :=
  if s.config.isAppVerificationDisabledForTesting then
    s.request (.sendVerificationCodeForTesting a)
  else s.verifyClient a

/-- The block handed to `checkNotificationForwardingWithCallback:`. -/
def forwardingCallback (s : PhoneAuthProvider URL) (isNotificationBeingForwarded : Bool)
    (call : VerifyCall) : PhoneAuthProvider URL :=
  if isNotificationBeingForwarded then s.verifyClientAndSendVerificationCode ⟨call, true⟩
  else s.callBackOnMainThread call none (some { code := .notificationNotForwarded })

def internalVerifyPhoneNumber (s : PhoneAuthProvider URL) (call : VerifyCall) :
    PhoneAuthProvider URL :=
  if call.phoneNumber.isEmpty then
    s.callBackOnMainThread call none (some { code := .missingPhoneNumber })
  else
    match s.notificationManager.checkNotificationForwarding call with
    | .checked forwarded => s.forwardingCallback forwarded call
    | .joined m => { s with notificationManager := m }
    | .started m => { s with notificationManager := m }.dispatchAfter .probing

def verifyPhoneNumber (s : PhoneAuthProvider URL) (phoneNumber : String) :
    PhoneAuthProvider URL :=
  { s with calls := s.calls ++ [phoneNumber] }.internalVerifyPhoneNumber
    ⟨s.calls.length, phoneNumber⟩

-- ============================================================================
-- Replies of the backend
-- ============================================================================

/-- An error of `verifyClient` that the reCAPTCHA page can make up for. -/
def fallsBackToReCAPTCHA (error : AuthError) : Bool :=
  error.code = .missingAppToken ||
    (error.code = .internalError && error.underlying = some .invalidAppCredential)

def verifyClientReply (s : PhoneAuthProvider URL) (a : Attempt) :
    Except AuthError String → PhoneAuthProvider URL
  | .error error =>
      if fallsBackToReCAPTCHA error then s.reCAPTCHAFlow a
      else s.verifyClientCompletion a none none (some error)
  | .ok receipt =>
      { s with
        appCredentialManager := s.appCredentialManager.didStartVerification receipt a }.dispatchAfter
          (.verification receipt)

def projectConfigReply (s : PhoneAuthProvider URL) (a : Attempt) (eventID : String) :
    Except AuthError (List String) → PhoneAuthProvider URL
  | .error error => s.verifyClientCompletion a none none (some error)
  | .ok authorizedDomains =>
      match authDomain? authorizedDomains with
      | none => s.verifyClientCompletion a none none (some { code := .unexpectedResponse })
      | some authDomain => s.presentURL ⟨authDomain, eventID⟩ a

def sendVerificationCodeReply (s : PhoneAuthProvider URL) (a : Attempt) :
    Except AuthError (Option String) → PhoneAuthProvider URL
  | .error error =>
      if error.code = .invalidAppCredential then
        if a.retryOnInvalidAppCredential then
          { s with
            appCredentialManager :=
              s.appCredentialManager.clearCredential }.verifyClientAndSendVerificationCode
            { a with retryOnInvalidAppCredential := false }
        else
          s.callBackOnMainThread a.call none
            (some { code := .unexpectedResponse, underlying := some error.code })
      else s.callBackOnMainThread a.call none (some error)
  | .ok verificationID => s.callBackOnMainThread a.call verificationID none

def sendVerificationCodeForTestingReply (s : PhoneAuthProvider URL) (a : Attempt) :
    Except AuthError (Option String) → PhoneAuthProvider URL
  | .error error => s.callBackOnMainThread a.call none (some error)
  | .ok verificationID => s.callBackOnMainThread a.call verificationID none

/-- The callback of a request; `none` for a reply of another kind. -/
def backendReply (s : PhoneAuthProvider URL) :
    BackendRequest → BackendReply → Option (PhoneAuthProvider URL)
  | .verifyClient a _ _, .verifyClient result => some (s.verifyClientReply a result)
  | .getProjectConfig a eventID, .projectConfig result =>
      some (s.projectConfigReply a eventID result)
  | .sendVerificationCode a _ _, .verificationCode result =>
      some (s.sendVerificationCodeReply a result)
  | .sendVerificationCodeForTesting a, .verificationCode result =>
      some (s.sendVerificationCodeForTestingReply a result)
  | _, _ => none

-- ============================================================================
-- Tokens and notifications
-- ============================================================================

/-- The block handed to `didStartVerificationWithReceipt:timeout:callback:`. -/
def credentialCallback (s : PhoneAuthProvider URL) (a : Attempt) (credential : AppCredential) :
    PhoneAuthProvider URL :=
  if credential.secret.isNone then s.reCAPTCHAFlow a
  else s.verifyClientCompletion a (some credential) none none

/-- The token manager calls back what it returns. -/
def getTokenCallbacks (s : PhoneAuthProvider URL) (token : Option APNSToken)
    (called : List Attempt × APNSTokenManager Attempt) : PhoneAuthProvider URL :=
  called.1.foldl (fun s a => s.getTokenCallback token a) { s with tokenManager := called.2 }

/-- The notification manager calls back what it returns. -/
def forwardingCallbacks (s : PhoneAuthProvider URL)
    (called : List VerifyCall × NotificationManager VerifyCall) : PhoneAuthProvider URL :=
  called.1.foldl (fun s call => s.forwardingCallback called.2.isNotificationBeingForwarded call)
    { s with notificationManager := called.2 }

/-- The credential manager calls back what it returns. -/
def credentialCallbacks (s : PhoneAuthProvider URL)
    (called : Option (Attempt × AppCredential) × AppCredentialManager Attempt) :
    PhoneAuthProvider URL :=
  let s := { s with appCredentialManager := called.2 }
  match called.1 with
  | none => s
  | some (a, credential) => s.credentialCallback a credential

def setAPNSToken (s : PhoneAuthProvider URL) (token : APNSToken) : PhoneAuthProvider URL :=
  let called := s.tokenManager.setToken s.config.detectedTokenType (some token)
  s.getTokenCallbacks called.2.token called

/-- `application:didFailToRegisterForRemoteNotificationsWithError:`. -/
def didFailToRegister (s : PhoneAuthProvider URL) : PhoneAuthProvider URL :=
  s.getTokenCallbacks none s.tokenManager.callBack

def canHandleNotification (s : PhoneAuthProvider URL) :
    Option AuthNotification → Bool × PhoneAuthProvider URL
  | none => (false, s)
  | some .prober =>
      match s.notificationManager.canHandleProber with
      | none => (false, s)
      | some called => (true, s.forwardingCallbacks called)
  | some (.credential receipt secret) =>
      match s.appCredentialManager.canFinishVerification receipt secret with
      | none => (false, s)
      | some called => (true, s.credentialCallbacks called)

def fire (s : PhoneAuthProvider URL) : Timer → PhoneAuthProvider URL
  | .probing => s.forwardingCallbacks s.notificationManager.callBack
  | .registration array => s.getTokenCallbacks none (s.tokenManager.timeout array)
  | .verification receipt =>
      s.credentialCallbacks (s.appCredentialManager.callBackWithReceipt receipt)

-- ============================================================================
-- The reCAPTCHA page
-- ============================================================================

section Page

variable [NSURL URL] [Foundation]

/-- The block `reCAPTCHAFlowWithUIDelegate:completion:` hands to `presentURL:...`. -/
def presentationCompletion (s : PhoneAuthProvider URL) (a : Attempt) :
    Except AuthError URL → Except Crash (PhoneAuthProvider URL)
  | .error error => .ok (s.verifyClientCompletion a none none (some error))
  | .ok callbackURL =>
      match reCAPTCHATokenForURL (some callbackURL) with
      | .error exception => .error (.exception exception)
      | .ok (none, error) => .ok (s.verifyClientCompletion a none none error)
      | .ok (some token, _) => .ok (s.verifyClientCompletion a none (some token) none)

/-- `finishBlock`. -/
def runFinishBlock (s : PhoneAuthProvider URL) (finish : FinishBlock URL) :
    Except Crash (PhoneAuthProvider URL) :=
  match finish.completion with
  | none => .error .missingCompletion
  | some a =>
      { s with
        authURLPresenter := { s.authURLPresenter with isPresenting := false }
        }.presentationCompletion a finish.result

/-- `finishPresentationWithURL:error:`. -/
def finishPresentation (s : PhoneAuthProvider URL) (result : Except AuthError URL) :
    Except Crash (PhoneAuthProvider URL) :=
  let presenter := s.authURLPresenter
  let finish := ⟨presenter.completion, result⟩
  let s :=
    { s with
      authURLPresenter :=
        { presenter with
          callbackMatcher := none, completion := none, safariViewController := none } }
  if presenter.safariViewController.isSome then
    .ok (s.dispatchAsync (.dismissViewController finish))
  else s.runFinishBlock finish

/-- The URL is the one the presentation waits for. -/
def matchesCallback (s : PhoneAuthProvider URL) (url : URL) : Bool :=
  s.authURLPresenter.isPresenting &&
    s.authURLPresenter.callbackMatcher.any fun eventID =>
      isExpectedCallbackURL (some url) eventID "verifyApp" s.config.callbackScheme

def canHandleURL (s : PhoneAuthProvider URL) (url : URL) :
    Except Crash (Bool × PhoneAuthProvider URL) :=
  if s.matchesCallback url then (s.finishPresentation (.ok url)).map fun s => (true, s)
  else .ok (false, s)

/-- `safariViewControllerDidFinish:`; the controller is forgotten first, so the
    page is not dismissed a second time. -/
def safariViewControllerDidFinish (s : PhoneAuthProvider URL) (controller : Nat) :
    Except Crash (PhoneAuthProvider URL) :=
  if s.authURLPresenter.safariViewController = some controller then
    { s with
      authURLPresenter := { s.authURLPresenter with safariViewController := none }
      }.finishPresentation (.error { code := .webContextCancelled })
  else .ok s

def runMainBlock (s : PhoneAuthProvider URL) : MainBlock URL → PhoneAuthProvider URL
  | .completion completion => { s with completions := s.completions ++ [completion] }
  | .presentSafariViewController _ =>
      { s with
        authURLPresenter :=
          { s.authURLPresenter with
            safariViewController := some s.authURLPresenter.created
            created := s.authURLPresenter.created + 1 } }
  | .webContextAlreadyPresented a =>
      s.verifyClientCompletion a none none (some { code := .webContextAlreadyPresented })
  | .dismissViewController finish => { s with dismissals := s.dismissals ++ [finish] }

-- ============================================================================
-- Steps
-- ============================================================================

/-- What can happen. -/
inductive Event (URL : Type)
  | verifyPhoneNumber (phoneNumber : String)
  | backendReply (serial : Nat) (reply : BackendReply)
  | setAPNSToken (token : APNSToken)
  | didFailToRegister
  | notification (userInfo : String → Option JSONObject)
  | timer (t : Timer)
  | openURL (url : URL)
  | safariViewControllerDidFinish (controller : Nat)
  | dismissed
  | runMainQueue

/-- Where a block leads; with a crash the process has ended, and the calls are where
    they were. -/
def ended (s : PhoneAuthProvider URL) :
    Except Crash (PhoneAuthProvider URL) → PhoneAuthProvider URL
  | .ok t => t
  | .error _ => { s with trapped := true }

def step (s : PhoneAuthProvider URL) (e : Event URL) : Option (PhoneAuthProvider URL) :=
  if s.trapped then none
  else
    match e with
    | .verifyPhoneNumber phoneNumber => some (s.verifyPhoneNumber phoneNumber)
    | .backendReply serial reply =>
        (s.requests.answer serial).bind fun r => { s with requests := r.2 }.backendReply r.1 reply
    | .setAPNSToken token => some (s.setAPNSToken token)
    | .didFailToRegister => some s.didFailToRegister
    | .notification userInfo => some (s.canHandleNotification (authNotification? userInfo)).2
    | .timer t => if t ∈ s.timers then some ({ s with timers := s.timers.erase t }.fire t) else none
    | .openURL url => some (s.ended ((s.canHandleURL url).map Prod.snd))
    | .safariViewControllerDidFinish controller =>
        some (s.ended (s.safariViewControllerDidFinish controller))
    | .dismissed =>
        match s.dismissals with
        | [] => none
        | finish :: rest => some (s.ended ({ s with dismissals := rest }.runFinishBlock finish))
    | .runMainQueue =>
        match s.mainQueue with
        | [] => none
        | block :: rest => some ({ s with mainQueue := rest }.runMainBlock block)

end Page

end PhoneAuthProvider

end Spark.Firebase
