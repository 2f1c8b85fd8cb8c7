/-
  Spark.Firebase.Auth

  `FIRAuth` and `FIRUser`: who is signed in, the users whose tokens and account
  data are being fetched, and the archive of the current user in the keychain.

  A user object is its number in the list of those created since launch.  Its
  tokens come from its `SecureTokenService`, whose callbacks go on here: the
  sign-in flow fetches the account data and makes the user the current one,
  `getIDToken` hands the token out, a reload replaces the account data, a
  deletion signs the user out.  Each block of the source that runs on the serial
  global work queue is one step, so replies for any user arrive in any order,
  for users that have been signed out in the meantime as well.

  What is relied on outside the source:
    * a request is answered at most once, with a reply of its kind;
    * a token that comes can be looked at without an exception;
    * an object read from an archive is the one that was written.
  The app uses no access group, so the user is kept under the key of the app.
-/

import Spark.Firebase.KeychainServices
import Spark.Firebase.SecureTokenService
import Spark.Lib.Calls

namespace Spark.Firebase

open Spark.Lib

-- ============================================================================
-- Users
-- ============================================================================

/-- The `NSString` object that a user ID is; it is compared by its address. -/
structure UserID where
  reference : Nat
  value : String
  deriving DecidableEq, Repr

inductive UserError
  | backend (error : NSError)
  | keychain (error : KeychainError)
  | tenantIDMismatch
  deriving DecidableEq

/-- What a callback of `internalGetTokenForcingRefresh:callback:` is for, and the
    completion `κ` of the call it is part of. -/
inductive TokenCallback (κ : Type)
  | retrieveUser (anonymous : Bool) (completion : κ)
  | getIDToken (completion : κ)
  | getAccountInfo (completion : κ)
  | deleteAccount (completion : κ)

def TokenCallback.completion {κ : Type} : TokenCallback κ → κ
  | .retrieveUser _ completion => completion
  | .getIDToken completion => completion
  | .getAccountInfo completion => completion
  | .deleteAccount completion => completion

/-- The first user of a `getAccountInfo` response; `profile` are the fields that
    are copied besides the ID. -/
structure AccountInfo (α : Type) where
  localID : Option UserID
  profile : α

structure User (α κ : Type) where
  userID : Option UserID := none
  anonymous : Bool := false
  profile : Option α := none
  tenantID : Option String := none
  tokenService : SecureTokenService (TokenCallback κ)

/-- What `encodeWithCoder:` writes of a user and of its token service. -/
structure UserArchive (α : Type) where
  userID : Option String
  anonymous : Bool
  profile : Option α
  tenantID : Option String
  tokens : Option String × Option ℚ × Option String
  deriving DecidableEq

namespace User

variable {α κ : Type}

def rawAccessToken (u : User α κ) : Option String := u.tokenService.accessToken

def encodeWithCoder (u : User α κ) : UserArchive α where
  userID := u.userID.map UserID.value
  anonymous := u.anonymous
  profile := u.profile
  tenantID := u.tenantID
  tokens := u.tokenService.tokens

/-- `initWithCoder:` of the user and of its token service; the ID is a new string
    object. -/
def initWithCoder (archive : UserArchive α) (reference : Nat) : Option (User α κ) :=
  match archive.userID, archive.tokens with
  | some userID, (accessToken, accessTokenExpirationDate, some refreshToken) =>
      some
        { userID := some ⟨reference, userID⟩
          anonymous := archive.anonymous
          profile := archive.profile
          tenantID := archive.tenantID
          tokenService := .initWithRequestConfiguration accessToken accessTokenExpirationDate
            (some refreshToken) }
  | _, _ => none

def updateWithGetAccountInfoResponse (u : User α κ) (response : AccountInfo α) : User α κ :=
  { u with userID := response.localID, profile := some response.profile }

end User

-- ============================================================================
-- The client
-- ============================================================================

/-- The requests made with the access token of a user, and what their callbacks
    capture. -/
inductive UserRequest (κ : Type)
  | retrieveUser (user : Nat) (accessToken : Option String) (anonymous : Bool) (completion : κ)
  | getAccountInfo (user : Nat) (accessToken : Option String) (completion : κ)
  | deleteAccount (user : Nat) (localID : Option UserID) (accessToken : Option String)
      (completion : κ)

namespace UserRequest

variable {κ : Type}

def user : UserRequest κ → Nat
  | .retrieveUser user .. => user
  | .getAccountInfo user .. => user
  | .deleteAccount user .. => user

def completion : UserRequest κ → κ
  | .retrieveUser _ _ _ completion => completion
  | .getAccountInfo _ _ completion => completion
  | .deleteAccount _ _ _ completion => completion

end UserRequest

inductive UserReply (α : Type)
  | getAccountInfo (result : Except NSError (AccountInfo α))
  | deleteAccount (error : Option NSError)

/-- What a completion is called with; `token` is the raw one, of which `getIDToken`
    hands on what `tokenResultWithToken:` reads. -/
structure UserCompletion (κ : Type) where
  completion : κ
  user : Option Nat := none
  token : Option String := none
  error : Option UserError := none

/-- `completions` are the calls of completions so far, `notifications` the tokens
    with which the change of the authentication state was announced. -/
structure Auth (α κ : Type) where
  firebaseAppName : String
  keychainServices : KeychainServices (UserArchive α)
  tenantID : Option String := none
  currentUser : Option Nat := none
  users : List (User α κ) := []
  lastNotifiedUserToken : Option String := none
  protectedDataDidBecomeAvailableObserver : Bool := false
  requests : Calls (UserRequest κ) := {}
  completions : List (UserCompletion κ) := []
  notifications : List (Option String) := []

namespace Auth

variable {α κ : Type}

def userKey (a : Auth α κ) : String := a.firebaseAppName ++ "_firebase_user"

/-- The user that is signed in. -/
def current (a : Auth α κ) : Option (User α κ) := a.currentUser.bind fun u => a.users[u]?

def complete (a : Auth α κ) (completion : UserCompletion κ) : Auth α κ :=
  { a with completions := a.completions ++ [completion] }

def updateUser (a : Auth α κ) (u : Nat) (user : User α κ) : Auth α κ :=
  { a with users := a.users.set u user }

def possiblyPostAuthStateChangeNotification (a : Auth α κ) : Auth α κ :=
  let token := a.current.bind User.rawAccessToken
  if a.lastNotifiedUserToken = token then a
  else { a with lastNotifiedUserToken := token, notifications := a.notifications ++ [token] }

/-- `saveUser:error:`; without a user the saved one is removed. -/
def saveUser (a : Auth α κ) (user : Option (User α κ)) (faults : KeychainFaults) :
    Except UserError Unit × Auth α κ :=
  let r := match user with
    | none => a.keychainServices.removeData a.userKey faults
    | some user => a.keychainServices.setData user.encodeWithCoder a.userKey faults
  (r.1.mapError .keychain, { a with keychainServices := r.2 })

/-- `updateCurrentUser:byForce:savingToDisk:error:`. -/
def updateCurrentUser (a : Auth α κ) (user : Option Nat) (force saveToDisk : Bool)
    (faults : KeychainFaults) : Except UserError Unit × Auth α κ :=
  if user = a.currentUser then (.ok (), a.possiblyPostAuthStateChangeNotification)
  else
    let object := user.bind fun u => a.users[u]?
    if object.isSome ∧ object.bind User.tenantID ≠ a.tenantID then (.error .tenantIDMismatch, a)
    else
      let r := if saveToDisk then a.saveUser object faults else (.ok (), a)
      match r.1 with
      | .ok () =>
          (.ok (), { r.2 with currentUser := user }.possiblyPostAuthStateChangeNotification)
      | .error error =>
          (.error error,
            if force then { r.2 with currentUser := user }.possiblyPostAuthStateChangeNotification
            else r.2)

def signOut (a : Auth α κ) (faults : KeychainFaults) : Except UserError Unit × Auth α κ :=
  if a.currentUser = none then (.ok (), a) else a.updateCurrentUser none false true faults

def signOutByForce (a : Auth α κ) (userID : Option UserID) (faults : KeychainFaults) :
    Except UserError Unit × Auth α κ :=
  if a.current.bind User.userID ≠ userID then (.ok (), a)
  else a.updateCurrentUser none true true faults

def updateKeychain (a : Auth α κ) (u : Nat) (faults : KeychainFaults) :
    Except UserError Unit × Auth α κ :=
  if some u ≠ a.currentUser then (.ok (), a)
  else
    let r := a.saveUser (a.users[u]?) faults
    match r.1 with
    | .ok () => (.ok (), r.2.possiblyPostAuthStateChangeNotification)
    | .error error => (.error error, r.2)

/-- `FIRAuthErrorCodeUserDisabled`, `UserNotFound`, `InvalidUserToken` and
    `UserTokenExpired`. -/
def invalidTokenCodes : List Int := [17005, 17011, 17017, 17021]

def signOutIfTokenIsInvalid (a : Auth α κ) (u : Nat) (error : NSError) (faults : KeychainFaults) :
    Auth α κ :=
  if error.code ∈ invalidTokenCodes then
    (a.signOutByForce ((a.users[u]?).bind User.userID) faults).2
  else a

-- ============================================================================
-- Tokens
-- ============================================================================

/-- The callback of `internalGetTokenForcingRefresh:callback:`. -/
def tokenCallback (a : Auth α κ) (u : Nat) (callback : TokenCallback κ)
    (result : Except UserError (Option String)) : Auth α κ :=
  match callback, result with
  | .getIDToken completion, .ok token => a.complete { completion, token }
  | callback, .error error => a.complete { completion := callback.completion, error := some error }
  | .retrieveUser anonymous completion, .ok token =>
      { a with requests := a.requests.issue (.retrieveUser u token anonymous completion) }
  | .getAccountInfo completion, .ok token =>
      { a with requests := a.requests.issue (.getAccountInfo u token completion) }
  | .deleteAccount completion, .ok token =>
      { a with
        requests := a.requests.issue
          (.deleteAccount u ((a.users[u]?).bind User.userID) token completion) }

/-- The callback that `internalGetTokenForcingRefresh:callback:` passes to the
    token service is called. -/
def accessTokenCall (a : Auth α κ) (u : Nat) (call : AccessTokenCall (TokenCallback κ))
    (faults : KeychainFaults) : Auth α κ :=
  match call.error with
  | some error =>
      (a.signOutIfTokenIsInvalid u error faults).tokenCallback u call.callback
        (.error (.backend error))
  | none =>
      let r := if call.tokenUpdated then a.updateKeychain u faults else (.ok (), a)
      r.2.tokenCallback u call.callback (r.1.map fun _ => call.token)

def internalGetToken (a : Auth α κ) (u : Nat) (forceRefresh : Bool) (callback : TokenCallback κ) :
    Option (Auth α κ) :=
  (a.users[u]?).map fun user =>
    a.updateUser u
      { user with tokenService := user.tokenService.fetchAccessToken forceRefresh callback }

/-- The token service of a user has reacted. -/
def tokenServiceReacted (a : Auth α κ) (u : Nat) (user : User α κ) (faults : KeychainFaults)
    (r : Option (AccessTokenCall (TokenCallback κ)) × SecureTokenService (TokenCallback κ)) :
    Auth α κ :=
  let a := a.updateUser u { user with tokenService := r.2 }
  match r.1 with
  | some call => a.accessTokenCall u call faults
  | none => a

-- ============================================================================
-- Sign-in and requests
-- ============================================================================

/-- `completeSignInWithAccessToken:...` and `retrieveUserWithAuth:...`. -/
def completeSignIn (a : Auth α κ) (accessToken : Option String)
    (accessTokenExpirationDate : Option ℚ) (refreshToken : Option String) (anonymous : Bool)
    (completion : κ) : Auth α κ :=
  let service := SecureTokenService.initWithRequestConfiguration accessToken
    accessTokenExpirationDate refreshToken
  { a with
    users := a.users ++
      [{ tenantID := a.tenantID
         tokenService := service.fetchAccessToken false (.retrieveUser anonymous completion) }] }

/-- The reply to a request; `none` where it is not one of its kind. -/
def requestCallback (a : Auth α κ) (faults : KeychainFaults) :
    UserRequest κ → UserReply α → Option (Auth α κ)
  | .retrieveUser _ _ _ completion, .getAccountInfo (.error error) =>
      some (a.complete { completion, error := some (.backend error) })
  | .retrieveUser u _ anonymous completion, .getAccountInfo (.ok response) =>
      (a.users[u]?).map fun user =>
        let a := a.updateUser u
          ({ user with anonymous }.updateWithGetAccountInfoResponse response)
        let r := a.updateCurrentUser (some u) false true faults
        match r.1 with
        | .ok () => r.2.complete { completion, user := some u }
        | .error error => r.2.complete { completion, error := some error }
  | .getAccountInfo u _ completion, .getAccountInfo (.error error) =>
      some ((a.signOutIfTokenIsInvalid u error faults).complete
        { completion, error := some (.backend error) })
  | .getAccountInfo u _ completion, .getAccountInfo (.ok response) =>
      (a.users[u]?).map fun user =>
        let a := a.updateUser u (user.updateWithGetAccountInfoResponse response)
        let r := a.updateKeychain u faults
        match r.1 with
        | .ok () => r.2.complete { completion }
        | .error error => r.2.complete { completion, error := some error }
  | .deleteAccount _ _ _ completion, .deleteAccount (some error) =>
      some (a.complete { completion, error := some (.backend error) })
  | .deleteAccount u _ _ completion, .deleteAccount none =>
      let r := a.signOutByForce ((a.users[u]?).bind User.userID) faults
      match r.1 with
      | .ok () => some (r.2.complete { completion })
      | .error error => some (r.2.complete { completion, error := some error })
  | _, _ => none

-- ============================================================================
-- Launching
-- ============================================================================

/-- `protectedDataInitialization`: the saved user becomes the current one; while
    the keychain cannot be read an observer waits for it. -/
def protectedDataInitialization (a : Auth α κ) (reference : Nat) (faults : KeychainFaults) :
    Auth α κ :=
  let r := a.keychainServices.reopened.dataForKey a.userKey faults
  match r.1 with
  | .error _ => { a with keychainServices := r.2, protectedDataDidBecomeAvailableObserver := true }
  | .ok archive =>
      let user := archive.bind fun archive => User.initWithCoder archive reference
      let a :=
        { a with
          keychainServices := r.2
          users := a.users ++ user.toList
          tenantID := user.bind User.tenantID }
      let number := user.map fun _ => a.users.length - 1
      { (a.updateCurrentUser number false false faults).2 with
        lastNotifiedUserToken := user.bind User.rawAccessToken }

/-- A new process on the same keychain. -/
def launched (a : Auth α κ) (reference : Nat) (faults : KeychainFaults) : Auth α κ :=
  protectedDataInitialization
    { firebaseAppName := a.firebaseAppName
      keychainServices := a.keychainServices
      requests := { issued := a.requests.issued }
      completions := a.completions
      notifications := a.notifications }
    reference faults

-- ============================================================================
-- Steps
-- ============================================================================

inductive Event (α κ : Type)
  | completeSignIn (accessToken : Option String) (accessTokenExpirationDate : Option ℚ)
      (refreshToken : Option String) (anonymous : Bool) (completion : κ)
  | getIDToken (user : Nat) (forceRefresh : Bool) (completion : κ)
  | getToken (forceRefresh : Bool) (completion : κ)
  | reload (user : Nat) (completion : κ)
  | delete (user : Nat) (completion : κ)
  | runTask (user : Nat) (now : ℚ)
  | secureTokenReply (user : Nat) (response : Except NSError SecureTokenResponse) (now : ℚ)
      (faults : KeychainFaults)
  | reply (serial : Nat) (reply : UserReply α) (faults : KeychainFaults)
  | signOut (faults : KeychainFaults)
  | setTenantID (tenantID : Option String)
  | protectedDataDidBecomeAvailable (reference : Nat) (faults : KeychainFaults)
  | relaunch (reference : Nat) (faults : KeychainFaults)

def Event.Relaunch : Event α κ → Prop
  | .relaunch .. => True
  | _ => False

/-- `getTokenForcingRefresh:withCallback:`. -/
def getToken (a : Auth α κ) (forceRefresh : Bool) (completion : κ) : Option (Auth α κ) :=
  match a.currentUser with
  | none => some (a.complete { completion })
  | some u => a.internalGetToken u forceRefresh (.getIDToken completion)

def step (expirationDate : String → Option ℚ) (a : Auth α κ) : Event α κ → Option (Auth α κ)
  | .completeSignIn accessToken date refreshToken anonymous completion =>
      some (a.completeSignIn accessToken date refreshToken anonymous completion)
  | .getIDToken u forceRefresh completion =>
      a.internalGetToken u forceRefresh (.getIDToken completion)
  | .getToken forceRefresh completion => a.getToken forceRefresh completion
  | .reload u completion => a.internalGetToken u false (.getAccountInfo completion)
  | .delete u completion => a.internalGetToken u false (.deleteAccount completion)
  | .runTask u now =>
      (a.users[u]?).bind fun user =>
        (user.tokenService.runTask now).map (a.tokenServiceReacted u user {})
  | .secureTokenReply u response now faults =>
      (a.users[u]?).bind fun user =>
        (user.tokenService.secureTokenReply expirationDate response now).map
          (a.tokenServiceReacted u user faults)
  | .reply serial reply faults =>
      (a.requests.answer serial).bind fun r =>
        { a with requests := r.2 }.requestCallback faults r.1 reply
  | .signOut faults => some (a.signOut faults).2
  | .setTenantID tenantID => some { a with tenantID }
  | .protectedDataDidBecomeAvailable reference faults =>
      if a.protectedDataDidBecomeAvailableObserver then
        some ({ a with
          protectedDataDidBecomeAvailableObserver := false }.protectedDataInitialization
            reference faults)
      else none
  | .relaunch reference faults => some (a.launched reference faults)

end Auth

end Spark.Firebase
