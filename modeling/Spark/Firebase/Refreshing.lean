/-
  Spark.Firebase.Refreshing

  The token of a user goes on being refreshed: once refreshes are on and the app
  is in the foreground, a refresh of the current token is scheduled or under way
  (`run_refreshing`).

  A refresh under way is a fetch in the token service of the current user.  A
  step of the client that announces no token leaves the fetch there or calls its
  callback with an error (`continues_step`), and that schedules another one.  Once
  it is due, two tasks lead to the request for another token (`run_requested`).
-/

import Spark.Firebase.AutoRefresh

namespace Spark.Firebase

open Spark.Lib

variable {α κ : Type}

/-- A forced fetch waits in the token service of the user. -/
def User.Forces (user : User α κ) (completion : κ) : Prop :=
  ⟨true, .getIDToken completion⟩ ∈ user.tokenService.taskQueue.tasks

namespace Auth

variable {expirationDate : String → Option ℚ}

-- ============================================================================
-- Who is signed in
-- ============================================================================

/-- The user objects stay, and who was signed in, unless `user` now is. -/
structure Passes (a t : Auth α κ) (user : Option Nat) : Prop where
  users : t.users = a.users
  completions : t.completions = a.completions
  currentUser : t.currentUser = a.currentUser ∨ t.currentUser = user

theorem Passes.refl (a : Auth α κ) (user : Option Nat) : Passes a a user :=
  ⟨rfl, rfl, .inl rfl⟩

theorem passes_possiblyPost (a : Auth α κ) (user : Option Nat) :
    Passes a a.possiblyPostAuthStateChangeNotification user := by
  obtain ⟨notifications, heq⟩ := possiblyPost_eq a
  rw [heq]
  exact ⟨rfl, rfl, .inl rfl⟩

theorem passes_updateCurrentUser (a : Auth α κ) (user : Option Nat) (force saveToDisk : Bool)
    (faults : KeychainFaults) :
    Passes a (a.updateCurrentUser user force saveToDisk faults).2 user := by
  have hposted : ∀ b : Auth α κ, Passes a b user →
      Passes a { b with currentUser := user }.possiblyPostAuthStateChangeNotification user := by
    intro b hb
    obtain ⟨notifications, heq⟩ := possiblyPost_eq { b with currentUser := user }
    rw [heq]
    exact ⟨hb.users, hb.completions, .inr rfl⟩
  rw [updateCurrentUser]
  split
  · exact passes_possiblyPost a user
  · dsimp only
    split
    · exact .refl a user
    · have hsave : Passes a (a.saveUser (user.bind fun u => a.users[u]?) faults).2 user :=
        ⟨rfl, rfl, .inl rfl⟩
      cases saveToDisk with
      | false => exact hposted a (.refl a user)
      | true =>
          simp only [if_true]
          split
          · exact hposted _ hsave
          · cases force with
            | true => exact hposted _ hsave
            | false => exact hsave

theorem passes_signOut (a : Auth α κ) (faults : KeychainFaults) :
    Passes a (a.signOut faults).2 none := by
  rw [signOut]
  split
  · exact .refl a none
  · exact passes_updateCurrentUser a none false true faults

theorem passes_signOutByForce (a : Auth α κ) (userID : Option UserID)
    (faults : KeychainFaults) : Passes a (a.signOutByForce userID faults).2 none := by
  rw [signOutByForce]
  split
  · exact .refl a none
  · exact passes_updateCurrentUser a none true true faults

theorem passes_signOutIfTokenIsInvalid (a : Auth α κ) (u : Nat) (error : NSError)
    (faults : KeychainFaults) : Passes a (a.signOutIfTokenIsInvalid u error faults) none := by
  rw [signOutIfTokenIsInvalid]
  split
  · exact passes_signOutByForce a _ faults
  · exact .refl a none

theorem passes_updateKeychain (a : Auth α κ) (u : Nat) (faults : KeychainFaults) :
    Passes a (a.updateKeychain u faults).2 none := by
  rw [updateKeychain]
  split
  · exact .refl a none
  · dsimp only
    split
    · have hposted := passes_possiblyPost (a.saveUser (a.users[u]?) faults).2 none
      exact ⟨hposted.users, hposted.completions, hposted.currentUser⟩
    · exact ⟨rfl, rfl, .inl rfl⟩

-- ============================================================================
-- The fetches of the current user
-- ============================================================================

/-- A completion has been called with an error. -/
def Failed (a t : Auth α κ) (completion : κ) : Prop :=
  ∃ call ∈ t.completions.drop a.completions.length,
    call.completion = completion ∧ call.error.isSome

/-- `user` stays signed in, and its forced fetches wait or have failed. -/
structure Continues (a t : Auth α κ) (u : Nat) (user : User α κ) : Prop where
  currentUser : t.currentUser = some u
  fetches : ∃ user', t.users[u]? = some user' ∧
    user'.userID.map UserID.value = user.userID.map UserID.value ∧
    ∀ completion, user.Forces completion → user'.Forces completion ∨ Failed a t completion

theorem Continues.same {a t : Auth α κ} {u : Nat} {user : User α κ}
    (hcurrent : t.currentUser = some u) (huser : t.users[u]? = some user) :
    Continues a t u user :=
  ⟨hcurrent, user, huser, rfl, fun _ => .inl⟩

/-- Another user's object is replaced, or that of the user by one with the same ID
    and the same fetches. -/
theorem Continues.updateUser {a t : Auth α κ} {u v : Nat} {user user' : User α κ}
    (hcurrent : t.currentUser = some u) (huser : a.users[u]? = some user)
    (husers : t.users = a.users.set v user')
    (hsame : v = u → user'.userID.map UserID.value = user.userID.map UserID.value ∧
      ∀ completion, user.Forces completion → user'.Forces completion ∨ Failed a t completion) :
    Continues a t u user := by
  by_cases hv : v = u
  · subst hv
    obtain ⟨hid, hfetches⟩ := hsame rfl
    refine ⟨hcurrent, user', ?_, hid, hfetches⟩
    rw [husers]
    exact List.getElem?_set_self (List.getElem?_eq_some_iff.mp huser).1
  · refine .same hcurrent ?_
    rw [husers, List.getElem?_set_ne hv]
    exact huser

/-- Who was signed in still is, if anybody is. -/
theorem stays_signedIn {a t : Auth α κ} {u : Nat}
    (h : t.currentUser = a.currentUser ∨ t.currentUser = none) (hcurrent : a.currentUser = some u)
    (hsigned : t.currentUser.isSome) : t.currentUser = some u := by
  rcases h with h | h
  · exact h.trans hcurrent
  · rw [h] at hsigned
    cases hsigned

theorem frame_tokenCallback (a : Auth α κ) (u : Nat) (callback : TokenCallback κ)
    (result : Except UserError (Option String)) :
    (a.tokenCallback u callback result).users = a.users ∧
      (a.tokenCallback u callback result).currentUser = a.currentUser := by
  cases result <;> cases callback <;> exact ⟨rfl, rfl⟩

/-- A callback that is called leaves the user objects alone; one of `getIDToken`
    passes the error on. -/
theorem frame_accessTokenCall (a : Auth α κ) (u : Nat)
    (call : AccessTokenCall (TokenCallback κ)) (faults : KeychainFaults) :
    (a.accessTokenCall u call faults).users = a.users ∧
      ((a.accessTokenCall u call faults).currentUser = a.currentUser ∨
        (a.accessTokenCall u call faults).currentUser = none) ∧
      ∀ completion, call.callback = .getIDToken completion → call.error.isSome →
        Failed a (a.accessTokenCall u call faults) completion := by
  rw [accessTokenCall.eq_def]
  cases herror : call.error with
  | some error =>
      dsimp only
      have hpasses := passes_signOutIfTokenIsInvalid a u error faults
      obtain ⟨husers, hcurrent⟩ := frame_tokenCallback (a.signOutIfTokenIsInvalid u error faults)
        u call.callback (.error (.backend error))
      refine ⟨husers.trans hpasses.users, hcurrent ▸ hpasses.currentUser, ?_⟩
      intro completion hcallback _
      refine ⟨{ completion, error := some (.backend error) }, ?_, rfl, rfl⟩
      rw [hcallback]
      have hcompletions : ((a.signOutIfTokenIsInvalid u error faults).tokenCallback u
          (.getIDToken completion) (.error (.backend error))).completions =
          (a.signOutIfTokenIsInvalid u error faults).completions ++
            [{ completion, error := some (.backend error) }] := rfl
      rw [hcompletions, hpasses.completions, List.drop_left]
      exact List.mem_singleton_self _
  | none =>
      dsimp only
      have hpasses : Passes a (if call.tokenUpdated then a.updateKeychain u faults
          else (.ok (), a)).2 none := by
        split
        · exact passes_updateKeychain a u faults
        · exact .refl a none
      refine ⟨(frame_tokenCallback _ u _ _).1.trans hpasses.users, ?_, ?_⟩
      · rw [(frame_tokenCallback _ u _ _).2]
        exact hpasses.currentUser
      · intro _ _ hsome
        cases hsome

/-- What the reaction of a token service does to the client. -/
theorem frame_tokenServiceReacted (a : Auth α κ) (v : Nat) (other : User α κ)
    (faults : KeychainFaults) (called : Option (AccessTokenCall (TokenCallback κ)))
    (service : SecureTokenService (TokenCallback κ)) :
    (a.tokenServiceReacted v other faults (called, service)).users =
        a.users.set v { other with tokenService := service } ∧
      ((a.tokenServiceReacted v other faults (called, service)).currentUser = a.currentUser ∨
        (a.tokenServiceReacted v other faults (called, service)).currentUser = none) ∧
      ∀ call completion, called = some call → call.callback = .getIDToken completion →
        call.error.isSome →
        Failed a (a.tokenServiceReacted v other faults (called, service)) completion := by
  cases called with
  | none =>
      refine ⟨rfl, .inl rfl, ?_⟩
      intro _ _ hsome
      cases hsome
  | some call =>
      obtain ⟨husers, hcurrent, hfailed⟩ := frame_accessTokenCall
        (a.updateUser v { other with tokenService := service }) v call faults
      refine ⟨husers, hcurrent, ?_⟩
      rintro _ completion ⟨⟩ hcallback herror
      exact hfailed completion hcallback herror

/-- A fetch that is forced waits until a reply comes in. -/
theorem forces_reaction {s service : SecureTokenService (TokenCallback κ)}
    {e : SecureTokenService.Event (TokenCallback κ)}
    {called : Option (AccessTokenCall (TokenCallback κ))}
    (h : SecureTokenService.Reaction s expirationDate e called service)
    (hnew : ∀ response now, e = .secureTokenReply (.ok response) now →
      service.accessToken ≠ some response.accessToken)
    {callback : TokenCallback κ} (hmem : ⟨true, callback⟩ ∈ s.taskQueue.tasks) :
    ⟨true, callback⟩ ∈ service.taskQueue.tasks ∨
      ∃ call, called = some call ∧ call.callback = callback ∧ call.error.isSome := by
  cases h with
  | enqueued =>
      refine .inl ?_
      rw [SecureTokenService.fetchAccessToken, SerialQueue.tasks_enqueue]
      exact List.mem_append_left _ hmem
  | cached hstart hforce =>
      obtain ⟨-, htasks, -⟩ := SerialQueue.start_some hstart
      rw [htasks] at hmem
      rcases List.mem_cons.mp hmem with rfl | hmem
      · cases hforce
      · exact .inl hmem
  | requested hstart =>
      refine .inl ?_
      obtain ⟨-, -, -, htasks⟩ := SerialQueue.start_some hstart
      dsimp only
      rw [htasks]
      exact hmem
  | failed hrequest hrunning =>
      rw [SerialQueue.tasks_complete hrunning] at hmem
      rcases List.mem_cons.mp hmem with rfl | hmem
      · exact .inr ⟨_, rfl, rfl, rfl⟩
      · exact .inl hmem
  | repeated => exact .inl hmem
  | answered hrequest hrunning haccess => exact absurd haccess (hnew _ _ rfl)

-- ============================================================================
-- Replies that bring something new
-- ============================================================================

/-- A user who signs in has an ID and brings another token; the ID of an account
    stays. -/
def ReplyRenews (a : Auth α κ) : UserRequest κ → UserReply α → Prop
  | .retrieveUser u _ _ _, .getAccountInfo (.ok response) =>
      response.localID.isSome ∧
        (a.token.isSome → (a.users[u]?).bind User.rawAccessToken ≠ a.token)
  | .getAccountInfo u _ _, .getAccountInfo (.ok response) =>
      a.currentUser = some u → response.localID.map UserID.value = a.uid
  | _, _ => True

instance decidableReplyRenews (a : Auth α κ) :
    (request : UserRequest κ) → (reply : UserReply α) → Decidable (a.ReplyRenews request reply)
  | .retrieveUser u _ _ _, .getAccountInfo (.ok response) =>
      inferInstanceAs (Decidable (response.localID.isSome ∧
        (a.token.isSome → (a.users[u]?).bind User.rawAccessToken ≠ a.token)))
  | .getAccountInfo u _ _, .getAccountInfo (.ok response) =>
      inferInstanceAs
        (Decidable (a.currentUser = some u → response.localID.map UserID.value = a.uid))
  | .retrieveUser .., .getAccountInfo (.error _) => isTrue trivial
  | .retrieveUser .., .deleteAccount _ => isTrue trivial
  | .getAccountInfo .., .getAccountInfo (.error _) => isTrue trivial
  | .getAccountInfo .., .deleteAccount _ => isTrue trivial
  | .deleteAccount .., _ => isTrue trivial

/-- What is relied on of the replies: a token is replaced by another one.  The
    saved user is read while nobody else has signed in. -/
def Renews (a : Auth α κ) : Event α κ → Prop
  | .secureTokenReply u (.ok response) _ _ =>
      a.currentUser = some u → a.token ≠ some response.accessToken
  | .reply serial reply _ =>
      ∀ request ∈ a.requests.find? serial, a.ReplyRenews request reply
  | .protectedDataDidBecomeAvailable _ _ => a.currentUser = none
  | _ => True

instance decidableRenews (a : Auth α κ) : (e : Event α κ) → Decidable (a.Renews e)
  | .secureTokenReply u (.ok response) _ _ =>
      inferInstanceAs (Decidable (a.currentUser = some u → a.token ≠ some response.accessToken))
  | .reply serial reply _ =>
      inferInstanceAs
        (Decidable (∀ request ∈ a.requests.find? serial, a.ReplyRenews request reply))
  | .protectedDataDidBecomeAvailable _ _ => inferInstanceAs (Decidable (a.currentUser = none))
  | .secureTokenReply _ (.error _) _ _ => isTrue trivial
  | .completeSignIn .. => isTrue trivial
  | .getIDToken .. => isTrue trivial
  | .getToken .. => isTrue trivial
  | .reload .. => isTrue trivial
  | .delete .. => isTrue trivial
  | .runTask .. => isTrue trivial
  | .signOut _ => isTrue trivial
  | .setTenantID _ => isTrue trivial
  | .relaunch .. => isTrue trivial

-- ============================================================================
-- The ID of the current user
-- ============================================================================

/-- The current user is one of the objects, and has an ID. -/
def Named (a : Auth α κ) : Prop :=
  ∀ u, a.currentUser = some u → ∃ user, a.users[u]? = some user ∧ user.userID.isSome

theorem Named.of_passes {a t : Auth α κ} {user : Option Nat} (ha : a.Named) (h : Passes a t user)
    (huser : ∀ u, user = some u → ∃ x, a.users[u]? = some x ∧ x.userID.isSome) : t.Named := by
  intro u hu
  rw [h.users]
  rcases h.currentUser with hsame | hset
  · exact ha u (hsame.symm.trans hu)
  · exact huser u (hset.symm.trans hu)

/-- Nobody new is signed in. -/
theorem Named.of_passes_none {a t : Auth α κ} (ha : a.Named) (h : Passes a t none) : t.Named := by
  refine ha.of_passes h ?_
  intro u hu
  cases hu

theorem Named.updateUser {a : Auth α κ} (ha : a.Named) {u : Nat} {user user' : User α κ}
    (huser : a.users[u]? = some user) (hid : a.currentUser = some u → user'.userID.isSome) :
    (a.updateUser u user').Named := by
  intro v hv
  by_cases h : v = u
  · subst h
    exact ⟨user', List.getElem?_set_self (List.getElem?_eq_some_iff.mp huser).1, hid hv⟩
  · obtain ⟨old, hold, hid⟩ := ha v hv
    exact ⟨old, (List.getElem?_set_ne (Ne.symm h)).trans hold, hid⟩

theorem Named.userID {a : Auth α κ} (ha : a.Named) {u : Nat} {user : User α κ}
    (huser : a.users[u]? = some user) (hcurrent : a.currentUser = some u) :
    user.userID.isSome := by
  obtain ⟨user', huser', hid⟩ := ha u hcurrent
  obtain rfl := Option.some.inj (huser'.symm.trans huser)
  exact hid

theorem Named.tokenServiceReacted {a : Auth α κ} (ha : a.Named) {u : Nat} {user : User α κ}
    (huser : a.users[u]? = some user) (faults : KeychainFaults)
    (r : Option (AccessTokenCall (TokenCallback κ)) × SecureTokenService (TokenCallback κ)) :
    (a.tokenServiceReacted u user faults r).Named := by
  obtain ⟨called, service⟩ := r
  obtain ⟨husers, hwho, -⟩ := frame_tokenServiceReacted a u user faults called service
  have hid := ha.userID huser
  have hset : (a.updateUser u { user with tokenService := service }).Named :=
    ha.updateUser huser hid
  intro v hv
  rcases hwho with hsame | hnone
  · obtain ⟨x, hx, hid⟩ := hset v (hsame.symm.trans hv)
    exact ⟨x, husers ▸ hx, hid⟩
  · cases hnone.symm.trans hv

theorem Named.requestCallback {a t : Auth α κ} (ha : a.Named) {faults : KeychainFaults}
    {request : UserRequest κ} {reply : UserReply α} (hrenews : a.ReplyRenews request reply)
    (h : a.requestCallback faults request reply = some t) : t.Named := by
  unfold Auth.requestCallback at h
  split at h
  · obtain rfl := Option.some.inj h
    exact ha
  · rename_i u accessToken anonymous completion response
    obtain ⟨user, huser, rfl⟩ := Option.map_eq_some_iff.mp h
    have hset : (a.updateUser u ({ user with anonymous }.updateWithGetAccountInfoResponse
        response)).Named := ha.updateUser huser fun _ => hrenews.1
    have hupdated := hset.of_passes (passes_updateCurrentUser _ (some u) false true faults) (by
      rintro v ⟨⟩
      exact ⟨_, List.getElem?_set_self (List.getElem?_eq_some_iff.mp huser).1, hrenews.1⟩)
    dsimp only
    split
    · exact hupdated
    · exact hupdated
  · rename_i u accessToken completion error
    obtain rfl := Option.some.inj h
    have hout := ha.of_passes_none (passes_signOutIfTokenIsInvalid a u error faults)
    exact hout
  · rename_i u accessToken completion response
    obtain ⟨user, huser, rfl⟩ := Option.map_eq_some_iff.mp h
    have hset : (a.updateUser u (user.updateWithGetAccountInfoResponse response)).Named := by
      refine ha.updateUser huser fun hcurrent => ?_
      have hid := hrenews hcurrent
      rw [uid, current, hcurrent, Option.bind_some, huser, Option.bind_some] at hid
      have hsome : (user.userID.map UserID.value).isSome :=
        (Option.isSome_map ..).trans (ha.userID huser hcurrent)
      rw [← hid, Option.isSome_map] at hsome
      exact hsome
    have hupdated := hset.of_passes_none (passes_updateKeychain _ u faults)
    dsimp only
    split
    · exact hupdated
    · exact hupdated
  · obtain rfl := Option.some.inj h
    exact ha
  · rename_i u localID accessToken completion
    have hout := ha.of_passes_none (passes_signOutByForce a ((a.users[u]?).bind User.userID) faults)
    dsimp only at h
    split at h
    · obtain rfl := Option.some.inj h
      exact hout
    · obtain rfl := Option.some.inj h
      exact hout
  · cases h

/-- A user that is read from an archive has an ID. -/
theorem Named.protectedDataInitialization {a : Auth α κ} (ha : a.Named) (reference : Nat)
    (faults : KeychainFaults) : (a.protectedDataInitialization reference faults).Named := by
  cases hread : (a.keychainServices.reopened.dataForKey a.userKey faults).1 with
  | error error =>
      rw [Auth.protectedDataInitialization.eq_def]
      dsimp only
      rw [hread]
      exact ha
  | ok archive =>
      obtain ⟨notifications, h⟩ := protectedDataInitialization_ok _ hread rfl
      rw [h]
      intro u hu
      obtain ⟨user, huser, rfl⟩ := Option.map_eq_some_iff.mp hu
      refine ⟨user, ?_, ?_⟩
      · dsimp only
        rw [huser]
        simp
      · obtain ⟨archive, -, hdecode⟩ := Option.bind_eq_some_iff.mp huser
        rw [User.initWithCoder.eq_def] at hdecode
        split at hdecode
        · obtain rfl := Option.some.inj hdecode
          rfl
        · cases hdecode

theorem Named.step {a t : Auth α κ} {e : Event α κ} (ha : a.Named) (hrenews : a.Renews e)
    (h : a.step expirationDate e = some t) : t.Named := by
  have htoken : ∀ {u forceRefresh} {callback : TokenCallback κ},
      a.internalGetToken u forceRefresh callback = some t → t.Named := by
    intro u forceRefresh callback h
    obtain ⟨user, huser, rfl⟩ := Option.map_eq_some_iff.mp h
    have hid := ha.userID huser
    exact ha.updateUser huser hid
  cases e with
  | completeSignIn accessToken date refreshToken anonymous completion =>
      obtain rfl := Option.some.inj h
      intro u hu
      obtain ⟨user, huser, hid⟩ := ha u hu
      exact ⟨user, (List.getElem?_append_left (List.getElem?_eq_some_iff.mp huser).1).trans huser,
        hid⟩
  | getIDToken u forceRefresh completion => exact htoken h
  | getToken forceRefresh completion =>
      rw [Auth.step, getToken] at h
      split at h
      · obtain rfl := Option.some.inj h
        exact ha
      · exact htoken h
  | reload u completion => exact htoken h
  | delete u completion => exact htoken h
  | runTask u now =>
      obtain ⟨user, huser, h⟩ := Option.bind_eq_some_iff.mp h
      obtain ⟨r, -, rfl⟩ := Option.map_eq_some_iff.mp h
      exact ha.tokenServiceReacted huser _ r
  | secureTokenReply u response now faults =>
      obtain ⟨user, huser, h⟩ := Option.bind_eq_some_iff.mp h
      obtain ⟨r, -, rfl⟩ := Option.map_eq_some_iff.mp h
      exact ha.tokenServiceReacted huser _ r
  | reply serial reply faults =>
      obtain ⟨⟨request, requests⟩, hanswer, h⟩ := Option.bind_eq_some_iff.mp h
      exact Named.requestCallback (a := { a with requests }) ha
        (hrenews request (Calls.answer_some hanswer).1) h
  | signOut faults =>
      obtain rfl := Option.some.inj h
      exact ha.of_passes_none (passes_signOut a faults)
  | setTenantID tenantID =>
      obtain rfl := Option.some.inj h
      exact ha
  | protectedDataDidBecomeAvailable reference faults =>
      rw [Auth.step] at h
      split at h
      · obtain rfl := Option.some.inj h
        exact Named.protectedDataInitialization
          (a := { a with protectedDataDidBecomeAvailableObserver := false }) ha reference faults
      · cases h
  | relaunch reference faults =>
      obtain rfl := Option.some.inj h
      rw [launched]
      refine Named.protectedDataInitialization ?_ reference faults
      intro u hu
      cases hu

-- ============================================================================
-- A step that announces nothing
-- ============================================================================

section Steps

variable {a t : Auth α κ} {u : Nat} {user : User α κ}

theorem token_of_current (hcurrent : a.currentUser = some u) (huser : a.users[u]? = some user) :
    a.token = user.rawAccessToken := by
  rw [token, current, hcurrent, Option.bind_some, huser, Option.bind_some]

theorem uid_of_current (h : a.current = some user) : a.uid = user.userID.map UserID.value := by
  rw [uid, h, Option.bind_some]

theorem current_updateUser (hcurrent : a.currentUser = some u) (huser : a.users[u]? = some user)
    (user' : User α κ) : (a.updateUser u user').current = some user' := by
  rw [current, updateUser, hcurrent, Option.bind_some]
  exact List.getElem?_set_self (List.getElem?_eq_some_iff.mp huser).1

theorem continues_internalGetToken (hcurrent : a.currentUser = some u)
    (huser : a.users[u]? = some user) {v : Nat} {forceRefresh : Bool} {callback : TokenCallback κ}
    (h : a.internalGetToken v forceRefresh callback = some t) : Continues a t u user := by
  obtain ⟨other, hother, rfl⟩ := Option.map_eq_some_iff.mp h
  refine .updateUser hcurrent huser rfl ?_
  rintro rfl
  obtain rfl := Option.some.inj (huser.symm.trans hother)
  refine ⟨rfl, fun completion hforces => .inl ?_⟩
  rw [User.Forces, SecureTokenService.fetchAccessToken, SerialQueue.tasks_enqueue]
  exact List.mem_append_left _ hforces

theorem continues_tokenServiceReacted (hcurrent : a.currentUser = some u)
    (huser : a.users[u]? = some user) {v : Nat} {other : User α κ} {faults : KeychainFaults}
    (hother : a.users[v]? = some other) {e : SecureTokenService.Event (TokenCallback κ)}
    {called : Option (AccessTokenCall (TokenCallback κ))}
    {service : SecureTokenService (TokenCallback κ)}
    (hreact : SecureTokenService.Reaction other.tokenService expirationDate e called service)
    (hsigned : (a.tokenServiceReacted v other faults (called, service)).currentUser.isSome)
    (hnew : ∀ response now, e = .secureTokenReply (.ok response) now → v = u →
      (a.tokenServiceReacted v other faults (called, service)).token ≠
        some response.accessToken) :
    Continues a (a.tokenServiceReacted v other faults (called, service)) u user := by
  obtain ⟨husers, hwho, hfailed⟩ := frame_tokenServiceReacted a v other faults called service
  have hcurrent' := stays_signedIn hwho hcurrent hsigned
  refine .updateUser hcurrent' huser husers ?_
  rintro rfl
  obtain rfl := Option.some.inj (huser.symm.trans hother)
  refine ⟨rfl, fun completion hforces => ?_⟩
  have hset : (a.tokenServiceReacted v user faults (called, service)).users[v]? =
      some { user with tokenService := service } := by
    rw [husers]
    exact List.getElem?_set_self (List.getElem?_eq_some_iff.mp huser).1
  have hother' : ∀ response now, e = .secureTokenReply (.ok response) now →
      service.accessToken ≠ some response.accessToken := by
    intro response now he
    have hne := hnew response now he rfl
    rw [token_of_current hcurrent' hset] at hne
    exact hne
  rcases forces_reaction hreact hother' hforces with hwaits | ⟨call, hcall, hcallback, herror⟩
  · exact .inl hwaits
  · exact .inr (hfailed call completion hcall hcallback herror)

/-- A reply that signs another user in would change the token. -/
theorem continues_requestCallback (hcurrent : a.currentUser = some u)
    (huser : a.users[u]? = some user) {faults : KeychainFaults} {request : UserRequest κ}
    {reply : UserReply α} (hrenews : a.ReplyRenews request reply) (hsome : a.token.isSome)
    (htoken : t.token = a.token) (hsigned : t.currentUser.isSome)
    (h : a.requestCallback faults request reply = some t) : Continues a t u user := by
  have hpassed : ∀ {b : Auth α κ}, Passes a b none → b.currentUser.isSome →
      ∀ completion : UserCompletion κ, Continues a (b.complete completion) u user := by
    intro b hb hsigned completion
    refine .same (stays_signedIn hb.currentUser hcurrent hsigned) ?_
    rw [← huser, ← hb.users]
    rfl
  unfold requestCallback at h
  split at h
  · obtain rfl := Option.some.inj h
    exact hpassed (.refl a none) hsigned _
  · rename_i v accessToken anonymous completion response
    obtain ⟨other, hother, rfl⟩ := Option.map_eq_some_iff.mp h
    have hne : other.rawAccessToken ≠ a.token := by
      have hne := hrenews.2 hsome
      rw [hother, Option.bind_some] at hne
      exact hne
    have hv : v ≠ u := by
      rintro rfl
      obtain rfl := Option.some.inj (huser.symm.trans hother)
      exact hne (token_of_current hcurrent huser).symm
    have hpasses := passes_updateCurrentUser (a.updateUser v
      ({ other with anonymous }.updateWithGetAccountInfoResponse response)) (some v) false true
      faults
    have hcontinues : ∀ b : Auth α κ, Passes (a.updateUser v
        ({ other with anonymous }.updateWithGetAccountInfoResponse response)) b (some v) →
        ∀ completion : UserCompletion κ, (b.complete completion).token = a.token →
        Continues a (b.complete completion) u user := by
      intro b hb completion htoken
      rcases hb.currentUser with hwho | hwho
      · exact .updateUser (hwho.trans hcurrent) huser hb.users fun heq => absurd heq hv
      · refine absurd ?_ hne
        have hset : (b.complete completion).users[v]? =
            some ({ other with anonymous }.updateWithGetAccountInfoResponse response) := by
          have husers : (b.complete completion).users = _ := hb.users
          rw [husers]
          exact List.getElem?_set_self (List.getElem?_eq_some_iff.mp hother).1
        have hwho' : (b.complete completion).currentUser = some v := hwho
        rw [← htoken, token_of_current hwho' hset]
        rfl
    dsimp only at htoken ⊢
    split at htoken
    · exact hcontinues _ hpasses _ htoken
    · exact hcontinues _ hpasses _ htoken
  · rename_i v accessToken completion error
    obtain rfl := Option.some.inj h
    exact hpassed (passes_signOutIfTokenIsInvalid a v error faults) hsigned _
  · rename_i v accessToken completion response
    obtain ⟨other, hother, rfl⟩ := Option.map_eq_some_iff.mp h
    have hpasses := passes_updateKeychain
      (a.updateUser v (other.updateWithGetAccountInfoResponse response)) v faults
    have hcontinues : ∀ b : Auth α κ, Passes (a.updateUser v
        (other.updateWithGetAccountInfoResponse response)) b none → b.currentUser.isSome →
        ∀ completion : UserCompletion κ, Continues a (b.complete completion) u user := by
      intro b hb hsigned completion
      refine .updateUser (stays_signedIn hb.currentUser hcurrent hsigned) huser hb.users ?_
      rintro rfl
      obtain rfl := Option.some.inj (huser.symm.trans hother)
      refine ⟨?_, fun _ => .inl⟩
      refine (hrenews hcurrent).trans ?_
      rw [uid, current, hcurrent, Option.bind_some, huser, Option.bind_some]
    dsimp only at hsigned ⊢
    split at hsigned
    · exact hcontinues _ hpasses hsigned _
    · exact hcontinues _ hpasses hsigned _
  · obtain rfl := Option.some.inj h
    exact hpassed (.refl a none) hsigned _
  · rename_i v localID accessToken completion
    have hpasses := passes_signOutByForce a ((a.users[v]?).bind User.userID) faults
    dsimp only at h
    split at h
    · obtain rfl := Option.some.inj h
      exact hpassed hpasses hsigned _
    · obtain rfl := Option.some.inj h
      exact hpassed hpasses hsigned _
  · cases h

/-- A step after which the token is the same leaves the forced fetches of the
    current user waiting, or one of them has failed. -/
theorem continues_step {e : Event α κ} (hcurrent : a.currentUser = some u)
    (huser : a.users[u]? = some user) (hstays : ¬e.Relaunch) (hrenews : a.Renews e)
    (hsome : a.token.isSome) (htoken : t.token = a.token)
    (h : a.step expirationDate e = some t) : Continues a t u user := by
  have hsigned : t.currentUser.isSome := by
    rw [← htoken, token, current] at hsome
    cases hwho : t.currentUser with
    | none =>
        rw [hwho] at hsome
        cases hsome
    | some v => rfl
  cases e with
  | completeSignIn accessToken date refreshToken anonymous completion =>
      obtain rfl := Option.some.inj h
      exact .same hcurrent ((List.getElem?_append_left
        (List.getElem?_eq_some_iff.mp huser).1).trans huser)
  | getIDToken v forceRefresh completion => exact continues_internalGetToken hcurrent huser h
  | getToken forceRefresh completion =>
      rw [step, getToken, hcurrent] at h
      exact continues_internalGetToken hcurrent huser h
  | reload v completion => exact continues_internalGetToken hcurrent huser h
  | delete v completion => exact continues_internalGetToken hcurrent huser h
  | runTask v now =>
      obtain ⟨other, hother, h⟩ := Option.bind_eq_some_iff.mp h
      obtain ⟨⟨called, service⟩, hrun, rfl⟩ := Option.map_eq_some_iff.mp h
      refine continues_tokenServiceReacted hcurrent huser hother
        (SecureTokenService.reaction_runTask expirationDate hrun) hsigned ?_
      intro _ _ he
      cases he
  | secureTokenReply v response now faults =>
      obtain ⟨other, hother, h⟩ := Option.bind_eq_some_iff.mp h
      obtain ⟨⟨called, service⟩, hrun, rfl⟩ := Option.map_eq_some_iff.mp h
      refine continues_tokenServiceReacted hcurrent huser hother
        (SecureTokenService.reaction_secureTokenReply hrun) hsigned ?_
      rintro response now ⟨⟩ rfl
      rw [htoken]
      exact hrenews hcurrent
  | reply serial reply faults =>
      obtain ⟨⟨request, requests⟩, hanswer, h⟩ := Option.bind_eq_some_iff.mp h
      have hfind := (Calls.answer_some hanswer).1
      have hcontinues := continues_requestCallback (a := { a with requests }) hcurrent huser
        (hrenews request hfind) hsome htoken hsigned h
      exact ⟨hcontinues.currentUser, hcontinues.fetches⟩
  | signOut faults =>
      obtain rfl := Option.some.inj h
      have hpasses := passes_signOut a faults
      exact .same (stays_signedIn hpasses.currentUser hcurrent hsigned) (hpasses.users ▸ huser)
  | setTenantID tenantID =>
      obtain rfl := Option.some.inj h
      exact .same hcurrent huser
  | protectedDataDidBecomeAvailable reference faults => cases hrenews.symm.trans hcurrent
  | relaunch reference faults => exact absurd trivial hstays

end Steps

end Auth

-- ============================================================================
-- Refreshes scheduled or under way
-- ============================================================================

namespace AutoRefresh

/-- A forced fetch of a refresh waits in the token service of the current user. -/
def UnderWay (a : Auth α (κ ⊕ RefreshAttempt)) : Prop :=
  ∃ user attempt, a.current = some user ∧ user.Forces (.inr attempt) ∧
    attempt.uid = user.userID.map UserID.value

/-- The current token is to be refreshed. -/
def Pending (s : AutoRefresh α κ) : Prop :=
  ∀ accessToken, s.auth.token = some accessToken →
    (∃ task ∈ s.tasks, task.accessToken = accessToken) ∨ UnderWay s.auth

def Refreshing (s : AutoRefresh α κ) : Prop :=
  s.autoRefreshTokens = true → s.isAppInBackground = false → s.Pending

instance decidableOnAuth
    {ok : Auth α (κ ⊕ RefreshAttempt) → Auth.Event α (κ ⊕ RefreshAttempt) → Prop}
    [∀ a d, Decidable (ok a d)] (s : AutoRefresh α κ) : (e : Event α κ) → Decidable (s.OnAuth ok e)
  | .auth event _ => inferInstanceAs (Decidable (ok s.auth (event.map .inl)))
  | .runTask .. => isTrue trivial
  | .applicationDidBecomeActive _ => isTrue trivial
  | .applicationDidEnterBackground => isTrue trivial

variable {expirationDate : String → Option ℚ}

theorem pending_schedule (s : AutoRefresh α κ) (delay now : ℚ) (retry : Bool) (failures : Nat) :
    (s.scheduleAutoTokenRefreshWithDelay delay retry now failures).Pending := by
  intro accessToken htoken
  rw [(schedules_schedule delay now retry failures).auth] at htoken
  exact .inl (exists_task_schedule delay now retry failures htoken)

theorem Schedules.pending {s t : AutoRefresh α κ} (h : Schedules s t) (hs : s.Pending) :
    t.Pending := by
  intro accessToken htoken
  rw [h.auth] at htoken ⊢
  rcases hs accessToken htoken with ⟨task, hmem, htask⟩ | hunderWay
  · exact .inl ⟨task, h.tasks task hmem, htask⟩
  · exact .inr hunderWay

/-- A refresh that has failed is scheduled again by its callback. -/
theorem exists_task_callbacks {calls : List (UserCompletion (κ ⊕ RefreshAttempt))}
    {call : UserCompletion (κ ⊕ RefreshAttempt)} {attempt : RefreshAttempt} {now : ℚ}
    (hmem : call ∈ calls) (hcompletion : call.completion = .inr attempt)
    (herror : call.error.isSome) {s : AutoRefresh α κ} (hsome : s.auth.uid.isSome)
    (huid : s.auth.uid = attempt.uid) {accessToken : String}
    (htoken : s.auth.token = some accessToken) :
    ∃ task ∈ (calls.foldl (callback now) s).tasks, task.accessToken = accessToken := by
  induction calls generalizing s with
  | nil => cases hmem
  | cons other calls ih =>
      rw [List.foldl_cons]
      rcases List.mem_cons.mp hmem with rfl | hmem
      · obtain ⟨error, herror⟩ := Option.isSome_iff_exists.mp herror
        have hcallback : s.callback now call =
            s.scheduleAutoTokenRefreshWithDelay (rescheduleDelay attempt) true now
              (attempt.failures + 1) := by
          rw [callback.eq_def, hcompletion]
          dsimp only
          rw [attempted.eq_def, if_pos ⟨hsome, huid⟩, herror]
        obtain ⟨task, hmem, htask⟩ :=
          exists_task_schedule (rescheduleDelay attempt) now true (attempt.failures + 1) htoken
        rw [hcallback]
        exact ⟨task, (schedules_callbacks calls _ now).tasks task hmem, htask⟩
      · have hauth := (schedules_callback (s := s) now other).auth
        exact ih hmem (hauth ▸ hsome) (hauth ▸ huid) (hauth ▸ htoken)

/-- A fetch that a task starts. -/
theorem underWay_attempted {a t : Auth α (κ ⊕ RefreshAttempt)} {u : Nat}
    {attempt : RefreshAttempt} (hcurrent : a.currentUser = some u)
    (h : a.internalGetToken u true (.getIDToken (.inr attempt)) = some t)
    (huid : attempt.uid = a.uid) : UnderWay t := by
  obtain ⟨user, huser, rfl⟩ := Option.map_eq_some_iff.mp h
  refine ⟨_, attempt, Auth.current_updateUser hcurrent huser _, ?_, ?_⟩
  · rw [User.Forces, SecureTokenService.fetchAccessToken, SerialQueue.tasks_enqueue]
    exact List.mem_append_right _ (List.mem_singleton_self _)
  · have hcurrent' : a.current = some user := by
      rw [Auth.current, hcurrent, Option.bind_some, huser]
    have hsame : attempt.uid = user.userID.map UserID.value :=
      huid.trans (Auth.uid_of_current hcurrent')
    exact hsame

/-- A step of the client that announces nothing. -/
theorem pending_quiet {s : AutoRefresh α κ} {d : Auth.Event α (κ ⊕ RefreshAttempt)}
    {auth : Auth α (κ ⊕ RefreshAttempt)} {now : ℚ} (hs : s.Pending) (hnamed : s.auth.Named)
    (hstays : ¬d.Relaunch) (hrenews : s.auth.Renews d)
    (h : s.auth.step expirationDate d = some auth) (htoken : auth.token = s.auth.token) :
    ((auth.completions.drop s.auth.completions.length).foldl (callback now)
      { s with auth }).Pending := by
  have hcalled := schedules_callbacks (auth.completions.drop s.auth.completions.length)
    { s with auth } now
  intro accessToken hsome
  rw [hcalled.auth] at hsome ⊢
  rcases hs accessToken (htoken ▸ hsome) with
    ⟨task, hmem, htask⟩ | ⟨user, attempt, hcurrent, hforces, huid⟩
  · exact .inl ⟨task, hcalled.tasks task hmem, htask⟩
  obtain ⟨u, hu, huser⟩ := Option.bind_eq_some_iff.mp hcurrent
  obtain ⟨hu', user', huser', hid, hfetches⟩ := Auth.continues_step hu huser hstays hrenews
    (by rw [← htoken]; exact Option.isSome_iff_exists.mpr ⟨accessToken, hsome⟩) htoken h
  have hcurrent' : auth.current = some user' := by
    rw [Auth.current, hu', Option.bind_some, huser']
  rcases hfetches _ hforces with hforces' | ⟨call, hmem, hcompletion, herror⟩
  · exact .inr ⟨user', attempt, hcurrent', hforces', huid.trans hid.symm⟩
  · have hsigned : auth.uid.isSome := by
      rw [Auth.uid_of_current hcurrent', hid, Option.isSome_map]
      exact hnamed.userID huser hu
    have hsame : auth.uid = attempt.uid := by
      rw [Auth.uid_of_current hcurrent', hid, huid]
    exact .inl (exists_task_callbacks hmem hcompletion herror hsigned hsame hsome)

theorem pending_prepared {s : AutoRefresh α κ} {event : Auth.Event α κ} {now : ℚ}
    (hs : s.Refreshing) (hon : (s.prepared event now).autoRefreshTokens = true)
    (hforeground : (s.prepared event now).isAppInBackground = false) :
    (s.prepared event now).Pending := by
  rw [prepared] at hon hforeground ⊢
  split
  · rename_i hget
    rw [if_pos hget] at hforeground
    cases hoff : s.autoRefreshTokens with
    | false =>
        rw [enableAutoRefresh, hoff]
        exact pending_schedule _ _ now false 0
    | true =>
        rw [enableAutoRefresh, hoff] at hforeground ⊢
        exact hs hoff hforeground
  · rename_i hget
    rw [if_neg hget] at hon hforeground
    exact hs hon hforeground

theorem Transition.refreshing {s t : AutoRefresh α κ} {e : Event α κ}
    (h : Transition expirationDate s e t) (hs : s.Refreshing) (hright : s.Right)
    (hnotified : t.auth.Notified) (hnamed : s.auth.Named) (hrenews : s.OnAuth Auth.Renews e) :
    t.Refreshing := by
  cases h with
  | launched => exact fun hon => nomatch hon
  | @proceeded event now auth hstays hauth =>
      have hsame := auth_prepared s event now
      obtain ⟨hproceed, hcalled⟩ := auth_proceed (s.prepared event now) auth now
      intro hon hforeground
      rw [hcalled.autoRefreshTokens, autoRefreshTokens_announced] at hon
      rw [proceed, announced]
      split
      · exact (schedules_callbacks _ _ now).pending (pending_schedule _ _ now false 0)
      · -- nothing announced: the token is the old one, and what was pending for it stays
        rename_i hquiet
        have hprepared : (s.prepared event now).Pending := by
          rw [hcalled.isAppInBackground, announced, if_neg hquiet] at hforeground
          exact pending_prepared hs hon hforeground
        have htoken : auth.token = s.auth.token := by
          refine token_of_quiet (not_relaunch_map hstays) hauth hright.notified
            (hproceed ▸ hnotified) ?_
          rw [hsame] at hquiet
          exact fun hlt => hquiet ⟨hon, hlt⟩
        rw [← hsame] at hauth htoken hnamed
        have hrenews' : (s.prepared event now).auth.Renews (event.map .inl) := by
          rw [hsame]
          exact hrenews
        exact pending_quiet hprepared hnamed (not_relaunch_map hstays) hrenews' hauth htoken
  | stale htask htime htoken =>
      intro hon hforeground accessToken hcurrent
      refine (hs hon hforeground accessToken hcurrent).imp_left ?_
      refine exists_task_eraseIdx htask ?_
      rintro rfl
      exact htoken hcurrent
  | heldBack htask htime htoken hbackground =>
      intro hon hforeground
      cases hbackground.symm.trans hforeground
  | attempted htask htime htoken hforeground hcurrent hfetch =>
      exact fun _ _ _ _ => .inr (underWay_attempted hcurrent hfetch rfl)
  | unobserved => exact hs
  | @becameActive now hon =>
      intro _ _
      rw [applicationDidBecomeActive.eq_def]
      dsimp only
      split
      · rename_i hflag
        exact fun accessToken htoken => .inl (hright.flagged hflag accessToken htoken)
      · exact pending_schedule _ _ now false 0
  | enteredBackground =>
      intro _ hforeground
      cases hforeground

-- ============================================================================
-- Runs
-- ============================================================================

/-- What is relied on: the new tokens of the current user can be saved, and replies
    bring something new. -/
def Relied (a : Auth α κ) (e : Auth.Event α κ) : Prop := a.SavesTokens e ∧ a.Renews e

theorem refreshing_run {i : Installation α} {es : List (Event α κ)} {t : AutoRefresh α κ}
    (hok : Along (step expirationDate) (OnAuth Relied) (installed i) es)
    (h : run (step expirationDate) (installed i) es = some t) : t.Right ∧ t.Refreshing := by
  have hstep : ∀ (s : AutoRefresh α κ) (e : Event α κ) (t : AutoRefresh α κ),
      s.Right ∧ s.auth.Named ∧ s.Refreshing → s.OnAuth Relied e →
      s.step expirationDate e = some t → t.Right ∧ t.auth.Named ∧ t.Refreshing := by
    intro s e t ⟨hright, hnamed, hrefreshing⟩ hok ht
    have hsaves : s.OnAuth Auth.SavesTokens e := onAuth_imp (fun _ _ => And.left) hok
    have hrenews : s.OnAuth Auth.Renews e := onAuth_imp (fun _ _ => And.right) hok
    have hright' : t.Right := hright.step s e t hsaves ht
    refine ⟨hright', ?_, (step_cases ht).refreshing hrefreshing hright hright'.notified hnamed
      hrenews⟩
    exact invariant_client (fun _ _ _ => trivial) (fun _ _ _ ha hrenews hd => ha.step hrenews hd)
      hnamed hrenews ht
  have hnamed : (installed i : AutoRefresh α κ).auth.Named := fun u hu => nomatch hu
  have hend := run_invariant hstep es _ t
    ⟨right_installed i, hnamed, fun hon => nomatch hon⟩ hok h
  exact ⟨hend.1, hend.2.2⟩

/-- **Refreshes go on.**  After any run of an installation, while refreshes are on and
    the app is in the foreground: the token of the current user is to be refreshed
    by a task that is scheduled, or a forced fetch for it waits in the token
    service of the user.  Relied on are a keychain that takes the new tokens of the
    current user, and replies that replace a token by another one; failures may
    befall every refresh. -/
theorem run_refreshing {i : Installation α} {es : List (Event α κ)} {t : AutoRefresh α κ}
    (hok : Along (step expirationDate) (OnAuth Relied) (installed i) es)
    (h : run (step expirationDate) (installed i) es = some t)
    (hon : t.autoRefreshTokens = true) (hforeground : t.isAppInBackground = false)
    {accessToken : String} (htoken : t.auth.token = some accessToken) :
    (∃ task ∈ t.tasks, task.accessToken = accessToken) ∨
      ∃ user attempt, t.auth.current = some user ∧ user.Forces (.inr attempt) ∧
        attempt.uid = user.userID.map UserID.value :=
  (refreshing_run hok h).2 hon hforeground accessToken htoken

-- ============================================================================
-- The next refresh
-- ============================================================================

/-- What happens by itself when the clock reads `now`: a task of the global queue
    runs, or the next one of a token service. -/
def Event.RunsAt (now : ℚ) : Event α κ → Prop
  | .auth (.runTask _ now') _ => now' = now
  | .runTask _ now' => now' = now
  | _ => False

/-- A request for another token of the current user has been made. -/
def Requested (a : Auth α κ) : Prop :=
  ∃ user, a.current = some user ∧ user.tokenService.request.isSome

theorem requests_underWay {s : AutoRefresh α κ} (hwf : s.auth.work.WellFormed)
    (h : UnderWay s.auth) :
    ∃ due, ∀ now, due ≤ now → ∃ es t, es.length ≤ 1 ∧ (∀ e ∈ es, Event.RunsAt now e) ∧
      run (step expirationDate) s es = some t ∧ Requested t.auth := by
  obtain ⟨user, attempt, hcurrent, hforces, -⟩ := h
  cases hrequest : user.tokenService.request with
  | some retryIfExpired =>
      refine ⟨0, fun now _ => ⟨[], s, Nat.zero_le 1, ?_, rfl, user, hcurrent, ?_⟩⟩
      · intro e hmem
        cases hmem
      · rw [hrequest]
        rfl
  | none =>
      -- the next task makes the request, whichever it is: no cached token is valid
      obtain ⟨u, hu, huser⟩ := Option.bind_eq_some_iff.mp hcurrent
      have hservice := hwf.services _ (List.mem_of_getElem? (Auth.services_work huser))
      obtain ⟨service, due, hmade, hruns⟩ :=
        hservice.exists_request (List.ne_nil_of_mem hforces) hrequest
      refine ⟨due, fun now hdue => ?_⟩
      obtain ⟨auth, hstep, hcurrent'⟩ : ∃ auth,
          s.auth.step expirationDate (.runTask u now) = some auth ∧
            auth.current = some { user with tokenService := service } := by
        refine ⟨_, ?_, Auth.current_updateUser hu huser _⟩
        rw [Auth.step, huser, Option.bind_some, hruns now hdue]
        rfl
      have hrun : s.step expirationDate (.auth (.runTask u now) now) = some (s.proceed auth now) :=
        congrArg (Option.map fun auth => s.proceed auth now) hstep
      refine ⟨[.auth (.runTask u now) now], s.proceed auth now, Nat.le_refl 1, ?_, ?_, ?_⟩
      · intro e hmem
        obtain rfl := List.mem_singleton.mp hmem
        rfl
      · rw [run_cons, hrun]
        rfl
      · rw [(auth_proceed s auth now).1]
        exact ⟨_, hcurrent', hmade⟩

/-- A task that is scheduled for the current token makes the client fetch another. -/
theorem attempted_runTask {s : AutoRefresh α κ} (hwf : s.auth.work.WellFormed)
    (hforeground : s.isAppInBackground = false) {i : Nat} {task : RefreshTask}
    (htask : s.tasks[i]? = some task) (htoken : s.auth.token = some task.accessToken) :
    ∃ t, (∀ now, task.time ≤ now → s.step expirationDate (.runTask i now) = some t) ∧
      t.auth.work.WellFormed ∧ UnderWay t.auth := by
  obtain ⟨u, auth, hcurrent, hfetch, hattempt⟩ := exists_attempt
    (s := { s with tasks := s.tasks.eraseIdx i, autoRefreshScheduled := false }) htoken
    ⟨s.auth.uid, task.delay, task.retry, task.failures⟩
  have hunderWay : UnderWay auth := underWay_attempted (a := s.auth) hcurrent hfetch rfl
  refine ⟨{ s with auth, tasks := s.tasks.eraseIdx i, autoRefreshScheduled := false },
    fun now hdue => ?_, (inFlight_attempted hwf hfetch).2, hunderWay⟩
  rw [step, htask, Option.bind_some, if_pos hdue, runTask, if_pos htoken]
  dsimp only
  rw [if_neg (ne_true_of_eq_false hforeground)]
  exact congrArg some hattempt

/-- **The next refresh comes.**  After any such run there is a time from which on
    two tasks at most, of those that are waiting, lead to a request for another
    token of the current user. -/
theorem run_requested {i : Installation α} {es : List (Event α κ)} {t : AutoRefresh α κ}
    (hok : Along (step expirationDate) (OnAuth Relied) (installed i) es)
    (h : run (step expirationDate) (installed i) es = some t)
    (hon : t.autoRefreshTokens = true) (hforeground : t.isAppInBackground = false)
    (htoken : t.auth.token.isSome) :
    ∃ due, ∀ now, due ≤ now → ∃ es t', es.length ≤ 2 ∧ (∀ e ∈ es, Event.RunsAt now e) ∧
      run (step expirationDate) t es = some t' ∧ Requested t'.auth := by
  obtain ⟨hright, hrefreshing⟩ := refreshing_run hok h
  have hwf := hright.wellFormed.work
  obtain ⟨accessToken, htoken⟩ := Option.isSome_iff_exists.mp htoken
  rcases hrefreshing hon hforeground accessToken htoken with ⟨task, hmem, rfl⟩ | hunderWay
  · obtain ⟨i, htask⟩ := List.mem_iff_getElem?.mp hmem
    obtain ⟨s, hruns, hwf', hunderWay⟩ := attempted_runTask hwf hforeground htask htoken
    obtain ⟨due, hdue⟩ := requests_underWay hwf' hunderWay
    refine ⟨max task.time due, fun now hnow => ?_⟩
    obtain ⟨es, t', hlength, hat, hrun, hrequested⟩ := hdue now (le_trans (le_max_right _ _) hnow)
    refine ⟨.runTask i now :: es, t', Nat.succ_le_succ hlength, ?_, ?_, hrequested⟩
    · intro e hmem
      rcases List.mem_cons.mp hmem with rfl | hmem
      · rfl
      · exact hat e hmem
    · rw [run_cons, hruns now (le_trans (le_max_left _ _) hnow)]
      exact hrun
  · obtain ⟨due, hdue⟩ := requests_underWay hwf hunderWay
    refine ⟨due, fun now hnow => ?_⟩
    obtain ⟨es, t', hlength, hat, hrun, hrequested⟩ := hdue now hnow
    exact ⟨es, t', Nat.le_succ_of_le hlength, hat, hrun, hrequested⟩

-- ============================================================================
-- A refresh under way
-- ============================================================================

/-- The task for Ann's old token does nothing, the one for the new token fetches
    another. -/
def refreshStarts : List (Event String Nat) :=
  (Auth.tokenReplaced.map fun event => .auth event 3600) ++ [.runTask 0 6900, .runTask 0 6900]

theorem isSome_refreshStarts : ((run (step Auth.twoHours) (installed Auth.newInstall)
    (.auth (.relaunch 0 {}) 0 :: (annIsRefreshed ++ refreshStarts))).bind fun t =>
      if t.autoRefreshTokens = true ∧ t.isAppInBackground = false ∧ t.tasks = [] then
        t.auth.token else none) = some "second" := by
  decide +kernel

theorem along_refreshStarts : Along (step Auth.twoHours) (OnAuth Relied)
    (installed Auth.newInstall)
    (.auth (.relaunch 0 {}) 0 :: (annIsRefreshed ++ refreshStarts)) := by
  have hrenews : Along (step Auth.twoHours) (OnAuth Auth.Renews) (installed Auth.newInstall)
      (.auth (.relaunch 0 {}) 0 :: (annIsRefreshed ++ refreshStarts)) := by
    decide +kernel
  have hsaves : Along (step Auth.twoHours) (OnAuth Auth.SavesTokens) (installed Auth.newInstall)
      (.auth (.relaunch 0 {}) 0 :: (annIsRefreshed ++ refreshStarts)) := by
    have hwritable : KeychainFaults.Writable {} := ⟨rfl, rfl, rfl⟩
    refine along_of_forall ?_ _
    simp [annIsRefreshed, refreshStarts, Auth.annSignsIn, Auth.tokenReplaced, OnAuth,
      Auth.Event.map, Auth.SavesTokens, hwritable]
  exact (hsaves.and hrenews).imp fun _ _ h => onAuth_and h.1 h.2

theorem run_requested_refreshStarts :
    ∃ t, run (step Auth.twoHours) (installed Auth.newInstall)
        (.auth (.relaunch 0 {}) 0 :: (annIsRefreshed ++ refreshStarts)) = some t ∧
      ∃ due, ∀ now, due ≤ now → ∃ es t', es.length ≤ 2 ∧ (∀ e ∈ es, Event.RunsAt now e) ∧
        run (step Auth.twoHours) t es = some t' ∧ Requested t'.auth := by
  obtain ⟨t, ht, hvalue⟩ := Option.bind_eq_some_iff.mp isSome_refreshStarts
  split at hvalue
  · rename_i hstate
    obtain ⟨hon, hforeground, -⟩ := hstate
    exact ⟨t, ht, run_requested along_refreshStarts ht hon hforeground
      (Option.isSome_iff_exists.mpr ⟨"second", hvalue⟩)⟩
  · cases hvalue

theorem run_refreshing_refreshStarts :
    ∃ t, run (step Auth.twoHours) (installed Auth.newInstall)
        (.auth (.relaunch 0 {}) 0 :: (annIsRefreshed ++ refreshStarts)) = some t ∧
      ∃ user attempt, t.auth.current = some user ∧ user.Forces (.inr attempt) ∧
        attempt.uid = user.userID.map UserID.value := by
  obtain ⟨t, ht, hvalue⟩ := Option.bind_eq_some_iff.mp isSome_refreshStarts
  split at hvalue
  · rename_i hstate
    obtain ⟨hon, hforeground, hnone⟩ := hstate
    refine ⟨t, ht, (run_refreshing along_refreshStarts ht hon hforeground hvalue).resolve_left ?_⟩
    rintro ⟨task, hmem, -⟩
    rw [hnone] at hmem
    cases hmem
  · cases hvalue

end AutoRefresh

end Spark.Firebase
