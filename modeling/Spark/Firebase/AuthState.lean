/-
  Spark.Firebase.AuthState

  The token that `FIRAuth` has announced last.

  Whoever becomes the current user, and be it nobody by force, is announced at
  once; a new token is announced when it has been saved.  So the token announced
  last is that of the current user as long as new tokens can be saved
  (`Notified.step`), whatever else the keychain refuses.
-/

import Spark.Firebase.AuthPersistence

namespace Spark.Firebase

open Spark.Lib

namespace Auth

variable {α κ : Type}

/-- The token of the current user. -/
def token (a : Auth α κ) : Option String := a.current.bind User.rawAccessToken

/-- The current user is one of the objects, and its token has been announced. -/
structure Notified (a : Auth α κ) : Prop where
  current : ∀ u, a.currentUser = some u → u < a.users.length
  token : a.lastNotifiedUserToken = a.token

theorem Notified.congr {a t : Auth α κ} (h : a.Notified) (hcurrent : t.currentUser = a.currentUser)
    (husers : t.users = a.users) (hnotified : t.lastNotifiedUserToken = a.lastNotifiedUserToken) :
    t.Notified := by
  constructor
  · rw [hcurrent, husers]
    exact h.current
  · rw [hnotified, Auth.token, Auth.current, hcurrent, husers]
    exact h.token

theorem Notified.complete {a : Auth α κ} (h : a.Notified) (completion : UserCompletion κ) :
    (a.complete completion).Notified := h.congr rfl rfl rfl

/-- A change that does not show in the token of the current user. -/
theorem Notified.updateUser {a : Auth α κ} (h : a.Notified) {u : Nat} {user user' : User α κ}
    (huser : a.users[u]? = some user)
    (hsame : a.currentUser = some u → user'.rawAccessToken = user.rawAccessToken) :
    (a.updateUser u user').Notified := by
  have hlt : u < a.users.length := (List.getElem?_eq_some_iff.mp huser).1
  constructor
  · rw [Auth.updateUser, List.length_set]
    exact h.current
  · refine h.token.trans ?_
    rw [Auth.token, Auth.token, Auth.current, Auth.current, Auth.updateUser]
    cases hcurrent : a.currentUser with
    | none => rfl
    | some v =>
        simp only [Option.bind_some]
        by_cases hv : v = u
        · rw [hv, List.getElem?_set_self hlt, huser, Option.bind_some, Option.bind_some,
            hsame (hv ▸ hcurrent)]
        · rw [List.getElem?_set_ne (Ne.symm hv)]

-- ============================================================================
-- The operations on the current user
-- ============================================================================

theorem notified_possiblyPost {a : Auth α κ}
    (hcurrent : ∀ u, a.currentUser = some u → u < a.users.length) :
    a.possiblyPostAuthStateChangeNotification.Notified := by
  obtain ⟨notifications, h⟩ := possiblyPost_eq a
  rw [h]
  exact ⟨hcurrent, rfl⟩

theorem Notified.updateCurrentUser {a : Auth α κ} (h : a.Notified) {user : Option Nat}
    (huser : ∀ u, user = some u → u < a.users.length) (force saveToDisk : Bool)
    (faults : KeychainFaults) : (a.updateCurrentUser user force saveToDisk faults).2.Notified := by
  have hposted : ∀ services : KeychainServices (UserArchive α),
      Notified (possiblyPostAuthStateChangeNotification
        { a with keychainServices := services, currentUser := user }) :=
    fun _ => notified_possiblyPost huser
  rw [Auth.updateCurrentUser]
  split
  · exact notified_possiblyPost h.current
  · dsimp only
    split
    · exact h
    · cases saveToDisk with
      | false => exact hposted a.keychainServices
      | true =>
          simp only [if_true]
          split
          · exact hposted _
          · cases force with
            | true => exact hposted _
            | false => exact h.congr rfl rfl rfl

theorem Notified.signOut {a : Auth α κ} (h : a.Notified) (faults : KeychainFaults) :
    (a.signOut faults).2.Notified := by
  rw [Auth.signOut]
  split
  · exact h
  · refine h.updateCurrentUser ?_ false true faults
    intro u hu
    cases hu

theorem Notified.signOutByForce {a : Auth α κ} (h : a.Notified) (userID : Option UserID)
    (faults : KeychainFaults) : (a.signOutByForce userID faults).2.Notified := by
  rw [Auth.signOutByForce]
  split
  · exact h
  · refine h.updateCurrentUser ?_ true true faults
    intro u hu
    cases hu

theorem Notified.signOutIfTokenIsInvalid {a : Auth α κ} (h : a.Notified) (u : Nat)
    (error : NSError) (faults : KeychainFaults) :
    (a.signOutIfTokenIsInvalid u error faults).Notified := by
  rw [Auth.signOutIfTokenIsInvalid]
  split
  · exact h.signOutByForce _ faults
  · exact h

theorem saveUser_writable (a : Auth α κ) (user : User α κ) {faults : KeychainFaults}
    (hwritable : faults.Writable) : (a.saveUser (some user) faults).1 = .ok () := by
  rcases KeychainServices.setData_spec a.keychainServices user.encodeWithCoder a.userKey
    faults with ⟨hok, -⟩ | ⟨-, -, hfault⟩
  · simp only [saveUser, hok, Except.mapError]
  · exact absurd hwritable hfault

/-- A new token that is saved is announced. -/
theorem notified_updateKeychain {a : Auth α κ} {u : Nat} {faults : KeychainFaults}
    (hcurrent : ∀ u, a.currentUser = some u → u < a.users.length)
    (hnotified : a.lastNotifiedUserToken = a.token ∨
      a.currentUser = some u ∧ faults.Writable) : (a.updateKeychain u faults).2.Notified := by
  rw [updateKeychain]
  split
  · rename_i hother
    exact ⟨hcurrent, hnotified.resolve_right fun h => hother h.1.symm⟩
  · dsimp only
    split
    · exact notified_possiblyPost hcurrent
    · rename_i error herror
      refine ⟨hcurrent, hnotified.resolve_right ?_⟩
      rintro ⟨hu, hwritable⟩
      have huser := List.getElem?_eq_getElem (hcurrent u hu)
      rw [huser, saveUser_writable a _ hwritable] at herror
      cases herror

-- ============================================================================
-- Token services and replies
-- ============================================================================

theorem Notified.tokenCallback {a : Auth α κ} (h : a.Notified) (u : Nat)
    (callback : TokenCallback κ) (result : Except UserError (Option String)) :
    (a.tokenCallback u callback result).Notified := by
  cases result <;> cases callback <;> exact h.congr rfl rfl rfl

theorem notified_accessTokenCall {a : Auth α κ} {u : Nat}
    {call : AccessTokenCall (TokenCallback κ)} {faults : KeychainFaults}
    (hcurrent : ∀ u, a.currentUser = some u → u < a.users.length)
    (hnotified : a.lastNotifiedUserToken = a.token ∨
      (call.error = none ∧ call.tokenUpdated = true) ∧ a.currentUser = some u ∧ faults.Writable) :
    (a.accessTokenCall u call faults).Notified := by
  rw [accessTokenCall.eq_def]
  cases herror : call.error with
  | some error =>
      have ha : a.Notified := by
        refine ⟨hcurrent, hnotified.resolve_right ?_⟩
        rintro ⟨⟨hnone, -⟩, -⟩
        rw [herror] at hnone
        cases hnone
      exact (ha.signOutIfTokenIsInvalid u error faults).tokenCallback u _ _
  | none =>
      dsimp only
      refine Notified.tokenCallback ?_ u _ _
      split
      · exact notified_updateKeychain hcurrent (hnotified.imp_right And.right)
      · rename_i hupdated
        exact ⟨hcurrent, hnotified.resolve_right fun h => hupdated h.1.2⟩

variable {expirationDate : String → Option ℚ}

theorem Notified.tokenServiceReacted {a : Auth α κ} (ha : a.Notified) {u : Nat} {user : User α κ}
    (huser : a.users[u]? = some user) {faults : KeychainFaults}
    {e : SecureTokenService.Event (TokenCallback κ)}
    {called : Option (AccessTokenCall (TokenCallback κ))}
    {service : SecureTokenService (TokenCallback κ)}
    (h : SecureTokenService.Reaction user.tokenService expirationDate e called service)
    (hsaves : ∀ call, called = some call → call.tokenUpdated = true → a.currentUser = some u →
      faults.Writable) :
    (a.tokenServiceReacted u user faults (called, service)).Notified := by
  have hset : (a.currentUser = some u → ∀ c, called = some c → c.tokenUpdated = false) →
      (a.updateUser u { user with tokenService := service }).Notified := by
    intro hupdated
    refine ha.updateUser huser fun hcurrent => ?_
    exact congrArg Prod.fst (h.tokens_eq (hupdated hcurrent))
  cases called with
  | none => exact hset fun _ c hc => nomatch hc
  | some call =>
      by_cases hnew : call.tokenUpdated = true ∧ a.currentUser = some u
      · obtain ⟨hupdated, hcurrent⟩ := hnew
        refine notified_accessTokenCall ?_ (.inr ⟨⟨?_, hupdated⟩, hcurrent, ?_⟩)
        · rw [Auth.updateUser, List.length_set]
          exact ha.current
        · cases herror : call.error with
          | none => rfl
          | some error => cases hupdated.symm.trans (h.tokenUpdated_of_error herror)
        · exact hsaves call rfl hupdated hcurrent
      · have hset := hset fun hcurrent c hc => by
          obtain rfl := Option.some.inj hc
          exact eq_false_of_ne_true fun hupdated => hnew ⟨hupdated, hcurrent⟩
        exact notified_accessTokenCall hset.current (.inl hset.token)

theorem Notified.requestCallback {a t : Auth α κ} (ha : a.Notified) {faults : KeychainFaults}
    {request : UserRequest κ} {reply : UserReply α}
    (h : a.requestCallback faults request reply = some t) : t.Notified := by
  unfold Auth.requestCallback at h
  split at h
  · obtain rfl := Option.some.inj h
    exact ha.complete _
  · rename_i u accessToken anonymous completion response
    obtain ⟨user, huser, rfl⟩ := Option.map_eq_some_iff.mp h
    have hset : (a.updateUser u ({ user with anonymous }.updateWithGetAccountInfoResponse
        response)).Notified := ha.updateUser huser fun _ => rfl
    have hlt : ∀ v, some u = some v → v < (a.updateUser u
        ({ user with anonymous }.updateWithGetAccountInfoResponse response)).users.length := by
      rintro v ⟨⟩
      rw [Auth.updateUser, List.length_set]
      exact (List.getElem?_eq_some_iff.mp huser).1
    have hupdated := hset.updateCurrentUser hlt false true faults
    dsimp only
    split
    · exact hupdated.complete _
    · exact hupdated.complete _
  · obtain rfl := Option.some.inj h
    exact (ha.signOutIfTokenIsInvalid _ _ faults).complete _
  · rename_i u accessToken completion response
    obtain ⟨user, huser, rfl⟩ := Option.map_eq_some_iff.mp h
    have hset : (a.updateUser u (user.updateWithGetAccountInfoResponse response)).Notified :=
      ha.updateUser huser fun _ => rfl
    have hupdated : ((a.updateUser u (user.updateWithGetAccountInfoResponse
        response)).updateKeychain u faults).2.Notified :=
      notified_updateKeychain hset.current (.inl hset.token)
    dsimp only
    split
    · exact hupdated.complete _
    · exact hupdated.complete _
  · obtain rfl := Option.some.inj h
    exact ha.complete _
  · rename_i u localID accessToken completion
    have hout := ha.signOutByForce ((a.users[u]?).bind User.userID) faults
    dsimp only at h
    split at h
    · obtain rfl := Option.some.inj h
      exact hout.complete _
    · obtain rfl := Option.some.inj h
      exact hout.complete _
  · cases h

/-- The user that is read becomes the current one and is announced. -/
theorem Notified.protectedDataInitialization {a : Auth α κ} (ha : a.Notified) (reference : Nat)
    (faults : KeychainFaults) : (a.protectedDataInitialization reference faults).Notified := by
  cases hread : (a.keychainServices.reopened.dataForKey a.userKey faults).1 with
  | error error =>
      rw [Auth.protectedDataInitialization.eq_def]
      dsimp only
      rw [hread]
      exact ha.congr rfl rfl rfl
  | ok archive =>
      rw [protectedDataInitialization_posts _ hread rfl]
      refine notified_possiblyPost fun u hu => ?_
      obtain ⟨user, huser, rfl⟩ := Option.map_eq_some_iff.mp hu
      dsimp only
      rw [huser, List.length_append]
      exact Nat.lt_succ_self _

theorem notified_launched (a : Auth α κ) (reference : Nat) (faults : KeychainFaults) :
    (a.launched reference faults).Notified := by
  rw [launched]
  refine Notified.protectedDataInitialization ⟨?_, rfl⟩ reference faults
  intro u hu
  cases hu

-- ============================================================================
-- Steps
-- ============================================================================

/-- New tokens of the current user can be saved. -/
def SavesTokens (a : Auth α κ) : Event α κ → Prop
  | .secureTokenReply u (.ok _) _ faults => a.currentUser = some u → faults.Writable
  | _ => True

theorem Saves.savesTokens {a : Auth α κ} {e : Event α κ} (h : a.Saves e) : a.SavesTokens e := by
  unfold SavesTokens
  split
  · exact h
  · trivial

theorem Notified.step {a t : Auth α κ} {e : Event α κ} (ha : a.Notified)
    (hsaves : a.SavesTokens e) (h : a.step expirationDate e = some t) : t.Notified := by
  have htoken : ∀ {u forceRefresh} {callback : TokenCallback κ},
      a.internalGetToken u forceRefresh callback = some t → t.Notified := by
    intro u forceRefresh callback h
    obtain ⟨user, huser, rfl⟩ := Option.map_eq_some_iff.mp h
    exact ha.updateUser huser fun _ => rfl
  cases e with
  | completeSignIn accessToken date refreshToken anonymous completion =>
      obtain rfl := Option.some.inj h
      refine ⟨fun u hu => ?_, ha.token.trans ?_⟩
      · rw [completeSignIn, List.length_append]
        exact Nat.lt_add_right _ (ha.current u hu)
      · rw [Auth.token, Auth.token, Auth.current, Auth.current, completeSignIn]
        cases hcurrent : a.currentUser with
        | none => rfl
        | some u =>
            simp only [Option.bind_some, List.getElem?_append_left (ha.current u hcurrent)]
  | getIDToken u forceRefresh completion => exact htoken h
  | getToken forceRefresh completion =>
      rw [Auth.step, getToken] at h
      split at h
      · obtain rfl := Option.some.inj h
        exact ha.complete _
      · exact htoken h
  | reload u completion => exact htoken h
  | delete u completion => exact htoken h
  | runTask u now =>
      obtain ⟨user, huser, h⟩ := Option.bind_eq_some_iff.mp h
      obtain ⟨⟨called, service⟩, hreact, rfl⟩ := Option.map_eq_some_iff.mp h
      exact ha.tokenServiceReacted huser
        (SecureTokenService.reaction_runTask expirationDate hreact) fun _ _ _ _ => ⟨rfl, rfl, rfl⟩
  | secureTokenReply u response now faults =>
      obtain ⟨user, huser, h⟩ := Option.bind_eq_some_iff.mp h
      obtain ⟨⟨called, service⟩, hreact, rfl⟩ := Option.map_eq_some_iff.mp h
      have hreaction := SecureTokenService.reaction_secureTokenReply hreact
      refine ha.tokenServiceReacted huser hreaction ?_
      rintro call rfl hupdated
      cases hreaction with
      | failed => cases hupdated
      | answered => exact hsaves
  | reply serial reply faults =>
      obtain ⟨⟨request, requests⟩, -, h⟩ := Option.bind_eq_some_iff.mp h
      exact Notified.requestCallback (a := { a with requests }) (ha.congr rfl rfl rfl) h
  | signOut faults =>
      obtain rfl := Option.some.inj h
      exact ha.signOut faults
  | setTenantID tenantID =>
      obtain rfl := Option.some.inj h
      exact ha.congr rfl rfl rfl
  | protectedDataDidBecomeAvailable reference faults =>
      rw [Auth.step] at h
      split at h
      · obtain rfl := Option.some.inj h
        exact Notified.protectedDataInitialization
          (a := { a with protectedDataDidBecomeAvailableObserver := false })
          (ha.congr rfl rfl rfl) reference faults
      · cases h
  | relaunch reference faults =>
      obtain rfl := Option.some.inj h
      exact notified_launched a reference faults

end Auth

end Spark.Firebase
