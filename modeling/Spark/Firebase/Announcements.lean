/-
  Spark.Firebase.Announcements

  What the listeners of `FIRAuth` hear.

  An operation announces the token of the current user when it is not the one
  that was announced last.  `Announces` says that of a piece of the client's
  work; it holds of every step, since no step announces twice.  As long as new
  tokens can be saved the token that was announced last is that of the current
  user (`Notified.step`), so the announcements of a run are the changes of that
  token, each once and in order (`run_announced`).
-/

import Spark.Firebase.Session
import Spark.Lib.Emission

namespace Spark.Firebase

open Spark.Lib

namespace Auth

variable {α κ : Type} {expirationDate : String → Option ℚ}

/-- From `a` to `t` the announcement of the last token has been made, if it is
    another one. -/
def Announces (a t : Auth α κ) : Prop :=
  t.notifications = a.notifications ++
    if a.lastNotifiedUserToken = t.lastNotifiedUserToken then [] else [t.lastNotifiedUserToken]

/-- Nothing has been announced. -/
structure Quiet (a t : Auth α κ) : Prop where
  lastNotifiedUserToken : t.lastNotifiedUserToken = a.lastNotifiedUserToken
  notifications : t.notifications = a.notifications

theorem Quiet.announces {a t : Auth α κ} (h : Quiet a t) : Announces a t := by
  rw [Announces, h.lastNotifiedUserToken, if_pos rfl, List.append_nil]
  exact h.notifications

/-- An announcement with something quiet before it or after it. -/
theorem Quiet.before {a b t : Auth α κ} (h : Quiet a b) (hannounces : Announces b t) :
    Announces a t := by
  rw [Announces, ← h.lastNotifiedUserToken, ← h.notifications]
  exact hannounces

theorem Announces.quiet {a b t : Auth α κ} (hannounces : Announces a b) (h : Quiet b t) :
    Announces a t := by
  rw [Announces, h.lastNotifiedUserToken, h.notifications]
  exact hannounces

-- ============================================================================
-- The operations
-- ============================================================================

theorem announces_possiblyPost (a : Auth α κ) :
    Announces a a.possiblyPostAuthStateChangeNotification := by
  rw [possiblyPostAuthStateChangeNotification]
  split
  · exact Quiet.announces ⟨rfl, rfl⟩
  · rename_i hother
    rw [Announces, if_neg hother]

theorem quiet_saveUser (a : Auth α κ) (user : Option (User α κ)) (faults : KeychainFaults) :
    Quiet a (a.saveUser user faults).2 := ⟨rfl, rfl⟩

theorem announces_updateCurrentUser (a : Auth α κ) (user : Option Nat) (force saveToDisk : Bool)
    (faults : KeychainFaults) : Announces a (a.updateCurrentUser user force saveToDisk faults).2 := by
  have hposted : ∀ b : Auth α κ, Quiet a b →
      Announces a { b with currentUser := user }.possiblyPostAuthStateChangeNotification := by
    intro b hb
    have hset : Quiet a { b with currentUser := user } :=
      ⟨hb.lastNotifiedUserToken, hb.notifications⟩
    exact hset.before (announces_possiblyPost _)
  rw [updateCurrentUser]
  split
  · exact announces_possiblyPost a
  · dsimp only
    split
    · exact Quiet.announces ⟨rfl, rfl⟩
    · cases saveToDisk with
      | false => exact hposted a ⟨rfl, rfl⟩
      | true =>
          have hsave := quiet_saveUser a (user.bind fun u => a.users[u]?) faults
          simp only [if_true]
          split
          · exact hposted _ hsave
          · cases force with
            | true => exact hposted _ hsave
            | false => exact hsave.announces

theorem announces_signOut (a : Auth α κ) (faults : KeychainFaults) :
    Announces a (a.signOut faults).2 := by
  rw [signOut]
  split
  · exact Quiet.announces ⟨rfl, rfl⟩
  · exact announces_updateCurrentUser a none false true faults

theorem announces_signOutByForce (a : Auth α κ) (userID : Option UserID)
    (faults : KeychainFaults) : Announces a (a.signOutByForce userID faults).2 := by
  rw [signOutByForce]
  split
  · exact Quiet.announces ⟨rfl, rfl⟩
  · exact announces_updateCurrentUser a none true true faults

theorem announces_signOutIfTokenIsInvalid (a : Auth α κ) (u : Nat) (error : NSError)
    (faults : KeychainFaults) : Announces a (a.signOutIfTokenIsInvalid u error faults) := by
  rw [signOutIfTokenIsInvalid]
  split
  · exact announces_signOutByForce a _ faults
  · exact Quiet.announces ⟨rfl, rfl⟩

theorem announces_updateKeychain (a : Auth α κ) (u : Nat) (faults : KeychainFaults) :
    Announces a (a.updateKeychain u faults).2 := by
  rw [updateKeychain]
  split
  · exact Quiet.announces ⟨rfl, rfl⟩
  · dsimp only
    split
    · exact (quiet_saveUser a _ faults).before (announces_possiblyPost _)
    · exact (quiet_saveUser a _ faults).announces

theorem quiet_tokenCallback (a : Auth α κ) (u : Nat) (callback : TokenCallback κ)
    (result : Except UserError (Option String)) :
    Quiet a (a.tokenCallback u callback result) := by
  cases result <;> cases callback <;> exact ⟨rfl, rfl⟩

theorem announces_accessTokenCall (a : Auth α κ) (u : Nat)
    (call : AccessTokenCall (TokenCallback κ)) (faults : KeychainFaults) :
    Announces a (a.accessTokenCall u call faults) := by
  rw [accessTokenCall.eq_def]
  cases call.error with
  | some error =>
      exact (announces_signOutIfTokenIsInvalid a u error faults).quiet (quiet_tokenCallback _ u _ _)
  | none =>
      dsimp only
      refine Announces.quiet ?_ (quiet_tokenCallback _ u _ _)
      split
      · exact announces_updateKeychain a u faults
      · exact Quiet.announces ⟨rfl, rfl⟩

theorem announces_tokenServiceReacted (a : Auth α κ) (u : Nat) (user : User α κ)
    (faults : KeychainFaults)
    (r : Option (AccessTokenCall (TokenCallback κ)) × SecureTokenService (TokenCallback κ)) :
    Announces a (a.tokenServiceReacted u user faults r) := by
  obtain ⟨called, service⟩ := r
  have hset : Quiet a (a.updateUser u { user with tokenService := service }) := ⟨rfl, rfl⟩
  cases called with
  | none => exact hset.announces
  | some call => exact hset.before (announces_accessTokenCall _ u call faults)

theorem announces_requestCallback {a t : Auth α κ} {faults : KeychainFaults}
    {request : UserRequest κ} {reply : UserReply α}
    (h : a.requestCallback faults request reply = some t) : Announces a t := by
  have hdone : ∀ {b : Auth α κ} {completion : UserCompletion κ}, Announces a b →
      Announces a (b.complete completion) := fun hb => hb.quiet ⟨rfl, rfl⟩
  have hset : ∀ (u : Nat) (user : User α κ), Quiet a (a.updateUser u user) :=
    fun u user => ⟨rfl, rfl⟩
  unfold requestCallback at h
  split at h
  · obtain rfl := Option.some.inj h
    exact hdone (Quiet.announces ⟨rfl, rfl⟩)
  · rename_i u accessToken anonymous completion response
    obtain ⟨user, -, rfl⟩ := Option.map_eq_some_iff.mp h
    have hupdated := (hset u ({ user with anonymous }.updateWithGetAccountInfoResponse
      response)).before (announces_updateCurrentUser _ (some u) false true faults)
    dsimp only
    split
    · exact hdone hupdated
    · exact hdone hupdated
  · rename_i u accessToken completion error
    obtain rfl := Option.some.inj h
    exact hdone (announces_signOutIfTokenIsInvalid a u error faults)
  · rename_i u accessToken completion response
    obtain ⟨user, -, rfl⟩ := Option.map_eq_some_iff.mp h
    have hupdated := (hset u (user.updateWithGetAccountInfoResponse response)).before
      (announces_updateKeychain _ u faults)
    dsimp only
    split
    · exact hdone hupdated
    · exact hdone hupdated
  · obtain rfl := Option.some.inj h
    exact hdone (Quiet.announces ⟨rfl, rfl⟩)
  · rename_i u localID accessToken completion
    have hout := announces_signOutByForce a ((a.users[u]?).bind User.userID) faults
    dsimp only at h
    split at h
    · obtain rfl := Option.some.inj h
      exact hdone hout
    · obtain rfl := Option.some.inj h
      exact hdone hout
  · cases h

theorem announces_protectedDataInitialization (a : Auth α κ) (reference : Nat)
    (faults : KeychainFaults) : Announces a (a.protectedDataInitialization reference faults) := by
  cases hread : (a.keychainServices.reopened.dataForKey a.userKey faults).1 with
  | error error =>
      rw [protectedDataInitialization.eq_def]
      dsimp only
      rw [hread]
      exact Quiet.announces ⟨rfl, rfl⟩
  | ok archive =>
      rw [protectedDataInitialization_posts _ hread rfl]
      exact Quiet.before ⟨rfl, rfl⟩ (announces_possiblyPost _)

-- ============================================================================
-- Runs
-- ============================================================================

/-- The token that a step starts from; a process that is launched knows of none. -/
def tokenBefore (a : Auth α κ) : Event α κ → Option String
  | .relaunch .. => none
  | _ => a.token

/-- The change of the token that a step makes, if it makes one. -/
def change (expirationDate : String → Option ℚ) (a : Auth α κ) (e : Event α κ) :
    List (Option String) :=
  match a.step expirationDate e with
  | none => []
  | some t => if a.tokenBefore e = t.token then [] else [t.token]

/-- Every step announces at most once, a launch from what it knows. -/
theorem announces_step {a t : Auth α κ} {e : Event α κ} (hstays : ¬e.Relaunch)
    (h : a.step expirationDate e = some t) : Announces a t := by
  have htoken : ∀ {u forceRefresh} {callback : TokenCallback κ},
      a.internalGetToken u forceRefresh callback = some t → Announces a t := by
    intro u forceRefresh callback h
    obtain ⟨user, -, rfl⟩ := Option.map_eq_some_iff.mp h
    exact Quiet.announces ⟨rfl, rfl⟩
  cases e with
  | getIDToken u forceRefresh completion => exact htoken h
  | getToken forceRefresh completion =>
      rw [step, getToken] at h
      split at h
      · obtain rfl := Option.some.inj h
        exact Quiet.announces ⟨rfl, rfl⟩
      · exact htoken h
  | reload u completion => exact htoken h
  | delete u completion => exact htoken h
  | runTask u now =>
      obtain ⟨user, -, h⟩ := Option.bind_eq_some_iff.mp h
      obtain ⟨r, -, rfl⟩ := Option.map_eq_some_iff.mp h
      exact announces_tokenServiceReacted a u user _ r
  | secureTokenReply u response now faults =>
      obtain ⟨user, -, h⟩ := Option.bind_eq_some_iff.mp h
      obtain ⟨r, -, rfl⟩ := Option.map_eq_some_iff.mp h
      exact announces_tokenServiceReacted a u user _ r
  | reply serial reply faults =>
      obtain ⟨⟨request, requests⟩, -, h⟩ := Option.bind_eq_some_iff.mp h
      have hanswered : Quiet a { a with requests } := ⟨rfl, rfl⟩
      exact hanswered.before (announces_requestCallback h)
  | signOut faults =>
      obtain rfl := Option.some.inj h
      exact announces_signOut a faults
  | protectedDataDidBecomeAvailable reference faults =>
      rw [step] at h
      split at h
      · obtain rfl := Option.some.inj h
        have hobserver : Quiet a { a with protectedDataDidBecomeAvailableObserver := false } :=
          ⟨rfl, rfl⟩
        exact hobserver.before (announces_protectedDataInitialization _ reference faults)
      · cases h
  | relaunch reference faults => exact absurd trivial hstays
  | _ =>
      obtain rfl := Option.some.inj h
      exact Quiet.announces ⟨rfl, rfl⟩

/-- While the last announcement is that of the current token, a step adds the change
    that it makes. -/
theorem notifications_step {a t : Auth α κ} {e : Event α κ}
    (h : a.step expirationDate e = some t)
    (hbefore : ¬e.Relaunch → a.lastNotifiedUserToken = a.token)
    (hafter : t.lastNotifiedUserToken = t.token) :
    t.notifications = a.notifications ++ a.change expirationDate e := by
  rw [change, h]
  dsimp only
  rw [← hafter]
  by_cases hstays : e.Relaunch
  · cases e with
    | relaunch reference faults =>
        obtain rfl := Option.some.inj h
        exact announces_protectedDataInitialization
          { firebaseAppName := a.firebaseAppName
            keychainServices := a.keychainServices
            requests := { issued := a.requests.issued }
            completions := a.completions
            notifications := a.notifications }
          reference faults
    | _ => exact hstays.elim
  · have hsame : a.tokenBefore e = a.lastNotifiedUserToken := by
      rw [hbefore hstays]
      cases e with
      | relaunch => exact absurd trivial hstays
      | _ => rfl
    rw [hsame]
    exact announces_step hstays h

/-- **Listeners hear every change once.**  After any run of an installation in which
    the new tokens of the current user can be saved, whatever else the keychain
    refuses: the announcements that have been made are the changes of the current
    user's token, in order, where a launch starts from no token. -/
theorem run_announced {i : Installation α} {es : List (Event α κ)} {t : Auth α κ}
    (hsaves : Along (step expirationDate) SavesTokens (installed i) es)
    (h : run (step expirationDate) (installed i) es = some t) :
    t.notifications =
      emitted (step expirationDate) (change expirationDate) (installed i) es := by
  have halong :=
    hsaves.and_invariant (fun _ _ _ ha hsaves ht => ha.step hsaves ht) (notified_installed i)
  have hstep : ∀ (a : Auth α κ) (e : Event α κ) (b : Auth α κ), a.Notified ∧ a.SavesTokens e →
      a.step expirationDate e = some b →
      b.notifications = a.notifications ++ a.change expirationDate e := by
    intro a e b ⟨ha, hsaves⟩ hb
    exact notifications_step hb (fun _ => ha.token) (ha.step hsaves hb).token
  exact run_log hstep es _ t halong h

/-- The keychain is locked when Ann's token turns out to be invalid. -/
def annIsSignedOut : List (Event String Nat) :=
  [.secureTokenReply 0 (.error ⟨17021⟩) 3600 { delete := some .interactionNotAllowed }]

/-- Her sign-out is announced, although she is still saved. -/
theorem run_announced_annIsSignedOut :
    ∃ t, run (step twoHours) (installed newInstall)
        (.relaunch 0 {} :: (annSignsIn ++ annIsSignedOut)) = some t ∧
      t.stored.isSome ∧ t.notifications = [some "first", none] ∧
      t.notifications = emitted (step twoHours) (change twoHours) (installed newInstall)
        (.relaunch 0 {} :: (annSignsIn ++ annIsSignedOut)) := by
  have hsome : ((run (step twoHours) (installed newInstall)
      (.relaunch 0 {} :: (annSignsIn ++ annIsSignedOut))).bind fun t =>
        if t.stored.isSome ∧ t.notifications = [some "first", none] then some () else none).isSome =
        true := by
    decide +kernel
  obtain ⟨u, hu⟩ := Option.isSome_iff_exists.mp hsome
  obtain ⟨t, ht, hvalue⟩ := Option.bind_eq_some_iff.mp hu
  split at hvalue
  · rename_i hstate
    refine ⟨t, ht, hstate.1, hstate.2, run_announced ?_ ht⟩
    have hwritable : KeychainFaults.Writable {} := ⟨rfl, rfl, rfl⟩
    refine along_of_forall ?_ _
    simp [annSignsIn, annIsSignedOut, SavesTokens, hwritable]
  · cases hvalue

end Auth

end Spark.Firebase
