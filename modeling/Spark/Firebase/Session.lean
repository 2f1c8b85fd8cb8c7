/-
  Spark.Firebase.Session

  What the app may rely on of the session: who is signed in is what the keychain
  holds, from the first launch on (`run_mirrored`), so the next launch brings
  the same user back with the same tokens (`run_restored`), and whoever has
  signed out stays signed out until somebody signs in, whatever replies are
  still to come (`run_signedOut`).
-/

import Spark.Firebase.AuthState

namespace Spark.Firebase

open Spark.Lib

/-- The app and a keychain on which it has not run, or has left an archive. -/
structure Installation (α : Type) where
  firebaseAppName : String
  service : String
  keychain : Keychain (UserArchive α) := []
  decodable : ∀ archive,
    KeychainServices.data { service, keychain } (firebaseAppName ++ "_firebase_user") =
      some archive → archive.Decodable

namespace Auth

variable {α κ : Type}

/-- The app before its first launch. -/
def installed (i : Installation α) : Auth α κ where
  firebaseAppName := i.firebaseAppName
  keychainServices := { service := i.service, keychain := i.keychain }

theorem sound_installed (i : Installation α) : (installed i : Auth α κ).Sound := by
  constructor
  · exact fun hdeleted => absurd hdeleted (Finset.notMem_empty _)
  · exact i.decodable
  · exact fun u hu => nomatch hu
  · exact fun x hx => nomatch hx
  · exact fun p hp => nomatch hp
  · exact .none_outstanding 0
  · exact fun v => Nat.zero_le _
  · exact fun u hu => nomatch hu

theorem notified_installed (i : Installation α) : (installed i : Auth α κ).Notified := by
  refine ⟨?_, rfl⟩
  intro u hu
  cases hu

variable {expirationDate : String → Option ℚ}

-- ============================================================================
-- The keychain
-- ============================================================================

/-- Every state after the first launch. -/
theorem run_sound {i : Installation α} {reference : Nat} {faults : KeychainFaults}
    {es : List (Event α κ)} {t : Auth α κ}
    (hanswered : Along (step expirationDate) Answered (installed i)
      (.relaunch reference faults :: es))
    (h : run (step expirationDate) (installed i) (.relaunch reference faults :: es) = some t) :
    t.Sound :=
  run_invariant (fun _ _ _ hs hanswered ht => (sound_step hs hanswered ht).1) _ _ t
    (sound_installed i) hanswered h

theorem sound_mirrored_step (a : Auth α κ) (e : Event α κ) (b : Auth α κ)
    (ha : a.Sound ∧ a.Mirrored) (hok : a.Answered e ∧ a.Saves e)
    (hb : a.step expirationDate e = some b) : b.Sound ∧ b.Mirrored := by
  obtain ⟨hsound, hmirrored⟩ := sound_step ha.1 hok.1 hb
  exact ⟨hsound, hmirrored ha.2 hok.2⟩

theorem mirrored_of_run {i : Installation α} {reference : Nat} {faults : KeychainFaults}
    {es : List (Event α κ)} {t : Auth α κ}
    (hok : Along (step expirationDate) (fun a e => a.Answered e ∧ a.Saves e) (installed i)
      (.relaunch reference faults :: es))
    (h : run (step expirationDate) (installed i) (.relaunch reference faults :: es) = some t) :
    t.Sound ∧ t.Mirrored := by
  have hlaunched := sound_launched (sound_installed (κ := κ) i) hok.head.1.1 reference
  obtain ⟨u, hu, hrest⟩ := run_cons_some h
  obtain rfl : (installed i).launched reference faults = u := Option.some.inj hu
  exact run_invariant sound_mirrored_step es _ t hlaunched (hok.tail hu) hrest

/-- The announcement that was made last, in every state after the installation. -/
theorem notified_of_run {i : Installation α} {es : List (Event α κ)} {t : Auth α κ}
    (hsaves : Along (step expirationDate) SavesTokens (installed i) es)
    (h : run (step expirationDate) (installed i) es = some t) : t.Notified := by
  exact run_invariant (fun _ _ _ ha hsaves ht => ha.step hsaves ht) es _ t (notified_installed i)
    hsaves h

/-- **The keychain holds who is signed in.**  After any run that begins with a
    launch, whatever users sign in and out, whatever tokens are refreshed and
    whichever replies come late: the keychain holds the archive of the current
    user and none if there is none, or it has not been read yet; and the change
    to the current user's token has been announced.  Keychain errors may befall
    sign-ins, sign-outs and launches, and every reply that brings the current user
    nothing new and signs nobody out. -/
theorem run_mirrored {i : Installation α} {reference : Nat} {faults : KeychainFaults}
    {es : List (Event α κ)} {t : Auth α κ}
    (hok : Along (step expirationDate) (fun a e => a.Answered e ∧ a.Saves e) (installed i)
      (.relaunch reference faults :: es))
    (h : run (step expirationDate) (installed i) (.relaunch reference faults :: es) = some t) :
    (t.stored = t.current.map User.encodeWithCoder ∨ t.Unread) ∧
      t.lastNotifiedUserToken = t.current.bind User.rawAccessToken := by
  obtain ⟨-, hmirrored⟩ := mirrored_of_run hok h
  have hnotified := notified_of_run (hok.imp fun _ _ hok => hok.2.savesTokens) h
  exact ⟨hmirrored, hnotified.token⟩

/-- **The session survives the process.**  Launched again with a keychain that can
    be read, the app has the same user, with the same tokens and account data, or
    nobody if nobody was signed in.  While the saved user has not been read and
    nobody is signed in the keychain may hold somebody else. -/
theorem run_restored {i : Installation α} {reference reference' : Nat} {faults : KeychainFaults}
    {es : List (Event α κ)} {t u : Auth α κ}
    (hok : Along (step expirationDate) (fun a e => a.Answered e ∧ a.Saves e) (installed i)
      (.relaunch reference faults :: es))
    (h : run (step expirationDate) (installed i) (.relaunch reference faults :: es) = some t)
    (hread : ¬t.Unread) (hu : t.step expirationDate (.relaunch reference' {}) = some u) :
    u.current.map User.encodeWithCoder = t.current.map User.encodeWithCoder := by
  obtain ⟨hsound, hmirrored⟩ := mirrored_of_run hok h
  obtain rfl := Option.some.inj hu
  have hstored := hmirrored.resolve_right hread
  rw [launched]
  rcases protectedDataInitialization_cases hsound.blank {} (.inl rfl) reference' with
    ⟨-, -, -, -, error, herror⟩ | ⟨-, -, hcurrent⟩
  · have hread := KeychainServices.dataForKey_ok t.keychainServices.reopened t.userKey
    cases herror.symm.trans hread
  · exact hcurrent.trans hstored

-- ============================================================================
-- Signed out
-- ============================================================================

/-- Nobody is signed in, and no user is saved. -/
structure SignedOut (a : Auth α κ) : Prop where
  currentUser : a.currentUser = none
  stored : a.stored = none
  settled : a.keychainServices.Settled a.userKey

/-- The account data of a user who signs in arrives. -/
def SignsIn (a : Auth α κ) : Event α κ → Prop
  | .reply serial (.getAccountInfo (.ok _)) _ =>
      ∃ request v, a.requests.find? serial = some request ∧ request.retrieves v = true
  | _ => False

/-- What concerns the session has not changed. -/
structure SameSession (a t : Auth α κ) : Prop where
  firebaseAppName : t.firebaseAppName = a.firebaseAppName
  keychainServices : t.keychainServices = a.keychainServices
  currentUser : t.currentUser = a.currentUser

theorem SameSession.signedOut {a t : Auth α κ} (h : SameSession a t) (ha : a.SignedOut) :
    t.SignedOut := by
  have hkey : t.userKey = a.userKey := congrArg (· ++ "_firebase_user") h.firebaseAppName
  constructor
  · exact h.currentUser.trans ha.currentUser
  · rw [Auth.stored, h.keychainServices, hkey]
    exact ha.stored
  · rw [h.keychainServices, hkey]
    exact ha.settled

theorem SameSession.trans {a t u : Auth α κ} (h : SameSession a t) (h' : SameSession t u) :
    SameSession a u :=
  ⟨h'.firebaseAppName.trans h.firebaseAppName, h'.keychainServices.trans h.keychainServices,
    h'.currentUser.trans h.currentUser⟩

theorem sameSession_possiblyPost (a : Auth α κ) :
    SameSession a a.possiblyPostAuthStateChangeNotification := by
  obtain ⟨notifications, h⟩ := possiblyPost_eq a
  rw [h]
  exact ⟨rfl, rfl, rfl⟩

/-- A forced sign-out of nobody. -/
theorem sameSession_signOutByForce {a : Auth α κ} (h : a.currentUser = none)
    (userID : Option UserID) (faults : KeychainFaults) :
    SameSession a (a.signOutByForce userID faults).2 := by
  rw [signOutByForce]
  split
  · exact ⟨rfl, rfl, rfl⟩
  · rw [updateCurrentUser, if_pos h.symm]
    exact sameSession_possiblyPost a

theorem sameSession_signOutIfTokenIsInvalid {a : Auth α κ} (h : a.currentUser = none) (u : Nat)
    (error : NSError) (faults : KeychainFaults) :
    SameSession a (a.signOutIfTokenIsInvalid u error faults) := by
  rw [signOutIfTokenIsInvalid]
  split
  · exact sameSession_signOutByForce h _ _
  · exact ⟨rfl, rfl, rfl⟩

theorem sameSession_tokenCallback (a : Auth α κ) (u : Nat) (callback : TokenCallback κ)
    (result : Except UserError (Option String)) :
    SameSession a (a.tokenCallback u callback result) := by
  cases result <;> cases callback <;> exact ⟨rfl, rfl, rfl⟩

/-- New tokens of a user who has been signed out are not saved. -/
theorem sameSession_accessTokenCall {a : Auth α κ} (h : a.currentUser = none) (u : Nat)
    (call : AccessTokenCall (TokenCallback κ)) (faults : KeychainFaults) :
    SameSession a (a.accessTokenCall u call faults) := by
  rw [accessTokenCall.eq_def]
  cases call.error with
  | some error =>
      exact (sameSession_signOutIfTokenIsInvalid h u error faults).trans
        (sameSession_tokenCallback _ _ _ _)
  | none =>
      refine SameSession.trans ?_ (sameSession_tokenCallback _ _ _ _)
      split
      · rw [updateKeychain, if_pos (h ▸ Option.some_ne_none u)]
        exact ⟨rfl, rfl, rfl⟩
      · exact ⟨rfl, rfl, rfl⟩

theorem sameSession_requestCallback {a t : Auth α κ} (h : a.currentUser = none)
    {request : UserRequest κ} {reply : UserReply α} {faults : KeychainFaults}
    (hno : ∀ v response, request.retrieves v = true → reply ≠ .getAccountInfo (.ok response))
    (ht : a.requestCallback faults request reply = some t) : SameSession a t := by
  unfold requestCallback at ht
  split at ht
  · obtain rfl := Option.some.inj ht
    exact ⟨rfl, rfl, rfl⟩
  · rename_i u token anonymous completion response
    exact absurd rfl (hno u response (by simp [UserRequest.retrieves]))
  · rename_i u token completion error
    obtain rfl := Option.some.inj ht
    refine SameSession.trans (t := a.signOutIfTokenIsInvalid u error faults) ?_ ⟨rfl, rfl, rfl⟩
    exact sameSession_signOutIfTokenIsInvalid h u error faults
  · rename_i u token completion response
    obtain ⟨user, -, rfl⟩ := Option.map_eq_some_iff.mp ht
    have hnoop : (a.updateUser u (user.updateWithGetAccountInfoResponse response)).updateKeychain u
        faults = (.ok (), a.updateUser u (user.updateWithGetAccountInfoResponse response)) := by
      have hne : some u ≠
          (a.updateUser u (user.updateWithGetAccountInfoResponse response)).currentUser :=
        fun hsome => Option.some_ne_none u (hsome.trans h)
      rw [updateKeychain, if_pos hne]
    simp only [hnoop]
    exact ⟨rfl, rfl, rfl⟩
  · obtain rfl := Option.some.inj ht
    exact ⟨rfl, rfl, rfl⟩
  · dsimp only at ht
    split at ht
    · obtain rfl := Option.some.inj ht
      exact (sameSession_signOutByForce h _ _).trans ⟨rfl, rfl, rfl⟩
    · obtain rfl := Option.some.inj ht
      exact (sameSession_signOutByForce h _ _).trans ⟨rfl, rfl, rfl⟩
  · cases ht

/-- A launch finds nobody to sign in. -/
theorem SignedOut.protectedDataInitialization {a : Auth α κ} (ha : a.SignedOut) (reference : Nat)
    (faults : KeychainFaults) : (a.protectedDataInitialization reference faults).SignedOut := by
  have hstored : a.keychainServices.reopened.data a.userKey = none :=
    (KeychainServices.data_reopened ha.settled).trans ha.stored
  have hlegacy : a.keychainServices.reopened.legacyData a.userKey = none :=
    (Option.or_eq_none_iff.mp hstored).2
  obtain ⟨hdata, hfound, hsettled⟩ :=
    KeychainServices.dataForKey_spec a.keychainServices.reopened a.userKey faults
  have hsettled' := hsettled (.inr hlegacy) fun hdeleted => absurd hdeleted (Finset.notMem_empty _)
  cases hread : (a.keychainServices.reopened.dataForKey a.userKey faults).1 with
  | error error =>
      rw [Auth.protectedDataInitialization.eq_def]
      dsimp only
      rw [hread]
      exact ⟨ha.currentUser, hdata.trans hstored, hsettled'⟩
  | ok archive =>
      obtain rfl : archive = none := (hfound archive hread).trans hstored
      obtain ⟨notifications, h⟩ :=
        protectedDataInitialization_ok none hread rfl
      rw [h]
      exact ⟨rfl, hdata.trans hstored, hsettled'⟩

theorem SignedOut.step {a t : Auth α κ} {e : Event α κ} (ha : a.SignedOut) (hno : ¬a.SignsIn e)
    (h : a.step expirationDate e = some t) : t.SignedOut := by
  have htoken : ∀ {u forceRefresh} {callback : TokenCallback κ},
      a.internalGetToken u forceRefresh callback = some t → t.SignedOut := by
    intro u forceRefresh callback h
    obtain ⟨user, -, rfl⟩ := Option.map_eq_some_iff.mp h
    exact SameSession.signedOut (a := a) ⟨rfl, rfl, rfl⟩ ha
  have hreacted : ∀ {u user faults r}, SameSession a (a.tokenServiceReacted u user faults r) := by
    rintro u user faults ⟨_ | call, service⟩
    · exact ⟨rfl, rfl, rfl⟩
    · exact SameSession.trans (a := a) (t := a.updateUser u { user with tokenService := service })
        ⟨rfl, rfl, rfl⟩ (sameSession_accessTokenCall
          (a := a.updateUser u { user with tokenService := service }) ha.currentUser u call faults)
  cases e with
  | getIDToken u forceRefresh completion => exact htoken h
  | getToken forceRefresh completion =>
      rw [Auth.step, getToken, ha.currentUser] at h
      obtain rfl := Option.some.inj h
      exact SameSession.signedOut (a := a) ⟨rfl, rfl, rfl⟩ ha
  | reload u completion => exact htoken h
  | delete u completion => exact htoken h
  | runTask u now =>
      obtain ⟨user, -, h⟩ := Option.bind_eq_some_iff.mp h
      obtain ⟨r, -, rfl⟩ := Option.map_eq_some_iff.mp h
      exact hreacted.signedOut ha
  | secureTokenReply u response now faults =>
      obtain ⟨user, -, h⟩ := Option.bind_eq_some_iff.mp h
      obtain ⟨r, -, rfl⟩ := Option.map_eq_some_iff.mp h
      exact hreacted.signedOut ha
  | reply serial reply faults =>
      obtain ⟨⟨request, requests⟩, hanswer, h⟩ := Option.bind_eq_some_iff.mp h
      refine SameSession.signedOut (SameSession.trans (a := a) (t := { a with requests })
        ⟨rfl, rfl, rfl⟩ (sameSession_requestCallback ha.currentUser ?_ h)) ha
      rintro v response hv rfl
      exact hno ⟨request, v, (Calls.answer_some hanswer).1, hv⟩
  | signOut faults =>
      obtain rfl := Option.some.inj h
      rw [signOut, if_pos ha.currentUser]
      exact ha
  | protectedDataDidBecomeAvailable reference faults =>
      rw [Auth.step] at h
      split at h
      · obtain rfl := Option.some.inj h
        exact SignedOut.protectedDataInitialization
          (a := { a with protectedDataDidBecomeAvailableObserver := false })
          ⟨ha.currentUser, ha.stored, ha.settled⟩ reference faults
      · cases h
  | relaunch reference faults =>
      obtain rfl := Option.some.inj h
      rw [launched]
      refine SignedOut.protectedDataInitialization ?_ reference faults
      exact ⟨rfl, ha.stored, ha.settled⟩
  | _ =>
      obtain rfl := Option.some.inj h
      exact SameSession.signedOut (a := a) ⟨rfl, rfl, rfl⟩ ha

/-- A sign-out that succeeds. -/
theorem signedOut_signOut {a : Auth α κ} {faults : KeychainFaults} (hs : a.Sound)
    (hdeletes : a.keychainServices.DeletesLegacy a.userKey faults) (hsomeone : a.currentUser ≠ none)
    (hok : (a.signOut faults).1 = .ok ()) : (a.signOut faults).2.SignedOut := by
  rw [signOut, if_neg hsomeone] at hok ⊢
  have hupdate := update_updateCurrentUser none false hs.settled hdeletes
  rw [hok] at hupdate
  generalize (a.updateCurrentUser none false true faults).2 = t at hupdate
  cases hupdate with
  | same huser => exact absurd huser.symm hsomeone
  | saved hdata hsettled => exact (sameSession_possiblyPost _).signedOut ⟨rfl, hdata, hsettled⟩

/-- **Who has signed out stays signed out.**  After a sign-out that succeeds no reply
    that is still to come, no launch and no keychain error signs anybody in or
    saves a user, until the account data of a sign-in arrives. -/
theorem run_signedOut {i : Installation α} {reference : Nat} {faults outFaults : KeychainFaults}
    {es fs : List (Event α κ)} {a t : Auth α κ}
    (hanswered : Along (step expirationDate) Answered (installed i)
      (.relaunch reference faults :: es))
    (ha : run (step expirationDate) (installed i) (.relaunch reference faults :: es) = some a)
    (hsomeone : a.currentUser ≠ none)
    (hdeletes : a.keychainServices.DeletesLegacy a.userKey outFaults)
    (hok : (a.signOut outFaults).1 = .ok ())
    (hno : Along (step expirationDate) (fun a e => ¬a.SignsIn e) (a.signOut outFaults).2 fs)
    (h : run (step expirationDate) (a.signOut outFaults).2 fs = some t) :
    t.currentUser = none ∧ t.stored = none := by
  have hsignedOut := signedOut_signOut (run_sound hanswered ha) hdeletes hsomeone hok
  have hend : t.SignedOut :=
    run_invariant (fun _ _ _ hs hno ht => hs.step hno ht) fs _ t hsignedOut hno h
  exact ⟨hend.currentUser, hend.stored⟩

-- ============================================================================
-- A session
-- ============================================================================

def newInstall : Installation String :=
  ⟨"__FIRAPP_DEFAULT", "firebase_auth_1", [], fun _ h => nomatch h⟩

/-- Every token expires after two hours. -/
def twoHours (_ : String) : Option ℚ := some 7200

/-- Ann signs in; an hour later her token is to be replaced, and a reload waits. -/
def annSignsIn : List (Event String Nat) :=
  [.completeSignIn none none (some "refresh") false 1, .runTask 0 0,
    .secureTokenReply 0 (.ok ⟨"first", 7200, none, by decide⟩) 0 {},
    .reply 0 (.getAccountInfo (.ok ⟨some ⟨1, "ann"⟩, "Ann"⟩)) {}, .getToken true 2, .reload 0 3,
    .runTask 0 3600]

def tokenReplaced : List (Event String Nat) :=
  [.secureTokenReply 0 (.ok ⟨"second", 7200, none, by decide⟩) 3600 {}, .runTask 0 3600]

theorem along_tokenReplaced : Along (step twoHours) (fun a e => a.Answered e ∧ a.Saves e)
    (installed newInstall) (.relaunch 0 {} :: (annSignsIn ++ tokenReplaced)) := by
  have hwritable : KeychainFaults.Writable {} := ⟨rfl, rfl, rfl⟩
  refine along_of_forall ?_ _
  simp [annSignsIn, tokenReplaced, Answered, KeychainServices.DeletesLegacy, Event.faults,
    UserReplyNamed, Saves, hwritable]

theorem isSome_tokenReplaced : ((run (step twoHours) (installed newInstall)
    (.relaunch 0 {} :: (annSignsIn ++ tokenReplaced))).bind currentUser).isSome = true := by
  decide +kernel

theorem run_mirrored_tokenReplaced :
    ∃ t, run (step twoHours) (installed newInstall)
        (.relaunch 0 {} :: (annSignsIn ++ tokenReplaced)) = some t ∧
      (t.stored = t.current.map User.encodeWithCoder ∨ t.Unread) ∧
      t.lastNotifiedUserToken = t.current.bind User.rawAccessToken := by
  obtain ⟨u, hu⟩ := Option.isSome_iff_exists.mp isSome_tokenReplaced
  obtain ⟨t, ht, -⟩ := Option.bind_eq_some_iff.mp hu
  exact ⟨t, ht, run_mirrored along_tokenReplaced ht⟩

theorem run_restored_tokenReplaced :
    ∃ t u, run (step twoHours) (installed newInstall)
        (.relaunch 0 {} :: (annSignsIn ++ tokenReplaced)) = some t ∧
      t.step twoHours (.relaunch 2 {}) = some u ∧
      u.current.map User.encodeWithCoder = t.current.map User.encodeWithCoder := by
  obtain ⟨u, hu⟩ := Option.isSome_iff_exists.mp isSome_tokenReplaced
  obtain ⟨t, ht, hcurrent⟩ := Option.bind_eq_some_iff.mp hu
  have hread : ¬t.Unread := fun hunread => nomatch hunread.2.symm.trans hcurrent
  exact ⟨t, _, ht, rfl, run_restored along_tokenReplaced ht hread rfl⟩

/-- Ann signs out before the answer comes. -/
theorem run_signedOut_tokenReplaced :
    ∃ a t, run (step twoHours) (installed newInstall) (.relaunch 0 {} :: annSignsIn) = some a ∧
      run (step twoHours) (a.signOut {}).2 (tokenReplaced ++ [.relaunch 2 {}]) = some t ∧
      t.currentUser = none ∧ t.stored = none := by
  have hsigned : ((run (step twoHours) (installed newInstall) (.relaunch 0 {} :: annSignsIn)).bind
      fun a => if a.currentUser.isSome ∧ (a.signOut {}).1 = .ok () then
        run (step twoHours) (a.signOut {}).2 (tokenReplaced ++ [.relaunch 2 {}]) else none).isSome =
        true := by
    decide +kernel
  obtain ⟨t, h⟩ := Option.isSome_iff_exists.mp hsigned
  obtain ⟨a, ha, h⟩ := Option.bind_eq_some_iff.mp h
  split at h
  · rename_i hout
    refine ⟨a, t, ha, h, ?_⟩
    have hanswered : Along (step twoHours) Answered (installed newInstall)
        (.relaunch 0 {} :: annSignsIn) := by
      refine along_of_forall ?_ _
      simp [annSignsIn, Answered, KeychainServices.DeletesLegacy, Event.faults, UserReplyNamed]
    have hno : Along (step twoHours) (fun a e => ¬a.SignsIn e) (a.signOut {}).2
        (tokenReplaced ++ [.relaunch 2 {}]) := by
      refine along_of_forall ?_ _
      simp [tokenReplaced, SignsIn]
    exact run_signedOut hanswered ha (Option.isSome_iff_ne_none.mp hout.1) (.inl rfl) hout.2 hno h
  · cases h

end Auth

end Spark.Firebase
