/-
  Spark.Firebase.AuthPersistence

  The keychain holds who is signed in.

  A write of the archive that fails leaves the old one in place, and every
  operation treats that in its own way: a sign-in or a sign-out that cannot be
  saved does not happen, a forced sign-out happens all the same, new tokens are
  kept and reported as an error.  `Update` says once what the operations on the
  current user do, and each step is one of them after a change to one user
  object.
-/

import Spark.Firebase.Auth

namespace Spark.Firebase

open Spark.Lib

/-- An archive that `initWithCoder:` can read. -/
def UserArchive.Decodable {α : Type} (archive : UserArchive α) : Prop :=
  archive.userID.isSome ∧ archive.tokens.2.2.isSome

namespace User

variable {α κ : Type}

/-- The callbacks that wait for the token of a user. -/
def callbacks (u : User α κ) : List (TokenCallback κ) :=
  u.tokenService.taskQueue.tasks.map AccessTokenFetch.callback

/-- A user that has been archived is read back. -/
theorem initWithCoder_decodable {archive : UserArchive α} (h : archive.Decodable)
    (reference : Nat) :
    ∃ user : User α κ, initWithCoder archive reference = some user ∧
      user.encodeWithCoder = archive ∧ user.userID.isSome ∧
      user.tokenService.refreshToken.isSome ∧ user.callbacks = [] := by
  obtain ⟨userID, anonymous, profile, tenantID, accessToken, date, refreshToken⟩ := archive
  obtain ⟨hid, hrefresh⟩ := h
  obtain ⟨userID, rfl⟩ := Option.isSome_iff_exists.mp hid
  obtain ⟨refreshToken, rfl⟩ := Option.isSome_iff_exists.mp hrefresh
  exact ⟨_, rfl, rfl, rfl, rfl, rfl⟩

theorem decodable_encodeWithCoder {user : User α κ} (hid : user.userID.isSome)
    (hrefresh : user.tokenService.refreshToken.isSome) : user.encodeWithCoder.Decodable := by
  refine ⟨?_, hrefresh⟩
  rw [encodeWithCoder, Option.isSome_map]
  exact hid

end User

namespace Auth

variable {α κ : Type}

-- ============================================================================
-- The operations on the current user
-- ============================================================================

/-- What the keychain holds of the user. -/
def stored (a : Auth α κ) : Option (UserArchive α) := a.keychainServices.data a.userKey

/-- A change of the authentication state is announced, if it is one. -/
theorem possiblyPost_eq (a : Auth α κ) :
    ∃ notifications, a.possiblyPostAuthStateChangeNotification =
      { a with lastNotifiedUserToken := a.current.bind User.rawAccessToken, notifications } := by
  rw [possiblyPostAuthStateChangeNotification]
  split
  · rename_i hsame
    refine ⟨a.notifications, ?_⟩
    rw [← hsame]
  · exact ⟨_, rfl⟩

theorem saveUser_cases {a : Auth α κ} (user : Option (User α κ)) (faults : KeychainFaults)
    (hsettled : a.keychainServices.Settled a.userKey)
    (hdeletes : a.keychainServices.DeletesLegacy a.userKey faults) :
    (∃ services, a.saveUser user faults = (.ok (), { a with keychainServices := services }) ∧
        services.data a.userKey = user.map User.encodeWithCoder ∧ services.Settled a.userKey) ∨
      (∃ error, a.saveUser user faults = (.error error, a)) ∧ ¬faults.Writable := by
  cases user with
  | none =>
      obtain ⟨hcases, hkept⟩ := KeychainServices.removeData_spec a.keychainServices a.userKey faults
      rcases hcases with ⟨hok, hdata⟩ | ⟨⟨error, herror⟩, hsame, hfault⟩
      · refine .inl ⟨(a.keychainServices.removeData a.userKey faults).2, ?_, hdata,
          hkept hdeletes hsettled⟩
        simp only [saveUser, hok, Except.mapError]
      · refine .inr ⟨⟨.keychain error, ?_⟩, hfault⟩
        simp only [saveUser, herror, hsame, Except.mapError]
  | some user =>
      rcases KeychainServices.setData_spec a.keychainServices user.encodeWithCoder a.userKey
        faults with ⟨hok, hdata⟩ | ⟨⟨error, herror⟩, hsame, hfault⟩
      · refine .inl ⟨(a.keychainServices.setData user.encodeWithCoder a.userKey faults).2, ?_, hdata,
          hsettled.setData _⟩
        simp only [saveUser, hok, Except.mapError]
      · refine .inr ⟨⟨.keychain error, ?_⟩, hfault⟩
        simp only [saveUser, herror, hsame, Except.mapError]

/-- What an operation on the current user does: it makes `user` the current one. -/
inductive Update (a : Auth α κ) (user : Option Nat) (force : Bool) (faults : KeychainFaults) :
    Except UserError Unit → Auth α κ → Prop
  | same (huser : user = a.currentUser) :
      Update a user force faults (.ok ()) a.possiblyPostAuthStateChangeNotification
  | mismatch : Update a user force faults (.error .tenantIDMismatch) a
  | saved {services : KeychainServices (UserArchive α)}
      (hdata : services.data a.userKey =
        (user.bind fun u => a.users[u]?).map User.encodeWithCoder)
      (hsettled : services.Settled a.userKey) :
      Update a user force faults (.ok ())
        (possiblyPostAuthStateChangeNotification
          { a with keychainServices := services, currentUser := user })
  | forced {error : UserError} (hforce : force = true) (hfault : ¬faults.Writable) :
      Update a user force faults (.error error)
        (possiblyPostAuthStateChangeNotification { a with currentUser := user })
  | failed {error : UserError} (hforce : force = false) (hfault : ¬faults.Writable) :
      Update a user force faults (.error error) a

theorem update_updateCurrentUser {a : Auth α κ} (user : Option Nat) (force : Bool)
    {faults : KeychainFaults} (hsettled : a.keychainServices.Settled a.userKey)
    (hdeletes : a.keychainServices.DeletesLegacy a.userKey faults) :
    Update a user force faults (a.updateCurrentUser user force true faults).1
      (a.updateCurrentUser user force true faults).2 := by
  rw [updateCurrentUser]
  split
  · rename_i huser
    exact .same huser
  · dsimp only
    by_cases hmismatch : (user.bind fun u => a.users[u]?).isSome ∧
        (user.bind fun u => a.users[u]?).bind User.tenantID ≠ a.tenantID
    · rw [if_pos hmismatch]
      exact .mismatch
    · rw [if_neg hmismatch, if_pos rfl]
      rcases saveUser_cases (user.bind fun u => a.users[u]?) faults hsettled hdeletes with
        ⟨services, hsave, hdata, hsettled⟩ | ⟨⟨error, hsave⟩, hfault⟩
      · rw [hsave]
        exact .saved hdata hsettled
      · rw [hsave]
        cases force with
        | true => exact .forced rfl hfault
        | false => exact .failed rfl hfault

theorem updateKeychain_cases {a : Auth α κ} (u : Nat) (faults : KeychainFaults)
    (hsettled : a.keychainServices.Settled a.userKey)
    (hdeletes : a.keychainServices.DeletesLegacy a.userKey faults) :
    (some u ≠ a.currentUser ∧ a.updateKeychain u faults = (.ok (), a)) ∨
      some u = a.currentUser ∧
        ((∃ services, a.updateKeychain u faults =
              (.ok (), possiblyPostAuthStateChangeNotification
                { a with keychainServices := services }) ∧
            services.data a.userKey = a.users[u]?.map User.encodeWithCoder ∧
            services.Settled a.userKey) ∨
          (∃ error, a.updateKeychain u faults = (.error error, a)) ∧ ¬faults.Writable) := by
  rw [updateKeychain]
  by_cases hcurrent : some u = a.currentUser
  · refine .inr ⟨hcurrent, ?_⟩
    rw [if_neg (not_not_intro hcurrent)]
    rcases saveUser_cases a.users[u]? faults hsettled hdeletes with
      ⟨services, hsave, hdata, hsettled⟩ | ⟨⟨error, hsave⟩, hfault⟩
    · rw [hsave]
      exact .inl ⟨services, rfl, hdata, hsettled⟩
    · rw [hsave]
      exact .inr ⟨⟨error, rfl⟩, hfault⟩
  · rw [if_pos hcurrent]
    exact .inl ⟨hcurrent, rfl⟩

-- ============================================================================
-- What the state keeps to
-- ============================================================================

end Auth

def TokenCallback.retrieves {κ : Type} : TokenCallback κ → Bool
  | .retrieveUser .. => true
  | _ => false

def UserRequest.retrieves {κ : Type} (v : Nat) : UserRequest κ → Bool
  | .retrieveUser user .. => user == v
  | _ => false

namespace Auth

variable {α κ : Type}

/-- How often the sign-in flow of a user is under way. -/
def retrievals (a : Auth α κ) (v : Nat) : Nat :=
  (a.users[v]?).elim 0 (fun user => user.callbacks.countP TokenCallback.retrieves) +
    a.requests.outstanding.countP fun p => p.2.retrieves v

/-- `once`: a user is signed in, or its sign-in flow is under way, or neither. -/
structure Sound (a : Auth α κ) : Prop where
  settled : a.keychainServices.Settled a.userKey
  decodable : ∀ archive, a.stored = some archive → archive.Decodable
  named : ∀ u, a.currentUser = some u → ∃ user, a.users[u]? = some user ∧ user.userID.isSome
  refreshTokens : ∀ user ∈ a.users, user.tokenService.refreshToken.isSome
  requests : ∀ p ∈ a.requests.outstanding, p.2.user < a.users.length
  numbered : a.requests.Numbered
  once : ∀ v, a.retrievals v ≤ 1
  current : ∀ u, a.currentUser = some u → a.retrievals u = 0

/-- The saved user has not been read since the launch, and nobody is signed in. -/
def Unread (a : Auth α κ) : Prop :=
  a.protectedDataDidBecomeAvailableObserver = true ∧ a.currentUser = none

/-- The keychain holds the archive of the user who is signed in, or has not been
    read. -/
def Mirrored (a : Auth α κ) : Prop :=
  a.stored = a.current.map User.encodeWithCoder ∨ a.Unread

/-- What the operations on the current user leave alone. -/
structure Frame (a t : Auth α κ) : Prop where
  firebaseAppName : t.firebaseAppName = a.firebaseAppName
  users : t.users = a.users
  requests : t.requests = a.requests
  observer : t.protectedDataDidBecomeAvailableObserver = a.protectedDataDidBecomeAvailableObserver

theorem Frame.retrievals {a t : Auth α κ} (h : Frame a t) (v : Nat) :
    t.retrievals v = a.retrievals v := by
  rw [Auth.retrievals, Auth.retrievals, h.users, h.requests]

theorem Frame.userKey {a t : Auth α κ} (h : Frame a t) : t.userKey = a.userKey := by
  rw [Auth.userKey, Auth.userKey, h.firebaseAppName]

/-- A user object that can become the current one. -/
def Eligible (a : Auth α κ) (u : Nat) : Prop :=
  a.retrievals u = 0 ∧ ∃ user, a.users[u]? = some user ∧ user.userID.isSome

theorem Sound.eligible {a : Auth α κ} (hs : a.Sound) {u : Nat} (h : a.currentUser = some u) :
    a.Eligible u := ⟨hs.current u h, hs.named u h⟩

/-- The archive of an eligible user can be read. -/
theorem Sound.decodable_of_eligible {a : Auth α κ} (hs : a.Sound) {u : Nat} (hu : a.Eligible u)
    {archive : UserArchive α} (h : a.users[u]?.map User.encodeWithCoder = some archive) :
    archive.Decodable := by
  obtain ⟨-, user, huser, hid⟩ := hu
  rw [huser] at h
  obtain rfl := Option.some.inj h
  exact User.decodable_encodeWithCoder hid (hs.refreshTokens user (List.mem_of_getElem? huser))

/-- A state that differs in who is signed in and in what is stored of the user. -/
theorem Sound.frame {a t : Auth α κ} (hs : a.Sound) (hframe : Frame a t)
    (hsettled : t.keychainServices.Settled t.userKey)
    (hdecodable : ∀ archive, t.stored = some archive → archive.Decodable)
    (hcurrent : ∀ u, t.currentUser = some u → a.Eligible u) : t.Sound := by
  constructor
  · exact hsettled
  · exact hdecodable
  · intro u hu
    rw [hframe.users]
    exact (hcurrent u hu).2
  · rw [hframe.users]
    exact hs.refreshTokens
  · rw [hframe.users, hframe.requests]
    exact hs.requests
  · rw [hframe.requests]
    exact hs.numbered
  · intro v
    rw [hframe.retrievals]
    exact hs.once v
  · intro u hu
    rw [hframe.retrievals]
    exact (hcurrent u hu).1

/-- An announcement changes what has been announced. -/
theorem frame_possiblyPost (a : Auth α κ) :
    Frame a a.possiblyPostAuthStateChangeNotification := by
  obtain ⟨notifications, h⟩ := possiblyPost_eq a
  rw [h]
  exact ⟨rfl, rfl, rfl, rfl⟩

theorem Sound.possiblyPost {a : Auth α κ} (hs : a.Sound) :
    a.possiblyPostAuthStateChangeNotification.Sound := by
  refine hs.frame (frame_possiblyPost a) ?_ ?_ ?_ <;> obtain ⟨notifications, h⟩ := possiblyPost_eq a
  · rw [h]
    exact hs.settled
  · rw [h]
    exact hs.decodable
  · rw [h]
    exact fun u hu => hs.eligible hu

theorem Mirrored.possiblyPost {a : Auth α κ} (h : a.Mirrored) :
    a.possiblyPostAuthStateChangeNotification.Mirrored := by
  obtain ⟨notifications, hpost⟩ := possiblyPost_eq a
  rw [hpost]
  exact h

/-- What an operation keeps: everything but the mirror where the keychain cannot
    be written. -/
structure Kept (a t : Auth α κ) (ok : Prop) : Prop where
  frame : Frame a t
  sound : t.Sound
  mirrored : a.Mirrored → ok → t.Mirrored

theorem Kept.refl {a : Auth α κ} (hs : a.Sound) (ok : Prop) : Kept a a ok :=
  ⟨⟨rfl, rfl, rfl, rfl⟩, hs, fun h _ => h⟩

theorem Update.kept {a t : Auth α κ} {user : Option Nat} {force : Bool} {faults : KeychainFaults}
    {result : Except UserError Unit} (h : Update a user force faults result t) (hs : a.Sound)
    (huser : ∀ u, user = some u → a.Eligible u) :
    Kept a t (force = true → faults.Writable) := by
  cases h with
  | same => exact ⟨frame_possiblyPost a, hs.possiblyPost, fun h _ => h.possiblyPost⟩
  | mismatch => exact .refl hs _
  | failed => exact .refl hs _
  | @saved services hdata hsettled =>
      have hframe : Frame a { a with keychainServices := services, currentUser := user } :=
        ⟨rfl, rfl, rfl, rfl⟩
      have hsound : Sound { a with keychainServices := services, currentUser := user } := by
        refine hs.frame hframe hsettled ?_ huser
        intro archive harchive
        rw [Auth.stored] at harchive
        cases user with
        | none => cases hdata.symm.trans harchive
        | some u => exact hs.decodable_of_eligible (huser u rfl) (hdata.symm.trans harchive)
      refine ⟨?_, hsound.possiblyPost, fun _ _ => Mirrored.possiblyPost (.inl hdata)⟩
      exact ⟨(frame_possiblyPost _).firebaseAppName, (frame_possiblyPost _).users,
        (frame_possiblyPost _).requests, (frame_possiblyPost _).observer⟩
  | forced hforce hfault =>
      have hframe : Frame a { a with currentUser := user } := ⟨rfl, rfl, rfl, rfl⟩
      have hsound : Sound { a with currentUser := user } :=
        hs.frame hframe hs.settled hs.decodable huser
      refine ⟨?_, hsound.possiblyPost, fun _ hok => absurd (hok hforce) hfault⟩
      exact ⟨(frame_possiblyPost _).firebaseAppName, (frame_possiblyPost _).users,
        (frame_possiblyPost _).requests, (frame_possiblyPost _).observer⟩

-- ============================================================================
-- Signing out, and saving the current user
-- ============================================================================

theorem kept_signOut {a : Auth α κ} {faults : KeychainFaults} (hs : a.Sound)
    (hdeletes : a.keychainServices.DeletesLegacy a.userKey faults) :
    Kept a (a.signOut faults).2 True := by
  rw [signOut]
  split
  · exact .refl hs _
  · have hkept := (update_updateCurrentUser none false hs.settled hdeletes).kept hs
      fun u hu => nomatch hu
    exact ⟨hkept.frame, hkept.sound, fun h _ => hkept.mirrored h fun hforce => nomatch hforce⟩

theorem kept_signOutByForce {a : Auth α κ} {faults : KeychainFaults} (hs : a.Sound)
    (hdeletes : a.keychainServices.DeletesLegacy a.userKey faults) (userID : Option UserID) :
    Kept a (a.signOutByForce userID faults).2 faults.Writable := by
  rw [signOutByForce]
  split
  · exact .refl hs _
  · have hkept := (update_updateCurrentUser none true hs.settled hdeletes).kept hs
      fun u hu => nomatch hu
    exact ⟨hkept.frame, hkept.sound, fun h hok => hkept.mirrored h fun _ => hok⟩

theorem kept_signOutIfTokenIsInvalid {a : Auth α κ} {faults : KeychainFaults} (hs : a.Sound)
    (hdeletes : a.keychainServices.DeletesLegacy a.userKey faults) (u : Nat) (error : NSError) :
    Kept a (a.signOutIfTokenIsInvalid u error faults)
      (error.code ∈ invalidTokenCodes → faults.Writable) := by
  rw [signOutIfTokenIsInvalid]
  split
  · rename_i hinvalid
    have hkept := kept_signOutByForce hs hdeletes ((a.users[u]?).bind User.userID)
    exact ⟨hkept.frame, hkept.sound, fun hm hok => hkept.mirrored hm (hok hinvalid)⟩
  · exact .refl hs _

/-- A user whose object has changed is saved, if it is the current one. -/
theorem kept_updateKeychain {a : Auth α κ} {faults : KeychainFaults} (hs : a.Sound)
    (hdeletes : a.keychainServices.DeletesLegacy a.userKey faults) (u : Nat) :
    Frame a (a.updateKeychain u faults).2 ∧
      (a.updateKeychain u faults).2.currentUser = a.currentUser ∧
      (a.updateKeychain u faults).2.Sound ∧
      ((some u ≠ a.currentUser → a.Mirrored) → (a.currentUser = some u → faults.Writable) →
        (a.updateKeychain u faults).2.Mirrored) := by
  rcases updateKeychain_cases u faults hs.settled hdeletes with
    ⟨hne, hsame⟩ | ⟨hcurrent, ⟨services, hsaved, hdata, hsettled⟩ | ⟨⟨error, herror⟩, hfault⟩⟩
  · rw [hsame]
    exact ⟨⟨rfl, rfl, rfl, rfl⟩, rfl, hs, fun h _ => h hne⟩
  · rw [hsaved]
    have hframe : Frame a { a with keychainServices := services } := ⟨rfl, rfl, rfl, rfl⟩
    have hsound : Sound { a with keychainServices := services } := by
      refine hs.frame hframe hsettled ?_ fun v hv => hs.eligible hv
      intro archive harchive
      exact hs.decodable_of_eligible (hs.eligible hcurrent.symm) (hdata.symm.trans harchive)
    have hstored : stored { a with keychainServices := services } =
        (current { a with keychainServices := services }).map User.encodeWithCoder := by
      rw [current, ← hcurrent]
      exact hdata
    obtain ⟨notifications, hpost⟩ := possiblyPost_eq { a with keychainServices := services }
    refine ⟨?_, by rw [hpost], hsound.possiblyPost, fun _ _ => Mirrored.possiblyPost (.inl hstored)⟩
    rw [hpost]
    exact ⟨rfl, rfl, rfl, rfl⟩
  · rw [herror]
    exact ⟨⟨rfl, rfl, rfl, rfl⟩, rfl, hs, fun _ hok => absurd (hok hcurrent.symm) hfault⟩

-- ============================================================================
-- Changes to a user object
-- ============================================================================

theorem retrievals_updateUser {a : Auth α κ} {u : Nat} {user : User α κ}
    (huser : a.users[u]? = some user) (user' : User α κ) (v : Nat) :
    (a.updateUser u user').retrievals v + (if v = u then user.callbacks.countP
        TokenCallback.retrieves else 0) =
      a.retrievals v + if v = u then user'.callbacks.countP TokenCallback.retrieves else 0 := by
  have hlt : u < a.users.length := (List.getElem?_eq_some_iff.mp huser).1
  rw [retrievals, retrievals, updateUser]
  by_cases hv : v = u
  · rw [hv, if_pos rfl, if_pos rfl, List.getElem?_set_self hlt, huser]
    simp only [Option.elim_some]
    omega
  · rw [if_neg hv, if_neg hv, List.getElem?_set_ne (Ne.symm hv)]

theorem Sound.updateUser {a : Auth α κ} (hs : a.Sound) {u : Nat} {user user' : User α κ}
    (huser : a.users[u]? = some user) (hid : a.currentUser = some u → user'.userID.isSome)
    (hrefresh : user'.tokenService.refreshToken.isSome)
    (hcount : user'.callbacks.countP TokenCallback.retrieves ≤
      user.callbacks.countP TokenCallback.retrieves) :
    (a.updateUser u user').Sound := by
  have hlt : u < a.users.length := (List.getElem?_eq_some_iff.mp huser).1
  have hle : ∀ v, (a.updateUser u user').retrievals v ≤ a.retrievals v := by
    intro v
    have h := retrievals_updateUser huser user' v
    split at h <;> omega
  constructor
  · exact hs.settled
  · exact hs.decodable
  · intro v hv
    obtain ⟨old, hold, holdid⟩ := hs.named v hv
    by_cases h : v = u
    · subst h
      exact ⟨user', List.getElem?_set_self hlt, hid hv⟩
    · exact ⟨old, (List.getElem?_set_ne (Ne.symm h)).trans hold, holdid⟩
  · intro x hx
    rcases List.mem_or_eq_of_mem_set hx with hx | rfl
    · exact hs.refreshTokens x hx
    · exact hrefresh
  · rw [Auth.updateUser, List.length_set]
    exact hs.requests
  · exact hs.numbered
  · exact fun v => Nat.le_trans (hle v) (hs.once v)
  · intro v hv
    exact Nat.le_zero.mp (Nat.le_trans (hle v) (Nat.le_of_eq (hs.current v hv)))

/-- A change that does not show in the archive of the current user. -/
theorem Mirrored.updateUser {a : Auth α κ} (h : a.Mirrored) {u : Nat} {user user' : User α κ}
    (huser : a.users[u]? = some user)
    (hsame : a.currentUser = some u → user'.encodeWithCoder = user.encodeWithCoder) :
    (a.updateUser u user').Mirrored := by
  have hlt : u < a.users.length := (List.getElem?_eq_some_iff.mp huser).1
  have harchive : (a.updateUser u user').current.map User.encodeWithCoder =
      a.current.map User.encodeWithCoder := by
    rw [current, current, Auth.updateUser]
    cases hcurrent : a.currentUser with
    | none => rfl
    | some v =>
        simp only [Option.bind_some]
        by_cases hv : v = u
        · rw [hv, List.getElem?_set_self hlt, huser, Option.map_some, Option.map_some,
            hsame (hv ▸ hcurrent)]
        · rw [List.getElem?_set_ne (Ne.symm hv)]
  rw [Mirrored, harchive]
  exact h

-- ============================================================================
-- Requests
-- ============================================================================

theorem Sound.issue {a : Auth α κ} (hs : a.Sound) {request : UserRequest κ}
    (hlt : request.user < a.users.length)
    (hroom : ∀ v, request.retrieves v = true → a.retrievals v = 0 ∧ a.currentUser ≠ some v) :
    Sound { a with requests := a.requests.issue request } := by
  have hcount : ∀ v, retrievals { a with requests := a.requests.issue request } v =
      a.retrievals v + if request.retrieves v = true then 1 else 0 := by
    intro v
    simp only [retrievals, Calls.issue, List.countP_append, List.countP_singleton, Nat.add_assoc]
  constructor
  · exact hs.settled
  · exact hs.decodable
  · exact hs.named
  · exact hs.refreshTokens
  · intro p hp
    rcases Calls.mem_issue.mp hp with hp | rfl
    · exact hs.requests p hp
    · exact hlt
  · exact hs.numbered.issue request
  · intro v
    rw [hcount]
    split
    · rename_i hv
      rw [(hroom v hv).1]
    · exact hs.once v
  · intro v hv
    rw [hcount, if_neg fun h => (hroom v h).2 hv, hs.current v hv]

/-- A request that has been answered makes room. -/
theorem Sound.answer {a : Auth α κ} (hs : a.Sound) {serial : Nat} {request : UserRequest κ}
    {requests : Calls (UserRequest κ)} (h : a.requests.answer serial = some (request, requests)) :
    Sound { a with requests } ∧ request.user < a.users.length ∧
      ∀ v, request.retrieves v = true →
        retrievals { a with requests } v = 0 ∧ a.currentUser ≠ some v := by
  obtain ⟨hperm, hnumbered⟩ := hs.numbered.answer h
  have hcount : ∀ v, a.retrievals v = retrievals { a with requests } v +
      if request.retrieves v = true then 1 else 0 := by
    intro v
    simp only [retrievals, hperm.countP_eq, List.countP_cons, Nat.add_assoc]
  have hmem : (serial, request) ∈ a.requests.outstanding := hperm.mem_iff.mpr List.mem_cons_self
  refine ⟨?_, hs.requests _ hmem, ?_⟩
  · constructor
    · exact hs.settled
    · exact hs.decodable
    · exact hs.named
    · exact hs.refreshTokens
    · exact fun p hp => hs.requests p (hperm.mem_iff.mpr (List.mem_cons_of_mem _ hp))
    · exact hnumbered
    · exact fun v => Nat.le_trans (hcount v ▸ Nat.le_add_right _ _) (hs.once v)
    · exact fun v hv => Nat.eq_zero_of_add_eq_zero_right ((hcount v).symm.trans (hs.current v hv))
  · intro v hv
    have honce := hs.once v
    rw [hcount, if_pos hv] at honce
    refine ⟨by omega, ?_⟩
    intro hcurrent
    have hzero := hs.current v hcurrent
    rw [hcount, if_pos hv] at hzero
    omega

/-- Nothing that is kept depends on the requests and on what has been called. -/
theorem Mirrored.congr {a t : Auth α κ} (h : a.Mirrored)
    (hstored : t.stored = a.stored) (hcurrent : t.currentUser = a.currentUser)
    (husers : t.users = a.users)
    (hobserver : t.protectedDataDidBecomeAvailableObserver =
      a.protectedDataDidBecomeAvailableObserver) : t.Mirrored := by
  have hobject : t.current = a.current := by rw [current, current, hcurrent, husers]
  rw [Mirrored, hstored, hobject, Unread, hobserver, hcurrent]
  exact h

theorem Sound.complete {a : Auth α κ} (hs : a.Sound) (completion : UserCompletion κ) :
    (a.complete completion).Sound :=
  ⟨hs.settled, hs.decodable, hs.named, hs.refreshTokens, hs.requests, hs.numbered, hs.once,
    hs.current⟩

theorem Mirrored.complete {a : Auth α κ} (h : a.Mirrored) (completion : UserCompletion κ) :
    (a.complete completion).Mirrored :=
  h.congr rfl rfl rfl rfl

/-- The callback of a sign-in flow that has left the queue makes its request. -/
theorem tokenCallback_spec {a : Auth α κ} (hs : a.Sound) {u : Nat} (hlt : u < a.users.length)
    (callback : TokenCallback κ) (result : Except UserError (Option String))
    (hroom : ∀ token, result = .ok token → callback.retrieves = true →
      a.retrievals u = 0 ∧ a.currentUser ≠ some u) :
    (a.tokenCallback u callback result).Sound ∧
      (a.Mirrored → (a.tokenCallback u callback result).Mirrored) := by
  cases result with
  | error error =>
      have hcomplete : a.tokenCallback u callback (.error error) =
          a.complete { completion := callback.completion, error := some error } := by
        cases callback <;> rfl
      rw [hcomplete]
      exact ⟨hs.complete _, fun h => h.complete _⟩
  | ok token =>
      cases callback with
      | getIDToken completion => exact ⟨hs.complete _, fun h => h.complete _⟩
      | retrieveUser anonymous completion =>
          refine ⟨hs.issue hlt ?_, fun h => h.congr rfl rfl rfl rfl⟩
          intro v hv
          obtain rfl : u = v := by simpa [UserRequest.retrieves] using hv
          exact hroom token rfl rfl
      | getAccountInfo completion =>
          exact ⟨hs.issue hlt fun v hv => (nomatch hv), fun h => h.congr rfl rfl rfl rfl⟩
      | deleteAccount completion =>
          exact ⟨hs.issue hlt fun v hv => (nomatch hv), fun h => h.congr rfl rfl rfl rfl⟩

-- ============================================================================
-- Token services
-- ============================================================================

/-- What a step keeps: the mirror as well, if what cannot be undone is written. -/
def Keeps (a t : Auth α κ) (ok : Prop) : Prop :=
  t.Sound ∧ (a.Mirrored → ok → t.Mirrored)

/-- New tokens of the current user can be saved when a callback is told of them, and
    its sign-out when it is told that they are invalid. -/
def SavesCall (a : Auth α κ) (u : Nat) (call : AccessTokenCall (TokenCallback κ))
    (faults : KeychainFaults) : Prop :=
  match call.error with
  | some error => error.code ∈ invalidTokenCodes → faults.Writable
  | none => call.tokenUpdated = true → a.currentUser = some u → faults.Writable

/-- The callbacks of a user after its token service has reacted. -/
theorem callbacks_reaction {expirationDate : String → Option ℚ}
    {s t : SecureTokenService (TokenCallback κ)} {e : SecureTokenService.Event (TokenCallback κ)}
    {called : Option (AccessTokenCall (TokenCallback κ))}
    (h : SecureTokenService.Reaction s expirationDate e called t)
    (hown : SecureTokenService.fetched e = []) :
    called.toList.map AccessTokenCall.callback ++
        t.taskQueue.tasks.map AccessTokenFetch.callback =
      s.taskQueue.tasks.map AccessTokenFetch.callback := by
  have htasks := h.tasks
  rw [hown, List.append_nil] at htasks
  exact htasks

/-- The sign-in flow whose callback has been called has left the queue. -/
theorem room_reacted {a : Auth α κ} (hs : a.Sound) {u : Nat} {user user' : User α κ}
    (huser : a.users[u]? = some user) {call : AccessTokenCall (TokenCallback κ)}
    (hcallbacks : call.callback :: user'.callbacks = user.callbacks)
    (hretrieves : call.callback.retrieves = true) :
    (a.updateUser u user').retrievals u = 0 ∧ a.currentUser ≠ some u := by
  have hcount := retrievals_updateUser huser user' u
  rw [if_pos rfl, if_pos rfl, ← hcallbacks, List.countP_cons_of_pos hretrieves] at hcount
  have honce := hs.once u
  refine ⟨by omega, ?_⟩
  intro hcurrent
  have hzero := hs.current u hcurrent
  omega

/-- A callback that is told of an update saves the user, if it is the current one. -/
theorem accessTokenCall_spec {a : Auth α κ} {faults : KeychainFaults} (hs : a.Sound)
    (hdeletes : a.keychainServices.DeletesLegacy a.userKey faults) {u : Nat}
    (hlt : u < a.users.length) {call : AccessTokenCall (TokenCallback κ)}
    (hroom : call.callback.retrieves = true → a.retrievals u = 0 ∧ a.currentUser ≠ some u)
    (herror : ∀ error, call.error = some error → call.tokenUpdated = false) :
    (a.accessTokenCall u call faults).Sound ∧
      ((call.tokenUpdated = false ∨ some u ≠ a.currentUser → a.Mirrored) →
        a.SavesCall u call faults → (a.accessTokenCall u call faults).Mirrored) := by
  rw [accessTokenCall.eq_def, SavesCall]
  cases hcall : call.error with
  | some error =>
      have hkept := kept_signOutIfTokenIsInvalid hs hdeletes u error
      obtain ⟨hsound, hmirrored⟩ := tokenCallback_spec hkept.sound (hkept.frame.users ▸ hlt)
        call.callback (.error (.backend error)) fun _ hok => nomatch hok
      refine ⟨hsound, fun hm hok => hmirrored (hkept.mirrored (hm (.inl ?_)) hok)⟩
      exact herror error hcall
  | none =>
      cases hupdated : call.tokenUpdated with
      | false =>
          obtain ⟨hsound, hmirrored⟩ :=
            tokenCallback_spec hs hlt call.callback (.ok call.token) fun _ _ => hroom
          exact ⟨hsound, fun hm _ => hmirrored (hm (.inl rfl))⟩
      | true =>
          obtain ⟨hframe, hcurrent, hsound, hmirrored⟩ := kept_updateKeychain hs hdeletes u
          obtain ⟨hsound', hmirrored'⟩ := tokenCallback_spec hsound (hframe.users ▸ hlt)
            call.callback ((a.updateKeychain u faults).1.map fun _ => call.token)
            fun _ _ hretrieves => by
              rw [hframe.retrievals, hcurrent]
              exact hroom hretrieves
          refine ⟨hsound', fun hm hok => hmirrored' (hmirrored (fun hne => hm (.inr hne)) ?_)⟩
          exact hok rfl

/-- A token service has reacted, and its callback has been called. -/
theorem keeps_tokenServiceReacted {a : Auth α κ} {faults : KeychainFaults} (hs : a.Sound)
    (hdeletes : a.keychainServices.DeletesLegacy a.userKey faults) {u : Nat} {user : User α κ}
    (huser : a.users[u]? = some user) {expirationDate : String → Option ℚ}
    {e : SecureTokenService.Event (TokenCallback κ)}
    {called : Option (AccessTokenCall (TokenCallback κ))}
    {service : SecureTokenService (TokenCallback κ)}
    (h : SecureTokenService.Reaction user.tokenService expirationDate e called service)
    (hown : SecureTokenService.fetched e = []) :
    Keeps a (a.tokenServiceReacted u user faults (called, service))
      (∀ call, called = some call → a.SavesCall u call faults) := by
  have hcallbacks : called.toList.map AccessTokenCall.callback ++
      User.callbacks { user with tokenService := service } = user.callbacks :=
    callbacks_reaction h hown
  have hsound : (a.updateUser u { user with tokenService := service }).Sound := by
    refine hs.updateUser huser ?_ ?_ ?_
    · intro hcurrent
      obtain ⟨old, hold, hid⟩ := hs.named u hcurrent
      obtain rfl := Option.some.inj (hold.symm.trans huser)
      exact hid
    · exact h.refreshToken (hs.refreshTokens user (List.mem_of_getElem? huser))
    · rw [← hcallbacks, List.countP_append]
      exact Nat.le_add_left _ _
  -- the archive changes with the tokens only
  have hsame : (∀ c, called = some c → c.tokenUpdated = false) → a.Mirrored →
      (a.updateUser u { user with tokenService := service }).Mirrored := by
    intro hupdated hm
    refine hm.updateUser huser fun _ => ?_
    rw [User.encodeWithCoder, User.encodeWithCoder, h.tokens_eq hupdated]
  cases called with
  | none => exact ⟨hsound, fun hm _ => hsame (fun _ hc => nomatch hc) hm⟩
  | some call =>
      have hlt : u < (a.updateUser u { user with tokenService := service }).users.length := by
        rw [updateUser, List.length_set]
        exact (List.getElem?_eq_some_iff.mp huser).1
      obtain ⟨hsound', hmirrored⟩ := accessTokenCall_spec hsound hdeletes hlt
        (room_reacted hs huser hcallbacks) fun _ => h.tokenUpdated_of_error
      refine ⟨hsound', fun hm hok => hmirrored ?_ (hok call rfl)⟩
      rintro (hupdated | hne)
      · refine hsame ?_ hm
        rintro c ⟨⟩
        exact hupdated
      · exact hm.updateUser huser fun hcurrent => absurd hcurrent.symm hne

-- ============================================================================
-- Fetches and sign-in
-- ============================================================================

theorem keeps_internalGetToken {a t : Auth α κ} (hs : a.Sound) {u : Nat} {forceRefresh : Bool}
    {callback : TokenCallback κ} (hcallback : callback.retrieves = false)
    (h : a.internalGetToken u forceRefresh callback = some t) : Keeps a t True := by
  obtain ⟨user, huser, rfl⟩ := Option.map_eq_some_iff.mp h
  refine ⟨hs.updateUser huser ?_ ?_ ?_, fun hm _ => hm.updateUser huser fun _ => rfl⟩
  · intro hcurrent
    obtain ⟨old, hold, hid⟩ := hs.named u hcurrent
    obtain rfl := Option.some.inj (hold.symm.trans huser)
    exact hid
  · exact hs.refreshTokens user (List.mem_of_getElem? huser)
  · simp [User.callbacks, SecureTokenService.fetchAccessToken, hcallback]

theorem Sound.lt {a : Auth α κ} (hs : a.Sound) {u : Nat} (h : a.currentUser = some u) :
    u < a.users.length := by
  obtain ⟨user, huser, -⟩ := hs.named u h
  exact (List.getElem?_eq_some_iff.mp huser).1

theorem Sound.countP_requests {a : Auth α κ} (hs : a.Sound) {v : Nat} (hv : a.users.length ≤ v) :
    (a.requests.outstanding.countP fun p => p.2.retrieves v) = 0 := by
  rw [List.countP_eq_zero]
  rintro ⟨serial, request⟩ hp hretrieves
  have hlt := hs.requests _ hp
  cases request with
  | retrieveUser user =>
      have huser : user = v := by simpa [UserRequest.retrieves] using hretrieves
      exact Nat.lt_irrefl _ (Nat.lt_of_lt_of_le hlt (huser ▸ hv))
  | _ => cases hretrieves

theorem retrievals_append {a : Auth α κ} (hs : a.Sound) (user : User α κ) (v : Nat) :
    retrievals { a with users := a.users ++ [user] } v =
      if v = a.users.length then user.callbacks.countP TokenCallback.retrieves
      else a.retrievals v := by
  rw [retrievals, retrievals]
  split
  · rename_i hv
    rw [hs.countP_requests (Nat.le_of_eq hv.symm), hv]
    simp
  · rename_i hv
    by_cases hlt : v < a.users.length
    · simp only [List.getElem?_append_left hlt]
    · have hlong : (a.users ++ [user])[v]? = none := by
        rw [List.getElem?_eq_none_iff, List.length_append, List.length_singleton]
        omega
      simp only [hlong, List.getElem?_eq_none_iff.mpr (Nat.not_lt.mp hlt)]

/-- A new user object. -/
theorem Sound.append {a : Auth α κ} (hs : a.Sound) {user : User α κ}
    (hrefresh : user.tokenService.refreshToken.isSome)
    (hcount : user.callbacks.countP TokenCallback.retrieves ≤ 1) :
    Sound { a with users := a.users ++ [user] } := by
  constructor
  · exact hs.settled
  · exact hs.decodable
  · intro u hu
    obtain ⟨old, hold, hid⟩ := hs.named u hu
    exact ⟨old, (List.getElem?_append_left (hs.lt hu)).trans hold, hid⟩
  · intro x hx
    rcases List.mem_append.mp hx with hx | hx
    · exact hs.refreshTokens x hx
    · obtain rfl := List.mem_singleton.mp hx
      exact hrefresh
  · intro p hp
    rw [List.length_append]
    exact Nat.lt_of_lt_of_le (hs.requests p hp) (Nat.le_add_right _ _)
  · exact hs.numbered
  · intro v
    rw [retrievals_append hs]
    split
    · exact hcount
    · exact hs.once v
  · intro u hu
    rw [retrievals_append hs, if_neg (Nat.ne_of_lt (hs.lt hu))]
    exact hs.current u hu

theorem current_append {a : Auth α κ} (hs : a.Sound) (user : User α κ) :
    current { a with users := a.users ++ [user] } = a.current := by
  rw [current, current]
  cases hcurrent : a.currentUser with
  | none => rfl
  | some u => exact List.getElem?_append_left (hs.lt hcurrent)

theorem Mirrored.append {a : Auth α κ} (h : a.Mirrored) (hs : a.Sound) (user : User α κ) :
    Mirrored { a with users := a.users ++ [user] } := by
  rw [Mirrored, current_append hs]
  exact h

theorem keeps_completeSignIn {a : Auth α κ} (hs : a.Sound) (accessToken : Option String)
    (date : Option ℚ) {refreshToken : Option String} (hrefresh : refreshToken.isSome)
    (anonymous : Bool) (completion : κ) :
    Keeps a (a.completeSignIn accessToken date refreshToken anonymous completion) True :=
  ⟨hs.append hrefresh (Nat.le_refl 1), fun hm _ => hm.append hs _⟩

-- ============================================================================
-- Replies
-- ============================================================================

/-- The account that a reply describes has an ID. -/
def UserReplyNamed (reply : UserReply α) : Prop :=
  ∀ response, reply = .getAccountInfo (.ok response) → response.localID.isSome

/-- The user of a sign-in flow becomes the current one, if that can be saved. -/
theorem kept_retrieveUser {a : Auth α κ} {faults : KeychainFaults} (hs : a.Sound)
    (hdeletes : a.keychainServices.DeletesLegacy a.userKey faults) {u : Nat} {user : User α κ}
    (huser : a.users[u]? = some user) (user' : User α κ) (hzero : a.retrievals u = 0)
    (hne : a.currentUser ≠ some u)
    (hid : user'.userID.isSome) (hservice : user'.tokenService = user.tokenService) :
    ((a.updateUser u user').updateCurrentUser (some u) false true faults).2.Sound ∧
      (a.Mirrored →
        ((a.updateUser u user').updateCurrentUser (some u) false true faults).2.Mirrored) := by
  have hcallbacks : user'.callbacks = user.callbacks := by
    rw [User.callbacks, User.callbacks, hservice]
  have hsound : (a.updateUser u user').Sound := by
    refine hs.updateUser huser (fun _ => hid) ?_ (Nat.le_of_eq (by rw [hcallbacks]))
    rw [hservice]
    exact hs.refreshTokens user (List.mem_of_getElem? huser)
  have heligible : ∀ v, some u = some v → (a.updateUser u user').Eligible v := by
    rintro v ⟨⟩
    refine ⟨?_, user', List.getElem?_set_self (List.getElem?_eq_some_iff.mp huser).1, hid⟩
    have hcount := retrievals_updateUser huser user' u
    rw [hcallbacks] at hcount
    omega
  have hkept := (update_updateCurrentUser (some u) false hsound.settled hdeletes).kept hsound
    heligible
  refine ⟨hkept.sound, fun hm => hkept.mirrored ?_ fun hforce => nomatch hforce⟩
  exact hm.updateUser huser fun hcurrent => absurd hcurrent hne

/-- A reply after which the current user is saved, or removed whether or not that
    can be saved. -/
def SavesReply (a : Auth α κ) : UserRequest κ → UserReply α → Prop
  | .getAccountInfo u _ _, .getAccountInfo (.ok _) => a.currentUser = some u
  | .getAccountInfo .., .getAccountInfo (.error error) => error.code ∈ invalidTokenCodes
  | .deleteAccount .., .deleteAccount none => True
  | _, _ => False

theorem keeps_requestCallback {a t : Auth α κ} {faults : KeychainFaults} (hs : a.Sound)
    (hdeletes : a.keychainServices.DeletesLegacy a.userKey faults) {request : UserRequest κ}
    (hroom : ∀ v, request.retrieves v = true → a.retrievals v = 0 ∧ a.currentUser ≠ some v)
    {reply : UserReply α} (hnamed : UserReplyNamed reply)
    (h : a.requestCallback faults request reply = some t) :
    Keeps a t (a.SavesReply request reply → faults.Writable) := by
  unfold requestCallback at h
  split at h
  · -- the account data of a new user cannot be had
    obtain rfl := Option.some.inj h
    exact ⟨hs.complete _, fun hm _ => hm.complete _⟩
  · rename_i u accessToken anonymous completion response
    obtain ⟨user, huser, rfl⟩ := Option.map_eq_some_iff.mp h
    obtain ⟨hzero, hne⟩ := hroom u (by simp [UserRequest.retrieves])
    obtain ⟨hsound, hmirrored⟩ := kept_retrieveUser hs hdeletes huser
      ({ user with anonymous }.updateWithGetAccountInfoResponse response) hzero hne
      (hnamed response rfl) rfl
    dsimp only
    split
    · exact ⟨hsound.complete _, fun hm _ => (hmirrored hm).complete _⟩
    · exact ⟨hsound.complete _, fun hm _ => (hmirrored hm).complete _⟩
  · rename_i u accessToken completion error
    obtain rfl := Option.some.inj h
    have hkept := kept_signOutIfTokenIsInvalid hs hdeletes u error
    exact ⟨hkept.sound.complete _, fun hm hok => (hkept.mirrored hm hok).complete _⟩
  · rename_i u accessToken completion response
    obtain ⟨user, huser, rfl⟩ := Option.map_eq_some_iff.mp h
    have hsound : (a.updateUser u (user.updateWithGetAccountInfoResponse response)).Sound :=
      hs.updateUser huser (fun _ => hnamed response rfl)
        (hs.refreshTokens user (List.mem_of_getElem? huser)) (Nat.le_refl _)
    obtain ⟨-, -, hsound', hmirrored⟩ := kept_updateKeychain hsound hdeletes u
    have hm' : a.Mirrored → (a.currentUser = some u → faults.Writable) →
        ((a.updateUser u (user.updateWithGetAccountInfoResponse response)).updateKeychain u
          faults).2.Mirrored := by
      intro hm hok
      refine hmirrored (fun hne => ?_) hok
      exact hm.updateUser huser fun hcurrent => absurd hcurrent.symm hne
    dsimp only
    split
    · exact ⟨hsound'.complete _, fun hm hok => (hm' hm hok).complete _⟩
    · exact ⟨hsound'.complete _, fun hm hok => (hm' hm hok).complete _⟩
  · obtain rfl := Option.some.inj h
    exact ⟨hs.complete _, fun hm _ => hm.complete _⟩
  · rename_i u localID accessToken completion
    have hkept := kept_signOutByForce hs hdeletes (a.users[u]?.bind User.userID)
    dsimp only at h
    split at h
    · obtain rfl := Option.some.inj h
      exact ⟨hkept.sound.complete _, fun hm hok => (hkept.mirrored hm (hok trivial)).complete _⟩
    · obtain rfl := Option.some.inj h
      exact ⟨hkept.sound.complete _, fun hm hok => (hkept.mirrored hm (hok trivial)).complete _⟩
  · cases h

-- ============================================================================
-- Launching
-- ============================================================================

/-- Opening the store again and reading it. -/
theorem reopened_spec {a : Auth α κ} (hs : a.Sound) {faults : KeychainFaults}
    (hdeletes : a.keychainServices.DeletesLegacy a.userKey faults) :
    (a.keychainServices.reopened.dataForKey a.userKey faults).2.data a.userKey = a.stored ∧
      (∀ archive, (a.keychainServices.reopened.dataForKey a.userKey faults).1 = .ok archive →
        archive = a.stored) ∧
      (a.keychainServices.reopened.dataForKey a.userKey faults).2.Settled a.userKey := by
  obtain ⟨hdata, hfound, hsettled⟩ :=
    KeychainServices.dataForKey_spec a.keychainServices.reopened a.userKey faults
  have hstored : a.keychainServices.reopened.data a.userKey = a.stored :=
    KeychainServices.data_reopened hs.settled
  refine ⟨hdata.trans hstored, fun archive harchive => (hfound archive harchive).trans hstored, ?_⟩
  exact hsettled hdeletes fun hdeleted => absurd hdeleted (Finset.notMem_empty _)

/-- Making a user the current one without saving it. -/
theorem updateCurrentUser_unsaved (a : Auth α κ) {user : Option Nat} (force : Bool)
    (faults : KeychainFaults)
    (htenant : ∀ object, (user.bind fun u => a.users[u]?) = some object →
      object.tenantID = a.tenantID) :
    (a.updateCurrentUser user force false faults).2 =
      possiblyPostAuthStateChangeNotification { a with currentUser := user } := by
  rw [updateCurrentUser]
  split
  · rename_i huser
    rw [huser]
  · have hmatch : ¬((user.bind fun u => a.users[u]?).isSome ∧
        (user.bind fun u => a.users[u]?).bind User.tenantID ≠ a.tenantID) := by
      rintro ⟨hsome, hne⟩
      obtain ⟨object, hobject⟩ := Option.isSome_iff_exists.mp hsome
      rw [hobject] at hne
      exact hne (htenant object hobject)
    dsimp only
    rw [if_neg hmatch]
    rfl

theorem getElem?_append_toList {τ : Type} (users : List τ) (user : Option τ) :
    ((user.map fun _ => users.length).bind fun u => (users ++ user.toList)[u]?) = user := by
  cases user <;> simp

/-- The user that is read from an archive becomes the current one. -/
theorem protectedDataInitialization_posts {a : Auth α κ} {reference : Nat}
    {faults : KeychainFaults} {archive : Option (UserArchive α)} (user : Option (User α κ))
    (hread : (a.keychainServices.reopened.dataForKey a.userKey faults).1 = .ok archive)
    (huser : (archive.bind fun archive => User.initWithCoder archive reference) = user) :
    a.protectedDataInitialization reference faults =
      possiblyPostAuthStateChangeNotification
        { a with
          keychainServices := (a.keychainServices.reopened.dataForKey a.userKey faults).2
          users := a.users ++ user.toList
          tenantID := user.bind User.tenantID
          currentUser := user.map fun _ => a.users.length } := by
  have hlast := getElem?_append_toList a.users user
  have hnumber : (user.map fun _ => (a.users ++ user.toList).length - 1) =
      user.map fun _ => a.users.length := by
    cases user <;> simp
  have htenant : ∀ object,
      ((user.map fun _ => a.users.length).bind fun u => (a.users ++ user.toList)[u]?) =
        some object → object.tenantID = user.bind User.tenantID := by
    intro object hobject
    rw [hlast] at hobject
    rw [hobject]
    rfl
  rw [protectedDataInitialization.eq_def]
  dsimp only
  rw [hread]
  dsimp only
  rw [huser, hnumber]
  have hunsaved := updateCurrentUser_unsaved
    { a with
      keychainServices := (a.keychainServices.reopened.dataForKey a.userKey faults).2
      users := a.users ++ user.toList
      tenantID := user.bind User.tenantID }
    false faults htenant
  obtain ⟨notifications, hpost⟩ := possiblyPost_eq
    { a with
      keychainServices := (a.keychainServices.reopened.dataForKey a.userKey faults).2
      users := a.users ++ user.toList
      tenantID := user.bind User.tenantID
      currentUser := user.map fun _ => a.users.length }
  rw [hunsaved, hpost]
  simp only [current, hlast]

theorem protectedDataInitialization_ok {a : Auth α κ} {reference : Nat} {faults : KeychainFaults}
    {archive : Option (UserArchive α)} (user : Option (User α κ))
    (hread : (a.keychainServices.reopened.dataForKey a.userKey faults).1 = .ok archive)
    (huser : (archive.bind fun archive => User.initWithCoder archive reference) = user) :
    ∃ notifications, a.protectedDataInitialization reference faults =
      { a with
        keychainServices := (a.keychainServices.reopened.dataForKey a.userKey faults).2
        users := a.users ++ user.toList
        tenantID := user.bind User.tenantID
        currentUser := user.map fun _ => a.users.length
        lastNotifiedUserToken := user.bind User.rawAccessToken
        notifications } := by
  obtain ⟨notifications, hpost⟩ := possiblyPost_eq
    { a with
      keychainServices := (a.keychainServices.reopened.dataForKey a.userKey faults).2
      users := a.users ++ user.toList
      tenantID := user.bind User.tenantID
      currentUser := user.map fun _ => a.users.length }
  refine ⟨notifications, ?_⟩
  rw [protectedDataInitialization_posts user hread huser, hpost]
  simp only [current, getElem?_append_toList]

/-- The saved user is read and becomes the current one, or the keychain cannot be
    read. -/
theorem protectedDataInitialization_cases {a : Auth α κ} (hs : a.Sound) (faults : KeychainFaults)
    (hdeletes : a.keychainServices.DeletesLegacy a.userKey faults) (reference : Nat) :
    (∃ services, a.protectedDataInitialization reference faults =
        { a with keychainServices := services, protectedDataDidBecomeAvailableObserver := true } ∧
      services.data a.userKey = a.stored ∧ services.Settled a.userKey ∧
      ∃ error, (a.keychainServices.reopened.dataForKey a.userKey faults).1 = .error error) ∨
    ((a.protectedDataInitialization reference faults).Sound ∧
      (a.protectedDataInitialization reference faults).Mirrored ∧
      (a.protectedDataInitialization reference faults).current.map User.encodeWithCoder =
        a.stored) := by
  obtain ⟨hdata, hfound, hsettled⟩ := reopened_spec hs hdeletes
  cases hread : (a.keychainServices.reopened.dataForKey a.userKey faults).1 with
  | error error =>
      refine .inl ⟨_, ?_, hdata, hsettled, error, rfl⟩
      rw [protectedDataInitialization.eq_def]
      dsimp only
      rw [hread]
  | ok archive =>
      right
      obtain rfl := hfound archive hread
      -- the user that the archive describes
      obtain ⟨user, huser, hencode, heligible⟩ : ∃ user : Option (User α κ),
          (a.stored.bind fun archive => User.initWithCoder archive reference) = user ∧
          user.map User.encodeWithCoder = a.stored ∧ ∀ x, user = some x → x.userID.isSome ∧
            x.tokenService.refreshToken.isSome ∧ x.callbacks = [] := by
        cases hstored : a.stored with
        | none => exact ⟨none, rfl, rfl, fun x hx => nomatch hx⟩
        | some archive =>
            obtain ⟨user, hdecode, hencode, hrest⟩ :=
              User.initWithCoder_decodable (hs.decodable archive hstored) reference
            refine ⟨some user, hdecode, congrArg some hencode, ?_⟩
            rintro x ⟨⟩
            exact hrest
      obtain ⟨notifications, h⟩ := protectedDataInitialization_ok _ hread huser
      rw [h]
      have hsound : Sound { a with users := a.users ++ user.toList } := by
        cases user with
        | none =>
            rw [Option.toList_none, List.append_nil]
            exact hs
        | some user =>
            obtain ⟨-, hrefresh, hcallbacks⟩ := heligible user rfl
            exact hs.append hrefresh (by rw [hcallbacks]; exact Nat.zero_le _)
      have hcurrent := getElem?_append_toList a.users user
      refine ⟨hsound.frame ⟨rfl, rfl, rfl, rfl⟩ hsettled ?_ ?_, .inl ?_, ?_⟩
      · intro archive harchive
        exact hs.decodable archive (hdata.symm.trans harchive)
      · intro u hu
        obtain ⟨x, rfl, rfl⟩ := Option.map_eq_some_iff.mp hu
        obtain ⟨hid, -, hcallbacks⟩ := heligible x rfl
        refine ⟨?_, x, by simp, hid⟩
        have hzero := retrievals_append hs x a.users.length
        rw [if_pos rfl, hcallbacks] at hzero
        exact hzero
      · exact hdata.trans (hencode.symm.trans (congrArg _ hcurrent.symm))
      · exact (congrArg (Option.map User.encodeWithCoder) hcurrent).trans hencode

/-- A new process knows what the keychain does. -/
theorem Sound.blank {a : Auth α κ} (hs : a.Sound) :
    Sound (α := α) (κ := κ)
      { firebaseAppName := a.firebaseAppName
        keychainServices := a.keychainServices
        requests := { issued := a.requests.issued }
        completions := a.completions
        notifications := a.notifications } := by
  constructor
  · exact hs.settled
  · exact hs.decodable
  · exact fun u hu => nomatch hu
  · exact fun x hx => nomatch hx
  · exact fun p hp => nomatch hp
  · exact .none_outstanding _
  · exact fun v => Nat.zero_le _
  · exact fun u hu => nomatch hu

theorem Sound.observing {a : Auth α κ} (hs : a.Sound) {services : KeychainServices (UserArchive α)}
    (hdata : services.data a.userKey = a.stored) (hsettled : services.Settled a.userKey)
    (observer : Bool) :
    Sound
      { a with
        keychainServices := services, protectedDataDidBecomeAvailableObserver := observer } := by
  refine ⟨hsettled, ?_, hs.named, hs.refreshTokens, hs.requests, hs.numbered, hs.once, hs.current⟩
  intro archive harchive
  exact hs.decodable archive (hdata.symm.trans harchive)

/-- After a launch the user that was saved is signed in, or the keychain has not
    been read. -/
theorem sound_launched {a : Auth α κ} (hs : a.Sound) {faults : KeychainFaults}
    (hdeletes : a.keychainServices.DeletesLegacy a.userKey faults) (reference : Nat) :
    (a.launched reference faults).Sound ∧ (a.launched reference faults).Mirrored := by
  rw [launched]
  rcases protectedDataInitialization_cases hs.blank faults hdeletes reference with
    ⟨services, h, hdata, hsettled, -⟩ | ⟨hsound, hmirrored, -⟩
  · rw [h]
    exact ⟨hs.blank.observing hdata hsettled true, .inr ⟨rfl, rfl⟩⟩
  · exact ⟨hsound, hmirrored⟩

theorem sound_protectedDataDidBecomeAvailable {a : Auth α κ} (hs : a.Sound)
    {faults : KeychainFaults} (hdeletes : a.keychainServices.DeletesLegacy a.userKey faults)
    (reference : Nat) :
    ((protectedDataInitialization
        { a with protectedDataDidBecomeAvailableObserver := false } reference faults).Sound) ∧
      (a.Mirrored → (protectedDataInitialization
        { a with protectedDataDidBecomeAvailableObserver := false } reference faults).Mirrored) := by
  rcases protectedDataInitialization_cases (hs.observing rfl hs.settled false) faults hdeletes reference
    with ⟨services, h, hdata, hsettled, -⟩ | ⟨hsound, hmirrored, -⟩
  · rw [h]
    refine ⟨hs.observing hdata hsettled true, fun hm => ?_⟩
    rcases hm with hstored | hunread
    · exact .inl (hdata.trans hstored)
    · exact .inr ⟨rfl, hunread.2⟩
  · exact ⟨hsound, fun _ => hmirrored⟩

-- ============================================================================
-- Runs
-- ============================================================================

section Runs

variable {expirationDate : String → Option ℚ}

def Event.faults : Event α κ → KeychainFaults
  | .secureTokenReply _ _ _ faults => faults
  | .reply _ _ faults => faults
  | .signOut faults => faults
  | .protectedDataDidBecomeAvailable _ faults => faults
  | .relaunch _ faults => faults
  | _ => {}

/-- What is relied on: a sign-in comes with a refresh token, account data with an
    ID, and the deletion of a legacy item reaches it. -/
def Answered (a : Auth α κ) (e : Event α κ) : Prop :=
  a.keychainServices.DeletesLegacy a.userKey e.faults ∧
    match e with
    | .completeSignIn _ _ refreshToken _ _ => refreshToken.isSome
    | .reply _ reply _ => UserReplyNamed reply
    | _ => True

/-- The keychain can be written when new tokens or account data of the current user
    arrive, and when a user is signed out because its token is invalid or its
    account has been deleted; a sign-in or sign-out need not be saved. -/
def Saves (a : Auth α κ) : Event α κ → Prop
  | .secureTokenReply u (.ok _) _ faults => a.currentUser = some u → faults.Writable
  | .secureTokenReply _ (.error error) _ faults => error.code ∈ invalidTokenCodes → faults.Writable
  | .reply serial reply faults =>
      ∀ request ∈ a.requests.find? serial, a.SavesReply request reply → faults.Writable
  | _ => True

/-- A callback is told what the reply says. -/
theorem savesCall_of_saves {a : Auth α κ} {u : Nat} {response : Except NSError SecureTokenResponse}
    {now : ℚ} {faults : KeychainFaults} {s t : SecureTokenService (TokenCallback κ)}
    {call : AccessTokenCall (TokenCallback κ)}
    (h : SecureTokenService.Reaction s expirationDate (.secureTokenReply response now) (some call) t)
    (hsaves : a.Saves (.secureTokenReply u response now faults)) :
    a.SavesCall u call faults := by
  cases h with
  | failed => exact hsaves
  | answered => exact fun _ => hsaves

theorem sound_step {a t : Auth α κ} {e : Event α κ} (hs : a.Sound) (hanswered : a.Answered e)
    (h : a.step expirationDate e = some t) :
    t.Sound ∧ (a.Mirrored → a.Saves e → t.Mirrored) := by
  obtain ⟨hdeletes, hnamed⟩ := hanswered
  have htoken : ∀ {u forceRefresh} {callback : TokenCallback κ}, callback.retrieves = false →
      a.internalGetToken u forceRefresh callback = some t →
      t.Sound ∧ (a.Mirrored → a.Saves e → t.Mirrored) := by
    intro u forceRefresh callback hcallback h
    obtain ⟨hsound, hmirrored⟩ := keeps_internalGetToken hs hcallback h
    exact ⟨hsound, fun hm _ => hmirrored hm trivial⟩
  cases e with
  | completeSignIn accessToken date refreshToken anonymous completion =>
      obtain rfl := Option.some.inj h
      obtain ⟨hsound, hmirrored⟩ :=
        keeps_completeSignIn hs accessToken date hnamed anonymous completion
      exact ⟨hsound, fun hm _ => hmirrored hm trivial⟩
  | getIDToken u forceRefresh completion => exact htoken rfl h
  | getToken forceRefresh completion =>
      rw [step, getToken] at h
      split at h
      · obtain rfl := Option.some.inj h
        exact ⟨hs.complete _, fun hm _ => hm.complete _⟩
      · exact htoken rfl h
  | reload u completion => exact htoken rfl h
  | delete u completion => exact htoken rfl h
  | runTask u now =>
      obtain ⟨user, huser, h⟩ := Option.bind_eq_some_iff.mp h
      obtain ⟨⟨called, service⟩, hreact, rfl⟩ := Option.map_eq_some_iff.mp h
      obtain ⟨hsound, hmirrored⟩ := keeps_tokenServiceReacted hs hdeletes huser
        (SecureTokenService.reaction_runTask expirationDate hreact) rfl
      have hnone : KeychainFaults.Writable {} := ⟨rfl, rfl, rfl⟩
      refine ⟨hsound, fun hm _ => hmirrored hm fun call _ => ?_⟩
      rw [SavesCall]
      split
      · exact fun _ => hnone
      · exact fun _ _ => hnone
  | secureTokenReply u response now faults =>
      obtain ⟨user, huser, h⟩ := Option.bind_eq_some_iff.mp h
      obtain ⟨⟨called, service⟩, hreact, rfl⟩ := Option.map_eq_some_iff.mp h
      have hreaction := SecureTokenService.reaction_secureTokenReply hreact
      obtain ⟨hsound, hmirrored⟩ := keeps_tokenServiceReacted hs hdeletes huser hreaction rfl
      refine ⟨hsound, fun hm hsaves => hmirrored hm ?_⟩
      rintro call rfl
      exact savesCall_of_saves hreaction hsaves
  | reply serial reply faults =>
      obtain ⟨⟨request, requests⟩, hanswer, h⟩ := Option.bind_eq_some_iff.mp h
      obtain ⟨hsound, -, hroom⟩ := hs.answer hanswer
      obtain ⟨hsound', hmirrored⟩ := keeps_requestCallback hsound hdeletes hroom hnamed h
      refine ⟨hsound', fun hm hsaves => hmirrored (hm.congr rfl rfl rfl rfl) ?_⟩
      exact hsaves request (Calls.answer_some hanswer).1
  | signOut faults =>
      obtain rfl := Option.some.inj h
      have hkept := kept_signOut hs hdeletes
      exact ⟨hkept.sound, fun hm _ => hkept.mirrored hm trivial⟩
  | setTenantID tenantID =>
      obtain rfl := Option.some.inj h
      exact ⟨⟨hs.settled, hs.decodable, hs.named, hs.refreshTokens, hs.requests, hs.numbered,
        hs.once, hs.current⟩, fun hm _ => hm.congr rfl rfl rfl rfl⟩
  | protectedDataDidBecomeAvailable reference faults =>
      rw [step] at h
      split at h
      · obtain rfl := Option.some.inj h
        obtain ⟨hsound, hmirrored⟩ := sound_protectedDataDidBecomeAvailable hs hdeletes reference
        exact ⟨hsound, fun hm _ => hmirrored hm⟩
      · cases h
  | relaunch reference faults =>
      obtain rfl := Option.some.inj h
      obtain ⟨hsound, hmirrored⟩ := sound_launched hs hdeletes reference
      exact ⟨hsound, fun _ _ => hmirrored⟩

end Runs

end Auth

end Spark.Firebase
