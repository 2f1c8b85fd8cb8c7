/-
  Spark.App.LiveForm

  A form that asks for a code has a live ID to check it with.

  Visibility of the login form, its mode and the stored ID are set by different
  handlers: `checkUserSignIn` shows and hides the form, `closeOtpScreen` (which
  nothing calls) would reset its mode, and nothing resets the ID.  A successful
  sign-in consumes the ID and leaves the form in OTP mode, so the next sign-out
  shows a form that asks for a code of the previous user.

  `IdsAnswered` holds of every run: an ID that is known anywhere belongs to a
  call that has been answered, so the ID a reply brings is new.
-/

import Spark.App.Step

namespace Spark

open Spark.Lib

namespace App

section Ids

variable {Image : Type}

-- ============================================================================
-- Known IDs
-- ============================================================================

/-- The IDs the app or Firebase has seen: the stored one, those of sign-ins in
    flight and those consumed. -/
inductive Known (s : App Image) : VerificationID → Prop
  | stored {id} (h : s.auth.shared.verificationId = some id) : Known s id
  | signIn {p} (hp : p ∈ s.signIns.outstanding) : Known s p.2.credential.verificationId
  | consumed {id} (h : id ∈ s.firebase.consumed) : Known s id

/-- A known ID belongs to a call that has been issued and answered. -/
structure IdsAnswered (s : App Image) : Prop where
  issued : ∀ p ∈ s.auth.calls.outstanding, p.1 < s.auth.calls.issued
  known : ∀ id, s.Known id →
    id.serial < s.auth.calls.issued ∧ ∀ p ∈ s.auth.calls.outstanding, p.1 ≠ id.serial

/-- No new IDs and no new calls. -/
theorem IdsAnswered.mono {s t : App Image} (h : s.IdsAnswered)
    (hissued : t.auth.calls.issued = s.auth.calls.issued)
    (hcalls : ∀ p ∈ t.auth.calls.outstanding, p ∈ s.auth.calls.outstanding)
    (hknown : ∀ id, t.Known id → s.Known id) : t.IdsAnswered := by
  constructor
  · intro p hp
    rw [hissued]
    exact h.issued p (hcalls p hp)
  · intro id hid
    obtain ⟨hlt, hne⟩ := h.known id (hknown id hid)
    rw [hissued]
    exact ⟨hlt, fun p hp => hne p (hcalls p hp)⟩

/-- The same IDs are known when the three places hold the same. -/
theorem Known.of_eq {s t : App Image} {id : VerificationID} (h : t.Known id)
    (hshared : t.auth.shared = s.auth.shared)
    (hsignIns : ∀ p ∈ t.signIns.outstanding, p ∈ s.signIns.outstanding)
    (hconsumed : t.firebase.consumed = s.firebase.consumed) : s.Known id := by
  cases h with
  | stored h => exact .stored (hshared ▸ h)
  | signIn hp => exact .signIn (hsignIns _ hp)
  | consumed h => exact .consumed (hconsumed ▸ h)

theorem IdsAnswered.startAuth {s : App Image} (h : s.IdsAnswered) (n : String)
    (k : StartAuthCompletion) : (s.startAuth n k).IdsAnswered := by
  constructor
  · intro p hp
    rcases Calls.mem_issue.mp hp with hp | rfl
    · exact Nat.lt_succ_of_lt (h.issued p hp)
    · exact Nat.lt_succ_self _
  · intro id hid
    obtain ⟨hlt, hne⟩ := h.known id (hid.of_eq rfl (fun _ hp => hp) rfl)
    refine ⟨Nat.lt_succ_of_lt hlt, ?_⟩
    intro p hp
    rcases Calls.mem_issue.mp hp with hp | rfl
    · exact hne p hp
    · exact Nat.ne_of_gt hlt

/-- A successful reply brings an ID of a call that is now answered. -/
theorem IdsAnswered.verifyPhoneNumberSucceeded {s : App Image} (h : s.IdsAnswered)
    {serial : Nat} {n : String} {k : StartAuthCompletion} {b : Block}
    {auth : PhoneAuth VerificationID StartAuthCompletion}
    (hcall : s.auth.calls.find? serial = some (n, k))
    (hid : auth.shared.verificationId = some ⟨serial, n⟩)
    (hissued : auth.calls.issued = s.auth.calls.issued)
    (hcalls : ∀ p, p ∈ auth.calls.outstanding ↔ p ∈ s.auth.calls.outstanding ∧ p.1 ≠ serial) :
    (App.async { s with auth } b).IdsAnswered := by
  constructor
  · intro p hp
    rw [auth_async, hissued]
    exact h.issued p ((hcalls p).mp hp).1
  · intro id hknown
    rw [auth_async, hissued]
    have hold : s.Known id → id.serial < s.auth.calls.issued ∧
        ∀ p ∈ auth.calls.outstanding, p.1 ≠ id.serial := by
      intro hk
      obtain ⟨hlt, hne⟩ := h.known id hk
      exact ⟨hlt, fun p hp => hne p ((hcalls p).mp hp).1⟩
    cases hknown with
    | stored hstored =>
        obtain rfl := Option.some.inj (hid.symm.trans hstored)
        exact ⟨h.issued _ (Calls.mem_of_find? hcall), fun p hp => ((hcalls p).mp hp).2⟩
    | signIn hp => exact hold (.signIn hp)
    | consumed hmem => exact hold (.consumed hmem)

end Ids

variable {Image : Type} [UIImage Image]

/-- At launch nothing is outstanding, and only consumed IDs are known. -/
theorem idsAnswered_launch {defaults : UserDefaults} {firebase : FirebaseAuth} {issued : Nat}
    (signInsIssued : Nat) (hconsumed : ∀ id ∈ firebase.consumed, id.serial < issued) :
    (launch defaults firebase issued signInsIssued : App Image).IdsAnswered := by
  have hloaded : (loaded defaults firebase issued signInsIssued : App Image).IdsAnswered := by
    refine ⟨nofun, ?_⟩
    intro id hid
    refine ⟨?_, nofun⟩
    cases hid with
    | stored h => cases h
    | signIn hp => cases hp
    | consumed h => exact hconsumed id h
  unfold launch
  split <;> exact hloaded.mono rfl (fun _ hp => hp) fun _ hid => hid.of_eq rfl (fun _ hp => hp) rfl

theorem Transition.idsAnswered {s t : App Image} {e : Event Image} (h : Transition s e t)
    (hinv : s.IdsAnswered) : t.IdsAnswered := by
  have hsame : ∀ {t : App Image}, t.auth = s.auth → t.signIns = s.signIns →
      t.firebase.consumed = s.firebase.consumed → t.IdsAnswered := by
    intro t hauth hsignIns hconsumed
    exact hinv.mono (by rw [hauth]) (fun p hp => hauth ▸ hp)
      fun id hid => hid.of_eq (by rw [hauth]) (fun p hp => hsignIns ▸ hp) hconsumed
  cases h with
  | sendSMSCode hi hmode hlen =>
      exact IdsAnswered.startAuth (hsame (t := s.updateProfile _ _) rfl rfl rfl) _ _
  | verifyCode hi hmode htext hid =>
      refine hinv.mono rfl (fun _ hp => hp) ?_
      intro id hknown
      cases hknown with
      | stored h => exact .stored h
      | consumed h => exact .consumed h
      | signIn hp =>
          rcases Calls.mem_issue.mp hp with hp | rfl
          · exact .signIn hp
          · exact .stored hid
  | resendOtpBtnAction hi => exact hinv.startAuth _ _
  | @signOutBtnAction i error hi => cases error <;> exact hsame rfl rfl rfl
  | @signUpSubmitted sheet firstName lastName email hsheet htap =>
      cases hdelegate : sheet.delegate <;> exact hsame rfl rfl rfl
  | @rowShown row storyboardId hrow => cases storyboardId <;> exact hsame rfl rfl rfl
  | @verifyPhoneNumberFailed serial error n k auth herror hcall hshared hissued hcalls =>
      cases k <;>
        exact hinv.mono hissued (fun p hp => ((hcalls p).mp hp).1) fun id hid =>
          hid.of_eq hshared (fun _ hp => hp) rfl
  | verifyPhoneNumberSucceeded hcall hid hissued hcalls =>
      exact hinv.verifyPhoneNumberSucceeded hcall hid hissued hcalls
  | signInFailed herror hcall hcalls =>
      exact hinv.mono rfl (fun _ hp => hp) fun id hid =>
        hid.of_eq rfl (fun p hp => ((hcalls p).mp hp).1) rfl
  | @signInSucceeded serial call signIns hcall hcalls =>
      refine hinv.mono rfl (fun _ hp => hp) ?_
      intro id hknown
      cases hknown with
      | stored h => exact .stored h
      | signIn hp => exact .signIn ((hcalls _).mp hp).1
      | consumed h =>
          rcases List.mem_cons.mp h with rfl | h
          · exact .signIn (Calls.mem_of_find? hcall)
          · exact .consumed h
  | relaunch => exact idsAnswered_launch _ fun id hid => (hinv.known id (.consumed hid)).1
  | _ => exact hsame rfl rfl rfl

-- ============================================================================
-- The visible form
-- ============================================================================

section LiveForm

omit [UIImage Image]

/-- The stored ID has not been consumed. -/
def HoldsLiveId (s : App Image) : Prop :=
  ∃ id, s.auth.shared.verificationId = some id ∧ id ∉ s.firebase.consumed

/-- When the login form is visible in OTP mode and no call is outstanding, the
    stored ID has not been consumed. -/
def LiveOtpForm (s : App Image) : Prop :=
  ∀ i, s.content = .profile i → (s.profiles i).loginSignupBgViewIsHidden = false →
    (s.profiles i).mobileNumberTxt.placeholder ≠ some "Enter Mobile Number" →
    s.auth.calls.outstanding = [] → s.signIns.outstanding = [] → s.HoldsLiveId

/-- The form on screen, when visible, asks for a code, now or soon, only with
    a live ID. -/
def LiveTracked (s : App Image) : Prop :=
  ∀ i, s.content = .profile i → (s.profiles i).loginSignupBgViewIsHidden = false →
    s.Awaiting i → s.HoldsLiveId

theorem LiveTracked.liveOtpForm {s : App Image} (h : s.LiveTracked) (hs : s.WellFormed) :
    s.LiveOtpForm :=
  fun i hi hvisible hmode _ _ => h i hi hvisible (.inl ((hs.form i).placeholder_iff_title.mp hmode))

/-- The step does not leave a visible form asking for a code of a consumed ID:
    * a sign-in does not consume the stored ID while the form waits for a code;
    * sign-out and registration do not show a form that waits for a code when
      the ID is consumed. -/
def LiveKept (s : App Image) : Event Image → Prop
  | .signInReply serial none =>
      ∀ call, s.signIns.find? serial = some call → ∀ i, s.content = .profile i →
        (s.profiles i).loginSignupBgViewIsHidden = false → s.Awaiting i →
        s.auth.shared.verificationId ≠ some call.credential.verificationId
  | .signOutBtnAction error =>
      (error = none ∨ s.firebase.currentUser = none) → ∀ i, s.content = .profile i →
        s.Awaiting i → s.HoldsLiveId
  | .signUpBtnAction firstName lastName email =>
      SignUpViewController.FieldsPass firstName lastName email →
        s.firebase.currentUser = none → ∀ sheet i, s.signUp = some sheet →
        sheet.delegate = some i → s.content = .profile i → s.Awaiting i → s.HoldsLiveId
  | _ => True

namespace LiveTracked

/-- A step that shows no form, puts none in OTP mode and consumes nothing. -/
theorem mono {s t : App Image} (h : s.LiveTracked)
    (hcontent : ∀ i, t.content = .profile i → s.content = .profile i)
    (hvisible : ∀ i, (t.profiles i).loginSignupBgViewIsHidden = false →
      (s.profiles i).loginSignupBgViewIsHidden = false)
    (hawait : ∀ i, t.Awaiting i → s.Awaiting i)
    (hlive : s.HoldsLiveId → t.HoldsLiveId) : t.LiveTracked :=
  fun i hi hv hw => hlive (h i (hcontent i hi) (hvisible i hv) (hawait i hw))

/-- A handler that shows no form and puts none in OTP mode. -/
theorem updateProfile {s : App Image} (h : s.LiveTracked) (j : Nat)
    {f : ProfileViewController Image → ProfileViewController Image}
    (hhidden : ∀ vc, (f vc).loginSignupBgViewIsHidden = vc.loginSignupBgViewIsHidden)
    (htitle : ∀ vc, (f vc).submitBtnTitle = some "Verify OTP" →
      vc.submitBtnTitle = some "Verify OTP") : (s.updateProfile j f).LiveTracked := by
  refine h.mono (fun _ hi => hi) ?_ (fun i => Awaiting.of_updateProfile htitle) id
  intro i hv
  rw [field_updateProfile s j f hhidden] at hv
  exact hv

theorem keepsForm {s : App Image} (h : s.LiveTracked) (j : Nat)
    {f : ProfileViewController Image → ProfileViewController Image}
    (hf : ProfileViewController.KeepsForm f)
    (hhidden : ∀ vc, (f vc).loginSignupBgViewIsHidden = vc.loginSignupBgViewIsHidden) :
    (s.updateProfile j f).LiveTracked :=
  h.updateProfile j hhidden hf.of_otpMode

theorem recopies {s : App Image} (h : s.LiveTracked) (j : Nat)
    {f : ProfileViewController Image → ProfileViewController Image}
    (hf : ProfileViewController.Recopies f)
    (hhidden : ∀ vc, (f vc).loginSignupBgViewIsHidden = vc.loginSignupBgViewIsHidden) :
    (s.updateProfile j f).LiveTracked :=
  h.updateProfile j hhidden hf.of_otpMode

/-- A handler that shows or hides the form by the signed-in user. -/
theorem shown {s : App Image} (h : s.LiveTracked) (j : Nat)
    {f : ProfileViewController Image → ProfileViewController Image}
    (hf : ProfileViewController.KeepsForm f) {user : Option String}
    (hhidden : ∀ vc, (f vc).loginSignupBgViewIsHidden = user.isSome)
    (hj : user = none → s.content = .profile j → s.Awaiting j → s.HoldsLiveId) :
    (s.updateProfile j f).LiveTracked := by
  intro i hi hv hw
  have hwait : s.Awaiting i := hw.of_updateProfile hf.of_otpMode
  by_cases hij : i = j
  · subst hij
    rw [profiles_updateProfile_self, hhidden, Option.isSome_eq_false_iff,
      Option.isNone_iff_eq_none] at hv
    exact hj hv hi hwait
  · rw [profiles_updateProfile_ne _ _ _ hij] at hv
    exact h i hi hv hwait

/-- The stores may change as long as nothing is consumed. -/
theorem stored {s : App Image} (h : s.LiveTracked) {defaults : UserDefaults}
    {firebase : FirebaseAuth} (hconsumed : firebase.consumed = s.firebase.consumed) :
    App.LiveTracked { s with defaults, firebase } := by
  refine h.mono (fun _ hi => hi) (fun _ => id) (fun _ => id) ?_
  rintro ⟨id, hid, hlive⟩
  exact ⟨id, hid, hconsumed ▸ hlive⟩

theorem withSheet {s : App Image} (h : s.LiveTracked) {signUp : Option SignUpViewController} :
    App.LiveTracked { s with signUp } :=
  h.mono (fun _ hi => hi) (fun _ => id) (fun _ => id) id

theorem dequeued {s : App Image} (h : s.LiveTracked) {b : Block} {rest : List Block}
    (hqueue : s.mainQueue = b :: rest) : App.LiveTracked { s with mainQueue := rest } :=
  h.mono (fun _ hi => hi) (fun _ => id) (fun _ => Awaiting.of_dequeued hqueue) id

/-- The block that switches a form to OTP mode: it was waiting before. -/
theorem clearText {s : App Image} (h : s.LiveTracked) {j : Nat} {rest : List Block}
    (hqueue : s.mainQueue = .clearTextAndUpdateUIToOTP j :: rest) :
    (App.updateProfile { s with mainQueue := rest } j fun vc =>
      vc.clearTextAndUpdateUIToOTP).LiveTracked := by
  refine h.mono (fun _ hi => hi) ?_ (fun _ => Awaiting.of_clearText hqueue) id
  intro i hv
  rw [field_updateProfile _ j _
    ProfileViewController.KeepsProfile.clearTextAndUpdateUIToOTP.loginSignupBgViewIsHidden] at hv
  exact hv

/-- A sign-in that does not consume the ID a visible form waits with. -/
theorem signInSucceeded {s : App Image} (h : s.LiveTracked) {call : SignInCall}
    {signIns : Calls SignInCall} {user : Option String} {j : Nat}
    (hok : ∀ i, s.content = .profile i → (s.profiles i).loginSignupBgViewIsHidden = false →
      s.Awaiting i → s.auth.shared.verificationId ≠ some call.credential.verificationId) :
    (App.async
      { s with
        signIns
        firebase :=
          { currentUser := user
            consumed := call.credential.verificationId :: s.firebase.consumed } }
      (.presentSignupVC j)).LiveTracked := by
  intro i hi hv hw
  have hwait : s.Awaiting i := hw.of_async.resolve_right Block.noConfusion
  obtain ⟨id, hid, hlive⟩ := h i hi hv hwait
  refine ⟨id, hid, ?_⟩
  intro hmem
  rcases List.mem_cons.mp hmem with rfl | hmem
  · exact hok i hi hv hwait hid
  · exact hlive hmem

/-- A successful reply brings an ID that nobody has consumed. -/
theorem verifyPhoneNumberSucceeded {s : App Image} (hids : s.IdsAnswered)
    {serial : Nat} {n : String} {k : StartAuthCompletion} {b : Block}
    {auth : PhoneAuth VerificationID StartAuthCompletion}
    (hcall : s.auth.calls.find? serial = some (n, k))
    (hid : auth.shared.verificationId = some ⟨serial, n⟩) :
    (App.async { s with auth } b).LiveTracked := by
  intro i _ _ _
  refine ⟨⟨serial, n⟩, hid, ?_⟩
  intro hmem
  -- a consumed ID belongs to a call that is no longer outstanding
  obtain ⟨-, hanswered⟩ := hids.known ⟨serial, n⟩ (.consumed hmem)
  exact hanswered (serial, n, k) (Calls.mem_of_find? hcall) rfl

end LiveTracked

end LiveForm

theorem WellFormed.liveTracked_showViewController {s : App Image} (hs : s.WellFormed)
    (id : StoryboardID) : (s.showViewController id).LiveTracked := by
  intro i hi _ hw
  cases id with
  | homeNavID => cases hi
  | underConstructionNavID => cases hi
  | profileNavID =>
      obtain rfl := Screen.profile.inj hi
      exact absurd hw hs.not_awaiting_new

/-- Every step that `LiveKept` allows keeps visible forms live. -/
theorem Transition.liveTracked {s t : App Image} {e : Event Image} (h : Transition s e t)
    (hs : s.WellFormed) (hids : s.IdsAnswered) (hinv : s.LiveTracked) (hok : s.LiveKept e) :
    t.LiveTracked := by
  cases h with
  | edit hi =>
      exact hinv.recopies _ (.edit _ _)
        (ProfileViewController.KeepsProfile.edit _ _).loginSignupBgViewIsHidden
  | textFieldDidEndEditing hi =>
      exact hinv.recopies _ .textFieldDidEndEditing
        ProfileViewController.KeepsProfile.textFieldDidEndEditing.loginSignupBgViewIsHidden
  | @sendSMSCode i hi hmode hlen =>
      have hanimating := hinv.keepsForm i .startAnimating fun _ => rfl
      exact hanimating.mono (fun _ hi => hi) (fun _ => id) (fun _ => id) id
  | numberEmpty hi hmode hlen => exact hinv.keepsForm _ .mobileNumberError fun _ => rfl
  | otpEmpty hi hmode htext => exact hinv.keepsForm _ (.otpIsNotValid _) fun _ => rfl
  | noVerificationId hi hmode hid => exact hinv.keepsForm _ (.otpIsNotValid _) fun _ => rfl
  | verifyCode hi hmode htext hid =>
      exact hinv.mono (fun _ hi => hi) (fun _ => id) (fun _ => id) id
  | resendOtpBtnAction hi => exact hinv.mono (fun _ hi => hi) (fun _ => id) (fun _ => id) id
  | closeOtpScreen hi =>
      refine hinv.updateProfile _ (fun _ => rfl) ?_
      intro vc htitle
      simp [ProfileViewController.closeOtpScreen] at htitle
  | @signOutBtnAction i error hi =>
      have hstored : (s.signedOut error).LiveTracked := by
        cases error <;> exact hinv.stored rfl
      refine hstored.shown i (.signedOut _ _ _)
        (fun vc => ProfileViewController.loginSignupBgViewIsHidden_viewWillAppear _ _ _) ?_
      intro huser hcontent hw
      have hlive : s.HoldsLiveId := by
        cases error with
        | none => exact hok (.inl rfl) i hcontent hw
        | some e => exact hok (.inr huser) i hcontent hw
      cases error <;> exact hlive
  | imagePicked hi => exact (hinv.stored rfl).keepsForm _ (.profileImg _) fun _ => rfl
  | signUpRejected hsheet htap => exact (hinv.stored rfl).withSheet
  | @signUpSubmitted sheet firstName lastName email hsheet htap =>
      have hfields := SignUpViewController.submitted_filled_iff.mp htap
      have hdetails : (updateDetails
          { s with defaults := (sheet.filled firstName lastName email).stored s.defaults }
          sheet.delegate).LiveTracked := by
        cases hdelegate : sheet.delegate with
        | none => exact hinv.stored rfl
        | some i =>
            refine (hinv.stored rfl).shown i (.updateDetails _ _)
              (fun vc => ProfileViewController.loginSignupBgViewIsHidden_updateDetails _ _ _) ?_
            intro huser hcontent hw
            exact hok hfields huser sheet i hsheet hdelegate hcontent hw
      exact hdetails.withSheet
  | rowIgnored hrow => exact hinv
  | rowShown hrow => exact hs.liveTracked_showViewController _
  | @verifyPhoneNumberFailed serial error n k auth herror hcall hshared hissued hcalls =>
      have hanswered : App.LiveTracked { s with auth } := by
        refine hinv.mono (fun _ hi => hi) (fun _ => id) (fun _ => id) ?_
        rintro ⟨id, hid, hlive⟩
        exact ⟨id, by rw [hshared]; exact hid, hlive⟩
      cases k with
      | sendSMSCode i => exact hanswered.keepsForm _ .stopAnimating fun _ => rfl
      | resendOtpBtnAction i => exact hanswered
  | verifyPhoneNumberSucceeded hcall hid hissued hcalls =>
      exact .verifyPhoneNumberSucceeded hids hcall hid
  | @signInFailed serial error call signIns herror hcall hcalls =>
      have hanswered : App.LiveTracked { s with signIns } :=
        hinv.mono (fun _ hi => hi) (fun _ => id) (fun _ => id) id
      exact hanswered.keepsForm _ (.otpIsNotValid _) fun _ => rfl
  | signInSucceeded hcall hcalls => exact hinv.signInSucceeded (hok _ hcall)
  | clearText hqueue => exact hinv.clearText hqueue
  | presented hqueue hi hsheet => exact (hinv.dequeued hqueue).withSheet
  | notPresented hqueue h => exact hinv.dequeued hqueue
  | relaunch => exact (wellFormed_loaded ..).liveTracked_showViewController _

-- ============================================================================
-- Whole runs
-- ============================================================================

/-- **No visible OTP form without a live ID.**  In every run from the first
    launch whose steps `LiveKept` allows, in every state reached: when the login
    form is visible in OTP mode and no call is outstanding, the stored ID has
    not been consumed by a sign-in. -/
theorem run_liveOtpForm (es : List (Event Image)) (s : App Image)
    (hok : Along step LiveKept install es) (h : run step install es = some s) :
    s.LiveOtpForm := by
  have hstep : ∀ s e t, Transition s e t → s.WellFormed → (s.IdsAnswered ∧ s.LiveTracked) →
      s.LiveKept e → t.IdsAnswered ∧ (t : App Image).LiveTracked := by
    intro s e t htrans hs hinv he
    exact ⟨htrans.idsAnswered hinv.1, htrans.liveTracked hs hinv.1 hinv.2 he⟩
  have hinstall : (install : App Image).IdsAnswered ∧ (install : App Image).LiveTracked :=
    ⟨idsAnswered_launch 0 nofun, (wellFormed_loaded ..).liveTracked_showViewController _⟩
  obtain ⟨hs, -, hlive⟩ :=
    invariant (I := fun s => s.IdsAnswered ∧ s.LiveTracked) hinstall hstep hok h
  exact hlive.liveOtpForm hs

/-- A code is asked for and a wrong one entered. -/
def wrongCode : List (Event Data) :=
  [.edit ⟨0, 0⟩ "5550001", .submitBtnAction, .verifyPhoneNumberReply 0 none, .runMainQueue,
   .edit ⟨0, 0⟩ "0000", .submitBtnAction, .signInReply 0 (some ⟨17044⟩)]

/-- The theorem at this run: the form still has an ID to check the next code
    with. -/
theorem run_liveOtpForm_wrongCode :
    ∃ s, run step install wrongCode = some s ∧
      (s.profiles 0).loginSignupBgViewIsHidden = false ∧
      (s.profiles 0).submitBtnTitle = some "Verify OTP" ∧ s.LiveOtpForm := by
  refine ⟨_, rfl, rfl, rfl, run_liveOtpForm wrongCode _ ?_ rfl⟩
  iterate 7 refine .cons rfl trivial ?_
  trivial

/-- Sign-in, registration and sign-out on one screen. -/
def signedInAndOut : List (Event Data) :=
  [.edit ⟨0, 0⟩ "5550001", .submitBtnAction, .textFieldDidEndEditing 0,
   .verifyPhoneNumberReply 0 none, .runMainQueue, .edit ⟨0, 0⟩ "1234", .submitBtnAction,
   .signInReply 0 none, .runMainQueue,
   .signUpBtnAction (some "Ann") (some "Lee") (some "ann@example.com"), .signOutBtnAction none]

/-- The form that sign-out shows asks for a code, and the only ID there is has
    been consumed. -/
theorem signedInAndOut_not_liveOtpForm :
    ∃ s, run step install signedInAndOut = some s ∧ s.firebase.currentUser = none ∧
      (s.profiles 0).loginSignupBgViewIsHidden = false ∧
      (s.profiles 0).mobileNumberTxt.placeholder = some "Enter Otp" ∧
      s.auth.shared.verificationId = some ⟨0, "5550001"⟩ ∧
      s.firebase.consumed = [⟨0, "5550001"⟩] ∧ ¬ s.LiveOtpForm := by
  refine ⟨_, rfl, rfl, rfl, rfl, rfl, rfl, ?_⟩
  intro h
  obtain ⟨id, hid, hlive⟩ := h 0 rfl rfl (by decide) rfl rfl
  obtain rfl := Option.some.inj hid
  exact hlive List.mem_cons_self

end App

end Spark
