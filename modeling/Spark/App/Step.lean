/-
  Spark.App.Step

  What a step of the app can do, once: `step_cases` lists the ways a step can
  go, each with what was true before it and the exact state after
  it.  Every invariant of the app is proved by cases on `Transition`; the
  frame lemmas say that the building blocks of the states after a step leave
  the other fields alone.

  `WellFormed` is what the other invariants take for granted: controllers
  named anywhere exist, and every login form is in one of its two modes.
-/

import Spark.App.Model

namespace Spark

open Spark.Lib

-- ============================================================================
-- Frame lemmas
-- ============================================================================

namespace App

section Frame

variable {Image : Type} (s : App Image) (i : Nat)
  (f : ProfileViewController Image → ProfileViewController Image) (b : Block)

@[simp] theorem defaults_updateProfile : (s.updateProfile i f).defaults = s.defaults := rfl

theorem profiles_updateProfile (j : Nat) :
    (s.updateProfile i f).profiles j = if j = i then f (s.profiles i) else s.profiles j := by
  simp [updateProfile, Function.update_apply]

@[simp] theorem profiles_updateProfile_self : (s.updateProfile i f).profiles i = f (s.profiles i) :=
  Function.update_self ..

theorem profiles_updateProfile_ne {j : Nat} (h : j ≠ i) :
    (s.updateProfile i f).profiles j = s.profiles j := Function.update_of_ne h ..

/-- A field that the update keeps is the same in every controller. -/
theorem field_updateProfile {α : Type} {g : ProfileViewController Image → α}
    (hg : ∀ vc, g (f vc) = g vc) (j : Nat) :
    g ((s.updateProfile i f).profiles j) = g (s.profiles j) := by
  rw [profiles_updateProfile]
  split
  · next hji => rw [hg, hji]
  · rfl

/-- A property of one controller that the update keeps holds of all of them
    after it. -/
theorem forall_profiles_updateProfile {P : ProfileViewController Image → Prop}
    (hf : ∀ vc, P vc → P (f vc)) (h : ∀ j, P (s.profiles j)) (j : Nat) :
    P ((s.updateProfile i f).profiles j) := by
  rw [profiles_updateProfile]
  split
  · exact hf _ (h i)
  · exact h j

@[simp] theorem firebase_async : (s.async b).firebase = s.firebase := rfl
@[simp] theorem auth_async : (s.async b).auth = s.auth := rfl
@[simp] theorem mainQueue_async : (s.async b).mainQueue = s.mainQueue ++ [b] := rfl

@[simp] theorem mem_mainQueue_async {c : Block} :
    c ∈ (s.async b).mainQueue ↔ c ∈ s.mainQueue ∨ c = b := by simp

variable (delegate : Option Nat)

@[simp] theorem defaults_updateDetails : (s.updateDetails delegate).defaults = s.defaults := by
  cases delegate <;> rfl
@[simp] theorem firebase_updateDetails : (s.updateDetails delegate).firebase = s.firebase := by
  cases delegate <;> rfl
@[simp] theorem auth_updateDetails : (s.updateDetails delegate).auth = s.auth := by
  cases delegate <;> rfl
@[simp] theorem mainQueue_updateDetails : (s.updateDetails delegate).mainQueue = s.mainQueue := by
  cases delegate <;> rfl
@[simp] theorem content_updateDetails : (s.updateDetails delegate).content = s.content := by
  cases delegate <;> rfl
@[simp] theorem sideMenu_updateDetails : (s.updateDetails delegate).sideMenu = s.sideMenu := by
  cases delegate <;> rfl

/-- The delegate refreshes its labels, not its picture. -/
theorem profileImg_updateDetails :
    ((s.updateDetails delegate).profiles i).profileImg = (s.profiles i).profileImg := by
  cases delegate with
  | none => rfl
  | some j =>
      have hkeeps : ∀ vc : ProfileViewController Image,
          (vc.updateDetails s.defaults s.firebase.currentUser).profileImg = vc.profileImg :=
        fun vc => vc.profileImg_updateDetails _ _
      exact field_updateProfile s j _ hkeeps i

/-- Sign-out removes four keys; "firstName" and "lastName" are not among them. -/
theorem defaults_signedOut (error : Option NSError) (k : String) :
    (s.signedOut error).defaults k =
      if k = "mobileNumber" ∨ k = "emmailId" ∨ k = "userName" ∨ k = "profileImage" then none
      else s.defaults k := by
  simp only [signedOut, UserDefaults.removeObject, Function.update_apply]
  grind

end Frame

-- ============================================================================
-- The ways a step can go
-- ============================================================================

variable {Image : Type} [UIImage Image]

/-- `s` goes to `t` on an event. -/
inductive Transition : App Image → Event Image → App Image → Prop
  | edit {s i range string} (hi : s.content = .profile i) :
      Transition s (.edit range string) (s.updateProfile i fun vc => vc.edit range string)
  | textFieldDidEndEditing {s i} (hi : i < s.profileCount) :
      Transition s (.textFieldDidEndEditing i)
        (s.updateProfile i fun vc => vc.textFieldDidEndEditing)
  | sendSMSCode {s i} (hi : s.content = .profile i)
      (hmode : (s.profiles i).mobileNumberTxt.placeholder = some "Enter Mobile Number")
      (hlen : ((s.profiles i).mobileNumberTxt.text.map String.length).getD 0 > 0) :
      Transition s .submitBtnAction (s.sendSMSCode i)
  | numberEmpty {s i} (hi : s.content = .profile i)
      (hmode : (s.profiles i).mobileNumberTxt.placeholder = some "Enter Mobile Number")
      (hlen : ((s.profiles i).mobileNumberTxt.text.map String.length).getD 0 = 0) :
      Transition s .submitBtnAction (s.updateProfile i fun vc => vc.mobileNumberError)
  | otpEmpty {s i} (hi : s.content = .profile i)
      (hmode : (s.profiles i).mobileNumberTxt.placeholder ≠ some "Enter Mobile Number")
      (htext : (s.profiles i).mobileNumberTxt.text.getD "" = "") :
      Transition s .submitBtnAction (s.updateProfile i fun vc => vc.otpIsNotValid "Enter OTP sent")
  | noVerificationId {s i} (hi : s.content = .profile i)
      (hmode : (s.profiles i).mobileNumberTxt.placeholder ≠ some "Enter Mobile Number")
      (hid : s.auth.shared.verificationId = none) :
      Transition s .submitBtnAction
        (s.updateProfile i fun vc => vc.otpIsNotValid "OTP is not valid")
  | verifyCode {s i code} {verificationId : VerificationID} (hi : s.content = .profile i)
      (hmode : (s.profiles i).mobileNumberTxt.placeholder ≠ some "Enter Mobile Number")
      (htext : (s.profiles i).mobileNumberTxt.text = some code)
      (hid : s.auth.shared.verificationId = some verificationId) :
      Transition s .submitBtnAction
        { s with signIns := s.signIns.issue ⟨⟨verificationId, code⟩, i⟩ }
  | resendOtpBtnAction {s i} (hi : s.content = .profile i) :
      Transition s .resendOtpBtnAction (s.resendOtpBtnAction i)
  | closeOtpScreen {s i} (hi : s.content = .profile i) :
      Transition s .closeOtpScreen (s.updateProfile i fun vc => vc.closeOtpScreen)
  | signOutBtnAction {s i error} (hi : s.content = .profile i) :
      Transition s (.signOutBtnAction error) (s.signOutBtnAction i error)
  | imagePicked {s i img} (hi : s.content = .profile i) :
      Transition s (.imagePicked img) (s.imagePicked i img)
  | signUpRejected {s sheet firstName lastName email} (hsheet : s.signUp = some sheet)
      (htap : (sheet.filled firstName lastName email).signUpBtnAction.submitted = false) :
      Transition s (.signUpBtnAction firstName lastName email)
        { s with
          defaults := (sheet.filled firstName lastName email).stored s.defaults
          signUp := some (sheet.filled firstName lastName email).signUpBtnAction.sheet }
  | signUpSubmitted {s sheet firstName lastName email} (hsheet : s.signUp = some sheet)
      (htap : (sheet.filled firstName lastName email).signUpBtnAction.submitted = true) :
      Transition s (.signUpBtnAction firstName lastName email)
        { updateDetails
            { s with defaults := (sheet.filled firstName lastName email).stored s.defaults }
            sheet.delegate with
          signUp := none }
  | rowIgnored {s row} (hrow : storyboardId? row = none) : Transition s (.selectedCell row) s
  | rowShown {s row storyboardId} (hrow : storyboardId? row = some storyboardId) :
      Transition s (.selectedCell row) (s.showViewController storyboardId)
  | verifyPhoneNumberFailed {s serial error n k auth} (herror : error ≠ none)
      (hcall : s.auth.calls.find? serial = some (n, k)) (hshared : auth.shared = s.auth.shared)
      (hissued : auth.calls.issued = s.auth.calls.issued)
      (hcalls : ∀ p, p ∈ auth.calls.outstanding ↔ p ∈ s.auth.calls.outstanding ∧ p.1 ≠ serial) :
      Transition s (.verifyPhoneNumberReply serial error)
        ({ s with auth }.startAuthCompletion k false)
  | verifyPhoneNumberSucceeded {s serial n k auth}
      (hcall : s.auth.calls.find? serial = some (n, k))
      (hid : auth.shared.verificationId = some ⟨serial, n⟩)
      (hissued : auth.calls.issued = s.auth.calls.issued)
      (hcalls : ∀ p, p ∈ auth.calls.outstanding ↔ p ∈ s.auth.calls.outstanding ∧ p.1 ≠ serial) :
      Transition s (.verifyPhoneNumberReply serial none)
        ({ s with auth }.async (.clearTextAndUpdateUIToOTP k.controller))
  | signInFailed {s serial error call signIns} (herror : error ≠ none)
      (hcall : s.signIns.find? serial = some call)
      (hcalls : ∀ p, p ∈ signIns.outstanding ↔ p ∈ s.signIns.outstanding ∧ p.1 ≠ serial) :
      Transition s (.signInReply serial error)
        ({ s with signIns }.updateProfile call.controller fun vc =>
          vc.otpIsNotValid "OTP is not valid")
  | signInSucceeded {s serial call signIns} (hcall : s.signIns.find? serial = some call)
      (hcalls : ∀ p, p ∈ signIns.outstanding ↔ p ∈ s.signIns.outstanding ∧ p.1 ≠ serial) :
      Transition s (.signInReply serial none)
        ({ s with
            signIns
            firebase :=
              { currentUser := some call.credential.verificationId.phoneNumber
                consumed := call.credential.verificationId :: s.firebase.consumed } }.async
          (.presentSignupVC call.controller))
  | clearText {s i rest} (hqueue : s.mainQueue = .clearTextAndUpdateUIToOTP i :: rest) :
      Transition s .runMainQueue
        ({ s with mainQueue := rest }.updateProfile i fun vc => vc.clearTextAndUpdateUIToOTP)
  | presented {s i rest} (hqueue : s.mainQueue = .presentSignupVC i :: rest)
      (hi : s.content = .profile i) (hsheet : s.signUp = none) :
      Transition s .runMainQueue
        { s with
          mainQueue := rest
          signUp := some (SignUpViewController.viewDidLoad i (s.profiles i).mobileNumberStr) }
  | notPresented {s i rest} (hqueue : s.mainQueue = .presentSignupVC i :: rest)
      (h : s.content ≠ .profile i ∨ s.signUp ≠ none) :
      Transition s .runMainQueue { s with mainQueue := rest }
  | relaunch {s} :
      Transition s .relaunch
        (launch s.defaults s.firebase s.auth.calls.issued s.signIns.issued)

omit [UIImage Image] in
theorem onScreen_eq_some {s : App Image} {i : Nat} (h : s.onScreen = some i) :
    s.content = .profile i := by
  unfold onScreen at h
  split at h
  · next hc => rw [hc, Option.some.inj h]
  · cases h

/-- The submit button: one of the two requests, or an error on the form. -/
theorem submitBtnAction_cases {s : App Image} {i : Nat} (hi : s.content = .profile i) :
    Transition s .submitBtnAction (s.submitBtnAction i) := by
  unfold submitBtnAction
  dsimp only
  split
  · next hmode =>
      split
      · next hlen => exact .sendSMSCode hi hmode hlen
      · next hlen => exact .numberEmpty hi hmode (Nat.eq_zero_of_not_pos hlen)
  · next hmode =>
      split
      · next text htext =>
          split
          · next hempty => exact .otpEmpty hi hmode (by simpa [htext] using hempty)
          · unfold App.verifyCode AuthManager.verifyCode
            cases hid : s.auth.shared.verificationId with
            | none => exact .noVerificationId hi hmode hid
            | some verificationId => exact .verifyCode hi hmode htext hid
      · next htext => exact .otpEmpty hi hmode (by simp [htext])

theorem verifyPhoneNumberReply_cases {s t : App Image} {serial : Nat} {error : Option NSError}
    (h : s.verifyPhoneNumberReply serial error = some t) :
    Transition s (.verifyPhoneNumberReply serial error) t := by
  obtain ⟨⟨n, k⟩, hcall, h⟩ := Option.bind_eq_some_iff.mp h
  obtain ⟨⟨k', ok, auth⟩, hreply, rfl⟩ := Option.map_eq_some_iff.mp h
  obtain ⟨n', hcall', rfl, hshared, hissued, hcalls⟩ := PhoneAuth.reply_some hreply
  obtain ⟨rfl, rfl⟩ := by simpa [hcall] using hcall'
  cases error with
  | none =>
      have hid : auth.shared.verificationId = some ⟨serial, n⟩ := by rw [hshared]; rfl
      have htrans := Transition.verifyPhoneNumberSucceeded hcall hid hissued hcalls
      cases k <;> exact htrans
  | some e =>
      exact .verifyPhoneNumberFailed (by simp) hcall hshared hissued hcalls

theorem signInReply_cases {s t : App Image} {serial : Nat} {error : Option NSError}
    (h : s.signInReply serial error = some t) :
    Transition s (.signInReply serial error) t := by
  obtain ⟨⟨call, signIns⟩, hanswer, rfl⟩ := Option.map_eq_some_iff.mp h
  obtain ⟨hcall, -, hcalls⟩ := Calls.answer_some hanswer
  cases error with
  | none => exact .signInSucceeded hcall hcalls
  | some e => exact .signInFailed (by simp) hcall hcalls

/-- **Step inversion.**  Every step is one of the transitions. -/
theorem step_cases {s t : App Image} {e : Event Image} (h : s.step e = some t) :
    Transition s e t := by
  cases e with
  | edit range string =>
      obtain ⟨i, hi, rfl⟩ := Option.map_eq_some_iff.mp h
      exact .edit (onScreen_eq_some hi)
  | textFieldDidEndEditing i =>
      simp only [step, Option.ite_none_right_eq_some] at h
      obtain ⟨hi, h⟩ := h
      obtain rfl := Option.some.inj h
      exact .textFieldDidEndEditing hi
  | submitBtnAction =>
      obtain ⟨i, hi, rfl⟩ := Option.map_eq_some_iff.mp h
      exact submitBtnAction_cases (onScreen_eq_some hi)
  | resendOtpBtnAction =>
      obtain ⟨i, hi, rfl⟩ := Option.map_eq_some_iff.mp h
      exact .resendOtpBtnAction (onScreen_eq_some hi)
  | closeOtpScreen =>
      obtain ⟨i, hi, rfl⟩ := Option.map_eq_some_iff.mp h
      exact .closeOtpScreen (onScreen_eq_some hi)
  | signOutBtnAction error =>
      obtain ⟨i, hi, rfl⟩ := Option.map_eq_some_iff.mp h
      exact .signOutBtnAction (onScreen_eq_some hi)
  | imagePicked img =>
      obtain ⟨i, hi, rfl⟩ := Option.map_eq_some_iff.mp h
      exact .imagePicked (onScreen_eq_some hi)
  | signUpBtnAction firstName lastName email =>
      obtain ⟨sheet, hsheet, rfl⟩ := Option.map_eq_some_iff.mp h
      unfold App.signUpBtnAction
      dsimp only
      split
      · next htap => exact .signUpSubmitted hsheet htap
      · next htap => exact .signUpRejected hsheet (by simpa using htap)
  | selectedCell row =>
      obtain rfl := Option.some.inj h
      unfold App.selectedCell
      cases hrow : storyboardId? row with
      | none => exact .rowIgnored hrow
      | some storyboardId => exact .rowShown hrow
  | verifyPhoneNumberReply serial error => exact verifyPhoneNumberReply_cases h
  | signInReply serial error => exact signInReply_cases h
  | runMainQueue =>
      simp only [step] at h
      split at h
      · cases h
      · next block rest hqueue =>
          obtain rfl := Option.some.inj h
          cases block with
          | clearTextAndUpdateUIToOTP i => exact .clearText hqueue
          | presentSignupVC i =>
              simp only [runBlock, presentSignupVC]
              split
              · next hp => exact .presented hqueue hp.1 hp.2
              · next hp => exact .notPresented hqueue (by tauto)
  | relaunch =>
      obtain rfl := Option.some.inj h
      exact .relaunch

-- ============================================================================
-- Well-formedness
-- ============================================================================

omit [UIImage Image] in
/-- Every controller named in the state exists, every login form is in one of
    its two modes, and a sheet's number field holds a text. -/
structure WellFormed (s : App Image) : Prop where
  onScreen : ∀ i, s.content = .profile i → i < s.profileCount
  calls : ∀ p ∈ s.auth.calls.outstanding, p.2.2.controller < s.profileCount
  signIns : ∀ p ∈ s.signIns.outstanding, p.2.controller < s.profileCount
  queue : ∀ b ∈ s.mainQueue, b.controller < s.profileCount
  delegate : ∀ sheet, s.signUp = some sheet →
    ∃ i, sheet.delegate = some i ∧ i < s.profileCount
  number : ∀ sheet, s.signUp = some sheet → ∃ m, sheet.mobileNumberTxtFld.text = some m
  form : ∀ i, (s.profiles i).FormMode

namespace WellFormed

omit [UIImage Image] in
/-- An update of one controller that keeps its form in one of the modes. -/
theorem updateProfile {s : App Image} (h : s.WellFormed) (i : Nat)
    {f : ProfileViewController Image → ProfileViewController Image}
    (hf : ∀ vc, vc.FormMode → (f vc).FormMode) : (s.updateProfile i f).WellFormed :=
  { h with form := forall_profiles_updateProfile s i f hf h.form }

omit [UIImage Image] in
theorem startAuth {s : App Image} (h : s.WellFormed) (n : String) {k : StartAuthCompletion}
    (hk : k.controller < s.profileCount) : (s.startAuth n k).WellFormed := by
  refine { h with calls := ?_ }
  intro p hp
  rcases Calls.mem_issue.mp hp with hp | rfl
  · exact h.calls p hp
  · exact hk

omit [UIImage Image] in
theorem async {s : App Image} (h : s.WellFormed) {b : Block}
    (hb : b.controller < s.profileCount) : (s.async b).WellFormed := by
  refine { h with queue := ?_ }
  intro c hc
  rcases (mem_mainQueue_async s b).mp hc with hc | rfl
  · exact h.queue c hc
  · exact hb

omit [UIImage Image] in
/-- Answering a call leaves only calls that were outstanding. -/
theorem answered {s : App Image} (h : s.WellFormed)
    {auth : PhoneAuth VerificationID StartAuthCompletion} {serial : Nat}
    (hcalls : ∀ p, p ∈ auth.calls.outstanding ↔ p ∈ s.auth.calls.outstanding ∧ p.1 ≠ serial) :
    App.WellFormed { s with auth } :=
  { h with calls := fun p hp => h.calls p ((hcalls p).mp hp).1 }

omit [UIImage Image] in
theorem signInAnswered {s : App Image} (h : s.WellFormed) {signIns : Calls SignInCall}
    {serial : Nat} {firebase : FirebaseAuth}
    (hcalls : ∀ p, p ∈ signIns.outstanding ↔ p ∈ s.signIns.outstanding ∧ p.1 ≠ serial) :
    App.WellFormed { s with signIns, firebase } :=
  { h with signIns := fun p hp => h.signIns p ((hcalls p).mp hp).1 }

omit [UIImage Image] in
theorem dequeued {s : App Image} (h : s.WellFormed) {b : Block} {rest : List Block}
    (hqueue : s.mainQueue = b :: rest) : App.WellFormed { s with mainQueue := rest } :=
  { h with queue := fun c hc => h.queue c (hqueue ▸ List.mem_cons_of_mem b hc) }

omit [UIImage Image] in
/-- Writes to the stores leave a well-formed state well formed. -/
theorem stores {s : App Image} (h : s.WellFormed) {defaults : UserDefaults}
    {firebase : FirebaseAuth} : App.WellFormed { s with defaults, firebase } :=
  ⟨h.onScreen, h.calls, h.signIns, h.queue, h.delegate, h.number, h.form⟩

omit [UIImage Image] in
/-- A sheet of a controller that exists is put on screen. -/
theorem sheet {s : App Image} (h : s.WellFormed) {sheet : SignUpViewController} {i : Nat}
    (hdelegate : sheet.delegate = some i) (hi : i < s.profileCount) {m : String}
    (hm : sheet.mobileNumberTxtFld.text = some m) :
    App.WellFormed { s with signUp := some sheet } := by
  refine ⟨h.onScreen, h.calls, h.signIns, h.queue, ?_, ?_, h.form⟩
  · intro sheet' hsheet'
    obtain rfl := Option.some.inj hsheet'
    exact ⟨i, hdelegate, hi⟩
  · intro sheet' hsheet'
    obtain rfl := Option.some.inj hsheet'
    exact ⟨m, hm⟩

omit [UIImage Image] in
theorem dismissed {s : App Image} (h : s.WellFormed) :
    App.WellFormed { s with signUp := none } := by
  refine ⟨h.onScreen, h.calls, h.signIns, h.queue, ?_, ?_, h.form⟩ <;>
  · intro sheet hsheet
    cases hsheet

omit [UIImage Image] in
theorem updateDetails {s : App Image} (h : s.WellFormed) (delegate : Option Nat) :
    (s.updateDetails delegate).WellFormed := by
  cases delegate with
  | none => exact h
  | some i => exact h.updateProfile i fun vc hvc => hvc.updateDetails

theorem showViewController {s : App Image} (h : s.WellFormed) (id : StoryboardID) :
    (s.showViewController id).WellFormed := by
  cases id with
  | homeNavID => exact { h with onScreen := fun i hi => by cases hi }
  | underConstructionNavID => exact { h with onScreen := fun i hi => by cases hi }
  | profileNavID =>
      refine ⟨?_, fun p hp => Nat.lt_succ_of_lt (h.calls p hp),
        fun p hp => Nat.lt_succ_of_lt (h.signIns p hp),
        fun b hb => Nat.lt_succ_of_lt (h.queue b hb), ?_, h.number, ?_⟩
      · intro i hi
        obtain rfl := Screen.profile.inj hi
        exact Nat.lt_succ_self _
      · intro sheet hsheet
        obtain ⟨i, hdelegate, hi⟩ := h.delegate sheet hsheet
        exact ⟨i, hdelegate, Nat.lt_succ_of_lt hi⟩
      · exact forall_profiles_updateProfile s s.profileCount
          (fun _ => ProfileViewController.viewDidLoad.viewWillAppear s.defaults
            s.firebase.currentUser)
          (fun _ _ => ProfileViewController.FormMode.viewDidLoad.viewWillAppear) h.form

end WellFormed

theorem wellFormed_loaded (defaults : UserDefaults) (firebase : FirebaseAuth)
    (issued signInsIssued : Nat) :
    (loaded defaults firebase issued signInsIssued : App Image).WellFormed := by
  constructor
  · intro i hi
    cases hi
  · intro p hp
    cases hp
  · intro p hp
    cases hp
  · intro b hb
    cases hb
  · intro sheet hsheet
    cases hsheet
  · intro sheet hsheet
    cases hsheet
  · intro i
    exact ProfileViewController.FormMode.viewDidLoad

theorem wellFormed_launch (defaults : UserDefaults) (firebase : FirebaseAuth)
    (issued signInsIssued : Nat) :
    (launch defaults firebase issued signInsIssued : App Image).WellFormed :=
  (wellFormed_loaded ..).showViewController _

theorem Transition.wellFormed {s t : App Image} {e : Event Image} (h : Transition s e t)
    (hs : s.WellFormed) : t.WellFormed := by
  cases h with
  | edit hi => exact hs.updateProfile _ fun vc hvc => hvc.edit _ _
  | textFieldDidEndEditing hi => exact hs.updateProfile _ fun vc hvc => hvc.updateMobileNumbString
  | @sendSMSCode i hi hmode hlen =>
      exact WellFormed.startAuth
        (hs.updateProfile i (f := fun vc => vc.startAnimating) fun vc hvc => hvc) _
        (k := .sendSMSCode i) (hs.onScreen i hi)
  | numberEmpty hi hmode hlen => exact hs.updateProfile _ fun vc hvc => hvc
  | otpEmpty hi hmode htext => exact hs.updateProfile _ fun vc hvc => hvc
  | noVerificationId hi hmode hid => exact hs.updateProfile _ fun vc hvc => hvc
  | verifyCode hi hmode htext hid =>
      refine { hs with signIns := ?_ }
      intro p hp
      rcases Calls.mem_issue.mp hp with hp | rfl
      · exact hs.signIns p hp
      · exact hs.onScreen _ hi
  | @resendOtpBtnAction i hi =>
      exact hs.startAuth _ (k := .resendOtpBtnAction i) (hs.onScreen i hi)
  | closeOtpScreen hi => exact hs.updateProfile _ fun vc hvc => .inl ⟨rfl, rfl⟩
  | signOutBtnAction hi =>
      exact hs.stores.updateProfile _ fun vc hvc => (hvc.showToast _).viewWillAppear
  | imagePicked hi => exact hs.stores.updateProfile _ fun vc hvc => hvc
  | signUpRejected hsheet htap =>
      obtain ⟨i, hdelegate, hi⟩ := hs.delegate _ hsheet
      obtain ⟨m, hm⟩ := hs.number _ hsheet
      refine hs.stores.sheet (i := i) ?_ hi (m := m) ?_
      · rw [SignUpViewController.delegate_signUpBtnAction]
        exact hdelegate
      · rw [SignUpViewController.mobileNumber_signUpBtnAction]
        exact hm
  | signUpSubmitted hsheet htap =>
      exact (hs.stores.updateDetails _).dismissed
  | rowIgnored hrow => exact hs
  | rowShown hrow => exact hs.showViewController _
  | @verifyPhoneNumberFailed serial error n k auth herror hcall hshared hissued hcalls =>
      cases k with
      | sendSMSCode i => exact (hs.answered hcalls).updateProfile i fun vc hvc => hvc
      | resendOtpBtnAction i => exact hs.answered hcalls
  | verifyPhoneNumberSucceeded hcall hid hissued hcalls =>
      exact (hs.answered hcalls).async (hs.calls _ (Calls.mem_of_find? hcall))
  | signInFailed herror hcall hcalls =>
      exact (hs.signInAnswered hcalls).updateProfile _ fun vc hvc => hvc
  | signInSucceeded hcall hcalls =>
      exact (hs.signInAnswered hcalls).async (hs.signIns _ (Calls.mem_of_find? hcall))
  | clearText hqueue => exact (hs.dequeued hqueue).updateProfile _ fun vc hvc => .inr ⟨rfl, rfl⟩
  | presented hqueue hi hsheet =>
      exact (hs.dequeued hqueue).sheet rfl (hs.onScreen _ hi) rfl
  | notPresented hqueue h => exact hs.dequeued hqueue
  | relaunch => exact wellFormed_launch ..

theorem step_wellFormed {s t : App Image} {e : Event Image} (hs : s.WellFormed)
    (h : s.step e = some t) : t.WellFormed :=
  (step_cases h).wellFormed hs

/-- Every state of every run from the first launch is well formed. -/
theorem run_wellFormed {es : List (Event Image)} {s : App Image}
    (h : run step install es = some s) : s.WellFormed :=
  run_invariant_all (fun _ _ _ hs ht => step_wellFormed hs ht) (wellFormed_launch ..) h

/-- **Invariant rule.**  What holds at the first launch, and is kept by every
    transition that meets `ok`, holds in every state of every run from the
    first launch whose steps meet `ok`. -/
theorem invariant {I : App Image → Prop} {ok : App Image → Event Image → Prop}
    (hinstall : I install)
    (hstep : ∀ s e t, Transition s e t → s.WellFormed → I s → ok s e → I t)
    {es : List (Event Image)} {s : App Image} (hok : Along step ok install es)
    (h : run step install es = some s) : s.WellFormed ∧ I s := by
  have hboth : ∀ s e t, s.WellFormed ∧ I s → ok s e → step s e = some t →
      t.WellFormed ∧ I t := by
    intro s e t hs he ht
    exact ⟨step_wellFormed hs.1 ht, hstep s e t (step_cases ht) hs.1 hs.2 he⟩
  exact run_invariant hboth es _ s ⟨wellFormed_launch .., hinstall⟩ hok h

-- ============================================================================
-- Waiting for a code
-- ============================================================================

section Awaiting

omit [UIImage Image]

/-- Controller `i` asks for a code, or will once the main queue has run. -/
def Awaiting (s : App Image) (i : Nat) : Prop :=
  (s.profiles i).submitBtnTitle = some "Verify OTP" ∨
    .clearTextAndUpdateUIToOTP i ∈ s.mainQueue

variable {s : App Image} {i j : Nat}

theorem Awaiting.of_updateProfile
    {f : ProfileViewController Image → ProfileViewController Image}
    (hf : ∀ vc, (f vc).submitBtnTitle = some "Verify OTP" →
      vc.submitBtnTitle = some "Verify OTP")
    (h : (s.updateProfile j f).Awaiting i) : s.Awaiting i := by
  rcases h with h | h
  · rw [profiles_updateProfile] at h
    split at h
    · next hij => exact .inl (hij ▸ hf _ h)
    · exact .inl h
  · exact .inr h

theorem Awaiting.of_async {b : Block} (h : (s.async b).Awaiting i) :
    s.Awaiting i ∨ b = .clearTextAndUpdateUIToOTP i := by
  rcases h with h | h
  · exact .inl (.inl h)
  · rcases (mem_mainQueue_async s b).mp h with h | h
    · exact .inl (.inr h)
    · exact .inr h.symm

theorem Awaiting.of_dequeued {b : Block} {rest : List Block} (hqueue : s.mainQueue = b :: rest)
    (h : Awaiting { s with mainQueue := rest } i) : s.Awaiting i :=
  h.imp_right fun h => hqueue ▸ List.mem_cons_of_mem b h

/-- The block that switches the form is consumed, and the form is switched. -/
theorem Awaiting.of_clearText {rest : List Block}
    (hqueue : s.mainQueue = .clearTextAndUpdateUIToOTP j :: rest)
    (h : ({ s with mainQueue := rest }.updateProfile j fun vc =>
      vc.clearTextAndUpdateUIToOTP).Awaiting i) : s.Awaiting i := by
  by_cases hij : i = j
  · exact .inr (by rw [hij, hqueue]; exact List.mem_cons_self)
  · rcases h with h | h
    · rw [profiles_updateProfile_ne _ _ _ hij] at h
      exact .inl h
    · exact .inr (hqueue ▸ List.mem_cons_of_mem _ h)

end Awaiting

/-- The controller a tap on Profile creates. -/
theorem profiles_profileNavID (s : App Image) :
    (s.showViewController .profileNavID).profiles s.profileCount =
      ProfileViewController.viewDidLoad.viewWillAppear s.defaults s.firebase.currentUser :=
  Function.update_self ..

/-- A controller that has just been created waits for nothing. -/
theorem WellFormed.not_awaiting_new {s : App Image} (hs : s.WellFormed) :
    ¬ (s.showViewController .profileNavID).Awaiting s.profileCount := by
  rintro (h | h)
  · rw [profiles_profileNavID,
      (ProfileViewController.KeepsForm.viewWillAppear _ _).submitBtnTitle] at h
    simp [ProfileViewController.viewDidLoad] at h
  · exact Nat.lt_irrefl _ (hs.queue _ h)

end App

end Spark
