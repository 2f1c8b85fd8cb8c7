/-
  Spark.App.OtpScreen

  What the OTP form shows, resends and checks is one number.

  The label "Enter OTP sent to ..." and `resendOtpBtnAction` use the copy
  `mobileNumberStr`; the code is checked for the number the ID was asked for,
  which `sendSMSCode` reads from the field.  Once the form is in OTP mode the
  copy no longer changes, so the question is whether it is right when the ID
  arrives: `OtpTracked` says so for the controller on screen, from the arrival
  of the ID on, and `OtpNumberKept` names the steps that break it.
-/

import Spark.App.Step

namespace Spark

open Spark.Lib

namespace App

section OtpScreen

variable {Image : Type}

-- ============================================================================
-- Coherence
-- ============================================================================

/-- The ID the code will be checked with is bound to the copied number, and
    that is a number. -/
def HoldsCode (s : App Image) (i : Nat) : Prop :=
  s.auth.shared.verificationId.map VerificationID.phoneNumber =
      some (s.profiles i).mobileNumberStr ∧
    (s.profiles i).mobileNumberStr ≠ ""

/-- The label names the copied number. -/
def LabelNamesCopy (s : App Image) (i : Nat) : Prop :=
  (s.profiles i).otpVarificationDescriptionLbl.text =
    some ("Enter OTP sent to " ++ (s.profiles i).mobileNumberStr)

/-- In OTP mode, with no call outstanding, the number in the label, the number
    that would be resent and the number the code is for are the same. -/
def OtpCoherent (s : App Image) : Prop :=
  ∀ i, s.content = .profile i → (s.profiles i).submitBtnTitle = some "Verify OTP" →
    s.auth.calls.outstanding = [] → s.LabelNamesCopy i ∧ s.HoldsCode i

structure OtpTracked (s : App Image) : Prop where
  label : ∀ i, s.content = .profile i → (s.profiles i).submitBtnTitle = some "Verify OTP" →
    s.LabelNamesCopy i
  code : ∀ i, s.content = .profile i → s.Awaiting i → s.HoldsCode i

theorem OtpTracked.otpCoherent {s : App Image} (h : s.OtpTracked) : s.OtpCoherent :=
  fun i hi htitle _ => ⟨h.label i hi htitle, h.code i hi (.inl htitle)⟩

/-- If the field is copied between the arrival of an ID and the switch to OTP
    mode, its text is the number the ID is bound to. -/
def CodeKept (s : App Image) (i : Nat) : Prop :=
  (s.profiles i).submitBtnTitle ≠ some "Verify OTP" → s.Awaiting i →
    s.auth.shared.verificationId.map VerificationID.phoneNumber =
      some ((s.profiles i).mobileNumberTxt.text.getD "")

/-- The step does not part the copied number from the one the ID is for: an ID
    for `n` arrives only at a form on screen that has copied `n`, and the field
    is not copied over it before the form has switched. -/
def OtpNumberKept (s : App Image) : Event Image → Prop
  | .edit _ _ => ∀ i, s.content = .profile i → s.CodeKept i
  | .textFieldDidEndEditing i => s.content = .profile i → s.CodeKept i
  | .verifyPhoneNumberReply serial none =>
      ∀ n k, s.auth.calls.find? serial = some (n, k) → ∀ i, s.content = .profile i →
        (i = k.controller ∨ s.Awaiting i) → (s.profiles i).mobileNumberStr = n ∧ n ≠ ""
  | _ => True

-- ============================================================================
-- Preservation
-- ============================================================================

namespace OtpTracked

/-- A step that leaves the stored ID and the controllers alone and puts no
    form into OTP mode. -/
theorem mono {s t : App Image} (h : s.OtpTracked)
    (hcontent : ∀ i, t.content = .profile i → s.content = .profile i)
    (hshared : t.auth.shared = s.auth.shared) (hprofiles : t.profiles = s.profiles)
    (hawait : ∀ i, t.Awaiting i → s.Awaiting i) : t.OtpTracked := by
  constructor
  · intro i hi htitle
    rw [LabelNamesCopy, hprofiles]
    exact h.label i (hcontent i hi) (hprofiles ▸ htitle)
  · intro i hi hwait
    rw [HoldsCode, hprofiles, hshared]
    exact h.code i (hcontent i hi) (hawait i hwait)

/-- The stores and the sheet do not matter. -/
theorem stored {s : App Image} (h : s.OtpTracked) {defaults : UserDefaults}
    {firebase : FirebaseAuth} : App.OtpTracked { s with defaults, firebase } :=
  h.mono (fun _ hi => hi) rfl rfl fun _ => id

theorem withSheet {s : App Image} (h : s.OtpTracked) {signUp : Option SignUpViewController} :
    App.OtpTracked { s with signUp } :=
  h.mono (fun _ hi => hi) rfl rfl fun _ => id

/-- Neither does sign-in. -/
theorem withSignIns {s : App Image} (h : s.OtpTracked) {signIns : Calls SignInCall}
    {firebase : FirebaseAuth} : App.OtpTracked { s with signIns, firebase } :=
  h.mono (fun _ hi => hi) rfl rfl fun _ => id

theorem startAuth {s : App Image} (h : s.OtpTracked) (n : String) (k : StartAuthCompletion) :
    (s.startAuth n k).OtpTracked :=
  h.mono (fun _ hi => hi) rfl rfl fun _ => id

/-- A failed reply: the manager holds the ID it held. -/
theorem answered {s : App Image} (h : s.OtpTracked)
    {auth : PhoneAuth VerificationID StartAuthCompletion} (hshared : auth.shared = s.auth.shared) :
    App.OtpTracked { s with auth } :=
  h.mono (fun _ hi => hi) hshared rfl fun _ => id

theorem dequeued {s : App Image} (h : s.OtpTracked) {b : Block} {rest : List Block}
    (hqueue : s.mainQueue = b :: rest) : App.OtpTracked { s with mainQueue := rest } :=
  h.mono (fun _ hi => hi) rfl rfl fun _ => Awaiting.of_dequeued hqueue

/-- A registration sheet is going to be presented. -/
theorem async {s : App Image} (h : s.OtpTracked) (j : Nat) :
    (s.async (.presentSignupVC j)).OtpTracked :=
  h.mono (fun _ hi => hi) rfl rfl fun _ hwait => hwait.of_async.resolve_right Block.noConfusion

/-- A handler that keeps the copy, and the label as long as the form stays in
    OTP mode. -/
theorem updateProfile {s : App Image} (h : s.OtpTracked) (j : Nat)
    {f : ProfileViewController Image → ProfileViewController Image}
    (hcopied : ∀ vc, (f vc).mobileNumberStr = vc.mobileNumberStr)
    (htitle : ∀ vc, (f vc).submitBtnTitle = some "Verify OTP" →
      vc.submitBtnTitle = some "Verify OTP" ∧
      (f vc).otpVarificationDescriptionLbl = vc.otpVarificationDescriptionLbl) :
    (s.updateProfile j f).OtpTracked := by
  have hsame : ∀ i, ((s.updateProfile j f).profiles i).mobileNumberStr =
      (s.profiles i).mobileNumberStr := field_updateProfile s j f hcopied
  constructor
  · intro i hi ht
    rw [LabelNamesCopy, hsame]
    rw [profiles_updateProfile] at ht ⊢
    split
    · next hij =>
        subst hij
        rw [if_pos rfl] at ht
        rw [(htitle _ ht).2]
        exact h.label i hi (htitle _ ht).1
    · next hij =>
        rw [if_neg hij] at ht
        exact h.label i hi ht
  · intro i hi hwait
    have hbefore : s.Awaiting i := hwait.of_updateProfile fun vc hvc => (htitle vc hvc).1
    rw [HoldsCode, hsame]
    exact h.code i hi hbefore

theorem keepsForm {s : App Image} (h : s.OtpTracked) (j : Nat)
    {f : ProfileViewController Image → ProfileViewController Image}
    (hf : ProfileViewController.KeepsForm f) : (s.updateProfile j f).OtpTracked :=
  h.updateProfile j hf.mobileNumberStr fun vc hvc =>
    ⟨hf.of_otpMode vc hvc, hf.otpVarificationDescriptionLbl vc⟩

/-- A handler that copies the field: only a form that is not in OTP mode is
    affected. -/
theorem recopies {s : App Image} (h : s.OtpTracked) (j : Nat)
    {f : ProfileViewController Image → ProfileViewController Image}
    (hf : ProfileViewController.Recopies f) (hj : s.content = .profile j → s.CodeKept j) :
    (s.updateProfile j f).OtpTracked := by
  have hwait : ∀ i, (s.updateProfile j f).Awaiting i → s.Awaiting i :=
    fun i => Awaiting.of_updateProfile hf.of_otpMode
  constructor
  · intro i hi ht
    rw [LabelNamesCopy]
    rw [profiles_updateProfile] at ht ⊢
    split
    · next hij =>
        subst hij
        rw [if_pos rfl, hf.submitBtnTitle] at ht
        rw [hf.otpVarificationDescriptionLbl, hf.mobileNumberStr, if_pos ht]
        exact h.label i hi ht
    · next hij =>
        rw [if_neg hij] at ht
        exact h.label i hi ht
  · intro i hi hw
    have hcode := h.code i hi (hwait i hw)
    by_cases hij : i = j
    · subst hij
      rw [HoldsCode, profiles_updateProfile_self, hf.mobileNumberStr]
      split
      · exact hcode
      · next htitle =>
          -- the text copied now and the copy are both the number of the ID
          have htext := hj hi htitle (hwait i hw)
          have hsame : (s.profiles i).mobileNumberTxt.text.getD "" =
              (s.profiles i).mobileNumberStr := Option.some.inj (htext.symm.trans hcode.1)
          rw [hsame]
          exact hcode
    · rw [HoldsCode, profiles_updateProfile_ne _ _ _ hij]
      exact hcode

/-- The reply for `n` arrives: whoever is, or will be, asking for a code on
    screen has copied `n`. -/
theorem verifyPhoneNumberSucceeded {s : App Image} (h : s.OtpTracked) {serial : Nat}
    {n : String} {k : StartAuthCompletion}
    {auth : PhoneAuth VerificationID StartAuthCompletion}
    (hid : auth.shared.verificationId = some ⟨serial, n⟩)
    (hok : ∀ i, s.content = .profile i → (i = k.controller ∨ s.Awaiting i) →
      (s.profiles i).mobileNumberStr = n ∧ n ≠ "") :
    (App.async { s with auth } (.clearTextAndUpdateUIToOTP k.controller)).OtpTracked := by
  refine ⟨h.label, ?_⟩
  intro i hi hwait
  have hcopied : (s.profiles i).mobileNumberStr = n ∧ n ≠ "" := by
    rcases hwait.of_async with hwait | hblock
    · exact hok i hi (.inr hwait)
    · exact hok i hi (.inl (Block.clearTextAndUpdateUIToOTP.inj hblock).symm)
  have hholds : auth.shared.verificationId.map VerificationID.phoneNumber =
      some (s.profiles i).mobileNumberStr ∧ (s.profiles i).mobileNumberStr ≠ "" := by
    rw [hid, hcopied.1]
    exact ⟨rfl, hcopied.2⟩
  exact hholds

/-- The form switches to OTP mode and names the copied number. -/
theorem clearText {s : App Image} (h : s.OtpTracked) {j : Nat} {rest : List Block}
    (hqueue : s.mainQueue = .clearTextAndUpdateUIToOTP j :: rest) :
    ({ s with mainQueue := rest }.updateProfile j fun vc =>
      vc.clearTextAndUpdateUIToOTP).OtpTracked := by
  constructor
  · intro i hi ht
    rw [LabelNamesCopy]
    by_cases hij : i = j
    · subst hij
      rw [profiles_updateProfile_self,
        ProfileViewController.mobileNumberStr_clearTextAndUpdateUIToOTP]
      exact ProfileViewController.otpLabel_clearTextAndUpdateUIToOTP _
    · rw [profiles_updateProfile_ne _ _ _ hij] at ht ⊢
      exact h.label i hi ht
  · intro i hi hwait
    have hcode : s.HoldsCode i := h.code i hi (hwait.of_clearText hqueue)
    rw [HoldsCode, field_updateProfile _ j _
      ProfileViewController.mobileNumberStr_clearTextAndUpdateUIToOTP]
    exact hcode

end OtpTracked

end OtpScreen

variable {Image : Type} [UIImage Image]

/-- A new controller asks for a number. -/
theorem WellFormed.otpTracked_showViewController {s : App Image} (hs : s.WellFormed)
    (id : StoryboardID) : (s.showViewController id).OtpTracked := by
  cases id with
  | homeNavID => exact ⟨nofun, nofun⟩
  | underConstructionNavID => exact ⟨nofun, nofun⟩
  | profileNavID =>
      constructor
      · intro i hi htitle
        obtain rfl := Screen.profile.inj hi
        exact absurd (.inl htitle) hs.not_awaiting_new
      · intro i hi hwait
        obtain rfl := Screen.profile.inj hi
        exact absurd hwait hs.not_awaiting_new

theorem otpTracked_launch (defaults : UserDefaults) (firebase : FirebaseAuth)
    (issued signInsIssued : Nat) :
    (launch defaults firebase issued signInsIssued : App Image).OtpTracked :=
  (wellFormed_loaded ..).otpTracked_showViewController _

/-- Every step that `OtpNumberKept` allows keeps the OTP form coherent. -/
theorem Transition.otpTracked {s t : App Image} {e : Event Image} (h : Transition s e t)
    (hs : s.WellFormed) (hinv : s.OtpTracked) (hok : s.OtpNumberKept e) : t.OtpTracked := by
  cases h with
  | edit hi => exact hinv.recopies _ (.edit _ _) (hok _)
  | textFieldDidEndEditing hi => exact hinv.recopies _ .textFieldDidEndEditing hok
  | @sendSMSCode i hi hmode hlen =>
      have hanimating := hinv.keepsForm i .startAnimating
      exact hanimating.startAuth _ _
  | numberEmpty hi hmode hlen => exact hinv.keepsForm _ .mobileNumberError
  | otpEmpty hi hmode htext => exact hinv.keepsForm _ (.otpIsNotValid _)
  | noVerificationId hi hmode hid => exact hinv.keepsForm _ (.otpIsNotValid _)
  | verifyCode hi hmode htext hid => exact hinv.withSignIns
  | resendOtpBtnAction hi => exact hinv.startAuth _ _
  | closeOtpScreen hi =>
      refine hinv.updateProfile _ (fun _ => rfl) ?_
      intro vc htitle
      simp [ProfileViewController.closeOtpScreen] at htitle
  | signOutBtnAction hi => exact hinv.stored.keepsForm _ (.signedOut _ _ _)
  | imagePicked hi => exact hinv.stored.keepsForm _ (.profileImg _)
  | signUpRejected hsheet htap => exact hinv.stored.withSheet
  | @signUpSubmitted sheet firstName lastName email hsheet htap =>
      have hdetails : (updateDetails
          { s with defaults := (sheet.filled firstName lastName email).stored s.defaults }
          sheet.delegate).OtpTracked := by
        cases sheet.delegate with
        | none => exact hinv.stored
        | some i => exact hinv.stored.keepsForm _ (.updateDetails _ _)
      exact hdetails.withSheet
  | rowIgnored hrow => exact hinv
  | rowShown hrow => exact hs.otpTracked_showViewController _
  | @verifyPhoneNumberFailed serial error n k auth herror hcall hshared hissued hcalls =>
      have hanswered := hinv.answered hshared
      cases k with
      | sendSMSCode i => exact hanswered.keepsForm _ .stopAnimating
      | resendOtpBtnAction i => exact hanswered
  | verifyPhoneNumberSucceeded hcall hid hissued hcalls =>
      exact hinv.verifyPhoneNumberSucceeded hid (hok _ _ hcall)
  | signInFailed herror hcall hcalls => exact hinv.withSignIns.keepsForm _ (.otpIsNotValid _)
  | signInSucceeded hcall hcalls => exact hinv.withSignIns.async _
  | clearText hqueue => exact hinv.clearText hqueue
  | presented hqueue hi hsheet => exact (hinv.dequeued hqueue).withSheet
  | notPresented hqueue h => exact hinv.dequeued hqueue
  | relaunch => exact otpTracked_launch ..

-- ============================================================================
-- Whole runs
-- ============================================================================

/-- **OTP screen coherence.**  In every run from the first launch whose steps
    `OtpNumberKept` allows, in every state reached: when the form on screen is
    in OTP mode and no `startAuth` call is outstanding, the label, the number
    that would be resent and the number the ID was issued for are the same, and
    it is not empty. -/
theorem run_otpCoherent (es : List (Event Image)) (s : App Image)
    (hok : Along step OtpNumberKept install es) (h : run step install es = some s) :
    s.OtpCoherent :=
  (invariant (otpTracked_launch ..) (fun _ _ _ => Transition.otpTracked) hok h).2.otpCoherent

omit [UIImage Image] in
/-- With nothing queued a form that is not in OTP mode may be copied over. -/
theorem CodeKept.of_idle {s : App Image} {i : Nat} (hqueue : s.mainQueue = []) :
    s.CodeKept i := by
  intro htitle hwait
  rcases hwait with h | h
  · exact absurd h htitle
  · simp [hqueue] at h

/-- The number is pasted and the keyboard closed before the code is asked for. -/
def codeAsked : List (Event Data) :=
  [.edit ⟨0, 0⟩ "5550001", .textFieldDidEndEditing 0, .submitBtnAction,
   .verifyPhoneNumberReply 0 none, .runMainQueue]

/-- The theorem at this run. -/
theorem run_otpCoherent_codeAsked :
    ∃ s, run step install codeAsked = some s ∧
      (s.profiles 0).submitBtnTitle = some "Verify OTP" ∧ s.OtpCoherent := by
  refine ⟨_, rfl, rfl, run_otpCoherent codeAsked _ ?_ rfl⟩
  refine .cons rfl (fun _ _ => .of_idle rfl) ?_
  refine .cons rfl (fun _ => .of_idle rfl) ?_
  refine .cons rfl trivial ?_
  refine .cons rfl ?_ ?_
  · intro n k hcall i hi _
    obtain ⟨rfl, rfl⟩ := Prod.mk.inj (Option.some.inj hcall)
    obtain rfl := Screen.profile.inj hi
    exact ⟨rfl, by decide⟩
  refine .cons rfl trivial ?_
  trivial

/-- The code is asked for with the keyboard still open. -/
def codeAskedWhileTyping : List (Event Data) :=
  [.edit ⟨0, 0⟩ "555000", .edit ⟨6, 0⟩ "1", .submitBtnAction, .verifyPhoneNumberReply 0 none,
   .runMainQueue]

/-- The code is for 5550001, the label names 555000 and a resend would go to
    555000. -/
theorem codeAskedWhileTyping_not_otpCoherent :
    ∃ s, run step install codeAskedWhileTyping = some s ∧
      s.auth.shared.verificationId.map VerificationID.phoneNumber = some "5550001" ∧
      (s.profiles 0).otpVarificationDescriptionLbl.text = some "Enter OTP sent to 555000" ∧
      (s.profiles 0).mobileNumberStr = "555000" ∧ ¬ s.OtpCoherent := by
  refine ⟨_, rfl, rfl, by decide, by decide, ?_⟩
  intro h
  obtain ⟨-, hcode, -⟩ := h 0 rfl rfl rfl
  exact absurd hcode (by decide)

end App

end Spark
