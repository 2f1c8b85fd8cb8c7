/-
  Spark.App.Registration

  Verify taps, accepted codes and registration sheets.

  Every tap on Verify makes a `signIn` call of its own, and nothing remembers
  that one is in flight or has been accepted.  So sheets are counted by calls,
  not by sign-ins: each successful reply queues one `presentSignupVC`, which the
  main queue executes once unless the app is relaunched before
  (`presentations_eq`), and "OTP is not valid" is reported by each failed reply
  and by each tap that finds no verification ID (`reports_iff`).
-/

import Spark.App.Step
import Spark.Lib.Tally

namespace Spark

open Spark.Lib
open ProfileViewController (KeepsNotices)

/-- The block calls `presentSignupVC`. -/
def Block.isPresentSignupVC : Block → Bool
  | .presentSignupVC _ => true
  | .clearTextAndUpdateUIToOTP _ => false

namespace App

variable {Image : Type}

-- ============================================================================
-- What is counted
-- ============================================================================

/-- The number of `presentSignupVC` blocks queued. -/
def queuedSheets (s : App Image) : Nat := s.mainQueue.countP Block.isPresentSignupVC

/-- The executions of `presentSignupVC` in a step. -/
def presentations (s : App Image) : Event Image → Nat
  | .runMainQueue => (s.mainQueue.take 1).countP Block.isPresentSignupVC
  | _ => 0

/-- The codes accepted in a step. -/
def acceptances (_ : App Image) : Event Image → Nat
  | .signInReply _ none => 1
  | _ => 0

/-- The `presentSignupVC` blocks that a step discards with the process. -/
def discarded (s : App Image) : Event Image → Nat
  | .relaunch => s.queuedSheets
  | _ => 0

/-- The step from `s` to `t` reports "OTP is not valid". -/
def ReportsOtpNotValid (s t : App Image) : Prop :=
  ∃ i, (t.profiles i).toasts = (s.profiles i).toasts ++ ["OTP is not valid"]

/-- A `signIn` call fails, or Verify is tapped with a code in the field while no
    verification ID is stored. -/
def OtpRejected (s : App Image) : Event Image → Prop
  | .signInReply _ error => error ≠ none
  | .submitBtnAction => ∃ i, s.content = .profile i ∧
      (s.profiles i).mobileNumberTxt.placeholder ≠ some "Enter Mobile Number" ∧
      (s.profiles i).mobileNumberTxt.text.getD "" ≠ "" ∧ s.auth.shared.verificationId = none
  | _ => False

variable [UIImage Image]

-- ============================================================================
-- Sheets
-- ============================================================================

theorem mainQueue_showViewController (s : App Image) (id : StoryboardID) :
    (s.showViewController id).mainQueue = s.mainQueue := by
  cases id <;> rfl

/-- A step queues a sheet for every code it accepts, and executes or discards
    the sheets that leave the queue. -/
theorem Transition.presentations_eq {s t : App Image} {e : Event Image} (h : Transition s e t) :
    s.presentations e + s.discarded e + t.queuedSheets = s.queuedSheets + s.acceptances e := by
  -- most steps leave the queue alone, or queue a block that presents nothing
  have hsame : ∀ {u : App Image}, u.mainQueue = s.mainQueue →
      0 + 0 + u.queuedSheets = s.queuedSheets + 0 := by
    intro u hu
    rw [queuedSheets, hu, Nat.zero_add]
    rfl
  -- the main queue runs its first block
  have hdequeued : ∀ {u : App Image} {b : Block}, s.mainQueue = b :: u.mainQueue →
      s.presentations (.runMainQueue : Event Image) + 0 + u.queuedSheets = s.queuedSheets + 0 := by
    intro u b hqueue
    rw [presentations, queuedSheets, queuedSheets, hqueue, Nat.add_zero, ← List.countP_append]
    rfl
  cases h with
  | signUpSubmitted hsheet htap => exact hsame (mainQueue_updateDetails _ _)
  | rowShown hrow => exact hsame (mainQueue_showViewController _ _)
  | @verifyPhoneNumberFailed serial error n k auth herror hcall hshared hissued hcalls =>
      obtain ⟨e, rfl⟩ := Option.ne_none_iff_exists'.mp herror
      cases k <;> exact hsame rfl
  | @verifyPhoneNumberSucceeded serial n k auth hcall hid hissued hcalls =>
      have hqueued : (App.async { s with auth }
          (.clearTextAndUpdateUIToOTP k.controller)).queuedSheets = s.queuedSheets := by
        rw [queuedSheets, mainQueue_async, List.countP_append]
        rfl
      change 0 + 0 + _ = _ + 0
      rw [hqueued, Nat.zero_add]
      rfl
  | @signInFailed serial error call signIns herror hcall hcalls =>
      obtain ⟨e, rfl⟩ := Option.ne_none_iff_exists'.mp herror
      exact hsame rfl
  | @signInSucceeded serial call signIns hcall hcalls =>
      change 0 + 0 + queuedSheets (async _ _) = _ + 1
      rw [queuedSheets, mainQueue_async, List.countP_append, Nat.zero_add]
      rfl
  | clearText hqueue => exact hdequeued hqueue
  | presented hqueue hi hsheet => exact hdequeued hqueue
  | notPresented hqueue hnot => exact hdequeued hqueue
  | relaunch =>
      have hempty : (launch s.defaults s.firebase s.auth.calls.issued s.signIns.issued :
          App Image).queuedSheets = 0 := by
        rw [queuedSheets, launch, mainQueue_showViewController]
        rfl
      change 0 + s.queuedSheets + _ = s.queuedSheets + 0
      rw [hempty, Nat.zero_add]
  | _ => exact hsame rfl

/-- Over a whole run the sheets executed, those a relaunch discarded and those
    still queued are those queued at the start and one for every code accepted. -/
theorem run_presentations (es : List (Event Image)) (s t : App Image)
    (h : run step s es = some t) :
    tally step presentations s es + tally step discarded s es + t.queuedSheets =
      s.queuedSheets + tally step acceptances s es := by
  rw [← tally_add]
  exact run_account (fun _ _ _ ht => (step_cases ht).presentations_eq) es s t h

-- ============================================================================
-- Errors
-- ============================================================================

section Reports

omit [UIImage Image]

variable {s t u : App Image}

theorem not_append_self {α : Type} (l : List α) (a : α) : l ≠ l ++ [a] := by
  intro h
  simpa using congrArg List.length h

/-- A handler of one controller reports the error when its toasts say so. -/
theorem reports_updateProfile (hprofiles : u.profiles = s.profiles) (i : Nat)
    (f : ProfileViewController Image → ProfileViewController Image) :
    s.ReportsOtpNotValid (u.updateProfile i f) ↔
      (f (s.profiles i)).toasts = (s.profiles i).toasts ++ ["OTP is not valid"] := by
  constructor
  · rintro ⟨j, hj⟩
    rw [profiles_updateProfile, hprofiles] at hj
    split at hj
    · next hji => exact hji ▸ hj
    · exact absurd hj (not_append_self _ _)
  · intro hi
    refine ⟨i, ?_⟩
    rw [profiles_updateProfile_self, hprofiles]
    exact hi

/-- A step that shows no toast, or only new controllers, reports nothing. -/
theorem not_reports (htoasts : ∀ i, (t.profiles i).toasts = (s.profiles i).toasts ∨
    (t.profiles i).toasts = []) : ¬ s.ReportsOtpNotValid t := by
  rintro ⟨i, hi⟩
  rcases htoasts i with hsame | hnew
  · exact not_append_self _ _ (hsame.symm.trans hi)
  · simp [hnew] at hi

/-- The same for a handler of one controller that shows no toast. -/
theorem not_reports_updateProfile (hprofiles : u.profiles = s.profiles) (i : Nat)
    {f : ProfileViewController Image → ProfileViewController Image}
    (hf : ∀ vc, (f vc).toasts = vc.toasts) : ¬ s.ReportsOtpNotValid (u.updateProfile i f) := by
  rw [reports_updateProfile hprofiles, hf]
  exact not_append_self _ _

/-- The toast of an empty code is another one. -/
theorem not_reports_otpEmpty (s : App Image) (i : Nat) :
    ¬ s.ReportsOtpNotValid (s.updateProfile i fun vc => vc.otpIsNotValid "Enter OTP sent") := by
  rw [reports_updateProfile rfl]
  simp [ProfileViewController.otpIsNotValid, ProfileViewController.showToast]

theorem otpRejected_submit_iff {i : Nat} (hi : s.content = .profile i) :
    s.OtpRejected .submitBtnAction ↔
      (s.profiles i).mobileNumberTxt.placeholder ≠ some "Enter Mobile Number" ∧
        (s.profiles i).mobileNumberTxt.text.getD "" ≠ "" ∧
        s.auth.shared.verificationId = none := by
  constructor
  · rintro ⟨j, hj, h⟩
    obtain rfl := Screen.profile.inj (hi.symm.trans hj)
    exact h
  · intro h
    exact ⟨i, hi, h⟩

/-- A tap on the submit button reports the error exactly when it verifies a code
    without an ID. -/
theorem submitBtnAction_reports_iff {i : Nat} (hi : s.content = .profile i) :
    s.ReportsOtpNotValid (s.submitBtnAction i) ↔ s.OtpRejected .submitBtnAction := by
  have hempty := s.not_reports_otpEmpty i
  rw [otpRejected_submit_iff hi]
  unfold submitBtnAction
  dsimp only
  split
  · next hmode =>
      refine iff_of_false ?_ fun h => h.1 hmode
      split
      · exact not_reports fun j => .inl (field_updateProfile s i (fun vc => vc.startAnimating)
          (g := ProfileViewController.toasts) (fun _ => rfl) j)
      · exact not_reports_updateProfile rfl i fun _ => rfl
  · next hmode =>
      split
      · next text htext =>
          split
          · next hisEmpty =>
              refine iff_of_false hempty fun h => h.2.1 ?_
              simpa [htext] using hisEmpty
          · next hnotEmpty =>
              unfold verifyCode AuthManager.verifyCode
              cases hid : s.auth.shared.verificationId with
              | none =>
                  have hreports : s.ReportsOtpNotValid
                      (s.updateProfile i fun vc => vc.otpIsNotValid "OTP is not valid") :=
                    (reports_updateProfile rfl i _).mpr rfl
                  refine iff_of_true hreports ⟨hmode, ?_, rfl⟩
                  simpa [htext] using hnotEmpty
              | some id =>
                  refine iff_of_false (not_reports fun j => .inl rfl) ?_
                  rintro ⟨-, -, hnone⟩
                  cases hnone
      · next htext => exact iff_of_false hempty fun h => h.2.1 (by rw [htext]; rfl)

/-- A submitted sheet refreshes the labels of its delegate and shows no toast. -/
theorem toasts_updateDetails (s : App Image) (delegate : Option Nat) (i : Nat) :
    ((s.updateDetails delegate).profiles i).toasts = (s.profiles i).toasts := by
  cases delegate with
  | none => rfl
  | some j =>
      exact field_updateProfile s j _ (KeepsNotices.updateDetails _ _).toasts i

end Reports

/-- Only a controller that is created has other toasts, none. -/
theorem toasts_showViewController (s : App Image) (id : StoryboardID) (i : Nat) :
    ((s.showViewController id).profiles i).toasts = (s.profiles i).toasts ∨
      ((s.showViewController id).profiles i).toasts = [] := by
  cases id with
  | homeNavID => exact .inl rfl
  | underConstructionNavID => exact .inl rfl
  | profileNavID =>
      by_cases hnew : i = s.profileCount
      · right
        rw [hnew, profiles_profileNavID, (KeepsNotices.viewWillAppear _ _).toasts]
        rfl
      · left
        exact congrArg _ (Function.update_of_ne hnew _ _)

/-- **Reports.**  A step reports "OTP is not valid" exactly when a `signIn` call
    fails or a tap finds no verification ID. -/
theorem reports_iff {s t : App Image} {e : Event Image} (h : s.step e = some t) :
    s.ReportsOtpNotValid t ↔ s.OtpRejected e := by
  have hsubmit : e = .submitBtnAction → (s.ReportsOtpNotValid t ↔ s.OtpRejected e) := by
    rintro rfl
    obtain ⟨i, hi, rfl⟩ := Option.map_eq_some_iff.mp h
    exact submitBtnAction_reports_iff (onScreen_eq_some hi)
  cases step_cases h with
  | edit hi =>
      exact iff_of_false (not_reports_updateProfile rfl _ (KeepsNotices.edit _ _).toasts) id
  | textFieldDidEndEditing hi =>
      exact iff_of_false
        (not_reports_updateProfile rfl _ KeepsNotices.textFieldDidEndEditing.toasts) id
  | sendSMSCode hi hmode hlen => exact hsubmit rfl
  | numberEmpty hi hmode hlen => exact hsubmit rfl
  | otpEmpty hi hmode htext => exact hsubmit rfl
  | noVerificationId hi hmode hid => exact hsubmit rfl
  | verifyCode hi hmode htext hid => exact hsubmit rfl
  | closeOtpScreen hi => exact iff_of_false (not_reports_updateProfile rfl _ fun _ => rfl) id
  | @signOutBtnAction i error hi =>
      refine iff_of_false ?_ id
      intro hreports
      have htoasts := (reports_updateProfile (s := s) (u := s.signedOut error) rfl i fun vc =>
        (vc.showToast "Signed out successfully").viewWillAppear (s.signedOut error).defaults
          (s.signedOut error).firebase.currentUser).mp hreports
      rw [(KeepsNotices.viewWillAppear _ _).toasts] at htoasts
      simp [ProfileViewController.showToast] at htoasts
  | imagePicked hi => exact iff_of_false (not_reports_updateProfile rfl _ fun _ => rfl) id
  | signUpSubmitted hsheet htap =>
      exact iff_of_false (not_reports fun j => .inl (toasts_updateDetails _ _ j)) id
  | rowShown hrow => exact iff_of_false (not_reports (toasts_showViewController s _)) id
  | @verifyPhoneNumberFailed serial error n k auth herror hcall hshared hissued hcalls =>
      cases k with
      | sendSMSCode i => exact iff_of_false (not_reports_updateProfile rfl i fun _ => rfl) id
      | resendOtpBtnAction i => exact iff_of_false (not_reports fun _ => .inl rfl) id
  | @signInFailed serial error call signIns herror hcall hcalls =>
      exact iff_of_true ((reports_updateProfile rfl _ _).mpr rfl) herror
  | signInSucceeded hcall hcalls =>
      exact iff_of_false (not_reports fun _ => .inl rfl) fun hnot => hnot rfl
  | clearText hqueue =>
      refine iff_of_false (not_reports_updateProfile rfl _ ?_) id
      intro vc
      rw [ProfileViewController.clearTextAndUpdateUIToOTP,
        ProfileViewController.hideActivityIndicator_eq]
      rfl
  | relaunch =>
      refine iff_of_false (not_reports fun j => .inr ?_) id
      have hloaded : ((loaded s.defaults s.firebase s.auth.calls.issued s.signIns.issued :
          App Image).profiles j).toasts = [] := rfl
      exact (toasts_showViewController _ _ j).elim (fun hsame => hsame.trans hloaded) id
  | _ => exact iff_of_false (not_reports fun _ => .inl rfl) id

/-- **Registrations are counted by calls.**  Over any stretch of a run, between
    two sign-outs or not: `presentSignupVC` is executed once for every `signIn`
    call that succeeded or whose block was queued already, unless the block is
    still queued or was discarded by a relaunch, so at most once when one code is
    accepted and none was before; and "OTP is not valid" is reported by exactly
    the steps in which a `signIn` call fails or a tap finds no verification ID. -/
theorem run_registrations (es : List (Event Image)) (s t : App Image)
    (h : run step s es = some t) :
    (tally step presentations s es + tally step discarded s es + t.queuedSheets =
      s.queuedSheets + tally step acceptances s es) ∧
    (s.queuedSheets = 0 → tally step acceptances s es ≤ 1 →
      tally step presentations s es ≤ 1) ∧
    (∀ fs e, fs ++ [e] <+: es → ∀ u v, run step s fs = some u → u.step e = some v →
      (u.ReportsOtpNotValid v ↔ u.OtpRejected e)) := by
  have haccount := run_presentations es s t h
  refine ⟨haccount, ?_, ?_⟩
  · intro hqueued hone
    omega
  · intro fs e _ u v _ hstep
    exact reports_iff hstep

/-- A registration, and its sign-out. -/
def firstRegistration : List (Event Data) :=
  [.edit ⟨0, 0⟩ "5550001", .textFieldDidEndEditing 0, .submitBtnAction,
   .verifyPhoneNumberReply 0 none, .runMainQueue, .edit ⟨0, 0⟩ "1234", .submitBtnAction,
   .signInReply 0 none, .runMainQueue,
   .signUpBtnAction (some "Ann") (some "Lee") (some "ann@example.com"), .signOutBtnAction none]

/-- A new code, verified with two taps, of which the first is accepted. -/
def verifiedTwice : List (Event Data) :=
  [.resendOtpBtnAction, .verifyPhoneNumberReply 1 none, .runMainQueue, .edit ⟨0, 0⟩ "5678",
   .submitBtnAction, .submitBtnAction, .signInReply 1 none]

/-- The sheet is presented and submitted, the second call is accepted, and so is
    its sheet. -/
def registeredTwice : List (Event Data) :=
  verifiedTwice ++
    [.runMainQueue, .signUpBtnAction (some "Bob") (some "Ray") (some "bob@example.com"),
     .signInReply 2 none, .runMainQueue,
     .signUpBtnAction (some "Bob") (some "Ray") (some "bob@example.com")]

/-- The theorem at this stretch, from sign-out to sign-out. -/
theorem run_registrations_registeredTwice :
    ∃ s t, run step install firstRegistration = some s ∧ run step s registeredTwice = some t ∧
      tally step presentations s registeredTwice + tally step discarded s registeredTwice +
          t.queuedSheets =
        s.queuedSheets + tally step acceptances s registeredTwice :=
  ⟨_, _, rfl, rfl, (run_registrations registeredTwice _ _ rfl).1⟩

/-- Between two sign-outs `presentSignupVC` is executed twice; and after a code
    for the current ID has been accepted, the second call may still report that
    the code is not valid. -/
theorem registeredTwice_presentations :
    ∃ s t u v, run step install firstRegistration = some s ∧
      run step s registeredTwice = some t ∧
      (∀ error, Event.signOutBtnAction error ∉ registeredTwice) ∧
      (t.step (.signOutBtnAction none)).isSome = true ∧
      tally step presentations s registeredTwice = 2 ∧
      run step s verifiedTwice = some u ∧
      (∃ id, u.auth.shared.verificationId = some id ∧ id ∈ u.firebase.consumed) ∧
      u.step (.signInReply 2 (some ⟨17044⟩)) = some v ∧ u.ReportsOtpNotValid v := by
  refine ⟨_, _, _, _, rfl, rfl, ?_, rfl, rfl, rfl, ⟨_, rfl, List.mem_cons_self⟩, rfl, 0, rfl⟩
  intro error
  simp [registeredTwice, verifiedTwice]

end App

end Spark
