/-
  Spark.App.ActivityIndicator

  The activity indicator of the login form and the requests for a code.

  `sendSMSCode` starts the indicator; a failed reply to it stops the indicator at
  once, and a successful reply to it or to a resend stops it through the block
  that switches the form.  One indicator stands for all outstanding requests, and
  nothing keeps a second one from being made, so the first reply stops it for all
  of them.

  `IndicatorTracked` is what the steps that `IndicatorKept` allows preserve: a
  request of the form that is outstanding keeps the indicator animating, and an
  animating indicator is waiting for such a request or for a block.
-/

import Spark.App.Step

namespace Spark

open Spark.Lib
open ProfileViewController (KeepsNotices)

namespace App

variable {Image : Type}

-- ============================================================================
-- The indicator and the requests
-- ============================================================================

/-- A `startAuth` call that `sendSMSCode` of controller `i` has made is
    outstanding. -/
def SendingCode (s : App Image) (i : Nat) : Prop :=
  ∃ p ∈ s.auth.calls.outstanding, p.2.2 = .sendSMSCode i

/-- The indicator of controller `i` is animating. -/
def Animating (s : App Image) (i : Nat) : Prop :=
  (s.profiles i).activityView = some { isAnimating := true }

/-- Once the main queue is empty, the indicators that animate are those of the
    controllers with a request outstanding. -/
def IndicatorTruthful (s : App Image) : Prop :=
  s.mainQueue = [] → ∀ i, s.Animating i ↔ s.SendingCode i

/-- The step stops no indicator for another request: a reply to `sendSMSCode`
    that fails is the last one the controller waits for, and when the block that
    switches a form runs, the controller waits for none. -/
def IndicatorKept (s : App Image) : Event Image → Prop
  | .verifyPhoneNumberReply serial (some _) => ∀ n i,
      s.auth.calls.find? serial = some (n, .sendSMSCode i) →
        ∀ p ∈ s.auth.calls.outstanding, p.2.2 = .sendSMSCode i → p.1 = serial
  | .runMainQueue => ∀ i, s.mainQueue.head? = some (.clearTextAndUpdateUIToOTP i) →
      ¬ s.SendingCode i
  | _ => True

/-- Outstanding requests keep their indicators animating, and an indicator that
    animates waits for a request or for the block that stops it. -/
structure IndicatorTracked (s : App Image) : Prop where
  calls : s.auth.calls.Distinct
  loaded : ∀ i, (s.profiles i).activityView ≠ none
  started : ∀ i, s.SendingCode i → s.Animating i
  stopped : ∀ i, s.Animating i →
    s.SendingCode i ∨ .clearTextAndUpdateUIToOTP i ∈ s.mainQueue

theorem animating_updateProfile_ne (s : App Image) {i j : Nat} (hne : j ≠ i)
    (f : ProfileViewController Image → ProfileViewController Image) :
    (s.updateProfile i f).Animating j ↔ s.Animating j := by
  rw [Animating, profiles_updateProfile_ne _ _ _ hne]
  rfl

theorem animating_startAnimating {s : App Image} {i : Nat}
    (hloaded : (s.profiles i).activityView ≠ none) :
    (s.updateProfile i fun vc => vc.startAnimating).Animating i := by
  obtain ⟨view, hview⟩ := Option.ne_none_iff_exists'.mp hloaded
  rw [Animating, profiles_updateProfile_self, ProfileViewController.startAnimating, hview]
  rfl

theorem not_animating_stopAnimating (s : App Image) (i : Nat) :
    ¬ (s.updateProfile i fun vc => vc.stopAnimating).Animating i := by
  rw [Animating, profiles_updateProfile_self, ProfileViewController.stopAnimating]
  cases (s.profiles i).activityView <;> simp

theorem not_animating_clearText (s : App Image) (i : Nat) :
    ¬ (s.updateProfile i fun vc => vc.clearTextAndUpdateUIToOTP).Animating i := by
  rw [Animating, profiles_updateProfile_self, ProfileViewController.clearTextAndUpdateUIToOTP,
    ProfileViewController.hideActivityIndicator_eq, ProfileViewController.stopAnimating]
  cases (s.profiles i).activityView <;> simp

/-- A handler that never takes the indicator away. -/
theorem loaded_updateProfile {s : App Image} (h : ∀ i, (s.profiles i).activityView ≠ none)
    (i : Nat) {f : ProfileViewController Image → ProfileViewController Image}
    (hf : ∀ vc, vc.activityView ≠ none → (f vc).activityView ≠ none) (j : Nat) :
    ((s.updateProfile i f).profiles j).activityView ≠ none :=
  forall_profiles_updateProfile s i f hf h j

theorem sendingCode_startAuth (s : App Image) (n : String) (k : StartAuthCompletion) (i : Nat) :
    (s.startAuth n k).SendingCode i ↔ s.SendingCode i ∨ k = .sendSMSCode i := by
  constructor
  · rintro ⟨p, hp, hk⟩
    rcases Calls.mem_issue.mp hp with hp | rfl
    · exact .inl ⟨p, hp, hk⟩
    · exact .inr hk
  · rintro (⟨p, hp, hk⟩ | hk)
    · exact ⟨p, Calls.mem_issue.mpr (.inl hp), hk⟩
    · exact ⟨_, Calls.mem_issue.mpr (.inr rfl), hk⟩

/-- Answering a call of another kind leaves the requests of a controller. -/
theorem sendingCode_answered {s : App Image} (hdistinct : s.auth.calls.Distinct) {serial : Nat}
    {n : String} {k : StartAuthCompletion}
    {auth : PhoneAuth VerificationID StartAuthCompletion}
    (hcall : s.auth.calls.find? serial = some (n, k))
    (hcalls : ∀ p, p ∈ auth.calls.outstanding ↔ p ∈ s.auth.calls.outstanding ∧ p.1 ≠ serial)
    {i : Nat} (hk : k ≠ .sendSMSCode i) :
    App.SendingCode { s with auth } i ↔ s.SendingCode i := by
  constructor
  · rintro ⟨p, hp, hi⟩
    exact ⟨p, ((hcalls p).mp hp).1, hi⟩
  · rintro ⟨p, hp, hi⟩
    refine ⟨p, (hcalls p).mpr ⟨hp, ?_⟩, hi⟩
    intro hserial
    rw [hdistinct.eq_of_find? hcall hp hserial] at hi
    exact hk hi

theorem IndicatorTracked.truthful {s : App Image} (h : s.IndicatorTracked) :
    s.IndicatorTruthful := by
  intro hqueue i
  refine ⟨fun hanimating => ?_, h.started i⟩
  rcases h.stopped i hanimating with hsending | hblock
  · exact hsending
  · rw [hqueue] at hblock
    cases hblock

-- ============================================================================
-- Steps that leave the indicators alone
-- ============================================================================

namespace IndicatorTracked

variable {s t : App Image}

/-- The requests and the indicators stay, and no block is lost that stops one. -/
theorem mono (h : s.IndicatorTracked) (hcalls : t.auth.calls.Distinct)
    (hsending : ∀ i, t.SendingCode i ↔ s.SendingCode i)
    (hqueue : ∀ i, .clearTextAndUpdateUIToOTP i ∈ s.mainQueue →
      .clearTextAndUpdateUIToOTP i ∈ t.mainQueue)
    (hview : ∀ i, (t.profiles i).activityView = (s.profiles i).activityView) :
    t.IndicatorTracked := by
  have hanimating : ∀ i, t.Animating i ↔ s.Animating i := by
    intro i
    rw [Animating, hview]
    rfl
  refine ⟨hcalls, ?_, ?_, ?_⟩
  · intro i
    rw [hview]
    exact h.loaded i
  · intro i hi
    exact (hanimating i).mpr (h.started i ((hsending i).mp hi))
  · intro i hi
    exact (h.stopped i ((hanimating i).mp hi)).imp (hsending i).mpr (hqueue i)

/-- Only the stores, the sign-ins, the screen or the sheet change. -/
theorem same (h : s.IndicatorTracked) (hcalls : t.auth = s.auth)
    (hqueue : t.mainQueue = s.mainQueue) (hprofiles : t.profiles = s.profiles) :
    t.IndicatorTracked := by
  refine h.mono (hcalls ▸ h.calls) ?_ (fun i hi => hqueue ▸ hi) fun i => by rw [hprofiles]
  intro i
  rw [SendingCode, hcalls]
  rfl

/-- A handler of one controller that does not touch its indicator. -/
theorem updateProfile (h : s.IndicatorTracked) (j : Nat)
    {f : ProfileViewController Image → ProfileViewController Image}
    (hf : ∀ vc, (f vc).activityView = vc.activityView) :
    (s.updateProfile j f).IndicatorTracked :=
  h.mono h.calls (fun _ => Iff.rfl) (fun _ hi => hi) (field_updateProfile s j f hf)

theorem updateDetails (h : s.IndicatorTracked) (delegate : Option Nat) :
    (s.updateDetails delegate).IndicatorTracked := by
  cases delegate with
  | none => exact h
  | some j =>
      have hkeeps : KeepsNotices (fun vc : ProfileViewController Image =>
          vc.updateDetails s.defaults s.firebase.currentUser) := .updateDetails _ _
      exact h.updateProfile j hkeeps.activityView

/-- A block that switches no form leaves the queue. -/
theorem presentDequeued (h : s.IndicatorTracked) {i : Nat} {rest : List Block}
    (hqueue : s.mainQueue = .presentSignupVC i :: rest) :
    App.IndicatorTracked { s with mainQueue := rest } := by
  refine h.mono h.calls (fun _ => Iff.rfl) ?_ fun _ => rfl
  intro j hj
  rw [hqueue] at hj
  simpa using hj

-- ============================================================================
-- Steps that move one of them
-- ============================================================================

/-- Only controller `i` moves, and afterwards its indicator animates exactly
    while a request of it is outstanding. -/
theorem of_controller (h : s.IndicatorTracked) (i : Nat) (hcalls : t.auth.calls.Distinct)
    (hloaded : ∀ j, (t.profiles j).activityView ≠ none)
    (hsending : ∀ j, j ≠ i → (t.SendingCode j ↔ s.SendingCode j))
    (hanimating : ∀ j, j ≠ i → (t.Animating j ↔ s.Animating j))
    (hqueue : ∀ j, j ≠ i → .clearTextAndUpdateUIToOTP j ∈ s.mainQueue →
      .clearTextAndUpdateUIToOTP j ∈ t.mainQueue)
    (hself : t.Animating i ↔ t.SendingCode i) : t.IndicatorTracked := by
  refine ⟨hcalls, hloaded, ?_, ?_⟩
  · intro j hj
    by_cases hne : j = i
    · subst hne
      exact hself.mpr hj
    · exact (hanimating j hne).mpr (h.started j ((hsending j hne).mp hj))
  · intro j hj
    by_cases hne : j = i
    · subst hne
      exact .inl (hself.mp hj)
    · have hbefore : s.SendingCode j ∨ .clearTextAndUpdateUIToOTP j ∈ s.mainQueue :=
        h.stopped j ((hanimating j hne).mp hj)
      exact hbefore.imp (hsending j hne).mpr (hqueue j hne)

/-- `sendSMSCode` starts the indicator and makes a request. -/
theorem sendSMSCode (h : s.IndicatorTracked) (i : Nat) : (s.sendSMSCode i).IndicatorTracked := by
  have hsending : ∀ j, (s.sendSMSCode i).SendingCode j ↔ s.SendingCode j ∨
      StartAuthCompletion.sendSMSCode i = .sendSMSCode j :=
    sendingCode_startAuth (s.updateProfile i fun vc => vc.startAnimating) _ _
  have hself : (s.sendSMSCode i).Animating i := animating_startAnimating (h.loaded i)
  refine h.of_controller i (h.calls.issue _) (loaded_updateProfile h.loaded i ?_) ?_
    (fun j hne => animating_updateProfile_ne s hne _) (fun _ _ hj => hj) ?_
  · intro vc hvc
    simpa [ProfileViewController.startAnimating] using hvc
  · intro j hne
    refine (hsending j).trans (or_iff_left ?_)
    intro heq
    exact hne (StartAuthCompletion.sendSMSCode.inj heq).symm
  · exact iff_of_true hself ((hsending i).mpr (.inr rfl))

/-- A resend makes a request that no indicator stands for. -/
theorem resendOtpBtnAction (h : s.IndicatorTracked) (i : Nat) :
    (s.resendOtpBtnAction i).IndicatorTracked := by
  refine h.mono (h.calls.issue _) ?_ (fun _ hj => hj) fun _ => rfl
  intro j
  refine (sendingCode_startAuth s _ _ j).trans (or_iff_left ?_)
  intro heq
  cases heq

section Replies

variable {serial : Nat} {n : String} {k : StartAuthCompletion}
  {auth : PhoneAuth VerificationID StartAuthCompletion}

/-- A failed resend stops nothing. -/
theorem resendFailed (h : s.IndicatorTracked) {i : Nat}
    (hcall : s.auth.calls.find? serial = some (n, .resendOtpBtnAction i))
    (hissued : auth.calls.issued = s.auth.calls.issued)
    (hcalls : ∀ p, p ∈ auth.calls.outstanding ↔ p ∈ s.auth.calls.outstanding ∧ p.1 ≠ serial) :
    App.IndicatorTracked { s with auth } :=
  h.mono (h.calls.answered hissued fun p hp => ((hcalls p).mp hp).1)
    (fun _ => sendingCode_answered h.calls hcall hcalls nofun) (fun _ hj => hj) fun _ => rfl

/-- The failed reply to the last request of a controller stops its indicator. -/
theorem sendSMSCodeFailed (h : s.IndicatorTracked) {i : Nat}
    (hcall : s.auth.calls.find? serial = some (n, .sendSMSCode i))
    (hissued : auth.calls.issued = s.auth.calls.issued)
    (hcalls : ∀ p, p ∈ auth.calls.outstanding ↔ p ∈ s.auth.calls.outstanding ∧ p.1 ≠ serial)
    (hlast : ∀ p ∈ s.auth.calls.outstanding, p.2.2 = .sendSMSCode i → p.1 = serial) :
    (App.updateProfile { s with auth } i fun vc => vc.stopAnimating).IndicatorTracked := by
  have hstopped := not_animating_stopAnimating { s with auth } i
  have hnone : ¬ App.SendingCode { s with auth } i := by
    rintro ⟨p, hp, hi⟩
    exact ((hcalls p).mp hp).2 (hlast p ((hcalls p).mp hp).1 hi)
  refine h.of_controller i (h.calls.answered hissued fun p hp => ((hcalls p).mp hp).1)
    (loaded_updateProfile (s := { s with auth }) h.loaded i ?_) ?_
    (fun j hne => animating_updateProfile_ne _ hne _) (fun _ _ hj => hj)
    (iff_of_false hstopped hnone)
  · intro vc hvc
    simpa [ProfileViewController.stopAnimating] using hvc
  · intro j hne
    refine sendingCode_answered h.calls hcall hcalls ?_
    intro heq
    exact hne (StartAuthCompletion.sendSMSCode.inj heq).symm

/-- A successful reply queues the block that stops the indicator. -/
theorem succeeded (h : s.IndicatorTracked)
    (hcall : s.auth.calls.find? serial = some (n, k))
    (hissued : auth.calls.issued = s.auth.calls.issued)
    (hcalls : ∀ p, p ∈ auth.calls.outstanding ↔ p ∈ s.auth.calls.outstanding ∧ p.1 ≠ serial) :
    (App.async { s with auth } (.clearTextAndUpdateUIToOTP k.controller)).IndicatorTracked := by
  refine ⟨h.calls.answered hissued fun p hp => ((hcalls p).mp hp).1, h.loaded, ?_, ?_⟩
  · rintro j ⟨p, hp, hj⟩
    exact h.started j ⟨p, ((hcalls p).mp hp).1, hj⟩
  · intro j hj
    rw [mem_mainQueue_async]
    by_cases hk : k = .sendSMSCode j
    · exact .inr (.inr (by rw [hk]; rfl))
    · rcases h.stopped j hj with hsending | hblock
      · exact .inl ((sendingCode_answered h.calls hcall hcalls hk).mpr hsending)
      · exact .inr (.inl hblock)

end Replies

/-- The block that switches a form stops an indicator that waits for nothing. -/
theorem clearText (h : s.IndicatorTracked) {i : Nat} {rest : List Block}
    (hqueue : s.mainQueue = .clearTextAndUpdateUIToOTP i :: rest) (hnone : ¬ s.SendingCode i) :
    (App.updateProfile { s with mainQueue := rest } i fun vc =>
      vc.clearTextAndUpdateUIToOTP).IndicatorTracked := by
  have hstopped := not_animating_clearText { s with mainQueue := rest } i
  refine h.of_controller i h.calls
    (loaded_updateProfile (s := { s with mainQueue := rest }) h.loaded i ?_)
    (fun _ _ => Iff.rfl) (fun j hne => animating_updateProfile_ne _ hne _) ?_
    (iff_of_false hstopped hnone)
  · intro vc hvc
    rw [ProfileViewController.clearTextAndUpdateUIToOTP,
      ProfileViewController.hideActivityIndicator_eq]
    simpa [ProfileViewController.stopAnimating] using hvc
  · intro j hne hj
    have hrest : .clearTextAndUpdateUIToOTP j ∈ rest := by
      rw [hqueue] at hj
      simpa [hne] using hj
    exact hrest

end IndicatorTracked

variable [UIImage Image]

/-- A controller that is created waits for nothing, and its indicator is still. -/
theorem IndicatorTracked.showViewController {s : App Image} (h : s.IndicatorTracked)
    (hs : s.WellFormed) (id : StoryboardID) : (s.showViewController id).IndicatorTracked := by
  cases id with
  | homeNavID => exact h.same rfl rfl rfl
  | underConstructionNavID => exact h.same rfl rfl rfl
  | profileNavID =>
      have hnew : ((s.showViewController .profileNavID).profiles s.profileCount).activityView =
          some { isAnimating := false } := by
        rw [profiles_profileNavID, (KeepsNotices.viewWillAppear _ _).activityView]
        rfl
      have hold : ∀ j, j ≠ s.profileCount →
          (s.showViewController .profileNavID).profiles j = s.profiles j :=
        fun j hne => Function.update_of_ne hne _ _
      have hnone : ¬ s.SendingCode s.profileCount := by
        rintro ⟨p, hp, hk⟩
        have hlt := hs.calls p hp
        rw [hk] at hlt
        exact Nat.lt_irrefl _ hlt
      have hstill : ¬ (s.showViewController .profileNavID).Animating s.profileCount := by
        rw [Animating, hnew]
        exact nofun
      refine h.of_controller s.profileCount h.calls ?_ (fun _ _ => Iff.rfl) ?_
        (fun _ _ hj => hj) (iff_of_false hstill hnone)
      · intro j
        by_cases hne : j = s.profileCount
        · rw [hne, hnew]
          exact nofun
        · rw [hold j hne]
          exact h.loaded j
      · intro j hne
        rw [Animating, hold j hne]
        rfl

theorem indicatorTracked_loaded (defaults : UserDefaults) (firebase : FirebaseAuth)
    (issued signInsIssued : Nat) :
    (loaded defaults firebase issued signInsIssued : App Image).IndicatorTracked := by
  refine ⟨.none_outstanding issued, fun _ => nofun, ?_, ?_⟩
  · rintro i ⟨p, hp, -⟩
    cases hp
  · intro i hi
    cases hi

-- ============================================================================
-- Whole runs
-- ============================================================================

/-- Every step that `IndicatorKept` allows preserves the invariant. -/
theorem Transition.indicatorTracked {s t : App Image} {e : Event Image} (htrans : Transition s e t)
    (hs : s.WellFormed) (h : s.IndicatorTracked) (hok : s.IndicatorKept e) :
    t.IndicatorTracked := by
  cases htrans with
  | edit hi => exact h.updateProfile _ (KeepsNotices.edit _ _).activityView
  | textFieldDidEndEditing hi =>
      exact h.updateProfile _ KeepsNotices.textFieldDidEndEditing.activityView
  | sendSMSCode hi hmode hlen => exact h.sendSMSCode _
  | numberEmpty hi hmode hlen => exact h.updateProfile _ fun _ => rfl
  | otpEmpty hi hmode htext => exact h.updateProfile _ fun _ => rfl
  | noVerificationId hi hmode hid => exact h.updateProfile _ fun _ => rfl
  | verifyCode hi hmode htext hid => exact h.same rfl rfl rfl
  | resendOtpBtnAction hi => exact h.resendOtpBtnAction _
  | closeOtpScreen hi => exact h.updateProfile _ fun _ => rfl
  | @signOutBtnAction i error hi =>
      have hstores : (s.signedOut error).IndicatorTracked := h.same rfl rfl rfl
      have hkeeps : ∀ vc : ProfileViewController Image,
          ((vc.showToast "Signed out successfully").viewWillAppear (s.signedOut error).defaults
            (s.signedOut error).firebase.currentUser).activityView = vc.activityView :=
        fun vc => (KeepsNotices.viewWillAppear _ _).activityView (vc.showToast _)
      exact hstores.updateProfile i hkeeps
  | @imagePicked i img hi =>
      have hstored : App.IndicatorTracked
          { s with defaults := s.defaults.perform (ProfileViewController.saveImage img) } :=
        h.same rfl rfl rfl
      exact hstored.updateProfile i fun _ => rfl
  | signUpRejected hsheet htap => exact h.same rfl rfl rfl
  | @signUpSubmitted sheet firstName lastName email hsheet htap =>
      have hstored : App.IndicatorTracked
          { s with defaults := (sheet.filled firstName lastName email).stored s.defaults } :=
        h.same rfl rfl rfl
      exact (hstored.updateDetails sheet.delegate).same rfl rfl rfl
  | rowIgnored hrow => exact h
  | rowShown hrow => exact h.showViewController hs _
  | @verifyPhoneNumberFailed serial error n k auth herror hcall hshared hissued hcalls =>
      cases k with
      | sendSMSCode i =>
          obtain ⟨e, rfl⟩ := Option.ne_none_iff_exists'.mp herror
          exact h.sendSMSCodeFailed hcall hissued hcalls (hok n i hcall)
      | resendOtpBtnAction i => exact h.resendFailed hcall hissued hcalls
  | verifyPhoneNumberSucceeded hcall hid hissued hcalls => exact h.succeeded hcall hissued hcalls
  | @signInFailed serial error call signIns herror hcall hcalls =>
      have hanswered : App.IndicatorTracked { s with signIns } := h.same rfl rfl rfl
      exact hanswered.updateProfile _ fun _ => rfl
  | signInSucceeded hcall hcalls =>
      exact h.mono h.calls (fun _ => Iff.rfl)
        (fun i hi => List.mem_append_left _ hi) fun _ => rfl
  | @clearText i rest hqueue =>
      exact h.clearText hqueue (hok i (by rw [hqueue]; rfl))
  | presented hqueue hi hsheet => exact (h.presentDequeued hqueue).same rfl rfl rfl
  | notPresented hqueue hnot => exact h.presentDequeued hqueue
  | relaunch => exact (indicatorTracked_loaded ..).showViewController (wellFormed_loaded ..) _

/-- **The activity indicator.**  In every run from the first launch whose steps
    `IndicatorKept` allows, in every state reached with an empty main queue: the
    indicator of a controller animates exactly while a request that its
    `sendSMSCode` made is outstanding. -/
theorem run_indicatorTruthful (es : List (Event Image)) (s : App Image)
    (hok : Along step IndicatorKept install es) (h : run step install es = some s) :
    s.IndicatorTruthful := by
  have hinstall : (install : App Image).IndicatorTracked := by
    unfold install launch
    exact (indicatorTracked_loaded ..).showViewController (wellFormed_loaded ..) _
  have hstep : ∀ s e t, Transition s e t → s.WellFormed → s.IndicatorTracked →
      s.IndicatorKept e → (t : App Image).IndicatorTracked :=
    fun s e t htrans hs hinv hok => htrans.indicatorTracked hs hinv hok
  exact (invariant hinstall hstep hok h).2.truthful

/-- A request for a code that fails, and another one. -/
def secondAttempt : List (Event Data) :=
  [.edit ⟨0, 0⟩ "5550001", .submitBtnAction, .verifyPhoneNumberReply 0 (some ⟨17010⟩),
   .submitBtnAction]

/-- The theorem at this run: the indicator animates for the second request. -/
theorem run_indicatorTruthful_secondAttempt :
    ∃ s, run step install secondAttempt = some s ∧ s.mainQueue = [] ∧ s.SendingCode 0 ∧
      s.IndicatorTruthful := by
  refine ⟨_, rfl, rfl, ⟨_, List.mem_cons_self, rfl⟩,
    run_indicatorTruthful secondAttempt _ ?_ rfl⟩
  refine .cons rfl trivial (.cons rfl trivial (.cons rfl ?_ (.cons rfl trivial trivial)))
  intro n i hcall p hp hk
  rw [List.mem_singleton.mp hp]
  rfl

/-- Two taps ask for a code; the first request fails. -/
def doubleTap : List (Event Data) :=
  [.edit ⟨0, 0⟩ "5550001", .submitBtnAction, .submitBtnAction,
   .verifyPhoneNumberReply 0 (some ⟨17010⟩)]

/-- The failed reply stops the indicator while the second request is outstanding. -/
theorem doubleTap_not_indicatorTruthful :
    ∃ s, run step install doubleTap = some s ∧ s.mainQueue = [] ∧ s.SendingCode 0 ∧
      ¬ s.Animating 0 ∧ ¬ s.IndicatorTruthful := by
  have hsending : ∃ s, run step install doubleTap = some s ∧ s.mainQueue = [] ∧ s.SendingCode 0 ∧
      ¬ s.Animating 0 := by
    refine ⟨_, rfl, rfl, ⟨_, List.mem_cons_self, rfl⟩, ?_⟩
    intro hanimating
    cases hanimating
  obtain ⟨s, hrun, hqueue, hs, hstill⟩ := hsending
  exact ⟨s, hrun, hqueue, hs, hstill, fun h => hstill ((h hqueue 0).mpr hs)⟩

end App

end Spark
