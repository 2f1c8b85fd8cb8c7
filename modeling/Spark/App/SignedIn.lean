/-
  Spark.App.SignedIn

  Two stores say whether somebody is signed in: `UserDefaults`, where a stored
  "mobileNumber" makes `isUserSignedIn` true, and Firebase's session, which
  `checkUserSignIn` looks at.

  A successful sign-in sets the second at once and the first only when the
  registration sheet is submitted, so the two agree at rest as long as every
  registration that has begun also ends (`SignedInTracked`).  It does not end
  when the app is terminated, when the sheet is not presented, or when it has
  no number to store; and sign-out clears the first before its call to Firebase
  can fail.  `SignedInKept` is the absence of these steps.
-/

import Spark.App.Step

namespace Spark

open Spark.Lib

namespace App

section SignedIn

variable {Image : Type}

-- ============================================================================
-- Agreement
-- ============================================================================

/-- No sheet is presented, and no `verifyCode` call or block is pending. -/
def AtRest (s : App Image) : Prop :=
  s.signUp = none ∧ s.signIns.outstanding = [] ∧ s.mainQueue = []

/-- At rest the store and Firebase agree on whether somebody is signed in. -/
def SignedInAgrees (s : App Image) : Prop :=
  s.AtRest → (isUserSignedIn s.defaults = true ↔ s.firebase.currentUser.isSome = true)

/-- A registration sheet is on screen or about to appear. -/
def Registering (s : App Image) : Prop :=
  s.signUp.isSome = true ∨ ∃ i, .presentSignupVC i ∈ s.mainQueue

/-- A stored number belongs to a session, and a session without a stored
    number is being registered. -/
structure SignedInTracked (s : App Image) : Prop where
  user : isUserSignedIn s.defaults = true → s.firebase.currentUser.isSome = true
  stored : s.firebase.currentUser.isSome = true →
    isUserSignedIn s.defaults = true ∨ s.Registering

theorem SignedInTracked.signedInAgrees {s : App Image} (h : s.SignedInTracked) :
    s.SignedInAgrees := by
  rintro ⟨hsheet, -, hqueue⟩
  refine ⟨h.user, ?_⟩
  intro huser
  rcases h.stored huser with hstored | hsome | ⟨i, hblock⟩
  · exact hstored
  · simp [hsheet] at hsome
  · simp [hqueue] at hblock

/-- The step completes what it begins:
    * a sheet that is submitted has the number of a session, or nothing is
      missing from the store;
    * `signOut` does not throw while a session is registered;
    * a queued sheet can be presented, and the app is not terminated, while the
      number of the session is missing. -/
def SignedInKept (s : App Image) : Event Image → Prop
  | .signUpBtnAction firstName lastName email =>
      SignUpViewController.FieldsPass firstName lastName email →
        ∀ sheet, s.signUp = some sheet →
        if sheet.mobileNumberTxtFld.text = some "" then
          s.firebase.currentUser.isSome = true →
            isUserSignedIn s.defaults = true ∨ ∃ i, .presentSignupVC i ∈ s.mainQueue
        else s.firebase.currentUser.isSome = true
  | .signOutBtnAction (some _) => s.firebase.currentUser.isSome = true → s.Registering
  | .runMainQueue =>
      ∀ i rest, s.mainQueue = .presentSignupVC i :: rest → s.content ≠ .profile i →
        s.signUp = none → s.firebase.currentUser.isSome = true →
        isUserSignedIn s.defaults = true ∨ ∃ j, .presentSignupVC j ∈ rest
  | .relaunch => s.firebase.currentUser.isSome = true → isUserSignedIn s.defaults = true
  | _ => True

-- ============================================================================
-- Preservation
-- ============================================================================

theorem isUserSignedIn_of_eq {d d' : UserDefaults} (h : d "mobileNumber" = d' "mobileNumber") :
    isUserSignedIn d = isUserSignedIn d' := by
  rw [isUserSignedIn, isUserSignedIn, UserDefaults.string?_of_eq h]

/-- A step that touches neither store and drops no registration. -/
theorem SignedInTracked.mono {s t : App Image} (h : s.SignedInTracked)
    (hdefaults : t.defaults "mobileNumber" = s.defaults "mobileNumber")
    (huser : t.firebase.currentUser = s.firebase.currentUser)
    (hregistering : s.Registering → t.Registering) : t.SignedInTracked := by
  constructor
  · rw [isUserSignedIn_of_eq hdefaults, huser]
    exact h.user
  · rw [isUserSignedIn_of_eq hdefaults, huser]
    exact fun hsome => (h.stored hsome).imp_right hregistering

/-- A submitted sheet stores its number, if it has one. -/
theorem isUserSignedIn_stored {sheet : SignUpViewController} {before : UserDefaults}
    {m : String} (htap : sheet.signUpBtnAction.submitted = true)
    (hm : sheet.mobileNumberTxtFld.text = some m) (hne : m ≠ "") :
    isUserSignedIn (sheet.stored before) = true := by
  obtain ⟨-, -, -, hstored, -⟩ := SignUpViewController.stored_of_submitted before htap
  rw [if_pos (by simpa [hm] using hne), UITextField.value, hm] at hstored
  simp [isUserSignedIn, UserDefaults.string?, hstored]

end SignedIn

variable {Image : Type} [UIImage Image]

theorem signedInTracked_launch {defaults : UserDefaults} {firebase : FirebaseAuth}
    (issued signInsIssued : Nat)
    (hsigned : isUserSignedIn defaults = true ↔ firebase.currentUser.isSome = true) :
    (launch defaults firebase issued signInsIssued : App Image).SignedInTracked := by
  unfold launch
  split
  · exact ⟨hsigned.mp, fun hsome => .inl (hsigned.mpr hsome)⟩
  · exact ⟨hsigned.mp, fun hsome => .inl (hsigned.mpr hsome)⟩

/-- Every step that `SignedInKept` allows keeps the two stores in step. -/
theorem Transition.signedInTracked {s t : App Image} {e : Event Image} (h : Transition s e t)
    (hs : s.WellFormed) (hinv : s.SignedInTracked) (hok : s.SignedInKept e) :
    t.SignedInTracked := by
  cases h with
  | @signOutBtnAction i error hi =>
      have hnot : ¬ isUserSignedIn (s.signOutBtnAction i error).defaults = true := by
        have hnone : (s.signedOut error).defaults "mobileNumber" = none := defaults_signedOut ..
        simp [App.signOutBtnAction, isUserSignedIn, UserDefaults.string?, hnone]
      refine ⟨fun hstored => absurd hstored hnot, ?_⟩
      intro hsome
      cases error with
      | none => cases hsome
      | some e => exact .inr (hok hsome)
  | imagePicked hi =>
      exact hinv.mono (ProfileViewController.saveImage_of_ne _ _ (by decide)) rfl id
  | signUpRejected hsheet htap =>
      refine hinv.mono (SignUpViewController.stored_mobileNumber_of_rejected _ htap) rfl ?_
      exact fun _ => .inl rfl
  | @signUpSubmitted sheet firstName lastName email hsheet htap =>
      have hnumber := hok (SignUpViewController.submitted_filled_iff.mp htap) sheet hsheet
      obtain ⟨m, hm⟩ := hs.number sheet hsheet
      by_cases hempty : m = ""
      · subst hempty
        rw [if_pos hm] at hnumber
        have hsame : (sheet.filled firstName lastName email).stored s.defaults "mobileNumber" =
            s.defaults "mobileNumber" := by
          obtain ⟨-, -, -, hstored, -⟩ := SignUpViewController.stored_of_submitted s.defaults htap
          rw [hstored]
          exact if_neg (not_not.mpr hm)
        constructor
        · simpa [isUserSignedIn_of_eq hsame] using hinv.user
        · simpa [isUserSignedIn_of_eq hsame, Registering] using hnumber
      · rw [if_neg (by simpa [hm] using hempty)] at hnumber
        refine ⟨fun _ => by simpa using hnumber, fun _ => .inl ?_⟩
        simpa using isUserSignedIn_stored htap hm hempty
  | @rowShown row storyboardId hrow => cases storyboardId <;> exact hinv.mono rfl rfl id
  | @verifyPhoneNumberFailed serial error n k auth herror hcall hshared hissued hcalls =>
      cases k <;> exact hinv.mono rfl rfl id
  | verifyPhoneNumberSucceeded hcall hid hissued hcalls =>
      refine hinv.mono rfl rfl (Or.imp_right ?_)
      rintro ⟨i, hblock⟩
      exact ⟨i, List.mem_append_left _ hblock⟩
  | signInSucceeded hcall hcalls =>
      exact ⟨fun _ => rfl, fun _ => .inr (.inr ⟨_, List.mem_append_right _ List.mem_cons_self⟩)⟩
  | clearText hqueue =>
      refine hinv.mono rfl rfl (Or.imp_right ?_)
      rintro ⟨i, hblock⟩
      refine ⟨i, ?_⟩
      rw [hqueue] at hblock
      exact (List.mem_cons.mp hblock).resolve_left Block.noConfusion
  | presented hqueue hi hsheet => exact hinv.mono rfl rfl fun _ => .inl rfl
  | @notPresented i rest hqueue h =>
      refine ⟨hinv.user, ?_⟩
      intro hsome
      by_cases hsheet : s.signUp = none
      · have hcontent : s.content ≠ .profile i := h.resolve_right (not_not.mpr hsheet)
        exact (hok i rest hqueue hcontent hsheet hsome).imp_right .inr
      · exact .inr (.inl (Option.isSome_iff_ne_none.mpr hsheet))
  | relaunch => exact signedInTracked_launch _ _ ⟨hinv.user, hok⟩
  -- the phone sign-in up to its reply writes neither store
  | _ => exact hinv.mono rfl rfl id

-- ============================================================================
-- Whole runs
-- ============================================================================

/-- **The two definitions of "signed in" agree.**  In every run from the first
    launch whose steps `SignedInKept` allows, in every state reached: with no
    sheet presented and no `verifyCode` call or block pending, a number is
    stored exactly when Firebase has a user. -/
theorem run_signedInAgrees (es : List (Event Image)) (s : App Image)
    (hok : Along step SignedInKept install es) (h : run step install es = some s) :
    s.SignedInAgrees := by
  have hinstall : (install : App Image).SignedInTracked :=
    signedInTracked_launch 0 0 (iff_of_false Bool.false_ne_true Bool.false_ne_true)
  exact (invariant hinstall (fun _ _ _ => Transition.signedInTracked) hok h).2.signedInAgrees

/-- The number is entered and verified, and the sheet is submitted. -/
def registered : List (Event Data) :=
  [.edit ⟨0, 0⟩ "5550001", .submitBtnAction, .textFieldDidEndEditing 0,
   .verifyPhoneNumberReply 0 none, .runMainQueue, .edit ⟨0, 0⟩ "1234", .submitBtnAction,
   .signInReply 0 none, .runMainQueue,
   .signUpBtnAction (some "Ann") (some "Lee") (some "ann@example.com")]

/-- The theorem at this run. -/
theorem run_signedInAgrees_registered :
    ∃ s, run step install registered = some s ∧ s.AtRest ∧
      s.firebase.currentUser = some "5550001" ∧ s.SignedInAgrees := by
  refine ⟨_, rfl, ⟨rfl, rfl, rfl⟩, rfl, run_signedInAgrees registered _ ?_ rfl⟩
  iterate 4 refine .cons rfl trivial ?_
  refine .cons rfl ?_ ?_
  · intro i rest hqueue
    exact Block.noConfusion (List.cons.inj hqueue).1
  iterate 3 refine .cons rfl trivial ?_
  refine .cons rfl ?_ ?_
  · intro i rest hqueue hcontent
    obtain ⟨hblock, -⟩ := List.cons.inj hqueue
    obtain rfl := Block.presentSignupVC.inj hblock
    exact (hcontent rfl).elim
  refine .cons rfl ?_ trivial
  intro _ sheet hsheet
  obtain rfl := Option.some.inj hsheet
  exact rfl

/-- The app is terminated while the sheet is up. -/
def terminated : List (Event Data) :=
  [.edit ⟨0, 0⟩ "5550001", .submitBtnAction, .textFieldDidEndEditing 0,
   .verifyPhoneNumberReply 0 none, .runMainQueue, .edit ⟨0, 0⟩ "1234", .submitBtnAction,
   .signInReply 0 none, .runMainQueue, .relaunch]

/-- Firebase has a user, and no number is stored. -/
theorem terminated_not_signedInAgrees :
    ∃ s, run step install terminated = some s ∧ s.AtRest ∧
      isUserSignedIn s.defaults = false ∧ s.firebase.currentUser = some "5550001" ∧
      ¬ s.SignedInAgrees := by
  refine ⟨_, rfl, ⟨rfl, rfl, rfl⟩, rfl, rfl, ?_⟩
  intro h
  exact absurd ((h ⟨rfl, rfl, rfl⟩).mpr rfl) (by decide)

end App

end Spark
