/-
  Spark.App.StoredEmail

  Which e-mails get into the store.

  `FormEvent` refines the app's events: the registration sheet on screen is
  edited one keystroke at a time, each edit running the live check, and a tap on
  its button submits the texts the sheet holds.  Everything else is as in
  `App.step`.

  The e-mail branch of `signUpBtnAction` tests `text?.isValidEmail != nil`
  without calling the method, so it accepts every text that is not empty
  (`submitted_iff_valid`).  The stored e-mail is therefore valid in every
  state exactly when no sheet is submitted with an invalid one
  (`storedEmailValid_iff`).
-/

import Spark.App.ProfileFrame
import Spark.Controllers.SignUpForm

namespace Spark

open Spark.Lib

-- ============================================================================
-- The e-mail branch
-- ============================================================================

namespace SignUpViewController

/-- A valid e-mail is one that the action accepts. -/
theorem emailAccepted_of_valid [UnicodeData] {vc : SignUpViewController}
    (h : vc.hasValidEmail = true) : vc.EmailAccepted := by
  unfold hasValidEmail at h
  unfold EmailAccepted
  cases htext : vc.emailTxtFld.text with
  | none => simp [htext] at h
  | some text =>
      refine ⟨?_, nofun⟩
      intro hempty
      rw [htext, hempty] at h
      simp [isValidEmail_empty] at h

/-- A tap submits exactly the sheets whose names pass and whose e-mail is valid,
    if and only if a name is empty or the e-mail is missing, empty or valid. -/
theorem submitted_iff_valid [UnicodeData] (vc : SignUpViewController) :
    (vc.signUpBtnAction.submitted = true ↔
      vc.firstNameTxtFld.text ≠ some "" ∧ vc.lastNameTxtFld.text ≠ some "" ∧
        vc.hasValidEmail = true) ↔
    vc.firstNameTxtFld.text = some "" ∨ vc.lastNameTxtFld.text = some "" ∨
      vc.emailTxtFld.text = none ∨ vc.emailTxtFld.text = some "" ∨ vc.hasValidEmail = true := by
  rw [submitted_iff]
  by_cases hvalid : vc.hasValidEmail = true
  · have haccepted := emailAccepted_of_valid hvalid
    simp [hvalid, haccepted]
  · -- an invalid text is accepted unless it is missing or empty
    unfold EmailAccepted
    tauto

end SignUpViewController

namespace App

variable {Image : Type}

-- ============================================================================
-- The app with the sheet edited live
-- ============================================================================

/-- What can happen, with the edits of the sheet on screen. -/
inductive FormEvent (Image : Type)
  | edit (e : SignUpEdit)
  /-- A tap on the sheet's button. -/
  | signUpBtnAction
  /-- Anything else; a tap on the sheet's button is the constructor above. -/
  | other (e : Event Image)

/-- The e-mail in the store, if there is one, is valid. -/
def StoredEmailValid [UnicodeData] (s : App Image) : Prop :=
  ∀ text, s.defaults.string? "emmailId" = some text → isValidEmail text = true

/-- A sheet whose three texts pass is submitted only with a valid e-mail. -/
def EmailKept [UnicodeData] (s : App Image) : FormEvent Image → Prop
  | .signUpBtnAction => ∀ sheet, s.signUp = some sheet →
      SignUpViewController.FieldsPass sheet.firstNameTxtFld.text sheet.lastNameTxtFld.text
        sheet.emailTxtFld.text → sheet.hasValidEmail = true
  | _ => True

variable [UIImage Image]

/-- A tap on the sheet's button, with the texts the sheet holds. -/
def submitSheet (s : App Image) (sheet : SignUpViewController) : Option (App Image) :=
  s.step (.signUpBtnAction sheet.firstNameTxtFld.text sheet.lastNameTxtFld.text
    sheet.emailTxtFld.text)

def formStep [UnicodeData] (s : App Image) : FormEvent Image → Option (App Image)
  | .edit e => s.signUp.map fun sheet => { s with signUp := some (sheet.edit e) }
  | .signUpBtnAction => s.signUp.bind s.submitSheet
  | .other (.signUpBtnAction _ _ _) => none
  | .other e => s.step e

-- ============================================================================
-- One step
-- ============================================================================

/-- Apart from a tap on the sheet's button, a step keeps the stored e-mail or
    removes it. -/
theorem Transition.emmailId {s t : App Image} {e : Event Image} (h : Transition s e t)
    (he : ∀ firstName lastName email, e ≠ .signUpBtnAction firstName lastName email) :
    t.defaults "emmailId" = s.defaults "emmailId" ∨ t.defaults "emmailId" = none := by
  by_cases hleaves : LeavesProfile e
  · exact .inl (congrFun (h.keepsProfile hleaves).defaults "emmailId")
  cases h with
  | @signOutBtnAction i error hi =>
      right
      change (s.signedOut error).defaults "emmailId" = none
      rw [defaults_signedOut, if_pos (by decide)]
  | imagePicked hi =>
      left
      exact ProfileViewController.saveImage_of_ne _ s.defaults (by decide)
  | signUpRejected hsheet htap => exact absurd rfl (he _ _ _)
  | signUpSubmitted hsheet htap => exact absurd rfl (he _ _ _)
  | rowIgnored hrow => exact .inl rfl
  | @rowShown row id hrow => cases id <;> exact .inl rfl
  | relaunch =>
      left
      unfold launch
      split <;> rfl
  | _ => exact absurd trivial hleaves

section Steps

variable [UnicodeData] {s t : App Image}

omit [UIImage Image] in
/-- Nothing that keeps or removes the e-mail makes it invalid. -/
theorem StoredEmailValid.of_kept (h : s.StoredEmailValid)
    (hkept : t.defaults "emmailId" = s.defaults "emmailId" ∨ t.defaults "emmailId" = none) :
    t.StoredEmailValid := by
  intro text htext
  rcases hkept with hkept | hnone
  · rw [UserDefaults.string?_of_eq hkept] at htext
    exact h text htext
  · simp [UserDefaults.string?, hnone] at htext

omit [UIImage Image] in
/-- After a submitted tap the e-mail in the store is the text of the field. -/
theorem storedEmailValid_of_stored {sheet : SignUpViewController}
    (hstored : t.defaults "emmailId" = sheet.emailTxtFld.value)
    (hsome : sheet.emailTxtFld.text ≠ none) :
    t.StoredEmailValid ↔ sheet.hasValidEmail = true := by
  have htext : t.defaults.string? "emmailId" = sheet.emailTxtFld.text :=
    UserDefaults.string?_of_text hstored
  unfold StoredEmailValid SignUpViewController.hasValidEmail
  rw [htext]
  cases htext' : sheet.emailTxtFld.text with
  | none => exact absurd htext' hsome
  | some text => simp

/-- A tap on the sheet's button keeps the stored e-mail valid exactly when the
    sheet is rejected or its e-mail is valid. -/
theorem submitSheet_iff {sheet : SignUpViewController} (h : s.StoredEmailValid)
    (hsheet : s.signUp = some sheet) :
    (∀ t, s.submitSheet sheet = some t → t.StoredEmailValid) ↔
      (SignUpViewController.FieldsPass sheet.firstNameTxtFld.text sheet.lastNameTxtFld.text
        sheet.emailTxtFld.text → sheet.hasValidEmail = true) := by
  have hstep : ∀ t, s.submitSheet sheet = some t ↔ t = s.signUpBtnAction sheet := by
    intro t
    simp only [submitSheet, step, hsheet, Option.map_some, Option.some.injEq]
    exact eq_comm
  have hdefaults : (s.signUpBtnAction sheet).defaults = sheet.stored s.defaults := by
    unfold signUpBtnAction
    dsimp only
    split
    · exact defaults_updateDetails _ _
    · rfl
  simp only [hstep, forall_eq]
  cases hsubmitted : sheet.signUpBtnAction.submitted with
  | true =>
      have hpass := (SignUpViewController.submitted_iff sheet).mp hsubmitted
      have hemail := (SignUpViewController.stored_of_submitted s.defaults hsubmitted).2.2.1
      rw [storedEmailValid_of_stored ((congrFun hdefaults _).trans hemail) hpass.2.2.2]
      exact ⟨fun hvalid _ => hvalid, fun hvalid => hvalid hpass⟩
  | false =>
      have hkept : (s.signUpBtnAction sheet).defaults "emmailId" = s.defaults "emmailId" := by
        rw [hdefaults, SignUpViewController.stored_of_rejected s.defaults hsubmitted]
        split
        · rfl
        · split <;> simp [UserDefaults.setValue_ne]
      refine iff_of_true (h.of_kept (.inl hkept)) ?_
      intro hpass
      have hsubmitted' := (SignUpViewController.submitted_iff sheet).mpr hpass
      exact absurd (hsubmitted.symm.trans hsubmitted') Bool.false_ne_true

theorem step_of_formStep {e : Event Image} (h : s.formStep (.other e) = some t) :
    s.step e = some t ∧
      ∀ firstName lastName email, e ≠ .signUpBtnAction firstName lastName email := by
  cases e with
  | signUpBtnAction firstName lastName email => cases h
  | _ => exact ⟨h, nofun⟩

/-- **Step lemma.**  From a state with a valid e-mail or none, exactly the steps
    that `EmailKept` allows lead to such states. -/
theorem formStep_storedEmailValid_iff (s : App Image) (e : FormEvent Image)
    (h : s.StoredEmailValid) :
    (∀ t, s.formStep e = some t → t.StoredEmailValid) ↔ s.EmailKept e := by
  cases e with
  | edit e =>
      refine iff_of_true ?_ trivial
      intro t ht
      obtain ⟨sheet, hsheet, rfl⟩ := Option.map_eq_some_iff.mp ht
      exact h
  | signUpBtnAction =>
      unfold formStep EmailKept
      cases hsheet : s.signUp with
      | none => simp
      | some sheet => simpa using submitSheet_iff h hsheet
  | other e =>
      refine iff_of_true ?_ trivial
      intro t ht
      obtain ⟨hstep, hne⟩ := step_of_formStep ht
      exact h.of_kept ((step_cases hstep).emmailId hne)

/-- **Stored e-mails.**  In every run from a fresh install the stored e-mail is
    valid in every state reached exactly when no sheet whose texts pass is
    submitted with an invalid e-mail; a tap submits exactly the sheets whose
    names pass and whose e-mail is valid, if and only if a name is empty or the
    e-mail is missing, empty or valid. -/
theorem storedEmailValid_iff :
    (∀ es : List (FormEvent Image),
      (∀ fs, fs <+: es → ∀ s, run formStep install fs = some s → s.StoredEmailValid) ↔
        Along formStep EmailKept install es) ∧
    (∀ sheet : SignUpViewController,
      (sheet.signUpBtnAction.submitted = true ↔
        sheet.firstNameTxtFld.text ≠ some "" ∧ sheet.lastNameTxtFld.text ≠ some "" ∧
          sheet.hasValidEmail = true) ↔
      sheet.firstNameTxtFld.text = some "" ∨ sheet.lastNameTxtFld.text = some "" ∨
        sheet.emailTxtFld.text = none ∨ sheet.emailTxtFld.text = some "" ∨
        sheet.hasValidEmail = true) := by
  have hinstall : (install : App Image).StoredEmailValid := by
    intro text htext
    cases htext
  exact ⟨run_invariant_iff formStep_storedEmailValid_iff hinstall,
    SignUpViewController.submitted_iff_valid⟩

end Steps

/-- A registration in which the e-mail field is filled with a word. -/
def wordAsEmail : List (FormEvent Data) :=
  [.other (.edit ⟨0, 0⟩ "5550001"), .other .submitBtnAction,
   .other (.verifyPhoneNumberReply 0 none), .other .runMainQueue,
   .other (.edit ⟨0, 0⟩ "1234"), .other .submitBtnAction, .other (.signInReply 0 none),
   .other .runMainQueue, .edit ⟨.firstNameTxtFld, ⟨0, 0⟩, "Ann"⟩,
   .edit ⟨.lastNameTxtFld, ⟨0, 0⟩, "Lee"⟩, .edit ⟨.emailTxtFld, ⟨0, 0⟩, "nonsense"⟩,
   .signUpBtnAction]

/-- The word is stored as the e-mail. -/
theorem wordAsEmail_stored :
    ∃ s, run formStep install wordAsEmail = some s ∧
      s.defaults.string? "emmailId" = some "nonsense" ∧ ¬ s.StoredEmailValid := by
  refine ⟨_, rfl, rfl, ?_⟩
  intro h
  exact absurd (h "nonsense" rfl) (by decide)

end App

end Spark
