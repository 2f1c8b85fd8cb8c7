/-
  Spark.Controllers.SignUpForm

  Typing into the registration sheet.  Its three enabled fields have the sheet
  as their delegate, so UIKit calls `textField(_:shouldChangeCharactersIn:
  replacementString:)` before it applies an edit, and the e-mail check in there
  reads the field, not the edit: what `emailErrorLbl` shows is one edit behind
  (`isHidden_edit_email`).

  Over a sequence of edits the label therefore describes the text on screen
  after every edit exactly when no edit of the e-mail changes whether the text
  is valid (`describesText_iff`).
-/

import Spark.Controllers.SignUp
import Spark.Lib.Run
import Spark.Validations

namespace Spark

open Spark.Lib

/-- The fields whose delegate `viewDidLoad` sets. -/
inductive SignUpField
  | firstNameTxtFld
  | lastNameTxtFld
  | emailTxtFld
  deriving DecidableEq, Repr

/-- An edit of one of them: typing, deleting, pasting. -/
structure SignUpEdit where
  field : SignUpField
  range : NSRange
  string : String
  deriving DecidableEq, Repr

namespace SignUpViewController

/-- `updateUIElements()`: the errors of the two names are taken back. -/
def updateUIElements (vc : SignUpViewController) : SignUpViewController :=
  { vc with
    firstNameErrorLbl := { vc.firstNameErrorLbl with isHidden := true }
    lastNameErrorLbl := { vc.lastNameErrorLbl with isHidden := true }
    firstNameTxtFld := { vc.firstNameTxtFld with border := .clear }
    lastNameTxtFld := { vc.lastNameTxtFld with border := .clear } }

/-- The three fields' texts are replaced one at a time. -/
def replace (vc : SignUpViewController) (e : SignUpEdit) : SignUpViewController :=
  match e.field with
  | .firstNameTxtFld =>
      { vc with firstNameTxtFld := vc.firstNameTxtFld.replace e.range e.string }
  | .lastNameTxtFld => { vc with lastNameTxtFld := vc.lastNameTxtFld.replace e.range e.string }
  | .emailTxtFld => { vc with emailTxtFld := vc.emailTxtFld.replace e.range e.string }

section Check

variable [UnicodeData]

/-- `text?.isValidEmail() == true`. -/
def hasValidEmail (vc : SignUpViewController) : Bool :=
  vc.emailTxtFld.text.map isValidEmail == some true

/-- `textField(_:shouldChangeCharactersIn:replacementString:)`; it returns
    `true` and looks at neither the range nor the replacement. -/
def shouldChangeCharactersIn (vc : SignUpViewController) (textField : SignUpField) :
    SignUpViewController :=
  let vc :=
    if textField = .emailTxtFld then
      if vc.hasValidEmail then vc.emailSuccess else vc.emailError "Email is not valid"
    else vc
  vc.updateUIElements

/-- The user edits a field: UIKit asks the delegate first and applies the edit
    afterwards. -/
def edit (vc : SignUpViewController) (e : SignUpEdit) : SignUpViewController :=
  (vc.shouldChangeCharactersIn e.field).replace e

/-- The sheet while it is filled in; every edit is possible. -/
def formStep (vc : SignUpViewController) (e : SignUpEdit) : Option SignUpViewController :=
  some (vc.edit e)

-- ============================================================================
-- What an edit does to the e-mail
-- ============================================================================

/-- An edit of the e-mail changes its text by the edit and nothing else. -/
theorem text_edit_email {vc : SignUpViewController} {e : SignUpEdit}
    (he : e.field = .emailTxtFld) :
    (vc.edit e).emailTxtFld.text =
      some (replacingCharacters (vc.emailTxtFld.text.getD "") e.range e.string) := by
  unfold edit replace shouldChangeCharactersIn
  rw [he]
  cases vc.hasValidEmail <;> rfl

/-- The label tells whether the text before the edit was valid. -/
theorem isHidden_edit_email {vc : SignUpViewController} {e : SignUpEdit}
    (he : e.field = .emailTxtFld) :
    (vc.edit e).emailErrorLbl.isHidden = vc.hasValidEmail := by
  unfold edit replace shouldChangeCharactersIn
  rw [he]
  cases vc.hasValidEmail <;> rfl

/-- An edit of a name leaves the e-mail and its label alone. -/
theorem edit_name {vc : SignUpViewController} {e : SignUpEdit} (he : e.field ≠ .emailTxtFld) :
    (vc.edit e).emailErrorLbl = vc.emailErrorLbl ∧ (vc.edit e).emailTxtFld = vc.emailTxtFld := by
  unfold edit replace shouldChangeCharactersIn
  cases hfield : e.field with
  | firstNameTxtFld => exact ⟨rfl, rfl⟩
  | lastNameTxtFld => exact ⟨rfl, rfl⟩
  | emailTxtFld => exact absurd hfield he

-- ============================================================================
-- The label over a sequence of edits
-- ============================================================================

/-- After the edit the label is hidden exactly when the text now in the e-mail
    field is valid; an edit of another field leaves the label as it was. -/
def DescribesText (vc : SignUpViewController) (e : SignUpEdit) : Prop :=
  if e.field = .emailTxtFld then
    ((vc.edit e).emailErrorLbl.isHidden = true ↔ (vc.edit e).hasValidEmail = true)
  else (vc.edit e).emailErrorLbl = vc.emailErrorLbl

/-- An edit of the e-mail makes a valid text of a valid one and an invalid one
    of an invalid one. -/
def ValidityKept (vc : SignUpViewController) (e : SignUpEdit) : Prop :=
  e.field = .emailTxtFld →
    (vc.hasValidEmail = true ↔
      isValidEmail (replacingCharacters (vc.emailTxtFld.text.getD "") e.range e.string) = true)

theorem describesText_iff_validityKept (vc : SignUpViewController) (e : SignUpEdit) :
    vc.DescribesText e ↔ vc.ValidityKept e := by
  unfold DescribesText ValidityKept
  by_cases he : e.field = .emailTxtFld
  · have hnow : (vc.edit e).hasValidEmail =
        isValidEmail (replacingCharacters (vc.emailTxtFld.text.getD "") e.range e.string) := by
      rw [hasValidEmail, text_edit_email he, Option.map_some]
      simp
    rw [if_pos he, isHidden_edit_email he, hnow]
    exact ⟨fun h _ => h, fun h => h he⟩
  · rw [if_neg he]
    exact iff_of_true (edit_name he).1 fun hemail => absurd hemail he

/-- **The live check.**  Over every sequence of edits the label describes the
    text on screen after each of them exactly when no edit of the e-mail changes
    the validity of its text. -/
theorem describesText_iff (vc : SignUpViewController) (es : List SignUpEdit) :
    Along formStep DescribesText vc es ↔ Along formStep ValidityKept vc es :=
  along_congr describesText_iff_validityKept vc es

end Check

/-- An address is typed, but for its last letter; then that letter. -/
def lastLetter : List SignUpEdit :=
  [⟨.emailTxtFld, ⟨0, 0⟩, "a@b.c"⟩, ⟨.emailTxtFld, ⟨5, 0⟩, "c"⟩]

/-- With the letter the text is an address, and the label says that it is not. -/
theorem not_describesText_lastLetter :
    ¬ Along formStep DescribesText (viewDidLoad 0 "5550001") lastLetter := by
  intro h
  have hlast := ((h.tail rfl).head : DescribesText _ ⟨.emailTxtFld, ⟨5, 0⟩, "c"⟩)
  rw [DescribesText, if_pos rfl] at hlast
  exact absurd (hlast.mpr (by decide)) (by decide)

end SignUpViewController

end Spark
