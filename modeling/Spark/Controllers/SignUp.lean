/-
  Spark.Controllers.SignUp

  `SignUpViewController`, the registration sheet: its fields, its error labels
  and the submit action `signUpBtnAction`.

  The action checks its fields one after the other and stores each one before
  it checks the next, so it is described by the `setValue(_:forKey:)` calls it
  makes, in order, and by whether it reaches `delegate?.updateDetails()` and
  `dismiss`.  `signUpBtnAction_cases` says everything a tap can do; the other
  results are read off it.

  A rejected tap leaves the fields that precede the rejected one in the store.
  `allOrNothing_iff` says for which inputs this is not observable.
-/

import Spark.Platform.UIKit
import Mathlib.Tactic.Tauto

namespace Spark

open UserDefaults (Write)

-- ============================================================================
-- The sheet
-- ============================================================================

/-- The sheet.  `delegate` is the number of the `ProfileViewController` that
    presented it. -/
structure SignUpViewController where
  delegate : Option Nat
  firstNameErrorLbl : UILabel
  lastNameErrorLbl : UILabel
  emailErrorLbl : UILabel
  firstNameTxtFld : UITextField
  lastNameTxtFld : UITextField
  emailTxtFld : UITextField
  mobileNumberTxtFld : UITextField
  mobileNumberStr : String
  deriving DecidableEq, Repr

/-- What a tap on the submit button does: the sheet after it, the calls
    `UserDefaults.standard.setValue(_:forKey:)` in order, and whether it
    reaches `delegate?.updateDetails()` and `dismiss`. -/
structure SignUpTap where
  sheet : SignUpViewController
  writes : List Write
  submitted : Bool
  deriving DecidableEq, Repr

/-- The text of a field as `setValue(field.text, forKey:)` stores it. -/
def UITextField.value (f : UITextField) : Option PropertyListValue := f.text.map .string

namespace SignUpViewController

def firstNameError (vc : SignUpViewController) : SignUpViewController :=
  { vc with
    firstNameErrorLbl := { text := some "First name should not be empty", isHidden := false }
    firstNameTxtFld := { vc.firstNameTxtFld with border := .red } }

def lastNameError (vc : SignUpViewController) : SignUpViewController :=
  { vc with
    lastNameErrorLbl := { text := some "Last name should not be empty", isHidden := false }
    lastNameTxtFld := { vc.lastNameTxtFld with border := .red } }

def emailError (vc : SignUpViewController) (validationStr : String) : SignUpViewController :=
  { vc with
    emailErrorLbl := { text := some validationStr, isHidden := false }
    emailTxtFld := { vc.emailTxtFld with border := .red } }

def emailSuccess (vc : SignUpViewController) : SignUpViewController :=
  { vc with
    emailErrorLbl := { text := some "email is not valid", isHidden := true }
    emailTxtFld := { vc.emailTxtFld with border := .clear } }

/-- The sheet as the storyboard builds it, after `presentSignupVC` has set its
    delegate and number and `viewDidLoad` has run (`designViews` puts the
    number in its field, which the storyboard disables). -/
def viewDidLoad (delegate : Nat) (mobileNumberStr : String) : SignUpViewController where
  delegate := some delegate
  firstNameErrorLbl := { text := some "Label", isHidden := true }
  lastNameErrorLbl := { text := some "Label", isHidden := true }
  emailErrorLbl := { text := some "Label", isHidden := true }
  firstNameTxtFld := { text := some "", placeholder := some "First Name" }
  lastNameTxtFld := { text := some "", placeholder := some "Last Name" }
  emailTxtFld := { text := some "", placeholder := some "Email" }
  mobileNumberTxtFld := { text := some mobileNumberStr, placeholder := some "Mobile Number" }
  mobileNumberStr := mobileNumberStr

/-- The user has filled in the three enabled fields. -/
def filled (vc : SignUpViewController) (firstName lastName email : Option String) :
    SignUpViewController :=
  { vc with
    firstNameTxtFld := { vc.firstNameTxtFld with text := firstName }
    lastNameTxtFld := { vc.lastNameTxtFld with text := lastName }
    emailTxtFld := { vc.emailTxtFld with text := email } }

def signUpBtnAction (vc : SignUpViewController) : SignUpTap :=
  if vc.firstNameTxtFld.text ≠ some "" then
    let writes := [("firstName", vc.firstNameTxtFld.value)]
    if vc.lastNameTxtFld.text ≠ some "" then
      let writes := writes ++ [("lastName", vc.lastNameTxtFld.value)]
      if vc.emailTxtFld.text ≠ some "" then
        -- `(emailTxtFld.text?.isValidEmail) != nil` asks whether there is a
        -- method to call, not what the method returns
        if vc.emailTxtFld.text.isSome then
          let writes := writes ++ [("emmailId", vc.emailTxtFld.value)]
          let writes :=
            if vc.mobileNumberTxtFld.text ≠ some "" then
              writes ++ [("mobileNumber", vc.mobileNumberTxtFld.value)]
            else writes
          { sheet := vc.emailSuccess, writes, submitted := true }
        else
          { sheet := vc.emailError "Email is not valid", writes, submitted := false }
      else
        { sheet := vc.emailError "Email should not be empty", writes, submitted := false }
    else
      { sheet := vc.lastNameError, writes, submitted := false }
  else
    { sheet := vc.firstNameError, writes := [], submitted := false }

-- ============================================================================
-- What a tap can do
-- ============================================================================

/-- The e-mail field holds a text that the submit branch stores. -/
def EmailAccepted (vc : SignUpViewController) : Prop :=
  vc.emailTxtFld.text ≠ some "" ∧ vc.emailTxtFld.text ≠ none

instance (vc : SignUpViewController) : Decidable vc.EmailAccepted :=
  inferInstanceAs (Decidable (_ ∧ _))

/-- The write of the number: made only when its field is not empty. -/
def mobileWrites (vc : SignUpViewController) : List Write :=
  if vc.mobileNumberTxtFld.text ≠ some "" then
    [("mobileNumber", vc.mobileNumberTxtFld.value)]
  else []

/-- The four ways a tap can end, with everything it has stored by then. -/
theorem signUpBtnAction_cases (vc : SignUpViewController) :
    (vc.firstNameTxtFld.text = some "" ∧
      vc.signUpBtnAction = ⟨vc.firstNameError, [], false⟩) ∨
    (vc.firstNameTxtFld.text ≠ some "" ∧ vc.lastNameTxtFld.text = some "" ∧
      vc.signUpBtnAction = ⟨vc.lastNameError, [("firstName", vc.firstNameTxtFld.value)], false⟩) ∨
    (vc.firstNameTxtFld.text ≠ some "" ∧ vc.lastNameTxtFld.text ≠ some "" ∧
      ¬ vc.EmailAccepted ∧ ∃ msg, vc.signUpBtnAction = ⟨vc.emailError msg,
        [("firstName", vc.firstNameTxtFld.value), ("lastName", vc.lastNameTxtFld.value)],
        false⟩) ∨
    (vc.firstNameTxtFld.text ≠ some "" ∧ vc.lastNameTxtFld.text ≠ some "" ∧
      vc.EmailAccepted ∧ vc.signUpBtnAction = ⟨vc.emailSuccess,
        [("firstName", vc.firstNameTxtFld.value), ("lastName", vc.lastNameTxtFld.value),
         ("emmailId", vc.emailTxtFld.value)] ++ vc.mobileWrites, true⟩) := by
  by_cases hfirst : vc.firstNameTxtFld.text = some ""
  · exact .inl ⟨hfirst, by simp [signUpBtnAction, hfirst]⟩
  by_cases hlast : vc.lastNameTxtFld.text = some ""
  · exact .inr (.inl ⟨hfirst, hlast, by simp [signUpBtnAction, hfirst, hlast]⟩)
  right; right
  by_cases hemail : vc.emailTxtFld.text = some ""
  · refine .inl ⟨hfirst, hlast, fun h => h.1 hemail, "Email should not be empty", ?_⟩
    simp [signUpBtnAction, hfirst, hlast, hemail]
  cases htext : vc.emailTxtFld.text with
  | none =>
      refine .inl ⟨hfirst, hlast, fun h => h.2 htext, "Email is not valid", ?_⟩
      simp [signUpBtnAction, hfirst, hlast, htext]
  | some email =>
      refine .inr ⟨hfirst, hlast, ⟨hemail, by simp [htext]⟩, ?_⟩
      have hne : email ≠ "" := fun h => hemail (h ▸ htext)
      by_cases hmobile : vc.mobileNumberTxtFld.text = some "" <;>
        simp [signUpBtnAction, mobileWrites, hfirst, hlast, htext, hne, hmobile]

/-- A tap changes error labels and borders, never the delegate. -/
theorem delegate_signUpBtnAction (vc : SignUpViewController) :
    vc.signUpBtnAction.sheet.delegate = vc.delegate := by
  rcases vc.signUpBtnAction_cases with ⟨-, h⟩ | ⟨-, -, h⟩ | ⟨-, -, -, msg, h⟩ |
    ⟨-, -, -, h⟩ <;> rw [h] <;> rfl

/-- A tap leaves the text of the number's field alone. -/
theorem mobileNumber_signUpBtnAction (vc : SignUpViewController) :
    vc.signUpBtnAction.sheet.mobileNumberTxtFld = vc.mobileNumberTxtFld := by
  rcases vc.signUpBtnAction_cases with ⟨-, h⟩ | ⟨-, -, h⟩ | ⟨-, -, -, msg, h⟩ |
    ⟨-, -, -, h⟩ <;> rw [h] <;> rfl

/-- The sheet is submitted exactly when both names and the e-mail pass. -/
theorem submitted_iff (vc : SignUpViewController) :
    vc.signUpBtnAction.submitted = true ↔
      vc.firstNameTxtFld.text ≠ some "" ∧ vc.lastNameTxtFld.text ≠ some "" ∧
      vc.EmailAccepted := by
  rcases vc.signUpBtnAction_cases with ⟨hf, h⟩ | ⟨hf, hl, h⟩ | ⟨hf, hl, he, msg, h⟩ |
    ⟨hf, hl, he, h⟩ <;> simp [*]

/-- The texts of the three enabled fields pass the checks of the action. -/
def FieldsPass (firstName lastName email : Option String) : Prop :=
  firstName ≠ some "" ∧ lastName ≠ some "" ∧ email ≠ some "" ∧ email ≠ none

/-- Filled in, the sheet is submitted exactly when the three texts pass. -/
theorem submitted_filled_iff {vc : SignUpViewController} {firstName lastName email : Option String} :
    (vc.filled firstName lastName email).signUpBtnAction.submitted = true ↔
      FieldsPass firstName lastName email :=
  submitted_iff _

/-- A tap writes under "mobileNumber" only when it is submitted, and then the
    text of the number's field, which is not empty. -/
theorem mem_writes_mobileNumber {vc : SignUpViewController} {v : Option PropertyListValue} :
    ("mobileNumber", v) ∈ vc.signUpBtnAction.writes ↔
      vc.signUpBtnAction.submitted = true ∧ vc.mobileNumberTxtFld.text ≠ some "" ∧
      v = vc.mobileNumberTxtFld.value := by
  rcases vc.signUpBtnAction_cases with ⟨hf, h⟩ | ⟨hf, hl, h⟩ | ⟨hf, hl, he, msg, h⟩ |
    ⟨hf, hl, he, h⟩
  · simp [h]
  · simp [h]
  · simp [h]
  · by_cases hm : vc.mobileNumberTxtFld.text = some "" <;> simp [h, mobileWrites, hm]

-- ============================================================================
-- The store after a tap
-- ============================================================================

/-- The store after a tap. -/
def stored (vc : SignUpViewController) (before : UserDefaults) : UserDefaults :=
  before.perform vc.signUpBtnAction.writes

/-- A submitted tap stores the three fields, the number if its field is not
    empty, and touches no other key. -/
theorem stored_of_submitted {vc : SignUpViewController} (before : UserDefaults)
    (h : vc.signUpBtnAction.submitted = true) :
    vc.stored before "firstName" = vc.firstNameTxtFld.value ∧
    vc.stored before "lastName" = vc.lastNameTxtFld.value ∧
    vc.stored before "emmailId" = vc.emailTxtFld.value ∧
    vc.stored before "mobileNumber" =
      (if vc.mobileNumberTxtFld.text ≠ some "" then vc.mobileNumberTxtFld.value
       else before "mobileNumber") ∧
    ∀ k, k ≠ "firstName" → k ≠ "lastName" → k ≠ "emmailId" → k ≠ "mobileNumber" →
      vc.stored before k = before k := by
  rcases vc.signUpBtnAction_cases with ⟨hf, h'⟩ | ⟨hf, hl, h'⟩ | ⟨hf, hl, he, msg, h'⟩ |
    ⟨hf, hl, he, h'⟩
  · simp [h'] at h
  · simp [h'] at h
  · simp [h'] at h
  · have hkeys : ∀ k, k ≠ "firstName" → k ≠ "lastName" → k ≠ "emmailId" →
        k ≠ "mobileNumber" → vc.stored before k = before k := by
      intro k h1 h2 h3 h4
      apply UserDefaults.perform_of_not_mem
      by_cases hm : vc.mobileNumberTxtFld.text = some "" <;>
        simp [h', mobileWrites, hm, h1, h2, h3, h4]
    by_cases hm : vc.mobileNumberTxtFld.text = some "" <;>
      simpa [stored, h', mobileWrites, hm, UserDefaults.setValue_ne] using hkeys

/-- A rejected tap stores what precedes the rejected field. -/
theorem stored_of_rejected {vc : SignUpViewController} (before : UserDefaults)
    (h : vc.signUpBtnAction.submitted = false) :
    vc.stored before =
      if vc.firstNameTxtFld.text = some "" then before
      else if vc.lastNameTxtFld.text = some "" then
        before.setValue vc.firstNameTxtFld.value "firstName"
      else (before.setValue vc.firstNameTxtFld.value "firstName").setValue
        vc.lastNameTxtFld.value "lastName" := by
  rcases vc.signUpBtnAction_cases with ⟨hf, h'⟩ | ⟨hf, hl, h'⟩ | ⟨hf, hl, he, msg, h'⟩ |
    ⟨hf, hl, he, h'⟩
  · simp [stored, h', hf]
  · simp [stored, h', hf, hl]
  · simp [stored, h', hf, hl]
  · simp [h'] at h

/-- A rejected tap does not store the number. -/
theorem stored_mobileNumber_of_rejected {vc : SignUpViewController} (before : UserDefaults)
    (h : vc.signUpBtnAction.submitted = false) :
    vc.stored before "mobileNumber" = before "mobileNumber" := by
  apply UserDefaults.perform_of_not_mem
  rintro hmem
  obtain ⟨⟨k, v⟩, hwrite, rfl⟩ := List.mem_map.mp hmem
  have hsub := (mem_writes_mobileNumber.mp hwrite).1
  rw [h] at hsub
  cases hsub

/-- A tap never touches a key outside the profile's four strings. -/
theorem stored_of_other_key {vc : SignUpViewController} (before : UserDefaults) {k : String}
    (h1 : k ≠ "firstName") (h2 : k ≠ "lastName") (h3 : k ≠ "emmailId")
    (h4 : k ≠ "mobileNumber") : vc.stored before k = before k := by
  cases hsub : vc.signUpBtnAction.submitted with
  | true => exact (stored_of_submitted before hsub).2.2.2.2 k h1 h2 h3 h4
  | false =>
      rw [stored_of_rejected before hsub]
      split
      · rfl
      · split <;> simp [UserDefaults.setValue_ne, h1, h2]

-- ============================================================================
-- All or nothing
-- ============================================================================

/-- A submitted tap stores the field texts and changes no other key; a tap
    that is not submitted changes no key at all. -/
def AllOrNothing (vc : SignUpViewController) (before : UserDefaults) : Prop :=
  if vc.signUpBtnAction.submitted then
    vc.stored before "firstName" = vc.firstNameTxtFld.value ∧
    vc.stored before "lastName" = vc.lastNameTxtFld.value ∧
    vc.stored before "emmailId" = vc.emailTxtFld.value ∧
    (vc.mobileNumberTxtFld.text ≠ some "" →
      vc.stored before "mobileNumber" = vc.mobileNumberTxtFld.value) ∧
    ∀ k, k ≠ "firstName" → k ≠ "lastName" → k ≠ "emmailId" →
      (k = "mobileNumber" → vc.mobileNumberTxtFld.text = some "") →
      vc.stored before k = before k
  else vc.stored before = before

/-- No check fails after a write that changed the store: the first name is
    empty, or no later check fails, or what was written before the failing
    check was in the store already. -/
def NoWriteBeforeFailingCheck (vc : SignUpViewController) (before : UserDefaults) : Prop :=
  vc.firstNameTxtFld.text = some "" ∨
  (vc.lastNameTxtFld.text ≠ some "" ∧ vc.EmailAccepted) ∨
  (before "firstName" = vc.firstNameTxtFld.value ∧
    (vc.lastNameTxtFld.text = some "" ∨ before "lastName" = vc.lastNameTxtFld.value))

theorem allOrNothing_of_submitted {vc : SignUpViewController} {before : UserDefaults}
    (h : vc.signUpBtnAction.submitted = true) : vc.AllOrNothing before := by
  obtain ⟨hfirst, hlast, hemail, hmobile, hrest⟩ := stored_of_submitted before h
  rw [AllOrNothing, if_pos h]
  refine ⟨hfirst, hlast, hemail, fun hm => by rw [hmobile, if_pos hm], ?_⟩
  intro k h1 h2 h3 h4
  by_cases hk : k = "mobileNumber"
  · subst hk
    rw [hmobile, if_neg (not_not.mpr (h4 rfl))]
  · exact hrest k h1 h2 h3 hk

/-- **When a tap is all or nothing.**  For all field contents and every prior
    store, a tap leaves no partial profile exactly when no check fails after
    a write that changed the store. -/
theorem allOrNothing_iff (vc : SignUpViewController) (before : UserDefaults) :
    vc.AllOrNothing before ↔ vc.NoWriteBeforeFailingCheck before := by
  cases hsub : vc.signUpBtnAction.submitted with
  | true =>
      obtain ⟨-, hl, he⟩ := (submitted_iff vc).mp hsub
      exact iff_of_true (allOrNothing_of_submitted hsub) (.inr (.inl ⟨hl, he⟩))
  | false =>
      have hnot : ¬ (vc.firstNameTxtFld.text ≠ some "" ∧ vc.lastNameTxtFld.text ≠ some "" ∧
          vc.EmailAccepted) := by
        rw [← submitted_iff, hsub]
        exact Bool.false_ne_true
      rw [AllOrNothing, if_neg (by simp [hsub]), stored_of_rejected before hsub,
        NoWriteBeforeFailingCheck]
      by_cases hf : vc.firstNameTxtFld.text = some ""
      · simp [hf]
      by_cases hl : vc.lastNameTxtFld.text = some ""
      · simp [hf, hl, UserDefaults.setValue_eq_self_iff]
      · have he : ¬ vc.EmailAccepted := fun he => hnot ⟨hf, hl, he⟩
        simp [hf, hl, he, UserDefaults.setValue_setValue_eq_self_iff]

/-- A first name and no last name, on a fresh install. -/
def firstNameOnly : SignUpViewController :=
  (viewDidLoad 0 "5550001").filled (some "Ann") (some "") (some "ann@example.com")

/-- The rejected tap of `firstNameOnly` leaves "firstName" in the store. -/
theorem firstNameOnly_not_allOrNothing :
    firstNameOnly.signUpBtnAction.submitted = false ∧
    firstNameOnly.stored .empty "firstName" = some (.string "Ann") ∧
    ¬ firstNameOnly.AllOrNothing .empty := by
  refine ⟨by decide, by decide, ?_⟩
  intro h
  have hstored : firstNameOnly.stored .empty = .empty := h
  exact absurd (congrFun hstored "firstName") (by decide)

end SignUpViewController

end Spark
