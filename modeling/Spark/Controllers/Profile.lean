/-
  Spark.Controllers.Profile

  `ProfileViewController`: the login form (mobile number, then OTP), the
  profile labels and picture, and the handlers that change only the
  controller itself.  The handlers that also reach the store, Firebase or the
  main queue are in `Spark.App.Model`.

  The form is in one of two modes.  `clearTextAndUpdateUIToOTP` and
  `closeOtpScreen` set the placeholder and the button title together, so the
  two always name the same mode (`FormMode`); `submitBtnAction` looks at the
  placeholder, `updateMobileNumbString` at the title.
-/

import Spark.Platform.UIKit

namespace Spark

-- ============================================================================
-- The controller
-- ============================================================================

structure ProfileViewController (Image : Type) where
  mobileNumberTxt : UITextField
  /-- `submitBtnPrp.titleLabel?.text`. -/
  submitBtnTitle : Option String
  resendOtpBtnIsHidden : Bool
  didntReciveOtpLbl : UILabel
  mobileNoErrorLbl : UILabel
  otpVarificationDescriptionLbl : UILabel
  loginSignupBgViewIsHidden : Bool
  profileViewwIsHidden : Bool
  profileNameLbl : UILabel
  profileEmailLbl : UILabel
  profilePhoneNumberLbl : UILabel
  profileImg : Option Image
  mobileNumberStr : String
  activityView : Option UIActivityIndicatorView
  /-- The messages given to `showToast`, oldest first. -/
  toasts : List String

namespace ProfileViewController

variable {Image : Type}

-- ============================================================================
-- The login form
-- ============================================================================

def startAnimating (vc : ProfileViewController Image) : ProfileViewController Image :=
  { vc with activityView := vc.activityView.map fun _ => { isAnimating := true } }

def stopAnimating (vc : ProfileViewController Image) : ProfileViewController Image :=
  { vc with activityView := vc.activityView.map fun _ => { isAnimating := false } }

def hideActivityIndicator (vc : ProfileViewController Image) : ProfileViewController Image :=
  if vc.activityView ≠ none then vc.stopAnimating else vc

def showToast (vc : ProfileViewController Image) (message : String) :
    ProfileViewController Image :=
  { vc with toasts := vc.toasts ++ [message] }

def clearTextAndUpdateUIToOTP (vc : ProfileViewController Image) : ProfileViewController Image :=
  let vc := vc.hideActivityIndicator
  { vc with
    mobileNumberTxt :=
      { vc.mobileNumberTxt with text := some "", placeholder := some "Enter Otp" }
    submitBtnTitle := some "Verify OTP"
    otpVarificationDescriptionLbl :=
      { vc.otpVarificationDescriptionLbl with
        text := some ("Enter OTP sent to " ++ vc.mobileNumberStr) }
    resendOtpBtnIsHidden := false
    didntReciveOtpLbl := { vc.didntReciveOtpLbl with isHidden := false } }

def closeOtpScreen (vc : ProfileViewController Image) : ProfileViewController Image :=
  { vc with
    didntReciveOtpLbl := { vc.didntReciveOtpLbl with isHidden := true }
    resendOtpBtnIsHidden := true
    mobileNumberTxt :=
      { vc.mobileNumberTxt with placeholder := some "Enter Mobile Number" }
    submitBtnTitle := some "Get OTP" }

def otpIsNotValid (vc : ProfileViewController Image) (msgStr : String) :
    ProfileViewController Image :=
  { vc with mobileNumberTxt := { vc.mobileNumberTxt with border := .red } }.showToast msgStr

def mobileNumberError (vc : ProfileViewController Image) : ProfileViewController Image :=
  { vc with
    mobileNoErrorLbl := { text := some "Mobile number should not be empty", isHidden := false }
    mobileNumberTxt := { vc.mobileNumberTxt with border := .red } }

def updateMobileNumbString (vc : ProfileViewController Image) : ProfileViewController Image :=
  if vc.submitBtnTitle ≠ some "Verify OTP" then
    { vc with mobileNumberStr := vc.mobileNumberTxt.text.getD "" }
  else vc

/-- `textField(_:shouldChangeCharactersIn:replacementString:)`; it returns
    `true` and looks at neither the range nor the replacement. -/
def shouldChangeCharactersIn (vc : ProfileViewController Image) : ProfileViewController Image :=
  { vc with
    mobileNoErrorLbl := { vc.mobileNoErrorLbl with isHidden := true }
    mobileNumberTxt := { vc.mobileNumberTxt with border := .clear } }.updateMobileNumbString

/-- The user edits `mobileNumberTxt`: UIKit asks the delegate first and
    applies the edit afterwards. -/
def edit (vc : ProfileViewController Image) (range : NSRange) (string : String) :
    ProfileViewController Image :=
  let vc := vc.shouldChangeCharactersIn
  { vc with mobileNumberTxt := vc.mobileNumberTxt.replace range string }

def textFieldDidEndEditing (vc : ProfileViewController Image) : ProfileViewController Image :=
  vc.updateMobileNumbString

-- ============================================================================
-- The profile
-- ============================================================================

def updateUserDetails (vc : ProfileViewController Image) (defaults : UserDefaults) :
    ProfileViewController Image :=
  let userFirstName := (defaults.string? "firstName").getD ""
  let userLastName := (defaults.string? "lastName").getD ""
  { vc with
    profileNameLbl :=
      { vc.profileNameLbl with text := some (userFirstName ++ " " ++ userLastName) }
    profileEmailLbl := { vc.profileEmailLbl with text := defaults.string? "emmailId" }
    profilePhoneNumberLbl :=
      { vc.profilePhoneNumberLbl with text := defaults.string? "mobileNumber" } }

/-- `currentUser` is `Auth.auth().currentUser`. -/
def checkUserSignIn (vc : ProfileViewController Image) (currentUser : Option String) :
    ProfileViewController Image :=
  if currentUser = none then
    { vc with loginSignupBgViewIsHidden := false, profileViewwIsHidden := true }
  else
    { vc with loginSignupBgViewIsHidden := true, profileViewwIsHidden := false }

def updateDetails (vc : ProfileViewController Image) (defaults : UserDefaults)
    (currentUser : Option String) : ProfileViewController Image :=
  (vc.updateUserDetails defaults).checkUserSignIn currentUser

variable [UIImage Image]

def loadImage (vc : ProfileViewController Image) (defaults : UserDefaults) :
    ProfileViewController Image :=
  match defaults.data? "profileImage" with
  | none => vc
  | some data => { vc with profileImg := UIImage.ofData data.payload }

def viewWillAppear (vc : ProfileViewController Image) (defaults : UserDefaults)
    (currentUser : Option String) : ProfileViewController Image :=
  let vc := if defaults.data? "profileImage" ≠ none then vc.loadImage defaults else vc
  (vc.updateUserDetails defaults).checkUserSignIn currentUser

/-- The write `saveImage` makes, if the picture can be encoded. -/
def saveImage (img : Image) : List UserDefaults.Write :=
  match UIImage.jpegData img with
  | none => []
  | some data => [("profileImage", some (.data ⟨data⟩))]

/-- `saveImage` writes under "profileImage" only. -/
theorem saveImage_of_ne (img : Image) (defaults : UserDefaults) {k : String}
    (h : k ≠ "profileImage") : defaults.perform (saveImage img) k = defaults k := by
  unfold saveImage
  cases UIImage.jpegData img with
  | none => rfl
  | some data => exact UserDefaults.setValue_ne h

/-- The controller as the storyboard builds it, after `viewDidLoad`. -/
def viewDidLoad : ProfileViewController Image where
  mobileNumberTxt := { text := some "", placeholder := some "Enter Mobile Number" }
  submitBtnTitle := some "Get OTP"
  resendOtpBtnIsHidden := true
  didntReciveOtpLbl := { text := some "Didn't recive OTP ?", isHidden := true }
  mobileNoErrorLbl := { text := some "Label", isHidden := true }
  otpVarificationDescriptionLbl :=
    { text := some "We will send you a one time password to this mobile number." }
  loginSignupBgViewIsHidden := false
  profileViewwIsHidden := false
  profileNameLbl := { text := some "Label" }
  profileEmailLbl := { text := some "Label" }
  profilePhoneNumberLbl := { text := some "Label" }
  profileImg := some UIImage.personFill
  mobileNumberStr := ""
  activityView := some { isAnimating := false }
  toasts := []

-- ============================================================================
-- What the handlers change
-- ============================================================================

omit [UIImage Image] in
theorem updateMobileNumbString_eq (vc : ProfileViewController Image) :
    vc.updateMobileNumbString =
      { vc with
        mobileNumberStr :=
          if vc.submitBtnTitle = some "Verify OTP" then vc.mobileNumberStr
          else vc.mobileNumberTxt.text.getD "" } := by
  unfold updateMobileNumbString
  by_cases h : vc.submitBtnTitle = some "Verify OTP"
  · rw [if_neg (not_not.mpr h), if_pos h]
  · rw [if_pos h, if_neg h]

omit [UIImage Image] in
theorem hideActivityIndicator_eq (vc : ProfileViewController Image) :
    vc.hideActivityIndicator = vc.stopAnimating := by
  unfold hideActivityIndicator
  split
  · rfl
  · next h =>
      have hnone : vc.activityView = none := not_not.mp h
      rw [stopAnimating, hnone, Option.map_none, ← hnone]

omit [UIImage Image] in
theorem checkUserSignIn_eq (vc : ProfileViewController Image) (currentUser : Option String) :
    vc.checkUserSignIn currentUser =
      { vc with
        loginSignupBgViewIsHidden := currentUser.isSome
        profileViewwIsHidden := currentUser.isNone } := by
  cases currentUser <;> rfl

omit [UIImage Image] in
theorem loginSignupBgViewIsHidden_updateDetails (vc : ProfileViewController Image)
    (defaults : UserDefaults) (currentUser : Option String) :
    (vc.updateDetails defaults currentUser).loginSignupBgViewIsHidden = currentUser.isSome := by
  rw [updateDetails, checkUserSignIn_eq]

omit [UIImage Image] in
theorem profileImg_updateDetails (vc : ProfileViewController Image) (defaults : UserDefaults)
    (currentUser : Option String) :
    (vc.updateDetails defaults currentUser).profileImg = vc.profileImg := by
  rw [updateDetails, checkUserSignIn_eq]
  rfl

/-- The picture `viewWillAppear` leaves in `profileImg`: the stored one if
    there is one, else the one that was there. -/
def shownImage (vc : ProfileViewController Image) (defaults : UserDefaults) : Option Image :=
  match defaults.data? "profileImage" with
  | none => vc.profileImg
  | some data => UIImage.ofData data.payload

theorem viewWillAppear_eq (vc : ProfileViewController Image) (defaults : UserDefaults)
    (currentUser : Option String) :
    vc.viewWillAppear defaults currentUser =
      ({ vc with profileImg := vc.shownImage defaults }.updateUserDetails
        defaults).checkUserSignIn currentUser := by
  unfold viewWillAppear loadImage shownImage
  cases h : defaults.data? "profileImage" <;> simp

theorem loginSignupBgViewIsHidden_viewWillAppear (vc : ProfileViewController Image)
    (defaults : UserDefaults) (currentUser : Option String) :
    (vc.viewWillAppear defaults currentUser).loginSignupBgViewIsHidden = currentUser.isSome := by
  rw [viewWillAppear_eq, checkUserSignIn_eq]

/-- The handler leaves the mode of the form, the copied number and the
    description label alone. -/
structure KeepsForm (f : ProfileViewController Image → ProfileViewController Image) : Prop where
  mobileNumberStr : ∀ vc, (f vc).mobileNumberStr = vc.mobileNumberStr
  submitBtnTitle : ∀ vc, (f vc).submitBtnTitle = vc.submitBtnTitle
  placeholder : ∀ vc, (f vc).mobileNumberTxt.placeholder = vc.mobileNumberTxt.placeholder
  otpVarificationDescriptionLbl : ∀ vc,
    (f vc).otpVarificationDescriptionLbl = vc.otpVarificationDescriptionLbl

namespace KeepsForm

omit [UIImage Image] in
/-- A form in OTP mode after the handler was in OTP mode before it. -/
theorem of_otpMode {f : ProfileViewController Image → ProfileViewController Image}
    (hf : KeepsForm f) (vc : ProfileViewController Image)
    (h : (f vc).submitBtnTitle = some "Verify OTP") : vc.submitBtnTitle = some "Verify OTP" := by
  rw [hf.submitBtnTitle] at h
  exact h

omit [UIImage Image] in
theorem startAnimating :
    KeepsForm (fun vc : ProfileViewController Image => vc.startAnimating) :=
  ⟨fun _ => rfl, fun _ => rfl, fun _ => rfl, fun _ => rfl⟩

omit [UIImage Image] in
theorem stopAnimating :
    KeepsForm (fun vc : ProfileViewController Image => vc.stopAnimating) :=
  ⟨fun _ => rfl, fun _ => rfl, fun _ => rfl, fun _ => rfl⟩

omit [UIImage Image] in
theorem mobileNumberError :
    KeepsForm (fun vc : ProfileViewController Image => vc.mobileNumberError) :=
  ⟨fun _ => rfl, fun _ => rfl, fun _ => rfl, fun _ => rfl⟩

omit [UIImage Image] in
theorem otpIsNotValid (msgStr : String) :
    KeepsForm (fun vc : ProfileViewController Image => vc.otpIsNotValid msgStr) :=
  ⟨fun _ => rfl, fun _ => rfl, fun _ => rfl, fun _ => rfl⟩

omit [UIImage Image] in
theorem profileImg (img : Option Image) :
    KeepsForm (fun vc : ProfileViewController Image => { vc with profileImg := img }) :=
  ⟨fun _ => rfl, fun _ => rfl, fun _ => rfl, fun _ => rfl⟩

omit [UIImage Image] in
theorem updateDetails (defaults : UserDefaults) (currentUser : Option String) :
    KeepsForm
      (fun vc : ProfileViewController Image => vc.updateDetails defaults currentUser) := by
  constructor <;> intro vc <;>
    rw [ProfileViewController.updateDetails, checkUserSignIn_eq] <;> rfl

theorem viewWillAppear (defaults : UserDefaults) (currentUser : Option String) :
    KeepsForm
      (fun vc : ProfileViewController Image => vc.viewWillAppear defaults currentUser) := by
  constructor <;> intro vc <;> rw [viewWillAppear_eq, checkUserSignIn_eq] <;> rfl

/-- What sign-out does to the controller. -/
theorem signedOut (message : String) (defaults : UserDefaults) (currentUser : Option String) :
    KeepsForm (fun vc : ProfileViewController Image =>
      (vc.showToast message).viewWillAppear defaults currentUser) :=
  have h : KeepsForm (fun vc : ProfileViewController Image =>
      vc.viewWillAppear defaults currentUser) := viewWillAppear defaults currentUser
  ⟨fun vc => h.mobileNumberStr (vc.showToast message),
    fun vc => h.submitBtnTitle (vc.showToast message),
    fun vc => h.placeholder (vc.showToast message),
    fun vc => h.otpVarificationDescriptionLbl (vc.showToast message)⟩

end KeepsForm

omit [UIImage Image] in
theorem mobileNumberStr_clearTextAndUpdateUIToOTP (vc : ProfileViewController Image) :
    vc.clearTextAndUpdateUIToOTP.mobileNumberStr = vc.mobileNumberStr := by
  rw [clearTextAndUpdateUIToOTP, hideActivityIndicator_eq]
  rfl

omit [UIImage Image] in
theorem otpLabel_clearTextAndUpdateUIToOTP (vc : ProfileViewController Image) :
    vc.clearTextAndUpdateUIToOTP.otpVarificationDescriptionLbl.text =
      some ("Enter OTP sent to " ++ vc.mobileNumberStr) := by
  rw [clearTextAndUpdateUIToOTP, hideActivityIndicator_eq]
  rfl

/-- The handler copies the text of the field as it is before the handler runs,
    unless the form is in OTP mode, and leaves the mode and the description
    label alone. -/
structure Recopies (f : ProfileViewController Image → ProfileViewController Image) : Prop where
  mobileNumberStr : ∀ vc, (f vc).mobileNumberStr =
    if vc.submitBtnTitle = some "Verify OTP" then vc.mobileNumberStr
    else vc.mobileNumberTxt.text.getD ""
  submitBtnTitle : ∀ vc, (f vc).submitBtnTitle = vc.submitBtnTitle
  placeholder : ∀ vc, (f vc).mobileNumberTxt.placeholder = vc.mobileNumberTxt.placeholder
  otpVarificationDescriptionLbl : ∀ vc,
    (f vc).otpVarificationDescriptionLbl = vc.otpVarificationDescriptionLbl

omit [UIImage Image] in
theorem Recopies.of_otpMode {f : ProfileViewController Image → ProfileViewController Image}
    (hf : Recopies f) (vc : ProfileViewController Image)
    (h : (f vc).submitBtnTitle = some "Verify OTP") : vc.submitBtnTitle = some "Verify OTP" := by
  rw [hf.submitBtnTitle] at h
  exact h

omit [UIImage Image] in
/-- An edit is seen one step late: what is copied is the text it replaces. -/
theorem Recopies.edit (range : NSRange) (string : String) :
    Recopies (fun vc : ProfileViewController Image => vc.edit range string) := by
  constructor <;> intro vc <;>
    rw [ProfileViewController.edit, shouldChangeCharactersIn, updateMobileNumbString_eq]
  -- the placeholder: the edit replaces the text only
  rfl

omit [UIImage Image] in
theorem Recopies.textFieldDidEndEditing :
    Recopies (fun vc : ProfileViewController Image => vc.textFieldDidEndEditing) := by
  constructor <;> intro vc <;>
    rw [ProfileViewController.textFieldDidEndEditing, updateMobileNumbString_eq]

/-- The handler leaves the profile's labels, its picture and the choice
    between login form and profile alone. -/
structure KeepsProfile (f : ProfileViewController Image → ProfileViewController Image) :
    Prop where
  loginSignupBgViewIsHidden : ∀ vc,
    (f vc).loginSignupBgViewIsHidden = vc.loginSignupBgViewIsHidden
  profileNameLbl : ∀ vc, (f vc).profileNameLbl = vc.profileNameLbl
  profileEmailLbl : ∀ vc, (f vc).profileEmailLbl = vc.profileEmailLbl
  profilePhoneNumberLbl : ∀ vc, (f vc).profilePhoneNumberLbl = vc.profilePhoneNumberLbl
  profileImg : ∀ vc, (f vc).profileImg = vc.profileImg

namespace KeepsProfile

omit [UIImage Image] in
theorem startAnimating :
    KeepsProfile (fun vc : ProfileViewController Image => vc.startAnimating) :=
  ⟨fun _ => rfl, fun _ => rfl, fun _ => rfl, fun _ => rfl, fun _ => rfl⟩

omit [UIImage Image] in
theorem stopAnimating :
    KeepsProfile (fun vc : ProfileViewController Image => vc.stopAnimating) :=
  ⟨fun _ => rfl, fun _ => rfl, fun _ => rfl, fun _ => rfl, fun _ => rfl⟩

omit [UIImage Image] in
theorem mobileNumberError :
    KeepsProfile (fun vc : ProfileViewController Image => vc.mobileNumberError) :=
  ⟨fun _ => rfl, fun _ => rfl, fun _ => rfl, fun _ => rfl, fun _ => rfl⟩

omit [UIImage Image] in
theorem otpIsNotValid (msgStr : String) :
    KeepsProfile (fun vc : ProfileViewController Image => vc.otpIsNotValid msgStr) :=
  ⟨fun _ => rfl, fun _ => rfl, fun _ => rfl, fun _ => rfl, fun _ => rfl⟩

omit [UIImage Image] in
theorem closeOtpScreen :
    KeepsProfile (fun vc : ProfileViewController Image => vc.closeOtpScreen) :=
  ⟨fun _ => rfl, fun _ => rfl, fun _ => rfl, fun _ => rfl, fun _ => rfl⟩

omit [UIImage Image] in
theorem clearTextAndUpdateUIToOTP :
    KeepsProfile (fun vc : ProfileViewController Image => vc.clearTextAndUpdateUIToOTP) := by
  constructor <;> intro vc <;>
    rw [ProfileViewController.clearTextAndUpdateUIToOTP, hideActivityIndicator_eq] <;> rfl

omit [UIImage Image] in
theorem textFieldDidEndEditing :
    KeepsProfile (fun vc : ProfileViewController Image => vc.textFieldDidEndEditing) := by
  constructor <;> intro vc <;>
    rw [ProfileViewController.textFieldDidEndEditing, updateMobileNumbString_eq]

omit [UIImage Image] in
theorem edit (range : NSRange) (string : String) :
    KeepsProfile (fun vc : ProfileViewController Image => vc.edit range string) := by
  constructor <;> intro vc <;>
    rw [ProfileViewController.edit, shouldChangeCharactersIn, updateMobileNumbString_eq]

end KeepsProfile

/-- The handler neither moves the activity indicator nor shows a toast. -/
structure KeepsNotices (f : ProfileViewController Image → ProfileViewController Image) :
    Prop where
  activityView : ∀ vc, (f vc).activityView = vc.activityView
  toasts : ∀ vc, (f vc).toasts = vc.toasts

namespace KeepsNotices

omit [UIImage Image] in
theorem edit (range : NSRange) (string : String) :
    KeepsNotices (fun vc : ProfileViewController Image => vc.edit range string) := by
  constructor <;> intro vc <;>
    rw [ProfileViewController.edit, shouldChangeCharactersIn, updateMobileNumbString_eq]

omit [UIImage Image] in
theorem textFieldDidEndEditing :
    KeepsNotices (fun vc : ProfileViewController Image => vc.textFieldDidEndEditing) := by
  constructor <;> intro vc <;>
    rw [ProfileViewController.textFieldDidEndEditing, updateMobileNumbString_eq]

omit [UIImage Image] in
theorem updateDetails (defaults : UserDefaults) (currentUser : Option String) :
    KeepsNotices
      (fun vc : ProfileViewController Image => vc.updateDetails defaults currentUser) := by
  constructor <;> intro vc <;>
    rw [ProfileViewController.updateDetails, checkUserSignIn_eq] <;> rfl

theorem viewWillAppear (defaults : UserDefaults) (currentUser : Option String) :
    KeepsNotices
      (fun vc : ProfileViewController Image => vc.viewWillAppear defaults currentUser) := by
  constructor <;> intro vc <;> rw [viewWillAppear_eq, checkUserSignIn_eq] <;> rfl

end KeepsNotices

-- ============================================================================
-- What the controller shows of the store
-- ============================================================================

/-- The labels show the stored names, e-mail and number. -/
def ShowsDetails (vc : ProfileViewController Image) (d : UserDefaults) : Prop :=
  vc.profileNameLbl.text =
      some ((d.string? "firstName").getD "" ++ " " ++ (d.string? "lastName").getD "") ∧
    vc.profileEmailLbl.text = d.string? "emmailId" ∧
    vc.profilePhoneNumberLbl.text = d.string? "mobileNumber"

omit [UIImage Image] in
theorem ShowsDetails.of_eq {vc : ProfileViewController Image} {d d' : UserDefaults}
    (h : vc.ShowsDetails d) (hfirst : d' "firstName" = d "firstName")
    (hlast : d' "lastName" = d "lastName") (hemail : d' "emmailId" = d "emmailId")
    (hmobile : d' "mobileNumber" = d "mobileNumber") : vc.ShowsDetails d' := by
  rw [ShowsDetails, UserDefaults.string?_of_eq hfirst, UserDefaults.string?_of_eq hlast,
    UserDefaults.string?_of_eq hemail, UserDefaults.string?_of_eq hmobile]
  exact h

omit [UIImage Image] in
theorem showsDetails_updateDetails (vc : ProfileViewController Image) (d : UserDefaults)
    (currentUser : Option String) : (vc.updateDetails d currentUser).ShowsDetails d := by
  rw [updateDetails, checkUserSignIn_eq]
  exact ⟨rfl, rfl, rfl⟩

/-- The picture is the placeholder when none is stored, else the stored one, as
    it was picked or as it is decoded from the JPEG data. -/
def ShowsPicture (vc : ProfileViewController Image) (d : UserDefaults) : Prop :=
  match d.data? "profileImage" with
  | none => vc.profileImg = some UIImage.personFill
  | some data => vc.profileImg = UIImage.ofData data.payload ∨
      ∃ img, vc.profileImg = some img ∧ UIImage.jpegData img = some data.payload

theorem ShowsPicture.of_eq {vc : ProfileViewController Image} {d d' : UserDefaults}
    (h : vc.ShowsPicture d) (hkey : d' "profileImage" = d "profileImage") :
    vc.ShowsPicture d' := by
  rw [ShowsPicture, UserDefaults.data?_of_eq hkey]
  exact h

theorem showsDetails_viewWillAppear (vc : ProfileViewController Image) (d : UserDefaults)
    (currentUser : Option String) : (vc.viewWillAppear d currentUser).ShowsDetails d := by
  rw [viewWillAppear_eq, checkUserSignIn_eq]
  exact ⟨rfl, rfl, rfl⟩

/-- `viewWillAppear` loads a stored picture and leaves the old one otherwise. -/
theorem showsPicture_viewWillAppear {vc : ProfileViewController Image} {d : UserDefaults}
    (currentUser : Option String)
    (hplaceholder : d.data? "profileImage" = none → vc.profileImg = some UIImage.personFill) :
    (vc.viewWillAppear d currentUser).ShowsPicture d := by
  rw [viewWillAppear_eq, checkUserSignIn_eq]
  simp only [ShowsPicture, updateUserDetails, shownImage]
  cases hdata : d.data? "profileImage" with
  | none => exact hplaceholder hdata
  | some data => exact .inl rfl

-- ============================================================================
-- The two modes of the form
-- ============================================================================

/-- The placeholder and the button title name the same mode. -/
def FormMode (vc : ProfileViewController Image) : Prop :=
  (vc.mobileNumberTxt.placeholder = some "Enter Mobile Number" ∧
    vc.submitBtnTitle = some "Get OTP") ∨
  (vc.mobileNumberTxt.placeholder = some "Enter Otp" ∧
    vc.submitBtnTitle = some "Verify OTP")

namespace FormMode

variable {vc : ProfileViewController Image}

omit [UIImage Image] in
/-- The test of `submitBtnAction` and the test of `updateMobileNumbString`
    agree. -/
theorem placeholder_iff_title (h : vc.FormMode) :
    vc.mobileNumberTxt.placeholder ≠ some "Enter Mobile Number" ↔
      vc.submitBtnTitle = some "Verify OTP" := by
  rcases h with ⟨hp, ht⟩ | ⟨hp, ht⟩ <;> simp [hp, ht]

omit [UIImage Image] in
theorem showToast (h : vc.FormMode) (message : String) : (vc.showToast message).FormMode := h

omit [UIImage Image] in
theorem updateMobileNumbString (h : vc.FormMode) : vc.updateMobileNumbString.FormMode := by
  rw [updateMobileNumbString_eq]
  exact h

omit [UIImage Image] in
theorem edit (h : vc.FormMode) (range : NSRange) (string : String) :
    (vc.edit range string).FormMode := by
  have hs : vc.shouldChangeCharactersIn.FormMode := by
    refine FormMode.updateMobileNumbString ?_
    exact h
  exact hs

omit [UIImage Image] in
theorem updateDetails (h : vc.FormMode) {defaults : UserDefaults}
    {currentUser : Option String} : (vc.updateDetails defaults currentUser).FormMode := by
  rw [ProfileViewController.updateDetails, checkUserSignIn_eq]
  exact h

theorem viewWillAppear (h : vc.FormMode) {defaults : UserDefaults}
    {currentUser : Option String} : (vc.viewWillAppear defaults currentUser).FormMode := by
  rw [viewWillAppear_eq, checkUserSignIn_eq]
  exact h

theorem viewDidLoad : (ProfileViewController.viewDidLoad : ProfileViewController Image).FormMode :=
  .inl ⟨rfl, rfl⟩

end FormMode

end ProfileViewController

end Spark
