/-
  Spark.App.Model

  The running app: the persistent stores, `AuthManager.shared` with its
  outstanding calls, the main queue, every `ProfileViewController` created
  since launch, the side menu's header and the registration sheet.

  One step is one thing that happens on the main thread: a handler runs, a
  reply of Firebase arrives, the block at the head of the main queue runs, or
  the app is terminated and launched again.  Replies arrive in any order;
  blocks run in the order they were queued.

  What is relied on outside the source:
    * a successful `verifyPhoneNumber(n)` returns an ID bound to `n`, different
      from every other call's; a successful `signIn` with the credential built
      from an ID signs in the number bound to it, and the session persists;
    * taps and edits reach the controller on screen only, the delegate is asked
      before an edit is applied, and `setTitle` is reflected by `titleLabel`;
    * a controller that has left the window cannot present, and a second sheet
      cannot be presented over the first.
  A replaced `ProfileViewController` is kept alive by its navigation
  controller, which stays a child of `MainViewController`, so the closures'
  `[weak self]` is never `nil`.
-/

import Spark.AuthManager
import Spark.Controllers.Profile
import Spark.Controllers.SideMenu
import Spark.Controllers.SignUp

namespace Spark

open Spark.Lib

-- ============================================================================
-- State
-- ============================================================================

/-- A verification ID: the call it was returned for and the number it is
    bound to. -/
structure VerificationID where
  serial : Nat
  phoneNumber : String
  deriving DecidableEq, Repr

/-- Firebase's persistent session, and the IDs a successful `signIn` has
    consumed. -/
structure FirebaseAuth where
  currentUser : Option String := none
  consumed : List VerificationID := []

/-- The closures passed to `AuthManager.startAuth`, with the number of the
    controller they capture. -/
inductive StartAuthCompletion
  | sendSMSCode (i : Nat)
  | resendOtpBtnAction (i : Nat)
  deriving DecidableEq, Repr

def StartAuthCompletion.controller : StartAuthCompletion → Nat
  | .sendSMSCode i => i
  | .resendOtpBtnAction i => i

/-- A `signIn` call in flight and the controller whose tap made it. -/
structure SignInCall where
  credential : PhoneAuthCredential VerificationID
  controller : Nat

/-- The blocks queued by `DispatchQueue.main.async`. -/
inductive Block
  | clearTextAndUpdateUIToOTP (i : Nat)
  | presentSignupVC (i : Nat)
  deriving DecidableEq, Repr

def Block.controller : Block → Nat
  | .clearTextAndUpdateUIToOTP i => i
  | .presentSignupVC i => i

/-- The root screen of the content view (the subview tagged 99). -/
inductive Screen
  | home
  | profile (i : Nat)
  | underConstruction
  deriving DecidableEq, Repr

structure App (Image : Type) where
  defaults : UserDefaults
  firebase : FirebaseAuth
  auth : PhoneAuth VerificationID StartAuthCompletion
  signIns : Calls SignInCall
  mainQueue : List Block
  profiles : Nat → ProfileViewController Image
  profileCount : Nat
  content : Screen
  sideMenu : SideMenuViewController
  /-- The registration sheet on screen. -/
  signUp : Option SignUpViewController

/-- `UserSignIn.isUserSignedIn`. -/
def isUserSignedIn (defaults : UserDefaults) : Bool :=
  (defaults.string? "mobileNumber").isSome

namespace App

variable {Image : Type}

def updateProfile (s : App Image) (i : Nat)
    (f : ProfileViewController Image → ProfileViewController Image) : App Image :=
  { s with profiles := Function.update s.profiles i (f (s.profiles i)) }

/-- `DispatchQueue.main.async`. -/
def async (s : App Image) (block : Block) : App Image :=
  { s with mainQueue := s.mainQueue ++ [block] }

/-- The `ProfileViewController` on screen. -/
def onScreen (s : App Image) : Option Nat :=
  match s.content with
  | .profile i => some i
  | _ => none

-- ============================================================================
-- Phone sign-in
-- ============================================================================

/-- The completion passed to `startAuth` is called. -/
def startAuthCompletion (s : App Image) : StartAuthCompletion → Bool → App Image
  | .sendSMSCode i, success =>
      if success then s.async (.clearTextAndUpdateUIToOTP i)
      else s.updateProfile i fun vc => vc.stopAnimating
  | .resendOtpBtnAction i, success =>
      if success then s.async (.clearTextAndUpdateUIToOTP i) else s

def startAuth (s : App Image) (phoneNumber : String) (completion : StartAuthCompletion) :
    App Image :=
  { s with auth := s.auth.startAuth phoneNumber completion }

def sendSMSCode (s : App Image) (i : Nat) : App Image :=
  let s := s.updateProfile i fun vc => vc.startAnimating
  s.startAuth ((s.profiles i).mobileNumberTxt.text.getD "") (.sendSMSCode i)

def resendOtpBtnAction (s : App Image) (i : Nat) : App Image :=
  s.startAuth (s.profiles i).mobileNumberStr (.resendOtpBtnAction i)

/-- The completion `submitBtnAction` passes to `verifyCode` is called. -/
def verifyCodeCompletion (s : App Image) (i : Nat) (success : Bool) : App Image :=
  if success then s.async (.presentSignupVC i)
  else s.updateProfile i fun vc => vc.otpIsNotValid "OTP is not valid"

def verifyCode (s : App Image) (i : Nat) (smsCode : String) : App Image :=
  match s.auth.shared.verifyCode smsCode with
  | .completion success => s.verifyCodeCompletion i success
  | .signIn credential => { s with signIns := s.signIns.issue ⟨credential, i⟩ }

def submitBtnAction (s : App Image) (i : Nat) : App Image :=
  let vc := s.profiles i
  if vc.mobileNumberTxt.placeholder = some "Enter Mobile Number" then
    if (vc.mobileNumberTxt.text.map String.length).getD 0 > 0 then s.sendSMSCode i
    else s.updateProfile i fun vc => vc.mobileNumberError
  else
    match vc.mobileNumberTxt.text with
    | some text =>
        if text.isEmpty then s.updateProfile i fun vc => vc.otpIsNotValid "Enter OTP sent"
        else s.verifyCode i text
    | none => s.updateProfile i fun vc => vc.otpIsNotValid "Enter OTP sent"

/-- Firebase answers the `verifyPhoneNumber` call `serial`: with an ID bound to
    the call's number, or with an error. -/
def verifyPhoneNumberReply (s : App Image) (serial : Nat) (error : Option NSError) :
    Option (App Image) :=
  (s.auth.calls.find? serial).bind fun call =>
    let verificationId := if error = none then some ⟨serial, call.1⟩ else none
    (s.auth.reply serial verificationId error).map fun r =>
      { s with auth := r.2.2 }.startAuthCompletion r.1 r.2.1

/-- Firebase answers the `signIn` call `serial`. -/
def signInReply (s : App Image) (serial : Nat) (error : Option NSError) :
    Option (App Image) :=
  (s.signIns.answer serial).map fun r =>
    let verificationId := r.1.credential.verificationId
    let result := if error = none then some verificationId.phoneNumber else none
    let firebase := match result with
      | none => s.firebase
      | some phoneNumber =>
          { currentUser := some phoneNumber, consumed := verificationId :: s.firebase.consumed }
    { s with signIns := r.2, firebase }.verifyCodeCompletion r.1.controller
      (AuthManager.signInCallback result error)

-- ============================================================================
-- Registration, sign-out, pictures
-- ============================================================================

/-- `presentSignupVC`; UIKit ignores `present` on a controller outside the
    window and while a sheet is up. -/
def presentSignupVC (s : App Image) (i : Nat) : App Image :=
  if s.content = .profile i ∧ s.signUp = none then
    { s with
      signUp := some (SignUpViewController.viewDidLoad i (s.profiles i).mobileNumberStr) }
  else s

/-- `delegate?.updateDetails()`. -/
def updateDetails (s : App Image) : Option Nat → App Image
  | none => s
  | some i => s.updateProfile i fun vc => vc.updateDetails s.defaults s.firebase.currentUser

/-- `signUpBtnAction` of the sheet on screen: its writes, then either the
    sheet with an error or `delegate?.updateDetails()` and `dismiss`. -/
def signUpBtnAction (s : App Image) (sheet : SignUpViewController) : App Image :=
  let tap := sheet.signUpBtnAction
  let s := { s with defaults := s.defaults.perform tap.writes }
  if tap.submitted then { s.updateDetails sheet.delegate with signUp := none }
  else { s with signUp := some tap.sheet }

def runBlock (s : App Image) : Block → App Image
  | .clearTextAndUpdateUIToOTP i => s.updateProfile i fun vc => vc.clearTextAndUpdateUIToOTP
  | .presentSignupVC i => s.presentSignupVC i

/-- The stores after `signOutBtnAction`: four keys are removed, then
    `Auth.auth().signOut()` ends the session or throws `error`. -/
def signedOut (s : App Image) (error : Option NSError) : App Image :=
  { s with
    defaults := (((s.defaults.removeObject "profileImage").removeObject "userName").removeObject
      "emmailId").removeObject "mobileNumber"
    firebase := match error with
      | none => { s.firebase with currentUser := none }
      | some _ => s.firebase }

variable [UIImage Image]

def signOutBtnAction (s : App Image) (i : Nat) (error : Option NSError) : App Image :=
  let s := s.signedOut error
  s.updateProfile i fun vc =>
    (vc.showToast "Signed out successfully").viewWillAppear s.defaults s.firebase.currentUser

/-- `imagePickerController(_:didFinishPickingMediaWithInfo:)` with a picture. -/
def imagePicked (s : App Image) (i : Nat) (img : Image) : App Image :=
  { s with defaults := s.defaults.perform (ProfileViewController.saveImage img) }.updateProfile i
    fun vc => { vc with profileImg := some img }

-- ============================================================================
-- Screens and launch
-- ============================================================================

/-- A screen of the storyboard replaces the content view; a new
    `ProfileViewController` loads and appears. -/
def showViewController (s : App Image) : StoryboardID → App Image
  | .homeNavID => { s with content := .home }
  | .underConstructionNavID => { s with content := .underConstruction }
  | .profileNavID =>
      { s with
        content := .profile s.profileCount
        profileCount := s.profileCount + 1
        profiles := Function.update s.profiles s.profileCount
          (ProfileViewController.viewDidLoad.viewWillAppear s.defaults s.firebase.currentUser) }

def selectedCell (s : App Image) (row : Int) : App Image :=
  match storyboardId? row with
  | none => s
  | some storyboardId => s.showViewController storyboardId

/-- The app just after launch: nothing in flight, the side menu loaded, no
    screen shown.  Serial numbers go on from earlier launches. -/
def loaded (defaults : UserDefaults) (firebase : FirebaseAuth) (issued signInsIssued : Nat) :
    App Image where
  defaults := defaults
  firebase := firebase
  auth := { shared := {}, calls := { issued } }
  signIns := { issued := signInsIssued }
  mainQueue := []
  profiles := fun _ => .viewDidLoad
  profileCount := 0
  content := .home
  sideMenu := .viewDidLoad defaults
  signUp := none

/-- The app is launched: `MainViewController.viewDidLoad` shows Home or Profile. -/
def launch (defaults : UserDefaults) (firebase : FirebaseAuth) (issued signInsIssued : Nat) :
    App Image :=
  (loaded defaults firebase issued signInsIssued).showViewController
    (if isUserSignedIn defaults then .homeNavID else .profileNavID)

/-- The first launch after a fresh install. -/
def install : App Image := launch .empty {} 0 0

end App

-- ============================================================================
-- Steps
-- ============================================================================

/-- What can happen.  Taps and edits of the login form and the profile are of
    the controller on screen. -/
inductive Event (Image : Type)
  | edit (range : NSRange) (string : String)
  | textFieldDidEndEditing (i : Nat)
  | submitBtnAction
  | resendOtpBtnAction
  | closeOtpScreen
  | signOutBtnAction (error : Option NSError)
  | imagePicked (img : Image)
  /-- The sheet's submit button, with the texts its three fields hold. -/
  | signUpBtnAction (firstName lastName email : Option String)
  | selectedCell (row : Int)
  | verifyPhoneNumberReply (serial : Nat) (error : Option NSError)
  | signInReply (serial : Nat) (error : Option NSError)
  | runMainQueue
  | relaunch

namespace App

variable {Image : Type} [UIImage Image]

def step (s : App Image) : Event Image → Option (App Image)
  | .edit range string => s.onScreen.map fun i => s.updateProfile i fun vc => vc.edit range string
  | .textFieldDidEndEditing i =>
      if i < s.profileCount then some (s.updateProfile i fun vc => vc.textFieldDidEndEditing)
      else none
  | .submitBtnAction => s.onScreen.map s.submitBtnAction
  | .resendOtpBtnAction => s.onScreen.map s.resendOtpBtnAction
  | .closeOtpScreen => s.onScreen.map fun i => s.updateProfile i fun vc => vc.closeOtpScreen
  | .signOutBtnAction error => s.onScreen.map fun i => s.signOutBtnAction i error
  | .imagePicked img => s.onScreen.map fun i => s.imagePicked i img
  | .signUpBtnAction firstName lastName email =>
      s.signUp.map fun sheet => s.signUpBtnAction (sheet.filled firstName lastName email)
  | .selectedCell row => some (s.selectedCell row)
  | .verifyPhoneNumberReply serial error => s.verifyPhoneNumberReply serial error
  | .signInReply serial error => s.signInReply serial error
  | .runMainQueue =>
      match s.mainQueue with
      | [] => none
      | block :: rest => some ({ s with mainQueue := rest }.runBlock block)
  | .relaunch =>
      some (launch s.defaults s.firebase s.auth.calls.issued s.signIns.issued)

end App

end Spark
