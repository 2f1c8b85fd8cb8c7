/-
  Spark.App.Components

  The app runs its components.

  `PhoneAuth` and `MainContent` are models of `AuthManager.shared` and of the
  root view controller on their own.  Within one launch the authentication
  state of the app goes through a history of the first (`run_auth`), and the
  screen shown is the one the second has attached (`run_content`), so what is
  proved of them holds in the app.
-/

import Spark.App.Step
import Spark.Controllers.MainContent

namespace Spark

open Spark.Lib

/-- The storyboard screen of the content view. -/
def Screen.storyboardId : Screen → StoryboardID
  | .home => .homeNavID
  | .profile _ => .profileNavID
  | .underConstruction => .underConstructionNavID

namespace App

variable {Image : Type} [UIImage Image]

/-- The event is not the termination of the app. -/
def Stays (_ : App Image) : Event Image → Prop
  | .relaunch => False
  | _ => True

-- ============================================================================
-- Authentication
-- ============================================================================

omit [UIImage Image] in
theorem auth_startAuthCompletion (s : App Image) (k : StartAuthCompletion) (success : Bool) :
    (s.startAuthCompletion k success).auth = s.auth := by
  cases k <;> cases success <;> rfl

omit [UIImage Image] in
/-- A reply to the app is a reply to the manager. -/
theorem verifyPhoneNumberReply_auth {s t : App Image} {serial : Nat} {error : Option NSError}
    (h : s.verifyPhoneNumberReply serial error = some t) :
    ∃ ds, run PhoneAuth.step s.auth ds = some t.auth := by
  obtain ⟨call, -, h⟩ := Option.bind_eq_some_iff.mp h
  obtain ⟨⟨k, ok, auth⟩, hreply, rfl⟩ := Option.map_eq_some_iff.mp h
  refine ⟨[.reply serial (if error = none then some ⟨serial, call.1⟩ else none) error], ?_⟩
  rw [run_cons, PhoneAuth.step, hreply, auth_startAuthCompletion]
  rfl

/-- Every step within a launch is a history of `AuthManager.shared`: a call,
    a reply, or nothing. -/
theorem step_auth {s t : App Image} {e : Event Image} (hstays : s.Stays e)
    (h : s.step e = some t) : ∃ ds, run PhoneAuth.step s.auth ds = some t.auth := by
  have hnothing : t.auth = s.auth → ∃ ds, run PhoneAuth.step s.auth ds = some t.auth :=
    fun hauth => ⟨[], congrArg some hauth.symm⟩
  cases step_cases h with
  | sendSMSCode hi hmode hlen => exact ⟨[.startAuth _ _], rfl⟩
  | resendOtpBtnAction hi => exact ⟨[.startAuth _ _], rfl⟩
  | verifyPhoneNumberFailed => exact verifyPhoneNumberReply_auth h
  | verifyPhoneNumberSucceeded => exact verifyPhoneNumberReply_auth h
  | signUpSubmitted hsheet htap => exact hnothing (auth_updateDetails _ _)
  | @rowShown row storyboardId hrow => cases storyboardId <;> exact hnothing rfl
  | relaunch => exact hstays.elim
  | _ => exact hnothing rfl

/-- **The app authenticates through `AuthManager.shared`.**  Whatever happens
    within a launch, the manager goes through one of its histories. -/
theorem run_auth (es : List (Event Image)) (s t : App Image) (hstays : Along step Stays s es)
    (h : run step s es = some t) : ∃ ds, run PhoneAuth.step s.auth ds = some t.auth :=
  run_simulated (fun _ _ _ => step_auth) es s t hstays h

-- ============================================================================
-- The content view
-- ============================================================================

/-- The content view attached to the root view controller is the screen the
    app shows. -/
def ShowsContent (s : App Image) (m : MainContent) : Prop :=
  ∃ replaced serial, m.Attached replaced (.screen serial s.content.storyboardId)

/-- What an event does to the root view controller. -/
def nextContent (m : MainContent) : Event Image → MainContent
  | .selectedCell row => m.selectedCell row
  | _ => m

theorem content_showViewController (s : App Image) (storyboardId : StoryboardID) :
    (s.showViewController storyboardId).content.storyboardId = storyboardId := by
  cases storyboardId <;> rfl

theorem showsContent_launch (defaults : UserDefaults) (firebase : FirebaseAuth)
    (issued signInsIssued : Nat) :
    (launch defaults firebase issued signInsIssued : App Image).ShowsContent
      (.viewDidLoad (isUserSignedIn defaults)) := by
  rw [ShowsContent, launch, content_showViewController]
  cases isUserSignedIn defaults with
  | false => exact ⟨[], 0, rfl, rfl⟩
  | true => exact ⟨[], 0, rfl, rfl⟩

/-- Only a tap on a row of the menu changes the screen. -/
theorem step_content {s t : App Image} {e : Event Image} {m : MainContent}
    (hstays : s.Stays e) (hm : s.ShowsContent m) (h : s.step e = some t) :
    t.ShowsContent (nextContent m e) := by
  have hsame : t.content = s.content → t.ShowsContent m := by
    intro hcontent
    rw [ShowsContent, hcontent]
    exact hm
  cases step_cases h with
  | signUpSubmitted hsheet htap => exact hsame (content_updateDetails _ _)
  | rowIgnored hrow =>
      rw [nextContent, MainContent.selectedCell, hrow]
      exact hm
  | rowShown hrow =>
      obtain ⟨replaced, serial, hattached⟩ := hm
      rw [nextContent, MainContent.selectedCell, hrow, ShowsContent, content_showViewController]
      exact ⟨_, _, hattached.showViewController _⟩
  | @verifyPhoneNumberFailed serial error n k auth herror hcall hshared hissued hcalls =>
      cases k <;> exact hsame rfl
  | relaunch => exact hstays.elim
  | _ => exact hsame rfl

/-- **The app shows what is attached.**  Within a launch the screen shown is
    the one that `MainViewController` has attached last. -/
theorem run_content (es : List (Event Image)) (s t : App Image) (m : MainContent)
    (hstays : Along step Stays s es) (hm : s.ShowsContent m) (h : run step s es = some t) :
    t.ShowsContent (es.foldl nextContent m) :=
  run_refines (R := ShowsContent) (fun _ _ _ _ => step_content) es s t m hstays hm h

end App

end Spark
