/-
  Spark.Controllers.SideMenu

  `SideMenuViewController`: the header labels, filled once by `viewDidLoad`,
  and the screen each row of the menu stands for.
-/

import Spark.Platform.UIKit

namespace Spark

structure SideMenuViewController where
  userNameLbl : UILabel
  emailLbl : UILabel
  deriving DecidableEq, Repr

/-- The header as `viewDidLoad` fills it. -/
def SideMenuViewController.viewDidLoad (defaults : UserDefaults) : SideMenuViewController where
  userNameLbl := { text := some ((defaults.string? "firstName").getD "") }
  emailLbl := { text := some ((defaults.string? "emmailId").getD "") }

/-- The header shows the stored first name and e-mail, empty when absent. -/
def SideMenuViewController.ShowsDetails (vc : SideMenuViewController) (d : UserDefaults) : Prop :=
  vc.userNameLbl.text = some ((d.string? "firstName").getD "") ∧
    vc.emailLbl.text = some ((d.string? "emmailId").getD "")

theorem SideMenuViewController.ShowsDetails.of_eq {vc : SideMenuViewController}
    {d d' : UserDefaults} (h : vc.ShowsDetails d) (hfirst : d' "firstName" = d "firstName")
    (hemail : d' "emmailId" = d "emmailId") : vc.ShowsDetails d' := by
  rw [ShowsDetails, UserDefaults.string?_of_eq hfirst, UserDefaults.string?_of_eq hemail]
  exact h

theorem SideMenuViewController.showsDetails_viewDidLoad (d : UserDefaults) :
    (SideMenuViewController.viewDidLoad d).ShowsDetails d := ⟨rfl, rfl⟩

/-- The navigation controllers `MainViewController` shows. -/
inductive StoryboardID
  | homeNavID
  | profileNavID
  | underConstructionNavID
  deriving DecidableEq, Repr

/-- The `switch` of `MainViewController.selectedCell(_:)`. -/
def storyboardId? (row : Int) : Option StoryboardID :=
  match row with
  | 0 => some .homeNavID
  | 1 => some .profileNavID
  | 2 => some .underConstructionNavID
  | 3 => some .underConstructionNavID
  | 4 => some .underConstructionNavID
  | _ => none

/-- `selectedCell` shows a screen exactly for the five rows of the menu. -/
theorem storyboardId?_isSome_iff (row : Int) :
    (storyboardId? row).isSome ↔ 0 ≤ row ∧ row ≤ 4 := by
  constructor
  · intro h
    unfold storyboardId? at h
    split at h <;> first | omega | cases h
  · rintro ⟨h0, h4⟩
    obtain rfl | rfl | rfl | rfl | rfl : row = 0 ∨ row = 1 ∨ row = 2 ∨ row = 3 ∨ row = 4 := by
      omega
    all_goals rfl

theorem storyboardId?_eq_profile_iff (row : Int) :
    storyboardId? row = some .profileNavID ↔ row = 1 := by
  constructor
  · intro h
    unfold storyboardId? at h
    split at h <;> first | rfl | cases h
  · rintro rfl
    rfl

end Spark
