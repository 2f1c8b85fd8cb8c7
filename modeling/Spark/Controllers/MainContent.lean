/-
  Spark.Controllers.MainContent

  What is attached to `MainViewController`: the subviews of its root view, in
  z-order and with their tags, and its child view controllers.

  `showViewController` removes the views tagged 99 and attaches a new screen.
  Removing a view leaves its controller among the children, so the views are
  always the content, the shadow and the menu, while every screen ever shown
  stays a child (`attached`).
-/

import Mathlib.Data.List.Basic
import Spark.Controllers.SideMenu

namespace Spark

-- ============================================================================
-- Views and controllers
-- ============================================================================

/-- A child of `MainViewController`: the side menu, or a screen of the
    storyboard, numbered in order of instantiation. -/
inductive ChildController
  | sideMenu
  | screen (serial : Nat) (storyboardId : StoryboardID)
  deriving DecidableEq, Repr

/-- What a subview of the root view shows. -/
inductive ViewOwner
  | sideMenuShadowView
  | controller (vc : ChildController)
  deriving DecidableEq, Repr

structure UIView where
  owner : ViewOwner
  tag : Int := 0
  deriving DecidableEq, Repr

def sideMenuShadowView : UIView := { owner := .sideMenuShadowView }

/-- The root view of a controller, untagged until `showViewController` tags it. -/
def ChildController.view (vc : ChildController) : UIView := { owner := .controller vc }

/-- `insertSubview(_:at:)`: at the index, or last when it exceeds the count. -/
def insertSubview (subviews : List UIView) (view : UIView) (index : Nat) : List UIView :=
  subviews.take index ++ view :: subviews.drop index

/-- `view.removeFromSuperview()`. -/
def removeFromSuperview (subviews : List UIView) (view : UIView) : List UIView :=
  subviews.filter (· ≠ view)

/-- The subviews and children of `MainViewController`; `created` counts the
    screens instantiated. -/
structure MainContent where
  subviews : List UIView := []
  children : List ChildController := []
  created : Nat := 0
  deriving DecidableEq, Repr

namespace MainContent

/-- `private var revealSideMenuOnTop`, which nothing assigns. -/
def revealSideMenuOnTop : Bool := true

def addChild (m : MainContent) (vc : ChildController) : MainContent :=
  { m with children := m.children ++ [vc] }

/-- The loop over `view.subviews`, which is evaluated once. -/
def removePrevious (subviews : List UIView) : List UIView :=
  subviews.foldl
    (fun views subview =>
      if subview.tag = 99 then removeFromSuperview views subview else views)
    subviews

def showViewController (m : MainContent) (storyboardId : StoryboardID) : MainContent :=
  let subviews := removePrevious m.subviews
  let vc := ChildController.screen m.created storyboardId
  let view := { vc.view with tag := 99 }
  let subviews := insertSubview subviews view (if revealSideMenuOnTop then 0 else 1)
  { m with subviews, created := m.created + 1 }.addChild vc

def viewDidLoad (isUserSignedIn : Bool) : MainContent :=
  let m : MainContent := {}
  let m :=
    if revealSideMenuOnTop then { m with subviews := insertSubview m.subviews sideMenuShadowView 1 }
    else m
  let vc := ChildController.sideMenu
  let m :=
    { m with subviews := insertSubview m.subviews vc.view (if revealSideMenuOnTop then 2 else 0) }
  let m := m.addChild vc
  if isUserSignedIn then m.showViewController .homeNavID
  else m.showViewController .profileNavID

/-- The part of `selectedCell` that changes what is attached. -/
def selectedCell (m : MainContent) (row : Int) : MainContent :=
  match storyboardId? row with
  | none => m
  | some storyboardId => m.showViewController storyboardId

-- ============================================================================
-- One content screen
-- ============================================================================

/-- The subviews are the content, tagged 99, the shadow and the menu, and the
    children are the side menu and the controller that owns the content. -/
def ExactlyOneContent (m : MainContent) : Prop :=
  ∃ vc, m.subviews = [{ vc.view with tag := 99 }, sideMenuShadowView, ChildController.sideMenu.view] ∧
    m.children = [.sideMenu, vc]

/-- `vc` is on screen, and the screens `replaced` are children still. -/
structure Attached (m : MainContent) (replaced : List ChildController) (vc : ChildController) :
    Prop where
  subviews : m.subviews =
    [{ vc.view with tag := 99 }, sideMenuShadowView, ChildController.sideMenu.view]
  children : m.children = .sideMenu :: (replaced ++ [vc])

/-- Removing the tagged views of a snapshot, one after the other. -/
theorem foldl_removeFromSuperview (snapshot subviews : List UIView) :
    snapshot.foldl
      (fun views subview =>
        if subview.tag = 99 then removeFromSuperview views subview else views) subviews =
      subviews.filter fun view => ¬ (view.tag = 99 ∧ view ∈ snapshot) := by
  induction snapshot generalizing subviews with
  | nil => simp
  | cons subview snapshot ih =>
      rw [List.foldl_cons, ih]
      by_cases htag : subview.tag = 99
      · rw [if_pos htag, removeFromSuperview, List.filter_filter]
        apply List.filter_congr
        intro view _
        by_cases hview : view = subview <;> simp [hview, htag]
      · rw [if_neg htag]
        apply List.filter_congr
        intro view _
        by_cases hview : view = subview <;> simp [hview, htag]

/-- The loop removes exactly the views tagged 99. -/
theorem removePrevious_eq_filter (subviews : List UIView) :
    removePrevious subviews = subviews.filter fun view => view.tag ≠ 99 := by
  rw [removePrevious, foldl_removeFromSuperview]
  apply List.filter_congr
  intro view hview
  simp [hview]

/-- A screen of the menu replaces the content view and joins the children. -/
theorem Attached.showViewController {m : MainContent} {replaced : List ChildController}
    {vc : ChildController} (h : m.Attached replaced vc) (storyboardId : StoryboardID) :
    (m.showViewController storyboardId).Attached (replaced ++ [vc])
      (.screen m.created storyboardId) := by
  constructor
  · simp only [MainContent.showViewController, addChild, removePrevious_eq_filter, h.subviews]
    rfl
  · simp only [MainContent.showViewController, addChild, h.children, List.cons_append]

theorem attached_viewDidLoad (isUserSignedIn : Bool) :
    ∃ vc, (viewDidLoad isUserSignedIn).Attached [] vc := by
  cases isUserSignedIn with
  | false => exact ⟨.screen 0 .profileNavID, rfl, rfl⟩
  | true => exact ⟨.screen 0 .homeNavID, rfl, rfl⟩

/-- One tap: nothing for a row outside the menu, one more child for the others. -/
theorem Attached.selectedCell {m : MainContent} {replaced : List ChildController}
    {vc : ChildController} (h : m.Attached replaced vc) (row : Int) :
    ∃ replaced' vc', (m.selectedCell row).Attached replaced' vc' ∧
      replaced'.length = replaced.length + if 0 ≤ row ∧ row ≤ 4 then 1 else 0 := by
  have hiff := storyboardId?_isSome_iff row
  cases hrow : storyboardId? row with
  | none =>
      rw [hrow] at hiff
      refine ⟨replaced, vc, ?_, ?_⟩
      · rw [MainContent.selectedCell, hrow]
        exact h
      · rw [if_neg fun hmenu => Bool.false_ne_true (hiff.mpr hmenu)]
        rfl
  | some storyboardId =>
      rw [hrow] at hiff
      refine ⟨replaced ++ [vc], .screen m.created storyboardId, ?_, ?_⟩
      · rw [MainContent.selectedCell, hrow]
        exact h.showViewController storyboardId
      · rw [if_pos (hiff.mp rfl), List.length_append]
        rfl

theorem Attached.foldl_selectedCell (rows : List Int) {m : MainContent}
    {replaced : List ChildController} {vc : ChildController} (h : m.Attached replaced vc) :
    ∃ replaced' vc', (rows.foldl MainContent.selectedCell m).Attached replaced' vc' ∧
      replaced'.length = replaced.length + rows.countP fun row => 0 ≤ row ∧ row ≤ 4 := by
  induction rows generalizing m replaced vc with
  | nil => exact ⟨replaced, vc, h, rfl⟩
  | cons row rows ih =>
      obtain ⟨replaced₁, vc₁, h₁, hlength₁⟩ := h.selectedCell row
      obtain ⟨replaced₂, vc₂, h₂, hlength₂⟩ := ih h₁
      refine ⟨replaced₂, vc₂, h₂, ?_⟩
      rw [hlength₂, hlength₁, List.countP_cons]
      simp only [decide_eq_true_eq]
      omega

/-- **What is attached.**  After `viewDidLoad` and any taps the views are the
    content, the shadow and the menu; besides the side menu and the owner of the
    content, one child remains for every tap on one of the five rows. -/
theorem attached (isUserSignedIn : Bool) (rows : List Int) :
    ∃ replaced vc, (rows.foldl selectedCell (viewDidLoad isUserSignedIn)).Attached replaced vc ∧
      replaced.length = rows.countP fun row => 0 ≤ row ∧ row ≤ 4 := by
  obtain ⟨vc, h⟩ := attached_viewDidLoad isUserSignedIn
  simpa using h.foldl_selectedCell rows

theorem Attached.exactlyOneContent {m : MainContent} {replaced : List ChildController}
    {vc : ChildController} (h : m.Attached replaced vc) :
    m.ExactlyOneContent ↔ replaced = [] := by
  constructor
  · rintro ⟨vc', -, hchildren⟩
    rw [h.children] at hchildren
    have hlength := congrArg List.length hchildren
    simp only [List.length_cons, List.length_append, List.length_nil] at hlength
    exact List.eq_nil_of_length_eq_zero (by omega)
  · rintro rfl
    exact ⟨vc, h.subviews, h.children⟩

/-- **When exactly one content screen is attached.**  After `viewDidLoad` and
    any sequence of taps this is so exactly when no tap was on a row of the
    menu, that is when nothing has been replaced. -/
theorem exactlyOneContent_iff (isUserSignedIn : Bool) (rows : List Int) :
    (rows.foldl selectedCell (viewDidLoad isUserSignedIn)).ExactlyOneContent ↔
      ∀ row ∈ rows, ¬ (0 ≤ row ∧ row ≤ 4) := by
  obtain ⟨replaced, vc, h, hlength⟩ := attached isUserSignedIn rows
  rw [h.exactlyOneContent, ← List.length_eq_zero_iff, hlength, List.countP_eq_zero]
  simp

/-- One tap on Home: the profile screen it replaces stays a child. -/
theorem home_not_exactlyOneContent :
    ((viewDidLoad false).selectedCell 0).children =
        [.sideMenu, .screen 0 .profileNavID, .screen 1 .homeNavID] ∧
      ¬ ((viewDidLoad false).selectedCell 0).ExactlyOneContent := by
  refine ⟨by decide, ?_⟩
  rintro ⟨vc, -, hchildren⟩
  have hlength : 3 = 2 := congrArg List.length hchildren
  omega

end MainContent

end Spark
