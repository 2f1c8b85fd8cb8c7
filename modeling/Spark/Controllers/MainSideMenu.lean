/-
  Spark.Controllers.MainSideMenu

  The sliding side menu of `MainViewController`: the trailing constraint, the
  shadow, `isExpanded` and the pan gesture.

  `UIView.animate` applies its closure at once and delivers its completion
  later, in start order, so the constraint and the shadow are written by the
  call and `isExpanded` by the completion: it is a `Deferred` register.  A
  rotation hands its closure to the transition coordinator, which runs it at
  any time.  Points are exact rationals.

  At rest the three agree on whether the menu is open (`AtRestConsistent`).
  The invariant speaks of the value `isExpanded` settles to; `RestKept` names
  the two kinds of steps that break it: a drag that is cancelled, and a
  rotation whose closure reads `isExpanded` before it has settled.
-/

import Mathlib.Algebra.Order.Ring.Rat
import Mathlib.Tactic.Linarith
import Mathlib.Tactic.NormNum
import Spark.Lib.Deferred
import Spark.Lib.Run

namespace Spark

open Spark.Lib

-- ============================================================================
-- The controller
-- ============================================================================

/-- `UIGestureRecognizer.State`, without `.possible`. -/
inductive GestureState
  | began
  | changed
  | ended
  | cancelled
  | failed
  deriving DecidableEq, Repr

structure MainViewController where
  isExpanded : Deferred Bool
  /-- `sideMenuTrailingConstraint.constant`. -/
  sideMenuTrailingConstraint : ℚ
  revealSideMenuOnTop : Bool
  /-- `sideMenuShadowView.alpha`. -/
  sideMenuShadowAlpha : ℚ
  draggingIsEnabled : Bool
  panBaseLocation : ℚ
  /-- `view.subviews[1].frame.origin.x`. -/
  subviewOriginX : ℚ
  /-- The blocks `sideMenuState(expanded: false)` queued by `selectedCell`. -/
  mainQueue : Nat
  /-- The rotation closures the coordinator has not run. -/
  transitions : Nat
  /-- `state` of the pan recognizer while a pan is in progress. -/
  pan : Option GestureState
  deriving DecidableEq, Repr

namespace MainViewController

def sideMenuRevealWidth : ℚ := 260

def paddingForRotation : ℚ := 150

/-- After `viewDidLoad`. -/
def viewDidLoad : MainViewController where
  isExpanded := { value := false }
  sideMenuTrailingConstraint := -sideMenuRevealWidth - paddingForRotation
  revealSideMenuOnTop := true
  sideMenuShadowAlpha := 0
  draggingIsEnabled := false
  panBaseLocation := 0
  subviewOriginX := 0
  mainQueue := 0
  transitions := 0
  pan := none

/-- The animation closure runs at once; `expanded` is what the completion
    assigns to `isExpanded`. -/
def animateSideMenu (vc : MainViewController) (targetPosition : ℚ) (expanded : Bool) :
    MainViewController :=
  let vc :=
    if vc.revealSideMenuOnTop then { vc with sideMenuTrailingConstraint := targetPosition }
    else { vc with subviewOriginX := targetPosition }
  { vc with isExpanded := vc.isExpanded.request expanded }

def sideMenuState (vc : MainViewController) (expanded : Bool) : MainViewController :=
  if expanded then
    { vc.animateSideMenu (if vc.revealSideMenuOnTop then 0 else sideMenuRevealWidth) true with
      sideMenuShadowAlpha := 0.6 }
  else
    { vc.animateSideMenu
        (if vc.revealSideMenuOnTop then -sideMenuRevealWidth - paddingForRotation else 0) false with
      sideMenuShadowAlpha := 0 }

def revealSideMenu (vc : MainViewController) : MainViewController :=
  vc.sideMenuState (if vc.isExpanded.value then false else true)

def tapGestureRecognizer (vc : MainViewController) (state : GestureState) : MainViewController :=
  if state = .ended then
    if vc.isExpanded.value then vc.sideMenuState false else vc
  else vc

/-- The closure `viewWillTransition` gives to the coordinator. -/
def viewWillTransitionAnimation (vc : MainViewController) : MainViewController :=
  if vc.revealSideMenuOnTop then
    { vc with
      sideMenuTrailingConstraint :=
        if vc.isExpanded.value then 0 else -sideMenuRevealWidth - paddingForRotation }
  else vc

def velocityThreshold : ℚ := 550

/-- `case .began`. -/
def panBegan (vc : MainViewController) (velocity : ℚ) : MainViewController :=
  let vc :=
    if velocity > 0 ∧ vc.isExpanded.value then { vc with pan := some .cancelled } else vc
  let vc :=
    if velocity > 0 ∧ ¬ vc.isExpanded.value then { vc with draggingIsEnabled := true }
    else if velocity < 0 ∧ vc.isExpanded.value then { vc with draggingIsEnabled := true }
    else vc
  if vc.draggingIsEnabled then
    if |velocity| > velocityThreshold then
      { vc.sideMenuState (if vc.isExpanded.value then false else true) with
        draggingIsEnabled := false }
    else if vc.revealSideMenuOnTop then
      { vc with panBaseLocation := if vc.isExpanded.value then sideMenuRevealWidth else 0 }
    else vc
  else vc

/-- `case .changed`. -/
def panChanged (vc : MainViewController) (position : ℚ) : MainViewController :=
  if vc.draggingIsEnabled then
    if vc.revealSideMenuOnTop then
      let xLocation := vc.panBaseLocation + position
      let percentage := (xLocation * 150 / sideMenuRevealWidth) / sideMenuRevealWidth
      let alpha := if percentage ≥ 0.6 then 0.6 else percentage
      let vc := { vc with sideMenuShadowAlpha := alpha }
      if xLocation ≤ sideMenuRevealWidth then
        { vc with sideMenuTrailingConstraint := xLocation - sideMenuRevealWidth }
      else vc
    else
      let percentage := (vc.subviewOriginX * 150 / sideMenuRevealWidth) / sideMenuRevealWidth
      let alpha := if percentage ≥ 0.6 then 0.6 else percentage
      let vc := { vc with sideMenuShadowAlpha := alpha }
      if vc.subviewOriginX ≤ sideMenuRevealWidth ∧ vc.subviewOriginX ≥ 0 then
        { vc with subviewOriginX := vc.subviewOriginX + position }
      else vc
  else vc

/-- `case .ended`. -/
def panEnded (vc : MainViewController) : MainViewController :=
  let vc := { vc with draggingIsEnabled := false }
  if vc.revealSideMenuOnTop then
    let movedMoreThanHalf := decide (vc.sideMenuTrailingConstraint > -(sideMenuRevealWidth * 0.5))
    vc.sideMenuState movedMoreThanHalf
  else
    let movedMoreThanHalf := decide (vc.subviewOriginX > sideMenuRevealWidth * 0.5)
    vc.sideMenuState movedMoreThanHalf

def handlePanGesture (vc : MainViewController) (state : GestureState) (position velocity : ℚ) :
    MainViewController :=
  match state with
  | .began => vc.panBegan velocity
  | .changed => vc.panChanged position
  | .ended => vc.panEnded
  | .cancelled => vc
  | .failed => vc

-- ============================================================================
-- Steps
-- ============================================================================

/-- What can happen to the side menu.  A recognizer that `handlePanGesture`
    cancels may still deliver the rest of its events. -/
inductive SideMenuEvent
  | revealSideMenu
  | tapGestureRecognizer (state : GestureState)
  | selectedCell (row : Int)
  | viewWillTransition
  | viewWillTransitionAnimation
  | pan (state : GestureState) (position velocity : ℚ)
  | runMainQueue
  /-- The oldest pending completion of `UIView.animate` is delivered. -/
  | completion

/-- The recognizer delivers a state: a pan begins when none is in progress and
    is over once it has ended, been cancelled or failed. -/
def deliverPan (vc : MainViewController) (state : GestureState) (position velocity : ℚ) :
    Option MainViewController :=
  match state, vc.pan with
  | .began, none => some ({ vc with pan := some .began }.handlePanGesture .began position velocity)
  | .began, some _ => none
  | _, none => none
  | .changed, some _ => some (vc.handlePanGesture .changed position velocity)
  | state, some _ => some { vc.handlePanGesture state position velocity with pan := none }

def step (vc : MainViewController) : SideMenuEvent → Option MainViewController
  | .revealSideMenu => some vc.revealSideMenu
  | .tapGestureRecognizer state => some (vc.tapGestureRecognizer state)
  | .selectedCell _ => some { vc with mainQueue := vc.mainQueue + 1 }
  | .viewWillTransition => some { vc with transitions := vc.transitions + 1 }
  | .viewWillTransitionAnimation =>
      if vc.transitions = 0 then none
      else some { vc.viewWillTransitionAnimation with transitions := vc.transitions - 1 }
  | .pan state position velocity => vc.deliverPan state position velocity
  | .runMainQueue =>
      if vc.mainQueue = 0 then none
      else some ({ vc with mainQueue := vc.mainQueue - 1 }.sideMenuState false)
  | .completion => vc.isExpanded.deliver.map fun isExpanded => { vc with isExpanded }

-- ============================================================================
-- The rest state
-- ============================================================================

/-- The constraint of an open and of a closed menu. -/
def restPosition (expanded : Bool) : ℚ :=
  if expanded then 0 else -(sideMenuRevealWidth + paddingForRotation)

/-- The shadow of an open and of a closed menu. -/
def restAlpha (expanded : Bool) : ℚ := if expanded then 0.6 else 0

/-- No completion is pending, no block is queued and no pan is in progress. -/
def AtRest (vc : MainViewController) : Prop :=
  vc.isExpanded.pending = [] ∧ vc.mainQueue = 0 ∧ vc.pan = none

/-- At rest dragging is disabled, and `isExpanded`, the constraint and the
    shadow say the same of the menu. -/
def AtRestConsistent (vc : MainViewController) : Prop :=
  vc.AtRest → vc.draggingIsEnabled = false ∧
    ((vc.isExpanded.value = true ∧ vc.sideMenuTrailingConstraint = 0 ∧
        vc.sideMenuShadowAlpha = 0.6) ∨
      (vc.isExpanded.value = false ∧
        vc.sideMenuTrailingConstraint = -(sideMenuRevealWidth + paddingForRotation) ∧
        vc.sideMenuShadowAlpha = 0))

/-- Dragging is enabled only during a pan; otherwise the constraint and the
    shadow are those of the state `isExpanded` settles to. -/
structure Settling (vc : MainViewController) : Prop where
  onTop : vc.revealSideMenuOnTop = true
  dragging : vc.draggingIsEnabled = true → vc.pan ≠ none
  settled : vc.draggingIsEnabled = false →
    vc.sideMenuTrailingConstraint = restPosition vc.isExpanded.settled ∧
    vc.sideMenuShadowAlpha = restAlpha vc.isExpanded.settled

theorem Settling.atRestConsistent {vc : MainViewController} (h : vc.Settling) :
    vc.AtRestConsistent := by
  rintro ⟨hpending, -, hpan⟩
  have hdragging : vc.draggingIsEnabled = false := by
    cases hd : vc.draggingIsEnabled with
    | false => rfl
    | true => exact absurd hpan (h.dragging hd)
  obtain ⟨hposition, halpha⟩ := h.settled hdragging
  rw [Deferred.settled_of_pending_nil hpending] at hposition halpha
  refine ⟨hdragging, ?_⟩
  cases hexpanded : vc.isExpanded.value with
  | true =>
      rw [hexpanded] at hposition halpha
      exact .inl ⟨rfl, hposition, halpha⟩
  | false =>
      rw [hexpanded] at hposition halpha
      exact .inr ⟨rfl, hposition, halpha⟩

/-- The step does not leave the menu between its two states: a pan that has
    enabled dragging is not cancelled and does not fail, and the closure of a
    rotation runs during a drag or once `isExpanded` has settled. -/
def RestKept (vc : MainViewController) : SideMenuEvent → Prop
  | .pan .cancelled _ _ => vc.draggingIsEnabled = false
  | .pan .failed _ _ => vc.draggingIsEnabled = false
  | .viewWillTransitionAnimation =>
      vc.draggingIsEnabled = true ∨ vc.isExpanded.value = vc.isExpanded.settled
  | _ => True

instance (vc : MainViewController) : (e : SideMenuEvent) → Decidable (vc.RestKept e)
  | .pan .cancelled _ _ => inferInstanceAs (Decidable (_ = _))
  | .pan .failed _ _ => inferInstanceAs (Decidable (_ = _))
  | .viewWillTransitionAnimation => inferInstanceAs (Decidable (_ ∨ _))
  | .pan .began _ _ => .isTrue trivial
  | .pan .changed _ _ => .isTrue trivial
  | .pan .ended _ _ => .isTrue trivial
  | .revealSideMenu => .isTrue trivial
  | .tapGestureRecognizer _ => .isTrue trivial
  | .selectedCell _ => .isTrue trivial
  | .viewWillTransition => .isTrue trivial
  | .runMainQueue => .isTrue trivial
  | .completion => .isTrue trivial

-- ============================================================================
-- Preservation
-- ============================================================================

/-- What `sideMenuState` does: the constraint and the shadow at once, and
    `isExpanded` once everything pending has been delivered. -/
theorem sideMenuState_spec {vc : MainViewController} (hon : vc.revealSideMenuOnTop = true)
    (expanded : Bool) :
    (vc.sideMenuState expanded).sideMenuTrailingConstraint = restPosition expanded ∧
    (vc.sideMenuState expanded).sideMenuShadowAlpha = restAlpha expanded ∧
    (vc.sideMenuState expanded).isExpanded = vc.isExpanded.request expanded ∧
    (vc.sideMenuState expanded).draggingIsEnabled = vc.draggingIsEnabled ∧
    (vc.sideMenuState expanded).pan = vc.pan ∧
    (vc.sideMenuState expanded).revealSideMenuOnTop = true := by
  have hclosed : restPosition false = -sideMenuRevealWidth - paddingForRotation := neg_add' ..
  cases expanded with
  | true => simp [sideMenuState, animateSideMenu, hon, restPosition, restAlpha]
  | false => simp [sideMenuState, animateSideMenu, hon, hclosed, restAlpha]

/-- After `sideMenuState` the menu settles, whatever it looked like before. -/
theorem settling_sideMenuState {vc : MainViewController} (hon : vc.revealSideMenuOnTop = true)
    (hdragging : vc.draggingIsEnabled = true → vc.pan ≠ none) (expanded : Bool) :
    (vc.sideMenuState expanded).Settling := by
  obtain ⟨hposition, halpha, hexpanded, hd, hpan, hon'⟩ := sideMenuState_spec hon expanded
  refine ⟨hon', ?_, ?_⟩
  · rw [hd, hpan]
    exact hdragging
  · intro _
    rw [hexpanded, Deferred.settled_request]
    exact ⟨hposition, halpha⟩

/-- A pan enables dragging: right on a closed menu or left on an open one. -/
def DragStarts (vc : MainViewController) (velocity : ℚ) : Prop :=
  (velocity > 0 ∧ vc.isExpanded.value = false) ∨ (velocity < 0 ∧ vc.isExpanded.value = true)

/-- A fast drag flips the menu at once, a slow one enables dragging. -/
theorem panBegan_of_dragStarts {vc : MainViewController} {velocity : ℚ}
    (hon : vc.revealSideMenuOnTop = true) (h : vc.DragStarts velocity) :
    vc.panBegan velocity =
      if |velocity| > velocityThreshold then
        { vc.sideMenuState (!vc.isExpanded.value) with draggingIsEnabled := false }
      else
        { vc with
          draggingIsEnabled := true
          panBaseLocation := if vc.isExpanded.value then sideMenuRevealWidth else 0 } := by
  rcases h with ⟨hpos, hvalue⟩ | ⟨hneg, hvalue⟩
  · simp [panBegan, hpos, hvalue, hon, sideMenuState, animateSideMenu]
  · have hnot : ¬ velocity > 0 := not_lt.mpr hneg.le
    simp [panBegan, hneg, hnot, hvalue, hon, sideMenuState, animateSideMenu]

/-- Any other pan moves nothing; rightwards on an open menu it is cancelled. -/
theorem panBegan_of_not_dragStarts {vc : MainViewController} {velocity : ℚ}
    (hd : vc.draggingIsEnabled = false) (h : ¬ vc.DragStarts velocity) :
    vc.panBegan velocity =
      { vc with
        pan := if velocity > 0 ∧ vc.isExpanded.value = true then some .cancelled else vc.pan } := by
  have hoff : (vc.draggingIsEnabled = true) = False := by simp [hd]
  cases hvalue : vc.isExpanded.value with
  | false =>
      have hpos : ¬ velocity > 0 := fun hpos => h (.inl ⟨hpos, hvalue⟩)
      simp only [panBegan, hpos, hvalue, hoff, Bool.false_eq_true, and_false, false_and, if_false]
  | true =>
      have hneg : ¬ velocity < 0 := fun hneg => h (.inr ⟨hneg, hvalue⟩)
      by_cases hpos : velocity > 0
      · simp only [panBegan, hpos, hneg, hvalue, hoff, not_true_eq_false, and_true, and_false,
          if_true, if_false]
      · simp only [panBegan, hpos, hneg, hvalue, hoff, not_true_eq_false, and_true, and_false,
          if_false]

namespace Settling

/-- While a pan with dragging is in progress the constraint is free. -/
theorem of_dragging {vc : MainViewController} (hon : vc.revealSideMenuOnTop = true)
    (hd : vc.draggingIsEnabled = true) (hpan : vc.pan ≠ none) : vc.Settling :=
  ⟨hon, fun _ => hpan, fun hnot => absurd (hnot.symm.trans hd) Bool.false_ne_true⟩

theorem panBegan {vc : MainViewController} (h : vc.Settling) (hd : vc.draggingIsEnabled = false)
    (hpan : vc.pan ≠ none) (velocity : ℚ) : (vc.panBegan velocity).Settling := by
  by_cases hstart : vc.DragStarts velocity
  · rw [panBegan_of_dragStarts h.onTop hstart]
    split
    · obtain ⟨hon, -, hsettled⟩ := settling_sideMenuState h.onTop h.dragging (!vc.isExpanded.value)
      refine ⟨hon, nofun, ?_⟩
      intro _
      exact hsettled ((sideMenuState_spec h.onTop _).2.2.2.1.trans hd)
    · exact of_dragging h.onTop rfl hpan
  · rw [panBegan_of_not_dragStarts hd hstart]
    exact ⟨h.onTop, fun hnot => absurd (hd.symm.trans hnot) Bool.false_ne_true, h.settled⟩

/-- A sample moves the menu only during a drag. -/
theorem panChanged {vc : MainViewController} (h : vc.Settling) (position : ℚ) :
    (vc.panChanged position).Settling := by
  cases hd : vc.draggingIsEnabled with
  | false =>
      rw [MainViewController.panChanged, if_neg (by simp [hd])]
      exact h
  | true =>
      have hpan := h.dragging hd
      simp only [MainViewController.panChanged, hd, h.onTop, if_true]
      split
      · exact of_dragging rfl rfl hpan
      · exact of_dragging rfl rfl hpan

/-- Letting go settles the menu. -/
theorem panEnded {vc : MainViewController} (h : vc.Settling) :
    MainViewController.Settling { vc.panEnded with pan := none } := by
  have hon : ({ vc with draggingIsEnabled := false } : MainViewController).revealSideMenuOnTop =
      true := h.onTop
  rw [MainViewController.panEnded, if_pos hon]
  obtain ⟨hposition, halpha, hexpanded, hd, -, hon'⟩ := sideMenuState_spec hon
    (decide (vc.sideMenuTrailingConstraint > -(sideMenuRevealWidth * 0.5)))
  refine ⟨hon', fun hnot => absurd (hd.symm.trans hnot) Bool.false_ne_true, ?_⟩
  intro _
  rw [hexpanded, Deferred.settled_request]
  exact ⟨hposition, halpha⟩

/-- A pan that is cancelled or fails, when it has not enabled dragging. -/
theorem panOver {vc : MainViewController} (h : vc.Settling) (hd : vc.draggingIsEnabled = false) :
    MainViewController.Settling { vc with pan := none } :=
  ⟨h.onTop, fun hnot => absurd (hd.symm.trans hnot) Bool.false_ne_true, h.settled⟩

/-- A rotation keeps the menu where `isExpanded` says it is. -/
theorem viewWillTransitionAnimation {vc : MainViewController} (h : vc.Settling) (n : Nat)
    (hok : vc.draggingIsEnabled = true ∨ vc.isExpanded.value = vc.isExpanded.settled) :
    MainViewController.Settling { vc.viewWillTransitionAnimation with transitions := n } := by
  simp only [MainViewController.viewWillTransitionAnimation, h.onTop, if_true]
  refine ⟨rfl, h.dragging, ?_⟩
  intro hd
  have hvalue : vc.isExpanded.value = vc.isExpanded.settled :=
    hok.resolve_left fun hnot => absurd (hd.symm.trans hnot) Bool.false_ne_true
  refine ⟨?_, (h.settled hd).2⟩
  rw [← hvalue]
  cases vc.isExpanded.value with
  | true => rfl
  | false => exact (neg_add' ..).symm

end Settling

theorem settling_viewDidLoad : viewDidLoad.Settling := by
  refine ⟨rfl, nofun, ?_⟩
  intro _
  exact ⟨(neg_add' ..).symm, rfl⟩

/-- One state of a pan. -/
theorem deliverPan_settling {vc vc' : MainViewController} {state : GestureState}
    {position velocity : ℚ} (h : vc.Settling) (hok : vc.RestKept (.pan state position velocity))
    (hstep : vc.deliverPan state position velocity = some vc') : vc'.Settling := by
  cases hpan : vc.pan with
  | none =>
      have hd : vc.draggingIsEnabled = false := by
        cases hd : vc.draggingIsEnabled with
        | false => rfl
        | true => exact absurd hpan (h.dragging hd)
      cases state with
      | began =>
          simp only [deliverPan, hpan] at hstep
          obtain rfl := Option.some.inj hstep
          have hbegun : MainViewController.Settling { vc with pan := some .began } :=
            ⟨h.onTop, nofun, h.settled⟩
          exact hbegun.panBegan hd nofun velocity
      | changed => simp [deliverPan, hpan] at hstep
      | ended => simp [deliverPan, hpan] at hstep
      | cancelled => simp [deliverPan, hpan] at hstep
      | failed => simp [deliverPan, hpan] at hstep
  | some current =>
      cases state with
      | began => simp [deliverPan, hpan] at hstep
      | changed =>
          simp only [deliverPan, hpan] at hstep
          obtain rfl := Option.some.inj hstep
          exact h.panChanged position
      | ended =>
          simp only [deliverPan, hpan] at hstep
          obtain rfl := Option.some.inj hstep
          exact h.panEnded
      | cancelled =>
          simp only [deliverPan, hpan] at hstep
          obtain rfl := Option.some.inj hstep
          exact h.panOver hok
      | failed =>
          simp only [deliverPan, hpan] at hstep
          obtain rfl := Option.some.inj hstep
          exact h.panOver hok

/-- Every step that `RestKept` allows lets the menu settle. -/
theorem step_settling {vc vc' : MainViewController} {e : SideMenuEvent} (h : vc.Settling)
    (hok : vc.RestKept e) (hstep : vc.step e = some vc') : vc'.Settling := by
  cases e with
  | revealSideMenu =>
      obtain rfl := Option.some.inj hstep
      exact settling_sideMenuState h.onTop h.dragging _
  | tapGestureRecognizer state =>
      obtain rfl := Option.some.inj hstep
      unfold tapGestureRecognizer
      split
      · split
        · exact settling_sideMenuState h.onTop h.dragging _
        · exact h
      · exact h
  | selectedCell row =>
      obtain rfl := Option.some.inj hstep
      exact ⟨h.onTop, h.dragging, h.settled⟩
  | viewWillTransition =>
      obtain rfl := Option.some.inj hstep
      exact ⟨h.onTop, h.dragging, h.settled⟩
  | viewWillTransitionAnimation =>
      simp only [step, Option.ite_none_left_eq_some] at hstep
      obtain ⟨-, hstep⟩ := hstep
      obtain rfl := Option.some.inj hstep
      exact h.viewWillTransitionAnimation _ hok
  | pan state position velocity => exact deliverPan_settling h hok hstep
  | runMainQueue =>
      simp only [step, Option.ite_none_left_eq_some] at hstep
      obtain ⟨-, hstep⟩ := hstep
      obtain rfl := Option.some.inj hstep
      have hdequeued : MainViewController.Settling { vc with mainQueue := vc.mainQueue - 1 } :=
        ⟨h.onTop, h.dragging, h.settled⟩
      exact settling_sideMenuState hdequeued.onTop hdequeued.dragging _
  | completion =>
      obtain ⟨isExpanded, hdeliver, rfl⟩ := Option.map_eq_some_iff.mp hstep
      refine ⟨h.onTop, h.dragging, ?_⟩
      intro hd
      rw [Deferred.settled_deliver hdeliver]
      exact h.settled hd

-- ============================================================================
-- Whole runs
-- ============================================================================

/-- **Rest-state consistency.**  In every run from `viewDidLoad` whose steps
    `RestKept` allows, in every state reached: with no completion pending, no
    block queued and no pan in progress, dragging is disabled and the menu is
    open (constraint 0, shadow 0.6) or closed (constraint off screen, no
    shadow), as `isExpanded` says. -/
theorem run_atRestConsistent (es : List SideMenuEvent) (vc : MainViewController)
    (hok : Along step RestKept viewDidLoad es) (h : run step viewDidLoad es = some vc) :
    vc.AtRestConsistent :=
  (run_invariant (fun _ _ _ hs he ht => step_settling hs he ht) es _ vc settling_viewDidLoad
    hok h).atRestConsistent

/-- The menu is dragged out, let go past its half, and the device is rotated. -/
def draggedOpen : List SideMenuEvent :=
  [.pan .began 0 100, .pan .changed 200 100, .pan .ended 200 100, .completion,
   .viewWillTransition, .viewWillTransitionAnimation]

/-- The theorem at this run. -/
theorem run_atRestConsistent_draggedOpen :
    ∃ vc, run step viewDidLoad draggedOpen = some vc ∧ vc.AtRest ∧
      vc.isExpanded.value = true ∧ vc.AtRestConsistent := by
  have hrun : run step viewDidLoad draggedOpen = some
      { viewDidLoad with
        isExpanded := { value := true }
        sideMenuTrailingConstraint := 0
        sideMenuShadowAlpha := 0.6 } := by decide +kernel
  exact ⟨_, hrun, ⟨rfl, rfl, rfl⟩, rfl,
    run_atRestConsistent draggedOpen _ (by decide +kernel) hrun⟩

/-- A drag is cancelled by the system. -/
def cancelledDrag : List SideMenuEvent :=
  [.pan .began 0 100, .pan .changed 100 100, .pan .cancelled 100 100]

/-- The device is rotated while the menu opens. -/
def rotatedWhileOpening : List SideMenuEvent :=
  [.revealSideMenu, .viewWillTransition, .viewWillTransitionAnimation, .completion]

/-- A cancelled drag leaves dragging enabled and the menu where it hung; a
    rotation during the animation leaves an expanded menu off screen. -/
theorem not_atRestConsistent :
    (∃ vc, run step viewDidLoad cancelledDrag = some vc ∧ vc.AtRest ∧
      vc.draggingIsEnabled = true ∧ vc.sideMenuTrailingConstraint = -160 ∧
      ¬ vc.AtRestConsistent) ∧
    (∃ vc, run step viewDidLoad rotatedWhileOpening = some vc ∧ vc.AtRest ∧
      vc.isExpanded.value = true ∧ vc.sideMenuTrailingConstraint = -410 ∧
      ¬ vc.AtRestConsistent) := by
  constructor
  · have hrun : run step viewDidLoad cancelledDrag = some
        { viewDidLoad with
          sideMenuTrailingConstraint := -160
          sideMenuShadowAlpha := 100 * 150 / 260 / 260
          draggingIsEnabled := true } := by decide +kernel
    refine ⟨_, hrun, ⟨rfl, rfl, rfl⟩, rfl, rfl, ?_⟩
    intro h
    exact absurd (h ⟨rfl, rfl, rfl⟩).1 (by decide)
  · have hrun : run step viewDidLoad rotatedWhileOpening = some
        { viewDidLoad with
          isExpanded := { value := true }
          sideMenuTrailingConstraint := -410
          sideMenuShadowAlpha := 0.6 } := by decide +kernel
    refine ⟨_, hrun, ⟨rfl, rfl, rfl⟩, rfl, rfl, ?_⟩
    intro h
    rcases (h ⟨rfl, rfl, rfl⟩).2 with ⟨-, hposition, -⟩ | ⟨hvalue, -, -⟩
    · exact absurd hposition (by decide +kernel)
    · cases hvalue

end MainViewController

end Spark
