/-
  Spark.Controllers.SideMenuDrag

  One drag of the side menu in reveal-on-top mode, from the `.began` that
  enables dragging over the sampled translations to `.ended`.

  `handlePanGesture` moves the menu only on samples that are not beyond the
  reveal width, and does not stop it at the closed position.  So the menu stands
  where the last sample not beyond the edge put it (`constraint_after`), and
  `FollowsFinger`, that it stands under the finger and is released accordingly,
  depends on the samples: it holds when none is left of the closed position and
  the finger does not jump across the edge (`StaysOnTrack`).
-/

import Spark.Controllers.MainSideMenu
import Mathlib.Data.List.Infix
import Mathlib.Tactic.Ring

namespace Spark

open Spark.Lib MainViewController

/-- A slow pan that enables dragging, and the translations sampled during it. -/
structure Drag where
  vc : MainViewController
  velocity : ℚ
  samples : List ℚ
  onTop : vc.revealSideMenuOnTop = true
  starts : vc.DragStarts velocity
  slow : |velocity| ≤ velocityThreshold
  sampled : samples ≠ []

namespace Drag

/-- `panBaseLocation` of the drag: the edge of the menu when it starts. -/
def base (d : Drag) : ℚ := if d.vc.isExpanded.value then sideMenuRevealWidth else 0

/-- The controller after `.began` and a `.changed` for each translation. -/
def after (d : Drag) (ts : List ℚ) : MainViewController :=
  ts.foldl MainViewController.panChanged (d.vc.panBegan d.velocity)

/-- The last location not beyond the edge, or where the menu stood. -/
def lastInside (d : Drag) (ts : List ℚ) : ℚ :=
  ((ts.map (d.base + ·)).filter (· ≤ sideMenuRevealWidth)).getLastD
    (d.vc.sideMenuTrailingConstraint + sideMenuRevealWidth)

/-- The menu stands under the finger, between closed and open, with a shadow in
    range, after each sample; and it opens when the finger was past the middle. -/
structure FollowsFinger (d : Drag) : Prop where
  tracked : ∀ ts t, ts ++ [t] <+: d.samples →
    (d.after (ts ++ [t])).sideMenuTrailingConstraint =
      min (max (d.base + t) 0) sideMenuRevealWidth - sideMenuRevealWidth
  shadowed : ∀ ts t, ts ++ [t] <+: d.samples →
    0 ≤ (d.after (ts ++ [t])).sideMenuShadowAlpha ∧
      (d.after (ts ++ [t])).sideMenuShadowAlpha ≤ 0.6
  released : (d.after d.samples).panEnded.isExpanded.settled = true ↔
    d.base + d.samples.getLast d.sampled > sideMenuRevealWidth / 2

/-- No sample is left of the closed position, and one beyond the edge comes only
    while the menu stands at the edge. -/
def StaysOnTrack (d : Drag) : Prop :=
  ∀ ts t, ts ++ [t] <+: d.samples →
    0 ≤ d.base + t ∧ (sideMenuRevealWidth < d.base + t → d.lastInside ts = sideMenuRevealWidth)

variable {d : Drag} {ts : List ℚ} {t : ℚ}

theorem lastInside_concat (d : Drag) (ts : List ℚ) (t : ℚ) :
    d.lastInside (ts ++ [t]) =
      if d.base + t ≤ sideMenuRevealWidth then d.base + t else d.lastInside ts := by
  unfold lastInside
  rw [List.map_append, List.filter_append, List.map_singleton]
  split
  case isTrue hinside => simp [hinside]
  case isFalse hbeyond => simp [hbeyond]

theorem after_concat (d : Drag) (ts : List ℚ) (t : ℚ) :
    d.after (ts ++ [t]) = (d.after ts).panChanged t := by
  simp only [after, List.foldl_append, List.foldl_cons, List.foldl_nil]

-- ============================================================================
-- The samples
-- ============================================================================

/-- What one sample does while dragging on top. -/
theorem panChanged_of_dragging {vc : MainViewController} (hdragging : vc.draggingIsEnabled = true)
    (hon : vc.revealSideMenuOnTop = true) (t : ℚ) :
    vc.panChanged t =
      { vc with
        sideMenuShadowAlpha :=
          min ((vc.panBaseLocation + t) * 150 / sideMenuRevealWidth / sideMenuRevealWidth) 0.6
        sideMenuTrailingConstraint :=
          if vc.panBaseLocation + t ≤ sideMenuRevealWidth then
            vc.panBaseLocation + t - sideMenuRevealWidth
          else vc.sideMenuTrailingConstraint } := by
  have hmin : ∀ p : ℚ, (if p ≥ 0.6 then 0.6 else p) = min p 0.6 := by
    intro p
    rw [min_comm, min_def]
  simp only [MainViewController.panChanged, hdragging, hon, if_true, hmin]
  split <;> rfl

/-- Samples keep the drag going, with the base it started from. -/
theorem dragging_after (d : Drag) (ts : List ℚ) :
    (d.after ts).draggingIsEnabled = true ∧ (d.after ts).revealSideMenuOnTop = true ∧
      (d.after ts).panBaseLocation = d.base := by
  induction ts using List.reverseRecOn with
  | nil =>
      have hslow : ¬ |d.velocity| > velocityThreshold := not_lt.mpr d.slow
      simp only [after, List.foldl_nil, panBegan_of_dragStarts d.onTop d.starts, if_neg hslow]
      exact ⟨trivial, d.onTop, rfl⟩
  | append_singleton ts t ih =>
      obtain ⟨hdragging, hon, hbase⟩ := ih
      rw [after_concat, panChanged_of_dragging hdragging hon]
      exact ⟨hdragging, hon, hbase⟩

/-- The menu stands where the last sample not beyond the edge put it. -/
theorem constraint_after (d : Drag) (ts : List ℚ) :
    (d.after ts).sideMenuTrailingConstraint = d.lastInside ts - sideMenuRevealWidth := by
  induction ts using List.reverseRecOn with
  | nil =>
      have hslow : ¬ |d.velocity| > velocityThreshold := not_lt.mpr d.slow
      simp only [after, List.foldl_nil, panBegan_of_dragStarts d.onTop d.starts, if_neg hslow]
      exact (add_sub_cancel_right _ _).symm
  | append_singleton ts t ih =>
      obtain ⟨hdragging, hon, hbase⟩ := d.dragging_after ts
      rw [after_concat, panChanged_of_dragging hdragging hon, hbase, lastInside_concat, ih]
      split <;> rfl

theorem shadowAlpha_after_concat (d : Drag) (ts : List ℚ) (t : ℚ) :
    (d.after (ts ++ [t])).sideMenuShadowAlpha =
      min ((d.base + t) * 150 / sideMenuRevealWidth / sideMenuRevealWidth) 0.6 := by
  obtain ⟨hdragging, hon, hbase⟩ := d.dragging_after ts
  rw [after_concat, panChanged_of_dragging hdragging hon, hbase]

-- ============================================================================
-- Following the finger
-- ============================================================================

/-- After a sample the menu stands under the finger, clamped, exactly when the
    sample is on track, given that it is not left of the closed position. -/
theorem tracked_iff (hright : 0 ≤ d.base + t) :
    d.lastInside (ts ++ [t]) = min (max (d.base + t) 0) sideMenuRevealWidth ↔
      (sideMenuRevealWidth < d.base + t → d.lastInside ts = sideMenuRevealWidth) := by
  rw [lastInside_concat, max_eq_left hright]
  by_cases hinside : d.base + t ≤ sideMenuRevealWidth
  · rw [if_pos hinside, min_eq_left hinside]
    exact iff_of_true rfl fun hbeyond => absurd hinside (not_le.mpr hbeyond)
  · have hbeyond := not_le.mp hinside
    rw [if_neg hinside, min_eq_right hbeyond.le]
    exact ⟨fun h _ => h, fun h => h hbeyond⟩

/-- The shadow is in range exactly when the sample is not left of the closed
    position. -/
theorem shadowed_iff (d : Drag) (ts : List ℚ) (t : ℚ) :
    (0 ≤ (d.after (ts ++ [t])).sideMenuShadowAlpha ∧
      (d.after (ts ++ [t])).sideMenuShadowAlpha ≤ 0.6) ↔ 0 ≤ d.base + t := by
  rw [shadowAlpha_after_concat, and_iff_left (min_le_right _ _), le_min_iff,
    and_iff_left (by norm_num)]
  unfold sideMenuRevealWidth
  constructor <;> intro h <;> linarith

/-- At `.ended` the menu opens when the last location inside is past the middle. -/
theorem released_eq (d : Drag) (ts : List ℚ) :
    (d.after ts).panEnded.isExpanded.settled = true ↔
      d.lastInside ts > sideMenuRevealWidth / 2 := by
  obtain ⟨-, hon, -⟩ := d.dragging_after ts
  have hconstraint := d.constraint_after ts
  have hended : (d.after ts).panEnded =
      { d.after ts with draggingIsEnabled := false }.sideMenuState
        (decide ((d.after ts).sideMenuTrailingConstraint > -(sideMenuRevealWidth * 0.5))) :=
    if_pos hon
  have hon' : ({ d.after ts with draggingIsEnabled := false } : MainViewController).revealSideMenuOnTop =
      true := hon
  have hspec := sideMenuState_spec hon'
    (decide ((d.after ts).sideMenuTrailingConstraint > -(sideMenuRevealWidth * 0.5)))
  rw [hended, hspec.2.2.1, Deferred.settled_request, decide_eq_true_eq, hconstraint]
  unfold sideMenuRevealWidth
  constructor <;> intro h <;> linarith

theorem followsFinger_of_staysOnTrack (h : d.StaysOnTrack) : d.FollowsFinger := by
  have hplace : ∀ ts t, ts ++ [t] <+: d.samples →
      d.lastInside (ts ++ [t]) = min (max (d.base + t) 0) sideMenuRevealWidth := by
    intro ts t hpre
    obtain ⟨hright, hedge⟩ := h ts t hpre
    exact (tracked_iff hright).mpr hedge
  refine ⟨?_, ?_, ?_⟩
  · intro ts t hpre
    rw [constraint_after, hplace ts t hpre]
  · intro ts t hpre
    exact (d.shadowed_iff ts t).mpr (h ts t hpre).1
  · have hlast : d.samples.dropLast ++ [d.samples.getLast d.sampled] = d.samples :=
      List.dropLast_append_getLast d.sampled
    have hend := hplace d.samples.dropLast (d.samples.getLast d.sampled) (by rw [hlast])
    rw [hlast] at hend
    rw [released_eq, hend, gt_iff_lt, lt_min_iff, lt_max_iff]
    unfold sideMenuRevealWidth
    constructor
    · rintro ⟨hmoved | hneg, -⟩
      · exact hmoved
      · norm_num at hneg
    · intro hmoved
      exact ⟨.inl hmoved, by norm_num⟩

/-- **Drag.**  The menu follows the finger over a whole drag and is released by
    where the finger was last, exactly when every sample is on track. -/
theorem followsFinger_iff (d : Drag) : d.FollowsFinger ↔ d.StaysOnTrack := by
  constructor
  · intro h ts t hpre
    have hright := (d.shadowed_iff ts t).mp (h.shadowed ts t hpre)
    have hplace := h.tracked ts t hpre
    rw [constraint_after, sub_left_inj] at hplace
    exact ⟨hright, (tracked_iff hright).mp hplace⟩
  · exact followsFinger_of_staysOnTrack

/-- Two samplings of one drag that stay on track are released alike. -/
theorem released_alike {d' : Drag} (hvc : d'.vc = d.vc)
    (hlast : d'.samples.getLast d'.sampled = d.samples.getLast d.sampled)
    (h : d.StaysOnTrack) (h' : d'.StaysOnTrack) :
    ((d.after d.samples).panEnded.isExpanded.settled = true ↔
      (d'.after d'.samples).panEnded.isExpanded.settled = true) := by
  have hbase : d'.base = d.base := by rw [base, base, hvc]
  rw [(followsFinger_of_staysOnTrack h).released, (followsFinger_of_staysOnTrack h').released,
    hbase, hlast]

/-- A drag to the right from the closed menu, sampled once, beyond the edge. -/
def fastDrag : Drag where
  vc := viewDidLoad
  velocity := 400
  samples := [300]
  onTop := rfl
  starts := .inl (by decide +kernel)
  slow := by decide +kernel
  sampled := List.cons_ne_nil _ _

/-- The finger is 300 points to the right and the menu closes. -/
theorem not_followsFinger_fastDrag : ¬ fastDrag.FollowsFinger := by
  intro h
  have hclosed : (fastDrag.after fastDrag.samples).panEnded.isExpanded.settled = false := by
    decide +kernel
  have hfar : fastDrag.base + fastDrag.samples.getLast fastDrag.sampled >
      sideMenuRevealWidth / 2 := by decide +kernel
  exact Bool.false_ne_true (hclosed.symm.trans (h.released.mpr hfar))

end Drag

end Spark
