/-
  Spark.Layout.Snapping

  Where scrolling stops.  `SnapSection` is a section that
  `ZoomAndSnapFlowLayout` lays out in one row of a collection view without
  content insets: at least one cell, no cell and no viewport narrower than the
  layout's `itemSize`, the insets those of `prepare()`.

  `targetContentOffset` looks only at the cells that meet the target rectangle
  and keeps the one whose centre is nearest.  Some centre is within half a step
  of the middle of the viewport (`exists_near_centre`), that cell is among them,
  and a cell that is not is farther away; so what the loop finds is the nearest
  cell of the whole section (`targetContentOffset_centres`).
-/

import Spark.Layout.ZoomAndSnapFlowLayout
import Spark.Lib.ArgMin

namespace Spark

-- ============================================================================
-- Points at equal steps
-- ============================================================================

/-- Every point that the half steps around `n` equally spaced points cover is
    within half a step of one of them. -/
theorem exists_near_of_covered (first step m : ℚ) (hfirst : first - step / 2 ≤ m) :
    ∀ n : Nat, m ≤ first + n * step + step / 2 →
      ∃ k < n + 1, |first + k * step - m| ≤ step / 2 := by
  intro n
  induction n with
  | zero =>
      intro hlast
      refine ⟨0, by omega, ?_⟩
      rw [Nat.cast_zero, zero_mul, add_zero] at *
      rw [abs_le]
      constructor <;> linarith
  | succ n ih =>
      intro hlast
      rcases le_total m (first + n * step + step / 2) with hbefore | hafter
      · obtain ⟨k, hk, hnear⟩ := ih hbefore
        exact ⟨k, by omega, hnear⟩
      · refine ⟨n + 1, by omega, ?_⟩
        rw [Nat.cast_succ] at *
        rw [abs_le]
        constructor <;> linarith

-- ============================================================================
-- The section
-- ============================================================================

/-- A section that the layout lays out in one row of a collection view without
    content insets, as wide as an item at least. -/
structure SnapSection where
  collectionView : UICollectionView
  layout : ZoomAndSnapFlowLayout
  cellCount : Nat
  cellWidth : CGFloat
  cellHeight : ℚ
  /-- The top of the cells. -/
  minY : ℚ
  prepared : ({ ZoomAndSnapFlowLayout.init with
    collectionView := some collectionView } : ZoomAndSnapFlowLayout).prepare = some layout
  noInset : collectionView.adjustedContentInset = ⟨0, 0, 0, 0⟩
  viewport_wide : 150 ≤ collectionView.frame.size.width
  nonempty : 1 ≤ cellCount
  cell_wide : 150 ≤ cellWidth.value
  /-- The row crosses the viewport. -/
  crosses : minY < collectionView.frame.size.height ∧ 0 < minY + cellHeight

namespace SnapSection

/-- The cells, as the layout places them. -/
def row (s : SnapSection) : Row where
  layout := s.layout
  cellCount := s.cellCount
  cellSize := ⟨s.cellWidth.value, s.cellHeight⟩
  minY := s.minY

/-- The width of the viewport. -/
def width (s : SnapSection) : ℚ := s.collectionView.frame.size.width

/-- The largest offset that can be scrolled to. -/
def lastOffset (s : SnapSection) : ℚ := s.row.contentWidth - s.width

variable {s : SnapSection} {super : CGRect → Option (List LayoutAttributes)} {p : CGPoint}

theorem layout_eq (s : SnapSection) :
    s.layout = .attached s.collectionView
      ⟨(s.collectionView.frame.size.height - 150) / 2, (s.width - 150) / 2,
        (s.collectionView.frame.size.height - 150) / 2, (s.width - 150) / 2⟩ := by
  have hprepared := s.prepared.symm.trans (ZoomAndSnapFlowLayout.prepare_init s.collectionView)
  rw [Option.some.inj hprepared]
  simp only [UICollectionView.available, s.noInset, sub_zero, width]

theorem centre_eq (s : SnapSection) (k : Nat) :
    s.row.centre k =
      (s.width - 150) / 2 + s.cellWidth.value / 2 + k * (s.cellWidth.value + 40) := by
  rw [Row.centre_eq]
  simp only [row, s.layout_eq, ZoomAndSnapFlowLayout.attached, ZoomAndSnapFlowLayout.init]

theorem lastOffset_eq (s : SnapSection) :
    s.lastOffset = s.cellCount * s.cellWidth.value + (s.cellCount - 1) * 40 - 150 := by
  simp only [lastOffset, Row.contentWidth, row, s.layout_eq, ZoomAndSnapFlowLayout.attached,
    ZoomAndSnapFlowLayout.init]
  ring

/-- Scrolling to a cell stays inside the content: the outer cells are reachable. -/
theorem centre_sub_mem_range (s : SnapSection) {k : Nat} (hk : k < s.cellCount) :
    0 ≤ s.row.centre k - s.width / 2 ∧ s.row.centre k - s.width / 2 ≤ s.lastOffset := by
  have hwide := s.cell_wide
  have hk0 : (0 : ℚ) ≤ k := Nat.cast_nonneg k
  have hk1 : (k : ℚ) + 1 ≤ s.cellCount := by exact_mod_cast hk
  have hstep : 0 ≤ k * (s.cellWidth.value + 40) := mul_nonneg hk0 (by linarith)
  have hlast : (k + 1 : ℚ) * (s.cellWidth.value + 40) ≤
      s.cellCount * (s.cellWidth.value + 40) :=
    mul_le_mul_of_nonneg_right hk1 (by linarith)
  rw [centre_eq, lastOffset_eq]
  constructor <;> linarith

/-- Some cell is centred within half a step of the middle of the viewport. -/
theorem exists_near_centre (s : SnapSection) (hp : 0 ≤ p.x ∧ p.x ≤ s.lastOffset) :
    ∃ k < s.cellCount,
      |s.row.centre k - (p.x + s.width / 2)| ≤ (s.cellWidth.value + 40) / 2 := by
  have hwide := s.cell_wide
  have hcount : s.cellCount - 1 + 1 = s.cellCount := Nat.sub_add_cancel s.nonempty
  have hcast : ((s.cellCount - 1 : Nat) : ℚ) = s.cellCount - 1 := Nat.cast_pred s.nonempty
  have hlast := hp.2
  rw [lastOffset_eq] at hlast
  obtain ⟨k, hk, hnear⟩ :=
    exists_near_of_covered ((s.width - 150) / 2 + s.cellWidth.value / 2)
      (s.cellWidth.value + 40) (p.x + s.width / 2) (by linarith)
      (s.cellCount - 1) (by rw [hcast]; linarith)
  refine ⟨k, hcount ▸ hk, ?_⟩
  rw [centre_eq]
  exact hnear

-- ============================================================================
-- The loop of `targetContentOffset`
-- ============================================================================

/-- The rectangle the layout asks its superclass about. -/
def targetRect (s : SnapSection) (p : CGPoint) : CGRect :=
  ⟨⟨p.x, 0⟩, s.collectionView.frame.size⟩

theorem meets_targetRect_iff (s : SnapSection) (p : CGPoint) (k : Nat) :
    (s.row.cell k).frame.intersects (s.targetRect p) = true ↔
      |s.row.centre k - (p.x + s.width / 2)| < (s.cellWidth.value + s.width) / 2 := by
  have hcrosses : s.row.minY < (s.targetRect p).maxY ∧
      (s.targetRect p).minY < s.row.minY + s.row.cellSize.height := by
    simpa [targetRect, CGRect.maxY, CGRect.minY, row] using s.crosses
  rw [Row.cell_intersects_iff]
  exact and_iff_left hcrosses

/-- The loop keeps the smallest of the adjustments that centre a returned cell. -/
theorem targetContentOffset_eq (s : SnapSection) {attributes : List LayoutAttributes}
    (hsome : super (s.targetRect p) = some attributes) :
    s.layout.targetContentOffset super p =
      ⟨p.x + (attributes.map fun a => a.center.x - (p.x + s.width / 2)).foldl
        (Lib.keepSmaller fun adjustment => |adjustment|) greatestFiniteMagnitude, p.y⟩ := by
  have hview : s.layout.collectionView = some s.collectionView := by rw [s.layout_eq]; rfl
  have hsome' : super ⟨⟨p.x, 0⟩, s.collectionView.frame.size⟩ = some attributes := hsome
  simp only [ZoomAndSnapFlowLayout.targetContentOffset, hview, hsome', List.foldl_map]
  rfl

/-- Wherever scrolling is about to stop inside the content, it stops with a cell
    in the middle, and no other cell of the section would have been nearer. -/
theorem targetContentOffset_centres (s : SnapSection) (hsuper : s.row.ReturnedBy super)
    (hp : 0 ≤ p.x ∧ p.x ≤ s.lastOffset) :
    ∃ k < s.cellCount,
      s.layout.targetContentOffset super p = ⟨s.row.centre k - s.width / 2, p.y⟩ ∧
      ∀ j < s.cellCount, |s.row.centre k - (p.x + s.width / 2)| ≤
        |s.row.centre j - (p.x + s.width / 2)| := by
  obtain ⟨attributes, hsome, -⟩ := hsuper (s.targetRect p)
  have hmem : ∀ d, d ∈ attributes.map (fun a => a.center.x - (p.x + s.width / 2)) ↔
      ∃ k < s.cellCount, |s.row.centre k - (p.x + s.width / 2)| <
        (s.cellWidth.value + s.width) / 2 ∧ s.row.centre k - (p.x + s.width / 2) = d := by
    intro d
    simp only [List.mem_map, hsuper.mem_iff hsome, meets_targetRect_iff]
    constructor
    · rintro ⟨_, ⟨k, hk, hmeets, rfl⟩, rfl⟩
      exact ⟨k, hk, hmeets, rfl⟩
    · rintro ⟨k, hk, hmeets, rfl⟩
      exact ⟨_, ⟨k, hk, hmeets, rfl⟩, rfl⟩
  rw [targetContentOffset_eq s hsome]
  generalize attributes.map (fun a => a.center.x - (p.x + s.width / 2)) = adjustments at *
  -- the near cell is one of the returned ones, and beats the initial value
  obtain ⟨i, hi, hnear⟩ := s.exists_near_centre hp
  have hviewport : (150 : ℚ) ≤ s.width := s.viewport_wide
  have hmeets : |s.row.centre i - (p.x + s.width / 2)| < (s.cellWidth.value + s.width) / 2 := by
    linarith
  have himem := (hmem _).mpr ⟨i, hi, hmeets, rfl⟩
  have hfinite : s.cellWidth.value ≤ greatestFiniteMagnitude :=
    (le_abs_self _).trans s.cellWidth.finite
  have hbeats : |s.row.centre i - (p.x + s.width / 2)| < |greatestFiniteMagnitude| := by
    have hlarge : 40 < greatestFiniteMagnitude := lt_greatestFiniteMagnitude (by norm_num)
    have habs := le_abs_self greatestFiniteMagnitude
    linarith
  obtain ⟨k, hk, -, hresult⟩ := (hmem _).mp
    (Lib.foldl_keepSmaller_mem_of_lt himem hbeats)
  refine ⟨k, hk, ?_, ?_⟩
  · rw [← hresult, CGPoint.mk.injEq]
    exact ⟨by ring, rfl⟩
  · intro j hj
    rw [hresult]
    by_cases hreturned : |s.row.centre j - (p.x + s.width / 2)| < (s.cellWidth.value + s.width) / 2
    · exact Lib.key_foldl_keepSmaller_le _ _ ((hmem _).mpr ⟨j, hj, hreturned, rfl⟩)
    · have hbest := Lib.key_foldl_keepSmaller_le (fun adjustment : ℚ => |adjustment|)
        greatestFiniteMagnitude himem
      exact hbest.trans (by linarith)

/-- **Snapping.**  From every offset inside the content, scrolling stops inside
    the content with a cell in the middle of the viewport, no cell of the section
    being nearer to the middle; the vertical offset stays, and stopping there
    once more changes nothing. -/
theorem targetContentOffset_snaps (s : SnapSection) (hsuper : s.row.ReturnedBy super)
    (hp : 0 ≤ p.x ∧ p.x ≤ s.lastOffset) :
    let q := s.layout.targetContentOffset super p
    (0 ≤ q.x ∧ q.x ≤ s.lastOffset) ∧
      (∃ k < s.cellCount, q.x + s.width / 2 = s.row.centre k ∧
        ∀ j < s.cellCount, ¬ |s.row.centre j - (p.x + s.width / 2)| <
          |s.row.centre k - (p.x + s.width / 2)|) ∧
      q.y = p.y ∧ s.layout.targetContentOffset super q = q := by
  intro q
  obtain ⟨k, hk, hq, hnearest⟩ := s.targetContentOffset_centres hsuper hp
  have hrange : 0 ≤ q.x ∧ q.x ≤ s.lastOffset := by
    rw [show q = _ from hq]
    exact s.centre_sub_mem_range hk
  have hcentred : q.x + s.width / 2 = s.row.centre k := by
    rw [show q = _ from hq]
    exact sub_add_cancel (s.row.centre k) (s.width / 2)
  have hy : q.y = p.y := by rw [show q = _ from hq]
  refine ⟨hrange, ⟨k, hk, hcentred, fun j hj => not_lt.mpr (hnearest j hj)⟩, hy, ?_⟩
  -- the middle is already on a centre, so the nearest cell is at distance 0
  obtain ⟨k', hk', hq', hnearest'⟩ := s.targetContentOffset_centres hsuper hrange
  have hzero := hnearest' k hk
  rw [hcentred, sub_self, abs_zero, abs_nonpos_iff, sub_eq_zero] at hzero
  rw [hq', hzero, ← hcentred, add_sub_cancel_right]

/-- Three parking lots on a screen 390 points wide. -/
def threeLots : SnapSection where
  collectionView :=
    { frame := ⟨⟨0, 0⟩, ⟨390, 422⟩⟩, contentOffset := ⟨0, 0⟩, adjustedContentInset := ⟨0, 0, 0, 0⟩ }
  layout := .attached
    { frame := ⟨⟨0, 0⟩, ⟨390, 422⟩⟩, contentOffset := ⟨0, 0⟩, adjustedContentInset := ⟨0, 0, 0, 0⟩ }
    ⟨136, 120, 136, 120⟩
  cellCount := 3
  cellWidth := ⟨195, (lt_greatestFiniteMagnitude (by decide +kernel)).le⟩
  cellHeight := 844 / 3
  minY := 136
  prepared := by decide +kernel
  noInset := rfl
  viewport_wide := by decide +kernel
  nonempty := by decide
  cell_wide := by decide +kernel
  crosses := by decide +kernel

/-- A fling over the three lots that would stop at offset 100. -/
theorem threeLots_snaps :
    let super := fun rect => some (threeLots.row.cells.filter fun a => a.frame.intersects rect)
    let q := threeLots.layout.targetContentOffset super ⟨100, 0⟩
    (0 ≤ q.x ∧ q.x ≤ threeLots.lastOffset) ∧
      (∃ k < threeLots.cellCount, q.x + threeLots.width / 2 = threeLots.row.centre k ∧
        ∀ j < threeLots.cellCount, ¬ |threeLots.row.centre j - (100 + threeLots.width / 2)| <
          |threeLots.row.centre k - (100 + threeLots.width / 2)|) ∧
      q.y = 0 ∧ threeLots.layout.targetContentOffset super q = q := by
  refine threeLots.targetContentOffset_snaps (p := ⟨100, 0⟩) ?_ ?_
  · intro rect
    exact ⟨_, rfl, .refl _⟩
  · rw [lastOffset_eq]
    norm_num [threeLots]

end SnapSection

end Spark
