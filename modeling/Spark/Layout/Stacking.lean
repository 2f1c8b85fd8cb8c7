/-
  Spark.Layout.Stacking

  How the zoomed cells lie over each other.  `ShownRow` is a row of equal cells
  of positive width in a collection view that `ZoomAndSnapFlowLayout` lays out,
  at any scroll offset.

  Every zoomed cell gets the same `zIndex`, so the layers are right only because
  two zoomed cells never overlap (`not_overlaps_of_zoomed`): they are
  `minimumLineSpacing` apart, and a cell is zoomed the less the farther it is
  from the middle.  An overlap is one of a zoomed and an untouched cell, and the
  zoomed one is the nearer (`nearer_of_zoomed`).
-/

import Spark.Layout.ZoomAndSnapFlowLayout

namespace Spark

-- ============================================================================
-- Scaled frames
-- ============================================================================

namespace LayoutAttributes

/-- The left end of the frame, scaled about the centre. -/
def scaledMinX (a : LayoutAttributes) : ℚ := a.center.x - a.frame.size.width / 2 * a.transform3D.sx

/-- The right end of the frame, scaled about the centre. -/
def scaledMaxX (a : LayoutAttributes) : ℚ := a.center.x + a.frame.size.width / 2 * a.transform3D.sx

/-- The scaled frames overlap in an interval of positive length. -/
def Overlaps (a b : LayoutAttributes) : Prop :=
  max a.scaledMinX b.scaledMinX < min a.scaledMaxX b.scaledMaxX

theorem Overlaps.symm {a b : LayoutAttributes} (h : a.Overlaps b) : b.Overlaps a := by
  unfold Overlaps at *
  rwa [max_comm, min_comm]

theorem Overlaps.abs_sub_lt {a b : LayoutAttributes} (h : a.Overlaps b) :
    |a.center.x - b.center.x| <
      a.frame.size.width / 2 * a.transform3D.sx + b.frame.size.width / 2 * b.transform3D.sx := by
  unfold Overlaps scaledMinX scaledMaxX at h
  rw [max_lt_iff, lt_min_iff, lt_min_iff] at h
  obtain ⟨⟨-, hab⟩, hba, -⟩ := h
  rw [abs_lt]
  constructor <;> linarith

end LayoutAttributes

-- ============================================================================
-- What the layout does to one cell
-- ============================================================================

namespace ZoomAndSnapFlowLayout

/-- How far the centre of a cell is from the middle of the visible rectangle. -/
def distance (visibleRect : CGRect) (a : LayoutAttributes) : ℚ :=
  |visibleRect.midX - a.center.x|

/-- The cells that the loop of `layoutAttributesForElements` zooms. -/
def IsZoomed (visibleRect : CGRect) (a : LayoutAttributes) : Prop :=
  a.frame.intersects visibleRect = true ∧ distance visibleRect a < activeDistance

/-- The zoom at a distance from the middle. -/
def zoomAt (d : ℚ) : ℚ := 1 + zoomFactor * (1 - d / activeDistance)

theorem rounded_eq_one {x : ℚ} (hlow : 1 ≤ x) (hhigh : x < 3 / 2) : rounded x = 1 := by
  rw [rounded, if_pos (by linarith), Int.floor_eq_iff]
  push_cast
  constructor <;> linarith

theorem rounded_zoomAt {d : ℚ} (hd : 0 ≤ d) (hactive : d < activeDistance) :
    rounded (zoomAt d) = 1 := by
  unfold activeDistance at hactive
  apply rounded_eq_one <;> unfold zoomAt zoomFactor activeDistance <;> linarith

theorem zoomed_of_isZoomed {visibleRect : CGRect} {a : LayoutAttributes}
    (h : IsZoomed visibleRect a) :
    zoomed visibleRect a =
      { a with
        transform3D := ⟨zoomAt (distance visibleRect a), zoomAt (distance visibleRect a), 1⟩
        zIndex := 1 } := by
  have hdistance : |visibleRect.midX - a.center.x| < activeDistance := h.2
  have hnormalized : |(visibleRect.midX - a.center.x) / activeDistance| =
      distance visibleRect a / activeDistance := by
    rw [abs_div, abs_of_pos (by norm_num [activeDistance] : (0 : ℚ) < activeDistance)]
    rfl
  have hrounded := rounded_zoomAt (abs_nonneg (visibleRect.midX - a.center.x)) h.2
  simp only [zoomed, if_pos h.1, if_pos hdistance, hnormalized]
  rw [← hrounded]
  rfl

theorem zoomed_of_not_isZoomed {visibleRect : CGRect} {a : LayoutAttributes}
    (h : ¬ IsZoomed visibleRect a) : zoomed visibleRect a = a := by
  unfold zoomed
  split
  case isTrue hmeets => exact if_neg fun hdistance => h ⟨hmeets, hdistance⟩
  case isFalse => rfl

/-- The layout zooms a cell, it does not move it. -/
@[simp] theorem zoomed_frame (visibleRect : CGRect) (a : LayoutAttributes) :
    (zoomed visibleRect a).frame = a.frame := by
  by_cases h : IsZoomed visibleRect a
  · rw [zoomed_of_isZoomed h]
  · rw [zoomed_of_not_isZoomed h]

@[simp] theorem zoomed_center (visibleRect : CGRect) (a : LayoutAttributes) :
    (zoomed visibleRect a).center = a.center := by
  simp only [LayoutAttributes.center, zoomed_frame]

end ZoomAndSnapFlowLayout

open ZoomAndSnapFlowLayout

-- ============================================================================
-- The row on the screen
-- ============================================================================

/-- A row of equal cells in a collection view, at any scroll offset. -/
structure ShownRow where
  collectionView : UICollectionView
  sectionInset : UIEdgeInsets
  cellCount : Nat
  cellSize : CGSize
  /-- The top of the cells. -/
  minY : ℚ
  width_pos : 0 < cellSize.width

namespace ShownRow

def layout (s : ShownRow) : ZoomAndSnapFlowLayout := .attached s.collectionView s.sectionInset

/-- The cells, as the layout places them. -/
def row (s : ShownRow) : Row where
  layout := s.layout
  cellCount := s.cellCount
  cellSize := s.cellSize
  minY := s.minY

def visibleRect (s : ShownRow) : CGRect :=
  ⟨s.collectionView.contentOffset, s.collectionView.frame.size⟩

/-- How far a cell is from the middle of the viewport. -/
def distanceOf (s : ShownRow) (k : Nat) : ℚ := distance s.visibleRect (s.row.cell k)

variable {s : ShownRow} {j k : Nat}

/-- Two cells are a width and the line spacing apart, or more. -/
theorem le_abs_centre_sub (s : ShownRow) (hne : j ≠ k) :
    s.cellSize.width + 40 ≤ |s.row.centre j - s.row.centre k| := by
  have hwidth := s.width_pos
  have hstep : ∀ k, s.row.centre k = s.sectionInset.left + s.cellSize.width / 2 +
      k * (s.cellSize.width + 40) := fun k => s.row.centre_eq k
  have hint : (1 : ℤ) ≤ |(j : ℤ) - k| := Int.one_le_abs (by omega)
  have hcast : (1 : ℚ) ≤ |(j : ℚ) - k| := by exact_mod_cast hint
  calc s.cellSize.width + 40
      ≤ |(j : ℚ) - k| * (s.cellSize.width + 40) :=
        le_mul_of_one_le_left (by linarith) hcast
    _ = |((j : ℚ) - k) * (s.cellSize.width + 40)| := by
        rw [abs_mul, abs_of_pos (by linarith : 0 < s.cellSize.width + 40)]
    _ = |s.row.centre j - s.row.centre k| := by
        rw [hstep, hstep]
        ring_nf

theorem abs_centre_sub_le (s : ShownRow) (j k : Nat) :
    |s.row.centre j - s.row.centre k| ≤ s.distanceOf j + s.distanceOf k := by
  have h := abs_sub_le (s.row.centre j) s.visibleRect.midX (s.row.centre k)
  rw [abs_sub_comm (s.row.centre j) s.visibleRect.midX] at h
  exact h

/-- A zoomed cell is strictly nearer to the middle than an untouched one. -/
theorem nearer_of_zoomed (hj : IsZoomed s.visibleRect (s.row.cell j))
    (hk : ¬ IsZoomed s.visibleRect (s.row.cell k)) : s.distanceOf j < s.distanceOf k := by
  obtain ⟨hmeets, hactive⟩ := hj
  by_cases hkmeets : (s.row.cell k).frame.intersects s.visibleRect = true
  · have hfar : ¬ s.distanceOf k < activeDistance := fun hnear => hk ⟨hkmeets, hnear⟩
    exact lt_of_lt_of_le hactive (not_lt.mp hfar)
  · -- both cells are in one row, so the other one is off the screen to a side
    rw [Row.cell_intersects_iff] at hmeets hkmeets
    have hfar := not_lt.mp fun hnear => hkmeets ⟨hnear, hmeets.2⟩
    have hlt := hmeets.1.trans_le hfar
    rw [abs_sub_comm, abs_sub_comm (s.row.centre k)] at hlt
    exact hlt

-- ============================================================================
-- Overlapping cells
-- ============================================================================

theorem scale_of_zoomed (hk : IsZoomed s.visibleRect (s.row.cell k)) :
    (zoomed s.visibleRect (s.row.cell k)).transform3D.sx = zoomAt (s.distanceOf k) := by
  rw [zoomed_of_isZoomed hk]
  rfl

theorem scale_of_not_zoomed (hk : ¬ IsZoomed s.visibleRect (s.row.cell k)) :
    (zoomed s.visibleRect (s.row.cell k)).transform3D.sx = 1 := by
  rw [zoomed_of_not_isZoomed hk]
  rfl

theorem abs_centre_sub_lt_of_overlaps
    (h : (zoomed s.visibleRect (s.row.cell j)).Overlaps (zoomed s.visibleRect (s.row.cell k))) :
    |s.row.centre j - s.row.centre k| <
      s.cellSize.width / 2 * (zoomed s.visibleRect (s.row.cell j)).transform3D.sx +
        s.cellSize.width / 2 * (zoomed s.visibleRect (s.row.cell k)).transform3D.sx := by
  have hlt := h.abs_sub_lt
  rw [zoomed_center, zoomed_center, zoomed_frame, zoomed_frame] at hlt
  exact hlt

/-- Two zoomed cells never overlap: what the zoom adds to the two half widths is
    less than the line spacing, or the cells are so far apart that they are
    hardly zoomed. -/
theorem not_overlaps_of_zoomed (hne : j ≠ k) (hj : IsZoomed s.visibleRect (s.row.cell j))
    (hk : IsZoomed s.visibleRect (s.row.cell k)) :
    ¬ (zoomed s.visibleRect (s.row.cell j)).Overlaps (zoomed s.visibleRect (s.row.cell k)) := by
  intro hoverlaps
  have hlt := abs_centre_sub_lt_of_overlaps hoverlaps
  rw [scale_of_zoomed hj, scale_of_zoomed hk] at hlt
  unfold zoomAt zoomFactor activeDistance at hlt
  have hwidth := s.width_pos
  have happart := s.le_abs_centre_sub hne
  have hsum := s.abs_centre_sub_le j k
  generalize s.cellSize.width = w at *
  generalize |s.row.centre j - s.row.centre k| = apart at *
  have hunzoomed : w * apart ≤ w * (s.distanceOf j + s.distanceOf k) :=
    mul_le_mul_of_nonneg_left hsum hwidth.le
  have hspaced : w * (w + 40) ≤ w * apart := mul_le_mul_of_nonneg_left happart hwidth.le
  have hsquare := sq_nonneg (w - 180)
  linarith

/-- Two untouched cells do not overlap, nor does a zoomed one reach an untouched
    one across the line spacing unless the cells are wide. -/
theorem wide_of_overlaps (hne : j ≠ k) (hk : ¬ IsZoomed s.visibleRect (s.row.cell k))
    (h : (zoomed s.visibleRect (s.row.cell j)).Overlaps (zoomed s.visibleRect (s.row.cell k))) :
    IsZoomed s.visibleRect (s.row.cell j) ∧ 800 / 3 < s.cellSize.width := by
  have hlt := abs_centre_sub_lt_of_overlaps h
  have hwidth := s.width_pos
  have happart := s.le_abs_centre_sub hne
  rw [scale_of_not_zoomed hk] at hlt
  by_cases hj : IsZoomed s.visibleRect (s.row.cell j)
  · refine ⟨hj, ?_⟩
    rw [scale_of_zoomed hj] at hlt
    unfold zoomAt zoomFactor activeDistance at hlt
    have hshrinks : 0 ≤ s.cellSize.width * s.distanceOf j :=
      mul_nonneg hwidth.le (abs_nonneg _)
    linarith
  · rw [scale_of_not_zoomed hj] at hlt
    linarith

theorem zIndex_of_zoomed (hk : IsZoomed s.visibleRect (s.row.cell k)) :
    (zoomed s.visibleRect (s.row.cell k)).zIndex = 1 := by
  rw [zoomed_of_isZoomed hk]

theorem zIndex_of_not_zoomed (hk : ¬ IsZoomed s.visibleRect (s.row.cell k)) :
    (zoomed s.visibleRect (s.row.cell k)).zIndex = 0 := by
  rw [zoomed_of_not_isZoomed hk]
  rfl

/-- The first of two cells lies over the second, and is nearer to the middle. -/
def LiesOver (s : ShownRow) (a b : LayoutAttributes) : Prop :=
  distance s.visibleRect a < distance s.visibleRect b ∧ b.zIndex < a.zIndex

theorem liesOver_of_zoomed (hj : IsZoomed s.visibleRect (s.row.cell j))
    (hk : ¬ IsZoomed s.visibleRect (s.row.cell k)) :
    s.LiesOver (zoomed s.visibleRect (s.row.cell j)) (zoomed s.visibleRect (s.row.cell k)) := by
  unfold LiesOver distance
  rw [zoomed_center, zoomed_center, zIndex_of_zoomed hj, zIndex_of_not_zoomed hk]
  exact ⟨nearer_of_zoomed hj hk, one_pos⟩

/-- Overlapping cells are wide, and one lies over the other. -/
theorem liesOver_of_overlaps (hne : j ≠ k)
    (h : (zoomed s.visibleRect (s.row.cell j)).Overlaps (zoomed s.visibleRect (s.row.cell k))) :
    (s.LiesOver (zoomed s.visibleRect (s.row.cell j)) (zoomed s.visibleRect (s.row.cell k)) ∨
      s.LiesOver (zoomed s.visibleRect (s.row.cell k)) (zoomed s.visibleRect (s.row.cell j))) ∧
      800 / 3 < s.cellSize.width := by
  by_cases hk : IsZoomed s.visibleRect (s.row.cell k)
  · have hj : ¬ IsZoomed s.visibleRect (s.row.cell j) := fun hj => not_overlaps_of_zoomed hne hj hk h
    exact ⟨Or.inr (liesOver_of_zoomed hk hj), (wide_of_overlaps hne.symm hj h.symm).2⟩
  · obtain ⟨hj, hwide⟩ := wide_of_overlaps hne hk h
    exact ⟨Or.inl (liesOver_of_zoomed hj hk), hwide⟩

/-- **Stacking.**  Of two returned cells whose scaled frames overlap, the one
    nearer to the middle of the visible rectangle has the larger `zIndex`; cells
    at most 800/3 wide never overlap. -/
theorem layoutAttributesForElements_stacked (s : ShownRow)
    {super : CGRect → Option (List LayoutAttributes)} (hsuper : s.row.ReturnedBy super)
    (rect : CGRect) :
    ∃ attributes, s.layout.layoutAttributesForElements super rect = some (some attributes) ∧
      ∀ a ∈ attributes, ∀ b ∈ attributes, a.item ≠ b.item →
        (a.Overlaps b →
          distance s.visibleRect a < distance s.visibleRect b ∧ b.zIndex < a.zIndex ∨
            distance s.visibleRect b < distance s.visibleRect a ∧ a.zIndex < b.zIndex) ∧
          (s.cellSize.width ≤ 800 / 3 → ¬ a.Overlaps b) := by
  obtain ⟨untouched, hsome, -⟩ := hsuper rect
  refine ⟨untouched.map (zoomed s.visibleRect), ?_, ?_⟩
  · simp only [layoutAttributesForElements, layout, attached, hsome]
    rfl
  · intro a ha b hb hitem
    obtain ⟨_, hmem, rfl⟩ := List.mem_map.mp ha
    obtain ⟨_, hmem', rfl⟩ := List.mem_map.mp hb
    obtain ⟨j, -, -, rfl⟩ := (hsuper.mem_iff hsome).mp hmem
    obtain ⟨k, -, -, rfl⟩ := (hsuper.mem_iff hsome).mp hmem'
    have hne : j ≠ k := fun heq => hitem (by rw [heq])
    constructor
    · intro hoverlaps
      exact (liesOver_of_overlaps hne hoverlaps).1
    · intro hnarrow hoverlaps
      exact absurd (liesOver_of_overlaps hne hoverlaps).2 (not_lt.mpr hnarrow)

/-- Three parking lots on a tablet, scrolled a quarter of a cell to the left. -/
def wideLots : ShownRow where
  collectionView :=
    { frame := ⟨⟨0, 0⟩, ⟨1024, 600⟩⟩, contentOffset := ⟨128, 0⟩,
      adjustedContentInset := ⟨0, 0, 0, 0⟩ }
  sectionInset := ⟨225, 437, 225, 437⟩
  cellCount := 3
  cellSize := ⟨512, 455⟩
  minY := 72
  width_pos := by norm_num

/-- The first lot is zoomed and overlaps the second. -/
theorem wideLots_overlaps :
    (zoomed wideLots.visibleRect (wideLots.row.cell 0)).Overlaps
        (zoomed wideLots.visibleRect (wideLots.row.cell 1)) ∧
      (zoomed wideLots.visibleRect (wideLots.row.cell 1)).zIndex <
        (zoomed wideLots.visibleRect (wideLots.row.cell 0)).zIndex := by
  unfold LayoutAttributes.Overlaps
  decide +kernel

/-- The theorem at these lots, for every cell of the row: the first two overlap,
    and the first, the nearer one, lies over the second. -/
theorem wideLots_stacked :
    let super := fun rect => some (wideLots.row.cells.filter fun a => a.frame.intersects rect)
    ∃ attributes, wideLots.layout.layoutAttributesForElements super ⟨⟨0, 0⟩, ⟨2048, 600⟩⟩ =
        some (some attributes) ∧
      (∃ a ∈ attributes, ∃ b ∈ attributes, a.item = 0 ∧ b.item = 1 ∧ a.Overlaps b ∧
        distance wideLots.visibleRect a < distance wideLots.visibleRect b ∧
          b.zIndex < a.zIndex) ∧
      ∀ a ∈ attributes, ∀ b ∈ attributes, a.item ≠ b.item →
        (a.Overlaps b →
          distance wideLots.visibleRect a < distance wideLots.visibleRect b ∧
              b.zIndex < a.zIndex ∨
            distance wideLots.visibleRect b < distance wideLots.visibleRect a ∧
              a.zIndex < b.zIndex) ∧
          (wideLots.cellSize.width ≤ 800 / 3 → ¬ a.Overlaps b) := by
  intro super
  have hsuper : wideLots.row.ReturnedBy super := fun rect => ⟨_, rfl, .refl _⟩
  obtain ⟨attributes, hsome, hstacked⟩ :=
    wideLots.layoutAttributesForElements_stacked hsuper ⟨⟨0, 0⟩, ⟨2048, 600⟩⟩
  have hcells : wideLots.layout.layoutAttributesForElements super ⟨⟨0, 0⟩, ⟨2048, 600⟩⟩ =
      some (some ((wideLots.row.cells.filter fun a => a.frame.intersects
        ⟨⟨0, 0⟩, ⟨2048, 600⟩⟩).map (zoomed wideLots.visibleRect))) := rfl
  obtain rfl := Option.some.inj (Option.some.inj (hsome.symm.trans hcells))
  have hmem : ∀ k < 2, wideLots.row.cell k ∈ wideLots.row.cells.filter fun a =>
      a.frame.intersects ⟨⟨0, 0⟩, ⟨2048, 600⟩⟩ := by
    decide +kernel
  have hfirst := List.mem_map_of_mem (f := zoomed wideLots.visibleRect) (hmem 0 (by decide))
  have hsecond := List.mem_map_of_mem (f := zoomed wideLots.visibleRect) (hmem 1 (by decide))
  obtain ⟨hoverlaps, hover⟩ := wideLots_overlaps
  refine ⟨_, hsome, ⟨_, hfirst, _, hsecond, by decide +kernel, by decide +kernel, hoverlaps,
    ?_, hover⟩, hstacked⟩
  rcases (hstacked _ hfirst _ hsecond (by decide +kernel)).1 hoverlaps with ⟨hnearer, -⟩ | ⟨-, hunder⟩
  · exact hnearer
  · exact absurd hover (not_lt.mpr hunder.le)

end ShownRow

end Spark
