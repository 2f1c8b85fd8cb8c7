/-
  Spark.Layout.ZoomAndSnapFlowLayout

  `ZoomAndSnapFlowLayout`, the layout of the horizontal list of parking lots: it
  insets the section so that the outer cells can be centred, zooms the cells
  near the centre and stops scrolling where a cell is centred.

  The layout asks its superclass for the attributes of the cells in a
  rectangle.  `super` is that function; `Row` is what it is asked about, a
  section of equal cells that `UICollectionViewFlowLayout` has laid out in one
  row, and `Row.ReturnedBy` what is relied on: the cells whose frames meet the
  rectangle, untouched, in any order.
-/

import Spark.Platform.CoreGraphics
import Mathlib.Tactic.Linarith
import Mathlib.Tactic.Ring

namespace Spark

-- ============================================================================
-- The layout
-- ============================================================================

structure UICollectionView where
  frame : CGRect
  contentOffset : CGPoint
  adjustedContentInset : UIEdgeInsets
  deriving DecidableEq, Repr

/-- The width and the height the insets of the collection view leave. -/
def UICollectionView.available (cv : UICollectionView) : CGSize :=
  ⟨cv.frame.size.width - cv.adjustedContentInset.right - cv.adjustedContentInset.left,
   cv.frame.size.height - cv.adjustedContentInset.top - cv.adjustedContentInset.bottom⟩

/-- `UICollectionViewLayoutAttributes` of a cell; `frame` is the frame before
    the transform. -/
structure LayoutAttributes where
  item : Nat
  frame : CGRect
  transform3D : CATransform3D := .identity
  zIndex : Int := 0
  deriving DecidableEq, Repr

def LayoutAttributes.center (a : LayoutAttributes) : CGPoint := ⟨a.frame.midX, a.frame.midY⟩

inductive ScrollDirection
  | vertical
  | horizontal
  deriving DecidableEq, Repr

structure ZoomAndSnapFlowLayout where
  collectionView : Option UICollectionView
  scrollDirection : ScrollDirection
  minimumLineSpacing : ℚ
  itemSize : CGSize
  sectionInset : UIEdgeInsets
  deriving DecidableEq, Repr

namespace ZoomAndSnapFlowLayout

def activeDistance : ℚ := 200

def zoomFactor : ℚ := 0.3

def init : ZoomAndSnapFlowLayout where
  collectionView := none
  scrollDirection := .horizontal
  minimumLineSpacing := 40
  itemSize := ⟨150, 150⟩
  sectionInset := ⟨0, 0, 0, 0⟩

/-- `prepare()`; `none` is its `fatalError`. -/
def prepare (layout : ZoomAndSnapFlowLayout) : Option ZoomAndSnapFlowLayout :=
  layout.collectionView.map fun collectionView =>
    let verticalInsets := (collectionView.frame.size.height -
      collectionView.adjustedContentInset.top - collectionView.adjustedContentInset.bottom -
      layout.itemSize.height) / 2
    let horizontalInsets := (collectionView.frame.size.width -
      collectionView.adjustedContentInset.right - collectionView.adjustedContentInset.left -
      layout.itemSize.width) / 2
    { layout with
      sectionInset := ⟨verticalInsets, horizontalInsets, verticalInsets, horizontalInsets⟩ }

/-- What the loop of `layoutAttributesForElements` does to one cell. -/
def zoomed (visibleRect : CGRect) (attributes : LayoutAttributes) : LayoutAttributes :=
  if attributes.frame.intersects visibleRect then
    let distance := visibleRect.midX - attributes.center.x
    let normalizedDistance := distance / activeDistance
    if |distance| < activeDistance then
      let zoom := 1 + zoomFactor * (1 - |normalizedDistance|)
      { attributes with transform3D := ⟨zoom, zoom, 1⟩, zIndex := rounded zoom }
    else attributes
  else attributes

/-- `layoutAttributesForElements(in:)`: `some none` is the result `nil`, `none`
    the trap when the superclass returns `nil`. -/
def layoutAttributesForElements (layout : ZoomAndSnapFlowLayout)
    (super : CGRect → Option (List LayoutAttributes)) (rect : CGRect) :
    Option (Option (List LayoutAttributes)) :=
  match layout.collectionView with
  | none => some none
  | some collectionView =>
      (super rect).map fun rectAttributes =>
        let visibleRect : CGRect := ⟨collectionView.contentOffset, collectionView.frame.size⟩
        some (rectAttributes.map (zoomed visibleRect))

/-- `targetContentOffset(forProposedContentOffset:withScrollingVelocity:)`,
    which does not look at the velocity. -/
def targetContentOffset (layout : ZoomAndSnapFlowLayout)
    (super : CGRect → Option (List LayoutAttributes)) (proposedContentOffset : CGPoint) :
    CGPoint :=
  match layout.collectionView with
  | none => ⟨0, 0⟩
  | some collectionView =>
      let targetRect : CGRect := ⟨⟨proposedContentOffset.x, 0⟩, collectionView.frame.size⟩
      match super targetRect with
      | none => ⟨0, 0⟩
      | some rectAttributes =>
          let horizontalCenter := proposedContentOffset.x + collectionView.frame.size.width / 2
          let offsetAdjustment := rectAttributes.foldl
            (fun offsetAdjustment layoutAttributes =>
              let itemHorizontalCenter := layoutAttributes.center.x
              if |itemHorizontalCenter - horizontalCenter| < |offsetAdjustment| then
                itemHorizontalCenter - horizontalCenter
              else offsetAdjustment)
            greatestFiniteMagnitude
          ⟨proposedContentOffset.x + offsetAdjustment, proposedContentOffset.y⟩

/-- The layout of a collection view, with the insets a `prepare()` has set. -/
def attached (collectionView : UICollectionView) (sectionInset : UIEdgeInsets) :
    ZoomAndSnapFlowLayout :=
  { init with collectionView := some collectionView, sectionInset }

/-- `prepare()` insets for cells of 150 by 150. -/
theorem prepare_init (collectionView : UICollectionView) :
    ({ init with collectionView := some collectionView } : ZoomAndSnapFlowLayout).prepare =
      some (attached collectionView
        ⟨(collectionView.available.height - 150) / 2, (collectionView.available.width - 150) / 2,
          (collectionView.available.height - 150) / 2,
          (collectionView.available.width - 150) / 2⟩) := rfl

end ZoomAndSnapFlowLayout

-- ============================================================================
-- A row of cells
-- ============================================================================

/-- A section of equal cells in one row, as a layout places it. -/
structure Row where
  layout : ZoomAndSnapFlowLayout
  cellCount : Nat
  cellSize : CGSize
  /-- The top of the cells. -/
  minY : ℚ

namespace Row

def cell (row : Row) (k : Nat) : LayoutAttributes where
  item := k
  frame :=
    ⟨⟨row.layout.sectionInset.left +
        k * (row.cellSize.width + row.layout.minimumLineSpacing), row.minY⟩,
      row.cellSize⟩

def cells (row : Row) : List LayoutAttributes := (List.range row.cellCount).map row.cell

def contentWidth (row : Row) : ℚ :=
  row.layout.sectionInset.left + row.cellCount * row.cellSize.width +
    (row.cellCount - 1) * row.layout.minimumLineSpacing + row.layout.sectionInset.right

/-- The centre of a cell. -/
def centre (row : Row) (k : Nat) : ℚ := (row.cell k).center.x

/-- The superclass returns the cells that meet the rectangle, in any order. -/
def ReturnedBy (row : Row) (super : CGRect → Option (List LayoutAttributes)) : Prop :=
  ∀ rect, ∃ attributes, super rect = some attributes ∧
    attributes.Perm (row.cells.filter fun a => a.frame.intersects rect)

theorem mem_cells {row : Row} {a : LayoutAttributes} :
    a ∈ row.cells ↔ ∃ k < row.cellCount, row.cell k = a := by
  simp only [cells, List.mem_map, List.mem_range]

/-- What a superclass that is relied on returns, entry by entry. -/
theorem ReturnedBy.mem_iff {row : Row} {super : CGRect → Option (List LayoutAttributes)}
    (hsuper : row.ReturnedBy super) {rect : CGRect} {attributes : List LayoutAttributes}
    (hsome : super rect = some attributes) {a : LayoutAttributes} :
    a ∈ attributes ↔
      ∃ k < row.cellCount, (row.cell k).frame.intersects rect = true ∧ row.cell k = a := by
  obtain ⟨attributes', hsome', hperm⟩ := hsuper rect
  obtain rfl := Option.some.inj (hsome.symm.trans hsome')
  rw [hperm.mem_iff, List.mem_filter, mem_cells]
  constructor
  · rintro ⟨⟨k, hk, rfl⟩, hmeets⟩
    exact ⟨k, hk, hmeets, rfl⟩
  · rintro ⟨k, hk, hmeets, rfl⟩
    exact ⟨⟨k, hk, rfl⟩, hmeets⟩

theorem centre_eq (row : Row) (k : Nat) :
    row.centre k = row.layout.sectionInset.left + row.cellSize.width / 2 +
      k * (row.cellSize.width + row.layout.minimumLineSpacing) := by
  simp only [centre, cell, LayoutAttributes.center, CGRect.midX]
  ring

/-- A cell meets a rectangle when its centre is nearer to the middle than half
    the two widths, and the row crosses the rectangle. -/
theorem cell_intersects_iff (row : Row) (k : Nat) (r : CGRect) :
    (row.cell k).frame.intersects r = true ↔
      |row.centre k - r.midX| < (row.cellSize.width + r.size.width) / 2 ∧
        row.minY < r.maxY ∧ r.minY < row.minY + row.cellSize.height := by
  have hcentre : row.centre k = (row.cell k).frame.minX + row.cellSize.width / 2 := rfl
  have hmaxX : (row.cell k).frame.maxX = (row.cell k).frame.minX + row.cellSize.width := rfl
  have hmid : r.midX = r.minX + r.size.width / 2 := rfl
  have hr : r.maxX = r.minX + r.size.width := rfl
  rw [CGRect.intersects_iff, abs_lt, hcentre, hmaxX, hmid, hr]
  refine and_congr ?_ Iff.rfl
  constructor
  · rintro ⟨hleft, hright⟩
    constructor <;> linarith
  · rintro ⟨hleft, hright⟩
    constructor <;> linarith

end Row

end Spark
