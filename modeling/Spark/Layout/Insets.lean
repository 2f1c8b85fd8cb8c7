/-
  Spark.Layout.Insets

  The two places that decide the size of a cell in the list of parking lots.
  `ZoomAndSnapFlowLayout.prepare` insets the section for its own `itemSize`; the
  cells get the size that `GoogleMapController` returns as the delegate, half
  the screen wide and two thirds of what the list's top constraint leaves of the
  screen high.

  `LotList.InsetsAgree` is what the insets are for: the outer cells can be
  centred and the cells fit.  It holds when the delegate happens to return
  `itemSize`, and only then (`insetsAgree_iff_cellSize`).
-/

import Spark.Layout.ZoomAndSnapFlowLayout

namespace Spark

-- ============================================================================
-- The delegate
-- ============================================================================

/-- What `GoogleMapController` reads to size a cell: `UIScreen.main.bounds.size`
    and the constant of `locationsViewTopConstruent`. -/
structure GoogleMapController where
  screen : CGSize
  locationsViewTopConstruent : ℚ
  deriving DecidableEq, Repr

namespace GoogleMapController

/-- The part of `viewDidLoad()` that places the list: half-way down the screen. -/
def viewDidLoad (controller : GoogleMapController) : GoogleMapController :=
  let fullSizeOfScreen := controller.screen.height
  { controller with locationsViewTopConstruent := fullSizeOfScreen - fullSizeOfScreen / 2 }

/-- The layout that `viewDidLoad()` gives the collection view. -/
def flowLayout (collectionView : UICollectionView) : ZoomAndSnapFlowLayout :=
  { ZoomAndSnapFlowLayout.init with
    collectionView := some collectionView
    scrollDirection := .horizontal }

/-- `collectionView(_:layout:sizeForItemAt:)` -/
def sizeForItemAt (controller : GoogleMapController) : CGSize :=
  let screenWidth := controller.screen.width
  let screenHeight := controller.screen.height
  let collectionCellHeight := screenHeight - controller.locationsViewTopConstruent
  let collectionCellHeight := collectionCellHeight - collectionCellHeight / 3
  ⟨screenWidth - screenWidth / 2, collectionCellHeight⟩

end GoogleMapController

-- ============================================================================
-- The list
-- ============================================================================

/-- The list of parking lots once the layout is prepared. -/
structure LotList where
  controller : GoogleMapController
  collectionView : UICollectionView
  layout : ZoomAndSnapFlowLayout
  cellCount : Nat
  /-- The top of the cells. -/
  minY : ℚ
  below : controller.locationsViewTopConstruent < controller.screen.height
  prepared : (GoogleMapController.flowLayout collectionView).prepare = some layout
  nonempty : 1 ≤ cellCount

namespace LotList

def cellSize (s : LotList) : CGSize := s.controller.sizeForItemAt

/-- The cells, as the layout places them. -/
def row (s : LotList) : Row where
  layout := s.layout
  cellCount := s.cellCount
  cellSize := s.cellSize
  minY := s.minY

/-- The offset at which the list starts. -/
def initialOffset (s : LotList) : ℚ := -s.collectionView.adjustedContentInset.left

/-- The offset at which it ends. -/
def finalOffset (s : LotList) : ℚ :=
  s.row.contentWidth + s.collectionView.adjustedContentInset.right -
    s.collectionView.frame.size.width

/-- The middle of what the content insets leave of the viewport, at an offset. -/
def viewportCentre (s : LotList) (offset : ℚ) : ℚ :=
  offset + s.collectionView.adjustedContentInset.left + s.collectionView.available.width / 2

/-- The insets suit the cells: each side leaves half of the available space, the
    outer cells are centred where scrolling ends, and a column fits. -/
structure InsetsAgree (s : LotList) : Prop where
  left : s.layout.sectionInset.left = (s.collectionView.available.width - s.cellSize.width) / 2
  right : s.layout.sectionInset.right = (s.collectionView.available.width - s.cellSize.width) / 2
  top : s.layout.sectionInset.top = (s.collectionView.available.height - s.cellSize.height) / 2
  bottom :
    s.layout.sectionInset.bottom = (s.collectionView.available.height - s.cellSize.height) / 2
  first_centred : s.row.centre 0 = s.viewportCentre s.initialOffset
  last_centred : s.row.centre (s.cellCount - 1) = s.viewportCentre s.finalOffset
  fits : s.cellSize.height + s.layout.sectionInset.top + s.layout.sectionInset.bottom ≤
    s.collectionView.available.height

/-- `prepare()` insets for cells of 150 by 150, whatever the delegate says. -/
theorem layout_eq (s : LotList) :
    s.layout = .attached s.collectionView
      ⟨(s.collectionView.available.height - 150) / 2, (s.collectionView.available.width - 150) / 2,
        (s.collectionView.available.height - 150) / 2,
        (s.collectionView.available.width - 150) / 2⟩ :=
  Option.some.inj (s.prepared.symm.trans (ZoomAndSnapFlowLayout.prepare_init s.collectionView))

theorem sectionInset_eq (s : LotList) :
    s.layout.sectionInset =
      ⟨(s.collectionView.available.height - 150) / 2, (s.collectionView.available.width - 150) / 2,
        (s.collectionView.available.height - 150) / 2,
        (s.collectionView.available.width - 150) / 2⟩ := by
  rw [layout_eq]
  rfl

theorem frame_width_eq (s : LotList) :
    s.collectionView.frame.size.width = s.collectionView.available.width +
      s.collectionView.adjustedContentInset.left +
      s.collectionView.adjustedContentInset.right := by
  unfold UICollectionView.available
  ring

/-- A section whose left and right insets centre the cells has its outer cells
    centred where scrolling ends. -/
theorem outer_centred (s : LotList)
    (hleft : s.layout.sectionInset.left =
      (s.collectionView.available.width - s.cellSize.width) / 2)
    (hright : s.layout.sectionInset.right =
      (s.collectionView.available.width - s.cellSize.width) / 2) :
    s.row.centre 0 = s.viewportCentre s.initialOffset ∧
      s.row.centre (s.cellCount - 1) = s.viewportCentre s.finalOffset := by
  have hcast : ((s.cellCount - 1 : Nat) : ℚ) = s.cellCount - 1 := Nat.cast_pred s.nonempty
  have hframe := s.frame_width_eq
  constructor
  · rw [Row.centre_eq, viewportCentre, initialOffset]
    simp only [row, hleft, Nat.cast_zero]
    ring
  · rw [Row.centre_eq, viewportCentre, finalOffset, Row.contentWidth, hframe]
    simp only [row, hleft, hright, hcast]
    ring

/-- The insets suit exactly the size they were computed for. -/
theorem insetsAgree_iff_cellSize (s : LotList) : s.InsetsAgree ↔ s.cellSize = ⟨150, 150⟩ := by
  have hinset := s.sectionInset_eq
  constructor
  · intro h
    have hleft := h.left
    have htop := h.top
    rw [hinset] at hleft htop
    have hwidth : s.cellSize.width = 150 := by linarith
    have hheight : s.cellSize.height = 150 := by linarith
    exact CGSize.mk.injEq .. ▸ ⟨hwidth, hheight⟩
  · intro hsize
    have hleft : s.layout.sectionInset.left =
        (s.collectionView.available.width - s.cellSize.width) / 2 := by rw [hinset, hsize]
    have hright : s.layout.sectionInset.right =
        (s.collectionView.available.width - s.cellSize.width) / 2 := by rw [hinset, hsize]
    obtain ⟨hfirst, hlast⟩ := s.outer_centred hleft hright
    refine ⟨hleft, hright, ?_, ?_, hfirst, hlast, ?_⟩
    · rw [hinset, hsize]
    · rw [hinset, hsize]
    · rw [hinset, hsize]
      linarith

/-- **Insets.**  The insets suit the cells exactly on a screen 300 points wide
    of which the list's top constraint leaves 225 points. -/
theorem insetsAgree_iff_screen (s : LotList) :
    s.InsetsAgree ↔ s.controller.screen.width = 300 ∧
      s.controller.screen.height - s.controller.locationsViewTopConstruent = 225 := by
  rw [insetsAgree_iff_cellSize, cellSize, GoogleMapController.sizeForItemAt, CGSize.mk.injEq]
  constructor
  · rintro ⟨hwidth, hheight⟩
    constructor <;> linarith
  · rintro ⟨hwidth, hheight⟩
    constructor <;> linarith

/-- As `viewDidLoad()` places the list, that leaves one size of screen. -/
theorem insetsAgree_of_viewDidLoad (s : LotList) {controller : GoogleMapController}
    (hloaded : s.controller = controller.viewDidLoad) :
    s.InsetsAgree ↔ controller.screen = ⟨300, 450⟩ := by
  rw [insetsAgree_iff_cellSize, cellSize, hloaded, GoogleMapController.viewDidLoad,
    GoogleMapController.sizeForItemAt, CGSize.mk.injEq]
  constructor
  · rintro ⟨hwidth, hheight⟩
    have hw : controller.screen.width = 300 := by linarith
    have hh : controller.screen.height = 450 := by linarith
    exact CGSize.mk.injEq .. ▸ ⟨hw, hh⟩
  · intro hscreen
    rw [hscreen]
    norm_num

/-- The list on a phone of 390 by 844 points. -/
def phoneList : LotList where
  controller := GoogleMapController.viewDidLoad ⟨⟨390, 844⟩, 0⟩
  collectionView :=
    { frame := ⟨⟨0, 0⟩, ⟨390, 422⟩⟩, contentOffset := ⟨0, 0⟩, adjustedContentInset := ⟨0, 0, 0, 0⟩ }
  layout := .attached
    { frame := ⟨⟨0, 0⟩, ⟨390, 422⟩⟩, contentOffset := ⟨0, 0⟩, adjustedContentInset := ⟨0, 0, 0, 0⟩ }
    ⟨136, 120, 136, 120⟩
  cellCount := 3
  minY := 136
  below := by norm_num [GoogleMapController.viewDidLoad]
  prepared := by decide +kernel
  nonempty := by norm_num

/-- The cells are 195 points wide there, the insets are for 150. -/
theorem not_insetsAgree_phoneList : ¬ phoneList.InsetsAgree := by
  intro h
  have hleft := h.left
  norm_num [phoneList, ZoomAndSnapFlowLayout.attached, UICollectionView.available, cellSize,
    GoogleMapController.sizeForItemAt, GoogleMapController.viewDidLoad] at hleft

end LotList

end Spark
