/-
  Spark.Platform.CoreGraphics

  Points, sizes, rectangles and insets, over exact rationals, and what the
  collection-view layout calls of `CGFloat`.

  `CGFloat.greatestFiniteMagnitude` is the largest finite double; a value that
  the system hands to the app is a `CGFloat`, so it does not exceed it.
-/

import Mathlib.Algebra.Order.Ring.Rat
import Mathlib.Data.Rat.Floor
import Mathlib.Tactic.NormNum

namespace Spark

/-- `CGFloat.greatestFiniteMagnitude`: `(2 - 2⁻⁵²) * 2¹⁰²³`. -/
def greatestFiniteMagnitude : ℚ := (2 ^ 53 - 1) * 2 ^ 971

/-- Every integer a double represents without gaps is below it. -/
theorem lt_greatestFiniteMagnitude {x : ℚ} (hx : x < 2 ^ 53 - 1) : x < greatestFiniteMagnitude := by
  have hscale : (1 : ℚ) ≤ 2 ^ 971 := one_le_pow₀ one_le_two
  exact hx.trans_le (le_mul_of_one_le_right (by norm_num) hscale)

/-- A finite `CGFloat`, as an exact rational. -/
structure CGFloat where
  value : ℚ
  finite : |value| ≤ greatestFiniteMagnitude

/-- `Int(x.rounded())`: to the nearest integer, halves away from zero. -/
def rounded (x : ℚ) : ℤ := if 0 ≤ x then ⌊x + 1 / 2⌋ else ⌈x - 1 / 2⌉

structure CGPoint where
  x : ℚ
  y : ℚ
  deriving DecidableEq, Repr

structure CGSize where
  width : ℚ
  height : ℚ
  deriving DecidableEq, Repr

structure CGRect where
  origin : CGPoint
  size : CGSize
  deriving DecidableEq, Repr

namespace CGRect

def minX (r : CGRect) : ℚ := r.origin.x
def midX (r : CGRect) : ℚ := r.origin.x + r.size.width / 2
def maxX (r : CGRect) : ℚ := r.origin.x + r.size.width
def minY (r : CGRect) : ℚ := r.origin.y
def midY (r : CGRect) : ℚ := r.origin.y + r.size.height / 2
def maxY (r : CGRect) : ℚ := r.origin.y + r.size.height

/-- `intersects(_:)`: the two rectangles share more than an edge. -/
def intersects (r s : CGRect) : Bool :=
  r.minX < s.maxX && s.minX < r.maxX && r.minY < s.maxY && s.minY < r.maxY

theorem intersects_iff {r s : CGRect} :
    r.intersects s = true ↔
      (r.minX < s.maxX ∧ s.minX < r.maxX) ∧ r.minY < s.maxY ∧ s.minY < r.maxY := by
  simp only [intersects, Bool.and_eq_true, decide_eq_true_eq]
  tauto

end CGRect

structure UIEdgeInsets where
  top : ℚ
  left : ℚ
  bottom : ℚ
  right : ℚ
  deriving DecidableEq, Repr

/-- `CATransform3DMakeScale(sx, sy, sz)`; the identity scales by 1. -/
structure CATransform3D where
  sx : ℚ
  sy : ℚ
  sz : ℚ
  deriving DecidableEq, Repr

def CATransform3D.identity : CATransform3D := ⟨1, 1, 1⟩

end Spark
