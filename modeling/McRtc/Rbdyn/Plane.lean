import Mathlib

/-!
# Coordinates, vectors and the plane of a polygon edge

`planes_from_polygon` (`polygon_utils.cpp`, lines 62-91) turns each edge of a polygon
into a `Plane`: its normal is the edge turned a quarter to the right and normalised, and
its offset puts the edge's end on the plane. This module models that loop body,
`planeThrough`, together with the GEOS coordinates and Eigen vectors it reads.

Arithmetic is exact, over any ordered field with a square root that is exact on
non-negative elements; the reals with `Real.sqrt` are one. The facts proved here are the
ones every later theorem uses: a plane through two distinct points has a unit normal
orthogonal to their edge, both points on the plane, and its value at any point is the
point's turn with respect to the edge divided by the edge's length. A degenerate edge
gives the zero plane.
-/

namespace McRtc

/-- A square root that is exact on non-negative elements: `std::sqrt` under exact
arithmetic. -/
structure SquareRoot (K : Type) [LinearOrderedField K] where
  sqrt : K → K
  sqrt_nonneg : ∀ x, 0 ≤ sqrt x
  mul_self_sqrt : ∀ x, 0 ≤ x → sqrt x * sqrt x = x

/-- A GEOS coordinate. The modelled code reads only `x` and `y`. -/
structure Coordinate (K : Type) where
  x : K
  y : K
deriving DecidableEq, Repr

/-- An `Eigen::Vector3d`. -/
structure Vector3 (K : Type) where
  x : K
  y : K
  z : K
deriving DecidableEq, Repr

/-- `mc_rbdyn::Plane`: the half-space `normal · c + offset ≥ 0`. -/
structure Plane (K : Type) where
  normal : Vector3 K
  offset : K
deriving DecidableEq, Repr

variable {K : Type} [LinearOrderedField K]

namespace SquareRoot

variable (root : SquareRoot K)

/-- The square root of zero is zero. -/
theorem sqrt_zero : root.sqrt 0 = 0 :=
  mul_self_eq_zero.mp (root.mul_self_sqrt 0 le_rfl)

/-- The square root of a positive element is positive. -/
theorem sqrt_pos {x : K} (positive : 0 < x) : 0 < root.sqrt x := by
  rcases (root.sqrt_nonneg x).lt_or_eq with larger | zero
  · exact larger
  · have square := root.mul_self_sqrt x positive.le
    rw [← zero, mul_zero] at square
    exact absurd square positive.ne

/-- The square root of one is one. -/
theorem sqrt_one : root.sqrt 1 = 1 :=
  (mul_self_eq_one_iff.mp (root.mul_self_sqrt 1 zero_le_one)).resolve_right
    (by linarith [root.sqrt_nonneg 1])

end SquareRoot

namespace Vector3

/-- The zero vector. -/
instance : Zero (Vector3 K) := ⟨⟨0, 0, 0⟩⟩

/-- The first coefficient of the zero vector. -/
@[simp] theorem zero_x : (0 : Vector3 K).x = 0 := rfl
/-- The second coefficient of the zero vector. -/
@[simp] theorem zero_y : (0 : Vector3 K).y = 0 := rfl
/-- The third coefficient of the zero vector. -/
@[simp] theorem zero_z : (0 : Vector3 K).z = 0 := rfl

/-- `squaredNorm()`. -/
def squaredNorm (v : Vector3 K) : K := v.x * v.x + v.y * v.y + v.z * v.z

/-- `norm()`. -/
def norm (root : SquareRoot K) (v : Vector3 K) : K := root.sqrt v.squaredNorm

/-- `v / s`, coefficient by coefficient. -/
def div (v : Vector3 K) (s : K) : Vector3 K := ⟨v.x / s, v.y / s, v.z / s⟩

/-- A squared norm is never negative. -/
theorem squaredNorm_nonneg (v : Vector3 K) : 0 ≤ v.squaredNorm :=
  add_nonneg (add_nonneg (mul_self_nonneg _) (mul_self_nonneg _)) (mul_self_nonneg _)

end Vector3

namespace Plane

/-- The value `normal · c + offset` at a point of the ground plane. -/
def eval (plane : Plane K) (c : Coordinate K) : K :=
  plane.normal.x * c.x + plane.normal.y * c.y + plane.offset

end Plane

/-- Twice the signed area of the triangle `o a b`: positive when `b` lies to the left of
the directed edge from `o` to `a`, negative when it lies to the right. -/
def cross (o a b : Coordinate K) : K :=
  (a.x - o.x) * (b.y - o.y) - (a.y - o.y) * (b.x - o.x)

/-- The loop body of `planes_from_polygon`: the plane of the edge from `prev` to `p`.
The normal `(p.y - prev.y, prev.x - p.x, 0)` is normalised when its norm is positive
and zero otherwise; the offset puts `p` on the plane. -/
def planeThrough (root : SquareRoot K) (p prev : Coordinate K) : Plane K :=
  let normal : Vector3 K := ⟨p.y - prev.y, prev.x - p.x, 0⟩
  let norm := normal.norm root
  let normal := if 0 < norm then normal.div norm else 0
  { normal, offset := -1 * (normal.x * p.x + normal.y * p.y) }

/-- The length of the edge from `prev` to `p`. -/
def edgeLength (root : SquareRoot K) (p prev : Coordinate K) : K :=
  root.sqrt ((p.x - prev.x) * (p.x - prev.x) + (p.y - prev.y) * (p.y - prev.y))

section PlaneThrough

variable (root : SquareRoot K) {p prev : Coordinate K}

/-- Two distinct points are a positive squared distance apart. -/
theorem edge_squared_pos (distinct : p ≠ prev) :
    0 < (p.x - prev.x) * (p.x - prev.x) + (p.y - prev.y) * (p.y - prev.y) := by
  refine (add_nonneg (mul_self_nonneg _) (mul_self_nonneg _)).lt_of_ne fun flat => distinct ?_
  obtain ⟨dx, dy⟩ := mul_self_add_mul_self_eq_zero.mp flat.symm
  cases p
  cases prev
  simp_all [sub_eq_zero]

/-- The norm the code computes is the edge's length. -/
theorem planeThrough_norm :
    (⟨p.y - prev.y, prev.x - p.x, 0⟩ : Vector3 K).norm root = edgeLength root p prev := by
  simp only [Vector3.norm, Vector3.squaredNorm, edgeLength, mul_zero, add_zero]
  congr 1
  ring

/-- A proper edge has a positive length. -/
theorem edgeLength_pos (distinct : p ≠ prev) : 0 < edgeLength root p prev :=
  root.sqrt_pos (edge_squared_pos distinct)

/-- A repeated point gives the zero plane. -/
theorem planeThrough_self (p : Coordinate K) : planeThrough root p p = ⟨0, 0⟩ := by
  simp [planeThrough, Vector3.norm, Vector3.squaredNorm, root.sqrt_zero]

/-- For a proper edge, the normal is the edge turned right and divided by its length. -/
theorem planeThrough_normal (distinct : p ≠ prev) :
    (planeThrough root p prev).normal =
      ⟨(p.y - prev.y) / edgeLength root p prev, (prev.x - p.x) / edgeLength root p prev, 0⟩ := by
  simp [planeThrough, planeThrough_norm, edgeLength_pos root distinct, Vector3.div]

/-- The value at any point is the point's turn with respect to the edge, negated and
divided by the edge's length: points to the right of the edge are on the positive side. -/
theorem planeThrough_eval (distinct : p ≠ prev) (c : Coordinate K) :
    (planeThrough root p prev).eval c = -cross prev p c / edgeLength root p prev := by
  have normal := planeThrough_normal root distinct
  simp only [Plane.eval, planeThrough] at normal ⊢
  simp only [normal, cross]
  ring

/-- Both ends of a proper edge lie on its plane. -/
theorem planeThrough_eval_ends (distinct : p ≠ prev) :
    (planeThrough root p prev).eval p = 0 ∧ (planeThrough root p prev).eval prev = 0 := by
  simp only [planeThrough_eval root distinct, cross]
  constructor <;> ring

/-- The normal of a proper edge has unit length. -/
theorem planeThrough_unit (distinct : p ≠ prev) :
    (planeThrough root p prev).normal.squaredNorm = 1 := by
  have nonzero := (edgeLength_pos root distinct).ne'
  have square : edgeLength root p prev * edgeLength root p prev =
      (p.y - prev.y) * (p.y - prev.y) + (prev.x - p.x) * (prev.x - p.x) := by
    rw [edgeLength, root.mul_self_sqrt _ (edge_squared_pos distinct).le]
    ring
  rw [planeThrough_normal root distinct, Vector3.squaredNorm, div_mul_div_comm, div_mul_div_comm, mul_zero,
    add_zero, ← add_div, ← square, div_self (mul_ne_zero nonzero nonzero)]

/-- The normal of a proper edge is orthogonal to the edge. -/
theorem planeThrough_orthogonal (distinct : p ≠ prev) :
    (planeThrough root p prev).normal.x * (p.x - prev.x) +
      (planeThrough root p prev).normal.y * (p.y - prev.y) = 0 := by
  rw [planeThrough_normal root distinct]
  ring

/-- The plane spans the edge from `prev` to `p`: its normal has unit length and is
orthogonal to the edge, and both ends lie on it. -/
def Plane.Spans (plane : Plane K) (prev p : Coordinate K) : Prop :=
  plane.normal.squaredNorm = 1 ∧
    plane.normal.x * (p.x - prev.x) + plane.normal.y * (p.y - prev.y) = 0 ∧
    plane.eval prev = 0 ∧ plane.eval p = 0

/-- The loop body builds, for every proper edge, a plane that spans it. -/
theorem planeThrough_spans (distinct : p ≠ prev) : (planeThrough root p prev).Spans prev p :=
  ⟨planeThrough_unit root distinct, planeThrough_orthogonal root distinct,
    (planeThrough_eval_ends root distinct).2, (planeThrough_eval_ends root distinct).1⟩

/-- The code's norm of a proper edge's normal is one, so `set_planes` keeps it. -/
theorem planeThrough_norm_eq_one (distinct : p ≠ prev) :
    (planeThrough root p prev).normal.norm root = 1 := by
  rw [Vector3.norm, planeThrough_unit root distinct, root.sqrt_one]

end PlaneThrough

end McRtc
