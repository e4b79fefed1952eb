import Mathlib

/-!
# Plücker transforms

`sva::PTransformd` from SpaceVecAlg, which the observer composes: a rotation `E` and a
translation `r`, with the library's product `X1 * X2 = (E1 E2, r2 + E2ᵀ r1)`, inverse
`(Eᵀ, -E r)`, and `sva::interpolate`, which interpolates translations linearly and
rotations by a quaternion slerp. SpaceVecAlg is not among the modelled sources. The
rotation part of `interpolate` is a parameter: no fact proved from this module reads it.

Eigen's `Vector3d` and `Matrix3d` are Mathlib's `Fin 3 → K` and `Matrix (Fin 3) (Fin 3) K`,
over any commutative ring for exact arithmetic.

The one fact the observer needs is how translations behave when every frame is moved
with a base pose `P`: interpolating `X1 * P` and `X2 * P` gives the translation of `P`
moved by `Pᵀ` applied to the interpolation of `X1` and `X2`, and composing such a frame
with the inverse of `P` gives back that interpolation, when the rotation of `P` is
orthogonal.
-/

namespace McRtc

open Matrix

variable {K : Type} [CommRing K]

/-- `sva::PTransformd`. -/
@[ext]
structure PTransform (K : Type) where
  rotation : Matrix (Fin 3) (Fin 3) K
  translation : Fin 3 → K

namespace PTransform

/-- `X1 * X2`: first `X2`, then `X1`, in SpaceVecAlg's convention. -/
instance : Mul (PTransform K) :=
  ⟨fun X1 X2 => ⟨X1.rotation * X2.rotation, X2.translation + X2.rotationᵀ *ᵥ X1.translation⟩⟩

/-- `inv()`. -/
def inv (X : PTransform K) : PTransform K := ⟨X.rotationᵀ, -(X.rotation *ᵥ X.translation)⟩

/-- The rotation of a product is the product of the rotations. -/
@[simp] theorem mul_rotation (X1 X2 : PTransform K) :
    (X1 * X2).rotation = X1.rotation * X2.rotation := rfl

/-- The translation of a product: the second's, and the first's turned back by the second's
rotation. -/
@[simp] theorem mul_translation (X1 X2 : PTransform K) :
    (X1 * X2).translation = X2.translation + X2.rotationᵀ *ᵥ X1.translation := rfl

/-- The inverse's rotation is the transpose. -/
@[simp] theorem inv_rotation (X : PTransform K) : X.inv.rotation = X.rotationᵀ := rfl

/-- The inverse's translation. -/
@[simp] theorem inv_translation (X : PTransform K) :
    X.inv.translation = -(X.rotation *ᵥ X.translation) := rfl

/-- Composition of transforms is associative. -/
theorem mul_assoc (X1 X2 X3 : PTransform K) : X1 * X2 * X3 = X1 * (X2 * X3) := by
  ext1
  · simp [Matrix.mul_assoc]
  · simp [transpose_mul, mulVec_add, mulVec_mulVec, add_assoc]

end PTransform

/-- A rotation interpolation, `Quaternion(from).slerp(tau, Quaternion(to))`. -/
abbrev Slerp (K : Type) := Matrix (Fin 3) (Fin 3) K → Matrix (Fin 3) (Fin 3) K → K → Matrix (Fin 3) (Fin 3) K

/-- `sva::interpolate(from, to, tau)`: the rotations by `slerp`, the translations
linearly. -/
def interpolate (slerp : Slerp K) (source target : PTransform K) (tau : K) : PTransform K :=
  ⟨slerp source.rotation target.rotation tau, (1 - tau) • source.translation + tau • target.translation⟩

/-- The translations are interpolated linearly. -/
@[simp] theorem interpolate_translation (slerp : Slerp K) (source target : PTransform K) (tau : K) :
    (interpolate slerp source target tau).translation =
      (1 - tau) • source.translation + tau • target.translation := rfl

/-- Interpolating two frames moved by the same pose `P` gives the translation of `P` moved
by `Pᵀ` applied to the interpolation of the unmoved frames. -/
theorem interpolate_mul_translation (slerp : Slerp K) (X1 X2 P : PTransform K) (tau : K) :
    (interpolate slerp (X1 * P) (X2 * P) tau).translation =
      P.translation + P.rotationᵀ *ᵥ (interpolate slerp X1 X2 tau).translation := by
  simp only [interpolate_translation, PTransform.mul_translation, mulVec_add, mulVec_smul, smul_add]
  module

/-- Composing a frame at `P` moved by `Pᵀ m` with the inverse of `P` gives the translation
`m`, when the rotation of `P` is orthogonal. -/
theorem mul_inv_translation {Z P : PTransform K} {m : Fin 3 → K}
    (moved : Z.translation = P.translation + P.rotationᵀ *ᵥ m)
    (orthogonal : P.rotation * P.rotationᵀ = 1) :
    (Z * P.inv).translation = m := by
  rw [PTransform.mul_translation, PTransform.inv_translation, PTransform.inv_rotation,
    transpose_transpose, moved, mulVec_add, mulVec_mulVec, orthogonal, one_mulVec]
  abel

end McRtc
