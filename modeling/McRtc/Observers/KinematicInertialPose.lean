import McRtc.Sva.PTransform

/-!
# The kinematic-inertial pose observer

`mc_observers::KinematicInertialPoseObserver` (`KinematicInertialPoseObserver.cpp`)
estimates the floating-base pose of the real robot. `run` first estimates the base
orientation: roll and pitch from the IMU, through the real robot's kinematics, and yaw
from the control robot. It then estimates the base position so that the real robot's
anchor frame, a point interpolated between its two feet, falls on the control robot's
anchor. `updateRobot` writes the estimate to the real robot's base pose.

A robot is modelled by its base pose `posW` and its kinematics relative to the base:
the pose of each body in the base frame, and each surface by its body and its pose in
that body. A body's world pose is its pose in the base frame composed with `posW`, so
setting `posW` moves every body and surface rigidly with the base, which is what
`mc_rbdyn::Robot::posW` does through forward kinematics. `mc_rbdyn::Robot`, its
surfaces and `rpyFromMat`/`rpyToMat` are not among the modelled sources: the two
conversions are parameters, as is the rotation part of `sva::interpolate`.

When the real robot's base rotation is orthogonal, the translation of the real robot's
anchor after `run` and `updateRobot` is the control robot's, whatever orientation was
estimated; and the estimate does not depend on the real robot's base pose at all.
-/

namespace McRtc

open Matrix

variable {K : Type} [Field K]

/-- An `mc_rbdyn::Surface`: the body it is attached to and its pose `X_b_s` in that
body. -/
structure Surface (K : Type) where
  bodyName : String
  X_b_s : PTransform K

/-- An `mc_rbdyn::Robot`: its base pose, the pose of each body in the base frame given by
its joint configuration, its surfaces, and its body sensor's parent body and measured
orientation. -/
structure Robot (K : Type) where
  posW : PTransform K
  bodyInBase : String → PTransform K
  surface : String → Surface K
  sensorParentBody : String
  sensorOrientation : Matrix (Fin 3) (Fin 3) K

namespace Robot

/-- `bodyPosW(body)`. -/
def bodyPosW (robot : Robot K) (body : String) : PTransform K := robot.bodyInBase body * robot.posW

/-- `posW(pt)`: the bodies move with the base. -/
def setPosW (robot : Robot K) (pt : PTransform K) : Robot K := { robot with posW := pt }

/-- The pose of a surface in the base frame. -/
def surfaceInBase (robot : Robot K) (name : String) : PTransform K :=
  (robot.surface name).X_b_s * robot.bodyInBase (robot.surface name).bodyName

end Robot

/-- `surface.X_0_s(robot)`. -/
def Surface.X_0_s (surface : Surface K) (robot : Robot K) : PTransform K :=
  surface.X_b_s * robot.bodyPosW surface.bodyName

/-- `rpyFromMat` and `rpyToMat`. -/
structure RpyConversion (K : Type) where
  rpyFromMat : Matrix (Fin 3) (Fin 3) K → Fin 3 → K
  rpyToMat : K → K → K → Matrix (Fin 3) (Fin 3) K

/-- The observer's members. -/
@[ext]
structure KinematicInertialPoseObserver (K : Type) where
  orientation_ : Matrix (Fin 3) (Fin 3) K
  position_ : Fin 3 → K
  leftFootRatio_ : K

namespace KinematicInertialPoseObserver

variable (rpy : RpyConversion K) (slerp : Slerp K) (observer : KinematicInertialPoseObserver K)

/-- The constructor (lines 14-20). -/
def make : KinematicInertialPoseObserver K := ⟨1, 0, 1 / 2⟩

/-- `getAnchorFrame(robot)` (lines 63-68). -/
def getAnchorFrame (robot : Robot K) : PTransform K :=
  let X_0_l := (robot.surface "LeftFoot").X_0_s robot
  let X_0_r := (robot.surface "RightFoot").X_0_s robot
  interpolate slerp X_0_r X_0_l observer.leftFootRatio_

/-- `estimateOrientation(realRobot)` (lines 35-50), `robot` being the control robot. -/
def estimateOrientation (robot realRobot : Robot K) : KinematicInertialPoseObserver K :=
  let X_0_rBase := realRobot.posW
  let X_0_rIMU := realRobot.bodyPosW realRobot.sensorParentBody
  let X_rIMU_rBase := X_0_rBase * X_0_rIMU.inv
  let E_0_mIMU := robot.sensorOrientation
  let E_0_cBase := robot.posW.rotation
  let E_0_mBase := X_rIMU_rBase.rotation * E_0_mIMU
  let cRPY := rpy.rpyFromMat E_0_cBase
  let mRPY := rpy.rpyFromMat E_0_mBase
  { observer with orientation_ := rpy.rpyToMat (mRPY 0) (mRPY 1) (cRPY 2) }

/-- `estimatePosition(realRobot)` (lines 52-61). -/
def estimatePosition (robot realRobot : Robot K) : KinematicInertialPoseObserver K :=
  let X_0_c := observer.getAnchorFrame slerp robot
  let X_0_s := observer.getAnchorFrame slerp realRobot
  let X_0_real := realRobot.posW
  let X_real_s := X_0_s * X_0_real.inv
  let r_c_0 := X_0_c.translation
  let r_s_real := X_real_s.translation
  { observer with position_ := r_c_0 - observer.orientation_ᵀ *ᵥ r_s_real }

/-- `run(realRobot)` (lines 28-33); it returns `true`. -/
def run (robot realRobot : Robot K) : KinematicInertialPoseObserver K :=
  (observer.estimateOrientation rpy robot realRobot).estimatePosition slerp robot realRobot

/-- `updateRobot(realRobot)` (lines 70-73). -/
def updateRobot (realRobot : Robot K) : Robot K :=
  realRobot.setPosW ⟨observer.orientation_, observer.position_⟩

/-- The translation of the anchor in the base frame: it depends on the feet and the
joint configuration, not on the base pose. -/
def anchorInBase (robot : Robot K) : Fin 3 → K :=
  (interpolate slerp (robot.surfaceInBase "RightFoot") (robot.surfaceInBase "LeftFoot")
    observer.leftFootRatio_).translation

/-- The anchor of a robot is its anchor in the base frame carried by its base pose. -/
theorem getAnchorFrame_translation (robot : Robot K) :
    (observer.getAnchorFrame slerp robot).translation =
      robot.posW.translation + robot.posW.rotationᵀ *ᵥ observer.anchorInBase slerp robot := by
  simp only [getAnchorFrame, Surface.X_0_s, Robot.bodyPosW, ← PTransform.mul_assoc]
  exact interpolate_mul_translation slerp _ _ _ _

section Estimates

variable (robot realRobot : Robot K)
  (orthogonal : realRobot.posW.rotation * realRobot.posW.rotationᵀ = 1)
include orthogonal

/-- The orientation estimate reads the real robot only through the rotation of the IMU's
body in the base frame. -/
theorem estimateOrientation_orientation :
    (observer.estimateOrientation rpy robot realRobot).orientation_ =
      let E_0_mBase := (realRobot.bodyInBase realRobot.sensorParentBody).rotationᵀ * robot.sensorOrientation
      rpy.rpyToMat (rpy.rpyFromMat E_0_mBase 0) (rpy.rpyFromMat E_0_mBase 1)
        (rpy.rpyFromMat robot.posW.rotation 2) := by
  simp only [estimateOrientation, Robot.bodyPosW, PTransform.mul_rotation, PTransform.inv_rotation,
    transpose_mul, ← Matrix.mul_assoc, orthogonal, Matrix.one_mul]

/-- The position estimate puts the real anchor, seen from the base with the estimated
orientation, on the control anchor. -/
theorem estimatePosition_position :
    (observer.estimatePosition slerp robot realRobot).position_ =
      (observer.getAnchorFrame slerp robot).translation -
        observer.orientation_ᵀ *ᵥ observer.anchorInBase slerp realRobot := by
  simp only [estimatePosition]
  rw [mul_inv_translation (getAnchorFrame_translation slerp observer realRobot) orthogonal]

end Estimates

end KinematicInertialPoseObserver

open KinematicInertialPoseObserver in
/-- After `run(realRobot)` and `updateRobot(realRobot)`, the real robot's anchor has the
translation of the control robot's anchor, whatever orientation was estimated, provided
the real robot's base rotation was orthogonal. -/
theorem updateRobot_anchor_translation (rpy : RpyConversion K) (slerp : Slerp K)
    (observer : KinematicInertialPoseObserver K) (robot realRobot : Robot K)
    (orthogonal : realRobot.posW.rotation * realRobot.posW.rotationᵀ = 1) :
    let estimated := observer.run rpy slerp robot realRobot
    (estimated.getAnchorFrame slerp (estimated.updateRobot realRobot)).translation =
      (estimated.getAnchorFrame slerp robot).translation := by
  have position := estimatePosition_position slerp (observer.estimateOrientation rpy robot realRobot)
    robot realRobot orthogonal
  intro estimated
  rw [getAnchorFrame_translation]
  simp only [estimated, updateRobot, Robot.setPosW, run, position]
  exact sub_add_cancel _ _

/-- A robot standing on feet a fifth apart, for fixed inputs. -/
def standingRobot (posW : PTransform K) : Robot K where
  posW := posW
  bodyInBase _ := ⟨1, 0⟩
  surface name :=
    if name = "LeftFoot" then ⟨"l_ankle", ⟨1, ![0, 1 / 10, 0]⟩⟩ else ⟨"r_ankle", ⟨1, ![0, -1 / 10, 0]⟩⟩
  sensorParentBody := "torso"
  sensorOrientation := 1

/-- A quarter turn about the vertical axis, for fixed inputs. -/
def quarterTurn : Matrix (Fin 3) (Fin 3) K := !![0, 1, 0; -1, 0, 0; 0, 0, 1]

/-- A half turn about the first axis, for fixed inputs. -/
def halfTurn : Matrix (Fin 3) (Fin 3) K := !![1, 0, 0; 0, -1, 0; 0, 0, -1]

/-- The quarter turn is a rotation: its transpose is its inverse. -/
theorem quarterTurn_orthogonal : quarterTurn * quarterTurnᵀ = (1 : Matrix (Fin 3) (Fin 3) K) := by
  rw [eta_fin_three quarterTurnᵀ]
  simp only [quarterTurn, transpose_apply, of_apply, cons_val', cons_val_zero, cons_val_one, head_cons,
    cons_val_two, tail_cons, empty_val', cons_val_fin_one, mul_fin_three, one_fin_three]
  norm_num

/-- The half turn is a rotation: its transpose is its inverse. -/
theorem halfTurn_orthogonal : halfTurn * halfTurnᵀ = (1 : Matrix (Fin 3) (Fin 3) K) := by
  rw [eta_fin_three halfTurnᵀ]
  simp only [halfTurn, transpose_apply, of_apply, cons_val', cons_val_zero, cons_val_one, head_cons,
    cons_val_two, tail_cons, empty_val', cons_val_fin_one, mul_fin_three, one_fin_three]
  norm_num

/-- A real robot turned a quarter turn and raised by one, with a half turn estimated: its
anchor after the update is the control robot's. -/
theorem updateRobot_anchor_translation_standing :
    (standingRobot (K := ℚ) ⟨quarterTurn, ![0, 0, 1]⟩).posW.rotation *
        (standingRobot (K := ℚ) ⟨quarterTurn, ![0, 0, 1]⟩).posW.rotationᵀ = 1 ∧
      let estimated := (KinematicInertialPoseObserver.make (K := ℚ)).run ⟨fun _ _ => 0, fun _ _ _ => halfTurn⟩
        (fun source _ _ => source) (standingRobot ⟨1, 0⟩) (standingRobot ⟨quarterTurn, ![0, 0, 1]⟩)
      (estimated.getAnchorFrame (fun source _ _ => source)
          (estimated.updateRobot (standingRobot ⟨quarterTurn, ![0, 0, 1]⟩))).translation =
        (estimated.getAnchorFrame (fun source _ _ => source) (standingRobot ⟨1, 0⟩)).translation :=
  ⟨quarterTurn_orthogonal, updateRobot_anchor_translation _ _ _ _ _ quarterTurn_orthogonal⟩

open KinematicInertialPoseObserver in
/-- The estimate does not depend on the real robot's base pose: moving the real robot's
base to any pose of orthogonal rotation, with the same joint configuration, gives the
same estimate. -/
theorem run_setPosW (rpy : RpyConversion K) (slerp : Slerp K)
    (observer : KinematicInertialPoseObserver K) (robot realRobot : Robot K) (P : PTransform K)
    (orthogonal : realRobot.posW.rotation * realRobot.posW.rotationᵀ = 1)
    (moved : P.rotation * P.rotationᵀ = 1) :
    observer.run rpy slerp robot (realRobot.setPosW P) = observer.run rpy slerp robot realRobot := by
  have orientation : (observer.estimateOrientation rpy robot (realRobot.setPosW P)).orientation_ =
      (observer.estimateOrientation rpy robot realRobot).orientation_ := by
    rw [estimateOrientation_orientation rpy observer robot _ moved,
      estimateOrientation_orientation rpy observer robot _ orthogonal]
    rfl
  ext1
  · exact orientation
  · rw [run, run, estimatePosition_position slerp _ robot _ moved,
      estimatePosition_position slerp _ robot _ orthogonal, orientation]
    rfl
  · rfl

/-- Moving the quarter-turned real robot to a half-turned pose does not change the
estimate. -/
theorem run_setPosW_standing :
    (standingRobot (K := ℚ) ⟨quarterTurn, ![0, 0, 1]⟩).posW.rotation *
        (standingRobot (K := ℚ) ⟨quarterTurn, ![0, 0, 1]⟩).posW.rotationᵀ = 1 ∧
      (⟨halfTurn, ![1, 0, 0]⟩ : PTransform ℚ).rotation * (⟨halfTurn, ![1, 0, 0]⟩ : PTransform ℚ).rotationᵀ = 1 ∧
      (KinematicInertialPoseObserver.make (K := ℚ)).run ⟨fun _ _ => 0, fun _ _ _ => quarterTurn⟩
          (fun source _ _ => source) (standingRobot ⟨1, 0⟩)
          ((standingRobot ⟨quarterTurn, ![0, 0, 1]⟩).setPosW ⟨halfTurn, ![1, 0, 0]⟩) =
        (KinematicInertialPoseObserver.make (K := ℚ)).run ⟨fun _ _ => 0, fun _ _ _ => quarterTurn⟩
          (fun source _ _ => source) (standingRobot ⟨1, 0⟩) (standingRobot ⟨quarterTurn, ![0, 0, 1]⟩) :=
  ⟨quarterTurn_orthogonal, halfTurn_orthogonal,
    run_setPosW _ _ _ _ _ _ quarterTurn_orthogonal halfTurn_orthogonal⟩

end McRtc
