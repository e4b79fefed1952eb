import McRtc.Rbdyn.Plane

/-!
# The trajectory task and the solver's task list

`mc_tasks::TrajectoryTask` (`TrajectoryTask.cpp`) drives a surface along a B-spline
through a `tasks::qp::TrajectoryTask` it owns, `transTrajTask`. `addToSolver` and
`removeFromSolver` put that object into the `QPSolver`'s task list and take it out,
guarded by `inSolver`. `selectActiveJoints`, `selectUnactiveJoints` and
`resetJointsSelector` replace it by a new object built on a joints selector, or on the
transform task itself, taking the old object out of the solver first and putting the new
one in afterwards when the task was in the solver. `dimWeight` sets the current object's
dimension weights, and `update` moves the target along the spline and the clock by one
time step.

The world is the solver's task list, every `tasks::qp::TrajectoryTask` the task has made
so far, in order, and the task's members. An object is named by its place in that list:
an identity, not an address, so that an object replaced and freed is never confused
with a later one. The solver's other tasks are named apart. `QPSolver` belongs to the
Tasks library and is not among the modelled sources: `addTask` appends to its list and
`removeTask` erases the first occurrence. The B-spline is the function `generateBS`
built, from time to position, velocity and acceleration; the transform task's target is
recorded by its interpolation parameter and its translation.

The solver holds the task's current object once when `inSolver` is set and not
otherwise, and no other object of the task, whatever the calls: that is proved for one
call and then, by induction, for every run.

The `double` members (the clock, the duration, the gains and the weights) are elements of
an exact ordered field `K`, and `sqrt` an exact square root. Where rounding matters, the
clock, `McRtc.Tasks.TrajectoryGains` restricts its inputs to values the rounding keeps. A
division by zero is zero in `K`: the interpolation parameter `t / duration` of a task of
duration zero is zero here and NaN in the code; no theorem reads it.
-/

namespace McRtc

variable {K : Type} [LinearOrderedField K]

/-- A `tasks::qp::JointsSelector`, by the joints it was given. -/
inductive JointsSelector where
  | activeJoints (joints : List String)
  | unactiveJoints (joints : List String)
deriving DecidableEq, Repr

/-- A `tasks::qp::TrajectoryTask`: the selector it is built on (none when it is built on
the transform task), its gains, its weight, its dimension weights and its reference
velocity and acceleration. -/
structure TrajObject (K : Type) where
  selector : Option JointsSelector
  stiffness : K
  damping : K
  weight : K
  dimWeight : Fin 6 → K
  refVel : Fin 6 → K
  refAccel : Fin 6 → K

namespace TrajObject

/-- The constructor: the Tasks library starts with unit dimension weights and zero
references. -/
def make (selector : Option JointsSelector) (stiffness damping weight : K) : TrajObject K :=
  ⟨selector, stiffness, damping, weight, fun _ => 1, 0, 0⟩

/-- `dimWeight(dimW)`. -/
def setDimWeight (object : TrajObject K) (dimW : Fin 6 → K) : TrajObject K :=
  { object with dimWeight := dimW }

end TrajObject

/-- A task in the solver's list: an object of this trajectory task, by identity, or a
task of somebody else. -/
inductive SolverTask where
  | trajectory (id : ℕ)
  | other (id : ℕ)
deriving DecidableEq, Repr

/-- The target of the transform task: the rotation of
`sva::interpolate(X_0_start, X_0_t, interpolation)` and the translation `translation`. -/
structure TransformTarget (K : Type) where
  interpolation : K
  translation : Vector3 K

/-- The members of `mc_tasks::TrajectoryTask` the modelled calls read or write. -/
structure TrajectoryTask (K : Type) where
  stiffness : K
  dimWeight_ : Fin 6 → K
  selectorT : Option JointsSelector
  transTrajTask : ℕ
  inSolver : Bool
  duration : K
  timeStep : K
  t : K
  target : TransformTarget K
  bspline : K → Vector3 K × Vector3 K × Vector3 K

/-- The solver's task list, the trajectory objects made so far, and the task. -/
structure World (K : Type) where
  solver : List SolverTask
  objects : List (TrajObject K)
  task : TrajectoryTask K

namespace TrajectoryTask

/-- The constructor (lines 9-43), as far as the modelled calls see it: the first object
is built on the transform task with damping `2 * sqrt(stiffness)` and weight one, and
given the dimension weights `(oriWeight, oriWeight, oriWeight, posWeight, posWeight,
posWeight)`; the clock starts at zero, and the task is not in the solver, whose other
tasks are `others`. -/
def make (root : SquareRoot K) (others : List ℕ) (duration timeStep stiffness posWeight oriWeight : K)
    (start : Vector3 K) (bspline : K → Vector3 K × Vector3 K × Vector3 K) : World K :=
  let dimWeight_ : Fin 6 → K := ![oriWeight, oriWeight, oriWeight, posWeight, posWeight, posWeight]
  { solver := others.map .other,
    objects := [(TrajObject.make none stiffness (2 * root.sqrt stiffness) 1).setDimWeight dimWeight_],
    task :=
      { stiffness := stiffness, dimWeight_ := dimWeight_, selectorT := none, transTrajTask := 0,
        inSolver := false, duration := duration, timeStep := timeStep, t := 0,
        target := ⟨0, start⟩, bspline := bspline } }

/-- `addToSolver` (lines 45-52). -/
def addToSolver (w : World K) : World K :=
  if !w.task.inSolver then
    { w with solver := w.solver ++ [.trajectory w.task.transTrajTask],
             task := { w.task with inSolver := true } }
  else w

/-- `removeFromSolver` (lines 54-61). -/
def removeFromSolver (w : World K) : World K :=
  if w.task.inSolver then
    { w with solver := w.solver.erase (.trajectory w.task.transTrajTask),
             task := { w.task with inSolver := false } }
  else w

/-- The object the three selector calls build: on `selector`, or on the transform task
when there is none, with the gains `stiffness` and `2 * sqrt(stiffness)` and weight one,
then given the cached `dimWeight_`. -/
def built (root : SquareRoot K) (selector : Option JointsSelector) (stiffness : K)
    (dimWeight_ : Fin 6 → K) : TrajObject K :=
  (TrajObject.make selector stiffness (2 * root.sqrt stiffness) 1).setDimWeight dimWeight_

/-- The assignment `selectorT = ...; transTrajTask = ...` of the three selector calls. -/
def rebuild (root : SquareRoot K) (selector : Option JointsSelector) (w : World K) : World K :=
  { w with objects := w.objects ++ [built root selector w.task.stiffness w.task.dimWeight_],
           task := { w.task with selectorT := selector, transTrajTask := w.objects.length } }

/-- The body the three selector calls share: save `inSolver` as `putBack`, take the task
out of the solver if it was in, replace the object, and put the task back if it was in. -/
def replaceInSolver (root : SquareRoot K) (selector : Option JointsSelector) (w : World K) :
    World K :=
  let putBack := w.task.inSolver
  let w := if putBack then removeFromSolver w else w
  let w := rebuild root selector w
  if putBack then addToSolver w else w

/-- `selectActiveJoints` (lines 124-139). -/
def selectActiveJoints (root : SquareRoot K) (activeJoints : List String) (w : World K) : World K :=
  replaceInSolver root (some (.activeJoints activeJoints)) w

/-- `selectUnactiveJoints` (lines 141-156). -/
def selectUnactiveJoints (root : SquareRoot K) (unactiveJoints : List String) (w : World K) :
    World K :=
  replaceInSolver root (some (.unactiveJoints unactiveJoints)) w

/-- `resetJointsSelector` (lines 158-172). -/
def resetJointsSelector (root : SquareRoot K) (w : World K) : World K :=
  replaceInSolver root none w

/-- `dimWeight(dimW)` (lines 174-178): the argument goes to the current object only. The
`assert` on its size is the type `Fin 6 → K`. -/
def dimWeight (dimW : Fin 6 → K) (w : World K) : World K :=
  { w with objects := w.objects.modify (fun object => object.setDimWeight dimW) w.task.transTrajTask }

/-- `update` (lines 63-85): the spline at the current time gives the target's
translation and the reference velocity and acceleration of the translation part; the
rotation part's references are zero. The clock then advances by one time step, up to
the duration. -/
def update (w : World K) : World K :=
  let (pos, vel, acc) := w.task.bspline w.task.t
  let refVel : Fin 6 → K := ![0, 0, 0, vel.x, vel.y, vel.z]
  let refAcc : Fin 6 → K := ![0, 0, 0, acc.x, acc.y, acc.z]
  let references (object : TrajObject K) := { object with refVel := refVel, refAccel := refAcc }
  { w with
    objects := w.objects.modify references w.task.transTrajTask,
    task :=
      { w.task with
        target := ⟨w.task.t / w.task.duration, pos⟩,
        t := min (w.task.t + w.task.timeStep) w.task.duration } }

/-- `timeElapsed` (lines 87-90). -/
def timeElapsed (task : TrajectoryTask K) : Bool := task.duration ≤ task.t

/-- The calls of the task on one solver. -/
inductive Call (K : Type) where
  | addToSolver
  | removeFromSolver
  | selectActiveJoints (activeJoints : List String)
  | selectUnactiveJoints (unactiveJoints : List String)
  | resetJointsSelector
  | dimWeight (dimW : Fin 6 → K)
  | update

/-- One call. -/
def step (root : SquareRoot K) (w : World K) : Call K → World K
  | .addToSolver => addToSolver w
  | .removeFromSolver => removeFromSolver w
  | .selectActiveJoints joints => selectActiveJoints root joints w
  | .selectUnactiveJoints joints => selectUnactiveJoints root joints w
  | .resetJointsSelector => resetJointsSelector root w
  | .dimWeight dimW => dimWeight dimW w
  | .update => update w

/-- A run of calls. -/
def run (root : SquareRoot K) (w : World K) (calls : List (Call K)) : World K :=
  calls.foldl (step root) w

/-- The number of calls that replace the trajectory object. -/
def rebuilds : List (Call K) → ℕ
  | [] => 0
  | .selectActiveJoints _ :: rest | .selectUnactiveJoints _ :: rest | .resetJointsSelector :: rest =>
    rebuilds rest + 1
  | _ :: rest => rebuilds rest

/-! ## Frames -/

section Frames

variable (root : SquareRoot K) (w : World K)

omit [LinearOrderedField K] in
/-- `addToSolver` builds no object. -/
@[simp] theorem addToSolver_objects : (addToSolver w).objects = w.objects := by
  unfold addToSolver; split <;> rfl

omit [LinearOrderedField K] in
/-- `addToSolver` leaves the task in the solver. -/
@[simp] theorem addToSolver_task : (addToSolver w).task = { w.task with inSolver := true } := by
  obtain ⟨solver, objects, ⟨⟩⟩ := w
  unfold addToSolver
  split <;> simp_all

omit [LinearOrderedField K] in
/-- `removeFromSolver` builds no object. -/
@[simp] theorem removeFromSolver_objects : (removeFromSolver w).objects = w.objects := by
  unfold removeFromSolver; split <;> rfl

omit [LinearOrderedField K] in
/-- `removeFromSolver` leaves the task out of the solver. -/
@[simp] theorem removeFromSolver_task :
    (removeFromSolver w).task = { w.task with inSolver := false } := by
  obtain ⟨solver, objects, ⟨⟩⟩ := w
  unfold removeFromSolver
  split <;> simp_all

/-- A replacing call adds the object it builds. -/
@[simp] theorem replaceInSolver_objects (selector : Option JointsSelector) :
    (replaceInSolver root selector w).objects =
      w.objects ++ [built root selector w.task.stiffness w.task.dimWeight_] := by
  unfold replaceInSolver; cases w.task.inSolver <;> simp [rebuild]

/-- A replacing call makes the object it adds current, records its selector, and leaves
the task in the solver or out of it as it was. -/
@[simp] theorem replaceInSolver_task (selector : Option JointsSelector) :
    (replaceInSolver root selector w).task =
      { w.task with selectorT := selector, transTrajTask := w.objects.length } := by
  obtain ⟨solver, objects, ⟨_, _, _, _, inSolver⟩⟩ := w
  cases inSolver <;> simp [replaceInSolver, rebuild]

omit [LinearOrderedField K] in
/-- `dimWeight` leaves the solver. -/
@[simp] theorem dimWeight_solver (dimW : Fin 6 → K) : (dimWeight dimW w).solver = w.solver := rfl

omit [LinearOrderedField K] in
/-- `dimWeight` leaves the task's members. -/
@[simp] theorem dimWeight_task (dimW : Fin 6 → K) : (dimWeight dimW w).task = w.task := rfl

omit [LinearOrderedField K] in
/-- `dimWeight` builds no object. -/
@[simp] theorem dimWeight_objects_length (dimW : Fin 6 → K) :
    (dimWeight dimW w).objects.length = w.objects.length := List.length_modify _ _ _

/-- `update` leaves the solver. -/
@[simp] theorem update_solver : (update w).solver = w.solver := rfl
/-- `update` leaves `inSolver`. -/
@[simp] theorem update_inSolver : (update w).task.inSolver = w.task.inSolver := rfl
/-- `update` leaves the current object current. -/
@[simp] theorem update_transTrajTask : (update w).task.transTrajTask = w.task.transTrajTask := rfl
/-- `update` builds no object. -/
@[simp] theorem update_objects_length : (update w).objects.length = w.objects.length :=
  List.length_modify _ _ _

/-- No other task is an object of the trajectory task. -/
@[simp] theorem count_trajectory_others (others : List ℕ) (id : ℕ) :
    (others.map SolverTask.other).count (.trajectory id) = 0 :=
  List.count_eq_zero.mpr (by simp)

end Frames

/-! ## The solver holds the current object exactly when the task is in it -/

/-- The solver holds the other tasks, then the current object when the task is in the
solver; and the current object is the newest. -/
structure Consistent (others : List ℕ) (w : World K) : Prop where
  solver : w.solver =
    others.map .other ++ if w.task.inSolver then [.trajectory w.task.transTrajTask] else []
  newest : w.objects.length = w.task.transTrajTask + 1

section Consistent

variable (root : SquareRoot K) {others : List ℕ} {w : World K}

/-- The constructor leaves the solver consistent. -/
theorem make_consistent (others : List ℕ) (duration timeStep stiffness posWeight oriWeight : K)
    (start : Vector3 K) (bspline : K → Vector3 K × Vector3 K × Vector3 K) :
    Consistent others (make root others duration timeStep stiffness posWeight oriWeight start bspline) :=
  ⟨by simp [make], rfl⟩

omit [LinearOrderedField K] in
/-- `addToSolver` keeps the solver consistent. -/
theorem addToSolver_consistent (consistent : Consistent others w) :
    Consistent others (addToSolver w) := by
  obtain ⟨solver, newest⟩ := consistent
  unfold addToSolver
  cases inSolver : w.task.inSolver
  · exact ⟨by simp [solver, inSolver], newest⟩
  · exact ⟨by simp [solver, inSolver], newest⟩

omit [LinearOrderedField K] in
/-- `removeFromSolver` keeps the solver consistent: the object it erases is the last. -/
theorem removeFromSolver_consistent (consistent : Consistent others w) :
    Consistent others (removeFromSolver w) := by
  obtain ⟨solver, newest⟩ := consistent
  unfold removeFromSolver
  cases inSolver : w.task.inSolver
  · exact ⟨by simp [solver, inSolver], newest⟩
  · refine ⟨?_, newest⟩
    simp only [solver, inSolver, ↓reduceIte, Bool.false_eq_true]
    rw [List.erase_append_right _ (by simp), List.erase_cons_head, List.append_nil]

/-- Out of the solver, replacing the object keeps the solver as it is. -/
theorem rebuild_consistent (selector : Option JointsSelector) (consistent : Consistent others w)
    (out : w.task.inSolver = false) : Consistent others (rebuild root selector w) :=
  ⟨by simp [rebuild, consistent.solver, out], by simp [rebuild]⟩

/-- A replacing call keeps the solver consistent. -/
theorem replaceInSolver_consistent (selector : Option JointsSelector)
    (consistent : Consistent others w) : Consistent others (replaceInSolver root selector w) := by
  unfold replaceInSolver
  cases putBack : w.task.inSolver
  · exact rebuild_consistent root selector consistent putBack
  · exact addToSolver_consistent (rebuild_consistent root selector
      (removeFromSolver_consistent consistent) (by simp))

/-- Every call keeps the solver consistent. -/
theorem step_consistent (call : Call K) (consistent : Consistent others w) :
    Consistent others (step root w call) := by
  cases call with
  | addToSolver => exact addToSolver_consistent consistent
  | removeFromSolver => exact removeFromSolver_consistent consistent
  | selectActiveJoints => exact replaceInSolver_consistent root _ consistent
  | selectUnactiveJoints => exact replaceInSolver_consistent root _ consistent
  | resetJointsSelector => exact replaceInSolver_consistent root _ consistent
  | dimWeight dimW => exact ⟨consistent.solver, by simpa [step] using consistent.newest⟩
  | update => exact ⟨consistent.solver, by simpa [step] using consistent.newest⟩

/-- Every run keeps the solver consistent. -/
theorem run_consistent (calls : List (Call K)) (consistent : Consistent others w) :
    Consistent others (run root w calls) := by
  induction calls generalizing w with
  | nil => exact consistent
  | cons call rest inductionHypothesis =>
    exact inductionHypothesis (step_consistent root call consistent)

/-- A replacing call makes the next identity current; the other calls keep it. -/
theorem step_transTrajTask (call : Call K) (consistent : Consistent others w) :
    (step root w call).task.transTrajTask = w.task.transTrajTask + rebuilds [call] := by
  cases call <;> simp [step, rebuilds, selectActiveJoints, selectUnactiveJoints, resetJointsSelector,
    consistent.newest]

/-- After a run the current object is the one the last replacing call made: its identity
counts those calls. -/
theorem run_transTrajTask (calls : List (Call K)) (consistent : Consistent others w) :
    (run root w calls).task.transTrajTask = w.task.transTrajTask + rebuilds calls := by
  induction calls generalizing w with
  | nil => rfl
  | cons call rest inductionHypothesis =>
    rw [run, List.foldl_cons, ← run, inductionHypothesis (step_consistent root call consistent),
      step_transTrajTask root call consistent]
    cases call <;> simp [rebuilds] <;> omega

end Consistent

/-- From a freshly built task, whatever the calls: the solver holds the current object
once when `inSolver` is set and not at all otherwise, and holds none of the objects the
replacing calls made before it, the current object being the one the last replacing call
made. -/
theorem run_solver_holds_current (root : SquareRoot K) (others : List ℕ)
    (duration timeStep stiffness posWeight oriWeight : K) (start : Vector3 K)
    (bspline : K → Vector3 K × Vector3 K × Vector3 K) (calls : List (Call K)) :
    let w := run root (make root others duration timeStep stiffness posWeight oriWeight start bspline)
      calls
    w.solver.count (.trajectory w.task.transTrajTask) = (if w.task.inSolver then 1 else 0) ∧
      w.task.transTrajTask = rebuilds calls ∧
      ∀ id < w.task.transTrajTask, SolverTask.trajectory id ∉ w.solver := by
  have fresh := make_consistent root others duration timeStep stiffness posWeight oriWeight start bspline
  have consistent := run_consistent root calls fresh
  refine ⟨?_, ?_, fun id earlier => ?_⟩
  · rw [consistent.solver]
    cases (run root _ calls).task.inSolver <;> simp
  · exact (run_transTrajTask root calls fresh).trans (Nat.zero_add _)
  · rw [consistent.solver]
    cases (run root _ calls).task.inSolver <;> simp [earlier.ne]

end TrajectoryTask

end McRtc
