import McRtc.Control.EgressPhases

/-!
# The egress phases whose lookups are checked

`EgressReplaceLeftFootPhase`, `EgressRemoveRightGripperPhase` and `EgressMRStandupPhase`
(`mc_mr_egress_phases.cpp`) make no unchecked use of the contact constraint: every
`addDofContact` and `resetDofContacts` of the first is behind `if(constr == 0)`, and the
other two make none. The gripper's phase erases its contact only when `find_if` did not
return `end()`. The other two look contacts up by position, with `at`, and erase one by
position too.

So their runs never fault on any constraint object: the gripper's phase from every
controller state, the other two as soon as the contacts they read are there, three for
the left foot's phase and four for the standup. Fewer make the first call throw
`out_of_range`, and nothing else can fault. The contacts stay put between the first call
and the erasure, which is what makes the erasure safe.

The gripper's rotation stage also terminates on schedule: with the orientation settled,
it ends at the `max_wiggles + 2`-th call after the first. Its `int` counter stays in range
on every run for a `max_wiggles` below `INT_MAX`; at `INT_MAX` the last `++wiggles_`
overflows.

`EgressPlaceRightFootPhase` makes no lookup and no call through the constraint: it only
appends the right sole's contact on the platform when its last stage ends.
`EgressMoveComSurfPhase` and `EgressCenterComPhase` touch neither: they move the CoM, and
differ only in what the call that ends their one stage returns.
-/

namespace McRtc

namespace Egress

/-! ## Replacing the left foot -/

/-- The members of `EgressReplaceLeftFootPhase` (lines 177-376), with the inherited
`timeoutIter`, which the first call sets before any read; `com_multiplier` only scales
a weight. -/
structure ReplaceLeftFootPhase where
  started : Bool
  doneRemoving : Bool
  doneRotating : Bool
  doneContacting : Bool
  lfcIndex : ℕ
  forceIter : ℕ
  forceStart : ℚ
  timeoutIter : ℕ
  otherContacts : List Contact

namespace ReplaceLeftFootPhase

/-- The constructor: the left foot's contact is the first. -/
def make : ReplaceLeftFootPhase := ⟨false, false, false, false, 0, 0, 0, 0, []⟩

/-- `run(ctl)` (lines 192-362). The contact stage ends the phase: it returns `true`. -/
def run (phase : ReplaceLeftFootPhase) (ctl : Controller) (readings : Readings) :
    Except Fault (Bool × ReplaceLeftFootPhase × Controller) :=
  if !phase.started then do
    let lfc ← vectorAt ctl.egressContacts phase.lfcIndex
    let first ← vectorAt ctl.egressContacts 1
    let second ← vectorAt ctl.egressContacts 2
    let otherContacts := phase.otherContacts ++ [first, second]
    let ctl := ctl.setContacts ctl.egressContacts
    let ctl ← ctl.guarded fun ctl => ctl.addDofContact lfc [5]
    pure (false, { phase with started := true, timeoutIter := 0, otherContacts := otherContacts }, ctl)
  else if !phase.doneRemoving then
    if waited readings.positionSettled phase.timeoutIter (15 * 500) then
      pure (false, { phase with doneRemoving := true, timeoutIter := 0 }, ctl.setContacts phase.otherContacts)
    else pure (false, { phase with timeoutIter := phase.timeoutIter + 1 }, ctl)
  else if !phase.doneRotating then
    if waited readings.positionSettled phase.timeoutIter (15 * 500) then do
      let egressContacts ← eraseAt ctl.egressContacts phase.lfcIndex
      pure (false,
        { phase with
          doneRotating := true, timeoutIter := 0, forceIter := 0, forceStart := readings.leftFootForce },
        { ctl with egressContacts := egressContacts }.setContacts egressContacts)
    else pure (false, { phase with timeoutIter := phase.timeoutIter + 1 }, ctl)
  else if !phase.doneContacting then
    let forceIter := countForce phase.forceIter phase.forceStart readings.leftFootForce
    if waited (decide (40 < forceIter)) phase.timeoutIter (15 * 500) then do
      let ctl ← ctl.guarded Controller.resetDofContacts
      let egressContacts := ctl.egressContacts ++ [⟨"LFullSole", "AllGround"⟩]
      pure (true,
        { phase with
          doneContacting := true, timeoutIter := phase.timeoutIter + 1, forceIter := forceIter },
        { ctl with egressContacts := egressContacts }.setContacts egressContacts)
    else pure (false, { phase with timeoutIter := phase.timeoutIter + 1, forceIter := forceIter }, ctl)
  else pure (false, phase, ctl)

/-- The states from which no call faults: the rotation is done only after the start,
and until then, when the left foot's contact is erased, it and the next two contacts are
there. The constraint object is left free. -/
def Safe (phase : ReplaceLeftFootPhase) (ctl : Controller) : Prop :=
  (phase.doneRotating → phase.started) ∧
    (phase.doneRotating = false → phase.lfcIndex < ctl.egressContacts.length ∧ 3 ≤ ctl.egressContacts.length)

/-- From a safe state a call does not fault, and leaves a safe state. -/
theorem run_safe (phase : ReplaceLeftFootPhase) (ctl : Controller) (readings : Readings)
    (safe : Safe phase ctl) : Succeeds Safe (phase.run ctl readings) := by
  obtain ⟨ordered, contacts⟩ := safe
  cases started : phase.started
  · have notRotated : phase.doneRotating = false :=
      Bool.eq_false_iff.mpr fun rotated => by simp [ordered rotated] at started
    obtain ⟨inside, three⟩ := contacts notRotated
    obtain ⟨added, addedEq, -, addedSame⟩ := @Controller.guarded_ok (ctl.setContacts ctl.egressContacts)
      (fun next => next.addDofContact ctl.egressContacts[phase.lfcIndex] [5])
      (fun contactConstr => Controller.addDofContact_ok contactConstr _ [5])
    simp only [run, started, Bool.not_false, ite_true, vectorAt_ok inside,
      vectorAt_ok (show 1 < ctl.egressContacts.length by omega),
      vectorAt_ok (show 2 < ctl.egressContacts.length by omega), addedEq, bind, Except.bind, pure, Except.pure]
    exact ⟨_, _, _, rfl, by simp, by simp [notRotated, addedSame, inside, three]⟩
  cases rotated : phase.doneRotating
  · obtain ⟨inside, three⟩ := contacts rotated
    simp only [run, started, rotated, Bool.not_true, Bool.not_false, Bool.false_eq_true, ↓reduceIte,
      eraseAt_ok inside, bind, Except.bind, pure, Except.pure]
    repeat' (apply succeeds_ite <;> intro _)
    all_goals exact ⟨_, _, _, rfl, by simp, by simp [inside, three]⟩
  · obtain ⟨reset, resetEq, -, -⟩ := @Controller.guarded_ok ctl Controller.resetDofContacts
      Controller.resetDofContacts_ok
    simp only [run, started, rotated, Bool.not_true, Bool.false_eq_true, ↓reduceIte, resetEq, bind,
      Except.bind, pure, Except.pure]
    repeat' (apply succeeds_ite <;> intro _)
    all_goals exact ⟨_, _, _, rfl, by simp [started], by simp [rotated]⟩

/-- Every run from the constructor with three contacts goes without a fault, whatever
the constraint object: its calls through the constraint are all checked. -/
theorem replaceLeftFoot_runs_ok (ctl : Controller) (three : 3 ≤ ctl.egressContacts.length)
    (readings : List Readings) :
    ∃ results phase ctl', runs run make ctl readings = .ok (results, phase, ctl') := by
  obtain ⟨results, phase, ctl', ran, -⟩ :=
    runs_ok run Safe run_safe make ctl ⟨nofun, fun _ => ⟨by simp only [make]; omega, three⟩⟩ readings
  exact ⟨results, phase, ctl', ran⟩

/-- On the standing contacts and a constraint of another class, a run of three calls goes
without a fault. -/
theorem replaceLeftFoot_runs_ok_other :
    3 ≤ ({ standing with constraint := .other } : Controller).egressContacts.length ∧
      ∃ results phase ctl', runs run make { standing with constraint := .other }
          [⟨true, true, true, 0, 0⟩, ⟨true, true, true, 0, 0⟩, ⟨true, true, true, 0, 0⟩] =
        .ok (results, phase, ctl') :=
  ⟨by decide, replaceLeftFoot_runs_ok _ (by decide) _⟩

end ReplaceLeftFootPhase

/-! ## Removing the right gripper -/

/-- The members of `EgressRemoveRightGripperPhase` (lines 916-1031) that a branch reads:
the flags and the wiggle counters. `dist_`, `rot` and `birot` only shape the targets of
the end-effector task. The counters are `int`s, here unbounded integers: for a
`max_wiggles` below `INT_MAX` no run takes `wiggles_` past `max_wiggles + 1`, so the two
agree; at `INT_MAX` the code's `++wiggles_` overflows, which the statements exclude. -/
structure RemoveRightGripperPhase where
  started : Bool
  doneRotating : Bool
  doneRemoving : Bool
  wiggles : ℤ
  maxWiggles : ℤ

namespace RemoveRightGripperPhase

/-- The constructor. -/
def make (maxWiggles : ℤ) : RemoveRightGripperPhase := ⟨false, false, false, 0, maxWiggles⟩

/-- `run(ctl)` (lines 931-1019): the first call erases the `RightGripper` contact when
`find_if` found one, and the rotation is wiggled until `wiggles_` exceeds
`maxWiggles_`. -/
def run (phase : RemoveRightGripperPhase) (ctl : Controller) (readings : Readings) :
    Except Fault (Bool × RemoveRightGripperPhase × Controller) :=
  if !phase.started then do
    let rgc := findSurface ctl.egressContacts "RightGripper"
    let ctl := ctl.setContacts ctl.egressContacts
    let ctl ← if rgc.isSome then do
        let egressContacts ← eraseIter ctl.egressContacts rgc
        pure ({ ctl with egressContacts := egressContacts }.setContacts egressContacts)
      else pure ctl
    pure (false, { phase with started := true }, ctl)
  else if !phase.doneRotating then
    if readings.orientationSettled then
      if phase.wiggles > phase.maxWiggles then pure (false, { phase with doneRotating := true }, ctl)
      else pure (false, { phase with wiggles := phase.wiggles + 1 }, ctl)
    else pure (false, phase, ctl)
  else if !phase.doneRemoving then
    if readings.positionSettled then
      pure (false, { phase with doneRemoving := true }, ctl.setContacts ctl.egressContacts)
    else pure (false, phase, ctl)
  else pure (false, phase, ctl)

/-- The first call erases the `RightGripper` contact when `find_if` finds one, and
cannot fault. -/
theorem run_start {phase : RemoveRightGripperPhase} (ctl : Controller) (readings : Readings)
    (started : phase.started = false) :
    ∃ ctl', phase.run ctl readings = .ok (false, { phase with started := true }, ctl') := by
  simp only [run, started, Bool.not_false, ite_true]
  split
  · obtain ⟨i, found⟩ := Option.isSome_iff_exists.mp ‹_›
    simp only [found, eraseIter, Controller.setContacts_egressContacts, bind, Except.bind, pure, Except.pure]
    exact ⟨_, rfl⟩
  · exact ⟨_, rfl⟩

example : ((make 2).run standing ⟨true, true, true, 0, 0⟩).map (·.2.2.egressContacts) =
    .ok [⟨"LFullSole", "exit_platform"⟩, ⟨"RFullSole", "exit_platform"⟩] := rfl

/-- No call faults, from any state: the erasure is behind the check against `end()`. -/
theorem run_ok (phase : RemoveRightGripperPhase) (ctl : Controller) (readings : Readings) :
    Succeeds (fun _ _ => True) (phase.run ctl readings) := by
  cases started : phase.started
  · obtain ⟨ctl', ran⟩ := run_start ctl readings started
    exact ⟨_, _, _, ran, trivial⟩
  · simp only [run, started, Bool.not_true, Bool.false_eq_true, ↓reduceIte]
    repeat' (apply succeeds_ite <;> intro _)
    all_goals exact ⟨_, _, _, rfl, trivial⟩

/-- Every run goes without a fault, from every controller state: the phase makes no
unchecked lookup. -/
theorem removeRightGripper_runs_ok (maxWiggles : ℤ) (ctl : Controller) (readings : List Readings) :
    ∃ results phase ctl', runs run (make maxWiggles) ctl readings = .ok (results, phase, ctl') := by
  obtain ⟨results, phase, ctl', ran, -⟩ :=
    runs_ok run (fun _ _ => True) (fun phase ctl readings _ => run_ok phase ctl readings) (make maxWiggles) ctl
      trivial readings
  exact ⟨results, phase, ctl', ran⟩

/-- Once the rotation is done, it stays done. -/
theorem run_rotated (phase : RemoveRightGripperPhase) (ctl : Controller) (readings : Readings)
    (rotated : phase.started ∧ phase.doneRotating) :
    Succeeds (fun phase' _ => phase'.started ∧ phase'.doneRotating) (phase.run ctl readings) := by
  obtain ⟨started, done⟩ := rotated
  simp only [run, started, done, Bool.not_true, Bool.false_eq_true, ↓reduceIte]
  repeat' (apply succeeds_ite <;> intro _)
  all_goals exact ⟨_, _, _, rfl, by simp [started, done]⟩

/-- While the orientation stays settled, each call of the rotation stage wiggles once
more, and the call that finds `wiggles_` above `maxWiggles_` ends the stage: from
`wiggles_ = w`, the stage is over after `k` calls exactly when `maxWiggles_ + 2 ≤ k + w`.

Proof: by induction on `k`, one call at a time; after the last wiggle `run_rotated`
keeps the stage over. -/
theorem runs_rotation {readings : Readings} (settled : readings.orientationSettled) (k : ℕ) :
    ∀ (phase : RemoveRightGripperPhase) (ctl : Controller), phase.started → phase.doneRotating = false →
      phase.wiggles ≤ phase.maxWiggles + 1 →
      Succeeds (fun phase' _ => phase'.doneRotating ↔ phase.maxWiggles + 2 ≤ k + phase.wiggles)
        (runs run phase ctl (List.replicate k readings)) := by
  induction k with
  | zero =>
    intro phase ctl _ notRotated bounded
    exact ⟨[], phase, ctl, rfl, by simp only [notRotated, Bool.false_eq_true, false_iff]; omega⟩
  | succ k inductionHypothesis =>
    intro phase ctl started notRotated bounded
    by_cases over : phase.wiggles > phase.maxWiggles
    · have called : phase.run ctl readings = .ok (false, { phase with doneRotating := true }, ctl) := by
        simp [run, started, notRotated, settled, over, pure, Except.pure]
      obtain ⟨results, phase', ctl', ran, -, done⟩ :=
        runs_ok run _ run_rotated { phase with doneRotating := true } ctl ⟨started, rfl⟩ (List.replicate k readings)
      refine ⟨false :: results, phase', ctl', ?_, ?_⟩
      · simp [runs, List.replicate_succ, called, ran, bind, Except.bind, pure, Except.pure]
      · simp only [done, true_iff]
        omega
    · have called : phase.run ctl readings = .ok (false, { phase with wiggles := phase.wiggles + 1 }, ctl) := by
        simp [run, started, notRotated, settled, over, pure, Except.pure]
      obtain ⟨results, phase', ctl', ran, done⟩ :=
        inductionHypothesis { phase with wiggles := phase.wiggles + 1 } ctl started notRotated (by simp only; omega)
      refine ⟨false :: results, phase', ctl', ?_, ?_⟩
      · simp [runs, List.replicate_succ, called, ran, bind, Except.bind, pure, Except.pure]
      · show phase'.doneRotating = true ↔ _
        rw [done]
        push_cast
        constructor <;> intro <;> omega

/-- The counter's range: `wiggles_` is never negative, and at most one above
`maxWiggles_`, or zero when `maxWiggles_` is below `-1`; nothing writes `maxWiggles_`. -/
def Counted (bound : ℤ) (phase : RemoveRightGripperPhase) (_ : Controller) : Prop :=
  phase.maxWiggles = bound ∧ 0 ≤ phase.wiggles ∧ phase.wiggles ≤ max (bound + 1) 0

/-- A call keeps the counter's range: `++wiggles_` runs only when
`wiggles_ ≤ maxWiggles_`. -/
theorem run_counted (bound : ℤ) (phase : RemoveRightGripperPhase) (ctl : Controller) (readings : Readings)
    (counted : Counted bound phase ctl) : Succeeds (Counted bound) (phase.run ctl readings) := by
  obtain ⟨fixed, low, high⟩ := counted
  cases started : phase.started
  · obtain ⟨ctl', ran⟩ := run_start ctl readings started
    exact ⟨_, _, _, ran, fixed, low, high⟩
  · simp only [run, started, Bool.not_true, Bool.false_eq_true, ↓reduceIte]
    repeat' (apply succeeds_ite <;> intro branch)
    all_goals exact ⟨_, _, _, rfl, by simp only [Counted]; omega⟩

/-- Every run from the constructor keeps the counter's range. -/
theorem runs_counted (maxWiggles : ℤ) (ctl : Controller) (readings : List Readings) :
    Succeeds (Counted maxWiggles) (runs run (make maxWiggles) ctl readings) :=
  runs_ok run (Counted maxWiggles) (run_counted maxWiggles) (make maxWiggles) ctl
    ⟨rfl, le_rfl, le_max_right _ _⟩ readings

/-- `wiggles_` and `maxWiggles_` are `int`s. From the constructor with `max_wiggles`
below `INT_MAX = 2 ^ 31 - 1`, every run keeps `wiggles_` between zero and `INT_MAX`: no
`++wiggles_` overflows, and the unbounded counter of the model is the code's. With
`max_wiggles = INT_MAX` the increment from `INT_MAX` overflows. -/
theorem removeRightGripper_wiggles_fit (maxWiggles : ℤ) (fits : maxWiggles < 2 ^ 31 - 1) (ctl : Controller)
    (readings : List Readings) :
    ∃ results phase ctl', runs run (make maxWiggles) ctl readings = .ok (results, phase, ctl') ∧
      0 ≤ phase.wiggles ∧ phase.wiggles ≤ 2 ^ 31 - 1 := by
  obtain ⟨results, phase, ctl', ran, -, low, high⟩ := runs_counted maxWiggles ctl readings
  exact ⟨results, phase, ctl', ran, low, by omega⟩

/-- One below `INT_MAX`, the largest `max_wiggles` the range allows, a first call keeps the
counter in range. -/
theorem removeRightGripper_wiggles_fit_below_max :
    (2 ^ 31 - 2 : ℤ) < 2 ^ 31 - 1 ∧
      ∃ results phase ctl', runs run (make (2 ^ 31 - 2)) standing [⟨true, true, true, 0, 0⟩] =
        .ok (results, phase, ctl') ∧ 0 ≤ phase.wiggles ∧ phase.wiggles ≤ 2 ^ 31 - 1 :=
  ⟨by norm_num, removeRightGripper_wiggles_fit _ (by norm_num) _ _⟩

/-- With `max_wiggles` between zero and `INT_MAX - 1` and the orientation settled at
every call, the rotation is done after the first call and `k` more exactly when
`max_wiggles + 2 ≤ k`: the gripper wiggles `max_wiggles + 1` times, and the next call ends
the stage. The counter stays within `int` all along. -/
theorem removeRightGripper_rotation_ends (maxWiggles : ℤ) (nonneg : 0 ≤ maxWiggles)
    (fits : maxWiggles < 2 ^ 31 - 1) (ctl : Controller) (readings : Readings)
    (settled : readings.orientationSettled) (k : ℕ) :
    ∃ results phase ctl', runs run (make maxWiggles) ctl (List.replicate (k + 1) readings) =
      .ok (results, phase, ctl') ∧ (phase.doneRotating ↔ maxWiggles + 2 ≤ k) ∧ phase.wiggles ≤ 2 ^ 31 - 1 := by
  have rotation : Succeeds (fun phase _ => phase.doneRotating ↔ maxWiggles + 2 ≤ k)
      (runs run (make maxWiggles) ctl (List.replicate (k + 1) readings)) := by
    obtain ⟨ctl₁, first⟩ := run_start ctl readings (rfl : (make maxWiggles).started = false)
    obtain ⟨results, phase, ctl', ran, done⟩ :=
      runs_rotation settled k { make maxWiggles with started := true } ctl₁ rfl rfl (by simp only [make]; omega)
    refine ⟨false :: results, phase, ctl', ?_, by simpa [make] using done⟩
    simp [runs, List.replicate_succ, first, ran, bind, Except.bind, pure, Except.pure]
  obtain ⟨results, phase, ctl', ran, done, -, -, high⟩ :=
    succeeds_and rotation (runs_counted maxWiggles ctl (List.replicate (k + 1) readings))
  exact ⟨results, phase, ctl', ran, done, by omega⟩

/-- With one wiggle allowed and the orientation settled, the rotation is over after the first
call and three more. -/
theorem removeRightGripper_rotation_ends_one_wiggle :
    0 ≤ (1 : ℤ) ∧ (1 : ℤ) < 2 ^ 31 - 1 ∧ (⟨true, true, true, 0, 0⟩ : Readings).orientationSettled ∧
      ∃ results phase ctl', runs run (make 1) standing (List.replicate (3 + 1) ⟨true, true, true, 0, 0⟩) =
        .ok (results, phase, ctl') ∧ (phase.doneRotating ↔ (1 : ℤ) + 2 ≤ (3 : ℕ)) ∧ phase.wiggles ≤ 2 ^ 31 - 1 :=
  ⟨by decide, by norm_num, rfl, removeRightGripper_rotation_ends 1 (by decide) (by norm_num) standing _ rfl 3⟩

end RemoveRightGripperPhase

/-! ## Standing up -/

/-- The members of `EgressMRStandupPhase` (lines 1032-1100) that a lookup reads, with the
inherited `timeoutIter`; `altitude_` only moves a task's target. -/
structure StandupPhase where
  started : Bool
  doneStandup : Bool
  timeoutIter : ℕ
  otherContacts : List Contact

namespace StandupPhase

/-- The constructor. -/
def make : StandupPhase := ⟨false, false, 0, []⟩

/-- `run(ctl)` (lines 1044-1092): the first call gives the solver the second to fourth
contacts, and the end of the standup erases the first. -/
def run (phase : StandupPhase) (ctl : Controller) (readings : Readings) :
    Except Fault (Bool × StandupPhase × Controller) :=
  if !phase.started then do
    let first ← vectorAt ctl.egressContacts 1
    let second ← vectorAt ctl.egressContacts 2
    let third ← vectorAt ctl.egressContacts 3
    let otherContacts := phase.otherContacts ++ [first, second, third]
    pure (false, { phase with started := true, timeoutIter := 0, otherContacts := otherContacts },
      ctl.setContacts otherContacts)
  else if !phase.doneStandup then
    if waited readings.positionSettled phase.timeoutIter (5 * 500) then do
      let egressContacts ← eraseAt ctl.egressContacts 0
      pure (false, { phase with timeoutIter := phase.timeoutIter + 1, doneStandup := true },
        { ctl with egressContacts := egressContacts })
    else pure (false, { phase with timeoutIter := phase.timeoutIter + 1 }, ctl)
  else pure (false, phase, ctl)

/-- The states from which no call faults: the standup is done only after the start, and
until then the four contacts are there. The constraint object is never read. -/
def Safe (phase : StandupPhase) (ctl : Controller) : Prop :=
  (phase.doneStandup → phase.started) ∧ (phase.doneStandup = false → 4 ≤ ctl.egressContacts.length)

/-- From a safe state a call does not fault, and leaves a safe state. -/
theorem run_safe (phase : StandupPhase) (ctl : Controller) (readings : Readings)
    (safe : Safe phase ctl) : Succeeds Safe (phase.run ctl readings) := by
  obtain ⟨ordered, contacts⟩ := safe
  cases started : phase.started
  · have four := contacts (Bool.eq_false_iff.mpr fun done => by simp [ordered done] at started)
    simp only [run, started, Bool.not_false, ite_true, vectorAt_ok (show 1 < ctl.egressContacts.length by omega),
      vectorAt_ok (show 2 < ctl.egressContacts.length by omega),
      vectorAt_ok (show 3 < ctl.egressContacts.length by omega), bind, Except.bind, pure, Except.pure]
    exact ⟨_, _, _, rfl, by simp, by simp [four]⟩
  cases done : phase.doneStandup
  · have four := contacts done
    simp only [run, started, done, Bool.not_true, Bool.not_false, Bool.false_eq_true, ↓reduceIte,
      eraseAt_ok (show 0 < ctl.egressContacts.length by omega), bind, Except.bind, pure, Except.pure]
    split <;> exact ⟨_, _, _, rfl, by simp, by simp [four]⟩
  · simp only [run, started, done, Bool.not_true, Bool.false_eq_true, ↓reduceIte, pure, Except.pure]
    exact ⟨_, _, _, rfl, by simp [started], by simp [done]⟩

/-- Every run from the constructor with four contacts goes without a fault, whatever the
constraint object. -/
theorem standup_runs_ok (ctl : Controller) (four : 4 ≤ ctl.egressContacts.length) (readings : List Readings) :
    ∃ results phase ctl', runs run make ctl readings = .ok (results, phase, ctl') := by
  obtain ⟨results, phase, ctl', ran, -⟩ := runs_ok run Safe run_safe make ctl ⟨nofun, fun _ => four⟩ readings
  exact ⟨results, phase, ctl', ran⟩

/-- With a fourth contact, the left sole on the ground, and a constraint of another class, a
run of two calls goes without a fault. -/
theorem standup_runs_ok_four :
    let ctl : Controller := ⟨standing.egressContacts ++ [⟨"LFullSole", "AllGround"⟩], [], .other⟩
    4 ≤ ctl.egressContacts.length ∧
      ∃ results phase ctl', runs run make ctl [⟨true, true, true, 0, 0⟩, ⟨true, true, true, 0, 0⟩] =
        .ok (results, phase, ctl') :=
  ⟨by decide, standup_runs_ok _ (by decide) _⟩

end StandupPhase

/-! ## Placing the right foot -/

/-- The members of `EgressPlaceRightFootPhase` (lines 774-869), with the inherited
`timeoutIter`, which the first call sets. -/
structure PlaceRightFootPhase where
  started : Bool
  doneLifting : Bool
  doneRotating : Bool
  doneContacting : Bool
  timeoutIter : ℕ

namespace PlaceRightFootPhase

/-- The constructor. -/
def make : PlaceRightFootPhase := ⟨false, false, false, false, 0⟩

/-- `run(ctl)` (lines 785-862). After the first call, `timeoutIter++` comes before the
stages, and still runs once the phase is done, where nothing reads it. -/
def run (phase : PlaceRightFootPhase) (ctl : Controller) (readings : Readings) :
    Except Fault (Bool × PlaceRightFootPhase × Controller) :=
  if !phase.started then pure (false, { phase with started := true, timeoutIter := 0 }, ctl)
  else if !phase.doneLifting then
    if waited readings.positionSettled phase.timeoutIter (15 * 500) then
      pure (false, { phase with doneLifting := true, timeoutIter := 0 }, ctl)
    else pure (false, { phase with timeoutIter := phase.timeoutIter + 1 }, ctl)
  else if !phase.doneRotating then
    if waited readings.orientationSettled phase.timeoutIter (15 * 500) then
      pure (false, { phase with doneRotating := true, timeoutIter := 0 }, ctl)
    else pure (false, { phase with timeoutIter := phase.timeoutIter + 1 }, ctl)
  else if !phase.doneContacting then
    if waited readings.positionSettled phase.timeoutIter (15 * 500) then
      let egressContacts := ctl.egressContacts ++ [⟨"RFullSole", "exit_platform"⟩]
      pure (false, { phase with doneContacting := true, timeoutIter := 0 },
        { ctl with egressContacts := egressContacts }.setContacts egressContacts)
    else pure (false, { phase with timeoutIter := phase.timeoutIter + 1 }, ctl)
  else pure (false, { phase with timeoutIter := phase.timeoutIter + 1 }, ctl)

/-- No call faults, from any state: the phase makes no lookup and no call through the
constraint. -/
theorem run_ok (phase : PlaceRightFootPhase) (ctl : Controller) (readings : Readings) :
    Succeeds (fun _ _ => True) (phase.run ctl readings) := by
  simp only [run]
  repeat' (apply succeeds_ite <;> intro _)
  all_goals exact ⟨_, _, _, rfl, trivial⟩

end PlaceRightFootPhase

/-! ## Moving or centring the CoM -/

/-- The members of `EgressMoveComSurfPhase` (lines 1101-1158) and `EgressCenterComPhase`
(lines 1160-1217) that a branch reads: the flags and the counter `iter_`. `altitude_` and
`surfName_` only shape the CoM target. -/
structure ComPhase where
  started : Bool
  doneCom : Bool
  iter : ℕ

namespace ComPhase

/-- The constructor of either phase. -/
def make : ComPhase := ⟨false, false, 0⟩

/-- The `run(ctl)` of the two phases, which returns `finish` at the call that ends the CoM
stage. The first call sets the CoM target, from the robot's surfaces, and puts the CoM
task in the solver; the stage ends when the CoM task has settled or `++iter_` passes
`10 * 500`. Neither phase touches the controller's contacts or constraint. -/
def runWith (finish : Bool) (phase : ComPhase) (ctl : Controller) (readings : Readings) :
    Except Fault (Bool × ComPhase × Controller) :=
  if !phase.started then pure (false, { phase with started := true }, ctl)
  else if !phase.doneCom then
    if waited readings.comSettled phase.iter (10 * 500) then
      pure (finish, { phase with doneCom := true, iter := phase.iter + 1 }, ctl)
    else pure (false, { phase with iter := phase.iter + 1 }, ctl)
  else pure (false, phase, ctl)

/-- No call faults, from any state: the phases make no lookup in the controller. -/
theorem runWith_ok (finish : Bool) (phase : ComPhase) (ctl : Controller) (readings : Readings) :
    Succeeds (fun _ _ => True) (runWith finish phase ctl readings) := by
  simp only [runWith]
  repeat' (apply succeeds_ite <;> intro _)
  all_goals exact ⟨_, _, _, rfl, trivial⟩

/-- `EgressMoveComSurfPhase::run` (lines 1114-1149): the end of the stage returns
`auto_transit`, below a commented-out `return true;`. -/
def moveComSurfRun (autoTransit : Bool) :
    ComPhase → Controller → Readings → Except Fault (Bool × ComPhase × Controller) :=
  runWith autoTransit

/-- `EgressCenterComPhase::run` (lines 1171-1210): the end of the stage falls through to
`return false;`, its `return true;` commented out. -/
def centerComRun : ComPhase → Controller → Readings → Except Fault (Bool × ComPhase × Controller) :=
  runWith false

end ComPhase

end Egress

end McRtc
