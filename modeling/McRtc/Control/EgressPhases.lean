import McRtc.Control.EgressController

/-!
# Three egress phases and the lookups they make

`EgressPutDownRightFootPhase`, `EgressReplaceRightFootPhase` and `EgressMoveComForcePhase`
(`mc_mr_egress_phases.cpp`) are state machines: each call of `run` advances at most one
stage, when the stage's task has settled, its force has been felt long enough, or its
time is out. Their first calls look up a contact and add a dof contact to the contact
constraint; their last stages reset the dof contacts.

Two of the lookups are not checked. `EgressPutDownRightFootPhase` dereferences and erases
the result of `find_if` for the `RFullSole` contact without comparing it with `end()`.
`EgressMoveComForcePhase` does the same for the other foot's contact, and an `else`
without braces makes its `addDofContact` run on a null pointer when the constraint is not
a `ContactConstr`. Two resets, in the last stages of the first two phases, are not
guarded either.

The members that only feed task targets, weights, gains and logs are left out, as the
controller's tasks are: no lookup reads them.
-/

namespace McRtc

namespace Egress

/-- `if(a > limit)` on the incremented counter of a stage: the stage ends when its task
has settled or after more than `limit` calls. -/
def waited (settled : Bool) (timeoutIter limit : ℕ) : Bool := settled || decide (limit < timeoutIter + 1)

/-- The force counter of a contact stage: the calls in a row where the force exceeded
`forceStart + 150`. -/
def countForce (forceIter : ℕ) (forceStart force : ℚ) : ℕ :=
  if force > forceStart + 150 then forceIter + 1 else 0

/-- A controller with three egress contacts, the right foot's the third, and a
`ContactConstr` without dof contacts. -/
def standing : Controller :=
  ⟨[⟨"LFullSole", "exit_platform"⟩, ⟨"RightGripper", "exit_platform"⟩, ⟨"RFullSole", "exit_platform"⟩], [],
    .contactConstr []⟩

/-! ## Putting the right foot down -/

/-- The members of `EgressPutDownRightFootPhase` (lines 377-546); `otherContacts` is never
read. -/
structure PutDownRightFootPhase where
  started : Bool
  doneRemoving : Bool
  doneMoving : Bool
  doneRotating : Bool
  doneContacting : Bool
  forceIter : ℕ
  forceStart : ℚ
  timeoutIter : ℕ

namespace PutDownRightFootPhase

/-- The constructor. -/
def make : PutDownRightFootPhase := ⟨false, false, false, false, false, 0, 0, 0⟩

/-- `run(ctl)` (lines 391-536). -/
def run (phase : PutDownRightFootPhase) (ctl : Controller) (readings : Readings) :
    Except Fault (Bool × PutDownRightFootPhase × Controller) :=
  if !phase.started then do
    let rfc := findSurface ctl.egressContacts "RFullSole"
    let ctl := ctl.setContacts ctl.egressContacts
    let cId ← derefIter ctl.egressContacts rfc
    let ctl ← ctl.guarded fun ctl => ctl.addDofContact cId [2, 5]
    let egressContacts ← eraseIter ctl.egressContacts rfc
    pure (false, { phase with started := true, timeoutIter := 0 },
      { ctl with egressContacts := egressContacts })
  else if !phase.doneRemoving then
    if waited readings.positionSettled phase.timeoutIter (15 * 500) then
      pure (false, { phase with doneRemoving := true, timeoutIter := 0 },
        ctl.setContacts ctl.egressContacts)
    else pure (false, { phase with timeoutIter := phase.timeoutIter + 1 }, ctl)
  else if !phase.doneMoving then
    if waited readings.positionSettled phase.timeoutIter (15 * 500) then
      pure (false, { phase with doneMoving := true, timeoutIter := 0 }, ctl)
    else pure (false, { phase with timeoutIter := phase.timeoutIter + 1 }, ctl)
  else if !phase.doneRotating then
    if waited readings.orientationSettled phase.timeoutIter (15 * 500) then
      pure (false,
        { phase with
          doneRotating := true, timeoutIter := 0, forceIter := 0, forceStart := readings.rightFootForce },
        ctl.setContacts ctl.egressContacts)
    else pure (false, { phase with timeoutIter := phase.timeoutIter + 1 }, ctl)
  else if !phase.doneContacting then
    let forceIter := countForce phase.forceIter phase.forceStart readings.rightFootForce
    if waited (decide (40 < forceIter)) phase.timeoutIter (15 * 500) then do
      let ctl ← ctl.resetDofContacts
      let egressContacts := ctl.egressContacts ++ [⟨"RFullSole", "AllGround"⟩]
      pure (false,
        { phase with
          doneContacting := true, timeoutIter := phase.timeoutIter + 1, forceIter := forceIter },
        { ctl with egressContacts := egressContacts }.setContacts egressContacts)
    else pure (false, { phase with timeoutIter := phase.timeoutIter + 1, forceIter := forceIter }, ctl)
  else pure (false, phase, ctl)

/-- The first call when an `RFullSole` contact exists: it adds the dof contact through a
`ContactConstr`, and erases the first such contact. -/
theorem run_start {phase : PutDownRightFootPhase} {ctl : Controller} (readings : Readings)
    (started : phase.started = false)
    (present : ∃ contact ∈ ctl.egressContacts, contact.r1Surface = "RFullSole") :
    ∃ ctl', phase.run ctl readings = .ok (false, { phase with started := true, timeoutIter := 0 }, ctl') ∧
      (ctl.IsContactConstr → ctl'.IsContactConstr) ∧
      ctl'.egressContacts = ctl.egressContacts.eraseP fun contact => contact.r1Surface == "RFullSole" := by
  obtain ⟨contact, rest, found, erased, -⟩ := findSurface_found present
  obtain ⟨next, added, kept, same⟩ := @Controller.guarded_ok (ctl.setContacts ctl.egressContacts)
    (fun ctl => ctl.addDofContact contact [2, 5])
    (fun contactConstr => Controller.addDofContact_ok contactConstr contact [2, 5])
  refine ⟨{ next with egressContacts := rest }, ?_, kept, eraseIter_findSurface erased⟩
  simp only [run, started, Bool.not_false, ite_true, Controller.setContacts_egressContacts, found, added,
    same, erased, bind, Except.bind, pure, Except.pure]

/-- The first call without an `RFullSole` contact dereferences `end()`. -/
theorem run_start_absent {phase : PutDownRightFootPhase} {ctl : Controller} (readings : Readings)
    (started : phase.started = false)
    (absent : ∀ contact ∈ ctl.egressContacts, contact.r1Surface ≠ "RFullSole") :
    phase.run ctl readings = .error .endDereference := by
  simp [run, started, findSurface_eq_none.mpr absent, derefIter_none, bind, Except.bind]

/-- The states from which no call faults: the constraint is a `ContactConstr`, and
before the first call there is an `RFullSole` contact. -/
def Safe (phase : PutDownRightFootPhase) (ctl : Controller) : Prop :=
  ctl.IsContactConstr ∧ (phase.started = false → ∃ contact ∈ ctl.egressContacts, contact.r1Surface = "RFullSole")

/-- From a safe state a call does not fault, and leaves a safe state. -/
theorem run_safe (phase : PutDownRightFootPhase) (ctl : Controller) (readings : Readings)
    (safe : Safe phase ctl) : Succeeds Safe (phase.run ctl readings) := by
  obtain ⟨contactConstr, present⟩ := safe
  cases started : phase.started
  · obtain ⟨ctl', ran, kept, -⟩ := run_start readings started (present started)
    exact ⟨_, _, _, ran, kept contactConstr, nofun⟩
  · obtain ⟨reset, resetEq, kept, -⟩ := Controller.resetDofContacts_ok contactConstr
    simp only [run, started, Bool.not_true, Bool.false_eq_true, ↓reduceIte, resetEq, bind, Except.bind,
      pure, Except.pure]
    repeat' (apply succeeds_ite <;> intro _)
    all_goals exact ⟨_, _, _, rfl, by first | exact contactConstr | exact kept, by simp [started]⟩

/-- Every run from the constructor, on a `ContactConstr` and with an `RFullSole` contact,
goes without a fault. -/
theorem putDownRightFoot_runs_ok (ctl : Controller) (contactConstr : ctl.IsContactConstr)
    (present : ∃ contact ∈ ctl.egressContacts, contact.r1Surface = "RFullSole") (readings : List Readings) :
    ∃ results phase ctl', runs run make ctl readings = .ok (results, phase, ctl') := by
  obtain ⟨results, phase, ctl', ran, -⟩ :=
    runs_ok run Safe run_safe make ctl ⟨contactConstr, fun _ => present⟩ readings
  exact ⟨results, phase, ctl', ran⟩

/-- On the standing controller, a run of two calls goes without a fault. -/
theorem putDownRightFoot_runs_ok_standing :
    standing.IsContactConstr ∧ (∃ contact ∈ standing.egressContacts, contact.r1Surface = "RFullSole") ∧
      ∃ results phase ctl', runs run make standing [⟨true, true, true, 200, 0⟩, ⟨true, true, true, 200, 0⟩] =
        .ok (results, phase, ctl') :=
  ⟨⟨[], rfl⟩, ⟨⟨"RFullSole", "exit_platform"⟩, by decide, rfl⟩,
    putDownRightFoot_runs_ok standing ⟨[], rfl⟩ ⟨⟨"RFullSole", "exit_platform"⟩, by decide, rfl⟩ _⟩

end PutDownRightFootPhase

/-! ## Replacing the right foot -/

/-- The members of `EgressReplaceRightFootPhase` (lines 547-772). -/
structure ReplaceRightFootPhase where
  started : Bool
  doneRemoving : Bool
  donePremoving : Bool
  doneMoving : Bool
  doneRotating : Bool
  doneContacting : Bool
  rfcIndex : ℕ
  forceIter : ℕ
  forceStart : ℚ
  timeoutIter : ℕ
  otherContacts : List Contact

namespace ReplaceRightFootPhase

/-- The constructor: the right foot's contact is the third. -/
def make : ReplaceRightFootPhase := ⟨false, false, false, false, false, false, 2, 0, 0, 0, []⟩

/-- The lookups of the first call and of the end of the rotation: the right foot's
contact `at(rfc_index)`, and the first two contacts appended to `otherContacts`. -/
def lookUp (phase : ReplaceRightFootPhase) (ctl : Controller) :
    Except Fault (Contact × List Contact) := do
  let rfc ← vectorAt ctl.egressContacts phase.rfcIndex
  let first ← vectorAt ctl.egressContacts 0
  let second ← vectorAt ctl.egressContacts 1
  pure (rfc, phase.otherContacts ++ [first, second])

/-- `run(ctl)` (lines 563-759). -/
def run (phase : ReplaceRightFootPhase) (ctl : Controller) (readings : Readings) :
    Except Fault (Bool × ReplaceRightFootPhase × Controller) :=
  if !phase.started then do
    let (rfc, otherContacts) ← phase.lookUp ctl
    let ctl := ctl.setContacts ctl.egressContacts
    let ctl ← ctl.guarded fun ctl => ctl.addDofContact rfc [2, 5]
    pure (false, { phase with started := true, timeoutIter := 0, otherContacts := otherContacts }, ctl)
  else if !phase.donePremoving then
    if waited readings.positionSettled phase.timeoutIter (15 * 500) then
      pure (false, { phase with donePremoving := true, timeoutIter := 0 },
        ctl.setContacts phase.otherContacts)
    else pure (false, { phase with timeoutIter := phase.timeoutIter + 1 }, ctl)
  else if !phase.doneRemoving then
    if waited readings.positionSettled phase.timeoutIter (15 * 500) then
      pure (false, { phase with doneRemoving := true, timeoutIter := 0 }, ctl)
    else pure (false, { phase with timeoutIter := phase.timeoutIter + 1 }, ctl)
  else if !phase.doneMoving then
    if waited readings.positionSettled phase.timeoutIter (15 * 500) then
      pure (false, { phase with doneMoving := true, timeoutIter := 0 }, ctl)
    else pure (false, { phase with timeoutIter := phase.timeoutIter + 1 }, ctl)
  else if !phase.doneRotating then
    if waited readings.orientationSettled phase.timeoutIter (15 * 500) then do
      let ctl := ctl.setContacts ctl.egressContacts
      let (rfc, otherContacts) ← phase.lookUp ctl
      let ctl := ctl.setContacts ctl.egressContacts
      let ctl ← ctl.guarded fun ctl => ctl.addDofContact rfc [5]
      pure (false,
        { phase with
          doneRotating := true, otherContacts := otherContacts, timeoutIter := 0, forceIter := 0,
          forceStart := readings.rightFootForce },
        ctl)
    else pure (false, { phase with timeoutIter := phase.timeoutIter + 1 }, ctl)
  else if !phase.doneContacting then
    let forceIter := countForce phase.forceIter phase.forceStart readings.rightFootForce
    if waited (decide (40 < forceIter)) phase.timeoutIter (30 * 500) then do
      let ctl ← ctl.resetDofContacts
      pure (false,
        { phase with
          doneContacting := true, timeoutIter := phase.timeoutIter + 1, forceIter := forceIter },
        ctl.setContacts ctl.egressContacts)
    else pure (false, { phase with timeoutIter := phase.timeoutIter + 1, forceIter := forceIter }, ctl)
  else pure (false, phase, ctl)

/-- The lookups read the egress contacts, not the solver's. -/
@[simp] theorem lookUp_setContacts (phase : ReplaceRightFootPhase) (ctl : Controller) (contacts : List Contact) :
    phase.lookUp (ctl.setContacts contacts) = phase.lookUp ctl := rfl

/-- With the first two contacts and the right foot's, the lookups succeed. -/
theorem lookUp_ok {phase : ReplaceRightFootPhase} {ctl : Controller}
    (inside : phase.rfcIndex < ctl.egressContacts.length) (two : 2 ≤ ctl.egressContacts.length) :
    ∃ rfc otherContacts, phase.lookUp ctl = .ok (rfc, otherContacts) :=
  ⟨ctl.egressContacts[phase.rfcIndex], phase.otherContacts ++ [ctl.egressContacts[0], ctl.egressContacts[1]],
    by simp [lookUp, vectorAt_ok inside, vectorAt_ok (show 0 < ctl.egressContacts.length by omega),
    vectorAt_ok (show 1 < ctl.egressContacts.length by omega), bind, Except.bind, pure, Except.pure]⟩

/-- The states from which no call faults: the constraint is a `ContactConstr`, and the
first two contacts and the right foot's are there. The phase never erases a contact. -/
def Safe (phase : ReplaceRightFootPhase) (ctl : Controller) : Prop :=
  ctl.IsContactConstr ∧ phase.rfcIndex < ctl.egressContacts.length ∧ 2 ≤ ctl.egressContacts.length

/-- From a safe state a call does not fault, and leaves a safe state. -/
theorem run_safe (phase : ReplaceRightFootPhase) (ctl : Controller) (readings : Readings)
    (safe : Safe phase ctl) : Succeeds Safe (phase.run ctl readings) := by
  obtain ⟨contactConstr, inside, two⟩ := safe
  obtain ⟨rfc, otherContacts, looked⟩ := lookUp_ok inside two
  obtain ⟨added, addedEq, addedKept, addedSame⟩ := @Controller.guarded_ok (ctl.setContacts ctl.egressContacts)
    (fun ctl => ctl.addDofContact rfc [2, 5]) (fun contactConstr => Controller.addDofContact_ok contactConstr rfc [2, 5])
  obtain ⟨turned, turnedEq, turnedKept, turnedSame⟩ := @Controller.guarded_ok (ctl.setContacts ctl.egressContacts)
    (fun ctl => ctl.addDofContact rfc [5]) (fun contactConstr => Controller.addDofContact_ok contactConstr rfc [5])
  obtain ⟨reset, resetEq, resetKept, resetSame⟩ := Controller.resetDofContacts_ok contactConstr
  simp only [run, looked, lookUp_setContacts, Controller.setContacts_setContacts,
    Controller.setContacts_egressContacts, addedEq, turnedEq, resetEq, bind, Except.bind, pure, Except.pure]
  repeat' (apply succeeds_ite <;> intro _)
  all_goals refine ⟨_, _, _, rfl, ?_, ?_, ?_⟩ <;>
    first
    | exact contactConstr | exact addedKept contactConstr | exact turnedKept contactConstr | exact resetKept
    | simp [addedSame, turnedSame, resetSame, inside, two]

/-- Every run from the constructor, on a `ContactConstr` and with three contacts, goes
without a fault. -/
theorem replaceRightFoot_runs_ok (ctl : Controller) (contactConstr : ctl.IsContactConstr)
    (three : 3 ≤ ctl.egressContacts.length) (readings : List Readings) :
    ∃ results phase ctl', runs run make ctl readings = .ok (results, phase, ctl') := by
  obtain ⟨results, phase, ctl', ran, -⟩ :=
    runs_ok run Safe run_safe make ctl ⟨contactConstr, three, by omega⟩ readings
  exact ⟨results, phase, ctl', ran⟩

/-- On the standing controller, a run of two calls goes without a fault. -/
theorem replaceRightFoot_runs_ok_standing :
    standing.IsContactConstr ∧ 3 ≤ standing.egressContacts.length ∧
      ∃ results phase ctl', runs run make standing [⟨true, true, true, 200, 0⟩, ⟨true, true, true, 200, 0⟩] =
        .ok (results, phase, ctl') :=
  ⟨⟨[], rfl⟩, by decide, replaceRightFoot_runs_ok standing ⟨[], rfl⟩ (by decide) _⟩

end ReplaceRightFootPhase

/-! ## Moving the CoM over one foot -/

/-- The members of `EgressMoveComForcePhase` (lines 1219-1346) that a lookup reads: the
flags, the counter `iter_`, and the other foot's surface. -/
structure MoveComForcePhase where
  started : Bool
  doneCom : Bool
  iter : ℕ
  otherSurf : String

namespace MoveComForcePhase

/-- The constructor: the other foot of `surfName`, and no surface for any other name. -/
def make (surfName : String) : MoveComForcePhase :=
  ⟨false, false, 0,
    if surfName = "LFullSole" then "RFullSole" else if surfName = "RFullSole" then "LFullSole" else ""⟩

/-- `run(ctl)` (lines 1252-1331). After `else constr->resetDofContacts();` the log line
and `constr->addDofContact(cId, dof)` run whatever the cast gave. The first call's lookups
in the robot, `robot().surface(surfName_)` (line 1257), the `EndEffectorTask` on
`bodyName_` (1269) and `bodyIndexByName(bodyName_)` (1292), are taken to succeed, as in
every phase. -/
def run (phase : MoveComForcePhase) (ctl : Controller) (readings : Readings) :
    Except Fault (Bool × MoveComForcePhase × Controller) :=
  if !phase.started then do
    let ctl := ctl.setContacts ctl.egressContacts
    let lfc := findSurface ctl.egressContacts phase.otherSurf
    let cId ← derefIter ctl.egressContacts lfc
    let ctl ← ctl.guarded Controller.resetDofContacts
    let _ ← derefIter ctl.egressContacts lfc
    let ctl ← ctl.addDofContact cId [5]
    pure (false, { phase with started := true }, ctl)
  else if !phase.doneCom then
    if waited readings.comSettled phase.iter (10 * 500) then do
      let ctl ← ctl.guarded Controller.resetDofContacts
      pure (false, { phase with doneCom := true, iter := phase.iter + 1 }, ctl)
    else pure (false, { phase with iter := phase.iter + 1 }, ctl)
  else pure (false, phase, ctl)

/-- The first call on a `ContactConstr` when the other foot's contact exists: it resets
the dof contacts and adds one, and leaves the egress contacts as they were. -/
theorem run_start {phase : MoveComForcePhase} {ctl : Controller} (readings : Readings)
    (started : phase.started = false) (contactConstr : ctl.IsContactConstr)
    (present : ∃ contact ∈ ctl.egressContacts, contact.r1Surface = phase.otherSurf) :
    ∃ ctl', phase.run ctl readings = .ok (false, { phase with started := true }, ctl') ∧ ctl'.IsContactConstr ∧
      ctl'.egressContacts = ctl.egressContacts := by
  obtain ⟨contact, -, found, -, -⟩ := findSurface_found present
  have set : (ctl.setContacts ctl.egressContacts).IsContactConstr := contactConstr
  obtain ⟨reset, resetEq, resetKept, resetSame⟩ := Controller.resetDofContacts_ok set
  obtain ⟨added, addedEq, addedKept, addedSame⟩ := Controller.addDofContact_ok resetKept contact [5]
  refine ⟨added, ?_, addedKept, by rw [addedSame, resetSame, Controller.setContacts_egressContacts]⟩
  simp only [run, started, Bool.not_false, ite_true, Controller.setContacts_egressContacts, found,
    Controller.guarded_of_isContactConstr set, resetEq, resetSame, addedEq, bind, Except.bind, pure, Except.pure]

/-- The first call without the other foot's contact dereferences `end()`. -/
theorem run_start_absent {phase : MoveComForcePhase} {ctl : Controller} (readings : Readings)
    (started : phase.started = false)
    (absent : ∀ contact ∈ ctl.egressContacts, contact.r1Surface ≠ phase.otherSurf) :
    phase.run ctl readings = .error .endDereference := by
  simp [run, started, findSurface_eq_none.mpr absent, derefIter_none, bind, Except.bind]

/-- The first call on a constraint of another class skips the reset but not the
`addDofContact` after it: a null dereference. -/
theorem run_start_other {phase : MoveComForcePhase} {ctl : Controller} (readings : Readings)
    (started : phase.started = false) (other : ctl.constraint = .other)
    (present : ∃ contact ∈ ctl.egressContacts, contact.r1Surface = phase.otherSurf) :
    phase.run ctl readings = .error .nullDereference := by
  obtain ⟨contact, -, found, -, -⟩ := findSurface_found present
  have set : (ctl.setContacts ctl.egressContacts).constraint = .other := other
  simp [run, started, found, Controller.guarded_other set, Controller.addDofContact_other set, bind,
    Except.bind]

/-- The states from which no call faults: before the first call the constraint is a
`ContactConstr` and the other foot's contact exists; the later resets are guarded. -/
def Safe (phase : MoveComForcePhase) (ctl : Controller) : Prop :=
  phase.started = false → ctl.IsContactConstr ∧ ∃ contact ∈ ctl.egressContacts, contact.r1Surface = phase.otherSurf

/-- From a safe state a call does not fault, and leaves a safe state. -/
theorem run_safe (phase : MoveComForcePhase) (ctl : Controller) (readings : Readings)
    (safe : Safe phase ctl) : Succeeds Safe (phase.run ctl readings) := by
  cases started : phase.started
  · obtain ⟨contactConstr, present⟩ := safe started
    obtain ⟨ctl', ran, -⟩ := run_start readings started contactConstr present
    exact ⟨_, _, _, ran, nofun⟩
  · obtain ⟨reset, resetEq, -, -⟩ := @Controller.guarded_ok ctl Controller.resetDofContacts
      Controller.resetDofContacts_ok
    simp only [run, started, Bool.not_true, Bool.false_eq_true, ↓reduceIte, resetEq, bind, Except.bind,
      pure, Except.pure]
    repeat' (apply succeeds_ite <;> intro _)
    all_goals exact ⟨_, _, _, rfl, by simp [Safe, started]⟩

/-- Every run from the constructor, on a `ContactConstr` and with the other foot's
contact, goes without a fault. -/
theorem moveComForce_runs_ok (surfName : String) (ctl : Controller) (contactConstr : ctl.IsContactConstr)
    (present : ∃ contact ∈ ctl.egressContacts, contact.r1Surface = (make surfName).otherSurf)
    (readings : List Readings) :
    ∃ results phase ctl', runs run (make surfName) ctl readings = .ok (results, phase, ctl') := by
  obtain ⟨results, phase, ctl', ran, -⟩ :=
    runs_ok run Safe run_safe (make surfName) ctl (fun _ => ⟨contactConstr, present⟩) readings
  exact ⟨results, phase, ctl', ran⟩

/-- Moving the CoM over the right foot on the standing controller, a run of two calls goes
without a fault. -/
theorem moveComForce_runs_ok_standing :
    standing.IsContactConstr ∧
      (∃ contact ∈ standing.egressContacts, contact.r1Surface = (make "RFullSole").otherSurf) ∧
      ∃ results phase ctl', runs run (make "RFullSole") standing [⟨true, true, true, 200, 0⟩, ⟨true, true, true, 200, 0⟩] =
        .ok (results, phase, ctl') :=
  ⟨⟨[], rfl⟩, ⟨⟨"LFullSole", "exit_platform"⟩, by decide, by decide⟩,
    moveComForce_runs_ok "RFullSole" standing ⟨[], rfl⟩ ⟨⟨"LFullSole", "exit_platform"⟩, by decide, by decide⟩ _⟩

end MoveComForcePhase

/-- Two of the phases fault on their first call: `EgressPutDownRightFootPhase` dereferences
`end()` when no contact is on `RFullSole`, and `EgressMoveComForcePhase` calls
`addDofContact` through a null pointer when the constraint is of another class. -/
theorem egress_lookups_fault (readings : Readings) :
    PutDownRightFootPhase.make.run ⟨[⟨"LFullSole", "AllGround"⟩], [], .contactConstr []⟩ readings =
        .error .endDereference ∧
      (MoveComForcePhase.make "RFullSole").run ⟨[⟨"LFullSole", "AllGround"⟩], [], .other⟩ readings =
        .error .nullDereference :=
  ⟨PutDownRightFootPhase.run_start_absent readings rfl (by decide),
    MoveComForcePhase.run_start_other readings rfl rfl ⟨_, List.mem_singleton_self _, by decide⟩⟩

end Egress

end McRtc
