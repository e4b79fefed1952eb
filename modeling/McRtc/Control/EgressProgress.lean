import McRtc.Control.EgressCheckedPhases

/-!
# How far the egress phases get, and the contacts they leave

A stage of an egress phase ends when its task has settled or when its counter passes the
stage's timeout. A phase whose every stage has a timeout therefore cannot hang: whatever
the robot does, it finishes within a number of calls fixed by its timeouts. Each phase
also edits the controller's egress contacts in one fixed way: it takes out the contact
it lifts, and puts the foot back down at its end, once.

For each phase, `remaining` bounds the calls it may still take, and one step lemma says
that a call from a safe state keeps the phase's `Progress` and either finishes the phase
or lowers `remaining`; `runs_progress` turns that, with the phase's `run_safe`, into a
statement about every run. `Progress` states the egress contacts in closed form, from
the contacts the run started with and the phase's flags: `find_if` followed by `erase` is
`eraseP`, and each contact the phase appends is there exactly when the stage that appends
it is done.

`EgressRemoveRightGripperPhase` waits on its task without a timeout, so only its contact
edit is stated. `EgressReplaceLeftFootPhase`, and `EgressMoveComSurfPhase` when its
`auto_transit` is set, are the phases here whose `run` ever returns `true`: `runs_signals`
counts those returns, once on a run that ends the phase. The other phases return `false`
at every call, though the base class's comment says `run` returns true when the phase is
over.
-/

namespace McRtc

namespace Egress

section Signals

variable {Phase : Type} (run : Phase → Controller → Readings → Except Fault (Bool × Phase × Controller))

/-- A phase that returns `true` exactly at the call that turns `signalled` on, and never
turns it off, returns `true` once on a run that turns it on, and never on another.

Proof: by induction on the readings, one call at a time. -/
theorem runs_signals (signalled : Phase → Bool)
    (signals : ∀ {phase ctl readings value phase' ctl'}, run phase ctl readings = .ok (value, phase', ctl') →
      (signalled phase → signalled phase') ∧ value = (signalled phase' && !signalled phase))
    {phase : Phase} {ctl : Controller} {readings : List Readings} {results : List Bool} {phase' : Phase}
    {ctl' : Controller} (ran : runs run phase ctl readings = .ok (results, phase', ctl')) :
    results.count true + (if signalled phase then 1 else 0) = if signalled phase' then 1 else 0 := by
  induction readings generalizing phase ctl results with
  | nil =>
    simp only [runs, Except.ok.injEq, Prod.mk.injEq] at ran
    obtain ⟨rfl, rfl, -⟩ := ran
    simp
  | cons first rest inductionHypothesis =>
    obtain ⟨⟨value, phase₁, ctl₁⟩, called, ran⟩ := bind_eq_ok ran
    obtain ⟨⟨results₁, phase₂, ctl₂⟩, ran₁, ended⟩ := bind_eq_ok ran
    simp only [pure, Except.pure, Except.ok.injEq, Prod.mk.injEq] at ended
    obtain ⟨rfl, rfl, rfl⟩ := ended
    have counted := inductionHypothesis ran₁
    obtain ⟨kept, rfl⟩ := signals called
    revert kept counted
    cases signalled phase <;> cases signalled phase₁ <;> cases signalled phase₂ <;> simp [List.count_cons]

end Signals

namespace PutDownRightFootPhase

/-- The calls the phase may still take: the first one, then for each of its four stages
at most `15 * 500 + 1` calls from a fresh counter. -/
def remaining (phase : PutDownRightFootPhase) : ℕ :=
  if !phase.started then 1 + 4 * (15 * 500 + 1)
  else if !phase.doneRemoving then 3 * (15 * 500 + 1) + (15 * 500 + 1 - phase.timeoutIter)
  else if !phase.doneMoving then 2 * (15 * 500 + 1) + (15 * 500 + 1 - phase.timeoutIter)
  else if !phase.doneRotating then (15 * 500 + 1) + (15 * 500 + 1 - phase.timeoutIter)
  else if !phase.doneContacting then 15 * 500 + 1 - phase.timeoutIter
  else 0

/-- The egress contacts the phase leaves, from those it started with: without the first
contact on the right sole once started, and with the right sole on the ground once the
contact stage is done. -/
def contactsAfter (phase : PutDownRightFootPhase) (contacts : List Contact) : List Contact :=
  (if phase.started then contacts.eraseP fun contact => contact.r1Surface == "RFullSole" else contacts) ++
    if phase.doneContacting then [⟨"RFullSole", "AllGround"⟩] else []

/-- What every call keeps on a run from the contacts `contacts`, beside `Safe`: the
stages done in their order, a counter below the timeout in an unfinished stage, and the
egress contacts in closed form. -/
@[mk_iff] structure Progress (contacts : List Contact) (phase : PutDownRightFootPhase) (ctl : Controller) : Prop where
  removed : phase.doneRemoving → phase.started
  moved : phase.doneMoving → phase.doneRemoving
  rotated : phase.doneRotating → phase.doneMoving
  contacted : phase.doneContacting → phase.doneRotating
  counted : phase.started → phase.doneContacting = false → phase.timeoutIter ≤ 15 * 500
  edited : ctl.egressContacts = phase.contactsAfter contacts

/-- From a safe state, a call keeps `Progress`, keeps the phase finished, and finishes it
or lowers `remaining`. -/
theorem run_progress (contacts : List Contact) (phase : PutDownRightFootPhase) (ctl : Controller)
    (readings : Readings) (safe : Safe phase ctl) (progress : Progress contacts phase ctl) :
    Succeeds (fun phase' ctl' => Progress contacts phase' ctl' ∧
      (phase.doneContacting → phase'.doneContacting) ∧
      (phase'.doneContacting ∨ phase'.remaining < phase.remaining)) (phase.run ctl readings) := by
  obtain ⟨contactConstr, present⟩ := safe
  obtain ⟨removed, moved, rotated, contacted, counted, edited⟩ := progress
  cases started : phase.started
  · obtain ⟨ctl', ran, -, erased⟩ := run_start readings started (present started)
    refine ⟨_, _, _, ran, ⟨fun _ => rfl, moved, rotated, contacted, fun _ _ => Nat.zero_le _, ?_⟩, ?_⟩ <;>
      simp_all [contactsAfter, remaining]
  · have timed : phase.doneContacting = false → phase.timeoutIter ≤ 15 * 500 := counted started
    obtain ⟨reset, resetEq, -, same⟩ := Controller.resetDofContacts_ok contactConstr
    simp only [run, started, Bool.not_true, Bool.false_eq_true, ↓reduceIte, resetEq, bind, Except.bind,
      pure, Except.pure]
    clear present counted removed resetEq contactConstr
    repeat' (apply succeeds_ite <;> intro branch)
    all_goals refine ⟨_, _, _, rfl, ?_⟩
    all_goals simp_all [progress_iff, remaining, contactsAfter, waited, Nat.lt_succ_iff]
    all_goals omega

/-- Under `Progress`, a phase with no call left has done its contact stage. -/
theorem contacted_of_remaining {contacts : List Contact} {phase : PutDownRightFootPhase} {ctl : Controller}
    (progress : Progress contacts phase ctl) (exhausted : phase.remaining = 0) : phase.doneContacting := by
  cases started : phase.started
  · simp [remaining, started] at exhausted
  cases contacted : phase.doneContacting
  · have timed := progress.counted started contacted
    simp only [remaining, started, contacted, Bool.not_true, Bool.not_false, Bool.false_eq_true, ite_false,
      ite_true] at exhausted
    split_ifs at exhausted <;> omega
  · rfl

/-- From a `ContactConstr` and an `RFullSole` contact, every run goes without a fault and
leaves the egress contacts in closed form: the first `RFullSole` contact taken out by the
first call, and the right sole put on the ground once, when the contact stage ends. And
whatever the readings, that stage has ended after `1 + 4 * (15 * 500 + 1)` calls. -/
theorem putDownRightFoot_finishes (ctl : Controller) (contactConstr : ctl.IsContactConstr)
    (present : ∃ contact ∈ ctl.egressContacts, contact.r1Surface = "RFullSole") (readings : List Readings) :
    ∃ results phase ctl', runs run make ctl readings = .ok (results, phase, ctl') ∧
      ctl'.egressContacts = phase.contactsAfter ctl.egressContacts ∧
      (1 + 4 * (15 * 500 + 1) ≤ readings.length → phase.doneContacting) := by
  obtain ⟨results, phase, ctl', ran, -, progress, -, finished⟩ :=
    runs_progress run Safe (Progress ctl.egressContacts) (fun phase => phase.doneContacting) remaining run_safe
      (run_progress ctl.egressContacts) (fun _ _ => contacted_of_remaining) make ctl
      ⟨contactConstr, fun _ => present⟩ ⟨nofun, nofun, nofun, nofun, nofun, by simp [contactsAfter, make]⟩ readings
  exact ⟨results, phase, ctl', ran, progress.edited, finished⟩

/-- On the standing controller, a run of two calls leaves the contacts in closed form. -/
theorem putDownRightFoot_finishes_standing :
    standing.IsContactConstr ∧ (∃ contact ∈ standing.egressContacts, contact.r1Surface = "RFullSole") ∧
      ∃ results phase ctl', runs run make standing [⟨true, true, true, 200, 0⟩, ⟨true, true, true, 200, 0⟩] =
        .ok (results, phase, ctl') ∧ ctl'.egressContacts = phase.contactsAfter standing.egressContacts ∧
        (1 + 4 * (15 * 500 + 1) ≤ 2 → phase.doneContacting) :=
  ⟨⟨[], rfl⟩, ⟨⟨"RFullSole", "exit_platform"⟩, by decide, rfl⟩,
    putDownRightFoot_finishes standing ⟨[], rfl⟩ ⟨⟨"RFullSole", "exit_platform"⟩, by decide, rfl⟩ _⟩

end PutDownRightFootPhase

namespace ReplaceRightFootPhase

/-- The calls the phase may still take: the first one, at most `15 * 500 + 1` calls for
each of its first four stages, and `30 * 500 + 1` for the contact stage. -/
def remaining (phase : ReplaceRightFootPhase) : ℕ :=
  if !phase.started then 1 + 4 * (15 * 500 + 1) + (30 * 500 + 1)
  else if !phase.donePremoving then 3 * (15 * 500 + 1) + (30 * 500 + 1) + (15 * 500 + 1 - phase.timeoutIter)
  else if !phase.doneRemoving then 2 * (15 * 500 + 1) + (30 * 500 + 1) + (15 * 500 + 1 - phase.timeoutIter)
  else if !phase.doneMoving then (15 * 500 + 1) + (30 * 500 + 1) + (15 * 500 + 1 - phase.timeoutIter)
  else if !phase.doneRotating then (30 * 500 + 1) + (15 * 500 + 1 - phase.timeoutIter)
  else if !phase.doneContacting then 30 * 500 + 1 - phase.timeoutIter
  else 0

/-- What every call keeps on a run from the contacts `contacts`, beside `Safe`: the stages
done in their order, a counter below its stage's timeout, and the egress contacts
untouched. -/
@[mk_iff] structure Progress (contacts : List Contact) (phase : ReplaceRightFootPhase) (ctl : Controller) : Prop where
  premoved : phase.donePremoving → phase.started
  removed : phase.doneRemoving → phase.donePremoving
  moved : phase.doneMoving → phase.doneRemoving
  rotated : phase.doneRotating → phase.doneMoving
  contacted : phase.doneContacting → phase.doneRotating
  counted : phase.started → phase.doneContacting = false →
    phase.timeoutIter ≤ if phase.doneRotating then 30 * 500 else 15 * 500
  edited : ctl.egressContacts = contacts

/-- From a safe state, a call keeps `Progress`, keeps the phase finished, and finishes it
or lowers `remaining`. -/
theorem run_progress (contacts : List Contact) (phase : ReplaceRightFootPhase) (ctl : Controller)
    (readings : Readings) (safe : Safe phase ctl) (progress : Progress contacts phase ctl) :
    Succeeds (fun phase' ctl' => Progress contacts phase' ctl' ∧
      (phase.doneContacting → phase'.doneContacting) ∧
      (phase'.doneContacting ∨ phase'.remaining < phase.remaining)) (phase.run ctl readings) := by
  obtain ⟨contactConstr, inside, two⟩ := safe
  obtain ⟨premoved, removed, moved, rotated, contacted, counted, edited⟩ := progress
  obtain ⟨rfc, otherContacts, looked⟩ := lookUp_ok inside two
  obtain ⟨added, addedEq, -, addedSame⟩ := @Controller.guarded_ok (ctl.setContacts ctl.egressContacts)
    (fun ctl => ctl.addDofContact rfc [2, 5]) (fun contactConstr => Controller.addDofContact_ok contactConstr rfc [2, 5])
  obtain ⟨turned, turnedEq, -, turnedSame⟩ := @Controller.guarded_ok (ctl.setContacts ctl.egressContacts)
    (fun ctl => ctl.addDofContact rfc [5]) (fun contactConstr => Controller.addDofContact_ok contactConstr rfc [5])
  obtain ⟨reset, resetEq, -, resetSame⟩ := Controller.resetDofContacts_ok contactConstr
  simp only [run, looked, lookUp_setContacts, Controller.setContacts_setContacts,
    Controller.setContacts_egressContacts, addedEq, turnedEq, resetEq, bind, Except.bind, pure, Except.pure]
  clear looked addedEq turnedEq resetEq contactConstr inside two
  repeat' (apply succeeds_ite <;> intro branch)
  all_goals refine ⟨_, _, _, rfl, ?_⟩
  all_goals simp_all [progress_iff, remaining, waited, Nat.lt_succ_iff]
  all_goals omega

/-- Under `Progress`, a phase with no call left has done its contact stage. -/
theorem contacted_of_remaining {contacts : List Contact} {phase : ReplaceRightFootPhase} {ctl : Controller}
    (progress : Progress contacts phase ctl) (exhausted : phase.remaining = 0) : phase.doneContacting := by
  cases started : phase.started
  · simp [remaining, started] at exhausted
  cases contacted : phase.doneContacting
  · have timed := progress.counted started contacted
    simp only [remaining, started, contacted, Bool.not_true, Bool.not_false, Bool.false_eq_true, ite_false,
      ite_true] at exhausted
    split_ifs at exhausted timed <;> omega
  · rfl

/-- From a `ContactConstr` with three contacts, every run goes without a fault and leaves
the egress contacts as they were: the phase hands the solver other contact sets, but
never edits the controller's. And whatever the readings, the contact stage has ended
after `1 + 4 * (15 * 500 + 1) + (30 * 500 + 1)` calls. -/
theorem replaceRightFoot_finishes (ctl : Controller) (contactConstr : ctl.IsContactConstr)
    (three : 3 ≤ ctl.egressContacts.length) (readings : List Readings) :
    ∃ results phase ctl', runs run make ctl readings = .ok (results, phase, ctl') ∧
      ctl'.egressContacts = ctl.egressContacts ∧
      (1 + 4 * (15 * 500 + 1) + (30 * 500 + 1) ≤ readings.length → phase.doneContacting) := by
  obtain ⟨results, phase, ctl', ran, -, progress, -, finished⟩ :=
    runs_progress run Safe (Progress ctl.egressContacts) (fun phase => phase.doneContacting) remaining run_safe
      (run_progress ctl.egressContacts) (fun _ _ => contacted_of_remaining) make ctl
      ⟨contactConstr, three, by omega⟩ ⟨nofun, nofun, nofun, nofun, nofun, nofun, rfl⟩ readings
  exact ⟨results, phase, ctl', ran, progress.edited, finished⟩

/-- On the standing controller, a run of two calls leaves the contacts in closed form. -/
theorem replaceRightFoot_finishes_standing :
    standing.IsContactConstr ∧ 3 ≤ standing.egressContacts.length ∧
      ∃ results phase ctl', runs run make standing [⟨true, true, true, 200, 0⟩, ⟨true, true, true, 200, 0⟩] =
        .ok (results, phase, ctl') ∧ ctl'.egressContacts = standing.egressContacts ∧
        (1 + 4 * (15 * 500 + 1) + (30 * 500 + 1) ≤ 2 → phase.doneContacting) :=
  ⟨⟨[], rfl⟩, by decide, replaceRightFoot_finishes standing ⟨[], rfl⟩ (by decide) _⟩

end ReplaceRightFootPhase

namespace MoveComForcePhase

/-- The calls the phase may still take: the first one, then at most `10 * 500 + 1` calls
to move the CoM. -/
def remaining (phase : MoveComForcePhase) : ℕ :=
  if !phase.started then 1 + (10 * 500 + 1)
  else if !phase.doneCom then 10 * 500 + 1 - phase.iter
  else 0

/-- What every call keeps on a run from the contacts `contacts`, beside `Safe`: a counter
below the timeout until the CoM has moved, and the egress contacts untouched. -/
@[mk_iff] structure Progress (contacts : List Contact) (phase : MoveComForcePhase) (ctl : Controller) : Prop where
  counted : phase.doneCom = false → phase.iter ≤ 10 * 500
  edited : ctl.egressContacts = contacts

/-- From a safe state, a call keeps `Progress`, keeps the CoM stage done, and ends it or
lowers `remaining`. -/
theorem run_progress (contacts : List Contact) (phase : MoveComForcePhase) (ctl : Controller)
    (readings : Readings) (safe : Safe phase ctl) (progress : Progress contacts phase ctl) :
    Succeeds (fun phase' ctl' => Progress contacts phase' ctl' ∧ (phase.doneCom → phase'.doneCom) ∧
      (phase'.doneCom ∨ phase'.remaining < phase.remaining)) (phase.run ctl readings) := by
  obtain ⟨counted, edited⟩ := progress
  cases started : phase.started
  · obtain ⟨contactConstr, present⟩ := safe started
    obtain ⟨ctl', ran, -, same⟩ := run_start readings started contactConstr present
    refine ⟨_, _, _, ran, ⟨counted, same.trans edited⟩, id, ?_⟩
    simp only [remaining, started, Bool.not_false, Bool.not_true, ite_true, Bool.false_eq_true, ite_false]
    cases phase.doneCom <;> simp; omega
  · obtain ⟨reset, resetEq, -, same⟩ := @Controller.guarded_ok ctl Controller.resetDofContacts
      Controller.resetDofContacts_ok
    simp only [run, started, Bool.not_true, Bool.false_eq_true, ↓reduceIte, resetEq, bind, Except.bind,
      pure, Except.pure]
    repeat' (apply succeeds_ite <;> intro branch)
    all_goals refine ⟨_, _, _, rfl, ?_⟩
    all_goals simp_all [progress_iff, remaining, waited, Nat.lt_succ_iff]
    all_goals omega

/-- Under `Progress`, a phase with no call left has moved the CoM. -/
theorem moved_of_remaining {contacts : List Contact} {phase : MoveComForcePhase} {ctl : Controller}
    (progress : Progress contacts phase ctl) (exhausted : phase.remaining = 0) : phase.doneCom := by
  cases started : phase.started
  · simp [remaining, started] at exhausted
  cases done : phase.doneCom
  · have timed := progress.counted done
    simp only [remaining, started, done, Bool.not_true, Bool.not_false, Bool.false_eq_true, ite_false,
      ite_true] at exhausted
    omega
  · rfl

/-- On a `ContactConstr` with the other foot's contact, every run goes without a fault and
leaves the egress contacts as they were; and whatever the readings, the CoM stage has
ended after `1 + (10 * 500 + 1)` calls. -/
theorem moveComForce_finishes (surfName : String) (ctl : Controller) (contactConstr : ctl.IsContactConstr)
    (present : ∃ contact ∈ ctl.egressContacts, contact.r1Surface = (make surfName).otherSurf)
    (readings : List Readings) :
    ∃ results phase ctl', runs run (make surfName) ctl readings = .ok (results, phase, ctl') ∧
      ctl'.egressContacts = ctl.egressContacts ∧ (1 + (10 * 500 + 1) ≤ readings.length → phase.doneCom) := by
  obtain ⟨results, phase, ctl', ran, -, progress, -, finished⟩ :=
    runs_progress run Safe (Progress ctl.egressContacts) (fun phase => phase.doneCom) remaining run_safe
      (run_progress ctl.egressContacts) (fun _ _ => moved_of_remaining) (make surfName) ctl
      (fun _ => ⟨contactConstr, present⟩) ⟨fun _ => Nat.zero_le _, rfl⟩ readings
  exact ⟨results, phase, ctl', ran, progress.edited, finished⟩

/-- Moving the CoM over the right foot on the standing controller, a first call leaves the
egress contacts as they were. -/
theorem moveComForce_finishes_standing :
    standing.IsContactConstr ∧
      (∃ contact ∈ standing.egressContacts, contact.r1Surface = (make "RFullSole").otherSurf) ∧
      ∃ results phase ctl', runs run (make "RFullSole") standing [⟨true, true, true, 200, 0⟩] =
        .ok (results, phase, ctl') ∧ ctl'.egressContacts = standing.egressContacts ∧
        (1 + (10 * 500 + 1) ≤ 1 → phase.doneCom) :=
  ⟨⟨[], rfl⟩, ⟨⟨"LFullSole", "exit_platform"⟩, by decide, by decide⟩,
    moveComForce_finishes "RFullSole" standing ⟨[], rfl⟩ ⟨⟨"LFullSole", "exit_platform"⟩, by decide, by decide⟩ _⟩

end MoveComForcePhase

namespace ReplaceLeftFootPhase

/-- The calls the phase may still take: the first one, then at most `15 * 500 + 1` calls
for each of its three stages. -/
def remaining (phase : ReplaceLeftFootPhase) : ℕ :=
  if !phase.started then 1 + 3 * (15 * 500 + 1)
  else if !phase.doneRemoving then 2 * (15 * 500 + 1) + (15 * 500 + 1 - phase.timeoutIter)
  else if !phase.doneRotating then (15 * 500 + 1) + (15 * 500 + 1 - phase.timeoutIter)
  else if !phase.doneContacting then 15 * 500 + 1 - phase.timeoutIter
  else 0

/-- The egress contacts the phase leaves: without the left foot's contact once the
rotation is done, and with the left sole on the ground once the contact stage is done. -/
def contactsAfter (phase : ReplaceLeftFootPhase) (contacts : List Contact) : List Contact :=
  (if phase.doneRotating then contacts.eraseIdx phase.lfcIndex else contacts) ++
    if phase.doneContacting then [⟨"LFullSole", "AllGround"⟩] else []

/-- What every call keeps on a run from the contacts `contacts`, beside `Safe`: the
stages done in their order, a counter below the timeout in an unfinished stage, and the
egress contacts in closed form. -/
@[mk_iff] structure Progress (contacts : List Contact) (phase : ReplaceLeftFootPhase) (ctl : Controller) : Prop where
  removed : phase.doneRemoving → phase.started
  rotated : phase.doneRotating → phase.doneRemoving
  contacted : phase.doneContacting → phase.doneRotating
  counted : phase.started → phase.doneContacting = false → phase.timeoutIter ≤ 15 * 500
  edited : ctl.egressContacts = phase.contactsAfter contacts

/-- From a safe state, a call keeps `Progress`, keeps the phase finished, and finishes it
or lowers `remaining`. -/
theorem run_progress (contacts : List Contact) (phase : ReplaceLeftFootPhase) (ctl : Controller)
    (readings : Readings) (safe : Safe phase ctl) (progress : Progress contacts phase ctl) :
    Succeeds (fun phase' ctl' => Progress contacts phase' ctl' ∧
      (phase.doneContacting → phase'.doneContacting) ∧
      (phase'.doneContacting ∨ phase'.remaining < phase.remaining)) (phase.run ctl readings) := by
  obtain ⟨-, present⟩ := safe
  obtain ⟨removed, rotated, contacted, counted, edited⟩ := progress
  cases started : phase.started
  · have fresh : phase.doneRemoving = false := Bool.eq_false_iff.mpr fun done => by simp [removed done] at started
    have notRotated : phase.doneRotating = false := by simpa [fresh] using rotated
    obtain ⟨inside, three⟩ := present notRotated
    obtain ⟨added, addedEq, -, addedSame⟩ := @Controller.guarded_ok (ctl.setContacts ctl.egressContacts)
      (fun next => next.addDofContact ctl.egressContacts[phase.lfcIndex] [5])
      (fun contactConstr => Controller.addDofContact_ok contactConstr _ [5])
    simp only [run, started, Bool.not_false, ite_true, vectorAt_ok inside,
      vectorAt_ok (show 1 < ctl.egressContacts.length by omega),
      vectorAt_ok (show 2 < ctl.egressContacts.length by omega), addedEq, bind, Except.bind, pure, Except.pure]
    refine ⟨_, _, _, rfl, ?_⟩
    simp_all [progress_iff, contactsAfter, remaining]
  · have timed : phase.doneContacting = false → phase.timeoutIter ≤ 15 * 500 := counted started
    obtain ⟨reset, resetEq, -, resetSame⟩ := @Controller.guarded_ok ctl Controller.resetDofContacts
      Controller.resetDofContacts_ok
    cases notRotated : phase.doneRotating
    · obtain ⟨inside, three⟩ := present notRotated
      simp only [run, started, notRotated, Bool.not_true, Bool.not_false, Bool.false_eq_true, ↓reduceIte,
        eraseAt_ok inside, bind, Except.bind, pure, Except.pure]
      clear counted removed present inside three
      repeat' (apply succeeds_ite <;> intro branch)
      all_goals refine ⟨_, _, _, rfl, ?_⟩
      all_goals simp_all [progress_iff, remaining, contactsAfter, waited, Nat.lt_succ_iff]
      all_goals omega
    · simp only [run, started, notRotated, Bool.not_true, Bool.false_eq_true, ↓reduceIte, resetEq, bind,
        Except.bind, pure, Except.pure]
      clear counted removed present resetEq
      repeat' (apply succeeds_ite <;> intro branch)
      all_goals refine ⟨_, _, _, rfl, ?_⟩
      all_goals simp_all [progress_iff, remaining, contactsAfter, waited, Nat.lt_succ_iff]
      all_goals omega

/-- A call returns `true` exactly when it ends the contact stage, which then stays done. -/
theorem run_signals {phase phase' : ReplaceLeftFootPhase} {ctl ctl' : Controller} {readings : Readings}
    {value : Bool} (ran : phase.run ctl readings = .ok (value, phase', ctl')) :
    (phase.doneContacting → phase'.doneContacting) ∧ value = (phase'.doneContacting && !phase.doneContacting) := by
  simp only [run, bind, Except.bind, pure, Except.pure] at ran
  repeat' split at ran
  all_goals cases ran
  all_goals simp_all

/-- Under `Progress`, a phase with no call left has done its contact stage. -/
theorem contacted_of_remaining {contacts : List Contact} {phase : ReplaceLeftFootPhase} {ctl : Controller}
    (progress : Progress contacts phase ctl) (exhausted : phase.remaining = 0) : phase.doneContacting := by
  cases started : phase.started
  · simp [remaining, started] at exhausted
  cases contacted : phase.doneContacting
  · have timed := progress.counted started contacted
    simp only [remaining, started, contacted, Bool.not_true, Bool.not_false, Bool.false_eq_true, ite_false,
      ite_true] at exhausted
    split_ifs at exhausted <;> omega
  · rfl

/-- From three contacts, whatever the constraint object, every run goes without a fault
and leaves the egress contacts in closed form: the left foot's contact taken out when the
rotation ends, and the left sole put on the ground once, when the contact stage ends. The
run returns `true` once, at that end, and never before. And whatever the readings, the
phase has ended after `1 + 3 * (15 * 500 + 1)` calls. -/
theorem replaceLeftFoot_finishes (ctl : Controller) (three : 3 ≤ ctl.egressContacts.length)
    (readings : List Readings) :
    ∃ results phase ctl', runs run make ctl readings = .ok (results, phase, ctl') ∧
      ctl'.egressContacts = phase.contactsAfter ctl.egressContacts ∧
      results.count true = (if phase.doneContacting then 1 else 0) ∧
      (1 + 3 * (15 * 500 + 1) ≤ readings.length → phase.doneContacting) := by
  obtain ⟨results, phase, ctl', ran, -, progress, -, finished⟩ :=
    runs_progress run Safe (Progress ctl.egressContacts) (fun phase => phase.doneContacting) remaining run_safe
      (run_progress ctl.egressContacts) (fun _ _ => contacted_of_remaining) make ctl
      ⟨nofun, fun _ => ⟨by simp only [make]; omega, three⟩⟩ ⟨nofun, nofun, nofun, nofun, by simp [contactsAfter, make]⟩
      readings
  refine ⟨results, phase, ctl', ran, progress.edited, ?_, finished⟩
  simpa [make] using runs_signals run (fun phase => phase.doneContacting) run_signals ran

/-- On the standing contacts and a constraint of another class, a run of three calls leaves
the contacts in closed form. -/
theorem replaceLeftFoot_finishes_other :
    3 ≤ ({ standing with constraint := .other } : Controller).egressContacts.length ∧
      ∃ results phase ctl', runs run make { standing with constraint := .other }
          [⟨true, true, true, 0, 0⟩, ⟨true, true, true, 0, 0⟩, ⟨true, true, true, 0, 0⟩] =
        .ok (results, phase, ctl') ∧ ctl'.egressContacts = phase.contactsAfter standing.egressContacts ∧
        results.count true = (if phase.doneContacting then 1 else 0) ∧
        (1 + 3 * (15 * 500 + 1) ≤ 3 → phase.doneContacting) :=
  ⟨by decide, replaceLeftFoot_finishes _ (by decide) _⟩

end ReplaceLeftFootPhase

namespace RemoveRightGripperPhase

/-- The first call erases the first `RightGripper` contact, and none when there is none:
`erase(find_if(...))` behind the check against `end()` is `eraseP`. -/
theorem run_start_erases {phase : RemoveRightGripperPhase} (ctl : Controller) (readings : Readings)
    (started : phase.started = false) :
    ∃ ctl', phase.run ctl readings = .ok (false, { phase with started := true }, ctl') ∧
      ctl'.egressContacts = ctl.egressContacts.eraseP fun contact => contact.r1Surface == "RightGripper" := by
  simp only [run, started, Bool.not_false, ite_true, Controller.setContacts_egressContacts]
  split
  · obtain ⟨i, found⟩ := Option.isSome_iff_exists.mp ‹_›
    simp only [found, eraseIter, bind, Except.bind, pure, Except.pure]
    exact ⟨_, rfl, eraseIter_findSurface (by rw [found]; rfl)⟩
  · have absent := findSurface_eq_none.mp (Option.not_isSome_iff_eq_none.mp ‹_›)
    exact ⟨_, rfl, (List.eraseP_of_forall_not fun contact member named => absent contact member (by simpa using named)).symm⟩

/-- The egress contacts the phase leaves: without the first `RightGripper` contact once
started. -/
def contactsAfter (phase : RemoveRightGripperPhase) (contacts : List Contact) : List Contact :=
  if phase.started then contacts.eraseP fun contact => contact.r1Surface == "RightGripper" else contacts

/-- A call keeps the egress contacts in closed form. -/
theorem run_edited (contacts : List Contact) (phase : RemoveRightGripperPhase) (ctl : Controller)
    (readings : Readings) (edited : ctl.egressContacts = phase.contactsAfter contacts) :
    Succeeds (fun phase' ctl' => ctl'.egressContacts = phase'.contactsAfter contacts) (phase.run ctl readings) := by
  cases started : phase.started
  · obtain ⟨ctl', ran, erased⟩ := run_start_erases ctl readings started
    simp only [contactsAfter, started] at edited
    exact ⟨_, _, _, ran, by simp [contactsAfter, erased, edited]⟩
  · simp only [run, started, Bool.not_true, Bool.false_eq_true, ↓reduceIte]
    repeat' (apply succeeds_ite <;> intro _)
    all_goals exact ⟨_, _, _, rfl, by simpa [contactsAfter, started] using edited⟩

/-- From every controller state, every run goes without a fault and erases the first
`RightGripper` contact once, at its first call, and no other contact. -/
theorem removeRightGripper_erases_once (maxWiggles : ℤ) (ctl : Controller) (readings : List Readings) :
    ∃ results phase ctl', runs run (make maxWiggles) ctl readings = .ok (results, phase, ctl') ∧
      ctl'.egressContacts = phase.contactsAfter ctl.egressContacts :=
  runs_ok run _ (run_edited ctl.egressContacts) (make maxWiggles) ctl (by simp [contactsAfter, make]) readings

end RemoveRightGripperPhase

namespace StandupPhase

/-- The calls the phase may still take: the first one, then at most `5 * 500 + 1` calls
for the standup. -/
def remaining (phase : StandupPhase) : ℕ :=
  if !phase.started then 1 + (5 * 500 + 1)
  else if !phase.doneStandup then 5 * 500 + 1 - phase.timeoutIter
  else 0

/-- What every call keeps on a run from the contacts `contacts`, beside `Safe`: a counter
below the timeout until the standup ends, and the first contact erased exactly when it
has ended. -/
@[mk_iff] structure Progress (contacts : List Contact) (phase : StandupPhase) (ctl : Controller) : Prop where
  counted : phase.started → phase.doneStandup = false → phase.timeoutIter ≤ 5 * 500
  edited : ctl.egressContacts = if phase.doneStandup then contacts.tail else contacts

/-- From a safe state, a call keeps `Progress`, keeps the standup done, and ends it or
lowers `remaining`. -/
theorem run_progress (contacts : List Contact) (phase : StandupPhase) (ctl : Controller) (readings : Readings)
    (safe : Safe phase ctl) (progress : Progress contacts phase ctl) :
    Succeeds (fun phase' ctl' => Progress contacts phase' ctl' ∧ (phase.doneStandup → phase'.doneStandup) ∧
      (phase'.doneStandup ∨ phase'.remaining < phase.remaining)) (phase.run ctl readings) := by
  obtain ⟨ordered, present⟩ := safe
  obtain ⟨counted, edited⟩ := progress
  cases started : phase.started
  · have fresh : phase.doneStandup = false := Bool.eq_false_iff.mpr fun done => by simp [ordered done] at started
    have four := present fresh
    simp only [run, started, Bool.not_false, ite_true, vectorAt_ok (show 1 < ctl.egressContacts.length by omega),
      vectorAt_ok (show 2 < ctl.egressContacts.length by omega),
      vectorAt_ok (show 3 < ctl.egressContacts.length by omega), bind, Except.bind, pure, Except.pure]
    refine ⟨_, _, _, rfl, ?_⟩
    simp_all [progress_iff, remaining]
  cases done : phase.doneStandup
  · have four := present done
    have timed := counted started done
    simp only [run, started, done, Bool.not_true, Bool.not_false, Bool.false_eq_true, ↓reduceIte,
      eraseAt_ok (show 0 < ctl.egressContacts.length by omega), bind, Except.bind, pure, Except.pure]
    split
    · refine ⟨_, _, _, rfl, ?_⟩
      simp_all [progress_iff]
    · refine ⟨_, _, _, rfl, ?_⟩
      simp_all [progress_iff, remaining, waited]
      omega
  · simp only [run, started, done, Bool.not_true, Bool.false_eq_true, ↓reduceIte, pure, Except.pure]
    exact ⟨_, _, _, rfl, ⟨counted, edited⟩, fun _ => done, .inl done⟩

/-- Under `Progress`, a phase with no call left has stood up. -/
theorem stood_of_remaining {contacts : List Contact} {phase : StandupPhase} {ctl : Controller}
    (progress : Progress contacts phase ctl) (exhausted : phase.remaining = 0) : phase.doneStandup := by
  cases started : phase.started
  · simp [remaining, started] at exhausted
  cases done : phase.doneStandup
  · have timed := progress.counted started done
    simp only [remaining, started, done, Bool.not_true, Bool.not_false, Bool.false_eq_true, ite_false,
      ite_true] at exhausted
    omega
  · rfl

/-- From four contacts, whatever the constraint object, every run goes without a fault,
erases the first contact once, when the standup ends, and no other; and whatever the
readings, the standup has ended after `1 + (5 * 500 + 1)` calls. -/
theorem standup_finishes (ctl : Controller) (four : 4 ≤ ctl.egressContacts.length) (readings : List Readings) :
    ∃ results phase ctl', runs run make ctl readings = .ok (results, phase, ctl') ∧
      ctl'.egressContacts = (if phase.doneStandup then ctl.egressContacts.tail else ctl.egressContacts) ∧
      (1 + (5 * 500 + 1) ≤ readings.length → phase.doneStandup) := by
  obtain ⟨results, phase, ctl', ran, -, progress, -, finished⟩ :=
    runs_progress run Safe (Progress ctl.egressContacts) (fun phase => phase.doneStandup) remaining run_safe
      (run_progress ctl.egressContacts) (fun _ _ => stood_of_remaining) make ctl ⟨nofun, fun _ => four⟩
      ⟨nofun, by simp [make]⟩ readings
  exact ⟨results, phase, ctl', ran, progress.edited, finished⟩

/-- With a fourth contact and a constraint of another class, a run of two calls leaves the
contacts in closed form. -/
theorem standup_finishes_four :
    let ctl : Controller := ⟨standing.egressContacts ++ [⟨"LFullSole", "AllGround"⟩], [], .other⟩
    4 ≤ ctl.egressContacts.length ∧
      ∃ results phase ctl', runs run make ctl [⟨true, true, true, 0, 0⟩, ⟨true, true, true, 0, 0⟩] =
        .ok (results, phase, ctl') ∧
        ctl'.egressContacts = (if phase.doneStandup then ctl.egressContacts.tail else ctl.egressContacts) ∧
        (1 + (5 * 500 + 1) ≤ 2 → phase.doneStandup) :=
  ⟨by decide, standup_finishes _ (by decide) _⟩

end StandupPhase

namespace PlaceRightFootPhase

/-- The calls the phase may still take: the first one, then at most `15 * 500 + 1` calls
for each of its three stages. -/
def remaining (phase : PlaceRightFootPhase) : ℕ :=
  if !phase.started then 1 + 3 * (15 * 500 + 1)
  else if !phase.doneLifting then 2 * (15 * 500 + 1) + (15 * 500 + 1 - phase.timeoutIter)
  else if !phase.doneRotating then (15 * 500 + 1) + (15 * 500 + 1 - phase.timeoutIter)
  else if !phase.doneContacting then 15 * 500 + 1 - phase.timeoutIter
  else 0

/-- What every call keeps on a run from the contacts `contacts`: the stages done in their
order, a counter below the timeout in an unfinished stage, and the right sole on the
platform appended exactly when the contact stage is done. -/
@[mk_iff] structure Progress (contacts : List Contact) (phase : PlaceRightFootPhase) (ctl : Controller) : Prop where
  lifted : phase.doneLifting → phase.started
  rotated : phase.doneRotating → phase.doneLifting
  contacted : phase.doneContacting → phase.doneRotating
  counted : phase.started → phase.doneContacting = false → phase.timeoutIter ≤ 15 * 500
  edited : ctl.egressContacts = contacts ++ if phase.doneContacting then [⟨"RFullSole", "exit_platform"⟩] else []

/-- A call keeps `Progress`, keeps the phase finished, and finishes it or lowers
`remaining`. -/
theorem run_progress (contacts : List Contact) (phase : PlaceRightFootPhase) (ctl : Controller)
    (readings : Readings) (progress : Progress contacts phase ctl) :
    Succeeds (fun phase' ctl' => Progress contacts phase' ctl' ∧
      (phase.doneContacting → phase'.doneContacting) ∧
      (phase'.doneContacting ∨ phase'.remaining < phase.remaining)) (phase.run ctl readings) := by
  obtain ⟨lifted, rotated, contacted, counted, edited⟩ := progress
  cases started : phase.started
  · simp only [run, started, Bool.not_false, ite_true, pure, Except.pure]
    refine ⟨_, _, _, rfl, ?_⟩
    simp_all [progress_iff, remaining]
  · have timed : phase.doneContacting = false → phase.timeoutIter ≤ 15 * 500 := counted started
    simp only [run, started, Bool.not_true, Bool.false_eq_true, ↓reduceIte, pure, Except.pure]
    clear counted lifted
    repeat' (apply succeeds_ite <;> intro branch)
    all_goals refine ⟨_, _, _, rfl, ?_⟩
    all_goals simp_all [progress_iff, remaining, waited, Nat.lt_succ_iff]
    all_goals omega

/-- Under `Progress`, a phase with no call left has done its contact stage. -/
theorem contacted_of_remaining {contacts : List Contact} {phase : PlaceRightFootPhase} {ctl : Controller}
    (progress : Progress contacts phase ctl) (exhausted : phase.remaining = 0) : phase.doneContacting := by
  cases started : phase.started
  · simp [remaining, started] at exhausted
  cases contacted : phase.doneContacting
  · have timed := progress.counted started contacted
    simp only [remaining, started, contacted, Bool.not_true, Bool.not_false, Bool.false_eq_true, ite_false,
      ite_true] at exhausted
    split_ifs at exhausted <;> omega
  · rfl

/-- From every controller state, every run goes without a fault and appends the right
sole's contact on the platform once, when the contact stage ends, and no other contact;
and whatever the readings, that stage has ended after `1 + 3 * (15 * 500 + 1)` calls. -/
theorem placeRightFoot_finishes (ctl : Controller) (readings : List Readings) :
    ∃ results phase ctl', runs run make ctl readings = .ok (results, phase, ctl') ∧
      ctl'.egressContacts =
        ctl.egressContacts ++ (if phase.doneContacting then [⟨"RFullSole", "exit_platform"⟩] else []) ∧
      (1 + 3 * (15 * 500 + 1) ≤ readings.length → phase.doneContacting) := by
  obtain ⟨results, phase, ctl', ran, -, progress, -, finished⟩ :=
    runs_progress run (fun _ _ => True) (Progress ctl.egressContacts) (fun phase => phase.doneContacting) remaining
      (fun phase' ctl' readings _ => run_ok phase' ctl' readings)
      (fun phase' ctl' readings _ => run_progress ctl.egressContacts phase' ctl' readings)
      (fun _ _ => contacted_of_remaining) make ctl trivial ⟨nofun, nofun, nofun, nofun, by simp [make]⟩ readings
  exact ⟨results, phase, ctl', ran, progress.edited, finished⟩

end PlaceRightFootPhase

namespace ComPhase

/-- The calls the phase may still take: the first one, then at most `10 * 500 + 1` calls
for its stage. -/
def remaining (phase : ComPhase) : ℕ :=
  if !phase.started then 1 + (10 * 500 + 1)
  else if !phase.doneCom then 10 * 500 + 1 - phase.iter
  else 0

/-- What every call keeps on a run from the controller `ctl`: the counter at zero before
the first call, the stage done only after it, a counter below the timeout in an
unfinished stage, and the controller as it was. -/
@[mk_iff] structure Progress (ctl : Controller) (phase : ComPhase) (ctl' : Controller) : Prop where
  fresh : phase.started = false → phase.iter = 0
  ordered : phase.doneCom → phase.started
  counted : phase.started → phase.doneCom = false → phase.iter ≤ 10 * 500
  unchanged : ctl' = ctl

/-- A call keeps `Progress`, keeps the stage finished, and finishes it or lowers
`remaining`. -/
theorem run_progress (finish : Bool) (ctl : Controller) (phase : ComPhase) (ctl' : Controller)
    (readings : Readings) (progress : Progress ctl phase ctl') :
    Succeeds (fun phase' ctl'' => Progress ctl phase' ctl'' ∧ (phase.doneCom → phase'.doneCom) ∧
      (phase'.doneCom ∨ phase'.remaining < phase.remaining)) (runWith finish phase ctl' readings) := by
  obtain ⟨fresh, ordered, counted, unchanged⟩ := progress
  simp only [runWith, pure, Except.pure]
  repeat' (apply succeeds_ite <;> intro branch)
  all_goals refine ⟨_, _, _, rfl, ?_⟩
  all_goals simp_all [progress_iff, remaining, waited, Nat.lt_succ_iff]
  all_goals omega

/-- The call that ends the stage returns `finish`, and every other call `false`. -/
theorem run_signals (finish : Bool) {phase phase' : ComPhase} {ctl ctl' : Controller} {readings : Readings}
    {value : Bool} (ran : runWith finish phase ctl readings = .ok (value, phase', ctl')) :
    ((finish && phase.doneCom) → (finish && phase'.doneCom)) ∧
      value = ((finish && phase'.doneCom) && !(finish && phase.doneCom)) := by
  simp only [runWith, pure, Except.pure] at ran
  repeat' split at ran
  all_goals cases ran
  all_goals simp_all

/-- Under `Progress`, a phase with no call left has ended its stage. -/
theorem moved_of_remaining {ctl : Controller} {phase : ComPhase} {ctl' : Controller}
    (progress : Progress ctl phase ctl') (exhausted : phase.remaining = 0) : phase.doneCom := by
  cases started : phase.started
  · simp [remaining, started] at exhausted
  cases moved : phase.doneCom
  · have timed := progress.counted started moved
    simp only [remaining, started, moved, Bool.not_true, Bool.not_false, Bool.false_eq_true, ite_false,
      ite_true] at exhausted
    omega
  · rfl

/-- The two phases' runs, for either value `finish` of the end of the stage: from every
controller state, every run from the constructor goes without a fault and leaves the
controller as it was; whatever the readings, the stage has ended after
`1 + (10 * 500 + 1)` calls; and the run returns `true` once, at the end of the stage,
when `finish` is `true`, and never otherwise.

Proof: `runs_progress` with `Progress` gives the first two; `runs_signals` counts the
`true` returns. -/
theorem runs_runWith (finish : Bool) (ctl : Controller) (readings : List Readings) :
    ∃ results phase, runs (runWith finish) make ctl readings = .ok (results, phase, ctl) ∧
      (1 + (10 * 500 + 1) ≤ readings.length → phase.doneCom) ∧
      results.count true = if finish && phase.doneCom then 1 else 0 := by
  obtain ⟨results, phase, ctl', ran, -, progress, -, finished⟩ :=
    runs_progress (runWith finish) (fun _ _ => True) (Progress ctl) (fun phase => phase.doneCom) remaining
      (fun phase' ctl' readings _ => runWith_ok finish phase' ctl' readings)
      (fun phase' ctl' readings _ => run_progress finish ctl phase' ctl' readings)
      (fun _ _ => moved_of_remaining) make ctl trivial ⟨fun _ => rfl, nofun, nofun, rfl⟩ readings
  have counted := runs_signals (runWith finish) (fun phase => finish && phase.doneCom) (run_signals finish) ran
  obtain rfl := progress.unchanged
  exact ⟨results, phase, ran, finished, by simpa [make] using counted⟩

/-- `EgressMoveComSurfPhase` and `EgressCenterComPhase`, from every controller state:
every run from the constructor goes without a fault, leaves the controller as it was,
and has ended the CoM stage after `1 + (10 * 500 + 1)` calls whatever the readings. A
run of the first returns `true` once, at the end of the stage, exactly when
`auto_transit` is set; a run of the second never returns `true`, though the header
comment says `run` returns true when the phase is over. -/
theorem comPhases_finish (autoTransit : Bool) (ctl : Controller) (readings : List Readings) :
    (∃ results phase, runs (moveComSurfRun autoTransit) make ctl readings = .ok (results, phase, ctl) ∧
      (1 + (10 * 500 + 1) ≤ readings.length → phase.doneCom) ∧
      results.count true = if autoTransit && phase.doneCom then 1 else 0) ∧
    (∃ results phase, runs centerComRun make ctl readings = .ok (results, phase, ctl) ∧
      (1 + (10 * 500 + 1) ≤ readings.length → phase.doneCom) ∧ results.count true = 0) := by
  obtain ⟨results, phase, ran, finished, counted⟩ := runs_runWith false ctl readings
  exact ⟨runs_runWith autoTransit ctl readings, results, phase, ran, finished, by simpa using counted⟩

end ComPhase

/-! ## The phases that never return `true` -/

end Egress

end McRtc
