import Mathlib

/-!
# The egress controller's contacts and lookups

The egress phases (`mc_mr_egress_phases.cpp`) each run once per control step on the
`MCEgressMRQPController`. What decides whether a phase dereferences a failed lookup is the
controller's list of egress contacts, the contacts it gives the QP solver, and the object
behind `hrp2contactConstraint.contactConstr`, which a `dynamic_cast` tries to view as a
`tasks::qp::ContactConstr`. The controller is not among the modelled sources; its tasks,
targets, weights, collisions and logs are left out, since no lookup depends on them. What
a phase reads of the robot's motion, whether a task has settled and the force under the
right foot, is an input of each call.

Each lookup that can fail is modelled with its failure: `dynamic_cast` returns no
pointer, `std::find_if` returns `end()`, and `vector::at` throws. Calling a member
through a null pointer, dereferencing or erasing `end()`, and an `at` beyond the size are
the faults a call can end in; the first two are undefined behaviour, the last an
exception. The phases also look the robot's bodies, joints and surfaces up by name
(`bodyIndexByName`, `jointIndexByName`, `robot().surface`, the `EndEffectorTask`
constructor). That is `mc_rbdyn` code outside the modelled sources, and what it finds only
shapes the tasks' targets: the model takes those lookups to succeed.

A run of a phase is its calls, each on the controller the last one left. A property of
every call from the states an invariant describes holds of every run from them: that is
proved once here, for every phase.
-/

namespace McRtc

namespace Egress

/-- An `mc_rbdyn::Contact`, by the names of its two surfaces; its `contactId` is the
contact itself. -/
structure Contact where
  r1Surface : String
  r2Surface : String
deriving DecidableEq, Repr

/-- The `Eigen::MatrixXd dof(6, 6)` the phases build: the identity, with zeros on the
listed diagonal entries. -/
abbrev DofMatrix := List (Fin 6)

/-- The object behind `hrp2contactConstraint.contactConstr`: a
`tasks::qp::ContactConstr` with the dof contacts added to it, or a constraint of another
class. -/
inductive ContactConstraint where
  | contactConstr (dofContacts : List (Contact × DofMatrix))
  | other
deriving DecidableEq, Repr

/-- What the phases read and write of the controller. -/
structure Controller where
  egressContacts : List Contact
  solverContacts : List Contact
  constraint : ContactConstraint
deriving DecidableEq, Repr

/-- How a call can go wrong. -/
inductive Fault where
  | nullDereference
  | endDereference
  | outOfRange
deriving DecidableEq, Repr

/-- What a call reads of the motion: whether the end-effector's position task, its
orientation task and the CoM task have settled (their error and speed norms below the
phase's thresholds), and the vertical forces `wrenches[0].first[2]` under the right foot
and `wrenches[1].first[2]` under the left foot. -/
structure Readings where
  positionSettled : Bool
  orientationSettled : Bool
  comSettled : Bool
  rightFootForce : ℚ
  leftFootForce : ℚ

namespace Controller

/-- `mrqpsolver->setContacts(contacts)`. -/
def setContacts (ctl : Controller) (contacts : List Contact) : Controller :=
  { ctl with solverContacts := contacts }

/-- `dynamic_cast<tasks::qp::ContactConstr*>(contactConstr.get())`: the dof contacts of a
`ContactConstr`, or no pointer. -/
def castConstraint (ctl : Controller) : Option (List (Contact × DofMatrix)) :=
  match ctl.constraint with
  | .contactConstr dofContacts => some dofContacts
  | .other => none

/-- `constr->addDofContact(cId, dof)` on the cast pointer. -/
def addDofContact (ctl : Controller) (cId : Contact) (dof : DofMatrix) : Except Fault Controller :=
  match ctl.castConstraint with
  | some dofContacts => .ok { ctl with constraint := .contactConstr (dofContacts ++ [(cId, dof)]) }
  | none => .error .nullDereference

/-- `constr->resetDofContacts()` on the cast pointer. -/
def resetDofContacts (ctl : Controller) : Except Fault Controller :=
  match ctl.castConstraint with
  | some _ => .ok { ctl with constraint := .contactConstr [] }
  | none => .error .nullDereference

/-- `if(constr == 0) LOG_INFO("NOPE NOPE") else act`: the call only through a pointer. -/
def guarded (ctl : Controller) (act : Controller → Except Fault Controller) : Except Fault Controller :=
  match ctl.castConstraint with
  | some _ => act ctl
  | none => .ok ctl

end Controller

/-- `std::find_if(contacts.begin(), contacts.end(), ...)` for the contact whose first
surface is `name`: its index, or none for `end()`. -/
def findSurface (contacts : List Contact) (name : String) : Option ℕ :=
  contacts.findIdx? fun contact => contact.r1Surface == name

/-- `*it`: the contact at the iterator, or a fault at `end()`. -/
def derefIter (contacts : List Contact) (it : Option ℕ) : Except Fault Contact :=
  match it.bind (contacts[·]?) with
  | some contact => .ok contact
  | none => .error .endDereference

/-- `contacts.erase(it)`. -/
def eraseIter (contacts : List Contact) (it : Option ℕ) : Except Fault (List Contact) :=
  match it with
  | some i => .ok (contacts.eraseIdx i)
  | none => .error .endDereference

/-- `contacts.erase(contacts.begin() + i)`: a position past the last contact is `end()` or
beyond it. -/
def eraseAt (contacts : List Contact) (i : ℕ) : Except Fault (List Contact) :=
  if i < contacts.length then .ok (contacts.eraseIdx i) else .error .endDereference

/-- `contacts.at(i)`. -/
def vectorAt (contacts : List Contact) (i : ℕ) : Except Fault Contact :=
  match contacts[i]? with
  | some contact => .ok contact
  | none => .error .outOfRange

/-! ## The lookups -/

namespace Controller

variable (ctl : Controller)

/-- The constraint is a `ContactConstr`. -/
def IsContactConstr : Prop := ∃ dofContacts, ctl.constraint = .contactConstr dofContacts

/-- The cast gives a pointer exactly when the constraint is a `ContactConstr`. -/
theorem castConstraint_isSome_iff : ctl.castConstraint.isSome ↔ ctl.IsContactConstr := by
  unfold castConstraint IsContactConstr
  split <;> simp_all

/-- Giving the solver contacts leaves the constraint object. -/
@[simp] theorem setContacts_constraint (contacts : List Contact) :
    (ctl.setContacts contacts).constraint = ctl.constraint := rfl

/-- Giving the solver contacts leaves the egress contacts. -/
@[simp] theorem setContacts_egressContacts (contacts : List Contact) :
    (ctl.setContacts contacts).egressContacts = ctl.egressContacts := rfl

/-- The last contacts given to the solver are the ones it keeps. -/
@[simp] theorem setContacts_setContacts (first second : List Contact) :
    (ctl.setContacts first).setContacts second = ctl.setContacts second := rfl

/-- Adding a dof contact through a `ContactConstr` succeeds and keeps it one. -/
theorem addDofContact_ok {ctl : Controller} (contactConstr : ctl.IsContactConstr) (cId : Contact)
    (dof : DofMatrix) :
    ∃ next, ctl.addDofContact cId dof = .ok next ∧ next.IsContactConstr ∧
      next.egressContacts = ctl.egressContacts := by
  obtain ⟨dofContacts, constraint⟩ := contactConstr
  exact ⟨{ ctl with constraint := .contactConstr (dofContacts ++ [(cId, dof)]) },
    by simp [addDofContact, castConstraint, constraint], ⟨_, rfl⟩, rfl⟩

/-- Resetting the dof contacts of a `ContactConstr` succeeds and keeps it one. -/
theorem resetDofContacts_ok {ctl : Controller} (contactConstr : ctl.IsContactConstr) :
    ∃ next, ctl.resetDofContacts = .ok next ∧ next.IsContactConstr ∧
      next.egressContacts = ctl.egressContacts := by
  obtain ⟨dofContacts, constraint⟩ := contactConstr
  exact ⟨{ ctl with constraint := .contactConstr [] },
    by simp [resetDofContacts, castConstraint, constraint], ⟨_, rfl⟩, rfl⟩

/-- A member call through the pointer of a constraint of another class is a null
dereference. -/
theorem addDofContact_other {ctl : Controller} (other : ctl.constraint = .other) (cId : Contact)
    (dof : DofMatrix) : ctl.addDofContact cId dof = .error .nullDereference := by
  simp [addDofContact, castConstraint, other]

/-- On a `ContactConstr` the guarded call is made. -/
theorem guarded_of_isContactConstr {ctl : Controller} (contactConstr : ctl.IsContactConstr)
    (act : Controller → Except Fault Controller) : ctl.guarded act = act ctl := by
  obtain ⟨dofContacts, constraint⟩ := contactConstr
  simp [guarded, castConstraint, constraint]

/-- On a constraint of another class the guarded call is skipped. -/
theorem guarded_other {ctl : Controller} (other : ctl.constraint = .other)
    (act : Controller → Except Fault Controller) : ctl.guarded act = .ok ctl := by
  simp [guarded, castConstraint, other]

/-- A guarded call never faults through the pointer: it is skipped without one. -/
theorem guarded_ok {ctl : Controller} {act : Controller → Except Fault Controller}
    (acts : ctl.IsContactConstr → ∃ next, act ctl = .ok next ∧ next.IsContactConstr ∧
      next.egressContacts = ctl.egressContacts) :
    ∃ next, ctl.guarded act = .ok next ∧ (ctl.IsContactConstr → next.IsContactConstr) ∧
      next.egressContacts = ctl.egressContacts := by
  unfold guarded
  cases cast : ctl.castConstraint with
  | none =>
    exact ⟨ctl, rfl, fun contactConstr =>
      absurd ((castConstraint_isSome_iff ctl).mpr contactConstr) (by simp [cast]), rfl⟩
  | some _ =>
    obtain ⟨next, acted, kept, same⟩ := acts ((castConstraint_isSome_iff ctl).mp (by simp [cast]))
    exact ⟨next, acted, fun _ => kept, same⟩

end Controller

/-- `find_if` fails exactly when no contact has that first surface. -/
theorem findSurface_eq_none {contacts : List Contact} {name : String} :
    findSurface contacts name = none ↔ ∀ contact ∈ contacts, contact.r1Surface ≠ name := by
  simp [findSurface, List.findIdx?_eq_none_iff]

/-- When a contact has that first surface, `find_if` finds one, which can be dereferenced
and erased. -/
theorem findSurface_found {contacts : List Contact} {name : String}
    (present : ∃ contact ∈ contacts, contact.r1Surface = name) :
    ∃ contact rest, derefIter contacts (findSurface contacts name) = .ok contact ∧
      eraseIter contacts (findSurface contacts name) = .ok rest ∧ contact.r1Surface = name := by
  obtain ⟨i, found⟩ := Option.ne_none_iff_exists'.mp
    (fun none => by obtain ⟨contact, member, named⟩ := present; exact
      (findSurface_eq_none.mp none) contact member named)
  have inside := List.findIdx?_eq_some_iff_getElem.mp found
  obtain ⟨bound, named, -⟩ := inside
  refine ⟨contacts[i], contacts.eraseIdx i, by simp [derefIter, found, bound],
    by simp [eraseIter, found], ?_⟩
  simpa using named

/-- Erasing what `find_if` found erases the first contact with that first surface:
`erase(find_if(...))` is `eraseP`. -/
theorem eraseIter_findSurface {contacts rest : List Contact} {name : String}
    (erased : eraseIter contacts (findSurface contacts name) = .ok rest) :
    rest = contacts.eraseP fun contact => contact.r1Surface == name := by
  induction contacts generalizing rest with
  | nil => cases erased
  | cons contact others inductionHypothesis =>
    by_cases named : (contact.r1Surface == name) = true
    · simp only [findSurface, List.findIdx?_cons, named, ite_true, eraseIter, List.eraseIdx_cons_zero,
        Except.ok.injEq] at erased
      simp [← erased, List.eraseP_cons, named]
    · simp only [findSurface, List.findIdx?_cons, named, Bool.false_eq_true, ite_false,
        List.findIdx?_succ] at erased
      cases found : List.findIdx? (fun contact => contact.r1Surface == name) others with
      | none => simp [found, eraseIter] at erased
      | some i =>
        simp only [found, Option.map_some', eraseIter, List.eraseIdx_cons_succ, Except.ok.injEq] at erased
        have rest : others.eraseIdx i = _ := inductionHypothesis (by simp only [eraseIter, findSurface, found])
        simp [← erased, List.eraseP_cons, named, rest]

/-- Dereferencing `end()` is a fault. -/
theorem derefIter_none (contacts : List Contact) : derefIter contacts none = .error .endDereference := rfl

/-- An erasure at a position before the end succeeds. -/
theorem eraseAt_ok {contacts : List Contact} {i : ℕ} (inside : i < contacts.length) :
    eraseAt contacts i = .ok (contacts.eraseIdx i) := by
  simp [eraseAt, inside]

/-- An `at` in range returns the contact there. -/
theorem vectorAt_ok {contacts : List Contact} {i : ℕ} (inside : i < contacts.length) :
    vectorAt contacts i = .ok contacts[i] := by
  simp [vectorAt, inside]

/-- A sequence of steps that does not fault: its first step did not. -/
theorem bind_eq_ok {α β : Type} {step : Except Fault α} {rest : α → Except Fault β} {result : β}
    (ran : step >>= rest = .ok result) : ∃ value, step = .ok value ∧ rest value = .ok result := by
  cases step with
  | error fault => cases ran
  | ok value => exact ⟨value, rfl, ran⟩

/-! ## Runs -/

section Runs

variable {Phase : Type} (run : Phase → Controller → Readings → Except Fault (Bool × Phase × Controller))

/-- A call that does not fault and leaves a state with property `P`. -/
def Succeeds {Result : Type} (P : Phase → Controller → Prop) (result : Except Fault (Result × Phase × Controller)) :
    Prop :=
  ∃ value phase ctl, result = .ok (value, phase, ctl) ∧ P phase ctl

/-- The branches of an `if` are checked one by one: a phase's stages are a chain of them. -/
theorem succeeds_ite {Result : Type} {P : Phase → Controller → Prop} {c : Prop} [Decidable c]
    {yes no : Except Fault (Result × Phase × Controller)} (ifYes : c → Succeeds P yes)
    (ifNo : ¬c → Succeeds P no) : Succeeds P (if c then yes else no) := by
  split_ifs with holds
  exacts [ifYes holds, ifNo holds]

/-- The calls of a run, one per reading, each on the phase and controller the last call
left: the values the calls return, or the first fault. -/
def runs : Phase → Controller → List Readings → Except Fault (List Bool × Phase × Controller)
  | phase, ctl, [] => .ok ([], phase, ctl)
  | phase, ctl, readings :: rest => do
    let (finished, phase, ctl) ← run phase ctl readings
    let (results, phase, ctl) ← runs phase ctl rest
    pure (finished :: results, phase, ctl)

/-- A state property that every call keeps, and from which no call faults, gives runs
without a fault from every state that has it. -/
theorem runs_ok (Safe : Phase → Controller → Prop)
    (step : ∀ phase ctl readings, Safe phase ctl → Succeeds Safe (run phase ctl readings))
    (phase : Phase) (ctl : Controller) (safe : Safe phase ctl) (readings : List Readings) :
    Succeeds Safe (runs run phase ctl readings) := by
  induction readings generalizing phase ctl with
  | nil => exact ⟨[], phase, ctl, rfl, safe⟩
  | cons first rest inductionHypothesis =>
    obtain ⟨finished, phase', ctl', called, safe'⟩ := step phase ctl first safe
    obtain ⟨results, phase'', ctl'', ran, safe''⟩ := inductionHypothesis phase' ctl' safe'
    exact ⟨finished :: results, phase'', ctl'', by simp [runs, called, bind, Except.bind, ran, pure, Except.pure], safe''⟩

/-- Two facts about the state that one call leaves hold together. -/
theorem succeeds_and {Result : Type} {P Q : Phase → Controller → Prop}
    {result : Except Fault (Result × Phase × Controller)} (left : Succeeds P result) (right : Succeeds Q result) :
    Succeeds (fun phase ctl => P phase ctl ∧ Q phase ctl) result := by
  obtain ⟨value, phase, ctl, rfl, holds⟩ := left
  obtain ⟨_, _, _, same, holds'⟩ := right
  cases same
  exact ⟨value, phase, ctl, rfl, holds, holds'⟩

/-- A measure of the calls a phase may still take, lowered by every call from a safe state
that does not finish it, bounds every run: a run at least as long as the measure from its
first state ends finished. `Safe` and the invariant `Inv` hold all along, and a finished
phase stays finished.

Proof: by induction on the readings; a call either finishes the phase, which then stays
finished, or lowers the measure below the number of calls left. -/
theorem runs_progress (Safe Inv : Phase → Controller → Prop) (finished : Phase → Prop) (remaining : Phase → ℕ)
    (safeStep : ∀ phase ctl readings, Safe phase ctl → Succeeds Safe (run phase ctl readings))
    (step : ∀ phase ctl readings, Safe phase ctl → Inv phase ctl →
      Succeeds (fun phase' ctl' => Inv phase' ctl' ∧ (finished phase → finished phase') ∧
        (finished phase' ∨ remaining phase' < remaining phase)) (run phase ctl readings))
    (exhausted : ∀ phase ctl, Inv phase ctl → remaining phase = 0 → finished phase)
    (phase : Phase) (ctl : Controller) (safe : Safe phase ctl) (inv : Inv phase ctl) (readings : List Readings) :
    Succeeds (fun phase' ctl' => Safe phase' ctl' ∧ Inv phase' ctl' ∧ (finished phase → finished phase') ∧
      (remaining phase ≤ readings.length → finished phase')) (runs run phase ctl readings) := by
  induction readings generalizing phase ctl with
  | nil =>
    exact ⟨[], phase, ctl, rfl, safe, inv, id, fun short => exhausted phase ctl inv (by simpa using short)⟩
  | cons first rest inductionHypothesis =>
    obtain ⟨finished', phase', ctl', called, safe', inv', kept, lowered⟩ :=
      succeeds_and (safeStep phase ctl first safe) (step phase ctl first safe inv)
    obtain ⟨results, phase'', ctl'', ran, safe'', inv'', kept', long⟩ := inductionHypothesis phase' ctl' safe' inv'
    refine ⟨finished' :: results, phase'', ctl'', ?_, safe'', inv'', kept' ∘ kept, fun enough => ?_⟩
    · simp [runs, called, bind, Except.bind, ran, pure, Except.pure]
    · rcases lowered with done | lower
      · exact kept' done
      · exact long (by simp only [List.length_cons] at enough; omega)

end Runs

end Egress

end McRtc
