import McRtc.Tasks.TrajectoryTask

/-!
# Weights, gains and the clock of the trajectory task

Every call that replaces `transTrajTask` builds the new object with the gains
`stiffness` and `2 * sqrt(stiffness)`, weight one, and the cached `dimWeight_`, which
only the constructor writes. `dimWeight(dimW)` writes to the current object alone. So
the current object's dimension weights are the argument of the last `dimWeight` call
made since the last replacing call, and the constructor's weights when there is none: a
replacing call made after `dimWeight` drops the weights it set. The gains are never
lost.

`update` is the only call that moves the clock: it advances by one time step up to the
duration, so from zero the clock reads `min (n * timeStep) duration` after `n` updates.

The code's gains, weights and clock are `double`s; the model computes them in an exact
ordered field `K`. For the gains and weights this changes nothing the theorems say: they
state which expression each object holds, and the code evaluates that same expression
each time it builds one. The clock is different, since `t + timeStep` is rounded at every
update: with a time step of `0.005` and a duration of `2.0` the code's clock needs 401
updates where the exact one needs 400. The clock theorem is therefore stated for time
steps and durations that are multiples `a / 2 ^ k` and `b / 2 ^ k` with `a + b < 2 ^ 53`,
where every sum is a binary64 value and no rounding happens.
-/

namespace McRtc

namespace TrajectoryTask

variable {K : Type} [LinearOrderedField K]

/-- The dimension weights the current object has after a call, given the cached
`dimWeight_` and the weights it had before: the argument of `dimWeight`, the cached
weights after a replacing call, the same weights after any other call. -/
def weightAfter (dimWeight_ : Fin 6 → K) (current : Fin 6 → K) : Call K → Fin 6 → K
  | .dimWeight dimW => dimW
  | .selectActiveJoints _ | .selectUnactiveJoints _ | .resetJointsSelector => dimWeight_
  | _ => current

/-- An object built the way every replacing call builds one, for a selector and a
stiffness: the damping is `2 * sqrt(stiffness)` and the weight one. -/
structure Built (root : SquareRoot K) (selector : Option JointsSelector) (stiffness : K)
    (object : TrajObject K) : Prop where
  selector_eq : object.selector = selector
  stiffness_eq : object.stiffness = stiffness
  damping_eq : object.damping = 2 * root.sqrt stiffness
  weight_eq : object.weight = 1

section Step

variable (root : SquareRoot K) {w : World K}

/-- The object the selector calls build has the gains `stiffness` and
`2 * sqrt(stiffness)`, weight one and the selector it was given. -/
theorem built_spec (selector : Option JointsSelector) (stiffness : K) (dimWeight_ : Fin 6 → K) :
    Built root selector stiffness (built root selector stiffness dimWeight_) :=
  ⟨rfl, rfl, rfl, rfl⟩

/-- No call writes the stiffness or the cached weights. -/
theorem step_stiffness (call : Call K) :
    (step root w call).task.stiffness = w.task.stiffness ∧
      (step root w call).task.dimWeight_ = w.task.dimWeight_ := by
  cases call <;> simp [step, selectActiveJoints, selectUnactiveJoints, resetJointsSelector]
  exact ⟨rfl, rfl⟩

/-- After one call the current object is still built for the task's selector and
stiffness, and its weights are `weightAfter` of the call. -/
theorem step_current (call : Call K) {object : TrajObject K}
    (current : w.objects[w.task.transTrajTask]? = some object)
    (shaped : Built root w.task.selectorT w.task.stiffness object) :
    ∃ object', (step root w call).objects[(step root w call).task.transTrajTask]? = some object' ∧
      Built root (step root w call).task.selectorT (step root w call).task.stiffness object' ∧
      object'.dimWeight = weightAfter w.task.dimWeight_ object.dimWeight call := by
  have replaced : ∀ selector, ∃ object',
      (replaceInSolver root selector w).objects[(replaceInSolver root selector w).task.transTrajTask]? =
        some object' ∧
      Built root (replaceInSolver root selector w).task.selectorT
        (replaceInSolver root selector w).task.stiffness object' ∧
      object'.dimWeight = w.task.dimWeight_ :=
    fun selector => ⟨built root selector w.task.stiffness w.task.dimWeight_, by simp,
      by simpa using built_spec root selector w.task.stiffness w.task.dimWeight_, rfl⟩
  cases call with
  | addToSolver => exact ⟨object, by simpa [step] using current, by simpa [step] using shaped, rfl⟩
  | removeFromSolver => exact ⟨object, by simpa [step] using current, by simpa [step] using shaped, rfl⟩
  | selectActiveJoints joints => exact replaced _
  | selectUnactiveJoints joints => exact replaced _
  | resetJointsSelector => exact replaced _
  | dimWeight dimW =>
    exact ⟨object.setDimWeight dimW, by simp [step, dimWeight, current],
      ⟨shaped.1, shaped.2, shaped.3, shaped.4⟩, rfl⟩
  | update =>
    exact ⟨_, by simp [step, update, current]; rfl, by exact ⟨shaped.1, shaped.2, shaped.3, shaped.4⟩,
      by rfl⟩

/-- Along a run the current object stays built for the task's selector and the
stiffness, the stiffness and the cached weights stay as they were, and the current
weights are those `weightAfter` gives call after call. -/
theorem run_current (calls : List (Call K)) {object : TrajObject K}
    (current : w.objects[w.task.transTrajTask]? = some object)
    (shaped : Built root w.task.selectorT w.task.stiffness object) :
    ∃ object', (run root w calls).objects[(run root w calls).task.transTrajTask]? = some object' ∧
      Built root (run root w calls).task.selectorT w.task.stiffness object' ∧
      object'.dimWeight = calls.foldl (weightAfter w.task.dimWeight_) object.dimWeight ∧
      (run root w calls).task.stiffness = w.task.stiffness ∧
      (run root w calls).task.dimWeight_ = w.task.dimWeight_ := by
  induction calls generalizing w object with
  | nil => exact ⟨object, current, shaped, rfl, rfl, rfl⟩
  | cons call rest inductionHypothesis =>
    obtain ⟨next, found, nextShaped, weights⟩ := step_current root call current shaped
    obtain ⟨stiffness, cached⟩ := step_stiffness root (w := w) call
    obtain ⟨final, finalFound, finalShaped, finalWeights, finalStiffness, finalCached⟩ :=
      inductionHypothesis found nextShaped
    refine ⟨final, finalFound, ?_, ?_, finalStiffness.trans stiffness, finalCached.trans cached⟩
    · rw [← stiffness]; exact finalShaped
    · rw [List.foldl_cons, finalWeights, weights, cached]

end Step

/-- From a freshly built task, whatever the calls: the current object has the gains
`stiffness` and `2 * sqrt(stiffness)`, weight one and the task's selector, and its
dimension weights are the constructor's, then, call after call, the argument of each
`dimWeight` and the constructor's again after each replacing call. -/
theorem run_current_gains (root : SquareRoot K) (others : List ℕ)
    (duration timeStep stiffness posWeight oriWeight : K) (start : Vector3 K)
    (bspline : K → Vector3 K × Vector3 K × Vector3 K) (calls : List (Call K)) :
    let w := run root (make root others duration timeStep stiffness posWeight oriWeight start bspline)
      calls
    let weights : Fin 6 → K := ![oriWeight, oriWeight, oriWeight, posWeight, posWeight, posWeight]
    ∃ object, w.objects[w.task.transTrajTask]? = some object ∧
      object.dimWeight = calls.foldl (weightAfter weights) weights ∧
      object.stiffness = stiffness ∧ object.damping = 2 * root.sqrt stiffness ∧ object.weight = 1 ∧
      object.selector = w.task.selectorT := by
  obtain ⟨object, found, shaped, weights, -, -⟩ :=
    run_current root calls (w := make root others duration timeStep stiffness posWeight oriWeight start bspline)
      rfl (built_spec root none stiffness _)
  exact ⟨object, found, weights, shaped.2, shaped.3, shaped.4, shaped.1⟩

/-- Weights set by `dimWeight` and then a `resetJointsSelector`: the current object has
the constructor's weights again, not the ones the last `dimWeight` set. -/
theorem resetJointsSelector_drops_dimWeight (root : SquareRoot K) :
    let w := run root (make root [] 1 1 1 1 1 0 fun _ => (0, 0, 0))
      [.dimWeight fun _ => 2, .resetJointsSelector]
    w.objects[w.task.transTrajTask]?.map TrajObject.dimWeight = some ![1, 1, 1, 1, 1, 1] ∧
      (![1, 1, 1, 1, 1, 1] : Fin 6 → K) ≠ fun _ => 2 := by
  refine ⟨?_, fun same => absurd (congrFun same 0) (by norm_num)⟩
  simp [run, step, resetJointsSelector, make, built, TrajObject.make, TrajObject.setDimWeight]

/-! ## The clock -/

/-- The number of `update` calls. -/
def updates : List (Call K) → ℕ
  | [] => 0
  | .update :: rest => updates rest + 1
  | _ :: rest => updates rest

omit [LinearOrderedField K] in
/-- The updates of a run are those of its first call and of the rest. -/
theorem updates_cons (call : Call K) (rest : List (Call K)) :
    updates (call :: rest) = updates [call] + updates rest := by
  cases call <;> simp only [updates] <;> omega

/-- Advancing a clock by `a` and then by a non-negative `b`, each time up to the end,
advances it by `a + b` up to the end. -/
theorem min_advance {t d a b : K} (second : 0 ≤ b) :
    min (min (t + a) d + b) d = min (t + (a + b)) d := by
  rcases le_total (t + a) d with inside | outside
  · rw [min_eq_left inside, add_assoc]
  · rw [min_eq_right outside, min_eq_right (by linarith), min_eq_right (by linarith)]

section Clock

variable (root : SquareRoot K) {w : World K}

/-- No call changes the time step or the duration. -/
theorem step_pace (call : Call K) :
    (step root w call).task.timeStep = w.task.timeStep ∧
      (step root w call).task.duration = w.task.duration := by
  cases call <;> simp [step, selectActiveJoints, selectUnactiveJoints, resetJointsSelector]
  exact ⟨rfl, rfl⟩

/-- No run changes the time step or the duration. -/
theorem run_pace (calls : List (Call K)) :
    (run root w calls).task.timeStep = w.task.timeStep ∧
      (run root w calls).task.duration = w.task.duration := by
  induction calls generalizing w with
  | nil => exact ⟨rfl, rfl⟩
  | cons call rest inductionHypothesis =>
    obtain ⟨pace, duration⟩ := step_pace root (w := w) call
    obtain ⟨restPace, restDuration⟩ := inductionHypothesis (w := step root w call)
    exact ⟨restPace.trans pace, restDuration.trans duration⟩

/-- `update` advances the clock by one time step up to the duration; the other calls
leave it. -/
theorem step_clock (call : Call K) (before : w.task.t ≤ w.task.duration) :
    (step root w call).task.t = min (w.task.t + updates [call] * w.task.timeStep) w.task.duration := by
  cases call <;> simp [step, updates, selectActiveJoints, selectUnactiveJoints, resetJointsSelector,
    before]
  rfl

/-- Over a run, the clock advances by one time step per `update`, up to the duration. -/
theorem run_clock (calls : List (Call K)) (forward : 0 ≤ w.task.timeStep)
    (before : w.task.t ≤ w.task.duration) :
    (run root w calls).task.t = min (w.task.t + updates calls * w.task.timeStep) w.task.duration := by
  induction calls generalizing w with
  | nil => simp [run, updates, before]
  | cons call rest inductionHypothesis =>
    have clock := step_clock root call before
    obtain ⟨pace, duration⟩ := step_pace root (w := w) call
    have within : (step root w call).task.t ≤ (step root w call).task.duration := by
      rw [clock, duration]; exact min_le_right _ _
    rw [run, List.foldl_cons, ← run, inductionHypothesis (pace ▸ forward) within, clock, pace,
      duration, min_advance (by positivity), updates_cons call rest, Nat.cast_add, add_mul]

end Clock

/-- A finite binary64 value, a `double`: an integer significand below `2 ^ 53` in
magnitude times a power of two in the format's exponent range, subnormals included.
Rounding returns such a value unchanged, so an operation whose exact result is one is
exact. -/
def IsBinary64 (x : K) : Prop :=
  ∃ m e : ℤ, |m| < 2 ^ 53 ∧ -1074 ≤ e ∧ e ≤ 971 ∧ x = m * 2 ^ e

/-- `m / 2 ^ k` with `m < 2 ^ 53` and `k ≤ 1074` is a binary64 value. -/
theorem isBinary64_dyadic {m k : ℕ} (small : m < 2 ^ 53) (range : k ≤ 1074) :
    IsBinary64 ((m : K) / 2 ^ k) := by
  refine ⟨m, -k, by rw [abs_of_nonneg (by positivity)]; exact_mod_cast small, by omega, by omega, ?_⟩
  rw [zpow_neg, zpow_natCast, div_eq_mul_inv, Int.cast_natCast]

/-- The code's clock is a `double`: each update rounds `t + timeStep`. When the time step
and the duration are `a / 2 ^ k` and `b / 2 ^ k` with `a + b < 2 ^ 53`, every sum an
update computes, `min (i * timeStep) duration + timeStep`, is a binary64 value that the
rounding returns unchanged, and `std::min` and `>=` do not round: the code's clock is
the model's. For such inputs, from a freshly built task and whatever the calls, the clock
reads `min (n * timeStep) duration` after `n` updates, `timeElapsed` holds exactly when
`n` time steps cover the duration, and each of the `n` sums is a binary64 value. -/
theorem run_clock_elapsed_dyadic (root : SquareRoot K) (others : List ℕ)
    (duration timeStep stiffness posWeight oriWeight : K) (start : Vector3 K)
    (bspline : K → Vector3 K × Vector3 K × Vector3 K) (calls : List (Call K)) (a b k : ℕ)
    (step : timeStep = a / 2 ^ k) (length : duration = b / 2 ^ k) (fits : a + b < 2 ^ 53)
    (range : k ≤ 1074) :
    let w := run root (make root others duration timeStep stiffness posWeight oriWeight start bspline)
      calls
    w.task.t = min (updates calls * timeStep) duration ∧
      (timeElapsed w.task = true ↔ duration ≤ updates calls * timeStep) ∧
      ∀ i < updates calls, IsBinary64 (min (i * timeStep) duration + timeStep) := by
  intro w
  have scale : (0 : K) < 2 ^ k := by positivity
  have clock : w.task.t = min (0 + updates calls * timeStep) duration :=
    run_clock root calls (show 0 ≤ timeStep by rw [step]; positivity)
      (show 0 ≤ duration by rw [length]; positivity)
  rw [zero_add] at clock
  have same : w.task.duration = duration := (run_pace root calls).2
  refine ⟨clock, by simp [timeElapsed, clock, same], fun i _ => ?_⟩
  have sum : min (i * timeStep) duration + timeStep = ((min (i * a) b + a : ℕ) : K) / 2 ^ k := by
    rw [step, length, ← mul_div_assoc, min_div_div_right scale.le, ← add_div]
    push_cast
    rfl
  rw [sum]
  exact isBinary64_dyadic (by omega) range

/-- A duration of two seconds at a step of `1 / 256` s, close to the controllers'
`0.005`, is over after 512 updates. -/
theorem run_clock_elapsed_dyadic_two_seconds :
    (1 / 256 : ℝ) = ((1 : ℕ) : ℝ) / 2 ^ 8 ∧ (2 : ℝ) = ((512 : ℕ) : ℝ) / 2 ^ 8 ∧ 1 + 512 < 2 ^ 53 ∧
      8 ≤ 1074 ∧
      let w := run ⟨Real.sqrt, Real.sqrt_nonneg, fun _ nonneg => Real.mul_self_sqrt nonneg⟩
        (make ⟨Real.sqrt, Real.sqrt_nonneg, fun _ nonneg => Real.mul_self_sqrt nonneg⟩ [] 2 (1 / 256) 1 1 1
          0 fun _ => (0, 0, 0))
        (List.replicate 512 .update)
      w.task.t = min ((updates (List.replicate 512 (Call.update : Call ℝ)) : ℝ) * (1 / 256)) 2 ∧
        (timeElapsed w.task = true ↔ 2 ≤ updates (List.replicate 512 (Call.update : Call ℝ)) * (1 / 256 : ℝ)) ∧
        ∀ i < updates (List.replicate 512 (Call.update : Call ℝ)),
          IsBinary64 (min ((i : ℝ) * (1 / 256)) 2 + 1 / 256) :=
  ⟨by norm_num, by norm_num, by norm_num, by norm_num,
    run_clock_elapsed_dyadic (K := ℝ) _ [] 2 (1 / 256) 1 1 1 0 (fun _ => (0, 0, 0)) (List.replicate 512 .update) 1 512 8
      (by norm_num) (by norm_num) (by norm_num) (by norm_num)⟩

end TrajectoryTask

end McRtc
