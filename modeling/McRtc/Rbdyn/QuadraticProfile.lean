import McRtc.Rbdyn.QuadraticGenerator
import Mathlib.Order.Monotone.Basic
import Mathlib.Tactic.LinearCombination
import Mathlib.Tactic.Linarith
import Mathlib.Tactic.Positivity

/-!
# The intended ramp of the quadratic generator

A generator with `N` steps and proportion `p` is meant to move a sample from `0` to `N`
with a trapezoidal speed: constant acceleration over the first `t = N / p` steps up to
the cruise speed `p / (p - 1)`, that speed until step `t * (p - 1)`, and the mirror
deceleration until step `N`, where the speed is zero and the sample stays at `N`.

`profile` and `profileSpeed` state that ramp directly, over unbounded step indices. Each
of the four regions is given by one closed formula that also holds at the region's ends,
so every pair of consecutive steps lies in one region. From that come the trapezoid law
(the distance of a step is the mean of the speeds at its ends), monotonicity, and the
bounds. The last section shows that every call of the machine generator writes exactly
the ramp, for every step count whose rounding does not wrap and every call before the
step counter itself wraps.
-/

namespace McRtc.QuadraticGenerator

/-- The number of steps of the acceleration and of the deceleration. -/
def rampLength (N p : ℕ) : ℕ := N / p

/-- The cruise speed, in sample units per step. -/
def cruiseSpeed (p : ℕ) : ℚ := p / (p - 1)

/-- The constant acceleration that reaches the cruise speed in `rampLength` steps. -/
def acceleration (N p : ℕ) : ℚ := cruiseSpeed p / rampLength N p

/-- The intended sample after `k` steps. -/
def profile (N p k : ℕ) : ℚ :=
  if k ≤ rampLength N p then acceleration N p * k ^ 2 / 2
  else if k ≤ rampLength N p * (p - 1) then
    acceleration N p * rampLength N p ^ 2 / 2 + cruiseSpeed p * (k - rampLength N p)
  else if k ≤ N then N - acceleration N p * (N - k) ^ 2 / 2
  else N

/-- The intended speed at step `k`. -/
def profileSpeed (N p k : ℕ) : ℚ :=
  if k ≤ rampLength N p then acceleration N p * k
  else if k ≤ rampLength N p * (p - 1) then cruiseSpeed p
  else if k ≤ N then acceleration N p * (N - k)
  else 0

section Regions

variable {N p t k : ℕ} (shape : N = p * t) (wide : 2 ≤ p) (ramped : 1 ≤ t)
include shape wide ramped

omit ramped in
/-- The ramp of a count of `p * t` steps in `p`-ths is `t` steps long. -/
theorem rampLength_eq : rampLength N p = t := by
  rw [rampLength, shape, Nat.mul_div_cancel_left t (by omega)]

omit shape ramped in
/-- The cruise speed is `p / (p - 1)`: times `p - 1` it is `p`. -/
theorem cruiseSpeed_mul : cruiseSpeed p * (p - 1) = p := by
  have long : (2 : ℚ) ≤ p := by exact_mod_cast wide
  exact div_mul_cancel₀ _ (by linarith)

/-- The acceleration reaches the cruise speed at the end of the ramp. -/
theorem acceleration_mul : acceleration N p * t = cruiseSpeed p := by
  rw [acceleration, rampLength_eq shape wide]
  exact div_mul_cancel₀ _ (by positivity)

omit shape ramped in
/-- The acceleration is never negative. -/
theorem acceleration_nonneg : 0 ≤ acceleration N p := by
  have long : (2 : ℚ) ≤ p := by exact_mod_cast wide
  have cruising : 0 ≤ cruiseSpeed p := div_nonneg (by linarith) (by linarith)
  exact div_nonneg cruising (Nat.cast_nonneg _)

omit shape ramped in
/-- The end of the cruise, `t * (p - 1)`, read in `ℚ`. -/
theorem cruise_end_cast : ((t * (p - 1) : ℕ) : ℚ) = t * (p - 1) := by
  rw [Nat.cast_mul, Nat.cast_sub (by omega), Nat.cast_one]

omit wide ramped in
/-- The count is the ramp and the cruise, in `ℚ`. -/
theorem total_cast : (N : ℚ) = t + t * (p - 1) := by
  rw [shape, Nat.cast_mul]
  ring

omit ramped in
/-- The count is the ramp and the cruise. -/
theorem total_nat : N = t + t * (p - 1) := by
  obtain ⟨q, rfl⟩ : ∃ q, p = q + 1 := ⟨p - 1, by omega⟩
  rw [shape, Nat.add_sub_cancel]
  ring

omit shape ramped in
/-- The ramp ends before the cruise does. -/
theorem ramp_le_cruise_end : t ≤ t * (p - 1) := Nat.le_mul_of_pos_right t (by omega)

omit ramped in
/-- The cruise ends by the last step. -/
theorem cruise_end_le : t * (p - 1) ≤ N := by
  rw [shape, Nat.mul_comm p]
  exact Nat.mul_le_mul_left t (by omega)

omit ramped in
/-- The acceleration the code writes, `maxSpeed * proportion / nrSteps`, is the ramp's. -/
theorem code_acceleration_eq : cruiseSpeed p * p / N = acceleration N p := by
  have spread : (p : ℚ) ≠ 0 := by positivity
  rw [acceleration, rampLength_eq shape wide, shape, Nat.cast_mul, mul_comm (p : ℚ) t]
  exact mul_div_mul_right _ _ spread

omit ramped in
/-- Acceleration, up to and including the end of the ramp. -/
theorem profile_accelerating (accelerating : k ≤ t) :
    profile N p k = acceleration N p * k ^ 2 / 2 ∧
      profileSpeed N p k = acceleration N p * k := by
  simp only [profile, profileSpeed, rampLength_eq shape wide, accelerating, ↓reduceIte, and_self]

/-- Cruise, from the end of the acceleration to the start of the deceleration. -/
theorem profile_cruising (started : t ≤ k) (cruising : k ≤ t * (p - 1)) :
    profile N p k = acceleration N p * t ^ 2 / 2 + cruiseSpeed p * (k - t) ∧
      profileSpeed N p k = cruiseSpeed p := by
  simp only [profile, profileSpeed, rampLength_eq shape wide, cruising, ↓reduceIte]
  by_cases joined : k ≤ t
  · obtain rfl : t = k := by omega
    simp only [joined, ↓reduceIte, sub_self, mul_zero, add_zero, true_and]
    exact acceleration_mul shape wide ramped
  · simp only [joined, ↓reduceIte, and_self]

/-- Deceleration, from the end of the cruise to step `N`. -/
theorem profile_decelerating (cruised : t * (p - 1) ≤ k) (braking : k ≤ N) :
    profile N p k = N - acceleration N p * (N - k) ^ 2 / 2 ∧
      profileSpeed N p k = acceleration N p * (N - k) := by
  have rate := acceleration_mul shape wide ramped
  have cruise := cruiseSpeed_mul wide
  have total := total_cast shape
  simp only [profile, profileSpeed, rampLength_eq shape wide, braking, ↓reduceIte]
  by_cases accelerating : k ≤ t
  · have two : p = 2 := by
      by_contra other
      have : t * 2 ≤ t * (p - 1) := Nat.mul_le_mul_left t (by omega)
      omega
    subst two
    obtain rfl : t = k := by omega
    simp only [accelerating, ↓reduceIte]
    rw [total]
    norm_num at cruise
    constructor
    · linear_combination (t : ℚ) * rate + (t : ℚ) * cruise
    · ring
  · by_cases cruising : k ≤ t * (p - 1)
    · obtain rfl : t * (p - 1) = k := by omega
      simp only [accelerating, cruising, ↓reduceIte, cruise_end_cast wide]
      rw [total]
      constructor
      · linear_combination (t : ℚ) * rate + (t : ℚ) * cruise
      · linear_combination -rate
    · simp only [accelerating, cruising, ↓reduceIte, and_self]

/-- Rest, from step `N` on. -/
theorem profile_stopped (stopped : N ≤ k) :
    profile N p k = N ∧ profileSpeed N p k = 0 := by
  have cruised := cruise_end_le shape wide
  by_cases reached : k ≤ N
  · obtain rfl : N = k := by omega
    simpa using profile_decelerating shape wide ramped cruised reached
  · have beyond : ¬ k ≤ t * (p - 1) := by omega
    have after : ¬ k ≤ t := by have := ramp_le_cruise_end wide (t := t); omega
    simp only [profile, profileSpeed, rampLength_eq shape wide, after, beyond, reached,
      ↓reduceIte, and_self]

/-- The distance covered by a step is the mean of the speeds at its two ends. Every step
lies, with its successor, in one closed region, where both formulas hold. -/
theorem profile_succ (k : ℕ) :
    profile N p (k + 1) =
      profile N p k + (profileSpeed N p k + profileSpeed N p (k + 1)) / 2 := by
  rcases Nat.lt_or_ge k t with accelerating | started
  · obtain ⟨now, nowSpeed⟩ := profile_accelerating shape wide accelerating.le
    obtain ⟨later, laterSpeed⟩ := profile_accelerating shape wide accelerating
    rw [now, nowSpeed, later, laterSpeed]
    push_cast
    ring
  rcases Nat.lt_or_ge k (t * (p - 1)) with cruising | cruised
  · obtain ⟨now, nowSpeed⟩ := profile_cruising shape wide ramped started cruising.le
    obtain ⟨later, laterSpeed⟩ := profile_cruising shape wide ramped (by omega) cruising
    rw [now, nowSpeed, later, laterSpeed]
    push_cast
    ring
  rcases Nat.lt_or_ge k N with braking | stopped
  · obtain ⟨now, nowSpeed⟩ := profile_decelerating shape wide ramped cruised braking.le
    obtain ⟨later, laterSpeed⟩ := profile_decelerating shape wide ramped (by omega) braking
    rw [now, nowSpeed, later, laterSpeed]
    push_cast
    ring
  · obtain ⟨now, nowSpeed⟩ := profile_stopped shape wide ramped stopped
    obtain ⟨later, laterSpeed⟩ := profile_stopped shape wide ramped (by omega : N ≤ k + 1)
    rw [now, nowSpeed, later, laterSpeed]
    ring

/-- The speed never leaves `[0, cruiseSpeed]`. -/
theorem profileSpeed_bounds (k : ℕ) :
    0 ≤ profileSpeed N p k ∧ profileSpeed N p k ≤ cruiseSpeed p := by
  have rate := acceleration_mul shape wide ramped
  have rising := acceleration_nonneg wide (N := N)
  rcases Nat.lt_or_ge k t with accelerating | started
  · rw [(profile_accelerating shape wide accelerating.le).2, ← rate]
    have below : (k : ℚ) ≤ t := by exact_mod_cast accelerating.le
    exact ⟨by positivity, mul_le_mul_of_nonneg_left below rising⟩
  rcases Nat.lt_or_ge k (t * (p - 1)) with cruising | cruised
  · rw [(profile_cruising shape wide ramped started cruising.le).2, ← rate]
    exact ⟨by positivity, le_rfl⟩
  rcases Nat.lt_or_ge k N with braking | stopped
  · rw [(profile_decelerating shape wide ramped cruised braking.le).2, ← rate]
    have total := total_cast shape
    have remaining : (0 : ℚ) ≤ N - k := by
      have : (k : ℚ) ≤ N := by exact_mod_cast braking.le
      linarith
    have short : (N : ℚ) - k ≤ t := by
      have : ((t * (p - 1) : ℕ) : ℚ) ≤ k := by exact_mod_cast cruised
      rw [cruise_end_cast wide] at this
      linarith
    exact ⟨mul_nonneg rising remaining, mul_le_mul_of_nonneg_left short rising⟩
  · rw [(profile_stopped shape wide ramped stopped).2, ← rate]
    exact ⟨le_rfl, by positivity⟩

/-- The sample never moves back. -/
theorem profile_monotone : Monotone (profile N p) :=
  monotone_nat_of_le_succ fun k => by
    rw [profile_succ shape wide ramped]
    have now := (profileSpeed_bounds shape wide ramped k).1
    have later := (profileSpeed_bounds shape wide ramped (k + 1)).1
    linarith

omit ramped in
/-- The ramp starts at zero. -/
theorem profile_zero : profile N p 0 = 0 := by
  simp [(profile_accelerating shape wide (Nat.zero_le t)).1]

/-- Every sample lies between the start and the end of the ramp. -/
theorem profile_bounds (k : ℕ) : 0 ≤ profile N p k ∧ profile N p k ≤ N := by
  constructor
  · rw [← profile_zero shape wide]
    exact profile_monotone shape wide ramped (Nat.zero_le k)
  · rw [← (profile_stopped shape wide ramped (le_max_right k N)).1]
    exact profile_monotone shape wide ramped (le_max_left k N)

end Regions

/-! ## The machine generator writes the ramp -/

section Refinement

variable (start «end» : ℚ) (nrSteps proportion : BitVec 32)
  (wide : 2 ≤ proportion.toNat) (positive : 1 ≤ nrSteps.toNat)
  (representable : leastMultiple nrSteps.toNat proportion.toNat < 2 ^ 32)
include wide positive representable

omit wide positive representable in
/-- The rounded count is `proportion` ramps. -/
theorem leastMultiple_shape :
    leastMultiple nrSteps.toNat proportion.toNat =
      proportion.toNat * rampLength (leastMultiple nrSteps.toNat proportion.toNat)
        proportion.toNat :=
  (Nat.mul_div_cancel' (dvd_leastMultiple _ _)).symm

omit representable in
/-- A positive step count gives a ramp of at least one step. -/
theorem rampLength_pos :
    1 ≤ rampLength (leastMultiple nrSteps.toNat proportion.toNat) proportion.toNat := by
  have shape := leastMultiple_shape nrSteps proportion
  have covered : nrSteps.toNat ≤ leastMultiple nrSteps.toNat proportion.toNat :=
    (leastMultiple_bounds (by omega)).1
  by_contra empty
  have zero : rampLength (leastMultiple nrSteps.toNat proportion.toNat) proportion.toNat = 0 := by
    omega
  rw [zero, Nat.mul_zero] at shape
  omega

omit positive in
/-- A rounding that does not wrap gives the least multiple. -/
theorem make_nrSteps_toNat :
    (make start «end» nrSteps proportion).nrSteps.toNat =
      leastMultiple nrSteps.toNat proportion.toNat :=
  make_nrSteps_exact start «end» nrSteps proportion (by omega) representable

omit positive in
/-- The constructor's `t1` is the ramp's length. -/
theorem make_t1_toNat :
    (make start «end» nrSteps proportion).t1.toNat =
      rampLength (leastMultiple nrSteps.toNat proportion.toNat) proportion.toNat := by
  have rounded := make_nrSteps_toNat start «end» _ _ wide representable
  simp only [make] at rounded ⊢
  rw [BitVec.toNat_udiv, rounded, rampLength]

omit positive in
/-- The constructor's `t2` is the end of the cruise: no product of counters wraps. -/
theorem make_t2_toNat :
    (make start «end» nrSteps proportion).t2.toNat =
      rampLength (leastMultiple nrSteps.toNat proportion.toNat) proportion.toNat *
        (proportion.toNat - 1) := by
  have ramp := make_t1_toNat start «end» _ _ wide representable
  have within := cruise_end_le (leastMultiple_shape nrSteps proportion) wide
  have less : (proportion - 1).toNat = proportion.toNat - 1 :=
    BitVec.toNat_sub_of_le (BitVec.le_def.mpr (by simp; omega))
  simp only [make] at ramp ⊢
  rw [BitVec.toNat_mul, ramp, less, Nat.mod_eq_of_lt (by omega)]

omit positive representable in
/-- The constructor's `max_speed` is the cruise speed. -/
theorem make_maxSpeed :
    (make start «end» nrSteps proportion).maxSpeed = cruiseSpeed proportion.toNat := by
  have less : (proportion - 1).toNat = proportion.toNat - 1 :=
    BitVec.toNat_sub_of_le (BitVec.le_def.mpr (by simp; omega))
  simp only [make, double, cruiseSpeed, less, Nat.cast_sub (by omega : 1 ≤ proportion.toNat),
    Nat.cast_one]

omit positive in
/-- The distance `s1` of the acceleration, as the constructor computes it. -/
theorem make_s1 :
    (make start «end» nrSteps proportion).s1 =
      acceleration (leastMultiple nrSteps.toNat proportion.toNat) proportion.toNat *
        rampLength (leastMultiple nrSteps.toNat proportion.toNat) proportion.toNat ^ 2 / 2 := by
  have shape := leastMultiple_shape nrSteps proportion
  have code := code_acceleration_eq shape wide
  have ramp := make_t1_toNat start «end» _ _ wide representable
  have rounded := make_nrSteps_toNat start «end» _ _ wide representable
  have speed := make_maxSpeed start «end» nrSteps _ wide
  simp only [make, double] at ramp rounded speed ⊢
  rw [ramp, rounded, speed, ← code]
  ring

omit positive in
/-- The distance `s2` at the end of the cruise, as the constructor computes it. -/
theorem make_s2 :
    (make start «end» nrSteps proportion).s2 =
      (make start «end» nrSteps proportion).s1 +
        cruiseSpeed proportion.toNat *
          ((rampLength (leastMultiple nrSteps.toNat proportion.toNat) proportion.toNat *
              (proportion.toNat - 1) : ℕ) -
            rampLength (leastMultiple nrSteps.toNat proportion.toNat) proportion.toNat) := by
  have ramp := make_t1_toNat start «end» _ _ wide representable
  have cruise := make_t2_toNat start «end» _ _ wide representable
  have speed := make_maxSpeed start «end» nrSteps _ wide
  have longer := ramp_le_cruise_end wide
    (t := rampLength (leastMultiple nrSteps.toNat proportion.toNat) proportion.toNat)
  have ordered : (make start «end» nrSteps proportion).t1 ≤ (make start «end» nrSteps proportion).t2 :=
    BitVec.le_def.mpr (by omega)
  simp only [make, double] at ramp cruise speed ordered ⊢
  rw [BitVec.toNat_sub_of_le ordered, ramp, cruise, speed, Nat.cast_sub longer]
  ring

/-- Each branch of `speedSample` computes the ramp's speed and sample at the current
step: the branches' guards are the ramp's regions, and their formulas its formulas. -/
theorem speedSample_make (current : BitVec 32) :
    { make start «end» nrSteps proportion with current }.speedSample =
      (profileSpeed (leastMultiple nrSteps.toNat proportion.toNat) proportion.toNat current.toNat,
        profile (leastMultiple nrSteps.toNat proportion.toNat) proportion.toNat current.toNat) := by
  have shape := leastMultiple_shape nrSteps proportion
  have ramped := rampLength_pos _ _ wide positive
  have rate := acceleration_mul shape wide ramped
  have cruise := cruiseSpeed_mul wide
  have total := total_cast shape
  have code := code_acceleration_eq shape wide
  have split := total_nat shape wide
  have longer := ramp_le_cruise_end wide
    (t := rampLength (leastMultiple nrSteps.toNat proportion.toNat) proportion.toNat)
  have ramp := make_t1_toNat start «end» _ _ wide representable
  have cruiseEnd := make_t2_toNat start «end» _ _ wide representable
  have rounded := make_nrSteps_toNat start «end» _ _ wide representable
  have speed := make_maxSpeed start «end» nrSteps _ wide
  have first := make_s1 start «end» _ _ wide representable
  have second := make_s2 start «end» _ _ wide representable
  simp only [speedSample, profile, profileSpeed, BitVec.le_def, BitVec.lt_def, ramp, cruiseEnd,
    rounded, speed, double, make_proportion]
  set N := leastMultiple nrSteps.toNat proportion.toNat
  set p := proportion.toNat
  set t := rampLength N p
  set k := current.toNat with step
  by_cases accelerating : k ≤ t
  · simp only [accelerating, ↓reduceIte, Prod.mk.injEq]
    rw [← code]
    constructor <;> ring
  by_cases cruising : k ≤ t * (p - 1)
  · have after : (make start «end» nrSteps proportion).t1 ≤ current := BitVec.le_def.mpr (by omega)
    simp only [accelerating, cruising, (by omega : t < k), true_and, ↓reduceIte, Prod.mk.injEq,
      BitVec.toNat_sub_of_le after, ramp, first, Nat.cast_sub (by omega : t ≤ k)]
    ring
  by_cases braking : k ≤ N
  · have after : (make start «end» nrSteps proportion).t2 ≤ current :=
      BitVec.le_def.mpr (by omega)
    have short : k - t * (p - 1) ≤ t := by omega
    have product : ((current - (make start «end» nrSteps proportion).t2) * proportion).toNat =
        (k - t * (p - 1)) * p := by
      rw [BitVec.toNat_mul, BitVec.toNat_sub_of_le after, cruiseEnd, Nat.mod_eq_of_lt]
      calc (k - t * (p - 1)) * p ≤ t * p := Nat.mul_le_mul_right p short
        _ = N := by rw [shape, Nat.mul_comm]
        _ < 2 ^ 32 := representable
    simp only [accelerating, cruising, braking, (by omega : t * (p - 1) < k), true_and,
      and_false, ↓reduceIte, Prod.mk.injEq, BitVec.toNat_sub_of_le after, cruiseEnd, product, second, first,
      Nat.cast_mul, Nat.cast_sub (by omega : t * (p - 1) ≤ k), cruise_end_cast wide]
    rw [total]
    rw [total] at code
    constructor
    · calc cruiseSpeed p * (1 - (k - t * (p - 1)) * p / (t + t * (p - 1)))
          = cruiseSpeed p - (k - t * (p - 1)) * (cruiseSpeed p * p / (t + t * (p - 1))) := by ring
        _ = acceleration N p * (t + t * (p - 1) - k) := by
          rw [code]
          linear_combination -rate
    · calc acceleration N p * t ^ 2 / 2 + cruiseSpeed p * (t * (p - 1) - t) +
            (k - t * (p - 1)) * cruiseSpeed p -
            (k - t * (p - 1)) ^ 2 / 2 * cruiseSpeed p * p / (t + t * (p - 1))
          = acceleration N p * t ^ 2 / 2 + cruiseSpeed p * (t * (p - 1) - t) +
            (k - t * (p - 1)) * cruiseSpeed p -
            (k - t * (p - 1)) ^ 2 / 2 * (cruiseSpeed p * p / (t + t * (p - 1))) := by ring
        _ = t + t * (p - 1) - acceleration N p * (t + t * (p - 1) - k) ^ 2 / 2 := by
          rw [code]
          linear_combination (t - (k - t * (p - 1)) : ℚ) * rate + (t : ℚ) * cruise
  · simp only [accelerating, cruising, braking, false_and, and_false, ↓reduceIte]

/-- Every call made before the step counter wraps writes the ramp: `percentOut` is
`start` moved by the fraction `profile / N` of `end - start`, and `speedOut` is the
ramp's speed in the same units. -/
theorem output_make (k : ℕ) (early : k < 2 ^ 32) :
    (make start «end» nrSteps proportion).output k =
      (start + («end» - start) *
          profile (leastMultiple nrSteps.toNat proportion.toNat) proportion.toNat k /
            leastMultiple nrSteps.toNat proportion.toNat,
        («end» - start) *
          profileSpeed (leastMultiple nrSteps.toNat proportion.toNat) proportion.toNat k /
            leastMultiple nrSteps.toNat proportion.toNat) := by
  have rounded := make_nrSteps_toNat start «end» _ _ wide representable
  have step : ((make start «end» nrSteps proportion).current + BitVec.ofNat 32 k).toNat = k := by
    simpa using early
  rw [output, calls_eq, next, speedSample_make start «end» _ _ wide positive representable, step]
  simp only [double, rounded, make_start, make_end]

end Refinement

/-- The generator's contract, for every step count whose rounding does not wrap and
every call before the step counter wraps: call `k` writes `start` moved by the fraction
`profile / N` of `end - start`; that sample starts at zero, never moves back, stays in
`[0, N]`, and is `N` with zero speed from call `N` on; the speed stays in
`[0, cruiseSpeed]`. -/
theorem make_follows_ramp (start «end» : ℚ) (nrSteps proportion : BitVec 32)
    (wide : 2 ≤ proportion.toNat) (positive : 1 ≤ nrSteps.toNat)
    (representable : leastMultiple nrSteps.toNat proportion.toNat < 2 ^ 32) :
    let N := leastMultiple nrSteps.toNat proportion.toNat
    let p := proportion.toNat
    (∀ k < 2 ^ 32, (make start «end» nrSteps proportion).output k =
      (start + («end» - start) * profile N p k / N, («end» - start) * profileSpeed N p k / N)) ∧
    profile N p 0 = 0 ∧ Monotone (profile N p) ∧
    (∀ k, 0 ≤ profile N p k ∧ profile N p k ≤ N) ∧
    (∀ k, 0 ≤ profileSpeed N p k ∧ profileSpeed N p k ≤ cruiseSpeed p) ∧
    (∀ k, N ≤ k → profile N p k = N ∧ profileSpeed N p k = 0) := by
  have shape := leastMultiple_shape nrSteps proportion
  have ramped := rampLength_pos _ _ wide positive
  exact ⟨fun k early => output_make start «end» _ _ wide positive representable k early,
    profile_zero shape wide, profile_monotone shape wide ramped,
    profile_bounds shape wide ramped, profileSpeed_bounds shape wide ramped,
    fun _ stopped => profile_stopped shape wide ramped stopped⟩

/-- Ten steps in thirds: the rounding gives twelve, and the contract holds. -/
theorem make_follows_ramp_ten_thirds :
    2 ≤ (3#32).toNat ∧ 1 ≤ (10#32).toNat ∧ leastMultiple (10#32).toNat (3#32).toNat < 2 ^ 32 ∧
    let N := leastMultiple (10#32).toNat (3#32).toNat
    let p := (3#32).toNat
    (∀ k < 2 ^ 32, (make 0 1 10#32 3#32).output k =
      (0 + (1 - 0) * profile N p k / N, (1 - 0) * profileSpeed N p k / N)) ∧
    profile N p 0 = 0 ∧ Monotone (profile N p) ∧
    (∀ k, 0 ≤ profile N p k ∧ profile N p k ≤ N) ∧
    (∀ k, 0 ≤ profileSpeed N p k ∧ profileSpeed N p k ≤ cruiseSpeed p) ∧
    (∀ k, N ≤ k → profile N p k = N ∧ profileSpeed N p k = 0) :=
  ⟨by decide, by decide, by decide,
    make_follows_ramp 0 1 10#32 3#32 (by decide) (by decide) (by decide)⟩

end McRtc.QuadraticGenerator
