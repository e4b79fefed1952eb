import Mathlib.Algebra.Order.Field.Rat
import Mathlib.Tactic.NormNum

/-!
# The quadratic step generator

`mc_rbdyn::QuadraticGenerator` (`polygon_utils.cpp`, lines 14-60) samples an
interpolation from `start` to `end`. Its speed grows linearly during the first
`t1 = nrSteps / proportion` calls, stays at `maxSpeed` until call `t2`, and falls
linearly until call `nrSteps`; every later sample is `end`. The constructor first rounds
`nrSteps` up to a multiple of `proportion`.

The counters are the `unsigned int` of the constructor's parameters, as the header
`polygon_utils.h` declares them; the header is not among the modelled sources. They are
`BitVec 32`, so every addition, subtraction, product and division of counters is the
machine operation. The `double` quantities are exact rationals, and a counter read as a
`double` is `double`.

The two part at a division by zero, which is zero in `ℚ` (`x / 0 = 0`) and an infinity
or a NaN in `double`, and at an integer division by zero, which is `nrSteps` (for `%`)
and zero (for `/`) in `BitVec` but undefined behaviour, a trap on common targets, in the
code. That happens for three kinds of input. With `proportion = 1`, `max_speed` divides
by `proportion - 1 = 0`: infinite in the code, zero here. With a rounded count of zero
(`nrSteps = 0`, or a rounding that wraps to zero) `s1` is `0 / 0`, a NaN in the code, and
so is every output of `next`. With `proportion = 0` the code's `nrSteps_ % proportion`
traps before anything is computed. The contract below assumes `2 ≤ proportion` and a
positive count that does not wrap, which excludes all three; of the statements about a
wrapping rounding, one reads only the counters and the other, a count wrapped to `3` in
sevenths, divides by no zero.

This module holds the faithful model, the rounding and the effect of a run of calls on
the state. The intended profile, and the refinement of `next` to it, are in
`McRtc.Rbdyn.QuadraticProfile`.
-/

namespace McRtc

/-- An `unsigned int` converted to `double`. -/
def double (x : BitVec 32) : ℚ := x.toNat

/-- The generator's members; `end` keeps its source name. -/
structure QuadraticGenerator where
  start : ℚ
  «end» : ℚ
  nrSteps : BitVec 32
  proportion : BitVec 32
  current : BitVec 32
  s1 : ℚ
  s2 : ℚ
  t1 : BitVec 32
  t2 : BitVec 32
  maxSpeed : ℚ

namespace QuadraticGenerator

/-- The rounding of lines 19-24: when `proportion` does not divide `nrSteps`, add what
is missing to the next multiple, in `unsigned int`. -/
def roundUp (nrSteps proportion : BitVec 32) : BitVec 32 :=
  if nrSteps % proportion ≠ 0 then nrSteps + (proportion - nrSteps % proportion) else nrSteps

/-- The constructor (lines 14-31). The member `nrSteps_` holds the rounded count. -/
def make (start «end» : ℚ) (nrSteps proportion : BitVec 32) : QuadraticGenerator :=
  let rounded := roundUp nrSteps proportion
  let t1 := rounded / proportion
  let t2 := rounded / proportion * (proportion - 1)
  let maxSpeed := double proportion / double (proportion - 1)
  let s1 := double t1 ^ 2 / 2 * maxSpeed * double proportion / double rounded
  { start, «end», nrSteps := rounded, proportion, current := 0, s1,
    s2 := s1 + double (t2 - t1) * maxSpeed, t1, t2, maxSpeed }

/-- The constructor keeps `start`. -/
@[simp] theorem make_start (start «end» : ℚ) (nrSteps proportion : BitVec 32) :
    (make start «end» nrSteps proportion).start = start := rfl

/-- The constructor keeps `end`. -/
@[simp] theorem make_end (start «end» : ℚ) (nrSteps proportion : BitVec 32) :
    (make start «end» nrSteps proportion).«end» = «end» := rfl

/-- The constructor keeps `proportion`. -/
@[simp] theorem make_proportion (start «end» : ℚ) (nrSteps proportion : BitVec 32) :
    (make start «end» nrSteps proportion).proportion = proportion := rfl

/-- The constructor starts the step counter at zero. -/
@[simp] theorem make_current (start «end» : ℚ) (nrSteps proportion : BitVec 32) :
    (make start «end» nrSteps proportion).current = 0 := rfl

/-- The speed and the sample of the current call (lines 35-56), one branch for the
acceleration, the cruise, the deceleration and the rest after `nrSteps`. -/
def speedSample (g : QuadraticGenerator) : ℚ × ℚ :=
  let current := g.current
  if current ≤ g.t1 then
    (double current * g.maxSpeed * double g.proportion / double g.nrSteps,
      double current ^ 2 / 2 * (g.maxSpeed * double g.proportion / double g.nrSteps))
  else if g.t1 < current ∧ current ≤ g.t2 then
    (g.maxSpeed, g.s1 + double (current - g.t1) * g.maxSpeed)
  else if g.t2 < current ∧ current ≤ g.nrSteps then
    (g.maxSpeed * (1 - double ((current - g.t2) * g.proportion) / double g.nrSteps),
      g.s2 + double (current - g.t2) * g.maxSpeed -
        double (current - g.t2) ^ 2 / 2 * g.maxSpeed * double g.proportion / double g.nrSteps)
  else (0, double g.nrSteps)

/-- `next`: the pair `(percentOut, speedOut)` it writes, and the generator after
`current += 1`. -/
def next (g : QuadraticGenerator) : (ℚ × ℚ) × QuadraticGenerator :=
  ((g.start + (g.«end» - g.start) * g.speedSample.2 / double g.nrSteps,
      (g.«end» - g.start) * g.speedSample.1 / double g.nrSteps),
    { g with current := g.current + 1 })

/-- The generator after `k` calls to `next`. -/
def calls (g : QuadraticGenerator) : ℕ → QuadraticGenerator
  | 0 => g
  | k + 1 => calls g.next.2 k

/-- What the call of index `k` writes, the first call having index zero. -/
def output (g : QuadraticGenerator) (k : ℕ) : ℚ × ℚ := (g.calls k).next.1

/-- A run of calls only moves the step counter, modulo `2 ^ 32`. -/
theorem calls_eq (g : QuadraticGenerator) (k : ℕ) :
    g.calls k = { g with current := g.current + BitVec.ofNat 32 k } := by
  induction k generalizing g with
  | zero => simp [calls]
  | succ k inductionHypothesis =>
    rw [calls, inductionHypothesis]
    simp only [next, BitVec.add_assoc, BitVec.ofNat_add]
    rw [BitVec.add_comm 1]
    rfl

/-! ## The rounding -/

/-- The least multiple of `proportion` that is at least `nrSteps`, in unbounded
naturals. -/
def leastMultiple (nrSteps proportion : ℕ) : ℕ :=
  (nrSteps + proportion - 1) / proportion * proportion

/-- Adding what is missing to the next multiple gives the least multiple. -/
theorem leastMultiple_eq {nrSteps proportion : ℕ} (positive : 0 < proportion) :
    leastMultiple nrSteps proportion =
      if nrSteps % proportion = 0 then nrSteps
      else nrSteps + (proportion - nrSteps % proportion) := by
  have split := Nat.div_add_mod nrSteps proportion
  have below := Nat.mod_lt nrSteps positive
  have shifted : nrSteps + proportion - 1 =
      nrSteps % proportion + proportion - 1 + proportion * (nrSteps / proportion) := by omega
  have carry : (nrSteps % proportion + proportion - 1) / proportion =
      if nrSteps % proportion = 0 then 0 else 1 := by
    split
    · exact Nat.div_eq_of_lt (by omega)
    · exact Nat.div_eq_of_lt_le (by omega) (by omega)
  rw [leastMultiple, shifted, Nat.add_mul_div_left _ _ positive, carry]
  split <;> rw [Nat.add_mul] <;> rw [Nat.mul_comm (nrSteps / proportion)] <;> omega

/-- The least multiple is a multiple. -/
theorem dvd_leastMultiple (nrSteps proportion : ℕ) :
    proportion ∣ leastMultiple nrSteps proportion :=
  Nat.dvd_mul_left _ _

/-- The least multiple is at least `nrSteps` and less than `nrSteps + proportion`. -/
theorem leastMultiple_bounds {nrSteps proportion : ℕ} (positive : 0 < proportion) :
    nrSteps ≤ leastMultiple nrSteps proportion ∧
      leastMultiple nrSteps proportion < nrSteps + proportion := by
  have below := Nat.mod_lt nrSteps positive
  rw [leastMultiple_eq positive]
  split <;> omega

/-- No multiple of `proportion` at least `nrSteps` is below the least multiple. -/
theorem leastMultiple_le {nrSteps proportion bound : ℕ} (positive : 0 < proportion)
    (divides : proportion ∣ bound) (above : nrSteps ≤ bound) :
    leastMultiple nrSteps proportion ≤ bound := by
  obtain ⟨quotient, rfl⟩ := divides
  have fewer : (nrSteps + proportion - 1) / proportion < quotient + 1 :=
    (Nat.div_lt_iff_lt_mul positive).mpr (by rw [Nat.add_mul, Nat.mul_comm]; omega)
  calc leastMultiple nrSteps proportion
      ≤ quotient * proportion := Nat.mul_le_mul_right _ (Nat.lt_succ_iff.mp fewer)
    _ = proportion * quotient := Nat.mul_comm _ _

/-- The machine rounding is the least multiple reduced modulo `2 ^ 32`, for every
`nrSteps` and every non-zero `proportion`. -/
theorem roundUp_toNat (nrSteps proportion : BitVec 32) (positive : 0 < proportion.toNat) :
    (roundUp nrSteps proportion).toNat =
      leastMultiple nrSteps.toNat proportion.toNat % 2 ^ 32 := by
  have below := Nat.mod_lt nrSteps.toNat positive
  have bounded := nrSteps.isLt
  have remainder : (nrSteps % proportion).toNat = nrSteps.toNat % proportion.toNat :=
    BitVec.toNat_umod
  rw [leastMultiple_eq positive, roundUp]
  by_cases divides : nrSteps.toNat % proportion.toNat = 0
  · have zero : nrSteps % proportion = 0 := BitVec.eq_of_toNat_eq (by simp [remainder, divides])
    simp only [zero, ne_eq, not_true_eq_false, if_false, divides, if_true]
    omega
  · have nonzero : nrSteps % proportion ≠ 0 := fun zero => divides (by simp [← remainder, zero])
    have missing : (proportion - nrSteps % proportion).toNat =
        proportion.toNat - nrSteps.toNat % proportion.toNat := by
      rw [BitVec.toNat_sub_of_le (BitVec.le_def.mpr (by omega)), remainder]
    simp only [nonzero, ne_eq, not_false_eq_true, if_true, divides, if_false,
      BitVec.toNat_add, missing]

/-- Five steps in halves round to six. -/
theorem roundUp_five_halves :
    0 < (2#32).toNat ∧ (roundUp 5#32 2#32).toNat = leastMultiple (5#32).toNat (2#32).toNat % 2 ^ 32 :=
  ⟨by decide, roundUp_toNat 5#32 2#32 (by decide)⟩

/-- When the least multiple is representable, the constructor stores exactly it. -/
theorem make_nrSteps_exact (start «end» : ℚ) (nrSteps proportion : BitVec 32)
    (positive : 0 < proportion.toNat)
    (representable : leastMultiple nrSteps.toNat proportion.toNat < 2 ^ 32) :
    (make start «end» nrSteps proportion).nrSteps.toNat =
      leastMultiple nrSteps.toNat proportion.toNat := by
  simp only [make, roundUp_toNat nrSteps proportion positive, Nat.mod_eq_of_lt representable]

/-- The largest `unsigned int` with `proportion = 2` wraps the rounded count to zero. -/
theorem make_nrSteps_wraps (start «end» : ℚ) :
    (make start «end» 4294967295#32 2#32).nrSteps = 0#32 := by
  show roundUp 4294967295#32 2#32 = 0#32
  decide

/-- With the largest `unsigned int` and `proportion = 7` the rounding wraps to `3`, which
is no multiple of `7`: the second call already writes a sample below `start` and a
negative speed. -/
theorem make_overshoots :
    (make 0 1 4294967295#32 7#32).output 1 = (-7 / 108, -14 / 27) := by
  have rounded : roundUp 4294967295#32 7#32 = 3#32 := by decide
  simp [output, calls, next, speedSample, make, rounded, double]
  norm_num

end QuadraticGenerator

end McRtc
