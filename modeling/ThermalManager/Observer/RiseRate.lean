import ThermalManager.Lib.LeastSquares
import ThermalManager.Utils.StringOperation
import Mathlib.Algebra.BigOperators.Intervals
import Mathlib.Tactic.Linarith
import Mathlib.Tactic.Positivity

/-!
# The rise rate

`GetThermalRiseRate` fits a line through the temperatures of the history, which are five seconds
apart, with all sums in `int32_t`. A signed overflow is undefined, so every arithmetic step here
has no result when its value does not fit; the quotient is the exact rational. Within these limits
the rate is the slope of the least squares line in degrees for a minute.
-/

namespace ThermalManager

open Finset

/-! ### The computation -/

def secMinNum : Int := 60
def thermalUpdatePeriod : Int := -5

def fitsInt32 (x : Int) : Prop := -2147483648 ≤ x ∧ x ≤ 2147483647

instance : DecidablePred fitsInt32 := fun x =>
  inferInstanceAs (Decidable (-2147483648 ≤ x ∧ x ≤ 2147483647))

/-- The value of an `int32_t` expression. -/
def int32 (x : Int) : Option Int := if fitsInt32 x then some x else none

structure RiseSums where
  timeSum : Int := 0
  tempSum : Int := 0
  timeSquaredSum : Int := 0
  timeTempMultiplySum : Int := 0
  deriving DecidableEq

def riseRound (tempQueue : List Int) (timeIndex : Nat) (sums : RiseSums) : Option RiseSums := do
  let time ← int32 (timeIndex * thermalUpdatePeriod)
  let timeSum ← int32 (sums.timeSum + time)
  let temp ← tempQueue[timeIndex]?
  let tempSum ← int32 (sums.tempSum + temp)
  let timeSquared ← int32 (time * time)
  let timeSquaredSum ← int32 (sums.timeSquaredSum + timeSquared)
  let timeTemp ← int32 (time * temp)
  let timeTempMultiplySum ← int32 (sums.timeTempMultiplySum + timeTemp)
  some { timeSum, tempSum, timeSquaredSum, timeTempMultiplySum }

/-- `for (timeIndex = 0; timeIndex < tempQueueSize; timeIndex++)` -/
def riseLoop (tempQueue : List Int) : Nat → Nat → RiseSums → Option RiseSums
  | 0, _, sums => some sums
  | rounds + 1, timeIndex, sums => do
      let sums ← riseRound tempQueue timeIndex sums
      riseLoop tempQueue rounds (timeIndex + 1) sums

/-- `n * sum(xi * xi) - sum(xi) * sum(xi)` -/
def calcTime (tempQueueSize : Int) (sums : RiseSums) : Option Int := do
  let scaled ← int32 (tempQueueSize * sums.timeSquaredSum)
  let square ← int32 (sums.timeSum * sums.timeSum)
  int32 (scaled - square)

/-- `n * sum(xi * yi) - sum(xi) * sum(yi)` -/
def slopeNumerator (tempQueueSize : Int) (sums : RiseSums) : Option Int := do
  let scaled ← int32 (tempQueueSize * sums.timeTempMultiplySum)
  let product ← int32 (sums.timeSum * sums.tempSum)
  int32 (scaled - product)

/-- The four sums over the queue. The size is cut to `int32_t`. -/
def riseSums (tempQueue : List Int) : Option RiseSums :=
  riseLoop tempQueue (toInt32 tempQueue.length).toNat 0 {}

/-- The rate behind the test of the queue's length. -/
def slopeRate (tempQueue : List Int) : Option ℚ := do
  let tempQueueSize := toInt32 tempQueue.length
  let sums ← riseSums tempQueue
  let calcTime ← calcTime tempQueueSize sums
  if calcTime = 0 then some 0
  else do
    let numerator ← slopeNumerator tempQueueSize sums
    some ((numerator : ℚ) / calcTime * secMinNum)

/-- `GetThermalRiseRate`, in the numbers of `slope`. -/
def getThermalRiseRate {ρ : Type} (zero : ρ) (slope : List Int → ρ) (historyCount : Nat)
    (tempQueue : List Int) : ρ :=
  if tempQueue.length < historyCount then zero else slope tempQueue

/-! ### What the loop adds up -/

def tempAt (tempQueue : List Int) (i : Nat) : Int := tempQueue.getD i 0

def timeAt (i : Nat) : Int := i * thermalUpdatePeriod

def sumsUpTo (tempQueue : List Int) (k : Nat) : RiseSums where
  timeSum := ∑ i ∈ range k, timeAt i
  tempSum := ∑ i ∈ range k, tempAt tempQueue i
  timeSquaredSum := ∑ i ∈ range k, timeAt i * timeAt i
  timeTempMultiplySum := ∑ i ∈ range k, timeAt i * tempAt tempQueue i

/-- What a round adds of the times alone fits. -/
def TimesFit (k : Nat) : Prop :=
  fitsInt32 (timeAt k) ∧ fitsInt32 (∑ i ∈ range (k + 1), timeAt i) ∧
    fitsInt32 (timeAt k * timeAt k) ∧ fitsInt32 (∑ i ∈ range (k + 1), timeAt i * timeAt i)

/-- What a round adds with the temperature fits. -/
def TempsFit (tempQueue : List Int) (k : Nat) : Prop :=
  fitsInt32 (∑ i ∈ range (k + 1), tempAt tempQueue i) ∧
    fitsInt32 (timeAt k * tempAt tempQueue k) ∧
    fitsInt32 (∑ i ∈ range (k + 1), timeAt i * tempAt tempQueue i)

theorem int32_eq_some_iff {x y : Int} : int32 x = some y ↔ fitsInt32 x ∧ x = y := by
  unfold int32
  split
  case isTrue h => simp [h]
  case isFalse h => simp [h]

theorem riseRound_eq_some_iff {tempQueue : List Int} {k : Nat} (hk : k < tempQueue.length)
    {sums : RiseSums} :
    riseRound tempQueue k (sumsUpTo tempQueue k) = some sums ↔
      (TimesFit k ∧ TempsFit tempQueue k) ∧ sums = sumsUpTo tempQueue (k + 1) := by
  have htemp : tempQueue[k]? = some (tempAt tempQueue k) := by
    rw [tempAt, List.getD_eq_getElem?_getD, List.getElem?_eq_getElem hk]
    rfl
  have hnext : sumsUpTo tempQueue (k + 1) =
      { timeSum := (sumsUpTo tempQueue k).timeSum + timeAt k
        tempSum := (sumsUpTo tempQueue k).tempSum + tempAt tempQueue k
        timeSquaredSum := (sumsUpTo tempQueue k).timeSquaredSum + timeAt k * timeAt k
        timeTempMultiplySum :=
          (sumsUpTo tempQueue k).timeTempMultiplySum + timeAt k * tempAt tempQueue k } := by
    simp only [sumsUpTo, sum_range_succ]
  rw [hnext, riseRound, htemp]
  simp only [Option.bind_eq_bind, Option.bind_eq_some_iff, int32_eq_some_iff, TimesFit, TempsFit,
    sum_range_succ, sumsUpTo, timeAt]
  constructor
  · rintro ⟨_, ⟨h1, rfl⟩, _, ⟨h2, rfl⟩, _, hsome, _, ⟨h3, rfl⟩, _, ⟨h4, rfl⟩, _, ⟨h5, rfl⟩, _,
      ⟨h6, rfl⟩, _, ⟨h7, rfl⟩, hsums⟩
    obtain rfl := Option.some.inj hsome
    exact ⟨⟨⟨h1, h2, h4, h5⟩, h3, h6, h7⟩, (Option.some.inj hsums).symm⟩
  · rintro ⟨⟨⟨h1, h2, h4, h5⟩, h3, h6, h7⟩, rfl⟩
    exact ⟨_, ⟨h1, rfl⟩, _, ⟨h2, rfl⟩, _, rfl, _, ⟨h3, rfl⟩, _, ⟨h4, rfl⟩, _, ⟨h5, rfl⟩, _,
      ⟨h6, rfl⟩, _, ⟨h7, rfl⟩, rfl⟩

theorem riseLoop_eq_some_iff {tempQueue : List Int} {rounds k : Nat}
    (hbound : k + rounds ≤ tempQueue.length) {sums : RiseSums} :
    riseLoop tempQueue rounds k (sumsUpTo tempQueue k) = some sums ↔
      (∀ i, k ≤ i → i < k + rounds → TimesFit i ∧ TempsFit tempQueue i) ∧
        sums = sumsUpTo tempQueue (k + rounds) := by
  induction rounds generalizing k with
  | zero =>
    rw [riseLoop, Option.some.injEq, eq_comm]
    exact (and_iff_right fun i hle hlt => absurd hlt (by omega)).symm
  | succ rounds ih =>
    have hround : ∀ mid, riseRound tempQueue k (sumsUpTo tempQueue k) = some mid ↔
        (TimesFit k ∧ TempsFit tempQueue k) ∧ mid = sumsUpTo tempQueue (k + 1) :=
      fun mid => riseRound_eq_some_iff (by omega)
    rw [riseLoop, Option.bind_eq_bind, Option.bind_eq_some_iff,
      show k + (rounds + 1) = k + 1 + rounds by omega]
    constructor
    · rintro ⟨mid, hmid, hrest⟩
      obtain ⟨hfits, rfl⟩ := (hround mid).mp hmid
      obtain ⟨hall, rfl⟩ := (ih (by omega)).mp hrest
      refine ⟨fun i hle hlt => ?_, rfl⟩
      rcases Nat.eq_or_lt_of_le hle with rfl | hlt'
      · exact hfits
      · exact hall i hlt' hlt
    · rintro ⟨hall, rfl⟩
      exact ⟨_, (hround _).mpr ⟨hall k le_rfl (by omega), rfl⟩,
        (ih (by omega)).mpr ⟨fun i hle hlt => hall i (by omega) hlt, rfl⟩⟩

/-! ### Closed forms of the times -/

theorem two_mul_timeSum (k : Nat) :
    2 * ∑ i ∈ range k, timeAt i = -5 * ((k : Int) * (k - 1)) := by
  induction k with
  | zero => rfl
  | succ k ih =>
    rw [sum_range_succ, mul_add, ih, timeAt, thermalUpdatePeriod]
    push_cast
    ring

theorem six_mul_timeSquaredSum (k : Nat) :
    6 * ∑ i ∈ range k, timeAt i * timeAt i = 25 * ((k : Int) * (k - 1) * (2 * k - 1)) := by
  induction k with
  | zero => rfl
  | succ k ih =>
    rw [sum_range_succ, mul_add, ih, timeAt, thermalUpdatePeriod]
    push_cast
    ring

theorem twelve_mul_calcTime (k : Nat) :
    12 * ((k : Int) * (∑ i ∈ range k, timeAt i * timeAt i) -
        (∑ i ∈ range k, timeAt i) * ∑ i ∈ range k, timeAt i) =
      25 * ((k : Int) ^ 2 * (k ^ 2 - 1)) := by
  have hsum := two_mul_timeSum k
  have hsquare := six_mul_timeSquaredSum k
  linear_combination 2 * (k : Int) * hsquare -
    3 * (2 * (∑ i ∈ range k, timeAt i) + -5 * ((k : Int) * (k - 1))) * hsum

theorem timesFit {k : Nat} (hk : k < 127) : TimesFit k := by
  have hk0 : (0 : Int) ≤ k := Int.natCast_nonneg k
  have hk1 : (k : Int) ≤ 126 := by omega
  have hsum := two_mul_timeSum (k + 1)
  have hsquare := six_mul_timeSquaredSum (k + 1)
  push_cast at hsum hsquare
  have hpair : (k + 1 : Int) * k ≤ 16002 := by nlinarith
  have hpair0 : 0 ≤ (k + 1 : Int) * k := by positivity
  have htriple : (k + 1 : Int) * k * (2 * k + 1) ≤ 16002 * 253 := by nlinarith
  have htriple0 : 0 ≤ (k + 1 : Int) * k * (2 * k + 1) := by positivity
  have htime : timeAt k * timeAt k = 25 * ((k : Int) * k) := by
    rw [timeAt, thermalUpdatePeriod]
    ring
  have hsq : (k : Int) * k ≤ 15876 := by nlinarith
  refine ⟨?_, ?_, ?_, ?_⟩
  · rw [timeAt, thermalUpdatePeriod, fitsInt32]
    constructor <;> linarith
  · constructor <;> linarith
  · rw [htime]
    constructor <;> nlinarith
  · constructor <;> linarith

/-- The squares are what bounds the length of the history. -/
theorem fits_scaled_timeSquaredSum_iff {n : Nat} :
    fitsInt32 (n * ∑ i ∈ range n, timeAt i * timeAt i) ↔ n ≤ 127 := by
  have hsquare := six_mul_timeSquaredSum n
  have hscaled : 6 * ((n : Int) * ∑ i ∈ range n, timeAt i * timeAt i) =
      25 * ((n : Int) * n * ((n - 1) * (2 * n - 1))) := by
    linear_combination (n : Int) * hsquare
  have hn0 : (0 : Int) ≤ n := Int.natCast_nonneg n
  constructor
  · rintro ⟨-, hupper⟩
    by_contra hlarge
    have hn : (128 : Int) ≤ n := by omega
    have hleft : (16384 : Int) ≤ n * n := by nlinarith
    have hright : (32385 : Int) ≤ (n - 1) * (2 * n - 1) := by nlinarith
    have hproduct : (16384 * 32385 : Int) ≤ n * n * ((n - 1) * (2 * n - 1)) :=
      mul_le_mul hleft hright (by norm_num) (by positivity)
    linarith
  · intro hsmall
    have hn : (n : Int) ≤ 127 := by omega
    have hleft : (n : Int) * n ≤ 16129 := by nlinarith
    have hright0 : (0 : Int) ≤ (n - 1) * (2 * n - 1) := by
      rcases Nat.eq_zero_or_pos n with rfl | hpos
      · norm_num
      · exact mul_nonneg (by omega) (by omega)
    have hright : ((n : Int) - 1) * (2 * n - 1) ≤ 31878 := by nlinarith
    have hproduct : (n : Int) * n * ((n - 1) * (2 * n - 1)) ≤ 16129 * 31878 :=
      mul_le_mul hleft hright hright0 (by norm_num)
    have hproduct0 : 0 ≤ (n : Int) * n * ((n - 1) * (2 * n - 1)) := by positivity
    constructor <;> linarith

theorem calcTime_pos {n : Nat} (hn : 2 ≤ n) :
    0 < (n : Int) * (∑ i ∈ range n, timeAt i * timeAt i) -
      (∑ i ∈ range n, timeAt i) * ∑ i ∈ range n, timeAt i := by
  have hclosed := twelve_mul_calcTime n
  have hn' : (2 : Int) ≤ n := by omega
  have hpos : 0 < (n : Int) ^ 2 * (n ^ 2 - 1) := by
    apply mul_pos
    · positivity
    · nlinarith
  linarith

theorem fits_calcTime {n : Nat} (hn : 2 ≤ n)
    (hscaled : fitsInt32 (n * ∑ i ∈ range n, timeAt i * timeAt i)) :
    fitsInt32 ((∑ i ∈ range n, timeAt i) * ∑ i ∈ range n, timeAt i) ∧
      fitsInt32 (n * (∑ i ∈ range n, timeAt i * timeAt i) -
        (∑ i ∈ range n, timeAt i) * ∑ i ∈ range n, timeAt i) := by
  have hpos := calcTime_pos hn
  have hsquare := mul_self_nonneg (∑ i ∈ range n, timeAt i)
  obtain ⟨-, hupper⟩ := hscaled
  refine ⟨⟨?_, ?_⟩, ?_, ?_⟩ <;> linarith

/-! ### When the rate is exact -/

/-- Every intermediate value fits, the denominator is positive, and the rate is the slope of the
least squares line through samples at the times 0, -5, -10, ... seconds, for a minute. -/
def RateExact (historyCount : Nat) (tempQueue : List Int) : Prop :=
  ∃ sums denominator numerator,
    riseSums tempQueue = some sums ∧
      calcTime (toInt32 tempQueue.length) sums = some denominator ∧ 0 < denominator ∧
      slopeNumerator (toInt32 tempQueue.length) sums = some numerator ∧
      ∃ slope : ℚ,
        LeastSquares.IsSlope tempQueue.length (fun i => -5 * (i : ℚ))
          (fun i => (tempAt tempQueue i : ℚ)) slope ∧
        getThermalRiseRate (some 0) slopeRate historyCount tempQueue = some (60 * slope)

/-- The history is short enough and its temperatures are small enough. -/
structure SumsFit (tempQueue : List Int) : Prop where
  length_le : tempQueue.length ≤ 127
  temps : ∀ i < tempQueue.length, TempsFit tempQueue i
  scaled : fitsInt32
    (tempQueue.length * ∑ i ∈ range tempQueue.length, timeAt i * tempAt tempQueue i)
  product : fitsInt32 ((∑ i ∈ range tempQueue.length, timeAt i) *
    ∑ i ∈ range tempQueue.length, tempAt tempQueue i)
  difference : fitsInt32
    (tempQueue.length * (∑ i ∈ range tempQueue.length, timeAt i * tempAt tempQueue i) -
      (∑ i ∈ range tempQueue.length, timeAt i) *
        ∑ i ∈ range tempQueue.length, tempAt tempQueue i)

variable {tempQueue : List Int} {historyCount : Nat}

theorem toInt32_of_lt {n : Nat} (h : n < 2 ^ 31) : toInt32 n = n := by
  rw [toInt32, Int.bmod_def]
  omega

/-- A size that does not fit turns negative: the loop does not run. -/
theorem toInt32_of_ge {n : Nat} (hge : 2 ^ 31 ≤ n) (hlt : n < 2 ^ 32) :
    (toInt32 n).toNat = 0 := by
  rw [toInt32, Int.bmod_def]
  omega

theorem riseSums_eq_some_iff (hlen : tempQueue.length < 2 ^ 31) {sums : RiseSums} :
    riseSums tempQueue = some sums ↔
      (∀ i < tempQueue.length, TimesFit i ∧ TempsFit tempQueue i) ∧
        sums = sumsUpTo tempQueue tempQueue.length := by
  have hstart : ({} : RiseSums) = sumsUpTo tempQueue 0 := rfl
  have hrounds : 0 + tempQueue.length ≤ tempQueue.length := by omega
  rw [riseSums, toInt32_of_lt hlen, Int.toNat_natCast, hstart, riseLoop_eq_some_iff hrounds,
    Nat.zero_add]
  simp

theorem int32_sub_eq_some_iff {scaled product difference : Int} :
    ((int32 scaled).bind fun scaled => (int32 product).bind fun product =>
        int32 (scaled - product)) = some difference ↔
      fitsInt32 scaled ∧ fitsInt32 product ∧ fitsInt32 (scaled - product) ∧
        scaled - product = difference := by
  simp only [Option.bind_eq_some_iff, int32_eq_some_iff]
  constructor
  · rintro ⟨_, ⟨h1, rfl⟩, _, ⟨h2, rfl⟩, h3, h4⟩
    exact ⟨h1, h2, h3, h4⟩
  · rintro ⟨h1, h2, h3, h4⟩
    exact ⟨_, ⟨h1, rfl⟩, _, ⟨h2, rfl⟩, h3, h4⟩

theorem calcTime_eq_some_iff {size denominator : Int} {sums : RiseSums} :
    calcTime size sums = some denominator ↔
      fitsInt32 (size * sums.timeSquaredSum) ∧ fitsInt32 (sums.timeSum * sums.timeSum) ∧
        fitsInt32 (size * sums.timeSquaredSum - sums.timeSum * sums.timeSum) ∧
        size * sums.timeSquaredSum - sums.timeSum * sums.timeSum = denominator :=
  int32_sub_eq_some_iff

theorem slopeNumerator_eq_some_iff {size numerator : Int} {sums : RiseSums} :
    slopeNumerator size sums = some numerator ↔
      fitsInt32 (size * sums.timeTempMultiplySum) ∧ fitsInt32 (sums.timeSum * sums.tempSum) ∧
        fitsInt32 (size * sums.timeTempMultiplySum - sums.timeSum * sums.tempSum) ∧
        size * sums.timeTempMultiplySum - sums.timeSum * sums.tempSum = numerator :=
  int32_sub_eq_some_iff

theorem calcTime_sumsUpTo (htwo : 2 ≤ tempQueue.length) (hsmall : tempQueue.length ≤ 127) :
    calcTime (toInt32 tempQueue.length) (sumsUpTo tempQueue tempQueue.length) =
      some (tempQueue.length * (∑ i ∈ range tempQueue.length, timeAt i * timeAt i) -
        (∑ i ∈ range tempQueue.length, timeAt i) *
          ∑ i ∈ range tempQueue.length, timeAt i) := by
  have hscaled := fits_scaled_timeSquaredSum_iff.mpr hsmall
  obtain ⟨hsquare, hdifference⟩ := fits_calcTime htwo hscaled
  rw [toInt32_of_lt (by omega)]
  exact calcTime_eq_some_iff.mpr ⟨hscaled, hsquare, hdifference, rfl⟩

theorem slopeNumerator_sumsUpTo (hfit : SumsFit tempQueue) :
    slopeNumerator (toInt32 tempQueue.length) (sumsUpTo tempQueue tempQueue.length) =
      some (tempQueue.length * (∑ i ∈ range tempQueue.length, timeAt i * tempAt tempQueue i) -
        (∑ i ∈ range tempQueue.length, timeAt i) *
          ∑ i ∈ range tempQueue.length, tempAt tempQueue i) := by
  have hsmall := hfit.length_le
  rw [toInt32_of_lt (by omega)]
  exact slopeNumerator_eq_some_iff.mpr ⟨hfit.scaled, hfit.product, hfit.difference, rfl⟩

theorem slopeRate_eq {sums : RiseSums} {denominator numerator : Int}
    (hsums : riseSums tempQueue = some sums)
    (hdenominator : calcTime (toInt32 tempQueue.length) sums = some denominator)
    (hne : denominator ≠ 0)
    (hnumerator : slopeNumerator (toInt32 tempQueue.length) sums = some numerator) :
    slopeRate tempQueue = some ((numerator : ℚ) / denominator * secMinNum) := by
  rw [slopeRate, hsums, Option.bind_eq_bind, Option.bind_some, hdenominator, Option.bind_eq_bind,
    Option.bind_some, if_neg hne, hnumerator]
  rfl

/-- A history so long that its size turns negative has no denominator. -/
theorem not_rateExact_of_ge (hge : 2 ^ 31 ≤ tempQueue.length) (hlt : tempQueue.length < 2 ^ 32) :
    ¬ RateExact historyCount tempQueue := by
  rintro ⟨sums, denominator, numerator, hsums, hdenominator, hpos, -⟩
  rw [riseSums, toInt32_of_ge hge hlt] at hsums
  obtain rfl := Option.some.inj hsums
  obtain ⟨-, -, -, rfl⟩ := calcTime_eq_some_iff.mp hdenominator
  simp at hpos

theorem isSlope_rise (htwo : 2 ≤ tempQueue.length) :
    LeastSquares.IsSlope tempQueue.length (fun i => -5 * (i : ℚ))
      (fun i => (tempAt tempQueue i : ℚ))
      (((tempQueue.length * (∑ i ∈ range tempQueue.length, timeAt i * tempAt tempQueue i) -
          (∑ i ∈ range tempQueue.length, timeAt i) *
            ∑ i ∈ range tempQueue.length, tempAt tempQueue i : Int) : ℚ) /
        ((tempQueue.length * (∑ i ∈ range tempQueue.length, timeAt i * timeAt i) -
          (∑ i ∈ range tempQueue.length, timeAt i) *
            ∑ i ∈ range tempQueue.length, timeAt i : Int) : ℚ)) := by
  have htime : (fun i : Nat => -5 * (i : ℚ)) = fun i => (timeAt i : ℚ) := by
    funext i
    rw [timeAt, thermalUpdatePeriod]
    push_cast
    ring
  have hn : (tempQueue.length : ℚ) ≠ 0 := by
    rw [Nat.cast_ne_zero]
    omega
  have hdenominator : (((tempQueue.length *
      (∑ i ∈ range tempQueue.length, timeAt i * timeAt i) -
        (∑ i ∈ range tempQueue.length, timeAt i) *
          ∑ i ∈ range tempQueue.length, timeAt i : Int) : ℚ)) ≠ 0 :=
    Int.cast_ne_zero.mpr (calcTime_pos htwo).ne'
  push_cast at hdenominator ⊢
  rw [htime]
  exact LeastSquares.isSlope_quotient hn hdenominator

/-- **When the rise rate is exact.** -/
theorem rateExact_iff (htwo : 2 ≤ tempQueue.length) (hlen : tempQueue.length < 2 ^ 32)
    (hfull : historyCount ≤ tempQueue.length) :
    RateExact historyCount tempQueue ↔ SumsFit tempQueue := by
  constructor
  · intro hexact
    have hlt : tempQueue.length < 2 ^ 31 := by
      by_contra hge
      exact not_rateExact_of_ge (not_lt.mp hge) hlen hexact
    obtain ⟨sums, denominator, numerator, hsums, hdenominator, -, hnumerator, -⟩ := hexact
    obtain ⟨hall, rfl⟩ := (riseSums_eq_some_iff hlt).mp hsums
    rw [toInt32_of_lt hlt] at hdenominator hnumerator
    obtain ⟨hsquares, -⟩ := calcTime_eq_some_iff.mp hdenominator
    obtain ⟨hscaled, hproduct, hdifference, -⟩ := slopeNumerator_eq_some_iff.mp hnumerator
    exact ⟨fits_scaled_timeSquaredSum_iff.mp hsquares, fun i hi => (hall i hi).2, hscaled,
      hproduct, hdifference⟩
  · intro hfit
    have hsmall := hfit.length_le
    have hlt : tempQueue.length < 2 ^ 31 := by omega
    have hpos := calcTime_pos htwo
    have hsums := (riseSums_eq_some_iff hlt).mpr
      ⟨fun i hi => ⟨timesFit (by omega), hfit.temps i hi⟩, rfl⟩
    have hdenominator := calcTime_sumsUpTo htwo hsmall
    have hnumerator := slopeNumerator_sumsUpTo hfit
    refine ⟨_, _, _, hsums, hdenominator, hpos, hnumerator, _, isSlope_rise htwo, ?_⟩
    rw [getThermalRiseRate, if_neg (not_lt.mpr hfull),
      slopeRate_eq hsums hdenominator hpos.ne' hnumerator, mul_comm (60 : ℚ), secMinNum,
      Int.cast_ofNat]

/-- Two temperatures two degrees apart. -/
theorem rateExact_two_iff : RateExact 2 [38000, 36000] ↔ SumsFit [38000, 36000] :=
  rateExact_iff (by decide) (by decide) (by decide)

/-- Thirty samples at 90 degrees: `30 * sum(xi * yi)` is below `INT32_MIN`. -/
theorem not_rateExact_thirty : ¬ RateExact 30 (List.replicate 30 90000) := by
  rintro ⟨sums, denominator, numerator, hsums, -, -, hnumerator, -⟩
  have hnone : (riseSums (List.replicate 30 90000)).bind (slopeNumerator 30) = none := by
    decide +kernel
  have hsize : toInt32 (List.replicate 30 (90000 : Int)).length = 30 := by decide
  rw [hsize] at hnumerator
  rw [hsums, Option.bind_some, hnumerator] at hnone
  cases hnone

end ThermalManager
