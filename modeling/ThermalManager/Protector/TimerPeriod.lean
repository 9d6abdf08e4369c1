import ThermalManager.Protector.SamplingSchedule

/-!
# The period of the sampling timer

`thermal_protector_timer.cpp`: the timer is armed with the common divisor of the intervals, which
are in milliseconds. The timer file descriptor is given whole seconds, so it keeps the period of
the divisor only if that is a number of seconds, and a shorter one disarms it.
-/

namespace ThermalManager

/-! ### The timer file descriptor -/

structure TimeSpec where
  tvSec : Int
  tvNsec : Int
  deriving DecidableEq

structure ITimerSpec where
  itInterval : TimeSpec
  itValue : TimeSpec
  deriving DecidableEq

def TimeSpec.nanoseconds (t : TimeSpec) : Int := t.tvSec * 1000000000 + t.tvNsec

/-- When the timer expires, in nanoseconds after it is armed: first after `it_value`, which disarms
it when it is zero, and then after every `it_interval`, or not again when that is zero. -/
def ITimerSpec.expiration (itval : ITimerSpec) : Nat → Option Int
  | 0 => if itval.itValue.nanoseconds = 0 then none else some itval.itValue.nanoseconds
  | k + 1 =>
      if itval.itValue.nanoseconds = 0 ∨ itval.itInterval.nanoseconds = 0 then none
      else some (itval.itValue.nanoseconds + (k + 1 : Nat) * itval.itInterval.nanoseconds)

/-- The timer expires every so many milliseconds. -/
def ITimerSpec.RunsEvery (itval : ITimerSpec) (milliseconds : Int) : Prop :=
  ∀ k : Nat, itval.expiration k = some ((k + 1 : Nat) * (milliseconds * 1000000))

/-- With the same two times the timer keeps their period, if it is not disarmed. -/
theorem ITimerSpec.expiration_eq {itval : ITimerSpec} (hsame : itval.itInterval = itval.itValue)
    (hne : itval.itValue.nanoseconds ≠ 0) (k : Nat) :
    itval.expiration k = some ((k + 1 : Nat) * itval.itValue.nanoseconds) := by
  cases k with
  | zero => rw [expiration, if_neg hne, Nat.cast_one, one_mul]
  | succ k =>
    rw [expiration, hsame, if_neg (not_or.mpr ⟨hne, hne⟩), ← one_add_mul]
    push_cast
    rw [add_comm 1]

theorem ITimerSpec.runsEvery_iff {itval : ITimerSpec} (hsame : itval.itInterval = itval.itValue)
    {milliseconds : Int} (hpos : 0 < milliseconds) :
    itval.RunsEvery milliseconds ↔ itval.itValue.nanoseconds = milliseconds * 1000000 := by
  constructor
  · intro h
    have hfirst := h 0
    rw [expiration, Nat.cast_one, one_mul] at hfirst
    split at hfirst
    · cases hfirst
    · exact Option.some.inj hfirst
  · intro heq k
    rw [expiration_eq hsame (by omega), heq]

namespace ThermalProtectorTimer

def errInvalidFd : Int := -1
def msPerSecond : Int := 1000

/-- The two times that `SetTimerInterval` fills in are the same. -/
def wholeSeconds (interval : Int) : ITimerSpec :=
  let interval := if interval < 0 then 0 else interval
  { itInterval := ⟨interval.tdiv msPerSecond, 0⟩
    itValue := ⟨interval.tdiv msPerSecond, 0⟩ }

/-- What `timerfd_settime` is called with. -/
def setTimerInterval (interval timerfd : Int) : Option ITimerSpec :=
  if timerfd = errInvalidFd then none else some (wholeSeconds interval)

/-- What the timer is armed with, or nothing with `ERR_INVALID_VALUE`; `timerFd` is what
`timerfd_create` returns. -/
def createProvisionFd (tzInfoMap : ThermalZoneMap) (timerFd : Int) : Option ITimerSpec :=
  if timerFd = errInvalidFd then none
  else setTimerInterval (calculateMaxCd tzInfoMap) timerFd

theorem createProvisionFd_eq_some_iff {tzInfoMap : ThermalZoneMap} {timerFd : Int}
    {itval : ITimerSpec} : createProvisionFd tzInfoMap timerFd = some itval ↔
      timerFd ≠ errInvalidFd ∧ wholeSeconds (calculateMaxCd tzInfoMap) = itval := by
  rw [createProvisionFd, setTimerInterval]
  split
  case isTrue hinvalid => simp [hinvalid]
  case isFalse hvalid => simp [hvalid]

theorem runsEvery_wholeSeconds_iff {interval : Int} (hpos : 0 < interval) :
    (wholeSeconds interval).RunsEvery interval ↔ msPerSecond ∣ interval := by
  have hseconds : (wholeSeconds interval).itValue.nanoseconds =
      interval.tdiv msPerSecond * 1000000000 := by
    rw [wholeSeconds, if_neg (by omega), TimeSpec.nanoseconds]
    exact add_zero _
  have htdiv : interval.tdiv msPerSecond = interval / 1000 := Int.tdiv_eq_ediv_of_nonneg hpos.le
  rw [ITimerSpec.runsEvery_iff rfl hpos, hseconds, htdiv, msPerSecond]
  omega

/-! ### The greatest common divisor -/

/-- The divisor divides all numbers, and so does every number that divides the divisor only. -/
def IsGreatestDivisor (intervalList : List Int) (maxCd : Int) : Prop :=
  0 < maxCd ∧ ∀ divisor : Int,
    divisor ∣ maxCd ↔ ∀ interval ∈ intervalList, divisor ∣ interval

theorem dvd_getMaxCommonDivisor {a b divisor : Int} (ha : divisor ∣ a) (hb : divisor ∣ b) :
    divisor ∣ getMaxCommonDivisor a b := by
  induction a, b using getMaxCommonDivisor.induct with
  | case1 a =>
    rw [getMaxCommonDivisor, if_pos rfl]
    exact Int.dvd_zero divisor
  | case2 a b hne hmod =>
    rw [getMaxCommonDivisor, if_neg hne, if_pos hmod]
    exact hb
  | case3 a b hne hmod ih =>
    rw [getMaxCommonDivisor, if_neg hne, if_neg hmod]
    refine ih hb ?_
    rw [Int.tmod_def]
    exact Int.dvd_sub ha (hb.mul_right _)

theorem dvd_getIntervalCommonDivisor {intervalList : List Int} {divisor : Int}
    (hall : ∀ interval ∈ intervalList, divisor ∣ interval) :
    divisor ∣ getIntervalCommonDivisor intervalList := by
  cases intervalList with
  | nil => exact Int.dvd_zero divisor
  | cons interval rest =>
    obtain ⟨hfirst, hrest⟩ := List.forall_mem_cons.mp hall
    rw [getIntervalCommonDivisor]
    clear hall
    induction rest generalizing interval with
    | nil => exact hfirst
    | cons next rest ih =>
      obtain ⟨hnext, hrest⟩ := List.forall_mem_cons.mp hrest
      exact ih _ (dvd_getMaxCommonDivisor hfirst hnext) hrest

theorem isGreatestDivisor_getIntervalCommonDivisor {intervalList : List Int}
    (hne : intervalList ≠ []) (hpos : ∀ interval ∈ intervalList, 0 < interval) :
    IsGreatestDivisor intervalList (getIntervalCommonDivisor intervalList) := by
  obtain ⟨hmaxCd, hdvd⟩ := getIntervalCommonDivisor_dvd hne hpos
  refine ⟨hmaxCd, fun divisor => ⟨fun h interval hmem => h.trans (hdvd interval hmem), ?_⟩⟩
  exact dvd_getIntervalCommonDivisor

/-! ### The period -/

/-- The sampling period in time: the divisor is the greatest common one, the multiples are the
intervals in units of it, and the timer runs with its period, so that the ticks of a multiple last
the interval. -/
structure SampledInTime (tzInfoMap : ThermalZoneMap) (timerFd : Int) : Prop where
  greatest : IsGreatestDivisor (intervals tzInfoMap) (calculateMaxCd tzInfoMap)
  multiples : ∀ (name : String) (zone : ProtectorThermalZoneInfo), tzInfoMap[name]? = some zone →
    ∃ zone', (setMultiples tzInfoMap)[name]? = some zone' ∧
      zone'.multiple * calculateMaxCd tzInfoMap = zone.interval
  timer : ∃ itval, createProvisionFd tzInfoMap timerFd = some itval ∧
    itval.RunsEvery (calculateMaxCd tzInfoMap) ∧
    ∀ (name : String) (zone : ProtectorThermalZoneInfo),
      (setMultiples tzInfoMap)[name]? = some zone → ∀ k : Nat, ∃ before after,
        itval.expiration k = some before ∧
        itval.expiration (k + zone.multiple.toNat) = some after ∧
        after - before = zone.interval * 1000000

section Configured

variable {tzInfoMap : ThermalZoneMap}

theorem intervals_ne_nil (hne : tzInfoMap ≠ ∅) : intervals tzInfoMap ≠ [] := by
  intro hnil
  exact hne (Std.ExtTreeMap.toList_eq_nil_iff.mp (List.map_eq_nil_iff.mp hnil))

theorem getElem?_setMultiples (hmaxCd : calculateMaxCd tzInfoMap ≠ 0) (name : String) :
    (setMultiples tzInfoMap)[name]? = (tzInfoMap[name]?).map fun zone =>
      { zone with multiple := zone.interval.tdiv (calculateMaxCd tzInfoMap) } := by
  rw [setMultiples_eq hmaxCd, Std.ExtTreeMap.getElem?_map]

theorem IsGreatestDivisor.tdiv_mul (h : IsGreatestDivisor (intervals tzInfoMap)
    (calculateMaxCd tzInfoMap)) {name : String} {zone : ProtectorThermalZoneInfo}
    (hzone : tzInfoMap[name]? = some zone) :
    zone.interval.tdiv (calculateMaxCd tzInfoMap) * calculateMaxCd tzInfoMap = zone.interval :=
  Int.tdiv_mul_cancel ((h.2 _).mp dvd_rfl _ (mem_intervals.mpr ⟨name, zone, hzone, rfl⟩))

theorem ticks_last_interval {itval : ITimerSpec} {maxCd multiple interval : Int}
    (hruns : itval.RunsEvery maxCd) (hmultiple : 0 ≤ multiple)
    (hmul : multiple * maxCd = interval) (k : Nat) :
    ∃ before after, itval.expiration k = some before ∧
      itval.expiration (k + multiple.toNat) = some after ∧
      after - before = interval * 1000000 := by
  refine ⟨_, _, hruns k, hruns (k + multiple.toNat), ?_⟩
  rw [← Int.sub_mul, ← hmul]
  have hticks : ((k + multiple.toNat + 1 : Nat) : Int) - ((k + 1 : Nat) : Int) = multiple := by
    omega
  rw [hticks, mul_assoc]

/-- The zones are sampled in time exactly if the timer exists and every interval is a number of
seconds. -/
theorem sampled_in_time_iff (hne : tzInfoMap ≠ ∅)
    (hpos : ∀ interval ∈ intervals tzInfoMap, 0 < interval) (timerFd : Int) :
    SampledInTime tzInfoMap timerFd ↔
      timerFd ≠ errInvalidFd ∧ ∀ interval ∈ intervals tzInfoMap, msPerSecond ∣ interval := by
  have hgreatest : IsGreatestDivisor (intervals tzInfoMap) (calculateMaxCd tzInfoMap) :=
    isGreatestDivisor_getIntervalCommonDivisor (intervals_ne_nil hne) hpos
  have hmaxCd := hgreatest.1.ne'
  rw [← hgreatest.2 msPerSecond, ← runsEvery_wholeSeconds_iff hgreatest.1]
  constructor
  · intro h
    obtain ⟨itval, harmed, hruns, -⟩ := h.timer
    obtain ⟨hvalid, rfl⟩ := createProvisionFd_eq_some_iff.mp harmed
    exact ⟨hvalid, hruns⟩
  · intro h
    obtain ⟨hvalid, hruns⟩ := h
    refine { greatest := hgreatest, multiples := ?multiples, timer := ?timer }
    case multiples =>
      intro name zone hzone
      rw [getElem?_setMultiples hmaxCd, hzone]
      exact ⟨_, rfl, hgreatest.tdiv_mul hzone⟩
    case timer =>
      refine ⟨wholeSeconds (calculateMaxCd tzInfoMap),
        createProvisionFd_eq_some_iff.mpr ⟨hvalid, rfl⟩, hruns, fun name zone hzone => ?_⟩
      rw [getElem?_setMultiples hmaxCd, Option.map_eq_some_iff] at hzone
      obtain ⟨zone, hzone, rfl⟩ := hzone
      have hinterval := hpos _ (mem_intervals.mpr ⟨name, zone, hzone, rfl⟩)
      have hmultiple := Int.tdiv_nonneg hinterval.le hgreatest.1.le
      exact ticks_last_interval hruns hmultiple (hgreatest.tdiv_mul hzone)

end Configured

/-- Two zones with a common divisor of two seconds. -/
def secondZones : ThermalZoneMap :=
  (∅ : ThermalZoneMap)
    |>.insert "soc-thermal" { path := "tz0", interval := 4000, multiple := 0, tzItemList := [] }
    |>.insert "battery" { path := "tz2", interval := 6000, multiple := 0, tzItemList := [] }

theorem secondZones_sampled_in_time : SampledInTime secondZones 3 :=
  (sampled_in_time_iff (mt Std.ExtTreeMap.eq_empty_iff_size_eq_zero.mp (by decide)) (by decide)
    3).mpr ⟨by decide, by decide⟩

def halfSecondZones : ThermalZoneMap :=
  (∅ : ThermalZoneMap).insert "soc-thermal"
    { path := "tz0", interval := 500, multiple := 0, tzItemList := [] }

/-- A zone with an interval of half a second disarms the timer. -/
theorem half_second_not_in_time :
    ¬ ∀ tzInfoMap : ThermalZoneMap, tzInfoMap ≠ ∅ →
      (∀ interval ∈ intervals tzInfoMap, 0 < interval) → SampledInTime tzInfoMap 3 := by
  intro h
  have htime := h halfSecondZones (mt Std.ExtTreeMap.eq_empty_iff_size_eq_zero.mp (by decide))
    (by decide)
  obtain ⟨itval, harmed, hruns, -⟩ := htime.timer
  obtain ⟨-, rfl⟩ := createProvisionFd_eq_some_iff.mp harmed
  exact absurd (hruns 0) (by decide)

end ThermalProtectorTimer

end ThermalManager
