import ThermalManager.Protector.ThermalZone
import ThermalManager.Utils.StringOperation
import Mathlib.Algebra.Order.Ring.Int

/-!
# When the protector samples a zone

`thermal_protector_timer.cpp`, `thermal_sensor_provision.cpp` and the part of
`thermal_kernel_policy.cpp` that divides the intervals of the zones by their common divisor. A tick
of the timer counts `reportTime_`, samples the zones whose multiple divides it and starts again when
it has reached the largest multiple. A file that can be read and has no number ends the process.
-/

namespace ThermalManager

abbrev ThermalZoneMap := Map String ProtectorThermalZoneInfo
abbrev SensorsMap := Map String Int

/-! ### The multiples -/

def getMaxCommonDivisor (a b : Int) : Int :=
  if b = 0 then 0
  else if a.tmod b = 0 then b
  else getMaxCommonDivisor b (a.tmod b)
termination_by b.natAbs
decreasing_by
  rw [Int.natAbs_tmod]
  exact Nat.mod_lt _ (Int.natAbs_pos.mpr ‹_›)

def getIntervalCommonDivisor : List Int → Int
  | [] => 0
  | interval :: intervalList => intervalList.foldl getMaxCommonDivisor interval

def calculateMaxCd (tzInfoMap : ThermalZoneMap) : Int :=
  getIntervalCommonDivisor (tzInfoMap.toList.map fun tzIter => tzIter.2.interval)

def setMultiples (tzInfoMap : ThermalZoneMap) : ThermalZoneMap :=
  let maxCd := calculateMaxCd tzInfoMap
  if maxCd = 0 then tzInfoMap
  else tzInfoMap.map fun _ tzIter => { tzIter with multiple := tzIter.interval.tdiv maxCd }

theorem getMaxCommonDivisor_dvd {a b : Int} (ha : 0 ≤ a) (hb : 0 < b) :
    0 < getMaxCommonDivisor a b ∧ getMaxCommonDivisor a b ∣ a ∧ getMaxCommonDivisor a b ∣ b := by
  induction a, b using getMaxCommonDivisor.induct with
  | case1 a => exact absurd hb (lt_irrefl 0)
  | case2 a b hne hmod =>
    rw [getMaxCommonDivisor, if_neg hne, if_pos hmod]
    exact ⟨hb, Int.dvd_iff_tmod_eq_zero.mpr hmod, dvd_rfl⟩
  | case3 a b hne hmod ih =>
    rw [getMaxCommonDivisor, if_neg hne, if_neg hmod]
    obtain ⟨hpos, hdvd, hrest⟩ := ih hb.le ((Int.tmod_nonneg b ha).lt_of_ne' hmod)
    have hsum := Int.dvd_add (hdvd.mul_right (a.tdiv b)) hrest
    rw [Int.mul_tdiv_add_tmod] at hsum
    exact ⟨hpos, hsum, hdvd⟩

theorem foldl_getMaxCommonDivisor_dvd {rest : List Int} {divisor : Int}
    (hrest : ∀ interval ∈ rest, 0 < interval) (hdivisor : 0 < divisor) :
    0 < rest.foldl getMaxCommonDivisor divisor ∧
      rest.foldl getMaxCommonDivisor divisor ∣ divisor ∧
      ∀ interval ∈ rest, rest.foldl getMaxCommonDivisor divisor ∣ interval := by
  induction rest generalizing divisor with
  | nil => exact ⟨hdivisor, dvd_rfl, by simp⟩
  | cons interval rest ih =>
    obtain ⟨hnext, hleft, hright⟩ :=
      getMaxCommonDivisor_dvd hdivisor.le (hrest interval List.mem_cons_self)
    obtain ⟨hfinal, hdvd, hall⟩ := ih (fun i hi => hrest i (List.mem_cons_of_mem _ hi)) hnext
    refine ⟨hfinal, hdvd.trans hleft, fun i hi => ?_⟩
    rcases List.mem_cons.mp hi with rfl | hi
    · exact hdvd.trans hright
    · exact hall i hi

theorem getIntervalCommonDivisor_dvd {intervalList : List Int} (hne : intervalList ≠ [])
    (hpos : ∀ interval ∈ intervalList, 0 < interval) :
    0 < getIntervalCommonDivisor intervalList ∧
      ∀ interval ∈ intervalList, getIntervalCommonDivisor intervalList ∣ interval := by
  cases intervalList with
  | nil => exact absurd rfl hne
  | cons interval rest =>
    obtain ⟨hfinal, hdvd, hall⟩ := foldl_getMaxCommonDivisor_dvd
      (fun i hi => hpos i (List.mem_cons_of_mem _ hi)) (hpos interval List.mem_cons_self)
    exact ⟨hfinal, fun i hi => (List.mem_cons.mp hi).elim (fun heq => heq ▸ hdvd) (hall i)⟩

/-! ### The samples -/

/-- One zone of the loop; `read` is the text that reading the file at a path gives. Nothing is left
when `std::stoi` throws. -/
def reportZone (read : String → Option String) (reportTime : Int) (report : SensorsMap × List Int)
    (sensorIter : String × ProtectorThermalZoneInfo) : Option (SensorsMap × List Int) :=
  let multiple := sensorIter.2.multiple
  if multiple = 0 then some report
  else
    let result := reportTime.tmod multiple
    let multipleList := report.2 ++ [multiple]
    if result = 0 then
      if sensorIter.2.path = "" then some (report.1, multipleList)
      else
        match read sensorIter.2.path with
        | none => some (report.1, multipleList)
        | some tempBuf => (stoi tempBuf).map fun temp =>
            (report.1.insertIfNew sensorIter.1 temp, multipleList)
    else some (report.1, multipleList)

/-- The temperatures sampled and the multiples seen. -/
def reportThermalZoneData (read : String → Option String) (tzInfoMap : ThermalZoneMap)
    (reportTime : Int) : Option (SensorsMap × List Int) :=
  tzInfoMap.toList.foldlM (reportZone read reportTime) (∅, [])

structure ThermalProtectorTimer where
  reportTime : Int := 0
  multipleList : List Int := []
  typeTempMap : SensorsMap := ∅

namespace ThermalProtectorTimer

def notifyPolicy (t : ThermalProtectorTimer) (read : String → Option String)
    (tzInfoMap : ThermalZoneMap) : Option ThermalProtectorTimer :=
  (reportThermalZoneData read tzInfoMap t.reportTime).map fun report =>
    { t with
      typeTempMap := report.1
      multipleList := report.2 }

def resetCount (t : ThermalProtectorTimer) : ThermalProtectorTimer :=
  match t.multipleList.max? with
  | none => t
  | some maxValue => if t.reportTime = maxValue then { t with reportTime := 0 } else t

def timerProvisionCallback (t : ThermalProtectorTimer) (read : String → Option String)
    (tzInfoMap : ThermalZoneMap) : Option ThermalProtectorTimer :=
  (notifyPolicy { t with reportTime := t.reportTime + 1 } read tzInfoMap).map resetCount

end ThermalProtectorTimer

/-! ### What one tick samples -/

def Readable (read : String → Option String) (zone : ProtectorThermalZoneInfo) : Prop :=
  zone.path ≠ "" ∧ ((read zone.path).bind stoi).isSome

def multiples (tzInfoMap : ThermalZoneMap) : List Int :=
  tzInfoMap.toList.map fun sensorIter => sensorIter.2.multiple

section Report

variable {read : String → Option String} {reportTime : Int} {tzInfoMap : ThermalZoneMap}

theorem reportZone_readable {sensorIter : String × ProtectorThermalZoneInfo}
    (hne : sensorIter.2.multiple ≠ 0) (hread : Readable read sensorIter.2)
    (report : SensorsMap × List Int) :
    ∃ sampled, reportZone read reportTime report sensorIter =
        some (sampled, report.2 ++ [sensorIter.2.multiple]) ∧
      ∀ name, name ∈ sampled ↔
        name ∈ report.1 ∨ (sensorIter.1 = name ∧ sensorIter.2.multiple ∣ reportTime) := by
  obtain ⟨temp, htemp⟩ := Option.isSome_iff_exists.mp hread.2
  obtain ⟨tempBuf, hbuf, hstoi⟩ := Option.bind_eq_some_iff.mp htemp
  dsimp only [reportZone]
  rw [if_neg hne, if_neg hread.1, hbuf, Int.dvd_iff_tmod_eq_zero]
  dsimp only
  rw [hstoi]
  by_cases hdue : reportTime.tmod sensorIter.2.multiple = 0
  · rw [if_pos hdue]
    refine ⟨_, rfl, fun name => ?_⟩
    rw [Std.ExtTreeMap.mem_insertIfNew, Std.LawfulEqOrd.compare_eq_iff_eq, or_comm]
    exact or_congr_right (iff_self_and.mpr fun _ => hdue)
  · rw [if_neg hdue]
    exact ⟨_, rfl, fun name => (or_iff_left fun h => hdue h.2).symm⟩

theorem foldlM_reportZone (reportTime : Int) (sensors : List (String × ProtectorThermalZoneInfo))
    (hsensors : ∀ sensorIter ∈ sensors,
      sensorIter.2.multiple ≠ 0 ∧ Readable read sensorIter.2)
    (report : SensorsMap × List Int) :
    ∃ sampled, sensors.foldlM (reportZone read reportTime) report =
        some (sampled, report.2 ++ sensors.map fun sensorIter => sensorIter.2.multiple) ∧
      ∀ name, name ∈ sampled ↔ name ∈ report.1 ∨ ∃ sensorIter ∈ sensors,
        sensorIter.1 = name ∧ sensorIter.2.multiple ∣ reportTime := by
  induction sensors generalizing report with
  | nil => exact ⟨report.1, by simp, by simp⟩
  | cons sensorIter rest ih =>
    obtain ⟨hne, hread⟩ := hsensors sensorIter List.mem_cons_self
    obtain ⟨first, hfirst, hmem⟩ : ∃ first, reportZone read reportTime report sensorIter =
        some (first, report.2 ++ [sensorIter.2.multiple]) ∧ _ := reportZone_readable hne hread report
    obtain ⟨sampled, hrest, hsampled⟩ := ih
      (fun s hs => hsensors s (List.mem_cons_of_mem _ hs))
      (first, report.2 ++ [sensorIter.2.multiple])
    refine ⟨sampled, ?_, fun name => ?_⟩
    · rw [List.foldlM_cons, hfirst]
      refine hrest.trans ?_
      rw [List.map_cons, List.append_assoc]
      rfl
    · rw [hsampled, hmem, or_assoc]
      simp only [List.exists_mem_cons_iff]

theorem mem_multiples {multiple : Int} : multiple ∈ multiples tzInfoMap ↔
    ∃ (name : String) (zone : ProtectorThermalZoneInfo),
      tzInfoMap[name]? = some zone ∧ zone.multiple = multiple := by
  simp only [multiples, List.mem_map, Prod.exists, Std.ExtTreeMap.mem_toList_iff_getElem?_eq_some]

theorem reportThermalZoneData_readable
    (h : ∀ (name : String) (zone : ProtectorThermalZoneInfo), tzInfoMap[name]? = some zone →
      zone.multiple ≠ 0 ∧ Readable read zone) (reportTime : Int) :
    ∃ sampled, reportThermalZoneData read tzInfoMap reportTime =
        some (sampled, multiples tzInfoMap) ∧
      ∀ (name : String) (zone : ProtectorThermalZoneInfo), tzInfoMap[name]? = some zone →
        (name ∈ sampled ↔ zone.multiple ∣ reportTime) := by
  have hsensors : ∀ sensorIter ∈ tzInfoMap.toList,
      sensorIter.2.multiple ≠ 0 ∧ Readable read sensorIter.2 := by
    intro sensorIter hmem
    exact h sensorIter.1 sensorIter.2 (Std.ExtTreeMap.mem_toList_iff_getElem?_eq_some.mp hmem)
  obtain ⟨sampled, hreport, hmem⟩ :=
    foldlM_reportZone reportTime tzInfoMap.toList hsensors (∅, [])
  refine ⟨sampled, hreport, fun name zone hzone => ?_⟩
  rw [hmem]
  constructor
  · rintro (hempty | ⟨⟨name', zone'⟩, hentry, rfl, hdvd⟩)
    · exact absurd hempty Std.ExtTreeMap.not_mem_empty
    · have hzone' := Std.ExtTreeMap.mem_toList_iff_getElem?_eq_some.mp hentry
      exact Option.some.inj (hzone'.symm.trans hzone) ▸ hdvd
  · intro hdvd
    exact .inr ⟨(name, zone), Std.ExtTreeMap.mem_toList_iff_getElem?_eq_some.mpr hzone, rfl, hdvd⟩

end Report

/-! ### The clock of a tick -/

namespace ThermalProtectorTimer

variable {t t' : ThermalProtectorTimer} {read : String → Option String}
  {tzInfoMap : ThermalZoneMap}

theorem resetCount_reportTime (t : ThermalProtectorTimer) :
    t.resetCount.reportTime =
      if t.multipleList.max? = some t.reportTime then 0 else t.reportTime := by
  rw [resetCount]
  cases t.multipleList.max? with
  | none => simp
  | some maxValue =>
    simp only [Option.some.injEq, eq_comm (a := maxValue)]
    split <;> rfl

theorem resetCount_typeTempMap (t : ThermalProtectorTimer) :
    t.resetCount.typeTempMap = t.typeTempMap := by
  rw [resetCount]
  split
  · rfl
  · split <;> rfl

/-- What a tick leaves: the report of its pass, and a counter that is one on or starts again. -/
theorem timerProvisionCallback_eq (h : t.timerProvisionCallback read tzInfoMap = some t') :
    ∃ report, reportThermalZoneData read tzInfoMap (t.reportTime + 1) = some report ∧
      t'.typeTempMap = report.1 ∧
      t'.reportTime = if report.2.max? = some (t.reportTime + 1) then 0 else t.reportTime + 1 := by
  obtain ⟨notified, hnotified, rfl⟩ := Option.map_eq_some_iff.mp h
  obtain ⟨report, hreport, rfl⟩ := Option.map_eq_some_iff.mp hnotified
  exact ⟨report, hreport, resetCount_typeTempMap _, resetCount_reportTime _⟩

/-! ### The multiples of a configuration -/

def intervals (tzInfoMap : ThermalZoneMap) : List Int :=
  tzInfoMap.toList.map fun tzIter => tzIter.2.interval

theorem mem_intervals {interval : Int} : interval ∈ intervals tzInfoMap ↔
    ∃ (name : String) (zone : ProtectorThermalZoneInfo),
      tzInfoMap[name]? = some zone ∧ zone.interval = interval := by
  simp only [intervals, List.mem_map, Prod.exists, Std.ExtTreeMap.mem_toList_iff_getElem?_eq_some]

theorem setMultiples_eq (hne : calculateMaxCd tzInfoMap ≠ 0) : setMultiples tzInfoMap =
    tzInfoMap.map fun _ zone =>
      { zone with multiple := zone.interval.tdiv (calculateMaxCd tzInfoMap) } :=
  if_neg hne

end ThermalProtectorTimer

end ThermalManager
