import ThermalManager.Config.ServiceConfig

/-!
# Fan faults

`fan_fault_detect.cpp`: a fan report is held against the configured thresholds of each fault. The
maps are read with `at()` only after `CheckFanSensorInfo` has found every configured sensor in the
report; `none` is the exception such a read would throw.
-/

namespace ThermalManager

def sensorInvalidValue : Int := -1
def fan : String := "fan"

def fanFaultTooSlow : Int := 1
def fanFaultTooFast : Int := 2

/-- The arguments of `WriteFanFaultEvent`. -/
structure FanFaultEvent where
  faultId : Int
  msg : String
  deriving DecidableEq

namespace FanFaultDetect

variable (report config : FanSensorInfo)

/-! ### The checks -/

def getSensorValue (map : FanSensorInfo) (name : String) : Int :=
  match map[name]? with
  | none => sensorInvalidValue
  | some value => value

def checkFanSensorInfo : Bool :=
  if getSensorValue report fan < 0 ∨ getSensorValue config fan < 0 then false
  else
    config.toList.all fun sensorInfo =>
      !decide (sensorInfo.2 < 0) && !decide (getSensorValue report sensorInfo.1 < 0)

/-- The scan of the sensors for one that is above its threshold. -/
def temperatureHigh : List (String × Int) → Option Bool
  | [] => some false
  | sensorInfo :: rest =>
      if sensorInfo.1 = fan then temperatureHigh rest
      else do
        let value ← report[sensorInfo.1]?
        if value > sensorInfo.2 then some true else temperatureHigh rest

def formatLoop (reportInfo : String) : List (String × Int) → Option String
  | [] => some reportInfo
  | sensorInfo :: rest => do
      let value ← report[sensorInfo.1]?
      formatLoop (reportInfo ++ " " ++ sensorInfo.1 ++ ":" ++ toString value) rest

def formatReportInfo : Option String := formatLoop report "Report" config.toList

/-- The two checks differ in the fault, the comparison of the fan speeds and the outcome of the
scan they ask for. -/
def checkFanSpeed (faultId : Int) (wrong : Int → Int → Bool) (whenHigh : Bool) :
    Option (List FanFaultEvent) :=
  if !checkFanSensorInfo report config then some []
  else do
    let tempHigh ← temperatureHigh report config.toList
    let reported ← report[fan]?
    let configured ← config[fan]?
    if wrong reported configured && tempHigh == whenHigh then
      let reportInfo ← formatReportInfo report config
      some [{ faultId := faultId, msg := reportInfo }]
    else some []

def checkFanTooSlow : Option (List FanFaultEvent) :=
  checkFanSpeed report config fanFaultTooSlow
    (fun reported configured => decide (reported < configured)) true

/-- `tempLow` is true when the scan finds nothing. -/
def checkFanTooFast : Option (List FanFaultEvent) :=
  checkFanSpeed report config fanFaultTooFast
    (fun reported configured => decide (reported > configured)) false

def checkFaultInfo (faultInfo : Int × FanSensorInfo) : Option (List FanFaultEvent) :=
  if faultInfo.1 = fanFaultTooSlow then checkFanTooSlow report faultInfo.2
  else if faultInfo.1 = fanFaultTooFast then checkFanTooFast report faultInfo.2
  else some []

def faultLoop : List (Int × FanSensorInfo) → Option (List FanFaultEvent)
  | [] => some []
  | faultInfo :: rest => do
      let written ← checkFaultInfo report faultInfo
      let later ← faultLoop rest
      some (written ++ later)

/-- The events a report writes. -/
def checkFanFault (fanFaultInfoMap : FanFaultInfoMap) : Option (List FanFaultEvent) :=
  faultLoop report fanFaultInfoMap.toList

/-! ### What a fault is -/

/-- The fan and every configured sensor are configured and reported with valid values. -/
structure Comparable : Prop where
  configured : ∃ speed : Int, config[fan]? = some speed ∧ 0 ≤ speed
  reported : ∃ speed : Int, report[fan]? = some speed ∧ 0 ≤ speed
  threshold_nonneg : ∀ (name : String) (threshold : Int), config[name]? = some threshold →
    0 ≤ threshold
  sensor_reported : ∀ name : String, name ∈ config →
    ∃ value : Int, report[name]? = some value ∧ 0 ≤ value

/-- Some configured sensor other than the fan reports more than its threshold. -/
def Overheated : Prop :=
  ∃ (name : String) (threshold value : Int), name ≠ fan ∧ config[name]? = some threshold ∧
    report[name]? = some value ∧ threshold < value

/-- The reported and the configured speed of the fan compare in this way. -/
def SpeedIs (wrong : Int → Int → Prop) : Prop :=
  ∃ reported configured : Int, report[fan]? = some reported ∧ config[fan]? = some configured ∧
    wrong reported configured

def TooSlow : Prop :=
  Comparable report config ∧ SpeedIs report config (· < ·) ∧ Overheated report config

def TooFast : Prop :=
  Comparable report config ∧ SpeedIs report config (· > ·) ∧ ¬ Overheated report config

/-! ### The checks are exact -/

variable {report config}

theorem getSensorValue_nonneg_iff {map : FanSensorInfo} {name : String} :
    0 ≤ getSensorValue map name ↔ ∃ value, map[name]? = some value ∧ 0 ≤ value := by
  unfold getSensorValue
  cases map[name]? with
  | none => simp [sensorInvalidValue]
  | some value => simp

theorem checkFanSensorInfo_iff : checkFanSensorInfo report config = true ↔
    Comparable report config := by
  rw [checkFanSensorInfo]
  split
  case isTrue hinvalid =>
    refine iff_of_false (by decide) fun h => ?_
    have hreported := getSensorValue_nonneg_iff.mpr h.reported
    have hconfigured := getSensorValue_nonneg_iff.mpr h.configured
    omega
  case isFalse hvalid =>
    have hreported : 0 ≤ getSensorValue report fan := by omega
    have hconfigured : 0 ≤ getSensorValue config fan := by omega
    simp only [List.all_eq_true, Bool.and_eq_true, Bool.not_eq_true', decide_eq_false_iff_not,
      not_lt]
    refine ⟨fun hall => ?_, fun h sensorInfo hmem => ?_⟩
    · refine ⟨getSensorValue_nonneg_iff.mp hconfigured, getSensorValue_nonneg_iff.mp hreported,
        fun name threshold hget => ?_, fun name hmem => ?_⟩
      · exact (hall (name, threshold) (Std.ExtTreeMap.mem_toList_iff_getElem?_eq_some.mpr hget)).1
      · obtain ⟨threshold, hget⟩ := Option.isSome_iff_exists.mp
          (Std.ExtTreeMap.mem_iff_isSome_getElem?.mp hmem)
        exact getSensorValue_nonneg_iff.mp
          (hall (name, threshold) (Std.ExtTreeMap.mem_toList_iff_getElem?_eq_some.mpr hget)).2
    · have hget := Std.ExtTreeMap.mem_toList_iff_getElem?_eq_some.mp hmem
      have hin : sensorInfo.1 ∈ config :=
        Std.ExtTreeMap.mem_iff_isSome_getElem?.mpr (Option.isSome_of_eq_some hget)
      exact ⟨h.threshold_nonneg _ _ hget,
        getSensorValue_nonneg_iff.mpr (h.sensor_reported _ hin)⟩

/-- The scan finds every value it reads when all sensors are reported. -/
theorem temperatureHigh_spec {entries : List (String × Int)}
    (hall : ∀ sensorInfo ∈ entries, ∃ value, report[sensorInfo.1]? = some value) :
    ∃ tempHigh, temperatureHigh report entries = some tempHigh ∧
      (tempHigh = true ↔ ∃ sensorInfo ∈ entries, sensorInfo.1 ≠ fan ∧
        ∃ value, report[sensorInfo.1]? = some value ∧ sensorInfo.2 < value) := by
  induction entries with
  | nil => exact ⟨false, rfl, by simp⟩
  | cons sensorInfo rest ih =>
    obtain ⟨later, hlater, hiff⟩ := ih fun e he => hall e (List.mem_cons_of_mem _ he)
    obtain ⟨value, hvalue⟩ := hall sensorInfo List.mem_cons_self
    rw [temperatureHigh]
    by_cases hfan : sensorInfo.1 = fan
    · rw [if_pos hfan]
      refine ⟨later, hlater, hiff.trans ?_⟩
      simp [hfan]
    · rw [if_neg hfan, hvalue]
      by_cases hhigh : value > sensorInfo.2
      · exact ⟨true, if_pos hhigh, iff_of_true rfl
          ⟨sensorInfo, List.mem_cons_self, hfan, value, hvalue, hhigh⟩⟩
      · refine ⟨later, (if_neg hhigh).trans hlater, hiff.trans ?_⟩
        simp [hvalue, hhigh]

theorem formatLoop_isSome {entries : List (String × Int)} (reportInfo : String)
    (hall : ∀ sensorInfo ∈ entries, ∃ value, report[sensorInfo.1]? = some value) :
    ∃ text, formatLoop report reportInfo entries = some text := by
  induction entries generalizing reportInfo with
  | nil => exact ⟨reportInfo, rfl⟩
  | cons sensorInfo rest ih =>
    obtain ⟨value, hvalue⟩ := hall sensorInfo List.mem_cons_self
    rw [formatLoop, hvalue]
    exact ih _ fun e he => hall e (List.mem_cons_of_mem _ he)

theorem Comparable.entries_reported (h : Comparable report config) :
    ∀ sensorInfo ∈ config.toList, ∃ value, report[sensorInfo.1]? = some value := by
  intro sensorInfo hmem
  have hget := Std.ExtTreeMap.mem_toList_iff_getElem?_eq_some.mp hmem
  obtain ⟨value, hvalue, -⟩ := h.sensor_reported sensorInfo.1
    (Std.ExtTreeMap.mem_iff_isSome_getElem?.mpr (Option.isSome_of_eq_some hget))
  exact ⟨value, hvalue⟩

theorem Comparable.scan (h : Comparable report config) :
    ∃ tempHigh, temperatureHigh report config.toList = some tempHigh ∧
      (tempHigh = true ↔ Overheated report config) := by
  obtain ⟨tempHigh, hscan, hhigh⟩ := temperatureHigh_spec h.entries_reported
  refine ⟨tempHigh, hscan, hhigh.trans ⟨?_, ?_⟩⟩
  · rintro ⟨sensorInfo, hmem, hfan, value, hvalue, hlt⟩
    exact ⟨_, _, value, hfan, Std.ExtTreeMap.mem_toList_iff_getElem?_eq_some.mp hmem, hvalue, hlt⟩
  · rintro ⟨name, threshold, value, hfan, hget, hvalue, hlt⟩
    exact ⟨(name, threshold), Std.ExtTreeMap.mem_toList_iff_getElem?_eq_some.mpr hget, hfan, value,
      hvalue, hlt⟩

theorem speedIs_iff {reported configured : Int} (hreported : report[fan]? = some reported)
    (hconfigured : config[fan]? = some configured) (wrong : Int → Int → Prop) :
    SpeedIs report config wrong ↔ wrong reported configured := by
  simp [SpeedIs, hreported, hconfigured]

/-- One check: no read fails, and the event is written exactly on its fault. -/
theorem checkFanSpeed_spec (report config : FanSensorInfo) (faultId : Int)
    (wrong : Int → Int → Bool) (whenHigh : Bool) :
    ∃ events, checkFanSpeed report config faultId wrong whenHigh = some events ∧
      (events.map FanFaultEvent.faultId).Sublist [faultId] ∧
      ∀ event, event ∈ events ↔ event.faultId = faultId ∧
        formatReportInfo report config = some event.msg ∧ Comparable report config ∧
        SpeedIs report config (fun reported configured => wrong reported configured = true) ∧
        (Overheated report config ↔ whenHigh = true) := by
  rw [checkFanSpeed]
  by_cases hcheck : checkFanSensorInfo report config = true
  · have hvalid := checkFanSensorInfo_iff.mp hcheck
    obtain ⟨tempHigh, hscan, hover⟩ := hvalid.scan
    obtain ⟨text, htext⟩ := formatLoop_isSome "Report" hvalid.entries_reported
    obtain ⟨configured, hconfigured, -⟩ := hvalid.configured
    obtain ⟨reported, hreported, -⟩ := hvalid.reported
    have hspeed := speedIs_iff hreported hconfigured
      fun reported configured => wrong reported configured = true
    have hformat : formatReportInfo report config = some text := htext
    have hmode : tempHigh = whenHigh ↔ (Overheated report config ↔ whenHigh = true) := by
      rw [← hover, Bool.eq_iff_iff]
    rw [hcheck, hscan, hreported, hconfigured, hformat]
    by_cases hfault : (wrong reported configured && tempHigh == whenHigh) = true
    · refine ⟨[⟨faultId, text⟩], if_pos hfault, by simp, fun event => ?_⟩
      rw [Bool.and_eq_true, beq_iff_eq, hmode] at hfault
      rw [List.mem_singleton, hspeed]
      cases event
      simp [hvalid, hfault, eq_comm]
    · refine ⟨[], if_neg hfault, by simp, fun event => iff_of_false (by simp) ?_⟩
      rintro ⟨-, -, -, hwrong, hwhen⟩
      rw [Bool.and_eq_true, beq_iff_eq, hmode] at hfault
      exact hfault ⟨hspeed.mp hwrong, hwhen⟩
  · have hinvalid := mt checkFanSensorInfo_iff.mpr hcheck
    rw [Bool.eq_false_iff.mpr hcheck]
    exact ⟨[], rfl, by simp, fun event => by simp [hinvalid]⟩

/-- The configured fault is there. -/
def Faulty (report : FanSensorInfo) (faultInfo : Int × FanSensorInfo) : Prop :=
  (faultInfo.1 = fanFaultTooSlow ∧ TooSlow report faultInfo.2) ∨
    (faultInfo.1 = fanFaultTooFast ∧ TooFast report faultInfo.2)

theorem fanFaultTooSlow_ne : fanFaultTooSlow ≠ fanFaultTooFast := by decide

theorem Faulty.comparable {faultInfo : Int × FanSensorInfo} (h : Faulty report faultInfo) :
    Comparable report faultInfo.2 := by
  rcases h with ⟨-, hslow⟩ | ⟨-, hfast⟩
  · exact hslow.1
  · exact hfast.1

theorem Faulty.tooSlow (h : Faulty report (fanFaultTooSlow, config)) : TooSlow report config := by
  rcases h with ⟨-, hslow⟩ | ⟨hfault, -⟩
  · exact hslow
  · exact absurd hfault fanFaultTooSlow_ne

theorem Faulty.tooFast (h : Faulty report (fanFaultTooFast, config)) : TooFast report config := by
  rcases h with ⟨hfault, -⟩ | ⟨-, hfast⟩
  · exact absurd hfault fanFaultTooSlow_ne.symm
  · exact hfast

theorem checkFaultInfo_spec (report : FanSensorInfo) (faultInfo : Int × FanSensorInfo) :
    ∃ events, checkFaultInfo report faultInfo = some events ∧
      (events.map FanFaultEvent.faultId).Sublist [faultInfo.1] ∧
      ∀ event, event ∈ events ↔ event.faultId = faultInfo.1 ∧
        formatReportInfo report faultInfo.2 = some event.msg ∧ Faulty report faultInfo := by
  have hne := fanFaultTooSlow_ne.symm
  obtain ⟨faultId, config⟩ := faultInfo
  rw [checkFaultInfo]
  by_cases hslow : faultId = fanFaultTooSlow
  · subst hslow
    obtain ⟨events, heq, hsub, hmem⟩ := checkFanSpeed_spec report config
      fanFaultTooSlow (fun reported configured => decide (reported < configured)) true
    refine ⟨events, (if_pos rfl).trans heq, hsub, fun event => (hmem event).trans ?_⟩
    simp [Faulty, TooSlow, hne.symm]
  · by_cases hfast : faultId = fanFaultTooFast
    · subst hfast
      obtain ⟨events, heq, hsub, hmem⟩ := checkFanSpeed_spec report
        config fanFaultTooFast
        (fun reported configured => decide (reported > configured)) false
      refine ⟨events, (if_neg hne).trans ((if_pos rfl).trans heq), hsub, fun event =>
        (hmem event).trans ?_⟩
      simp [Faulty, TooFast, hne]
    · refine ⟨[], (if_neg hslow).trans (if_neg hfast), by simp, fun event => ?_⟩
      simp [Faulty, hslow, hfast]

theorem faultLoop_spec (report : FanSensorInfo) (entries : List (Int × FanSensorInfo)) :
    ∃ events, faultLoop report entries = some events ∧
      (events.map FanFaultEvent.faultId).Sublist (entries.map Prod.fst) ∧
      ∀ event, event ∈ events ↔ ∃ config, (event.faultId, config) ∈ entries ∧
        formatReportInfo report config = some event.msg ∧
        Faulty report (event.faultId, config) := by
  induction entries with
  | nil => exact ⟨[], rfl, List.Sublist.refl _, by simp⟩
  | cons faultInfo rest ih =>
    obtain ⟨written, hwritten, hsub, hmem⟩ := checkFaultInfo_spec report faultInfo
    obtain ⟨later, hlater, hsubLater, hmemLater⟩ := ih
    refine ⟨written ++ later, ?_, ?_, fun event => ?_⟩
    · rw [faultLoop, hwritten, hlater]
      rfl
    · rw [List.map_append]
      exact hsub.append hsubLater
    · rw [List.mem_append, hmem, hmemLater]
      constructor
      · rintro (⟨hid, hmsg, hfault⟩ | ⟨config, hin, hmsg, hfault⟩)
        · refine ⟨faultInfo.2, List.mem_cons.mpr (Or.inl ?_), hmsg, hid ▸ hfault⟩
          rw [hid]
        · exact ⟨config, List.mem_cons_of_mem _ hin, hmsg, hfault⟩
      · rintro ⟨config, hin, hmsg, hfault⟩
        rcases List.mem_cons.mp hin with heq | hin
        · subst heq
          exact Or.inl ⟨rfl, hmsg, hfault⟩
        · exact Or.inr ⟨config, hin, hmsg, hfault⟩

theorem mem_checkFanFault (fanFaultInfoMap : FanFaultInfoMap) (report : FanSensorInfo) :
    ∃ events, checkFanFault report fanFaultInfoMap = some events ∧
      (events.map FanFaultEvent.faultId).Nodup ∧
      ∀ event, event ∈ events ↔ ∃ config, fanFaultInfoMap[event.faultId]? = some config ∧
        formatReportInfo report config = some event.msg ∧
        Faulty report (event.faultId, config) := by
  obtain ⟨events, heq, hsub, hmem⟩ := faultLoop_spec report fanFaultInfoMap.toList
  refine ⟨events, heq, ?_, fun event => ?_⟩
  · rw [Std.ExtTreeMap.map_fst_toList_eq_keys] at hsub
    exact hsub.nodup Std.ExtTreeMap.nodup_keys
  · rw [hmem]
    simp only [Std.ExtTreeMap.mem_toList_iff_getElem?_eq_some]

/-- **Fan fault detection is exact and safe.** -/
theorem checkFanFault_exact (fanFaultInfoMap : FanFaultInfoMap) (report : FanSensorInfo) :
    ∃ events, checkFanFault report fanFaultInfoMap = some events ∧
      ((∃ event ∈ events, event.faultId = fanFaultTooSlow) ↔
        ∃ config, fanFaultInfoMap[fanFaultTooSlow]? = some config ∧ TooSlow report config) ∧
      ((∃ event ∈ events, event.faultId = fanFaultTooFast) ↔
        ∃ config, fanFaultInfoMap[fanFaultTooFast]? = some config ∧ TooFast report config) ∧
      (∀ event ∈ events, event.faultId = fanFaultTooSlow ∨ event.faultId = fanFaultTooFast) ∧
      ∀ faultId, events.countP (fun event => event.faultId == faultId) ≤ 1 := by
  obtain ⟨events, heq, hnodup, hmem⟩ := mem_checkFanFault fanFaultInfoMap report
  have hwritten : ∀ faultId config, fanFaultInfoMap[faultId]? = some config →
      Faulty report (faultId, config) → ∃ event ∈ events, event.faultId = faultId := by
    intro faultId config hget hfault
    obtain ⟨text, htext⟩ := formatLoop_isSome "Report"
      hfault.comparable.entries_reported
    exact ⟨⟨faultId, text⟩, (hmem _).mpr ⟨config, hget, htext, hfault⟩, rfl⟩
  refine ⟨events, heq, ⟨?_, ?_⟩, ⟨?_, ?_⟩, fun event hin => ?_, fun faultId => ?_⟩
  · rintro ⟨event, hin, hid⟩
    obtain ⟨config, hget, -, hfault⟩ := (hmem event).mp hin
    rw [hid] at hget hfault
    exact ⟨config, hget, hfault.tooSlow⟩
  · rintro ⟨config, hget, hslow⟩
    exact hwritten _ config hget (Or.inl ⟨rfl, hslow⟩)
  · rintro ⟨event, hin, hid⟩
    obtain ⟨config, hget, -, hfault⟩ := (hmem event).mp hin
    rw [hid] at hget hfault
    exact ⟨config, hget, hfault.tooFast⟩
  · rintro ⟨config, hget, hfast⟩
    exact hwritten _ config hget (Or.inr ⟨rfl, hfast⟩)
  · obtain ⟨config, -, -, hfault⟩ := (hmem event).mp hin
    exact hfault.imp And.left And.left
  · have hcount := List.nodup_iff_count.mp hnodup faultId
    rw [List.count, List.countP_map] at hcount
    exact hcount

end FanFaultDetect

end ThermalManager
