import ThermalManager.Observer.TempCallback

/-!
# What sensor queries answer

Queries read the stored report. Telling the listeners adds to it, with temperature zero, every type
that a listener asked for and the report does not have. So an answer is that of the latest report
exactly for the sensors that are in it or that nobody subscribed to when it came.
-/

namespace ThermalManager

namespace TempHistory

/-- The query answers true with a temperature exactly when the latest report has it and it is
valid. -/
def AnswersLatest (s : TempHistory) (type : SensorType) (name : String) : Prop :=
  ∀ (sensorInfo : ThermalSrvSensorInfo) (temp : Int),
    ((s.observer.getThermalSrvSensorInfo type sensorInfo).1 = true ∧
      (s.observer.getThermalSrvSensorInfo type sensorInfo).2.temp = temp) ↔
    ∃ report r, s.latest = some (report, r) ∧ report[name]? = some temp ∧ temp ≠ invalidTemp

/-- The latest report has the sensor, or nobody subscribed to it when the report came. -/
def ReportedIfAsked (s : TempHistory) (name : String) : Prop :=
  ∀ report r, s.latest = some (report, r) → r.Asked name → name ∈ report

/-- The stored report is the latest one, with a zero for what was asked for and is not in it. -/
structure Stores (typeMap : SensorType → Option String) (s : TempHistory) : Prop where
  typeMap : s.observer.typeMap = typeMap
  unreported : s.latest = none → s.observer.callbackinfo = ∅
  reported : ∀ report r, s.latest = some (report, r) → ∀ name : String,
    s.observer.callbackinfo[name]? =
      if name ∈ r.order.flatMap r.listOf then some (report.getD name 0) else report[name]?

variable {typeMap : SensorType → Option String} {s : TempHistory}

theorem stores_start (typeMap : SensorType → Option String) : Stores typeMap (start typeMap) where
  typeMap := rfl
  unreported _ := rfl
  reported _ _ h := by cases h

theorem Stores.step (hs : Stores typeMap s) (e : TempEvent) : Stores typeMap (s.step e) := by
  cases e with
  | report info =>
    refine { typeMap := ?typeMap, unreported := ?unreported, reported := ?reported }
    case typeMap =>
      rw [← hs.typeMap]
      show (s.observer.onReceivedSensorInfo info).1.typeMap = _
      rw [ThermalObserver.onReceivedSensorInfo, ThermalObserver.notifySensorTempChanged]
      split
      case isTrue => rfl
      case isFalse => rfl
    case unreported =>
      intro h
      cases h
    case reported =>
      intro report r h
      obtain ⟨rfl, rfl⟩ := Prod.mk.inj (Option.some.inj h)
      exact ThermalObserver.getElem?_callbackinfo s.observer info
  | subscribe typeList callback => exact ⟨hs.typeMap, hs.unreported, hs.reported⟩
  | unSubscribe callback => exact ⟨hs.typeMap, hs.unreported, hs.reported⟩
  | query type => exact hs

theorem Stores.run (typeMap : SensorType → Option String) (events : List TempEvent) :
    Stores typeMap (events.foldl TempHistory.step (start typeMap)) :=
  List.foldlRecOn events _ (stores_start typeMap) fun _ hs e _ => hs.step e

theorem Stores.query (hs : Stores typeMap s) {type : SensorType} {name : String}
    (htype : typeMap type = some name) (sensorInfo : ThermalSrvSensorInfo) (temp : Int) :
    ((s.observer.getThermalSrvSensorInfo type sensorInfo).1 = true ∧
      (s.observer.getThermalSrvSensorInfo type sensorInfo).2.temp = temp) ↔
    s.observer.callbackinfo[name]? = some temp ∧ temp ≠ invalidTemp := by
  have htypeMap : s.observer.typeMap type = some name := by
    rw [hs.typeMap]
    exact htype
  cases hstored : s.observer.callbackinfo[name]? with
  | none => simp [ThermalObserver.getThermalSrvSensorInfo, htypeMap, hstored]
  | some found =>
    simp only [ThermalObserver.getThermalSrvSensorInfo, htypeMap, hstored, Option.some.injEq]
    by_cases hvalid : found = invalidTemp
    · rw [if_pos hvalid]
      refine ⟨fun h => ?_, fun h => absurd (h.1.symm.trans hvalid) h.2⟩
      cases h.1
    · rw [if_neg hvalid]
      exact ⟨fun h => ⟨h.2, fun heq => hvalid (h.2.trans heq)⟩, fun h => ⟨rfl, h.1⟩⟩

/-- After any run, the answer for a sensor is that of the latest report exactly when that report has
the sensor or nobody subscribed to it when the report came. -/
theorem query_answers_latest_report_iff (typeMap : SensorType → Option String)
    (events : List TempEvent) (type : SensorType) (name : String)
    (htype : typeMap type = some name) :
    (events.foldl step (start typeMap)).AnswersLatest type name ↔
      (events.foldl step (start typeMap)).ReportedIfAsked name := by
  have hs := Stores.run typeMap events
  generalize events.foldl step (start typeMap) = s at hs
  have hanswer : s.AnswersLatest type name ↔ ∀ temp,
      s.observer.callbackinfo[name]? = some temp ∧ temp ≠ invalidTemp ↔
      ∃ report r, s.latest = some (report, r) ∧ report[name]? = some temp ∧ temp ≠ invalidTemp :=
    ⟨fun h temp => (hs.query htype ⟨"", 0⟩ temp).symm.trans (h ⟨"", 0⟩ temp),
      fun h sensorInfo temp => (hs.query htype sensorInfo temp).trans (h temp)⟩
  rw [hanswer]
  cases hlatest : s.latest with
  | none =>
    have hempty := hs.unreported hlatest
    refine ⟨fun _ _ _ h => ?_, fun _ temp => ?_⟩
    · rw [hlatest] at h
      cases h
    · rw [hempty]
      simp
  | some latest =>
    obtain ⟨report, r⟩ := latest
    have hstored := hs.reported report r hlatest name
    have hlast : (∀ temp, s.observer.callbackinfo[name]? = some temp ∧ temp ≠ invalidTemp ↔
        ∃ report' r', some (report, r) = some (report', r') ∧ report'[name]? = some temp ∧
          temp ≠ invalidTemp) ↔
        ∀ temp, s.observer.callbackinfo[name]? = some temp ∧ temp ≠ invalidTemp ↔
          report[name]? = some temp ∧ temp ≠ invalidTemp := by
      simp
    have hcond : s.ReportedIfAsked name ↔ (r.Asked name → name ∈ report) := by
      simp [ReportedIfAsked, hlatest]
    rw [hlast, hcond, CallbackRegistry.asked_iff, hstored]
    refine ⟨fun h hasked => ?_, fun h temp => ?_⟩
    · by_contra hmissing
      rw [if_pos hasked, Std.ExtTreeMap.getD_eq_fallback hmissing] at h
      have hzero := ((h 0).mp ⟨rfl, by decide⟩).1
      rw [Std.ExtTreeMap.getElem?_eq_none hmissing] at hzero
      cases hzero
    · split
      case isFalse => exact Iff.rfl
      case isTrue hasked => rw [Std.ExtTreeMap.getElem?_eq_some_getD (h hasked)]

/-- The types of a base section that names only the first. -/
def socOnly : SensorType → Option String
  | .soc => some "soc"
  | _ => some ""

def batteryReport : TypeTempMap := (∅ : TypeTempMap).insert "battery" 300

/-- A sensor that nobody asked for and the report does not have. -/
theorem query_answers_latest_report_soc :
    ([TempEvent.report batteryReport].foldl step (start socOnly)).AnswersLatest .soc "soc" ↔
      ([TempEvent.report batteryReport].foldl step (start socOnly)).ReportedIfAsked "soc" :=
  query_answers_latest_report_iff socOnly [.report batteryReport] .soc "soc" rfl

/-- A listener for a sensor that is not in the report: the query answers zero degrees. -/
theorem query_answers_unreported_sensor :
    ¬ ([TempEvent.subscribe ["soc"] (some 1), .report batteryReport].foldl step
      (start socOnly)).AnswersLatest .soc "soc" := by
  intro h
  obtain ⟨report, r, hlatest, hreport, -⟩ := (h ⟨"", 0⟩ 0).mp (by decide)
  obtain ⟨rfl, rfl⟩ := Prod.mk.inj (Option.some.inj hlatest)
  revert hreport
  decide

end TempHistory

end ThermalManager
