import ThermalManager.Lib.Window
import ThermalManager.Observer.RiseRate
import ThermalManager.Policy.SensorCluster

/-!
# The service subscriber

`thermal_service_subscriber.cpp` keeps the last temperatures of every sensor, the newest in front,
and the last rise rates, the newest behind. A report pushes the temperatures it has and then one
rate for every sensor that was ever reported. The slope of a full history is a parameter here:
`slopeRate` is what the source computes, up to the rounding to `double`.
-/

namespace ThermalManager

open Window

/-! ### The source -/

/-- The members of the subscriber; what it tells about rates is the part the clusters read. -/
structure SubscriberState extends ThermalServiceSubscriber where
  typeTempMap : TypeTempMap := ∅
  historyCount : Nat := 0
  typeHistory : Map String (List Int) := ∅

namespace SubscriberState

def constructed : SubscriberState where
  sensorsRate := ∅
  rateCount := 3

/-- `Init` reads the two counts of the base information. -/
def init (s : SubscriberState) (historyTempCount riseRateCount : Nat) : SubscriberState :=
  { s with
    historyCount := historyTempCount
    rateCount := if riseRateCount ≤ 0 then s.rateCount else riseRateCount }

/-- A temperature into the history of its sensor. -/
def pushTemp (historyCount : Nat) (history : Option (List Int)) (temp : Int) : List Int :=
  match history with
  | some history => pushFront historyCount temp history
  | none => [temp]

def pushRate (rateCount : Nat) (rates : Option (List Double)) (rate : Double) : List Double :=
  match rates with
  | some rates => pushBack rateCount rates rate
  | none => [rate]

variable (slope : List Int → Double)

def riseRate (historyCount : Nat) (history : List Int) : Double :=
  getThermalRiseRate (.finite 0) slope historyCount history

/-- The first loop of `SetHistoryTypeTempMap`. -/
def recordTemps (s : SubscriberState) (typeTempMap : TypeTempMap) : SubscriberState :=
  { s with
    typeHistory := updateEach (pushTemp s.historyCount) typeTempMap.toList s.typeHistory }

/-- The second loop, over all sensors that have a history. -/
def recordRates (s : SubscriberState) : SubscriberState :=
  { s with
    sensorsRate := updateEach
      (fun rates history => pushRate s.rateCount rates (riseRate slope s.historyCount history))
      s.typeHistory.toList s.sensorsRate }

def setHistoryTypeTempMap (s : SubscriberState) (typeTempMap : TypeTempMap) : SubscriberState :=
  if s.historyCount ≤ 1 then s else (s.recordTemps typeTempMap).recordRates slope

/-- What `OnTemperatureChanged` has done when it notifies the observer. -/
def receive (s : SubscriberState) (typeTempMap : TypeTempMap) : SubscriberState :=
  { s with typeTempMap }

/-- `OnTemperatureChanged`, without what the observer does in it. -/
def onTemperatureChanged (s : SubscriberState) (typeTempMap : TypeTempMap) : SubscriberState :=
  if typeTempMap.isEmpty then s
  else
    let s := s.receive typeTempMap
    s.setHistoryTypeTempMap slope s.typeTempMap

/-! ### The windows -/

def tempsOf (type : String) (reports : List TypeTempMap) : List Int :=
  reports.filterMap fun report => report[type]?

/-- The last temperatures of a sensor, the newest in front. -/
def historyOf (historyCount : Nat) (type : String) (reports : List TypeTempMap) : List Int :=
  (tempsOf type reports).reverse.take historyCount

/-- The rate of a sensor as of the last of the reports. -/
def rateAsOf (historyCount : Nat) (type : String) (reports : List TypeTempMap) : Double :=
  if (historyOf historyCount type reports).length < historyCount then .finite 0
  else slope (historyOf historyCount type reports)

/-- The rates of a sensor as of each report from its first appearance on. -/
def ratesOf (historyCount : Nat) (type : String) (reports : List TypeTempMap) : List Double :=
  (reports.inits.filter fun prior => !(tempsOf type prior).isEmpty).map
    (rateAsOf slope historyCount type)

variable {slope} {s : SubscriberState}

theorem getElem?_recordTemps (typeTempMap : TypeTempMap) (type : String) :
    (s.recordTemps typeTempMap).typeHistory[type]? =
      (typeTempMap[type]?).elim s.typeHistory[type]? fun temp =>
        some (pushTemp s.historyCount s.typeHistory[type]? temp) :=
  getElem?_updateEach_toList typeTempMap

theorem getElem?_recordRates (type : String) :
    (s.recordRates slope).sensorsRate[type]? =
      (s.typeHistory[type]?).elim s.sensorsRate[type]? fun history =>
        some (pushRate s.rateCount s.sensorsRate[type]?
          (riseRate slope s.historyCount history)) :=
  getElem?_updateEach_toList s.typeHistory

theorem tempsOf_append_singleton (type : String) (reports : List TypeTempMap)
    (report : TypeTempMap) :
    tempsOf type (reports ++ [report]) = tempsOf type reports ++ (report[type]?).toList := by
  rw [tempsOf, List.filterMap_append, tempsOf, List.filterMap_cons, List.filterMap_nil]
  cases report[type]? <;> rfl

theorem ratesOf_append_singleton (historyCount : Nat) (type : String)
    (reports : List TypeTempMap) (report : TypeTempMap) :
    ratesOf slope historyCount type (reports ++ [report]) =
      ratesOf slope historyCount type reports ++
        if (tempsOf type (reports ++ [report])).isEmpty then []
        else [rateAsOf slope historyCount type (reports ++ [report])] := by
  have hinits : (reports ++ [report]).inits = reports.inits ++ [reports ++ [report]] := by
    rw [List.inits_append]
    rfl
  rw [ratesOf, hinits, List.filter_append, List.map_append, ← ratesOf]
  congr 1
  by_cases hnew : tempsOf type (reports ++ [report]) = []
  · simp [hnew]
  · simp [hnew]

theorem ratesOf_eq_nil {historyCount : Nat} {type : String} {reports : List TypeTempMap}
    (h : tempsOf type reports = []) : ratesOf slope historyCount type reports = [] := by
  rw [ratesOf, List.map_eq_nil_iff, List.filter_eq_nil_iff]
  intro prior hprior
  obtain ⟨later, rfl⟩ := (List.mem_inits prior reports).mp hprior
  rw [tempsOf, List.filterMap_append, List.append_eq_nil_iff] at h
  rw [tempsOf, h.1]
  decide

/-- The subscriber holds the windows of the reports. -/
structure Windows (slope : List Int → Double) (historyCount rateCount : Nat)
    (s : SubscriberState) (reports : List TypeTempMap) : Prop where
  historyCount_eq : s.historyCount = historyCount
  rateCount_eq : s.rateCount = rateCount
  history : ∀ type : String, s.typeHistory[type]? =
    if tempsOf type reports = [] then none else some (historyOf historyCount type reports)
  rates : ∀ type : String, s.sensorsRate[type]? =
    if tempsOf type reports = [] then none
    else some (lastOf rateCount (ratesOf slope historyCount type reports))

namespace Windows

variable {historyCount rateCount : Nat} {reports : List TypeTempMap}

theorem start (slope : List Int → Double) (historyTempCount riseRateCount : Nat) :
    Windows slope historyTempCount (constructed.init historyTempCount riseRateCount).rateCount
      (constructed.init historyTempCount riseRateCount) [] where
  historyCount_eq := rfl
  rateCount_eq := rfl
  history _ := Std.ExtTreeMap.getElem?_empty
  rates _ := Std.ExtTreeMap.getElem?_empty

theorem receive (h : Windows slope historyCount rateCount s reports) (report : TypeTempMap) :
    Windows slope historyCount rateCount (s.receive report) reports :=
  ⟨h.historyCount_eq, h.rateCount_eq, h.history, h.rates⟩

theorem history_recordTemps (h : Windows slope historyCount rateCount s reports)
    (hhistory : 1 < historyCount) (report : TypeTempMap) (type : String) :
    (s.recordTemps report).typeHistory[type]? =
      if tempsOf type (reports ++ [report]) = [] then none
      else some (historyOf historyCount type (reports ++ [report])) := by
  rw [getElem?_recordTemps, h.history, h.historyCount_eq, historyOf, historyOf,
    tempsOf_append_singleton]
  cases report[type]? with
  | none => rw [Option.elim_none, Option.toList_none, List.append_nil]
  | some temp =>
    have hne : tempsOf type reports ++ [temp] ≠ [] := by simp
    rw [Option.elim_some, Option.toList_some, if_neg hne, List.reverse_append,
      List.reverse_singleton, List.singleton_append]
    by_cases hnew : tempsOf type reports = []
    · rw [if_pos hnew, hnew, pushTemp, List.reverse_nil, List.take_of_length_le (by simp; omega)]
    · rw [if_neg hnew, pushTemp, pushFront_take (by omega)]

/-- **A report moves both windows on.** -/
theorem setHistoryTypeTempMap (h : Windows slope historyCount rateCount s reports)
    (hhistory : 1 < historyCount) (hrate : 1 ≤ rateCount) (report : TypeTempMap) :
    Windows slope historyCount rateCount (s.setHistoryTypeTempMap slope report)
      (reports ++ [report]) := by
  have hhistories := h.history_recordTemps hhistory report
  rw [SubscriberState.setHistoryTypeTempMap, h.historyCount_eq, if_neg (by omega)]
  refine ⟨h.historyCount_eq, h.rateCount_eq, hhistories, fun type => ?_⟩
  rw [getElem?_recordRates, hhistories]
  show (if _ then none else _ : Option (List Int)).elim s.sensorsRate[type]? (fun history =>
    some (pushRate s.rateCount s.sensorsRate[type]? (riseRate slope s.historyCount history))) = _
  rw [h.rates, h.rateCount_eq, h.historyCount_eq]
  by_cases hnew : tempsOf type (reports ++ [report]) = []
  · have hold : tempsOf type reports = [] := by
      rw [tempsOf_append_singleton, List.append_eq_nil_iff] at hnew
      exact hnew.1
    rw [if_pos hnew, if_pos hnew, if_pos hold]
    rfl
  · have hrates : ratesOf slope historyCount type (reports ++ [report]) = _ :=
      ratesOf_append_singleton historyCount type reports report
    rw [if_neg (by simpa using hnew)] at hrates
    rw [if_neg hnew, if_neg hnew, Option.elim_some, hrates]
    by_cases hold : tempsOf type reports = []
    · rw [if_pos hold, ratesOf_eq_nil hold, pushRate, lastOf, List.nil_append,
        List.length_singleton, Nat.sub_eq_zero_of_le hrate, List.drop_zero]
      rfl
    · rw [if_neg hold, pushRate, pushBack_lastOf hrate]
      rfl

/-- A report without a temperature is dropped before it reaches the windows. -/
theorem onTemperatureChanged (h : Windows slope historyCount rateCount s reports)
    (hhistory : 1 < historyCount) (hrate : 1 ≤ rateCount) (report : TypeTempMap) :
    Windows slope historyCount rateCount (s.onTemperatureChanged slope report)
      (reports ++ [report].filter fun report => !report.isEmpty) := by
  rw [SubscriberState.onTemperatureChanged]
  by_cases hempty : report.isEmpty = true
  · rw [if_pos hempty, List.filter_cons_of_neg (by simp [hempty]), List.filter_nil,
      List.append_nil]
    exact h
  · rw [if_neg hempty, List.filter_cons_of_pos (by simp [hempty]), List.filter_nil]
    exact (h.receive report).setHistoryTypeTempMap hhistory hrate report

theorem foldl {step : SubscriberState → TypeTempMap → SubscriberState} {kept : TypeTempMap → Bool}
    (hstep : ∀ {s : SubscriberState} {reports : List TypeTempMap} (report : TypeTempMap),
      Windows slope historyCount rateCount s reports →
        Windows slope historyCount rateCount (step s report) (reports ++ [report].filter kept))
    (h : Windows slope historyCount rateCount s reports) (later : List TypeTempMap) :
    Windows slope historyCount rateCount (later.foldl step s) (reports ++ later.filter kept) := by
  induction later generalizing s reports with
  | nil =>
    rw [List.filter_nil, List.append_nil]
    exact h
  | cons report rest ih =>
    have hnext := ih (hstep report h)
    rw [List.append_assoc, ← List.filter_append, List.singleton_append] at hnext
    exact hnext

end Windows

theorem one_le_rateCount_init (historyTempCount riseRateCount : Nat) :
    1 ≤ (constructed.init historyTempCount riseRateCount).rateCount := by
  rw [init]
  show 1 ≤ if riseRateCount ≤ 0 then 3 else riseRateCount
  split <;> omega

/-- **History and rate windows.** -/
theorem windows_of_reports (slope : List Int → Double) {historyTempCount : Nat}
    (hhistory : 1 < historyTempCount) (riseRateCount : Nat) (reports : List TypeTempMap) :
    let started := constructed.init historyTempCount riseRateCount
    Windows slope historyTempCount started.rateCount
        (reports.foldl (SubscriberState.setHistoryTypeTempMap slope) started) reports ∧
      Windows slope historyTempCount started.rateCount
        (reports.foldl (onTemperatureChanged slope) started)
        (reports.filter fun report => !report.isEmpty) := by
  have hrate := one_le_rateCount_init historyTempCount riseRateCount
  have hstart := Windows.start slope historyTempCount riseRateCount
  refine ⟨?_, ?_⟩
  · have hall : Windows slope historyTempCount _ _ ([] ++ reports.filter fun _ => true) :=
      hstart.foldl (fun report h => h.setHistoryTypeTempMap hhistory hrate report) reports
    rw [List.filter_true] at hall
    exact hall
  · exact hstart.foldl (fun report h => h.onTemperatureChanged hhistory hrate report) reports

/-- Two samples in the history and the default of three rates, over a report and a pause. -/
theorem windows_of_two_reports :
    Windows (fun _ => .finite 1) 2 3
        ([(∅ : TypeTempMap).insert "soc" 30000, ∅].foldl
          (SubscriberState.setHistoryTypeTempMap fun _ => .finite 1) (constructed.init 2 0))
        [(∅ : TypeTempMap).insert "soc" 30000, ∅] ∧
      Windows (fun _ => .finite 1) 2 3
        ([(∅ : TypeTempMap).insert "soc" 30000, ∅].foldl
          (onTemperatureChanged fun _ => .finite 1) (constructed.init 2 0))
        ([(∅ : TypeTempMap).insert "soc" 30000, ∅].filter fun report => !report.isEmpty) :=
  windows_of_reports (fun _ => .finite 1) (by decide) 0 [(∅ : TypeTempMap).insert "soc" 30000, ∅]

end SubscriberState

end ThermalManager
