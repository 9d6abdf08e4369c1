import ThermalManager.Observer.Subscriber
import ThermalManager.Policy.Reporting

/-!
# When the rates are pushed

`OnTemperatureChanged` notifies the observer, whose callback updates the levels of the clusters,
and pushes the temperatures and rates of the report only afterwards. So a cluster finds the rate
windows of the reports before. What it finds is the rate of the present report exactly when the
report leaves the rate what it was.
-/

namespace ThermalManager

open Window SubscriberState

/-! ### The source -/

/-- A report, and what the service is while it is handled. -/
structure TemperatureReport where
  typeTempMap : TypeTempMap
  env : RoundEnv
  actionMap : ThermalActionMap

structure TemperatureService where
  subscriber : SubscriberState
  policy : ReportingPolicy

/-- `OnTemperatureChanged` with the call of `OnSensorInfoReported` that `NotifyObserver` makes
through the observer's callback. -/
def TemperatureService.onTemperatureChanged (slope : List Int → Double) (simulationXml : Bool)
    (service : TemperatureService) (report : TemperatureReport) : Outcome TemperatureService :=
  if report.typeTempMap.isEmpty then .done service
  else do
    let subscriber := service.subscriber.receive report.typeTempMap
    let policy ← service.policy.afterReport simulationXml
      { info := subscriber.typeTempMap
        subscriber := subscriber.toThermalServiceSubscriber
        env := report.env
        actionMap := report.actionMap }
    .done
      { subscriber := subscriber.setHistoryTypeTempMap slope subscriber.typeTempMap
        policy }

/-! ### What the clusters see -/

/-- While the report is evaluated, the newest rate of each reported sensor is the rate of its
history with the report. -/
def SeesReport (slope : List Int → Double) (s : SubscriberState) (report : TypeTempMap) : Prop :=
  ∀ (type : String) (temp : Int), report[type]? = some temp →
    ∃ (history : List Int) (rates : List Double),
      ((s.receive report).recordTemps report).typeHistory[type]? = some history ∧
        (s.receive report).sensorsRate[type]? = some rates ∧
        rates.getLast? = some (riseRate slope s.historyCount history)

/-- Each reported sensor was reported before, and its rate with the new temperature is its rate
without it. -/
def KeepsRates (slope : List Int → Double) (s : SubscriberState) (report : TypeTempMap) : Prop :=
  ∀ (type : String) (temp : Int), report[type]? = some temp →
    ∃ history : List Int, s.typeHistory[type]? = some history ∧
      riseRate slope s.historyCount (pushTemp s.historyCount (some history) temp) =
        riseRate slope s.historyCount history

/-- Something holds of every report and the subscriber it meets. -/
def AtEachReport (good : SubscriberState → TypeTempMap → Prop) (slope : List Int → Double)
    (simulationXml : Bool) (service : TemperatureService) (reports : List TemperatureReport) :
    Prop :=
  ∀ before report after, reports = before ++ report :: after → ∀ reached,
    before.foldlM (TemperatureService.onTemperatureChanged slope simulationXml) service =
      .done reached → good reached.subscriber report.typeTempMap

section Evaluation

variable {slope : List Int → Double} {historyCount rateCount : Nat} {s : SubscriberState}
  {priors : List TypeTempMap}

theorem getLast?_lastOf (hrate : 1 ≤ rateCount) {type : String}
    (hprior : tempsOf type priors ≠ []) :
    (lastOf rateCount (ratesOf slope historyCount type priors)).getLast? =
      some (rateAsOf slope historyCount type priors) := by
  rcases List.eq_nil_or_concat priors with rfl | ⟨before, last, rfl⟩
  · exact absurd rfl hprior
  · rw [List.concat_eq_append, ratesOf_append_singleton, if_neg (by simpa using hprior), lastOf,
      List.getLast?_drop, List.length_append, List.length_singleton, if_neg (by omega),
      List.getLast?_concat]

theorem SubscriberState.Windows.seesReport_iff (h : Windows slope historyCount rateCount s priors)
    (hrate : 1 ≤ rateCount) (report : TypeTempMap) :
    SeesReport slope s report ↔ KeepsRates slope s report := by
  refine forall_congr' fun type => forall_congr' fun temp => imp_congr_right fun hreported => ?_
  have hpushed : ((s.receive report).recordTemps report).typeHistory[type]? =
      some (pushTemp s.historyCount s.typeHistory[type]? temp) := by
    rw [getElem?_recordTemps, hreported]
    rfl
  show (∃ history rates, _ ∧ s.sensorsRate[type]? = some rates ∧ _) ↔ _
  rw [hpushed, h.history, h.rates]
  by_cases hprior : tempsOf type priors = []
  · simp [hprior]
  · have hlast : (lastOf rateCount (ratesOf slope historyCount type priors)).getLast? =
        some (rateAsOf slope historyCount type priors) := getLast?_lastOf hrate hprior
    rw [if_neg hprior, if_neg hprior, h.historyCount_eq]
    constructor
    · rintro ⟨_, _, hhistory, hrates, hnewest⟩
      obtain rfl := Option.some.inj hhistory
      obtain rfl := Option.some.inj hrates
      rw [hlast] at hnewest
      exact ⟨_, rfl, (Option.some.inj hnewest).symm⟩
    · rintro ⟨_, hhistory, hkeeps⟩
      obtain rfl := Option.some.inj hhistory
      refine ⟨_, _, rfl, rfl, ?_⟩
      rw [hlast, hkeeps]
      rfl

end Evaluation

/-! ### Runs -/

section Run

variable {slope : List Int → Double} {simulationXml : Bool} {service reached : TemperatureService}
  {historyCount rateCount : Nat} {priors : List TypeTempMap}

/-- Whatever the policy makes of a report, the subscriber moves on as it does alone. -/
theorem TemperatureService.onTemperatureChanged_subscriber {report : TemperatureReport}
    (h : service.onTemperatureChanged slope simulationXml report = .done reached) :
    reached.subscriber = service.subscriber.onTemperatureChanged slope report.typeTempMap := by
  rw [onTemperatureChanged] at h
  rw [SubscriberState.onTemperatureChanged]
  split at h
  case isTrue hempty =>
    cases h
    rw [if_pos hempty]
  case isFalse hempty =>
    obtain ⟨policy, -, hdone⟩ := Outcome.bind_eq_done_iff.mp h
    cases hdone
    rw [if_neg hempty]

theorem windows_of_run (h : Windows slope historyCount rateCount service.subscriber priors)
    (hhistory : 1 < historyCount) (hrate : 1 ≤ rateCount) {reports : List TemperatureReport}
    (hrun : reports.foldlM (TemperatureService.onTemperatureChanged slope simulationXml) service =
      .done reached) :
    ∃ priors', Windows slope historyCount rateCount reached.subscriber priors' := by
  induction reports generalizing service priors with
  | nil =>
    cases hrun
    exact ⟨priors, h⟩
  | cons report rest ih =>
    rw [List.foldlM_cons] at hrun
    obtain ⟨mid, hmid, hrest⟩ := Outcome.bind_eq_done_iff.mp hrun
    have hnext := h.onTemperatureChanged hhistory hrate report.typeTempMap
    rw [← TemperatureService.onTemperatureChanged_subscriber hmid] at hnext
    exact ih hnext hrest

end Run

/-- **The clusters see every report exactly when every report keeps the rates.** -/
theorem seesReport_iff_keepsRates (slope : List Int → Double) (simulationXml : Bool)
    (policy : ReportingPolicy) {historyTempCount : Nat} (hhistory : 1 < historyTempCount)
    (riseRateCount : Nat) (reports : List TemperatureReport) :
    AtEachReport (SeesReport slope) slope simulationXml
        ⟨constructed.init historyTempCount riseRateCount, policy⟩ reports ↔
      AtEachReport (KeepsRates slope) slope simulationXml
        ⟨constructed.init historyTempCount riseRateCount, policy⟩ reports := by
  have hrate := one_le_rateCount_init historyTempCount riseRateCount
  refine forall₂_congr fun before report => forall₂_congr fun after _ =>
    forall₂_congr fun reached hrun => ?_
  obtain ⟨priors, hwindows⟩ := windows_of_run (Windows.start slope _ _) hhistory hrate hrun
  exact hwindows.seesReport_iff hrate _

def noPolicy : ReportingPolicy where
  clusterLevelMap := ∅
  clusterPolicyMap := ∅
  sensorClusterMap := ∅

def socReport (temp : Int) : TemperatureReport where
  typeTempMap := (∅ : TypeTempMap).insert "soc" temp
  env := ⟨∅, fun _ => .byKey, fun _ _ => ⟨false, 0, 0, 0, 0⟩, fun _ id => id⟩
  actionMap := ∅

/-- The exact rate, as far as `int32_t` carries it. -/
def exactSlope (history : List Int) : Double := (slopeRate history).elim .nan .finite

theorem seesReport_iff_two_reports :
    AtEachReport (SeesReport exactSlope) exactSlope false ⟨constructed.init 2 0, noPolicy⟩
        [socReport 30000, socReport 36000] ↔
      AtEachReport (KeepsRates exactSlope) exactSlope false ⟨constructed.init 2 0, noPolicy⟩
        [socReport 30000, socReport 36000] :=
  seesReport_iff_keepsRates exactSlope false noPolicy (by decide) 0 _

/-- The second report rises by six degrees in five seconds, and the window still says zero. -/
theorem second_report_unseen :
    ¬ AtEachReport (SeesReport exactSlope) exactSlope false ⟨constructed.init 2 0, noPolicy⟩
      [socReport 30000, socReport 36000] := by
  intro h
  obtain ⟨history, rates, hhistory, hrates, hnewest⟩ := h [socReport 30000] (socReport 36000) []
    rfl _ rfl "soc" 36000 (by decide)
  obtain rfl : [36000, 30000] = history := Option.some.inj (Eq.trans (by decide) hhistory)
  obtain rfl : [Double.finite 0] = rates := Option.some.inj (Eq.trans (by decide) hrates)
  exact absurd hnewest (by decide +kernel)

end ThermalManager
