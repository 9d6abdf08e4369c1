import ThermalManager.Service.Evaluation

/-!
# Levels over the life of the service

Which reports get through depends on the switch of the shell only. They are what the windows of the
subscriber hold, and with the updates that are decided at once they are what the clusters are
evaluated with. Each cluster ends where it would end alone.
-/

namespace ThermalManager

open Outcome

namespace ThermalService

variable (slope : List Int → Double) (build : ServiceBuild)

/-! ### What a run brings -/

def acceptedReports : Bool → List ServiceEvent → List TypeTempMap
  | _, [] => []
  | isTempReport, e :: events =>
      ((reportOf build isTempReport e).map Prod.fst).toList ++
        acceptedReports ((switchOf build e).getD isTempReport) events

/-- What the clusters are evaluated with. -/
def evaluations (s : ThermalService) (e : ServiceEvent) : List Report :=
  ((s.evaluation build e).map fun now =>
    { states := now.2.stateMachineMap
      subscriber := s.subscriber.toThermalServiceSubscriber
      typeTempInfo := now.1 : Report }).toList

def evaluationsOf (s : ThermalService) (events : List ServiceEvent) : List Report :=
  trace (step slope build) (evaluations build) s events

variable {slope build} {s s' : ThermalService}

theorem atLevels_step (h : AtLevels s.policy.sensorClusterMap) {e : ServiceEvent}
    (hstep : s.step slope build e = .done s') : AtLevels s'.policy.sensorClusterMap := by
  rw [(step_moved h hstep).policy]
  cases s.evaluation build e with
  | none => exact h
  | some now =>
    have hstart : AtLevels { s.policy with typeTempMap := now.1 }.sensorClusterMap := h
    exact ReportingPolicy.atLevels_evaluated hstart _ _

theorem clusterPolicyMap_step (h : AtLevels s.policy.sensorClusterMap) {e : ServiceEvent}
    (hstep : s.step slope build e = .done s') :
    s'.policy.clusterPolicyMap = s.policy.clusterPolicyMap := by
  rw [(step_moved h hstep).policy]
  cases s.evaluation build e <;> rfl

/-- The reports that get through are the reports of the steps. -/
theorem trace_reports (h : AtLevels s.policy.sensorClusterMap) {events : List ServiceEvent}
    (hrun : events.foldlM (step slope build) s = .done s') :
    trace (step slope build)
        (fun s e => ((reportOf build s.isTempReport e).map Prod.fst).toList) s events =
      acceptedReports build s.isTempReport events := by
  induction events generalizing s with
  | nil => rfl
  | cons e rest ih =>
    obtain ⟨mid, hmid, hrest⟩ := foldlM_cons_eq_done_iff.mp hrun
    rw [trace_cons hmid, ih (atLevels_step h hmid) hrest, (step_moved h hmid).isTempReport]
    rfl

/-- The service has started from a configuration that was loaded. -/
structure Booted (config : ServiceConfig) (started : Started) : Prop where
  stored : ∃ conv uninit, StoredConfig conv uninit config
  initialised : ∃ observer, startUp config observer = .done started

/-- After that the events have happened one after the other, each of them returning. -/
structure Served (slope : List Int → Double) (build : ServiceBuild) (config : ServiceConfig)
    (started : Started) (registered : Map String (ActionClass × Bool)) (socSet : List String)
    (events : List ServiceEvent) (s : ThermalService) : Prop extends Booted config started where
  run : events.foldlM (step slope build) (start config started registered socSet) = .done s

section Served

variable {config : ServiceConfig} {started : Started}
  {registered : Map String (ActionClass × Bool)} {socSet : List String}
  {events : List ServiceEvent}

theorem startUp_policy {observer : ThermalObserver}
    (h : startUp config observer = .done started) : started.policy = .initial config := by
  rcases startUp_cases config observer with ⟨baseInfo, found, -, hstart, hpolicy⟩ |
    ⟨-, hstart⟩ | ⟨-, hstart⟩
  · rw [hstart] at h
    cases h
    exact hpolicy
  · rw [hstart] at h
    cases h
  · rw [hstart] at h
    cases h

theorem Booted.policy (h : Booted config started) : started.policy = .initial config := by
  obtain ⟨observer, hstart⟩ := h.initialised
  exact startUp_policy hstart

theorem Booted.atLevels (h : Booted config started) :
    AtLevels (start config started registered socSet).policy.sensorClusterMap := by
  obtain ⟨conv, uninit, hstored⟩ := h.stored
  show AtLevels started.policy.sensorClusterMap
  rw [h.policy]
  exact hstored.atLevels

theorem Served.start_policy
    (h : Served slope build config started registered socSet events s) :
    (start config started registered socSet).policy = .initial config :=
  h.policy

theorem Served.last_step {e : ServiceEvent}
    (h : Served slope build config started registered socSet events s)
    (h' : Served slope build config started registered socSet (events ++ [e]) s') :
    s.step slope build e = .done s' := by
  obtain ⟨mid, hmid, hlast⟩ := foldlM_append_eq_done_iff.mp h'.run
  cases h.run.symm.trans hmid
  obtain ⟨_, hstep, hnil⟩ := foldlM_cons_eq_done_iff.mp hlast
  cases hnil
  exact hstep

/-! ### A device -/

/-- A round that finds no answer of a state and no delay. -/
def plainRound : RoundEnv where
  stateMachineMap := ∅
  hashOrder := fun _ => .byKey
  uninit := fun _ _ => ⟨false, 0, 0, 0, 0⟩
  newId := fun _ id => id

def deviceBuild : ServiceBuild := ⟨false, true⟩

/-- A device whose temperatures never rise. -/
def noSlope : List Int → Double := fun _ => .finite 0

/-- A warm battery, reporting stopped and started again, and a scene that is decided at once. -/
def warmBattery : List ServiceEvent :=
  [.thermalCallback [("battery", 41)] plainRound,
    .shellDump true true "" [argsTempReport, argsStopTempFlag] plainRound,
    .thermalCallback [("battery", 20)] plainRound,
    .shellDump true true "" [argsTempReport] plainRound,
    .updateThermalState true "scene" "game" true plainRound]

theorem warmBattery_served : ∃ config started s,
    Served noSlope deviceBuild config started ∅ [] warmBattery s ∧
      acceptedReports deviceBuild true warmBattery = [typeTempMapOf [("battery", 41)]] ∧
      s.policy.clusterLevelMap["base"]? = some 1 := by
  have hload : thermalSrvConfigInit decimalConversions unsetVariables simulatedFile initialConfig =
      some (true, _) := rfl
  exact ⟨_, _, _, ⟨⟨⟨_, _, .loaded .initial hload⟩, ⟨{}, rfl⟩⟩, rfl⟩, rfl, rfl⟩

/-! ### The reports -/

theorem getLastD_concat_toList (reports : List TypeTempMap) (report : Option TypeTempMap) :
    (reports ++ report.toList).getLastD ∅ = report.getD (reports.getLastD ∅) := by
  cases report with
  | none => rw [Option.toList_none, List.append_nil, Option.getD_none]
  | some report => rw [Option.toList_some, List.getLastD_concat, Option.getD_some]

theorem typeTempMap_step (h : AtLevels s.policy.sensorClusterMap) {e : ServiceEvent}
    (hstep : s.step slope build e = .done s') :
    s'.policy.typeTempMap =
      ((reportOf build s.isTempReport e).map Prod.fst).getD s.policy.typeTempMap := by
  rw [(step_moved h hstep).policy, evaluation]
  cases reportOf build s.isTempReport e with
  | some now => rfl
  | none => cases immediateOf e <;> rfl

/-- The policy and the subscriber hold the temperatures of the last of the reports, and the windows
are those of the reports. -/
structure KnowsReports (slope : List Int → Double) (historyCount rateCount : Nat)
    (s : ThermalService) (reports : List TypeTempMap) : Prop where
  policy : s.policy.typeTempMap = reports.getLastD ∅
  subscriber : s.subscriber.typeTempMap = reports.getLastD ∅
  windows : 1 < historyCount →
    SubscriberState.Windows slope historyCount rateCount s.subscriber reports

theorem onTemperatureChanged_typeTempMap (subscriber : SubscriberState) {report : TypeTempMap}
    (hreport : report.isEmpty = false) :
    (subscriber.onTemperatureChanged slope report).typeTempMap = report := by
  rw [SubscriberState.onTemperatureChanged, hreport, if_neg Bool.false_ne_true,
    SubscriberState.setHistoryTypeTempMap]
  split <;> rfl

theorem KnowsReports.step {historyCount rateCount : Nat} {reports : List TypeTempMap}
    (h : KnowsReports slope historyCount rateCount s reports) (hrate : 1 ≤ rateCount)
    (hlevels : AtLevels s.policy.sensorClusterMap) {e : ServiceEvent}
    (hstep : s.step slope build e = .done s') :
    KnowsReports slope historyCount rateCount s'
      (reports ++ ((reportOf build s.isTempReport e).map Prod.fst).toList) := by
  have hmoved := (step_moved hlevels hstep).subscriber
  refine { policy := ?policy, subscriber := ?subscriber, windows := ?windows }
  case policy => rw [typeTempMap_step hlevels hstep, getLastD_concat_toList, h.policy]
  case subscriber =>
    rw [getLastD_concat_toList, ← h.subscriber, hmoved]
    cases hreport : reportOf build s.isTempReport e with
    | none => rfl
    | some now => exact onTemperatureChanged_typeTempMap _ (reportOf_ne_empty hreport)
  case windows =>
    intro hhistory
    rw [hmoved]
    cases hreport : reportOf build s.isTempReport e with
    | none =>
      rw [Option.map_none, Option.toList_none, List.append_nil]
      exact h.windows hhistory
    | some now =>
      have hnext := (h.windows hhistory).onTemperatureChanged hhistory hrate now.1
      have hkept : [now.1].filter (fun report => !report.isEmpty) = [now.1] :=
        List.filter_cons_of_pos (by rw [reportOf_ne_empty hreport]; rfl)
      rw [hkept] at hnext
      exact hnext

/-- **The service knows the reports that got through.** After any run the policy and the subscriber
hold the temperatures of the last of them, and the windows are theirs. -/
theorem service_knows_accepted_reports
    (h : Served slope build config started registered socSet events s) :
    KnowsReports slope started.baseInfo.historyTempCount
      (start config started registered socSet).subscriber.rateCount s
      (acceptedReports build true events) := by
  have hreports := trace_reports h.atLevels h.run
  change _ = acceptedReports build true events at hreports
  rw [← hreports]
  have hrate : 1 ≤ (start config started registered socSet).subscriber.rateCount :=
    SubscriberState.one_le_rateCount_init _ _
  have hlast := relation_of_run
    (fun (s : ThermalService) reports => AtLevels s.policy.sensorClusterMap ∧
      KnowsReports slope started.baseInfo.historyTempCount
        (start config started registered socSet).subscriber.rateCount s reports)
    (fun hrel hstep => ⟨atLevels_step hrel.1 hstep, hrel.2.step hrate hrel.1 hstep⟩)
    ⟨h.atLevels, by rw [h.start_policy]; rfl, rfl, fun _ => SubscriberState.Windows.start slope _ _⟩
    h.run
  exact hlast.2

theorem warmBattery_known : ∃ started s rateCount,
    KnowsReports noSlope (Started.baseInfo started).historyTempCount rateCount s
      [typeTempMapOf [("battery", 41)]] := by
  obtain ⟨config, started, s, h, hreports, -⟩ := warmBattery_served
  exact ⟨started, s, _, hreports ▸ service_knows_accepted_reports h⟩

/-! ### The levels -/

theorem levelAfter_append (c : ThermalConfigSensorCluster) (before after : List Report) :
    c.levelAfter (before ++ after) = (c.atLevel (c.levelAfter before)).levelAfter after := by
  rw [ThermalConfigSensorCluster.levelAfter, List.foldl_append]
  rfl

/-- Every cluster is where it would be alone after the evaluations, and so is the level that the
policy finds for it, once there was one. -/
structure LevelsAfter (configured : SensorClusterMap) (s : ThermalService)
    (evaluated : List Report) : Prop where
  clusters : ∀ name : String, s.policy.sensorClusterMap[name]? =
    (configured[name]?).map fun c => c.atLevel (c.levelAfter evaluated)
  levels : ∀ name : String, s.policy.clusterLevelMap[name]? =
    if evaluated = [] then none else (configured[name]?).map fun c => c.levelAfter evaluated

theorem levelsAfter_start
    (h : Served slope build config started registered socSet events s) :
    LevelsAfter (config .sensorClusterMap) (start config started registered socSet) [] := by
  refine ⟨fun name => ?_, fun name => ?_⟩
  · rw [h.start_policy]
    exact (Option.map_id' (x := (config .sensorClusterMap)[name]?)).symm
  · rw [h.start_policy, if_pos rfl]
    exact Std.ExtTreeMap.getElem?_empty

theorem LevelsAfter.step {configured : SensorClusterMap} {evaluated : List Report}
    (h : LevelsAfter configured s evaluated) (hlevels : AtLevels s.policy.sensorClusterMap)
    {e : ServiceEvent} (hstep : s.step slope build e = .done s') :
    LevelsAfter configured s' (evaluated ++ s.evaluations build e) := by
  have hmoved := (step_moved hlevels hstep).policy
  rw [evaluations]
  cases hnow : s.evaluation build e with
  | none =>
    rw [hnow] at hmoved
    rw [Option.map_none, Option.toList_none, List.append_nil]
    exact ⟨fun name => by rw [hmoved]; exact h.clusters name,
      fun name => by rw [hmoved]; exact h.levels name⟩
  | some now =>
    rw [hnow, Option.elim_some, decidedPolicy] at hmoved
    rw [Option.map_some, Option.toList_some]
    refine ⟨fun name => ?_, fun name => ?_⟩
    · rw [hmoved, ReportingPolicy.evaluated_cluster]
      show (s.policy.sensorClusterMap[name]?).map _ = _
      rw [h.clusters, Option.map_map]
      refine congrArg (fun f => (configured[name]?).map f) (funext fun c => ?_)
      rw [levelAfter_append]
      rfl
    · rw [hmoved, ReportingPolicy.evaluated_level, if_neg (by simp)]
      show ((s.policy.sensorClusterMap[name]?).map _).or s.policy.clusterLevelMap[name]? = _
      rw [h.clusters, h.levels, Option.map_map]
      cases configured[name]? with
      | none => simp
      | some c =>
        rw [Option.map_some, Option.map_some, Option.some_or, Option.map_some, levelAfter_append]
        rfl

theorem Served.levelsAfter
    (h : Served slope build config started registered socSet events s) :
    LevelsAfter (config .sensorClusterMap) s
      (evaluationsOf slope build (start config started registered socSet) events) := by
  have hlast := relation_of_run
    (fun (s : ThermalService) evaluated => AtLevels s.policy.sensorClusterMap ∧
      LevelsAfter (config .sensorClusterMap) s evaluated)
    (fun hrel hstep => ⟨atLevels_step hrel.1 hstep, hrel.2.step hrel.1 hstep⟩)
    ⟨h.atLevels, levelsAfter_start h⟩ h.run
  exact hlast.2

/-- **Every cluster runs alone.** After any run every configured cluster is at the level of its own
run over the evaluations, which is one of its levels. -/
theorem service_levels (h : Served slope build config started registered socSet events s) :
    LevelsAfter (config .sensorClusterMap) s
        (evaluationsOf slope build (start config started registered socSet) events) ∧
      ∀ (name : String) (c : ThermalConfigSensorCluster),
        (config .sensorClusterMap)[name]? = some c → ∃ n, c.HasLevels n ∧
          c.levelAfter (evaluationsOf slope build (start config started registered socSet) events) ≤
            n := by
  refine ⟨h.levelsAfter, fun name c hcluster => ?_⟩
  obtain ⟨conv, uninit, hstored⟩ := h.stored
  obtain ⟨n, hlevels, hle⟩ := hstored.atLevels name c hcluster
  exact ⟨n, hlevels, ThermalConfigSensorCluster.levelAfter_le hlevels hle _⟩

theorem warmBattery_levels : ∃ config started s,
    s.policy.clusterLevelMap["base"]? = some 1 ∧
      LevelsAfter (config .sensorClusterMap) s
        (evaluationsOf noSlope deviceBuild (start config started ∅ []) warmBattery) := by
  obtain ⟨config, started, s, h, -, hlevel⟩ := warmBattery_served
  exact ⟨config, started, s, hlevel, (service_levels h).1⟩

end Served

end ThermalService

end ThermalManager
