import ThermalManager.Config.BaseInfo
import ThermalManager.Config.LevelSection
import ThermalManager.Observer.ThermalObserver

/-!
# Start-up and reports

What the service does with a configuration it has accepted: the base information and the sensor
types are initialised, and then every report updates the levels, writes the highest of them for the
simulation and decides the policy. An access out of range, and the maximum of an empty list, is a
fault.
-/

namespace ThermalManager

/-! ### The source -/

/-- The members of `ThermalPolicy` that a report reads and writes. -/
structure ReportingPolicy extends ThermalPolicy where
  sensorClusterMap : SensorClusterMap
  typeTempMap : TypeTempMap := ∅

/-- A call of `OnSensorInfoReported`: the temperatures, and what the service is then. -/
structure SensorReport where
  info : TypeTempMap
  subscriber : ThermalServiceSubscriber
  env : RoundEnv
  actionMap : ThermalActionMap

namespace ReportingPolicy

/-- A turn of `LevelDecision`. -/
def updateCluster (states : StateMachineMap) (subscriber : ThermalServiceSubscriber)
    (policy : ReportingPolicy) (cluster : String × ThermalConfigSensorCluster) :
    Outcome ReportingPolicy := do
  let sc ← .orFaults (cluster.2.updateThermalLevel states subscriber policy.typeTempMap)
  .done { policy with
    sensorClusterMap := policy.sensorClusterMap.insert cluster.1 sc
    clusterLevelMap := policy.clusterLevelMap.insert cluster.1 sc.latestLevel }

def levelDecision (policy : ReportingPolicy) (states : StateMachineMap)
    (subscriber : ThermalServiceSubscriber) : Outcome ReportingPolicy :=
  policy.sensorClusterMap.toList.foldlM (updateCluster states subscriber) policy

/-- What is written to the level file. -/
def writeLevel (policy : ReportingPolicy) (simulationXml : Bool) : Outcome (Option String) :=
  if !simulationXml then .done none
  else do
    let levelList := policy.clusterLevelMap.toList.map Prod.snd
    let level ← .orFaults levelList.max?
    .done (some (toString level ++ "\n"))

def onSensorInfoReported (simulationXml : Bool) (policy : ReportingPolicy)
    (report : SensorReport) : Outcome (ReportingPolicy × Option String × ThermalActionMap) := do
  let policy := { policy with typeTempMap := report.info }
  let policy ← policy.levelDecision report.env.stateMachineMap report.subscriber
  let levelFile ← policy.writeLevel simulationXml
  let actionMap ←
    .orDiverges (policyDecision policy.toThermalPolicy report.env report.actionMap)
  .done (policy, levelFile, actionMap)

/-- The policy that the next report finds. -/
def afterReport (simulationXml : Bool) (policy : ReportingPolicy) (report : SensorReport) :
    Outcome ReportingPolicy := do
  let reported ← policy.onSensorInfoReported simulationXml report
  .done reported.1

/-- What `SetPolicyMap` and `SetSensorClusterMap` have stored, after `ThermalPolicy::Init`. -/
def initial (config : ServiceConfig) : ReportingPolicy where
  toThermalPolicy :=
    { clusterLevelMap := ∅, clusterPolicyMap := config .policyMap : ThermalPolicy }.sortLevel
  sensorClusterMap := config .sensorClusterMap

end ReportingPolicy

structure Started where
  baseInfo : ThermalConfigBaseInfo
  observer : ThermalObserver
  policy : ReportingPolicy

/-- What `SetBaseInfo` has stored. -/
def storedInfo (config : ServiceConfig) : ThermalConfigBaseInfo := { baseItems := config .baseInfo }

/-- `InitThermalObserver`, which initialises the base information first, and `InitThermalPolicy`. -/
def startUp (config : ServiceConfig) (observer : ThermalObserver) : Outcome Started := do
  let baseInfo ← (storedInfo config).init
  let observer ← .orFaults (observer.initSensorTypeMap baseInfo.sensorsType)
  .done { baseInfo, observer, policy := .initial config }

/-- The start-up and the reports after it. -/
def serviceRun (config : ServiceConfig) (observer : ThermalObserver)
    (reports : List SensorReport) : Outcome ReportingPolicy := do
  let started ← startUp config observer
  reports.foldlM (ReportingPolicy.afterReport (config .simulationXml)) started.policy

/-! ### Reports -/

/-- Every cluster is at one of its levels. -/
def AtLevels (clusters : SensorClusterMap) : Prop :=
  ∀ (name : String) (sc : ThermalConfigSensorCluster), clusters[name]? = some sc →
    ∃ n, sc.HasLevels n ∧ sc.latestLevel ≤ n

theorem AtLevels.insert {clusters : SensorClusterMap} (h : AtLevels clusters) {name : String}
    {sc : ThermalConfigSensorCluster} {n : Nat} (hlevels : sc.HasLevels n)
    (hle : sc.latestLevel ≤ n) : AtLevels (clusters.insert name sc) := by
  intro other sc' hlookup
  rw [Std.ExtTreeMap.getElem?_insert] at hlookup
  split at hlookup
  case isTrue =>
    obtain rfl := Option.some.inj hlookup
    exact ⟨n, hlevels, hle⟩
  case isFalse => exact h other sc' hlookup

namespace ReportingPolicy

variable {simulationXml : Bool} {policy : ReportingPolicy}

/-- A policy whose clusters are at their levels, and which has clusters. -/
def Levelled (policy : ReportingPolicy) : Prop :=
  AtLevels policy.sensorClusterMap ∧ policy.sensorClusterMap ≠ ∅ ∧ policy.clusterLevelMap ≠ ∅

theorem updateCluster_guarded (h : AtLevels policy.sensorClusterMap) (states : StateMachineMap)
    (subscriber : ThermalServiceSubscriber) {cluster : String × ThermalConfigSensorCluster}
    {n : Nat} (hlevels : cluster.2.HasLevels n) (hle : cluster.2.latestLevel ≤ n) :
    (updateCluster states subscriber policy cluster).Guarded Levelled := by
  have hupdate := ThermalConfigSensorCluster.updateThermalLevel_eq hlevels hle states subscriber
    policy.typeTempMap
  have hnext := ThermalConfigSensorCluster.nextLevel_le hlevels hle states subscriber
    policy.typeTempMap
  rw [updateCluster, hupdate]
  refine ⟨h.insert (hlevels.atLevel _) hnext, ?_, ?_⟩
  · exact Std.ExtTreeMap.insert_ne_empty
  · exact Std.ExtTreeMap.insert_ne_empty

theorem levelDecision_guarded (h : AtLevels policy.sensorClusterMap) (states : StateMachineMap)
    (subscriber : ThermalServiceSubscriber) :
    (policy.levelDecision states subscriber).Guarded fun policy' =>
      (policy.sensorClusterMap = ∅ ∧ policy' = policy) ∨ Levelled policy' := by
  have hclusters : ∀ cluster ∈ policy.sensorClusterMap.toList,
      ∃ n, cluster.2.HasLevels n ∧ cluster.2.latestLevel ≤ n := fun cluster hcluster =>
    h cluster.1 cluster.2 (Std.ExtTreeMap.mem_toList_iff_getElem?_eq_some.mp hcluster)
  rw [levelDecision]
  cases hlist : policy.sensorClusterMap.toList with
  | nil => exact .inl ⟨Std.ExtTreeMap.toList_eq_nil_iff.mp hlist, rfl⟩
  | cons cluster rest =>
    rw [hlist] at hclusters
    rw [List.foldlM_cons]
    obtain ⟨n, hlevels, hle⟩ := hclusters cluster List.mem_cons_self
    apply Outcome.Guarded.bind (updateCluster_guarded h states subscriber hlevels hle)
    intro policy' hpolicy'
    refine Outcome.Guarded.mono ?_ (Outcome.Guarded.foldlM Levelled ?_ hpolicy')
    · exact fun _ hlast => .inr hlast
    · intro policy' cluster hcluster hpolicy'
      obtain ⟨n, hlevels, hle⟩ := hclusters cluster (List.mem_cons_of_mem _ hcluster)
      exact updateCluster_guarded hpolicy'.1 states subscriber hlevels hle

theorem writeLevel_guarded (h : simulationXml = true → policy.clusterLevelMap ≠ ∅) :
    (policy.writeLevel simulationXml).Guarded fun _ => True := by
  rw [writeLevel]
  cases simulationXml with
  | false => trivial
  | true =>
    have hlist : policy.clusterLevelMap.toList.map Prod.snd ≠ [] := by
      rw [Ne, List.map_eq_nil_iff, Std.ExtTreeMap.toList_eq_nil_iff]
      exact h rfl
    obtain ⟨level, hlevel⟩ := Option.ne_none_iff_exists'.mp (mt List.max?_eq_none_iff.mp hlist)
    rw [if_neg (by decide)]
    dsimp only
    rw [hlevel]
    trivial

/-- What reports rely on, and keep. -/
structure Ready (simulationXml : Bool) (policy : ReportingPolicy) : Prop where
  levels : AtLevels policy.sensorClusterMap
  clusters : simulationXml = true → policy.sensorClusterMap ≠ ∅

theorem Ready.onSensorInfoReported (h : Ready simulationXml policy) (report : SensorReport) :
    (policy.onSensorInfoReported simulationXml report).Guarded fun reported =>
      Ready simulationXml reported.1 := by
  rw [ReportingPolicy.onSensorInfoReported]
  have hstart : AtLevels { policy with typeTempMap := report.info }.sensorClusterMap := h.levels
  apply Outcome.Guarded.bind (levelDecision_guarded hstart _ _)
  intro policy' hpolicy'
  have hready : Ready simulationXml policy' := by
    rcases hpolicy' with ⟨-, rfl⟩ | hlevelled
    · exact ⟨h.levels, h.clusters⟩
    · exact ⟨hlevelled.1, fun _ => hlevelled.2.1⟩
  have hlevels : simulationXml = true → policy'.clusterLevelMap ≠ ∅ := by
    intro hsim
    rcases hpolicy' with ⟨hnone, -⟩ | hlevelled
    · exact absurd hnone (h.clusters hsim)
    · exact hlevelled.2.2
  apply Outcome.Guarded.bind (writeLevel_guarded hlevels)
  intro _ _
  apply Outcome.Guarded.bind (Outcome.guarded_orDiverges fun _ _ => trivial)
  intro _ _
  exact hready

theorem Ready.reports (h : Ready simulationXml policy) (reports : List SensorReport) :
    (reports.foldlM (afterReport simulationXml) policy).Guarded (Ready simulationXml) := by
  apply Outcome.Guarded.foldlM _ _ h
  intro policy report _ hpolicy
  exact Outcome.Guarded.bind (hpolicy.onSensorInfoReported report) fun _ hreported => hreported

/-- Without a cluster the maximum is taken of the empty list. -/
theorem afterReport_faults (hclusters : policy.sensorClusterMap = ∅)
    (hlevels : policy.clusterLevelMap = ∅) (report : SensorReport) :
    afterReport true policy report = .faults := by
  have hnone : ({ policy with typeTempMap := report.info } : ReportingPolicy).levelDecision
      report.env.stateMachineMap report.subscriber =
        .done { policy with typeTempMap := report.info } := by
    rw [levelDecision, hclusters]
    rfl
  have hwrite : ({ policy with typeTempMap := report.info } : ReportingPolicy).writeLevel true =
      .faults := by
    rw [writeLevel, hlevels]
    rfl
  have hreport : policy.onSensorInfoReported true report = .faults := by
    rw [onSensorInfoReported, hnone]
    show ({ policy with typeTempMap := report.info } : ReportingPolicy).writeLevel true >>= _ = _
    rw [hwrite]
    rfl
  rw [afterReport, hreport]
  rfl

end ReportingPolicy

/-! ### Accepted files -/

/-- What files that were loaded one after the other, accepted or not, can have left behind. -/
inductive StoredConfig (conv : Conversions) (uninit : Uninit) : ServiceConfig → Prop where
  | initial : StoredConfig conv uninit initialConfig
  | loaded {config config' : ServiceConfig} {file : XmlFile} {ok : Bool} :
      StoredConfig conv uninit config →
      thermalSrvConfigInit conv uninit file config = some (ok, config') →
      StoredConfig conv uninit config'

section Accepted

variable {conv : Conversions} {uninit : Uninit} {config config' : ServiceConfig} {ok : Bool}

theorem parseRootNode_clusters {node : XmlNode}
    (h : parseRootNode conv uninit node config = some (ok, config'))
    (hlevels : AtLevels (config .sensorClusterMap)) : AtLevels (config' .sensorClusterMap) := by
  by_cases hname : node.name = "level"
  · unfold parseRootNode at h
    rw [hname] at h
    obtain ⟨msc, hread, -, rfl⟩ | ⟨-, -, rfl⟩ := commit_cases h
    · intro name sc hlookup
      obtain ⟨haccepted, hzero⟩ := parseLevelNode_accepted hread name sc hlookup
      exact ⟨_, haccepted.hasLevels, hzero ▸ Nat.zero_le _⟩
    · exact hlevels
  · rw [parseRootNode_other .sensorClusterMap hname h]
    exact hlevels

theorem parseRootNodes_clusters {nodes : List XmlNode}
    (h : parseRootNodes conv uninit nodes config = some (ok, config'))
    (hlevels : AtLevels (config .sensorClusterMap)) : AtLevels (config' .sensorClusterMap) := by
  induction nodes generalizing config with
  | nil =>
    cases h
    exact hlevels
  | cons node rest ih =>
    rw [parseRootNodes] at h
    split at h
    case h_1 => cases h
    case h_2 mid hnode =>
      cases h
      exact parseRootNode_clusters hnode hlevels
    case h_3 mid hnode => exact ih h (parseRootNode_clusters hnode hlevels)

theorem StoredConfig.atLevels (h : StoredConfig conv uninit config) :
    AtLevels (config .sensorClusterMap) := by
  induction h with
  | initial =>
    intro name sc hlookup
    exact absurd hlookup (by simp [initialConfig])
  | @loaded _ _ file _ _ hload ih =>
    cases file with
    | none =>
      cases hload
      exact ih
    | some rootNode => exact parseRootNodes_clusters hload ih

end Accepted

/-! ### Start-up -/

theorem startUp_cases (config : ServiceConfig) (observer : ThermalObserver) :
    (∃ baseInfo started, (storedInfo config).init = .done baseInfo ∧
      startUp config observer = .done started ∧ started.policy = .initial config) ∨
    ((storedInfo config).init = .diverges ∧ startUp config observer = .diverges) ∨
    ((storedInfo config).init = .faults ∧ startUp config observer = .faults) := by
  rw [startUp]
  cases (storedInfo config).init with
  | done baseInfo =>
    obtain ⟨observer', hobserver⟩ := observer.initSensorTypeMap_isSome baseInfo.sensorsType
    refine .inl ⟨_, { baseInfo, observer := observer', policy := .initial config }, rfl, ?_, rfl⟩
    show (Outcome.orFaults (observer.initSensorTypeMap baseInfo.sensorsType) >>= _) = _
    rw [hobserver]
    rfl
  | diverges => exact .inr (.inl ⟨rfl, rfl⟩)
  | faults => exact .inr (.inr ⟨rfl, rfl⟩)

/-- Only the simulation of a configuration without clusters faults, at the first report. -/
theorem reports_safe_iff {config : ServiceConfig} (hlevels : AtLevels (config .sensorClusterMap))
    (reports : List SensorReport) :
    reports.foldlM (ReportingPolicy.afterReport (config .simulationXml))
        (ReportingPolicy.initial config) ≠ .faults ↔
      reports = [] ∨ ¬ (config .simulationXml = true ∧ config .sensorClusterMap = ∅) := by
  by_cases hempty : config .simulationXml = true ∧ config .sensorClusterMap = ∅
  · cases reports with
    | nil => exact iff_of_true (fun h => by cases h) (.inl rfl)
    | cons report rest =>
      have hfirst : ReportingPolicy.afterReport true (.initial config) report = .faults :=
        ReportingPolicy.afterReport_faults hempty.2 rfl report
      rw [List.foldlM_cons, hempty.1, hfirst]
      refine iff_of_false (fun h => h rfl) fun h => ?_
      exact h.elim (List.cons_ne_nil report rest) fun hnot => hnot ⟨rfl, hempty.2⟩
  · have hready : ReportingPolicy.Ready (config .simulationXml) (.initial config) :=
      ⟨hlevels, fun hsim hnone => hempty ⟨hsim, hnone⟩⟩
    exact iff_of_true (hready.reports reports).ne_faults (.inr hempty)

theorem serviceRun_safe_iff {config : ServiceConfig} (hlevels : AtLevels (config .sensorClusterMap))
    (observer : ThermalObserver) (reports : List SensorReport) :
    serviceRun config observer reports ≠ .faults ↔
      (storedInfo config).init ≠ .faults ∧ ((storedInfo config).init = .diverges ∨ reports = [] ∨
        ¬ (config .simulationXml = true ∧ config .sensorClusterMap = ∅)) := by
  rw [serviceRun]
  rcases startUp_cases config observer with ⟨baseInfo, started, hinit, hstart, hpolicy⟩ |
    ⟨hinit, hstart⟩ | ⟨hinit, hstart⟩
  · rw [hinit, hstart, ← reports_safe_iff hlevels, ← hpolicy, and_iff_right (fun h => by cases h),
      or_iff_right (fun h => by cases h)]
    exact Iff.rfl
  · rw [hinit, hstart]
    exact iff_of_true (fun h => by cases h) ⟨(fun h => by cases h), .inl rfl⟩
  · rw [hinit, hstart]
    exact iff_of_false (fun h => h rfl) fun h => h.1 rfl

/-- The file gives the consumers what they rely on: a field for the count, and a cluster for the
simulation. Behind a call that does not return nothing is relied on. -/
structure Harmless (config : ServiceConfig) (rootNode : XmlNode) (reports : List SensorReport) :
    Prop where
  count : Endless (baseValue config rootNode "temperature_query_enum") ∨
    ¬ OnlySeparators (baseValue config rootNode "history_temp_count")
  clusters : Endless (baseValue config rootNode "temperature_query_enum") ∨
    Endless (baseValue config rootNode "history_temp_count") ∨ reports = [] ∨
    ¬ (Simulated config rootNode ∧ NoClusters config rootNode)

variable {conv : Conversions} {uninit : Uninit} {config config' : ServiceConfig}

/-- **Start-up and reports.** An accepted file over whatever was stored before it: the
initialisation and any reports after it make no bad access exactly when the file is harmless. -/
theorem accepted_file_runs_safely_iff {rootNode : XmlNode}
    (hstored : StoredConfig conv uninit config)
    (hload : thermalSrvConfigInit conv uninit (some rootNode) config = some (true, config'))
    (observer : ThermalObserver) (reports : List SensorReport) :
    serviceRun config' observer reports ≠ .faults ↔ Harmless config rootNode reports := by
  have hlevels : AtLevels (config' .sensorClusterMap) := (hstored.loaded hload).atLevels
  have hfaults := (storedInfo config').init_faults_iff
  have hdiverges := (storedInfo config').init_diverges_iff
  change _ ↔ ¬ Endless (config' .baseInfo)[_]? ∧ OnlySeparators (config' .baseInfo)[_]? at hfaults
  change _ ↔ Endless (config' .baseInfo)[_]? ∨ Endless (config' .baseInfo)[_]? at hdiverges
  rw [accepted_baseInfo hload, accepted_baseInfo hload] at hfaults hdiverges
  rw [serviceRun_safe_iff hlevels, Ne, hfaults, hdiverges, accepted_simulated hload,
    accepted_clusters hload, not_and_or, not_not, or_assoc]
  exact ⟨fun h => ⟨h.1, h.2⟩, fun h => ⟨h.count, h.clusters⟩⟩

def batteryInfo (temp : Int) : SensorReport where
  info := (∅ : TypeTempMap).insert "battery" temp
  subscriber := ⟨∅, 0⟩
  env := ⟨∅, fun _ => .byKey, fun _ _ => ⟨false, 0, 0, 0, 0⟩, fun _ id => id⟩
  actionMap := ∅

/-- A simulation with a cluster. -/
def simulatedFile : XmlFile := thermalFile [baseSection "sim_tz" "1", twoSensorSection "40,38"]

theorem simulatedFile_runs_safely :
    ∃ config', thermalSrvConfigInit decimalConversions unsetVariables simulatedFile
        initialConfig = some (true, config') ∧
      serviceRun config' {} [batteryInfo 41, batteryInfo 37] ≠ .faults := by
  obtain ⟨config', hload⟩ : ∃ config', thermalSrvConfigInit decimalConversions unsetVariables
      simulatedFile initialConfig = some (true, config') := ⟨_, rfl⟩
  refine ⟨config', hload, (accepted_file_runs_safely_iff .initial hload _ _).mpr ⟨.inr ?_, ?_⟩⟩
  · rintro ⟨_, hvalue, -⟩
    cases hvalue
  · exact .inr (.inr (.inr fun h => List.cons_ne_nil _ _ h.2))

/-- A count without a field, and a simulation without a cluster. -/
theorem degenerate_files_fault :
    (∃ config', thermalSrvConfigInit decimalConversions unsetVariables
        (thermalFile [baseSection "history_temp_count" ""]) initialConfig = some (true, config') ∧
      serviceRun config' {} [] = .faults) ∧
    ∃ config', thermalSrvConfigInit decimalConversions unsetVariables
        (thermalFile [baseSection "sim_tz" "1"]) initialConfig = some (true, config') ∧
      serviceRun config' {} [batteryInfo 41] = .faults := by
  exact ⟨⟨_, rfl, rfl⟩, _, rfl, rfl⟩

end ThermalManager
