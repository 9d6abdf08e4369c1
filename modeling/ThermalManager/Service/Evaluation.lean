import ThermalManager.Service.ThermalService
import ThermalManager.State.ClientStates
import ThermalManager.Lib.Simulation

/-!
# Evaluations

An event of the service brings a report, has the policy decided at once, or does neither. The first
two evaluate every cluster, each with the states, rates and temperatures of that moment. A cluster
does not notice the others, so its level is that of a run of its own over the evaluations.
-/

namespace ThermalManager

open Outcome

/-! ### The level decision -/

namespace ReportingPolicy

def evaluated (policy : ReportingPolicy) (states : StateMachineMap)
    (subscriber : ThermalServiceSubscriber) : ReportingPolicy :=
  { policy with
    sensorClusterMap := Window.updateEach
      (fun _ sc => sc.atLevel (sc.nextLevel states subscriber policy.typeTempMap))
      policy.sensorClusterMap.toList policy.sensorClusterMap
    clusterLevelMap := Window.updateEach
      (fun _ sc => sc.nextLevel states subscriber policy.typeTempMap)
      policy.sensorClusterMap.toList policy.clusterLevelMap }

variable {policy : ReportingPolicy}

theorem foldlM_updateCluster (states : StateMachineMap) (subscriber : ThermalServiceSubscriber)
    {clusters : List (String × ThermalConfigSensorCluster)}
    (hlevels : ∀ cluster ∈ clusters, ∃ n, cluster.2.HasLevels n ∧ cluster.2.latestLevel ≤ n) :
    clusters.foldlM (updateCluster states subscriber) policy = .done { policy with
      sensorClusterMap := Window.updateEach
        (fun _ sc => sc.atLevel (sc.nextLevel states subscriber policy.typeTempMap))
        clusters policy.sensorClusterMap
      clusterLevelMap := Window.updateEach
        (fun _ sc => sc.nextLevel states subscriber policy.typeTempMap)
        clusters policy.clusterLevelMap } := by
  induction clusters generalizing policy with
  | nil => rfl
  | cons cluster rest ih =>
    obtain ⟨n, hcluster, hle⟩ := hlevels cluster List.mem_cons_self
    have hfirst : updateCluster states subscriber policy cluster = .done { policy with
        sensorClusterMap := policy.sensorClusterMap.insert cluster.1
          (cluster.2.atLevel (cluster.2.nextLevel states subscriber policy.typeTempMap))
        clusterLevelMap := policy.clusterLevelMap.insert cluster.1
          (cluster.2.nextLevel states subscriber policy.typeTempMap) } := by
      rw [updateCluster, ThermalConfigSensorCluster.updateThermalLevel_eq hcluster hle]
      rfl
    rw [List.foldlM_cons, hfirst]
    exact ih fun cluster hmem => hlevels cluster (List.mem_cons_of_mem _ hmem)

theorem levelDecision_eq (h : AtLevels policy.sensorClusterMap) (states : StateMachineMap)
    (subscriber : ThermalServiceSubscriber) :
    policy.levelDecision states subscriber = .done (policy.evaluated states subscriber) := by
  apply foldlM_updateCluster
  intro cluster hcluster
  exact h cluster.1 cluster.2 (Std.ExtTreeMap.mem_toList_iff_getElem?_eq_some.mp hcluster)

theorem evaluated_cluster (states : StateMachineMap) (subscriber : ThermalServiceSubscriber)
    (name : String) :
    (policy.evaluated states subscriber).sensorClusterMap[name]? =
      (policy.sensorClusterMap[name]?).map fun sc =>
        sc.atLevel (sc.nextLevel states subscriber policy.typeTempMap) := by
  rw [evaluated, Window.getElem?_updateEach_toList]
  cases policy.sensorClusterMap[name]? <;> rfl

theorem evaluated_level (states : StateMachineMap) (subscriber : ThermalServiceSubscriber)
    (name : String) :
    (policy.evaluated states subscriber).clusterLevelMap[name]? =
      ((policy.sensorClusterMap[name]?).map fun sc =>
        sc.nextLevel states subscriber policy.typeTempMap).or policy.clusterLevelMap[name]? := by
  rw [evaluated, Window.getElem?_updateEach_toList]
  cases policy.sensorClusterMap[name]? <;> rfl

theorem atLevels_evaluated (h : AtLevels policy.sensorClusterMap) (states : StateMachineMap)
    (subscriber : ThermalServiceSubscriber) :
    AtLevels (policy.evaluated states subscriber).sensorClusterMap := by
  intro name sc hlookup
  rw [evaluated_cluster] at hlookup
  obtain ⟨old, hold, rfl⟩ := Option.map_eq_some_iff.mp hlookup
  obtain ⟨n, hlevels, hle⟩ := h name old hold
  exact ⟨n, hlevels.atLevel _,
    ThermalConfigSensorCluster.nextLevel_le hlevels hle states subscriber policy.typeTempMap⟩

/-- A report that returns: the evaluation under the new temperatures, and a round that returns. -/
theorem onSensorInfoReported_eq (h : AtLevels policy.sensorClusterMap) {simulationXml : Bool}
    {report : SensorReport} {reported : ReportingPolicy × Option String × ThermalActionMap}
    (hdone : policy.onSensorInfoReported simulationXml report = .done reported) :
    reported.1 = { policy with typeTempMap := report.info }.evaluated report.env.stateMachineMap
        report.subscriber ∧
      policyDecision reported.1.toThermalPolicy report.env report.actionMap =
        some reported.2.2 := by
  have hlevels : AtLevels { policy with typeTempMap := report.info }.sensorClusterMap := h
  rw [onSensorInfoReported, levelDecision_eq hlevels] at hdone
  obtain ⟨_, hevaluated, hdone⟩ := bind_eq_done_iff.mp hdone
  cases hevaluated
  obtain ⟨levelFile, -, hdone⟩ := bind_eq_done_iff.mp hdone
  obtain ⟨actionMap, hround, hdone⟩ := bind_eq_done_iff.mp hdone
  cases hdone
  exact ⟨rfl, orDiverges_eq_done_iff.mp hround⟩

end ReportingPolicy

/-! ### What an event brings -/

namespace ThermalService

open ThermalActionMap

variable (slope : List Int → Double) (build : ServiceBuild)

/-- A report without a temperature is dropped. -/
def kept (typeTempMap : TypeTempMap) (env : RoundEnv) : Option (TypeTempMap × RoundEnv) :=
  if typeTempMap.isEmpty then none else some (typeTempMap, env)

def emulated (isTempReport : Bool) (args : List String) (env : RoundEnv) :
    Option (TypeTempMap × RoundEnv) :=
  if build.userVersion || decide (args.length ≤ tempEmulParamNum) || isTempReport then none
  else kept (emulationMap (emulationPairs (args.drop 1))) env

def switched (args : List String) : Option Bool :=
  if build.userVersion then none else some (args[0]? != some argsStopTempFlag)

/-- The report that an event brings, while reporting is on or off. -/
def reportOf (isTempReport : Bool) : ServiceEvent → Option (TypeTempMap × RoundEnv)
  | .thermalCallback event env
  | .getThermalInfo (some (_, event)) env =>
      if !build.userVersion && !isTempReport then none else kept (typeTempMapOf event) env
  | .shellDump true true _ (command :: rest) env =>
      if command = argsTempEmulation then emulated build isTempReport (command :: rest) env
      else none
  | _ => none

/-- Whether an event turns reporting on or off. -/
def switchOf : ServiceEvent → Option Bool
  | .shellDump true true _ (command :: rest) _ =>
      if command = argsTempReport then switched build rest else none
  | _ => none

/-- The round of an update of a state that is decided at once. -/
def immediateOf : ServiceEvent → Option RoundEnv
  | .updateThermalState true _ _ true env => some env
  | _ => none

/-- What an event does to the state machine. -/
def stateOps : ServiceEvent → List StateOp
  | .updateThermalState true tag val _ _ => [.updateState tag val]
  | .addCommonEventService => [.init]
  | _ => []

def sceneOf : ServiceEvent → Option String
  | .setScene true scene => some scene
  | _ => none

/-- The temperatures and the round that the clusters are evaluated with. -/
def evaluation (s : ThermalService) (e : ServiceEvent) : Option (TypeTempMap × RoundEnv) :=
  (reportOf build s.isTempReport e).or
    ((immediateOf e).map fun env => (s.policy.typeTempMap, env))

def decidedPolicy (s : ThermalService) (now : TypeTempMap × RoundEnv) : ReportingPolicy :=
  { s.policy with typeTempMap := now.1 }.evaluated now.2.stateMachineMap
    s.subscriber.toThermalServiceSubscriber

def roundOf (s : ThermalService) (now : TypeTempMap × RoundEnv) : PolicyEvent :=
  .policyDecision (s.decidedPolicy now).toThermalPolicy now.2

/-- What else an event does to the registered actions. -/
def otherActionEvents (s : ThermalService) : ServiceEvent → List PolicyEvent
  | .addSocPerfService => s.socSet.map .resetActionValue
  | .delayTimer actionName timerId => [.fire actionName timerId]
  | _ => []

/-- What an event does to the registered actions. -/
def actionEvents (s : ThermalService) (e : ServiceEvent) : List PolicyEvent :=
  (s.evaluation build e).elim (s.otherActionEvents e) fun now => [s.roundOf now]

variable {slope build} {s s' : ThermalService}

theorem reportOf_ne_empty {isTempReport : Bool} {e : ServiceEvent} {report : TypeTempMap}
    {env : RoundEnv} (hreport : reportOf build isTempReport e = some (report, env)) :
    report.isEmpty = false := by
  have hkept : ∀ (typeTempMap : TypeTempMap) (env' : RoundEnv),
      kept typeTempMap env' = some (report, env) → report.isEmpty = false := by
    intro typeTempMap env' h
    rw [kept, Option.ite_none_left_eq_some] at h
    obtain ⟨hne, heq⟩ := h
    obtain ⟨rfl, -⟩ := Prod.mk.inj (Option.some.inj heq)
    exact Bool.not_eq_true _ ▸ hne
  unfold reportOf at hreport
  split at hreport
  · exact hkept _ _ (Option.ite_none_left_eq_some.mp hreport).2
  · exact hkept _ _ (Option.ite_none_left_eq_some.mp hreport).2
  · obtain ⟨-, hemulated⟩ := Option.ite_none_right_eq_some.mp hreport
    rw [emulated] at hemulated
    exact hkept _ _ (Option.ite_none_left_eq_some.mp hemulated).2
  · cases hreport

/-! ### The cases of a step -/

/-- A handler passes its report on to the subscriber, or has none and leaves the service alone. -/
inductive Handles (slope : List Int → Double) (s : ThermalService) :
    Option (TypeTempMap × RoundEnv) → Outcome ThermalService → Prop where
  | report (typeTempMap : TypeTempMap) (env : RoundEnv) :
      Handles slope s (some (typeTempMap, env)) (s.onTemperatureChanged slope typeTempMap env)
  | nothing : Handles slope s none (.done s)

theorem onTemperatureChanged_handles (typeTempMap : TypeTempMap) (env : RoundEnv) :
    Handles slope s (kept typeTempMap env) (s.onTemperatureChanged slope typeTempMap env) := by
  rw [kept]
  by_cases hempty : typeTempMap.isEmpty = true
  · rw [if_pos hempty, onTemperatureChanged, if_pos hempty]
    exact .nothing
  · rw [if_neg hempty]
    exact .report typeTempMap env

theorem handleThermalCallbackEvent_handles (event : HdfThermalCallbackInfo) (env : RoundEnv) :
    Handles slope s (reportOf build s.isTempReport (.thermalCallback event env))
      (s.handleThermalCallbackEvent slope build event env) := by
  rw [reportOf, handleThermalCallbackEvent]
  split
  case isTrue => exact .nothing
  case isFalse => exact onTemperatureChanged_handles (typeTempMapOf event) env

theorem switchTempReport_eq (s : ThermalService) (args : List String) :
    (s.switchTempReport build (argsTempReport :: args)).2 =
      { s with isTempReport := (switched build args).getD s.isTempReport } := by
  rw [switchTempReport, switched]
  cases build.userVersion with
  | true => rfl
  | false =>
    rw [if_neg Bool.false_ne_true, if_neg Bool.false_ne_true, List.getElem?_cons_succ]
    cases args with
    | nil => rfl
    | cons flag rest =>
      rw [List.getElem?_cons_zero]
      by_cases hstop : flag = argsStopTempFlag
      · subst hstop
        rfl
      · rw [if_neg fun hboth => hstop (Option.some.inj hboth.2)]
        simp [hstop]

theorem emulateTempReport_handles (args : List String) (env : RoundEnv) :
    Handles slope s (emulated build s.isTempReport args env)
      (s.emulateTempReport slope build args env >>= fun answer => .done answer.2) := by
  rw [emulated, emulateTempReport]
  cases hversion : build.userVersion with
  | true => exact .nothing
  | false =>
    rw [if_neg Bool.false_ne_true]
    by_cases hfew : args.length ≤ tempEmulParamNum
    · rw [if_pos hfew, decide_eq_true hfew]
      exact .nothing
    · rw [if_neg hfew, decide_eq_false hfew]
      cases hon : s.isTempReport with
      | true =>
        have hkept (typeTempMap : TypeTempMap) :
            s.handleTempEmulation slope typeTempMap env = .done (false, s) := by
          rw [handleTempEmulation, if_pos hon]
        simp only [hkept, done_bind]
        exact .nothing
      | false =>
        have hreported (typeTempMap : TypeTempMap) :
            s.handleTempEmulation slope typeTempMap env =
              s.onTemperatureChanged slope typeTempMap env >>= fun s => .done (true, s) := by
          rw [handleTempEmulation, hon, if_neg Bool.false_ne_true]
        simp only [hreported, Outcome.bind_assoc, done_bind, bind_done]
        exact onTemperatureChanged_handles _ env

variable (build) in
def stateAfter (s : ThermalService) (e : ServiceEvent) : StateMachine :=
  (stateOps e).foldl (StateMachine.apply build.batteryManagerEnable) s.state

variable (build) in
/-- An event that can bring a report and does nothing else. -/
structure ReportOnly (s : ThermalService) (e : ServiceEvent) : Prop where
  switch : switchOf build e = none
  immediate : immediateOf e = none
  actions : s.otherActionEvents e = []
  state : stateOps e = []
  scene : sceneOf e = none

/-- What a step is: a report on its way, a decision at once, or neither. -/
inductive StepCase (slope : List Int → Double) (build : ServiceBuild) (s : ThermalService)
    (e : ServiceEvent) : Outcome ThermalService → Prop where
  | report {typeTempMap : TypeTempMap} {env : RoundEnv}
      (hreport : reportOf build s.isTempReport e = some (typeTempMap, env))
      (honly : s.ReportOnly build e) :
      StepCase slope build s e (s.onTemperatureChanged slope typeTempMap env)
  | immediate {env : RoundEnv} (hreport : reportOf build s.isTempReport e = none)
      (hswitch : switchOf build e = none) (himmediate : immediateOf e = some env)
      (hscene : sceneOf e = none) :
      StepCase slope build s e ({ s with state := s.stateAfter build e }.executePolicy env)
  | other (hreport : reportOf build s.isTempReport e = none) (himmediate : immediateOf e = none)
      (observer : ThermalObserver) :
      StepCase slope build s e (.done { s with
        observer
        state := s.stateAfter build e
        scene := (sceneOf e).getD s.scene
        isTempReport := (switchOf build e).getD s.isTempReport
        actionMap := (s.otherActionEvents e).foldl ThermalActionMap.step s.actionMap })

theorem Handles.stepCase {e : ServiceEvent} {outcome : Outcome ThermalService}
    (h : Handles slope s (reportOf build s.isTempReport e) outcome)
    (honly : s.ReportOnly build e) : StepCase slope build s e outcome := by
  generalize hreport : reportOf build s.isTempReport e = report at h
  cases h with
  | report typeTempMap env => exact .report hreport honly
  | nothing =>
    have hnothing : StepCase slope build s e _ := .other hreport honly.immediate s.observer
    rw [honly.switch, honly.actions, honly.scene, stateAfter, honly.state] at hnothing
    exact hnothing

theorem stepCase_rest {e : ServiceEvent} (hreport : reportOf build s.isTempReport e = none)
    (himmediate : immediateOf e = none) (hswitch : switchOf build e = none)
    (hother : s.otherActionEvents e = []) (observer : ThermalObserver) :
    StepCase slope build s e (.done { s with
      observer
      state := s.stateAfter build e
      scene := (sceneOf e).getD s.scene }) := by
  have hrest : StepCase slope build s e _ := .other hreport himmediate observer
  rw [hswitch, hother] at hrest
  exact hrest

theorem shellDump_stepCase (isSystem isBootCompleted : Bool) (shown : String) (args : List String)
    (env : RoundEnv) :
    StepCase slope build s (.shellDump isSystem isBootCompleted shown args env)
      (s.step slope build (.shellDump isSystem isBootCompleted shown args env)) := by
  rw [step, shellDump]
  cases isSystem with
  | false => exact stepCase_rest rfl rfl rfl rfl s.observer
  | true =>
    cases isBootCompleted with
    | false => exact stepCase_rest rfl rfl rfl rfl s.observer
    | true =>
      rw [if_neg (by decide), Outcome.bind_assoc]
      cases args with
      | nil => exact stepCase_rest rfl rfl rfl rfl s.observer
      | cons command rest =>
        rw [dump]
        by_cases hswitch : command = argsTempReport
        · have hreport (on : Bool) :
              reportOf build on (.shellDump true true shown (command :: rest) env) = none := by
            rw [reportOf, if_neg (by rw [hswitch]; decide)]
          rw [if_pos hswitch, hswitch]
          have hother : StepCase slope build s _ _ :=
            .other (hreport s.isTempReport) rfl s.observer
          rw [switchOf, if_pos hswitch, hswitch] at hother
          rw [done_bind, done_bind, switchTempReport_eq]
          exact hother
        · have hnone :
              switchOf build (.shellDump true true shown (command :: rest) env) = none := by
            rw [switchOf, if_neg hswitch]
          rw [if_neg hswitch]
          by_cases hemulate : command = argsTempEmulation
          · have hreport : reportOf build s.isTempReport
                (.shellDump true true shown (command :: rest) env) =
                  emulated build s.isTempReport (command :: rest) env := by
              rw [reportOf, if_pos hemulate]
            rw [if_pos hemulate]
            have hhandles :
                Handles slope s (emulated build s.isTempReport (command :: rest) env) _ :=
              emulateTempReport_handles (command :: rest) env
            rw [← hreport] at hhandles
            exact hhandles.stepCase ⟨hnone, rfl, rfl, rfl, rfl⟩
          · have hreport : reportOf build s.isTempReport
                (.shellDump true true shown (command :: rest) env) = none := by
              rw [reportOf, if_neg hemulate]
            rw [if_neg hemulate]
            exact stepCase_rest hreport rfl hnone rfl s.observer

/-- **What a step can be.** -/
theorem step_cases (s : ThermalService) (e : ServiceEvent) :
    StepCase slope build s e (s.step slope build e) := by
  cases e with
  | thermalCallback event env =>
    exact (handleThermalCallbackEvent_handles event env).stepCase ⟨rfl, rfl, rfl, rfl, rfl⟩
  | getThermalInfo thermalInterface env =>
    cases thermalInterface with
    | none => exact stepCase_rest rfl rfl rfl rfl s.observer
    | some answer =>
      have hhandles : Handles slope s
          (reportOf build s.isTempReport (.getThermalInfo (some answer) env)) _ :=
        handleThermalCallbackEvent_handles answer.2 env
      have hcase := hhandles.stepCase ⟨rfl, rfl, rfl, rfl, rfl⟩
      simp only [step, getThermalInfo, Outcome.bind_assoc, done_bind, bind_done]
      exact hcase
  | updateThermalState isSystem tag val isImmed env =>
    cases isSystem with
    | false => exact stepCase_rest rfl rfl rfl rfl s.observer
    | true =>
      cases isImmed with
      | false =>
        exact stepCase_rest rfl rfl rfl rfl s.observer
      | true =>
        have hcase : StepCase slope build s (.updateThermalState true tag val true env) _ :=
          .immediate rfl rfl rfl rfl
        simp only [step, updateThermalState, Bool.not_true, Bool.false_eq_true, if_false, if_true,
          Outcome.bind_assoc, done_bind, bind_done]
        exact hcase
  | setScene isSystem scene =>
    cases isSystem <;> exact stepCase_rest rfl rfl rfl rfl s.observer
  | subscribeTemp isSystem typeList callback =>
    cases isSystem <;> exact stepCase_rest rfl rfl rfl rfl _
  | unSubscribeTemp isSystem callback =>
    cases isSystem <;> exact stepCase_rest rfl rfl rfl rfl _
  | subscribeAction isSystem actionList callback =>
    cases isSystem <;> exact stepCase_rest rfl rfl rfl rfl _
  | unSubscribeAction isSystem callback =>
    cases isSystem <;> exact stepCase_rest rfl rfl rfl rfl _
  | shellDump isSystem isBootCompleted shown args env =>
    exact shellDump_stepCase isSystem isBootCompleted shown args env
  | addCommonEventService => exact stepCase_rest rfl rfl rfl rfl s.observer
  | addSocPerfService =>
    have hcase : StepCase slope build s .addSocPerfService _ :=
      .other rfl rfl s.observer
    rw [otherActionEvents, List.foldl_map] at hcase
    exact hcase
  | delayTimer actionName timerId =>
    exact .other rfl rfl s.observer

/-! ### What a step does -/

variable (slope) in
/-- Reporting was switched if so, a report received if there was one, the clusters were evaluated if
they were, and the registered actions went through some events. -/
structure Moved (s : ThermalService) (switch : Option Bool) (report : Option TypeTempMap)
    (now : Option (TypeTempMap × RoundEnv)) (events : List PolicyEvent) (s' : ThermalService) :
    Prop where
  simulationXml : s'.simulationXml = s.simulationXml
  socSet : s'.socSet = s.socSet
  isTempReport : s'.isTempReport = switch.getD s.isTempReport
  subscriber : s'.subscriber =
    report.elim s.subscriber fun report => s.subscriber.onTemperatureChanged slope report
  policy : s'.policy = now.elim s.policy s.decidedPolicy
  actionMap : StepSystem.Run Returns ThermalActionMap.step s.actionMap events s'.actionMap

theorem run_single {actionMap : ThermalActionMap} {e : PolicyEvent} (hok : actionMap.Returns e) :
    StepSystem.Run Returns ThermalActionMap.step actionMap [e] (actionMap.step e) :=
  .snoc (.nil actionMap) hok

theorem run_round {policy : ThermalPolicy} {env : RoundEnv}
    {actionMap actionMap' : ThermalActionMap}
    (h : policyDecision policy env actionMap = some actionMap') :
    StepSystem.Run Returns ThermalActionMap.step actionMap [.policyDecision policy env]
      actionMap' := by
  have hrun := @run_single actionMap (.policyDecision policy env) (by rw [Returns, h]; rfl)
  rw [ThermalActionMap.step, h] at hrun
  exact hrun

theorem run_otherActionEvents (s : ThermalService) (e : ServiceEvent) :
    StepSystem.Run Returns ThermalActionMap.step s.actionMap (s.otherActionEvents e)
      ((s.otherActionEvents e).foldl ThermalActionMap.step s.actionMap) := by
  have hrun (events : List PolicyEvent) (hok : ∀ event ∈ events, ∀ actionMap : ThermalActionMap,
      actionMap.Returns event) (actionMap : ThermalActionMap) :
      StepSystem.Run Returns ThermalActionMap.step actionMap events
        (events.foldl ThermalActionMap.step actionMap) := by
    induction events generalizing actionMap with
    | nil => exact .nil actionMap
    | cons event rest ih =>
      exact (ih (fun event hmem => hok event (List.mem_cons_of_mem _ hmem)) _).cons
        (hok event List.mem_cons_self actionMap)
  apply hrun
  intro event hmem actionMap
  cases e with
  | addSocPerfService =>
    obtain ⟨name, -, rfl⟩ := List.mem_map.mp hmem
    exact trivial
  | delayTimer actionName timerId =>
    cases List.mem_singleton.mp hmem
    exact trivial
  | _ => cases hmem

theorem onTemperatureChanged_moved (h : AtLevels s.policy.sensorClusterMap)
    {typeTempMap : TypeTempMap} (hkept : typeTempMap.isEmpty = false) {env : RoundEnv}
    (hdone : s.onTemperatureChanged slope typeTempMap env = .done s') :
    Moved slope s none (some typeTempMap) (some (typeTempMap, env))
      [s.roundOf (typeTempMap, env)] s' := by
  rw [onTemperatureChanged, if_neg (by rw [hkept]; decide)] at hdone
  obtain ⟨reported, hreported, hdone⟩ := bind_eq_done_iff.mp hdone
  cases hdone
  rw [onReceivedSensorInfo] at hreported
  obtain ⟨policy, hpolicy, hreported⟩ := bind_eq_done_iff.mp hreported
  cases hreported
  obtain ⟨hevaluated, hround⟩ := ReportingPolicy.onSensorInfoReported_eq h hpolicy
  rw [hevaluated] at hround
  refine ⟨rfl, rfl, rfl, ?_, hevaluated, run_round hround⟩
  show _ = s.subscriber.onTemperatureChanged slope typeTempMap
  rw [SubscriberState.onTemperatureChanged, if_neg (by rw [hkept]; decide)]

theorem executePolicy_moved (h : AtLevels s.policy.sensorClusterMap) {env : RoundEnv}
    (state : StateMachine) (hdone : { s with state }.executePolicy env = .done s') :
    Moved slope s none none (some (s.policy.typeTempMap, env))
      [s.roundOf (s.policy.typeTempMap, env)] s' := by
  rw [executePolicy] at hdone
  obtain ⟨policy, hpolicy, hdone⟩ := bind_eq_done_iff.mp hdone
  obtain ⟨actionMap, hround, hdone⟩ := bind_eq_done_iff.mp hdone
  cases hdone
  rw [ReportingPolicy.levelDecision_eq h] at hpolicy
  cases hpolicy
  exact ⟨rfl, rfl, rfl, rfl, rfl, run_round (orDiverges_eq_done_iff.mp hround)⟩

/-- **What a step does.** -/
theorem step_moved (h : AtLevels s.policy.sensorClusterMap) {e : ServiceEvent}
    (hstep : s.step slope build e = .done s') :
    Moved slope s (switchOf build e) ((reportOf build s.isTempReport e).map Prod.fst)
      (s.evaluation build e) (s.actionEvents build e) s' := by
  have hcase : StepCase slope build s e _ := s.step_cases e
  rw [hstep] at hcase
  generalize houtcome : Outcome.done s' = outcome at hcase
  rw [actionEvents, evaluation]
  cases hcase with
  | report hreport honly =>
    rw [hreport, honly.switch]
    exact onTemperatureChanged_moved h (reportOf_ne_empty hreport) houtcome.symm
  | immediate hreport hswitch himmediate =>
    rw [hreport, hswitch, himmediate]
    exact executePolicy_moved h _ houtcome.symm
  | other hreport himmediate observer =>
    cases houtcome
    rw [hreport, himmediate]
    exact ⟨rfl, rfl, rfl, rfl, rfl, s.run_otherActionEvents e⟩

end ThermalService

end ThermalManager
