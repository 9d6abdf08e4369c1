import ThermalManager.Service.OwnStates
import ThermalManager.Service.QuietUpdates
import ThermalManager.Service.ServiceStates

/-!
# The service that asks for the states

What the answers of the states leave open: whether the service gets them at all, and which they are.
A state value without end stops a round for good. Where there is none, every round decides under the
states that the service has at that moment, and a cluster depends on no state but its own.
-/

namespace ThermalManager

open Extremum Outcome

namespace ThermalService

open ThermalActionMap

variable {slope : List Int → Double} {build : ServiceBuild} {s s' : ThermalService}

/-- After the start-up the events have happened one after the other, each of them returning from
what it asks. -/
structure ServedAsking (slope : List Int → Double) (build : ServiceBuild) (config : ServiceConfig)
    (started : Started) (registered : Map String (ActionClass × Bool)) (socSet : List String)
    (events : List AskedEvent) (s : ThermalService) : Prop extends Booted config started where
  run : events.foldlM (askedStep slope build) (start config started registered socSet) = .done s

/-- No value of a state in the configuration sends `SplitString` into a call without end. -/
structure StatesEnd (config : ServiceConfig) : Prop where
  clusters : Asked.AskedByClusters (fun name value => ¬ Unending name value)
    (config .sensorClusterMap)
  entries : ∀ (clusterName : String) (policyConfig : List PolicyConfig),
    (config .policyMap)[clusterName]? = some policyConfig →
    ∀ levelAction ∈ policyConfig, ∀ action ∈ levelAction.policyActionList,
      action.isProp = true → ∀ prop ∈ action.actionPropMap.toList, prop.1 ≠ "delaytime" →
        ¬ Unending prop.1 prop.2

/-! ### A gated cluster -/

/-- The base cluster is there in two of the modes only. -/
def gatedSection (cluster : XmlNode) : XmlNode where
  name := "level"
  xmlChildrenNode := [{ cluster with
    xmlChildrenNode := { name := "state", properties := [("mode", "game,video")] } ::
      cluster.xmlChildrenNode }]

def modeSection : XmlNode where
  name := "state"
  xmlChildrenNode := [{ name := "item", properties := [("name", "mode")] }]

def gatedFile : XmlFile :=
  thermalFile [baseSection "sim_tz" "1", modeSection, gatedSection (twoSensorCluster "40,38")]

/-- No common event has changed a state. -/
def asking (event : ServiceEvent) : AskedEvent := ⟨event, fun _ _ => false⟩

/-- The states are there and the mode is set before the battery warms up. -/
def modeThenWarm : List AskedEvent :=
  asking .addCommonEventService ::
    asking (.updateThermalState true "mode" "game" false plainRound) :: warmBattery.map asking

/-! ### What is asked for -/

/-- The clusters and the configurations are those that were loaded, at any levels. -/
structure LoadedFrom (config : ServiceConfig) (s : ThermalService) : Prop where
  atLevels : AtLevels s.policy.sensorClusterMap
  clusters : ∀ (name : String) (c : ThermalConfigSensorCluster),
    s.policy.sensorClusterMap[name]? = some c →
    ∃ loaded, (config .sensorClusterMap)[name]? = some loaded ∧ c.stateMap = loaded.stateMap
  policyMap : s.policy.clusterPolicyMap =
    (ThermalPolicy.sortLevel ⟨∅, config .policyMap⟩).clusterPolicyMap

section Served

variable {config : ServiceConfig} {started : Started}
  {registered : Map String (ActionClass × Bool)} {socSet : List String}

theorem Booted.loadedFrom (h : Booted config started) :
    LoadedFrom config (start config started registered socSet) := by
  refine ⟨h.atLevels, fun name c hcluster => ?_, ?_⟩
  · change started.policy.sensorClusterMap[name]? = some c at hcluster
    rw [h.policy] at hcluster
    exact ⟨c, hcluster, rfl⟩
  · show started.policy.clusterPolicyMap = _
    rw [h.policy]
    rfl

theorem LoadedFrom.step (h : LoadedFrom config s) {e : ServiceEvent}
    (hstep : s.step slope build e = .done s') : LoadedFrom config s' := by
  have hmoved := (step_moved h.atLevels hstep).policy
  refine ⟨atLevels_step h.atLevels hstep, fun name c hcluster => ?_,
    (clusterPolicyMap_step h.atLevels hstep).trans h.policyMap⟩
  rw [hmoved] at hcluster
  cases hnow : s.evaluation build e with
  | none =>
    rw [hnow] at hcluster
    exact h.clusters name c hcluster
  | some now =>
    rw [hnow, Option.elim_some, decidedPolicy, ReportingPolicy.evaluated_cluster] at hcluster
    obtain ⟨before, hbefore, rfl⟩ := Option.map_eq_some_iff.mp hcluster
    exact h.clusters name before hbefore

theorem LoadedFrom.mayAsk (h : LoadedFrom config s) (hends : StatesEnd config) :
    MayAsk (fun name value => ¬ Unending name value) s where
  clusters name c hcluster prop hprop := by
    obtain ⟨loaded, hloaded, hstateMap⟩ := h.clusters name c hcluster
    rw [hstateMap] at hprop
    exact hends.clusters name loaded hloaded prop hprop
  entries typeTempMap states subscriber decided hdecided := by
    intro clusterName policyConfig levelAction hconfig hgoverning action haction
    have hlevels : AtLevels { s.policy with typeTempMap }.sensorClusterMap := h.atLevels
    rw [ReportingPolicy.levelDecision_eq hlevels] at hdecided
    cases hdecided
    change s.policy.clusterPolicyMap[clusterName]? = some policyConfig at hconfig
    rw [h.policyMap, ThermalPolicy.sortLevel_lookup] at hconfig
    obtain ⟨written, hwritten, rfl⟩ := Option.map_eq_some_iff.mp hconfig
    have hlevel : levelAction ∈ written := List.mem_mergeSort.mp (governingConfig_mem hgoverning)
    exact hends.entries clusterName written hwritten levelAction hlevel action haction

theorem Bare.mayAsk (h : Bare s) : MayAsk (fun _ _ => False) s where
  clusters name c hcluster := by
    rw [h.clusters] at hcluster
    exact absurd hcluster (by simp)
  entries typeTempMap states subscriber decided hdecided := by
    intro clusterName policyConfig levelAction hconfig hgoverning
    have hnone : { s.policy with typeTempMap }.levelDecision states subscriber =
        .done { s.policy with typeTempMap } := by
      rw [ReportingPolicy.levelDecision]
      dsimp only
      rw [h.clusters]
      rfl
    cases hnone.symm.trans hdecided
    rw [governingConfig] at hgoverning
    dsimp only at hgoverning
    rw [h.levels, Option.ite_none_left_eq_some] at hgoverning
    exact absurd hgoverning.2 (by simp)

/-! ### Whether it is answered -/

/-- Where the state values end, a run is the run under the own answers. -/
theorem run_eq_resolved (h : Booted config started) (hends : StatesEnd config)
    (events : List AskedEvent) :
    events.foldlM (askedStep slope build) (start config started registered socSet) =
      (resolvedRun slope build (start config started registered socSet) events).foldlM
        (step slope build) (start config started registered socSet) := by
  have hsame : (events.foldlM (askedStep slope build)
      (start config started registered socSet)).EndsAs False _ :=
    run_endsAs (fun _ hloaded => LoadedFrom.mayAsk hloaded hends)
      (fun _ _ hasked => .inr hasked) (fun _ _ _ hloaded => LoadedFrom.step hloaded)
      h.loadedFrom events
  exact hsame.eq

theorem Bare.run_eq_resolved (h : Bare s) (events : List AskedEvent) :
    events.foldlM (askedStep slope build) s =
      (resolvedRun slope build s events).foldlM (ThermalService.step slope build) s := by
  have hstep : ∀ (s : ThermalService) (e : ServiceEvent) (s' : ThermalService), Bare s →
      s.step slope build e = .done s' → Bare s' := by
    intro s e s' hbare hdone
    have hnext : (_ ∧ s.step slope build e = .faults) ∨ (reportOf build s.isTempReport e = none ∧ _) :=
      hbare.step e
    rcases hnext with ⟨-, hfaults⟩ | ⟨-, next, hnext, hbare'⟩
    · cases hfaults.symm.trans hdone
    · cases hnext.symm.trans hdone
      exact hbare'
  have hsame : (events.foldlM (askedStep slope build) s).EndsAs False _ :=
    run_endsAs (fun _ hbare => Bare.mayAsk hbare) (fun _ _ hasked => hasked.elim) hstep h events
  exact hsame.eq

theorem ServedAsking.served {events : List AskedEvent}
    (h : ServedAsking slope build config started registered socSet events s) :
    Served slope build config started registered socSet
      (resolvedRun slope build (start config started registered socSet) events) s := by
  refine ⟨h.toBooted, ?_⟩
  rw [← run_resolved (by rw [h.run]; exact nofun)]
  exact h.run

theorem Booted.servesAsking (h : Booted config started) (hdelays : DelaysEnd (config .policyMap))
    (hlevels : ¬ (config .simulationXml = true ∧ config .sensorClusterMap = ∅))
    (hends : StatesEnd config) (events : List AskedEvent) :
    ∃ s, ServedAsking slope build config started registered socSet events s := by
  obtain ⟨s, hs⟩ : ∃ s, Served slope build config started registered socSet
      (resolvedRun slope build (start config started registered socSet) events) s :=
    h.serves hdelays hlevels _
  refine ⟨s, h, ?_⟩
  rw [run_eq_resolved h hends]
  exact hs.run

/-- **The service at work.** After any start-up and for any events: a bad access is made exactly
when the configuration is a simulation without clusters and some report gets through, and if the
texts of the delays and the values of the states are harmless, all events are served otherwise. -/
theorem service_outcome (h : Booted config started) (events : List AskedEvent) :
    (events.foldlM (askedStep slope build) (start config started registered socSet) = .faults ↔
      (config .simulationXml = true ∧ config .sensorClusterMap = ∅) ∧
        acceptedReports build true (events.map AskedEvent.event) ≠ []) ∧
    (DelaysEnd (config .policyMap) → StatesEnd config →
      ((∃ s, ServedAsking slope build config started registered socSet events s) ↔
        ¬ ((config .simulationXml = true ∧ config .sensorClusterMap = ∅) ∧
          acceptedReports build true (events.map AskedEvent.event) ≠ []))) := by
  obtain ⟨hfaults, hserved⟩ : (List.foldlM (step slope build) _ _ = .faults ↔ _) ∧ _ :=
    h.run_outcome (resolvedRun slope build (start config started registered socSet) events)
  rw [acceptedReports_resolvedRun] at hfaults hserved
  have hsame : StatesEnd config ∨ Bare (start config started registered socSet) →
      events.foldlM (askedStep slope build) (start config started registered socSet) =
        (resolvedRun slope build (start config started registered socSet) events).foldlM
          (step slope build) (start config started registered socSet) := by
    rintro (hends | hbare)
    · exact run_eq_resolved h hends events
    · exact hbare.run_eq_resolved events
  refine ⟨?_, fun hdelays hends => ?_⟩
  · rw [← hfaults]
    have hstart : (_ ∧ ¬ _) ∨ Bare (start config started registered socSet) ∧ _ :=
      h.ready_or_bare
    rcases hstart with ⟨-, hlevels⟩ | ⟨hbare, -⟩
    · refine ⟨fun hrun => ?_, fun hrun => absurd (hfaults.mp hrun).1 hlevels⟩
      rw [← run_resolved (by rw [hrun]; exact nofun)]
      exact hrun
    · rw [hsame (.inr hbare)]
  · rw [← hserved hdelays]
    refine exists_congr fun s => ⟨fun hs => hs.served, fun hs => ⟨h, ?_⟩⟩
    rw [hsame (.inl hends)]
    exact hs.run

/-- With a cluster the warm battery is served, without one it is the first and last report. -/
theorem warmBattery_outcome :
    (∃ config started s, Booted config started ∧
      ServedAsking noSlope deviceBuild config started ∅ [] modeThenWarm s) ∧
    ∃ config started, Booted config started ∧
      modeThenWarm.foldlM (askedStep noSlope deviceBuild)
        (start config started ∅ []) = .faults := by
  obtain ⟨config, started, hload, hstart, hpolicies, hstates, hclusters⟩ : ∃ config started,
      thermalSrvConfigInit decimalConversions unsetVariables gatedFile initialConfig =
        some (true, config) ∧
      startUp config {} = .done started ∧ config .policyMap = ∅ ∧ StatesEnd config ∧
      config .sensorClusterMap ≠ ∅ :=
    ⟨_, _, rfl, rfl, rfl, ⟨forall_entries (by decide), forall_entries (by decide)⟩, fun hnone =>
      absurd (congrArg Std.ExtTreeMap.isEmpty hnone) (by decide)⟩
  have hload' : thermalSrvConfigInit decimalConversions unsetVariables
      (thermalFile [baseSection "sim_tz" "1"]) initialConfig = some (true, _) := rfl
  have hbooted : Booted config started := ⟨⟨_, _, .loaded .initial hload⟩, ⟨{}, hstart⟩⟩
  have hbooted' : Booted _ _ := ⟨⟨_, _, .loaded .initial hload'⟩, ⟨{}, rfl⟩⟩
  have hdelays : DelaysEnd (config .policyMap) := by
    rw [hpolicies]
    exact fun _ _ hnone => by simp at hnone
  obtain ⟨s, hs⟩ : ∃ s, ServedAsking noSlope deviceBuild config started ∅ [] modeThenWarm s :=
    ((service_outcome hbooted modeThenWarm).2 hdelays hstates).mpr fun hfaults =>
      hclusters hfaults.1.2
  refine ⟨⟨config, started, s, hbooted, hs⟩, _, _, hbooted',
    (service_outcome hbooted' modeThenWarm).1.mpr ?_⟩
  exact ⟨⟨rfl, rfl⟩, List.cons_ne_nil _ _⟩

/-! ### Which action values come out -/

theorem evaluation_resolved (s : ThermalService) (e : AskedEvent) :
    s.evaluation build (s.resolved build e) = (s.evaluation build e.event).map fun now =>
      (now.1, { now.2 with
        stateMachineMap := (s.atRound build e.event).ownStates e.eventAnswer }) := by
  rw [evaluation, evaluation, resolved, reportOf_answered, immediateOf_answered]
  cases reportOf build s.isTempReport e.event with
  | some now => rfl
  | none => cases immediateOf e.event <;> rfl

theorem resolvedRun_concat {events : List AskedEvent}
    (hrun : (resolvedRun slope build s events).foldlM (step slope build) s = .done s')
    (e : AskedEvent) : resolvedRun slope build s (events ++ [e]) =
      resolvedRun slope build s events ++ [s'.resolved build e] := by
  rw [resolvedRun_append hrun, resolvedRun]
  congr 2
  cases s'.step slope build (s'.resolved build e) <;> rfl

/-- **From reports to actions.** Whenever an event has the clusters evaluated, it is served, and
every registered action executes the extreme of what the clusters contribute at the levels they
reach alone and under the states of that moment, or its fallback. -/
theorem service_arbitrates {events : List AskedEvent} {e : AskedEvent}
    (h : ServedAsking slope build config started registered socSet events s)
    (hlevels : ¬ (config .simulationXml = true ∧ config .sensorClusterMap = ∅))
    (hdistinct : (policyAfter config []).DistinctLevels)
    (hnodelay : (policyAfter config []).NoDelay) (hends : StatesEnd config)
    (hnone : NoneShared registered) (hevaluates : (s.evaluation build e.event).isSome) :
    ∃ s', ServedAsking slope build config started registered socSet (events ++ [e]) s' ∧
      ∀ (name : String) (cls : ActionClass) (isStrict : Bool),
        registered[name]? = some (cls, isStrict) → ∃ v,
          Decides isStrict cls.fallbackValue {v | ∃ clusterName,
            (policyAfter config (evaluationsOf slope build
              (start config started registered socSet) (resolvedRun slope build
                (start config started registered socSet) (events ++ [e])))).Contributes
                ((s.atRound build e.event).ownStates e.eventAnswer) name cls clusterName v} v ∧
          readLastValue s'.actionMap name = some (cls.toResult v) := by
  obtain ⟨now, hnow⟩ := Option.isSome_iff_exists.mp hevaluates
  have hresolved := @evaluation_resolved build s e
  rw [hnow, Option.map_some] at hresolved
  obtain ⟨s', hs'⟩ : ∃ s',
      ServedAsking slope build config started registered socSet (events ++ [e]) s' :=
    h.servesAsking (delaysEnd_of_noDelay hnodelay) hlevels hends _
  refine ⟨s', hs', ?_⟩
  have hserved := hs'.served
  rw [resolvedRun_concat h.served.run] at hserved ⊢
  have hdecided := h.served.decision hserved hdistinct hnodelay hresolved
  generalize evaluationsOf slope build (start config started registered socSet) _ = evaluated
    at hdecided ⊢
  obtain ⟨actionMap', hdecision, hvalue⟩ := @Idle.arbitration_read _ _ h.served.kept.2.2 hnone
    (policyAfter config evaluated) _ hdistinct hnodelay
  obtain rfl := Option.some.inj (hdecided.symm.trans hdecision)
  exact hvalue

/-- The base cluster slows the charging down at its first level, in two of the modes. -/
def chargingFile : XmlFile :=
  thermalFile [modeSection, gatedSection (twoSensorCluster "40,38"),
    { name := "policy", xmlChildrenNode := [
      { name := "config", properties := [("name", "base"), ("level", "1")],
        xmlChildrenNode := [{ name := "current", content := some "1500" }] }] }]

def chargingActions : Map String (ActionClass × Bool) :=
  (∅ : Map String (ActionClass × Bool)).insert "current" (actionCharger, true)

def callScene : AskedEvent := asking (.updateThermalState true "scene" "call" true plainRound)

/-- When a scene is decided at once, the charger ends where the configuration wants it. -/
theorem chargingFile_arbitrates : ∃ config started s s' v,
    ServedAsking noSlope deviceBuild config started chargingActions [] modeThenWarm s ∧
      ServedAsking noSlope deviceBuild config started chargingActions []
        (modeThenWarm ++ [callScene]) s' ∧
      Decides true actionCharger.fallbackValue {v | ∃ clusterName,
        (policyAfter config (evaluationsOf noSlope deviceBuild
          (start config started chargingActions []) (resolvedRun noSlope deviceBuild
            (start config started chargingActions []) (modeThenWarm ++ [callScene])))).Contributes
              ((s.atRound deviceBuild callScene.event).ownStates callScene.eventAnswer) "current"
              actionCharger clusterName v} v ∧
      readLastValue s'.actionMap "current" = some (actionCharger.toResult v) := by
  obtain ⟨config, started, hload, hstart, hdistinct, hnodelay, hstates, hdevice⟩ :
      ∃ config started, thermalSrvConfigInit decimalConversions unsetVariables chargingFile
          initialConfig = some (true, config) ∧
        startUp config {} = .done started ∧ (policyAfter config []).DistinctLevels ∧
        (policyAfter config []).NoDelay ∧ StatesEnd config ∧ config .simulationXml = false :=
    ⟨_, _, rfl, rfl, forall_entries (by decide), forall_entries (by decide),
      ⟨forall_entries (by decide), forall_entries (by decide)⟩, rfl⟩
  have hbooted : Booted config started := ⟨⟨_, _, .loaded .initial hload⟩, ⟨{}, hstart⟩⟩
  have hlevels : ¬ (config .simulationXml = true ∧ config .sensorClusterMap = ∅) :=
    fun hboth => absurd (hdevice.symm.trans hboth.1) Bool.false_ne_true
  obtain ⟨s, hs⟩ : ∃ s,
      ServedAsking noSlope deviceBuild config started chargingActions [] modeThenWarm s :=
    hbooted.servesAsking (delaysEnd_of_noDelay hnodelay) hlevels hstates _
  obtain ⟨s', hs', hvalues⟩ := service_arbitrates hs hlevels hdistinct hnodelay hstates
    (noneShared_of_entries (by decide)) (rfl : (s.evaluation deviceBuild callScene.event).isSome)
  obtain ⟨v, hdecides, hread⟩ := hvalues "current" actionCharger true
    Std.ExtTreeMap.getElem?_insert_self
  exact ⟨config, started, s, s', v, hs, hs', hdecides, hread⟩

/-! ### What a cluster depends on -/

/-- A state that only clients set, and that both services configure or neither does. -/
def AlikeState (config config' : ServiceConfig) (name : String) : Prop :=
  (∃ cls : ClientClass, CollectionClass.ofName name = cls.collectionClass) ∧
    ((∃ item ∈ config .stateItem, item.name = name) ↔
      ∃ item ∈ config' .stateItem, item.name = name)

variable {config' : ServiceConfig} {t t' : ThermalService}

theorem ownStates_holds_eq (s : ThermalService) (eventAnswer : CollectionRef → String → Bool)
    (name value : String) : (s.ownStates eventAnswer).holds name value =
      match s.decideState eventAnswer name value with
      | .done holds => holds
      | _ => false := by
  rw [StateMachineMap.holds, ownStates, Std.ExtTreeMap.getElem?_map]
  cases hstored : s.state.stateCollectionMap[name]? with
  | none =>
    rw [decideState, StateMachine.decideState, hstored]
    rfl
  | some ref => rfl

theorem AlikeState.holds_eq {name : String} (h : AlikeState config config' name)
    {ops : List StateOp} (hs : StateMachine.Follows (config .stateItem) ops s.state)
    (ht : StateMachine.Follows (config' .stateItem) ops t.state) (hscene : s.scene = t.scene)
    (eventAnswer eventAnswer' : CollectionRef → String → Bool) (value : String) :
    (s.ownStates eventAnswer).holds name value = (t.ownStates eventAnswer').holds name value := by
  obtain ⟨⟨cls, hclass⟩, hconfigured⟩ := h
  have hoffered : StateMachine.Offered (config .stateItem) ops name ↔
      StateMachine.Offered (config' .stateItem) ops name :=
    or_congr_right (and_congr_right fun _ => hconfigured)
  have hdecide : s.decideState eventAnswer name value = t.decideState eventAnswer' name value := by
    rw [decideState, decideState, ← hscene]
    by_cases hcase : StateMachine.Offered (config .stateItem) ops name
    · rw [(hs.decideState hclass _ s.scene value).1 hcase,
        (ht.decideState hclass _ s.scene value).1 (hoffered.mp hcase)]
    · rw [(hs.decideState hclass _ s.scene value).2 hcase,
        (ht.decideState hclass _ s.scene value).2 (mt hoffered.mpr hcase)]
  rw [ownStates_holds_eq, ownStates_holds_eq, hdecide]

/-- The services have received the same, and the cluster is the same in both, with states that are
alike. -/
structure SameCluster (config config' : ServiceConfig) (name : String) (s t : ThermalService) :
    Prop where
  levels : AtLevels s.policy.sensorClusterMap
  levels' : AtLevels t.policy.sensorClusterMap
  isTempReport : s.isTempReport = t.isTempReport
  subscriber : s.subscriber = t.subscriber
  typeTempMap : s.policy.typeTempMap = t.policy.typeTempMap
  scene : s.scene = t.scene
  states : ∃ ops : List StateOp, StateMachine.Follows (config .stateItem) ops s.state ∧
    StateMachine.Follows (config' .stateItem) ops t.state
  cluster : s.policy.sensorClusterMap[name]? = t.policy.sensorClusterMap[name]?
  level : s.policy.clusterLevelMap[name]? = t.policy.clusterLevelMap[name]?
  gates : ∀ c : ThermalConfigSensorCluster, s.policy.sensorClusterMap[name]? = some c →
    ∀ prop ∈ c.stateMap.toList, AlikeState config config' prop.1

namespace SameCluster

variable {name : String}

/-- Rounds for the same event find the same answers for the states of the cluster. -/
theorem nextLevel (h : SameCluster config config' name s t) (e : ServiceEvent)
    (eventAnswer eventAnswer' : CollectionRef → String → Bool) (typeTempInfo : TypeTempMap)
    {c : ThermalConfigSensorCluster} (hcluster : s.policy.sensorClusterMap[name]? = some c) :
    c.nextLevel ((s.atRound build e).ownStates eventAnswer)
        s.subscriber.toThermalServiceSubscriber typeTempInfo =
      c.nextLevel ((t.atRound build e).ownStates eventAnswer')
        t.subscriber.toThermalServiceSubscriber typeTempInfo := by
  obtain ⟨ops, hs, ht⟩ := h.states
  rw [h.subscriber]
  apply nextLevel_congr_states
  rw [checkState_eq, checkState_eq, Bool.eq_iff_iff, List.all_eq_true, List.all_eq_true]
  apply forall₂_congr
  intro prop hprop
  have hs' : StateMachine.Follows _ _ (s.atRound build e).state := hs.foldl (stateOps e)
  have ht' : StateMachine.Follows _ _ (t.atRound build e).state := ht.foldl (stateOps e)
  rw [(h.gates c hcluster prop hprop).holds_eq hs' ht' h.scene]

theorem evaluated (h : SameCluster config config' name s t) {e e' : AskedEvent}
    (hevent : e.event = e'.event) (hstep : s.step slope build (s.resolved build e) = .done s')
    (hstep' : t.step slope build (t.resolved build e') = .done t') :
    s'.policy.sensorClusterMap[name]? = t'.policy.sensorClusterMap[name]? ∧
      s'.policy.clusterLevelMap[name]? = t'.policy.clusterLevelMap[name]? ∧
      ∀ c : ThermalConfigSensorCluster, s'.policy.sensorClusterMap[name]? = some c →
        ∃ before, s.policy.sensorClusterMap[name]? = some before ∧
          c.stateMap = before.stateMap := by
  have hpolicy := (step_moved h.levels hstep).policy
  have hpolicy' := (step_moved h.levels' hstep').policy
  have hsame : s.evaluation build e.event = t.evaluation build e'.event := by
    rw [evaluation, evaluation, hevent, h.isTempReport, h.typeTempMap]
  rw [evaluation_resolved] at hpolicy hpolicy'
  rw [hpolicy, hpolicy', ← hsame]
  cases hnow : s.evaluation build e.event with
  | none => exact ⟨h.cluster, h.level, fun c hcluster => ⟨c, hcluster, rfl⟩⟩
  | some now =>
    simp only [Option.map_some, Option.elim_some, decidedPolicy, ReportingPolicy.evaluated_cluster,
      ReportingPolicy.evaluated_level]
    rw [← h.cluster, ← h.level, ← hevent]
    cases hcluster : s.policy.sensorClusterMap[name]? with
    | none => exact ⟨rfl, rfl, fun c hnone => by cases hnone⟩
    | some c =>
      rw [Option.map_some, Option.map_some, Option.map_some, Option.map_some,
        h.nextLevel e.event _ e'.eventAnswer now.1 hcluster]
      refine ⟨rfl, rfl, fun after hafter => ⟨c, rfl, ?_⟩⟩
      cases hafter
      rfl

theorem step (h : SameCluster config config' name s t) {e e' : AskedEvent}
    (hevent : e.event = e'.event) (hstep : s.step slope build (s.resolved build e) = .done s')
    (hstep' : t.step slope build (t.resolved build e') = .done t') :
    SameCluster config config' name s' t' := by
  obtain ⟨hcluster, hlevel, hbefore⟩ := h.evaluated hevent hstep hstep'
  obtain ⟨ops, hs, ht⟩ := h.states
  obtain ⟨hstate, hscene⟩ := step_states hstep
  obtain ⟨hstate', hscene'⟩ := step_states hstep'
  have hmoved := step_moved h.levels hstep
  have hmoved' := step_moved h.levels' hstep'
  have hreport : (reportOf build s.isTempReport (s.resolved build e)).map Prod.fst =
      (reportOf build t.isTempReport (t.resolved build e')).map Prod.fst := by
    rw [resolved, resolved, reportOf_answered, reportOf_answered, Option.map_map, Option.map_map,
      hevent, h.isTempReport]
    rfl
  refine { levels := atLevels_step h.levels hstep, levels' := atLevels_step h.levels' hstep',
           isTempReport := ?switch, subscriber := ?subscriber, typeTempMap := ?temperatures,
           scene := ?scene, states := ⟨ops ++ stateOps e.event, ?machine, ?machine'⟩,
           cluster := hcluster, level := hlevel, gates := ?gates }
  case switch =>
    rw [hmoved.isTempReport, hmoved'.isTempReport, resolved, resolved, switchOf_answered,
      switchOf_answered, hevent, h.isTempReport]
  case subscriber => rw [hmoved.subscriber, hmoved'.subscriber, hreport, h.subscriber]
  case temperatures =>
    rw [typeTempMap_step h.levels hstep, typeTempMap_step h.levels' hstep', hreport, h.typeTempMap]
  case scene =>
    rw [hscene, hscene', resolved, resolved, sceneOf_answered, sceneOf_answered, hevent, h.scene]
  case machine =>
    rw [hstate, stateAfter, resolved, stateOps_answered]
    exact hs.foldl _
  case machine' =>
    rw [hstate', stateAfter, resolved, stateOps_answered, hevent]
    exact ht.foldl _
  case gates =>
    intro c hafter prop hprop
    obtain ⟨before, hfound, hstateMap⟩ := hbefore c hafter
    rw [hstateMap] at hprop
    exact h.gates before hfound prop hprop

end SameCluster

/-- **A cluster does not notice the rest of the configuration.** Two services with the same base
information and the same cluster under a name go through the same events. If the states of the
cluster are ones that only clients set, configured in both or in neither, the cluster is at the same
level in both, whatever other clusters, policies, states and actions they have, and whatever the
states answer that common events change. -/
theorem cluster_level_independent {started' : Started}
    {registered' : Map String (ActionClass × Bool)} {socSet' : List String}
    {events events' : List AskedEvent}
    (h : ServedAsking slope build config started registered socSet events s)
    (h' : ServedAsking slope build config' started' registered' socSet' events' t)
    (hevents : events.map AskedEvent.event = events'.map AskedEvent.event)
    (hbase : started.baseInfo = started'.baseInfo) {name : String}
    {c : ThermalConfigSensorCluster} (hcluster : (config .sensorClusterMap)[name]? = some c)
    (hcluster' : (config' .sensorClusterMap)[name]? = some c)
    (hgates : ∀ prop ∈ c.stateMap.toList, AlikeState config config' prop.1) :
    s.policy.sensorClusterMap[name]? = t.policy.sensorClusterMap[name]? ∧
      s.policy.clusterLevelMap[name]? = t.policy.clusterLevelMap[name]? := by
  have hstart : SameCluster config config' name (start config started registered socSet)
      (start config' started' registered' socSet') :=
    { levels := h.atLevels
      levels' := h'.atLevels
      isTempReport := rfl
      subscriber := by rw [start, start, hbase]
      typeTempMap := by rw [h.served.start_policy, h'.served.start_policy]; rfl
      scene := rfl
      states := ⟨[], StateMachine.follows_start _, StateMachine.follows_start _⟩
      cluster := by
        rw [h.served.start_policy, h'.served.start_policy]
        exact hcluster.trans hcluster'.symm
      level := by rw [h.served.start_policy, h'.served.start_policy]; rfl
      gates := by
        intro found hfound
        rw [h.served.start_policy] at hfound
        cases hcluster.symm.trans hfound
        exact hgates }
  have hmatched : List.Forall₂ (fun e e' : AskedEvent => e.event = e'.event) events events' := by
    have hboth : List.Forall₂ Eq (events.map AskedEvent.event) (events'.map AskedEvent.event) := by
      rw [List.forall₂_eq_eq_eq]
      exact hevents
    rw [List.forall₂_map_left_iff, List.forall₂_map_right_iff] at hboth
    exact hboth
  have hlast : SameCluster config config' name s t :=
    alike_of_runs (fun halike hevent hstep hstep' =>
      halike.step hevent (step_resolved hstep) (step_resolved hstep')) hmatched hstart h.run h'.run
  exact ⟨hlast.cluster, hlast.level⟩

/-- The gated file with a second cluster in front, for charging only. -/
def secondClusterFile : XmlFile :=
  thermalFile [baseSection "sim_tz" "1",
    { modeSection with xmlChildrenNode :=
        { name := "item", properties := [("name", "charge")] } :: modeSection.xmlChildrenNode },
    { gatedSection (twoSensorCluster "40,38") with xmlChildrenNode :=
        { twoSensorCluster "30,20" with
          properties := [("name", "aux"), ("sensor", "soc,battery")]
          xmlChildrenNode := { name := "state", properties := [("charge", "1")] } ::
            (twoSensorCluster "30,20").xmlChildrenNode } ::
          (gatedSection (twoSensorCluster "40,38")).xmlChildrenNode }]

/-- Common events have made every state hold. -/
def holdingModeThenWarm : List AskedEvent :=
  modeThenWarm.map fun e => { e with eventAnswer := fun _ _ => true }

theorem warmBattery_independent : ∃ s t : ThermalService,
    s.policy.clusterLevelMap["aux"]? = some 1 ∧ t.policy.clusterLevelMap["aux"]? = none ∧
      s.policy.clusterLevelMap["base"]? = t.policy.clusterLevelMap["base"]? := by
  obtain ⟨config, started, config', started', hload, hstart, hload', hstart', hbase, hitems,
      hitems', c, hcluster, hcluster', hgate, hrun, hrun'⟩ : ∃ config started config' started',
      thermalSrvConfigInit decimalConversions unsetVariables secondClusterFile initialConfig =
        some (true, config) ∧
      startUp config {} = .done started ∧
      thermalSrvConfigInit decimalConversions unsetVariables gatedFile initialConfig =
        some (true, config') ∧
      startUp config' {} = .done started' ∧ started.baseInfo = started'.baseInfo ∧
      config .stateItem = [{ name := "charge" }, { name := "mode" }] ∧
      config' .stateItem = [{ name := "mode" }] ∧
      ∃ c, (config .sensorClusterMap)["base"]? = some c ∧
        (config' .sensorClusterMap)["base"]? = some c ∧
        c.stateMap.toList = [("mode", "game,video")] ∧
      (holdingModeThenWarm.foldlM (askedStep noSlope deviceBuild)
        (start config started ∅ []) >>= fun s =>
          orFaults (if s.policy.clusterLevelMap["aux"]? = some 1 then some s else none)).isDone ∧
      (modeThenWarm.foldlM (askedStep noSlope deviceBuild)
        (start config' started' ∅ []) >>= fun t =>
          orFaults (if t.policy.clusterLevelMap["aux"]? = none then some t else none)).isDone :=
    ⟨_, _, _, _, rfl, rfl, rfl, rfl, rfl, rfl, rfl, _, rfl, rfl, rfl, by decide +kernel,
      by decide +kernel⟩
  obtain ⟨_, hdone⟩ := isDone_iff.mp hrun
  obtain ⟨s, hs, haux⟩ := bind_eq_done_iff.mp hdone
  obtain ⟨_, hdone'⟩ := isDone_iff.mp hrun'
  obtain ⟨t, ht, haux'⟩ := bind_eq_done_iff.mp hdone'
  have hserved : ServedAsking noSlope deviceBuild config started ∅ [] holdingModeThenWarm s :=
    ⟨⟨⟨_, _, .loaded .initial hload⟩, ⟨{}, hstart⟩⟩, hs⟩
  have hserved' : ServedAsking noSlope deviceBuild config' started' ∅ [] modeThenWarm t :=
    ⟨⟨⟨_, _, .loaded .initial hload'⟩, ⟨{}, hstart'⟩⟩, ht⟩
  have hgates : ∀ prop ∈ c.stateMap.toList, AlikeState config config' prop.1 := by
    rw [hgate]
    intro prop hprop
    obtain rfl := List.mem_singleton.mp hprop
    refine ⟨⟨.extend, by decide⟩, ?_⟩
    rw [hitems, hitems']
    decide
  refine ⟨s, t, ?_, ?_, (cluster_level_independent hserved hserved' rfl hbase hcluster hcluster'
    hgates).2⟩
  · by_contra hne
    rw [if_neg hne] at haux
    cases haux
  · by_contra hne
    rw [if_neg hne] at haux'
    cases haux'

end Served

end ThermalService

end ThermalManager
