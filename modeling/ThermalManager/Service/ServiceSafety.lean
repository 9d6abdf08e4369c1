import ThermalManager.Service.ServiceLevels

/-!
# The service at work

What can go wrong after the start-up: a simulation has no level to take the maximum of, and the text
of a delay sends a round into a call that does not return. With the answers of the states at hand,
nothing else that clients, the driver, the shell or timers do stops the service.
-/

namespace ThermalManager

open Outcome

/-! ### Rounds -/

/-- No text of a delay contains what `SplitString` does not get over. -/
def DelaysEnd (policyMap : PolicyConfigMap) : Prop :=
  ∀ (clusterName : String) (policyConfig : List PolicyConfig),
    policyMap[clusterName]? = some policyConfig →
    ∀ levelAction ∈ policyConfig, ∀ action ∈ levelAction.policyActionList,
      ¬ Endless action.actionPropMap["delaytime"]?

theorem policyCall_isSome {action : PolicyAction}
    (h : ¬ Endless action.actionPropMap["delaytime"]?) (uninit : PolicyDelayAction) :
    (policyCall uninit action).isSome := by
  rw [policyCall]
  split
  case h_1 delayTime hprop htext =>
    rw [htext, ← splitString_eq_none_iff] at h
    split
    · contradiction
    · rfl
    · rfl
  case h_2 => rfl

theorem governingConfig_mem {clusterLevelMap : Map String Nat} {clusterName : String}
    {policyConfig : List PolicyConfig} {levelAction : PolicyConfig}
    (h : governingConfig clusterLevelMap clusterName policyConfig = some levelAction) :
    levelAction ∈ policyConfig := by
  rw [governingConfig, Option.ite_none_left_eq_some] at h
  obtain ⟨-, hfound⟩ := h
  cases hlevel : clusterLevelMap[clusterName]? with
  | none =>
    rw [hlevel] at hfound
    cases hfound
  | some clusterCurrLev =>
    rw [hlevel] at hfound
    exact List.mem_reverse.mp (List.mem_of_find?_eq_some hfound)

/-- A round over such texts returns, and stays in the configuration as it was sorted. -/
theorem DelaysEnd.policyDecision {policy : ThermalPolicy} {policyMap : PolicyConfigMap}
    (h : DelaysEnd policyMap)
    (hsorted : policy.clusterPolicyMap = (ThermalPolicy.sortLevel ⟨∅, policyMap⟩).clusterPolicyMap)
    (env : RoundEnv) (actionMap : ThermalActionMap) :
    (ThermalManager.policyDecision policy env actionMap).isSome := by
  apply policyDecision_isSome
  intro clusterName policyConfig levelAction name action hconfig hgoverning hentry
  rw [hsorted, ThermalPolicy.sortLevel_lookup] at hconfig
  obtain ⟨written, hwritten, rfl⟩ := Option.map_eq_some_iff.mp hconfig
  have hlevel : levelAction ∈ written := List.mem_mergeSort.mp (governingConfig_mem hgoverning)
  have haction : action ∈ levelAction.policyActionList := (lastAdmitted_iff.mp hentry).mem
  exact policyCall_isSome (h clusterName written hwritten levelAction hlevel action haction) _

theorem policyDecision_without_levels {policy : ThermalPolicy} (h : policy.clusterLevelMap = ∅)
    (env : RoundEnv) (actionMap : ThermalActionMap) :
    (policyDecision policy env actionMap).isSome := by
  apply policyDecision_isSome
  intro clusterName policyConfig levelAction name action _ hgoverning
  rw [governingConfig, h, Option.ite_none_left_eq_some] at hgoverning
  exact absurd hgoverning.2 (by simp)

namespace ThermalService

variable {slope : List Int → Double} {build : ServiceBuild} {s s' : ThermalService}

/-! ### A service that has levels to write -/

theorem evaluated_ready {simulationXml : Bool} {policy : ReportingPolicy}
    (h : policy.Ready simulationXml) (states : StateMachineMap)
    (subscriber : ThermalServiceSubscriber) :
    (policy.evaluated states subscriber).Ready simulationXml := by
  have hdecided := ReportingPolicy.levelDecision_guarded h.levels states subscriber
  rw [ReportingPolicy.levelDecision_eq h.levels] at hdecided
  rcases hdecided with ⟨-, hsame⟩ | hlevelled
  · rw [hsame]
    exact h
  · exact ⟨hlevelled.1, fun _ => hlevelled.2.1⟩

theorem onTemperatureChanged_guarded (h : s.policy.Ready s.simulationXml)
    (typeTempMap : TypeTempMap) (env : RoundEnv) :
    (s.onTemperatureChanged slope typeTempMap env).Guarded fun s' =>
      s'.policy.Ready s'.simulationXml := by
  rw [onTemperatureChanged]
  split
  case isTrue => exact h
  case isFalse =>
    have hreceived (s' : ThermalService) (h' : s'.policy.Ready s'.simulationXml)
        (info : TypeTempMap) : (s'.onReceivedSensorInfo info env).Guarded fun reported =>
          reported.policy.Ready reported.simulationXml := by
      rw [onReceivedSensorInfo]
      exact (h'.onSensorInfoReported _).bind fun _ hready => hready
    have hnow := hreceived { s with subscriber := s.subscriber.receive typeTempMap } h
    exact (hnow _).bind fun _ hready => hready

theorem executePolicy_guarded (h : s.policy.Ready s.simulationXml) (env : RoundEnv) :
    (s.executePolicy env).Guarded fun s' => s'.policy.Ready s'.simulationXml := by
  rw [executePolicy, ReportingPolicy.levelDecision_eq h.levels, done_bind]
  have hround (policy : ReportingPolicy) : (orDiverges
      (policyDecision policy.toThermalPolicy env s.actionMap)).Guarded fun _ => True :=
    guarded_orDiverges fun _ _ => trivial
  exact (hround _).bind fun _ _ => evaluated_ready h _ _

theorem step_guarded (h : s.policy.Ready s.simulationXml) (e : ServiceEvent) :
    (s.step slope build e).Guarded fun s' => s'.policy.Ready s'.simulationXml := by
  have hcase : StepCase slope build s e _ := s.step_cases e
  generalize s.step slope build e = outcome at hcase
  cases hcase with
  | report => exact onTemperatureChanged_guarded h _ _
  | immediate =>
    have hready (state : StateMachine) :
        { s with state }.policy.Ready { s with state }.simulationXml := h
    exact executePolicy_guarded (hready _) _
  | other => exact h

/-! ### A service that has none -/

/-- A simulation without a cluster. -/
structure Bare (s : ThermalService) : Prop where
  simulationXml : s.simulationXml = true
  clusters : s.policy.sensorClusterMap = ∅
  levels : s.policy.clusterLevelMap = ∅

theorem Bare.atLevels (h : Bare s) : AtLevels s.policy.sensorClusterMap := by
  intro name sc hlookup
  rw [h.clusters] at hlookup
  exact absurd hlookup (by simp)

theorem Bare.onTemperatureChanged (h : Bare s) {typeTempMap : TypeTempMap}
    (hreport : typeTempMap.isEmpty = false) (env : RoundEnv) :
    s.onTemperatureChanged slope typeTempMap env = .faults := by
  have hfaults (report : SensorReport) :
      s.policy.onSensorInfoReported s.simulationXml report = .faults := by
    have hafter := ReportingPolicy.afterReport_faults h.clusters h.levels report
    rw [ReportingPolicy.afterReport, ← h.simulationXml] at hafter
    cases hreported : s.policy.onSensorInfoReported s.simulationXml report with
    | done reported =>
      rw [hreported] at hafter
      cases hafter
    | diverges =>
      rw [hreported] at hafter
      cases hafter
    | faults => rfl
  rw [ThermalService.onTemperatureChanged, hreport, if_neg Bool.false_ne_true]
  dsimp only
  rw [onReceivedSensorInfo]
  dsimp only
  rw [hfaults]
  rfl

theorem Bare.executePolicy (h : Bare s) (env : RoundEnv) :
    ∃ s', s.executePolicy env = .done s' ∧ Bare s' := by
  have hnone : s.policy.levelDecision env.stateMachineMap
      s.subscriber.toThermalServiceSubscriber = .done s.policy := by
    rw [ReportingPolicy.levelDecision, h.clusters]
    rfl
  obtain ⟨actionMap, hround⟩ := Option.isSome_iff_exists.mp
    (policyDecision_without_levels h.levels env s.actionMap)
  rw [ThermalService.executePolicy, hnone, done_bind, orDiverges_eq_done_iff.mpr hround, done_bind]
  exact ⟨_, rfl, h.simulationXml, h.clusters, h.levels⟩

theorem Bare.step (h : Bare s) (e : ServiceEvent) :
    (reportOf build s.isTempReport e ≠ none ∧ s.step slope build e = .faults) ∨
      (reportOf build s.isTempReport e = none ∧
        ∃ s', s.step slope build e = .done s' ∧ Bare s') := by
  have hcase : StepCase slope build s e _ := s.step_cases e
  generalize s.step slope build e = outcome at hcase
  cases hcase with
  | report hreport =>
    refine .inl ⟨?_, h.onTemperatureChanged (reportOf_ne_empty hreport) _⟩
    rw [hreport]
    exact Option.some_ne_none _
  | immediate hreport =>
    have hbare (state : StateMachine) : Bare { s with state } :=
      ⟨h.simulationXml, h.clusters, h.levels⟩
    exact .inr ⟨hreport, (hbare _).executePolicy _⟩
  | other hreport => exact .inr ⟨hreport, _, rfl, h.simulationXml, h.clusters, h.levels⟩

theorem Bare.run (h : Bare s) (events : List ServiceEvent) :
    (acceptedReports build s.isTempReport events ≠ [] ∧
        events.foldlM (ThermalService.step slope build) s = .faults) ∨
      (acceptedReports build s.isTempReport events = [] ∧
        ∃ s', events.foldlM (ThermalService.step slope build) s = .done s') := by
  induction events generalizing s with
  | nil => exact .inr ⟨rfl, s, rfl⟩
  | cons e rest ih =>
    rw [List.foldlM_cons, acceptedReports]
    have hfirst : (_ ∧ s.step slope build e = _) ∨ (reportOf build _ _ = _ ∧ _) := h.step e
    rcases hfirst with ⟨hreport, hstep⟩ | ⟨hreport, mid, hstep, hbare⟩
    · obtain ⟨now, hnow⟩ := Option.ne_none_iff_exists'.mp hreport
      rw [hstep, hnow]
      exact .inl ⟨List.cons_ne_nil _ _, rfl⟩
    · rw [hstep, done_bind, hreport, ← (step_moved h.atLevels hstep).isTempReport]
      exact ih hbare

/-! ### Rounds that return -/

/-- The policy has the configuration as it was sorted, and no delay in it runs on. -/
structure Deciding (policyMap : PolicyConfigMap) (s : ThermalService) : Prop where
  ready : s.policy.Ready s.simulationXml
  policyMap : s.policy.clusterPolicyMap = (ThermalPolicy.sortLevel ⟨∅, policyMap⟩).clusterPolicyMap

variable {policyMap : PolicyConfigMap}

theorem Deciding.step (h : Deciding policyMap s) {e : ServiceEvent}
    (hstep : s.step slope build e = .done s') : Deciding policyMap s' := by
  have hready : (s.step slope build e).Guarded _ := step_guarded h.ready e
  rw [hstep] at hready
  exact ⟨hready, (clusterPolicyMap_step h.ready.levels hstep).trans h.policyMap⟩

theorem Deciding.round (h : Deciding policyMap s) (hdelays : DelaysEnd policyMap)
    (policy : ReportingPolicy) (hpolicy : policy.clusterPolicyMap = s.policy.clusterPolicyMap)
    (env : RoundEnv) (actionMap : ThermalActionMap) :
    orDiverges (policyDecision policy.toThermalPolicy env actionMap) ≠ .diverges := by
  have hreturns := hdelays.policyDecision (hpolicy.trans h.policyMap) env actionMap
  obtain ⟨decided, hround⟩ := Option.isSome_iff_exists.mp hreturns
  rw [hround]
  exact fun hnever => by cases hnever

theorem writeLevel_returns (policy : ReportingPolicy) (simulationXml : Bool) :
    policy.writeLevel simulationXml ≠ .diverges := by
  rw [ReportingPolicy.writeLevel]
  split
  · exact fun h => by cases h
  · dsimp only
    cases (policy.clusterLevelMap.toList.map Prod.snd).max? <;> exact fun h => by cases h

theorem Deciding.onTemperatureChanged (h : Deciding policyMap s) (hdelays : DelaysEnd policyMap)
    (typeTempMap : TypeTempMap) (env : RoundEnv) :
    s.onTemperatureChanged slope typeTempMap env ≠ .diverges := by
  have hreported (report : SensorReport) :
      s.policy.onSensorInfoReported s.simulationXml report ≠ .diverges := by
    have hlevels : AtLevels { s.policy with typeTempMap := report.info }.sensorClusterMap :=
      h.ready.levels
    rw [ReportingPolicy.onSensorInfoReported, ReportingPolicy.levelDecision_eq hlevels, done_bind]
    refine bind_ne_diverges (writeLevel_returns _ _) fun _ _ => bind_ne_diverges ?_ ?_
    · exact h.round hdelays _ (by rfl) _ _
    · exact fun _ _ hnever => by cases hnever
  rw [ThermalService.onTemperatureChanged]
  split
  · exact fun hnever => by cases hnever
  · apply bind_ne_diverges
    · rw [onReceivedSensorInfo]
      apply bind_ne_diverges (hreported _)
      exact fun _ _ hnever => by cases hnever
    · exact fun _ _ hnever => by cases hnever

theorem Deciding.executePolicy (h : Deciding policyMap s) (hdelays : DelaysEnd policyMap)
    (env : RoundEnv) : s.executePolicy env ≠ .diverges := by
  rw [ThermalService.executePolicy, ReportingPolicy.levelDecision_eq h.ready.levels, done_bind]
  apply bind_ne_diverges
  · exact h.round hdelays _ (by rfl) _ _
  · exact fun _ _ hnever => by cases hnever

theorem Deciding.step_returns (h : Deciding policyMap s) (hdelays : DelaysEnd policyMap)
    (e : ServiceEvent) : s.step slope build e ≠ .diverges := by
  have hcase : StepCase slope build s e _ := s.step_cases e
  generalize s.step slope build e = outcome at hcase
  cases hcase with
  | report => exact h.onTemperatureChanged hdelays _ _
  | immediate =>
    have hstate (state : StateMachine) : Deciding policyMap { s with state } :=
      ⟨h.ready, h.policyMap⟩
    exact (hstate _).executePolicy hdelays _
  | other => exact fun hnever => by cases hnever

theorem Deciding.run_returns (h : Deciding policyMap s) (hdelays : DelaysEnd policyMap)
    (events : List ServiceEvent) :
    events.foldlM (ThermalService.step slope build) s ≠ .diverges := by
  induction events generalizing s with
  | nil => exact fun hnever => by cases hnever
  | cons e rest ih =>
    rw [List.foldlM_cons]
    apply bind_ne_diverges (h.step_returns hdelays e)
    exact fun mid hmid => ih (h.step hmid)

/-! ### The life of the service -/

variable {config : ServiceConfig} {started : Started}
  {registered : Map String (ActionClass × Bool)} {socSet : List String}

/-- What the service starts with: levels that can be written, or none at all. -/
theorem Booted.ready_or_bare (h : Booted config started) :
    Deciding (config .policyMap) (start config started registered socSet) ∧
        ¬ (config .simulationXml = true ∧ config .sensorClusterMap = ∅) ∨
      Bare (start config started registered socSet) ∧
        config .simulationXml = true ∧ config .sensorClusterMap = ∅ := by
  by_cases hempty : config .simulationXml = true ∧ config .sensorClusterMap = ∅
  · refine .inr ⟨⟨hempty.1, ?clusters, ?levels⟩, hempty⟩
    case clusters =>
      show started.policy.sensorClusterMap = ∅
      rw [h.policy]
      exact hempty.2
    case levels =>
      show started.policy.clusterLevelMap = ∅
      rw [h.policy]
      rfl
  · refine .inl ⟨⟨⟨h.atLevels, ?clusters⟩, ?policyMap⟩, hempty⟩
    case clusters =>
      intro hsim hnone
      change started.policy.sensorClusterMap = ∅ at hnone
      rw [h.policy] at hnone
      exact hempty ⟨hsim, hnone⟩
    case policyMap =>
      show started.policy.clusterPolicyMap = _
      rw [h.policy]
      rfl

theorem Booted.serves (h : Booted config started) (hdelays : DelaysEnd (config .policyMap))
    (hlevels : ¬ (config .simulationXml = true ∧ config .sensorClusterMap = ∅))
    (events : List ServiceEvent) :
    ∃ s, Served slope build config started registered socSet events s := by
  have hstart : Deciding _ (start config started registered socSet) ∧ _ ∨ Bare _ ∧ _ :=
    h.ready_or_bare
  obtain ⟨hdeciding, -⟩ | ⟨-, hempty⟩ := hstart
  · have hsafe : events.foldlM (step slope build) (start config started registered socSet) ≠
        .faults :=
      (Guarded.foldlM (fun s : ThermalService => s.policy.Ready s.simulationXml)
        (fun s e _ hready => step_guarded hready e) hdeciding.ready).ne_faults
    cases hrun : events.foldlM (step slope build) (start config started registered socSet) with
    | done s => exact ⟨s, h, hrun⟩
    | diverges => exact absurd hrun (hdeciding.run_returns hdelays events)
    | faults => exact absurd hrun hsafe
  · exact absurd hempty hlevels

/-- With the answers of the states at hand: a bad access is made exactly when the configuration is a
simulation without clusters and some report gets through, and if the texts of the delays are
harmless, all events are served otherwise. -/
theorem Booted.run_outcome (h : Booted config started) (events : List ServiceEvent) :
    (events.foldlM (step slope build) (start config started registered socSet) = .faults ↔
      (config .simulationXml = true ∧ config .sensorClusterMap = ∅) ∧
        acceptedReports build true events ≠ []) ∧
    (DelaysEnd (config .policyMap) →
      ((∃ s, Served slope build config started registered socSet events s) ↔
        ¬ ((config .simulationXml = true ∧ config .sensorClusterMap = ∅) ∧
          acceptedReports build true events ≠ []))) := by
  have hstart : Deciding _ (start config started registered socSet) ∧ _ ∨ Bare _ ∧ _ :=
    h.ready_or_bare
  rcases hstart with ⟨hdeciding, hlevels⟩ | ⟨hbare, hempty⟩
  · have hsafe : (events.foldlM (step slope build) (start config started registered socSet)).Guarded
        fun s => s.policy.Ready s.simulationXml :=
      Guarded.foldlM _ (fun s e _ hready => step_guarded hready e) hdeciding.ready
    refine ⟨iff_of_false hsafe.ne_faults fun hboth => hlevels hboth.1, fun hdelays => ?_⟩
    exact iff_of_true (h.serves hdelays hlevels events) fun hboth => hlevels hboth.1
  · rw [and_iff_right hempty]
    have hlast : (acceptedReports build true events ≠ [] ∧
        events.foldlM (step slope build) _ = _) ∨ _ := hbare.run events
    rcases hlast with ⟨hreports, hrun⟩ | ⟨hreports, s, hrun⟩
    · refine ⟨iff_of_true hrun hreports, fun _ => iff_of_false ?_ (not_not.mpr hreports)⟩
      rintro ⟨s, hs⟩
      cases hrun.symm.trans hs.run
    · refine ⟨iff_of_false ?_ (not_not.mpr hreports), fun _ => ?_⟩
      · rw [hrun]
        exact fun hfaults => by cases hfaults
      · exact iff_of_true ⟨s, h, hrun⟩ (not_not.mpr hreports)

end ThermalService

end ThermalManager
