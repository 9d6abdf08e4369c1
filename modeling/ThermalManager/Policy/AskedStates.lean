import ThermalManager.Lib.Outcome
import ThermalManager.Policy.Reporting

/-!
# Rounds that ask for the states

`CheckState` of the clusters and `StateMachineDecision` of the policy ask the collections of the
state machine one after the other, up to the first state that does not hold, and a collection need
not return. A round here does the asking. Where it returns it is the round under the answers, and
where all that it asks returns it is that round.
-/

namespace ThermalManager

open Outcome

/-! ### The source -/

namespace Asked

-- `decideState` is what the collection found under a name answers; without one nothing holds
variable (decideState : String → String → Outcome Bool)

/-- The loop over the states of `CheckState` and `StateMachineDecision`. -/
def decideStates : List (String × String) → Outcome Bool
  | [] => .done true
  | prop :: rest => do
      let holds ← decideState prop.1 prop.2
      if holds then decideStates rest else .done false

def checkState (c : ThermalConfigSensorCluster) : Outcome Bool :=
  decideStates decideState c.stateMap.toList

def updateThermalLevel (subscriber : ThermalServiceSubscriber) (typeTempInfo : TypeTempMap)
    (c : ThermalConfigSensorCluster) : Outcome ThermalConfigSensorCluster := do
  let holds ← checkState decideState c
  if !holds then .done { c with latestLevel := 0 }
  else
    let levelList ← .orFaults (c.calculateSensorLevel subscriber typeTempInfo)
    match levelList.max? with
    | none => .done c
    | some level => .done { c with latestLevel := level }

def updateCluster (subscriber : ThermalServiceSubscriber) (policy : ReportingPolicy)
    (cluster : String × ThermalConfigSensorCluster) : Outcome ReportingPolicy := do
  let sc ← updateThermalLevel decideState subscriber policy.typeTempMap cluster.2
  .done { policy with
    sensorClusterMap := policy.sensorClusterMap.insert cluster.1 sc
    clusterLevelMap := policy.clusterLevelMap.insert cluster.1 sc.latestLevel }

def levelDecision (policy : ReportingPolicy) (subscriber : ThermalServiceSubscriber) :
    Outcome ReportingPolicy :=
  policy.sensorClusterMap.toList.foldlM (updateCluster decideState subscriber) policy

def stateMachineDecision (stateMap : Map String String) : Outcome Bool :=
  decideStates decideState (stateMap.toList.filter fun prop => prop.1 != "delaytime")

/-- One turn of the first loop of `ActionDecision`. -/
def addInfo (infos : Map String PolicyAction) (action : PolicyAction) :
    Outcome (Map String PolicyAction) := do
  let holds ← if action.isProp then stateMachineDecision decideState action.actionPropMap
    else .done true
  .done (if holds then infos.insert action.actionName action else infos)

def actionDecision (env : RoundEnv) (clusterName : String) (actionMap : ThermalActionMap)
    (actionList : List PolicyAction) : Outcome ThermalActionMap := do
  let actionPolicyInfos ← actionList.foldlM (addInfo decideState) ∅
  .orDiverges (((env.hashOrder clusterName).walk actionPolicyInfos).foldlM
    (addPolicyAction (env.uninit clusterName)) actionMap)

def clusterDecision (clusterLevelMap : Map String Nat) (env : RoundEnv)
    (actionMap : ThermalActionMap) (clusterPolicy : String × List PolicyConfig) :
    Outcome ThermalActionMap :=
  match governingConfig clusterLevelMap clusterPolicy.1 clusterPolicy.2 with
  | none => .done actionMap
  | some levelAction =>
      actionDecision decideState env clusterPolicy.1 actionMap levelAction.policyActionList

def policyDecision (policy : ThermalPolicy) (env : RoundEnv) (actionMap : ThermalActionMap) :
    Outcome ThermalActionMap := do
  let actionMap ← policy.clusterPolicyMap.toList.foldlM
    (clusterDecision decideState policy.clusterLevelMap env) actionMap
  .done (actionExecution env actionMap)

def onSensorInfoReported (simulationXml : Bool) (policy : ReportingPolicy)
    (report : SensorReport) : Outcome (ReportingPolicy × Option String × ThermalActionMap) := do
  let policy := { policy with typeTempMap := report.info }
  let policy ← levelDecision decideState policy report.subscriber
  let levelFile ← policy.writeLevel simulationXml
  let actionMap ← policyDecision decideState policy.toThermalPolicy report.env report.actionMap
  .done (policy, levelFile, actionMap)

end Asked

/-! ### The answers -/

/-- What a round finds that has the answers at hand. -/
def StateMachineMap.holds (states : StateMachineMap) (name value : String) : Bool :=
  (states[name]?).any fun decideState => decideState value

theorem checkState_eq (c : ThermalConfigSensorCluster) (states : StateMachineMap) :
    c.checkState states = c.stateMap.toList.all fun prop => states.holds prop.1 prop.2 := by
  rw [ThermalConfigSensorCluster.checkState]
  congr 1
  funext prop
  rw [StateMachineMap.holds]
  cases states[prop.1]? <;> rfl

theorem stateMachineDecision_eq (states : StateMachineMap) (stateMap : Map String String) :
    stateMachineDecision states stateMap =
      (stateMap.toList.filter fun prop => prop.1 != "delaytime").all fun prop =>
        states.holds prop.1 prop.2 := by
  rw [stateMachineDecision, List.all_filter]
  congr 1
  funext prop
  rw [StateMachineMap.holds]
  cases hdelay : prop.1 == "delaytime" <;> simp [hdelay, bne]

namespace Asked

/-- What is asked for is answered so, or, where it may, never. -/
def Answers (mayDiverge : Prop) (asked : String → String → Prop)
    (decideState : String → String → Outcome Bool) (states : StateMachineMap) : Prop :=
  ∀ name value : String, asked name value →
    (decideState name value).EndsAs mayDiverge (.done (states.holds name value))

/-- What the clusters ask for. -/
def AskedByClusters (asked : String → String → Prop) (clusters : SensorClusterMap) : Prop :=
  ∀ (name : String) (c : ThermalConfigSensorCluster), clusters[name]? = some c →
    ∀ prop ∈ c.stateMap.toList, asked prop.1 prop.2

/-- What the entries of the governing configurations ask for. -/
def AskedByEntries (asked : String → String → Prop) (policy : ThermalPolicy) : Prop :=
  ∀ (clusterName : String) (policyConfig : List PolicyConfig) (levelAction : PolicyConfig),
    policy.clusterPolicyMap[clusterName]? = some policyConfig →
    governingConfig policy.clusterLevelMap clusterName policyConfig = some levelAction →
    ∀ action ∈ levelAction.policyActionList, action.isProp = true →
      ∀ prop ∈ action.actionPropMap.toList, prop.1 ≠ "delaytime" → asked prop.1 prop.2

section Answered

variable {mayDiverge : Prop} {asked : String → String → Prop}
  {decideState : String → String → Outcome Bool} {states : StateMachineMap}

theorem decideStates_endsAs (h : Answers mayDiverge asked decideState states)
    {props : List (String × String)} (hasked : ∀ prop ∈ props, asked prop.1 prop.2) :
    (decideStates decideState props).EndsAs mayDiverge
      (.done (props.all fun prop => states.holds prop.1 prop.2)) := by
  induction props with
  | nil => exact .refl _
  | cons prop rest ih =>
    have hrest := ih fun other hother => hasked other (List.mem_cons_of_mem _ hother)
    have hbind := (h prop.1 prop.2 (hasked prop List.mem_cons_self)).bind
      (f := fun holds => if holds then decideStates decideState rest else .done false)
      (g := fun holds => .done (holds && rest.all fun prop => states.holds prop.1 prop.2))
      (fun holds _ => by
        cases holds with
        | false => exact .refl _
        | true => exact hrest)
    exact hbind

theorem updateThermalLevel_endsAs (h : Answers mayDiverge asked decideState states)
    {c : ThermalConfigSensorCluster} (hasked : ∀ prop ∈ c.stateMap.toList, asked prop.1 prop.2)
    (subscriber : ThermalServiceSubscriber) (typeTempInfo : TypeTempMap) :
    (updateThermalLevel decideState subscriber typeTempInfo c).EndsAs mayDiverge
      (.orFaults (c.updateThermalLevel states subscriber typeTempInfo)) := by
  have hcheck := decideStates_endsAs h hasked
  rw [← checkState_eq] at hcheck
  have hbind := hcheck.bind
    (f := fun holds => if !holds then .done { c with latestLevel := 0 }
      else
        Outcome.orFaults (c.calculateSensorLevel subscriber typeTempInfo) >>= fun levelList =>
          match levelList.max? with
          | none => .done c
          | some level => .done { c with latestLevel := level })
    (fun _ _ => .refl _)
  refine Eq.mp (congrArg _ ?_) hbind
  rw [done_bind, ThermalConfigSensorCluster.updateThermalLevel]
  cases c.checkState states with
  | false => rfl
  | true =>
    cases c.calculateSensorLevel subscriber typeTempInfo with
    | none => rfl
    | some levelList =>
      show (match levelList.max? with
        | none => _
        | some level => _) = Outcome.orFaults (match levelList.max? with
        | none => _
        | some level => _)
      cases levelList.max? <;> rfl

theorem levelDecision_endsAs (h : Answers mayDiverge asked decideState states)
    {policy : ReportingPolicy} (hasked : AskedByClusters asked policy.sensorClusterMap)
    (subscriber : ThermalServiceSubscriber) :
    (levelDecision decideState policy subscriber).EndsAs mayDiverge
      (policy.levelDecision states subscriber) := by
  apply EndsAs.foldlM
  intro before cluster hcluster
  have hlookup := Std.ExtTreeMap.mem_toList_iff_getElem?_eq_some.mp hcluster
  exact (updateThermalLevel_endsAs h (hasked cluster.1 cluster.2 hlookup) _ _).bind
    fun _ _ => .refl _

theorem addInfo_endsAs (h : Answers mayDiverge asked decideState states) {action : PolicyAction}
    (hasked : action.isProp = true → ∀ prop ∈ action.actionPropMap.toList,
      prop.1 ≠ "delaytime" → asked prop.1 prop.2) (infos : Map String PolicyAction) :
    (addInfo decideState infos action).EndsAs mayDiverge
      (.done (if action.isProp && !ThermalManager.stateMachineDecision states action.actionPropMap
        then infos else infos.insert action.actionName action)) := by
  rw [addInfo]
  cases hprop : action.isProp with
  | false => exact .refl _
  | true =>
    have hprops : ∀ prop ∈ action.actionPropMap.toList.filter (fun prop => prop.1 != "delaytime"),
        asked prop.1 prop.2 := by
      intro prop hmem
      obtain ⟨hmem, hne⟩ := List.mem_filter.mp hmem
      exact hasked hprop prop hmem (bne_iff_ne.mp hne)
    have hdecision := decideStates_endsAs h hprops
    rw [← stateMachineDecision_eq] at hdecision
    have hbind := hdecision.bind
      (f := fun holds => .done (if holds then infos.insert action.actionName action else infos))
      (fun _ _ => .refl _)
    refine Eq.mp (congrArg _ ?_) hbind
    rw [done_bind]
    cases ThermalManager.stateMachineDecision states action.actionPropMap <;> rfl

theorem actionDecision_endsAs (h : Answers mayDiverge asked decideState states) (env : RoundEnv)
    (clusterName : String) (actionMap : ThermalActionMap) {actionList : List PolicyAction}
    (hasked : ∀ action ∈ actionList, action.isProp = true →
      ∀ prop ∈ action.actionPropMap.toList, prop.1 ≠ "delaytime" → asked prop.1 prop.2) :
    (actionDecision decideState env clusterName actionMap actionList).EndsAs mayDiverge
      (.orDiverges (ThermalManager.actionDecision { env with stateMachineMap := states }
        clusterName actionMap actionList)) := by
  have hinfos : (actionList.foldlM (addInfo decideState) ∅).EndsAs mayDiverge
      (actionList.foldlM (fun infos action => .done (if action.isProp &&
        !ThermalManager.stateMachineDecision states action.actionPropMap
        then infos else infos.insert action.actionName action)) ∅) :=
    EndsAs.foldlM (fun infos action hmem => addInfo_endsAs h (hasked action hmem) infos) ∅
  have hpure : ∀ infos : Map String PolicyAction,
      actionList.foldlM (fun infos action => Outcome.done (if action.isProp &&
        !ThermalManager.stateMachineDecision states action.actionPropMap
        then infos else infos.insert action.actionName action)) infos =
      .done (actionList.foldl (fun infos action => if action.isProp &&
        !ThermalManager.stateMachineDecision states action.actionPropMap
        then infos else infos.insert action.actionName action) infos) := by
    intro infos
    clear hasked hinfos
    induction actionList generalizing infos with
    | nil => rfl
    | cons action rest ih => exact ih _
  rw [hpure] at hinfos
  exact hinfos.bind (f := fun infos => Outcome.orDiverges
    (((env.hashOrder clusterName).walk infos).foldlM (addPolicyAction (env.uninit clusterName))
      actionMap)) fun _ _ => .refl _

theorem policyDecision_endsAs (h : Answers mayDiverge asked decideState states) (env : RoundEnv)
    {policy : ThermalPolicy} (hasked : AskedByEntries asked policy)
    (actionMap : ThermalActionMap) :
    (policyDecision decideState policy env actionMap).EndsAs mayDiverge
      (.orDiverges (ThermalManager.policyDecision policy { env with stateMachineMap := states }
        actionMap)) := by
  have hfold : (policy.clusterPolicyMap.toList.foldlM
      (clusterDecision decideState policy.clusterLevelMap env) actionMap).EndsAs mayDiverge
      (policy.clusterPolicyMap.toList.foldlM (fun actionMap clusterPolicy => .orDiverges
        (ThermalManager.clusterDecision policy.clusterLevelMap
          { env with stateMachineMap := states } actionMap clusterPolicy)) actionMap) := by
    apply EndsAs.foldlM
    intro actionMap clusterPolicy hmem
    have hpolicy := Std.ExtTreeMap.mem_toList_iff_getElem?_eq_some.mp hmem
    rw [clusterDecision, ThermalManager.clusterDecision]
    cases hgoverning : governingConfig policy.clusterLevelMap clusterPolicy.1 clusterPolicy.2 with
    | none => exact .refl _
    | some levelAction =>
      exact actionDecision_endsAs h env clusterPolicy.1 actionMap
        (hasked clusterPolicy.1 clusterPolicy.2 levelAction hpolicy hgoverning)
  rw [← orDiverges_foldlM] at hfold
  refine Eq.mp (congrArg _ ?_) (hfold.bind (f := fun actionMap =>
    Outcome.done (actionExecution env actionMap)) fun _ _ => .refl _)
  rw [ThermalManager.policyDecision]
  cases policy.clusterPolicyMap.toList.foldlM
    (ThermalManager.clusterDecision policy.clusterLevelMap { env with stateMachineMap := states })
    actionMap <;> rfl

/-- **A round under the answers.** The entries may ask for states at the levels that the clusters
have reached by then. -/
theorem onSensorInfoReported_endsAs (h : Answers mayDiverge asked decideState states)
    {policy : ReportingPolicy} {report : SensorReport}
    (hclusters : AskedByClusters asked policy.sensorClusterMap)
    (hentries : ∀ decided : ReportingPolicy,
      { policy with typeTempMap := report.info }.levelDecision states report.subscriber =
        .done decided → AskedByEntries asked decided.toThermalPolicy) (simulationXml : Bool) :
    (onSensorInfoReported decideState simulationXml policy report).EndsAs mayDiverge
      (policy.onSensorInfoReported simulationXml
        { report with env := { report.env with stateMachineMap := states } }) := by
  have hlevels :
      AskedByClusters asked { policy with typeTempMap := report.info }.sensorClusterMap :=
    hclusters
  refine (levelDecision_endsAs h hlevels report.subscriber).bind fun decided hdecided => ?_
  refine EndsAs.bind (.refl _) fun levelFile _ => ?_
  exact (policyDecision_endsAs h report.env (hentries decided hdecided) report.actionMap).bind
    fun _ _ => .refl _

end Answered

end Asked

end ThermalManager
