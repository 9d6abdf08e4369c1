import ThermalManager.Policy.Decision

/-!
# The arbitration between clusters

What a policy round decides, said without its loops: a cluster contributes to an action the value
of the last entry that passes its states in the configuration with the greatest level reached, and
the action executes the extreme of all contributions. The order of the configurations in the file
and the order in which the hash map is walked do not matter.
-/

namespace ThermalManager

open StepSystem Extremum

/-! ### What a cluster contributes -/

/-- The states of an entry all hold, if it has any. -/
def Admitted (states : StateMachineMap) (action : PolicyAction) : Prop :=
  action.isProp = true → ∀ prop value : String, prop ≠ "delaytime" →
    action.actionPropMap[prop]? = some value →
    ∃ decideState, states[prop]? = some decideState ∧ decideState value = true

/-- The last entry of an action among those whose states hold. -/
def LastAdmitted (states : StateMachineMap) (name : String) (actionList : List PolicyAction)
    (action : PolicyAction) : Prop :=
  ∃ before after, actionList = before ++ action :: after ∧ action.actionName = name ∧
    Admitted states action ∧ ∀ other ∈ after, other.actionName = name → ¬ Admitted states other

/-- The configuration with the greatest level that the cluster has reached. -/
structure Governs (clusterCurrLev : Nat) (policyConfig : List PolicyConfig)
    (levelAction : PolicyConfig) : Prop where
  mem : levelAction ∈ policyConfig
  reached : levelAction.level ≤ clusterCurrLev
  greatest : ∀ other ∈ policyConfig, other.level ≤ clusterCurrLev →
    other.level ≤ levelAction.level

namespace ThermalPolicy

def Contributes (policy : ThermalPolicy) (states : StateMachineMap) (name : String)
    (cls : ActionClass) (clusterName : String) (v : Int) : Prop :=
  ∃ clusterCurrLev policyConfig levelAction action, clusterName ≠ "" ∧
    policy.clusterLevelMap[clusterName]? = some clusterCurrLev ∧
    policy.clusterPolicyMap[clusterName]? = some policyConfig ∧
    Governs clusterCurrLev policyConfig levelAction ∧
    LastAdmitted states name levelAction.policyActionList action ∧
    cls.parse action.actionValue = some v

/-- No cluster has two configurations for one level. -/
def DistinctLevels (policy : ThermalPolicy) : Prop :=
  ∀ (clusterName : String) (policyConfig : List PolicyConfig),
    policy.clusterPolicyMap[clusterName]? = some policyConfig →
    (policyConfig.map PolicyConfig.level).Nodup

def NoDelay (policy : ThermalPolicy) : Prop :=
  ∀ (clusterName : String) (policyConfig : List PolicyConfig),
    policy.clusterPolicyMap[clusterName]? = some policyConfig →
    ∀ levelAction ∈ policyConfig, ∀ action ∈ levelAction.policyActionList,
      action.actionPropMap["delaytime"]? = none

/-- The policies have the same configurations in any order, and the same levels. -/
structure SameConfigs (policy policy' : ThermalPolicy) : Prop where
  levels : policy'.clusterLevelMap = policy.clusterLevelMap
  configs : ∀ clusterName : String, Option.Rel List.Perm
    policy.clusterPolicyMap[clusterName]? policy'.clusterPolicyMap[clusterName]?

end ThermalPolicy

/-! ### The loops find it -/

theorem stateMachineDecision_iff {states : StateMachineMap} {stateMap : Map String String} :
    stateMachineDecision states stateMap = true ↔ ∀ prop value : String, prop ≠ "delaytime" →
      stateMap[prop]? = some value →
      ∃ decideState, states[prop]? = some decideState ∧ decideState value = true := by
  simp only [stateMachineDecision, List.all_eq_true, Prod.forall,
    Std.ExtTreeMap.mem_toList_iff_getElem?_eq_some, Bool.or_eq_true, beq_iff_eq,
    Option.any_eq_true]
  exact ⟨fun h prop value hprop hvalue => (h prop value hvalue).resolve_left hprop,
    fun h prop value hvalue => or_iff_not_imp_left.mpr fun hprop => h prop value hprop hvalue⟩

theorem admitted_iff {states : StateMachineMap} {action : PolicyAction} :
    Admitted states action ↔
      (action.isProp && !stateMachineDecision states action.actionPropMap) = false := by
  rw [Admitted, ← stateMachineDecision_iff]
  cases action.isProp <;> simp

theorem actionPolicyInfos_getElem? (states : StateMachineMap) (name : String)
    (actionList : List PolicyAction) :
    (actionPolicyInfos states actionList)[name]? = actionList.reverse.find? fun action =>
      decide (action.actionName = name) &&
        !(action.isProp && !stateMachineDecision states action.actionPropMap) := by
  induction actionList using List.reverseRecOn with
  | nil => rfl
  | append_singleton actionList action ih =>
    rw [actionPolicyInfos] at ih ⊢
    rw [List.foldl_append, List.foldl_cons, List.foldl_nil, List.reverse_append,
      List.reverse_singleton, List.singleton_append, List.find?_cons]
    cases hskip : action.isProp && !stateMachineDecision states action.actionPropMap with
    | true =>
      rw [if_pos rfl, Bool.not_true, Bool.and_false]
      exact ih
    | false =>
      rw [if_neg Bool.false_ne_true, Std.ExtTreeMap.getElem?_insert]
      by_cases hname : action.actionName = name
      · rw [if_pos (Std.compare_eq_iff_eq.mpr hname), decide_eq_true hname]
        rfl
      · rw [if_neg (mt Std.compare_eq_iff_eq.mp hname), decide_eq_false hname]
        exact ih

theorem lastAdmitted_iff {states : StateMachineMap} {name : String}
    {actionList : List PolicyAction} {action : PolicyAction} :
    (actionPolicyInfos states actionList)[name]? = some action ↔
      LastAdmitted states name actionList action := by
  have hmatches : ∀ other : PolicyAction, (decide (other.actionName = name) &&
      !(other.isProp && !stateMachineDecision states other.actionPropMap)) = true ↔
      other.actionName = name ∧ Admitted states other := by
    intro other
    rw [Bool.and_eq_true, decide_eq_true_eq, Bool.not_eq_true', admitted_iff]
  rw [actionPolicyInfos_getElem?, List.find?_eq_some_iff_append, hmatches, LastAdmitted]
  simp only [Bool.not_eq_true', ← Bool.not_eq_true, hmatches, not_and]
  refine ⟨fun h => ?_, fun h => ?_⟩
  · obtain ⟨⟨hname, hadmitted⟩, after, before, hlist, hafter⟩ := h
    refine ⟨before.reverse, after.reverse, ?_, hname, hadmitted, ?_⟩
    · apply List.reverse_injective
      rw [hlist]
      simp
    · intro other hother
      exact hafter other (List.mem_reverse.mp hother)
  · obtain ⟨before, after, rfl, hname, hadmitted, hafter⟩ := h
    refine ⟨⟨hname, hadmitted⟩, after.reverse, before.reverse, by simp, ?_⟩
    intro other hother
    exact hafter other (List.mem_reverse.mp hother)

/-! ### The governing configuration -/

theorem Governs.of_perm {clusterCurrLev : Nat} {policyConfig policyConfig' : List PolicyConfig}
    {levelAction : PolicyConfig} (h : Governs clusterCurrLev policyConfig levelAction)
    (hperm : policyConfig.Perm policyConfig') :
    Governs clusterCurrLev policyConfig' levelAction where
  mem := hperm.mem_iff.mp h.mem
  reached := h.reached
  greatest other hother := h.greatest other (hperm.mem_iff.mpr hother)

theorem Governs.unique {clusterCurrLev : Nat} {policyConfig : List PolicyConfig}
    {levelAction levelAction' : PolicyConfig}
    (hdistinct : (policyConfig.map PolicyConfig.level).Nodup)
    (h : Governs clusterCurrLev policyConfig levelAction)
    (h' : Governs clusterCurrLev policyConfig levelAction') : levelAction = levelAction' := by
  have hle := h.greatest levelAction' h'.mem h'.reached
  have hge := h'.greatest levelAction h.mem h.reached
  exact List.inj_on_of_nodup_map hdistinct h.mem h'.mem (Nat.le_antisymm hge hle)

/-- In a list sorted by level the search from the end finds the greatest level reached. -/
theorem find_governs {clusterCurrLev : Nat} {policyConfig : List PolicyConfig}
    {levelAction : PolicyConfig} (hsorted : policyConfig.Pairwise fun r l => r.level ≤ l.level)
    (hfind : (policyConfig.reverse.find? fun levelAction =>
      decide (clusterCurrLev ≥ levelAction.level)) = some levelAction) :
    Governs clusterCurrLev policyConfig levelAction := by
  obtain ⟨hreached, above, below, hlist, habove⟩ := List.find?_eq_some_iff_append.mp hfind
  have hsplit : policyConfig = below.reverse ++ levelAction :: above.reverse := by
    apply List.reverse_injective
    rw [hlist]
    simp
  subst hsplit
  refine ⟨by simp, of_decide_eq_true hreached, ?_⟩
  intro other hother hlevel
  rcases List.mem_append.mp hother with hbelow | hother
  · exact (List.pairwise_append.mp hsorted).2.2 other hbelow levelAction List.mem_cons_self
  · rcases List.mem_cons.mp hother with rfl | hother
    · exact Nat.le_refl _
    · have hnot := habove other (List.mem_reverse.mp hother)
      rw [Bool.not_eq_true', decide_eq_false_iff_not] at hnot
      exact absurd hlevel hnot

theorem find_eq_some_iff_governs {clusterCurrLev : Nat} {policyConfig : List PolicyConfig}
    {levelAction : PolicyConfig} (hsorted : policyConfig.Pairwise fun r l => r.level ≤ l.level)
    (hdistinct : (policyConfig.map PolicyConfig.level).Nodup) :
    (policyConfig.reverse.find? fun levelAction =>
      decide (clusterCurrLev ≥ levelAction.level)) = some levelAction ↔
      Governs clusterCurrLev policyConfig levelAction := by
  refine ⟨find_governs hsorted, fun h => ?_⟩
  cases hfind : policyConfig.reverse.find? fun levelAction =>
      decide (clusterCurrLev ≥ levelAction.level) with
  | none =>
    have hnot := List.find?_eq_none.mp hfind levelAction (List.mem_reverse.mpr h.mem)
    exact absurd (decide_eq_true h.reached) hnot
  | some found => exact congrArg some ((find_governs hsorted hfind).unique hdistinct h)

theorem governingConfig_iff {clusterLevelMap : Map String Nat} {clusterName : String}
    {policyConfig : List PolicyConfig} {levelAction : PolicyConfig}
    (hsorted : policyConfig.Pairwise fun r l => r.level ≤ l.level)
    (hdistinct : (policyConfig.map PolicyConfig.level).Nodup) :
    governingConfig clusterLevelMap clusterName policyConfig = some levelAction ↔
      clusterName ≠ "" ∧ ∃ clusterCurrLev, clusterLevelMap[clusterName]? = some clusterCurrLev ∧
        Governs clusterCurrLev policyConfig levelAction := by
  rw [governingConfig]
  by_cases hskip : (clusterName.isEmpty || policyConfig.isEmpty) = true
  · rw [if_pos hskip]
    apply iff_of_false (Option.some_ne_none _).symm
    intro hgoverns
    obtain ⟨hname, clusterCurrLev, -, h⟩ := hgoverns
    rcases Bool.or_eq_true_iff.mp hskip with hempty | hempty
    · exact hname (String.isEmpty_iff.mp hempty)
    · rw [List.isEmpty_iff.mp hempty] at h
      exact absurd h.mem List.not_mem_nil
  · rw [if_neg hskip]
    have hname : clusterName ≠ "" := by
      intro hempty
      subst hempty
      exact hskip rfl
    cases clusterLevelMap[clusterName]? with
    | none => simp
    | some clusterCurrLev => simpa [hname] using find_eq_some_iff_governs hsorted hdistinct

/-! ### The calls of a round without delayed entries -/

theorem policyCall_of_noDelay {action : PolicyAction}
    (hnone : action.actionPropMap["delaytime"]? = none) (uninit : PolicyDelayAction) :
    policyCall uninit action = some (some (.immediate action.actionValue)) := by
  rw [policyCall, hnone]
  cases action.isProp <;> rfl

theorem LastAdmitted.mem {states : StateMachineMap} {name : String}
    {actionList : List PolicyAction} {action : PolicyAction}
    (h : LastAdmitted states name actionList action) : action ∈ actionList := by
  obtain ⟨before, after, rfl, -⟩ := h
  simp

namespace ThermalPolicy

variable {policy policy' : ThermalPolicy} {env env' : RoundEnv} {name : String}

theorem sortLevel_lookup (policy : ThermalPolicy) (clusterName : String) :
    policy.sortLevel.clusterPolicyMap[clusterName]? =
      (policy.clusterPolicyMap[clusterName]?).map fun policyConfig =>
        policyConfig.mergeSort fun r l => !levelCompare l r :=
  Std.ExtTreeMap.getElem?_map

theorem mergeSort_sorted (policyConfig : List PolicyConfig) :
    (policyConfig.mergeSort fun r l => !levelCompare l r).Pairwise
      fun r l => r.level ≤ l.level := by
  have hsorted := @List.pairwise_mergeSort _ (fun r l => !levelCompare l r)
    (fun a b c => by simp only [levelCompare, Bool.not_eq_true', decide_eq_false_iff_not]; omega)
    (fun a b => by simp only [levelCompare, Bool.or_eq_true, Bool.not_eq_true',
      decide_eq_false_iff_not]; omega) policyConfig
  exact hsorted.imp fun hle => by simpa [levelCompare] using hle

theorem governingConfig_sortLevel_iff (hdistinct : policy.DistinctLevels) {clusterName : String}
    {levelAction : PolicyConfig} :
    (∃ policyConfig, policy.sortLevel.clusterPolicyMap[clusterName]? = some policyConfig ∧
      governingConfig policy.clusterLevelMap clusterName policyConfig = some levelAction) ↔
    ∃ clusterCurrLev policyConfig, clusterName ≠ "" ∧
      policy.clusterLevelMap[clusterName]? = some clusterCurrLev ∧
      policy.clusterPolicyMap[clusterName]? = some policyConfig ∧
      Governs clusterCurrLev policyConfig levelAction := by
  rw [sortLevel_lookup]
  have hgoverning : ∀ policyConfig : List PolicyConfig,
      policy.clusterPolicyMap[clusterName]? = some policyConfig →
      (governingConfig policy.clusterLevelMap clusterName
        (policyConfig.mergeSort fun r l => !levelCompare l r) = some levelAction ↔
      clusterName ≠ "" ∧ ∃ clusterCurrLev, policy.clusterLevelMap[clusterName]? =
        some clusterCurrLev ∧ Governs clusterCurrLev policyConfig levelAction) := by
    intro policyConfig hconfig
    have hperm := List.mergeSort_perm policyConfig (fun r l => !levelCompare l r)
    have hnodup := (hperm.map PolicyConfig.level).nodup_iff.mpr
      (hdistinct clusterName policyConfig hconfig)
    rw [governingConfig_iff (mergeSort_sorted policyConfig) hnodup]
    exact and_congr_right fun _ => exists_congr fun clusterCurrLev => and_congr_right fun _ =>
      ⟨fun h => h.of_perm hperm, fun h => h.of_perm hperm.symm⟩
  refine ⟨fun hsorted => ?_, fun hfile => ?_⟩
  · obtain ⟨sorted, hsorted, hgoverns⟩ := hsorted
    obtain ⟨policyConfig, hconfig, rfl⟩ := Option.map_eq_some_iff.mp hsorted
    obtain ⟨hname, clusterCurrLev, hlevel, h⟩ := (hgoverning policyConfig hconfig).mp hgoverns
    exact ⟨clusterCurrLev, policyConfig, hname, hlevel, hconfig, h⟩
  · obtain ⟨clusterCurrLev, policyConfig, hname, hlevel, hconfig, h⟩ := hfile
    refine ⟨_, Option.map_eq_some_iff.mpr ⟨policyConfig, hconfig, rfl⟩, ?_⟩
    exact (hgoverning policyConfig hconfig).mpr ⟨hname, clusterCurrLev, hlevel, h⟩

theorem NoDelay.entry (hnodelay : policy.NoDelay) (hdistinct : policy.DistinctLevels)
    {clusterName : String} {policyConfig : List PolicyConfig} {levelAction : PolicyConfig}
    {action : PolicyAction}
    (hconfig : policy.sortLevel.clusterPolicyMap[clusterName]? = some policyConfig)
    (hgoverning : governingConfig policy.clusterLevelMap clusterName policyConfig =
      some levelAction)
    (hentry : (actionPolicyInfos env.stateMachineMap levelAction.policyActionList)[name]? =
      some action) : action.actionPropMap["delaytime"]? = none := by
  obtain ⟨clusterCurrLev, configs, -, -, hconfigs, hgoverns⟩ :=
    (governingConfig_sortLevel_iff hdistinct).mp ⟨policyConfig, hconfig, hgoverning⟩
  exact hnodelay clusterName configs hconfigs levelAction hgoverns.mem action
    (lastAdmitted_iff.mp hentry).mem

/-- A cluster adds the value of its last admitted entry for the action. -/
theorem mem_clusterValues_iff (hdistinct : policy.DistinctLevels) (hnodelay : policy.NoDelay)
    {cls : ActionClass} {v : Int} {clusterName : String} {policyConfig : List PolicyConfig}
    (hconfig : policy.sortLevel.clusterPolicyMap[clusterName]? = some policyConfig) :
    v ∈ Action.immediateValues cls
        (clusterCalls policy.clusterLevelMap env name (clusterName, policyConfig)) ↔
      ∃ levelAction action,
        governingConfig policy.clusterLevelMap clusterName policyConfig = some levelAction ∧
        LastAdmitted env.stateMachineMap name levelAction.policyActionList action ∧
        cls.parse action.actionValue = some v := by
  rw [clusterCalls, clusterEntry]
  cases hgoverning : governingConfig policy.clusterLevelMap clusterName policyConfig with
  | none => simp [Action.immediateValues]
  | some levelAction =>
    simp only [Option.some.injEq, exists_and_left, exists_eq_left', ← lastAdmitted_iff]
    cases hentry : (actionPolicyInfos env.stateMachineMap levelAction.policyActionList)[name]?
      with
    | none => simp [Action.immediateValues]
    | some action =>
      have hcall := policyCall_of_noDelay (hnodelay.entry hdistinct hconfig hgoverning hentry)
        (env.uninit clusterName name)
      simp [hcall, Action.immediateValues]

theorem mem_policyValues_iff {cls : ActionClass} {v : Int} :
    v ∈ Action.immediateValues cls (policyCalls policy.sortLevel env name) ↔
      ∃ (clusterName : String) (policyConfig : List PolicyConfig),
        policy.sortLevel.clusterPolicyMap[clusterName]? = some policyConfig ∧
        v ∈ Action.immediateValues cls
          (clusterCalls policy.clusterLevelMap env name (clusterName, policyConfig)) := by
  simp only [policyCalls, Action.immediateValues, List.flatMap_assoc, List.mem_flatMap,
    Prod.exists, Std.ExtTreeMap.mem_toList_iff_getElem?_eq_some]
  rfl

theorem mem_values_iff (hdistinct : policy.DistinctLevels) (hnodelay : policy.NoDelay)
    {cls : ActionClass} {v : Int} :
    v ∈ Action.immediateValues cls (policyCalls policy.sortLevel env name) ↔
      ∃ clusterName, policy.Contributes env.stateMachineMap name cls clusterName v := by
  rw [mem_policyValues_iff]
  apply exists_congr
  intro clusterName
  refine ⟨fun hadded => ?_, fun hcontributes => ?_⟩
  · obtain ⟨sorted, hsorted, hvalue⟩ := hadded
    obtain ⟨levelAction, action, hgoverning, hentry, hparse⟩ :=
      (mem_clusterValues_iff hdistinct hnodelay hsorted).mp hvalue
    obtain ⟨clusterCurrLev, policyConfig, hname, hlevel, hconfig, hgoverns⟩ :=
      (governingConfig_sortLevel_iff hdistinct).mp ⟨sorted, hsorted, hgoverning⟩
    exact ⟨clusterCurrLev, policyConfig, levelAction, action, hname, hlevel, hconfig, hgoverns,
      hentry, hparse⟩
  · obtain ⟨clusterCurrLev, policyConfig, levelAction, action, hname, hlevel, hconfig, hgoverns,
      hentry, hparse⟩ := hcontributes
    obtain ⟨sorted, hsorted, hgoverning⟩ := (governingConfig_sortLevel_iff hdistinct).mpr
      ⟨clusterCurrLev, policyConfig, hname, hlevel, hconfig, hgoverns⟩
    exact ⟨sorted, hsorted, (mem_clusterValues_iff hdistinct hnodelay hsorted).mpr
      ⟨levelAction, action, hgoverning, hentry, hparse⟩⟩

theorem requestedIds_of_noDelay (hdistinct : policy.DistinctLevels) (hnodelay : policy.NoDelay) :
    requestedIds (policyCalls policy.sortLevel env name) = [] := by
  rw [requestedIds, List.filterMap_eq_nil_iff]
  intro call hcall
  obtain ⟨⟨clusterName, policyConfig⟩, hmem, hcall⟩ := List.mem_flatMap.mp hcall
  have hconfig := Std.ExtTreeMap.mem_toList_iff_getElem?_eq_some.mp hmem
  rw [clusterCalls, clusterEntry] at hcall
  cases hgoverning : governingConfig policy.sortLevel.clusterLevelMap clusterName policyConfig with
  | none => simp [hgoverning] at hcall
  | some levelAction =>
    cases hentry : (actionPolicyInfos env.stateMachineMap levelAction.policyActionList)[name]? with
    | none => simp [hgoverning, hentry] at hcall
    | some action =>
      have hnone := hnodelay.entry hdistinct hconfig hgoverning hentry
      have himmediate : call = .immediate action.actionValue := by
        simpa [hgoverning, hentry, policyCall_of_noDelay hnone] using hcall
      rw [himmediate]

end ThermalPolicy

/-! ### The order of the configurations -/

namespace ThermalPolicy

variable {policy policy' : ThermalPolicy}

theorem SameConfigs.perm (h : policy.SameConfigs policy') {clusterName : String}
    {policyConfig' : List PolicyConfig}
    (hconfig' : policy'.clusterPolicyMap[clusterName]? = some policyConfig') :
    ∃ policyConfig, policy.clusterPolicyMap[clusterName]? = some policyConfig ∧
      policyConfig.Perm policyConfig' := by
  have hrel := h.configs clusterName
  rw [hconfig'] at hrel
  generalize policy.clusterPolicyMap[clusterName]? = config at hrel
  cases hrel with
  | some hperm => exact ⟨_, rfl, hperm⟩

theorem SameConfigs.symm (h : policy.SameConfigs policy') : policy'.SameConfigs policy where
  levels := h.levels.symm
  configs clusterName := by
    have hrel := h.configs clusterName
    generalize policy.clusterPolicyMap[clusterName]? = config at hrel ⊢
    generalize policy'.clusterPolicyMap[clusterName]? = config' at hrel ⊢
    cases hrel with
    | none => exact .none
    | some hperm => exact .some hperm.symm

theorem SameConfigs.distinctLevels (h : policy.SameConfigs policy')
    (hdistinct : policy.DistinctLevels) : policy'.DistinctLevels := by
  intro clusterName policyConfig' hconfig'
  obtain ⟨policyConfig, hconfig, hperm⟩ := h.perm hconfig'
  exact (hperm.map PolicyConfig.level).nodup_iff.mp (hdistinct clusterName policyConfig hconfig)

theorem SameConfigs.noDelay (h : policy.SameConfigs policy') (hnodelay : policy.NoDelay) :
    policy'.NoDelay := by
  intro clusterName policyConfig' hconfig' levelAction hmem
  obtain ⟨policyConfig, hconfig, hperm⟩ := h.perm hconfig'
  exact hnodelay clusterName policyConfig hconfig levelAction (hperm.mem_iff.mpr hmem)

theorem SameConfigs.contributes (h : policy.SameConfigs policy') {states : StateMachineMap}
    {name : String} {cls : ActionClass} {clusterName : String} {v : Int}
    (hcontributes : policy'.Contributes states name cls clusterName v) :
    policy.Contributes states name cls clusterName v := by
  obtain ⟨clusterCurrLev, policyConfig', levelAction, action, hname, hlevel, hconfig', hgoverns,
    hentry, hparse⟩ := hcontributes
  obtain ⟨policyConfig, hconfig, hperm⟩ := h.perm hconfig'
  rw [h.levels] at hlevel
  exact ⟨clusterCurrLev, policyConfig, levelAction, action, hname, hlevel, hconfig,
    hgoverns.of_perm hperm.symm, hentry, hparse⟩

theorem SameConfigs.contributions (h : policy.SameConfigs policy') (states : StateMachineMap)
    (name : String) (cls : ActionClass) :
    {v | ∃ clusterName, policy'.Contributes states name cls clusterName v} =
      {v | ∃ clusterName, policy.Contributes states name cls clusterName v} := by
  ext v
  exact ⟨fun ⟨clusterName, hv⟩ => ⟨clusterName, h.contributes hv⟩,
    fun ⟨clusterName, hv⟩ => ⟨clusterName, h.symm.contributes hv⟩⟩

end ThermalPolicy

/-! ### The registered actions -/

/-- What happens to the registered actions: a policy round, the callback of a timer, and the reset
of some of them when a system ability is added. -/
inductive PolicyEvent where
  | policyDecision (policy : ThermalPolicy) (env : RoundEnv)
  | fire (name : String) (timerId : Nat)
  | resetActionValue (name : String)

namespace ThermalActionMap

def init (registered : Map String (ActionClass × Bool)) : ThermalActionMap :=
  registered.map fun _ action => TimedAction.init action.1 action.2

/-- A policy round that does not return leaves no state to go on from. -/
def Returns (actionMap : ThermalActionMap) : PolicyEvent → Prop
  | .policyDecision policy env => (policyDecision policy env actionMap).isSome
  | _ => True

def step (actionMap : ThermalActionMap) : PolicyEvent → ThermalActionMap
  | .policyDecision policy env => (policyDecision policy env actionMap).getD actionMap
  | .fire name timerId => actionMap.modify name (TimedAction.timerCallback timerId)
  | .resetActionValue name => actionMap.modify name fun thermalAction =>
      { thermalAction with action := thermalAction.action.resetActionValue }

/-- Every action is the registered one and has nothing left over from a round. -/
structure Idle (registered : Map String (ActionClass × Bool)) (actionMap : ThermalActionMap) :
    Prop where
  registered : ∀ name : String,
    (actionMap[name]?).map (fun w => (w.action.cls, w.action.isStrict)) = registered[name]?
  idle : ∀ (name : String) (w : TimedAction), actionMap[name]? = some w →
    w.action.valueList = [] ∧ w.action.actionIdList = []

variable {registered : Map String (ActionClass × Bool)} {actionMap actionMap' : ThermalActionMap}

theorem idle_init (registered : Map String (ActionClass × Bool)) :
    Idle registered (init registered) := by
  have hlookup : ∀ name : String, (init registered)[name]? =
      (registered[name]?).map fun action => TimedAction.init action.1 action.2 :=
    fun name => Std.ExtTreeMap.getElem?_map
  refine ⟨fun name => ?_, fun name w hw => ?_⟩
  · rw [hlookup, Option.map_map]
    exact Option.map_id'
  · rw [hlookup] at hw
    obtain ⟨action, -, rfl⟩ := Option.map_eq_some_iff.mp hw
    exact ⟨rfl, rfl⟩

theorem Idle.of_lookup (h : Idle registered actionMap) (f : String → TimedAction → TimedAction)
    (hlookup : ∀ name : String, actionMap'[name]? = (actionMap[name]?).map (f name))
    (hf : ∀ (name : String) (w : TimedAction),
      w.action.valueList = [] ∧ w.action.actionIdList = [] →
      (f name w).action.cls = w.action.cls ∧ (f name w).action.isStrict = w.action.isStrict ∧
      (f name w).action.valueList = [] ∧ (f name w).action.actionIdList = []) :
    Idle registered actionMap' := by
  refine ⟨fun name => ?_, fun name w' hw' => ?_⟩
  · rw [← h.registered name, hlookup]
    cases hw : actionMap[name]? with
    | none => rfl
    | some w =>
      obtain ⟨hcls, hstrict, -⟩ := hf name w (h.idle name w hw)
      exact congrArg some (Prod.ext hcls hstrict)
  · rw [hlookup] at hw'
    obtain ⟨w, hw, rfl⟩ := Option.map_eq_some_iff.mp hw'
    exact (hf name w (h.idle name w hw)).2.2

theorem Idle.step (h : Idle registered actionMap) {e : PolicyEvent}
    (hok : actionMap.Returns e) : Idle registered (actionMap.step e) := by
  have hmodify : ∀ (name name' : String) (f : TimedAction → TimedAction),
      (actionMap.modify name f)[name']? =
        (actionMap[name']?).map fun w => if name = name' then f w else w := by
    intro name name' f
    rw [Std.ExtTreeMap.getElem?_modify]
    by_cases hname : name = name'
    · subst hname
      simp
    · rw [if_neg (mt Std.compare_eq_iff_eq.mp hname)]
      simp [hname]
  cases e with
  | policyDecision policy env =>
    obtain ⟨actionMap', hdecision⟩ := Option.isSome_iff_exists.mp hok
    rw [ThermalActionMap.step, hdecision]
    refine h.of_lookup _ (policyDecision_lookup hdecision) ?_
    intro name w hw
    exact ⟨TimedAction.round_cls, TimedAction.round_isStrict, TimedAction.execute_valueList _,
      TimedAction.execute_actionIdList _⟩
  | fire name timerId =>
    refine h.of_lookup _ (fun name' => hmodify name name' _) ?_
    intro name' w hw
    split
    · rcases w.timerCallback_cases timerId with heq | ⟨id, entry, heq⟩
      · rw [heq]
        exact ⟨rfl, rfl, hw⟩
      · rw [heq]
        exact ⟨TimedAction.complete_cls, TimedAction.complete_isStrict, rfl,
          TimedAction.complete_actionIdList.trans hw.2⟩
    · exact ⟨rfl, rfl, hw⟩
  | resetActionValue name =>
    refine h.of_lookup _ (fun name' => hmodify name name' _) ?_
    intro name' w hw
    split
    · exact ⟨rfl, rfl, hw⟩
    · exact ⟨rfl, rfl, hw⟩

/-! ### What the actions read -/

/-- What the actions with a static `lastValue_` have stored in it, in the order in which
`ActionExecution` walks the map. -/
def staticValues (actionMap : ThermalActionMap) : List Int :=
  (actionMap.toList.filter fun entry => entry.2.action.cls.staticLastValue).map fun entry =>
    entry.2.action.lastValue

/-- What an action finds in its `lastValue_` after a round; a static one has the value of the action
that executed last. -/
def readLastValue (actionMap : ThermalActionMap) (name : String) : Option Int :=
  (actionMap[name]?).bind fun w =>
    if w.action.cls.staticLastValue then (staticValues actionMap).getLast?
    else some w.action.lastValue

/-- No two actions share a `lastValue_`. -/
def NoneShared (registered : Map String (ActionClass × Bool)) : Prop :=
  ∀ (name name' : String) (action action' : ActionClass × Bool),
    registered[name]? = some action → registered[name']? = some action' →
    action.1.staticLastValue = true → action'.1.staticLastValue = true → name = name'

theorem Idle.readLastValue (h : Idle registered actionMap) (hnone : NoneShared registered)
    {name : String} {w : TimedAction} (hw : actionMap[name]? = some w) :
    readLastValue actionMap name = some w.action.lastValue := by
  rw [ThermalActionMap.readLastValue, hw, Option.bind_some]
  cases hstatic : w.action.cls.staticLastValue with
  | false => rfl
  | true =>
    have hentries : ∀ (name' : String) (w' : TimedAction), actionMap[name']? = some w' →
        registered[name']? = some (w'.action.cls, w'.action.isStrict) := by
      intro name' w' hw'
      rw [← h.registered, hw', Option.map_some]
    have hself : w.action.lastValue ∈ staticValues actionMap := by
      apply List.mem_map.mpr
      refine ⟨(name, w), List.mem_filter.mpr ⟨?_, hstatic⟩, rfl⟩
      exact Std.ExtTreeMap.mem_toList_iff_getElem?_eq_some.mpr hw
    rw [if_pos rfl, List.getLast?_eq_some_getLast (List.ne_nil_of_mem hself)]
    apply congrArg some
    -- the last of the static ones is this one
    obtain ⟨⟨name', w'⟩, hmem, hlast⟩ :=
      List.mem_map.mp (List.getLast_mem (List.ne_nil_of_mem hself))
    obtain ⟨hmem, hstatic'⟩ := List.mem_filter.mp hmem
    have hw' := Std.ExtTreeMap.mem_toList_iff_getElem?_eq_some.mp hmem
    obtain rfl := hnone name name' _ _ (hentries name w hw) (hentries name' w' hw') hstatic hstatic'
    obtain rfl := Option.some.inj (hw.symm.trans hw')
    exact hlast.symm

/-! ### The arbitration -/

/-- A round without delayed entries executes the decision over what was contributed. -/
theorem Idle.arbitration (h : Idle registered actionMap) {policy : ThermalPolicy} {env : RoundEnv}
    (hdistinct : policy.DistinctLevels) (hnodelay : policy.NoDelay) :
    ∃ actionMap', policyDecision policy.sortLevel env actionMap = some actionMap' ∧
      ∀ (name : String) (cls : ActionClass) (isStrict : Bool),
        registered[name]? = some (cls, isStrict) → ∃ w v, actionMap'[name]? = some w ∧
          Decides isStrict cls.fallbackValue
            {v | ∃ clusterName, policy.Contributes env.stateMachineMap name cls clusterName v} v ∧
          w.action.lastValue = cls.toResult v := by
  have hreturns : (policyDecision policy.sortLevel env actionMap).isSome := by
    apply policyDecision_isSome
    intro clusterName policyConfig levelAction name action hconfig hgoverning hentry
    rw [policyCall_of_noDelay (hnodelay.entry hdistinct hconfig hgoverning hentry)]
    rfl
  obtain ⟨actionMap', hdecision⟩ := Option.isSome_iff_exists.mp hreturns
  refine ⟨actionMap', hdecision, ?_⟩
  intro name cls isStrict hregistered
  rw [← h.registered name] at hregistered
  obtain ⟨w, hw, hclass⟩ := Option.map_eq_some_iff.mp hregistered
  obtain ⟨rfl, rfl⟩ := Prod.mk.inj hclass
  obtain ⟨hempty, hidle⟩ := h.idle name w hw
  have hlookup := policyDecision_lookup hdecision name
  rw [hw, Option.map_some] at hlookup
  refine ⟨_, decided w.action.isStrict w.action.cls.fallbackValue (Action.immediateValues
    w.action.cls (policyCalls policy.sortLevel env name)), hlookup, ?_, ?_⟩
  · have hvalues : {v | ∃ clusterName, policy.Contributes env.stateMachineMap name w.action.cls
        clusterName v} = {v | v ∈ Action.immediateValues w.action.cls
          (policyCalls policy.sortLevel env name)} := by
      ext v
      exact (ThermalPolicy.mem_values_iff hdistinct hnodelay).symm
    rw [hvalues]
    exact decides_decided _ _ _
  · rw [TimedAction.round_lastValue, hempty, List.nil_append]
    refine congrArg w.action.cls.toResult (decided_congr fun v => ?_)
    rw [List.mem_append, Action.mem_completedValues]
    apply or_iff_left
    -- no entry is left after the round
    intro hcompleted
    obtain ⟨id, entry, hentry, -⟩ := hcompleted
    have hrequested := TimedAction.requested_of_round_entry hidle hentry
    rw [ThermalPolicy.requestedIds_of_noDelay hdistinct hnodelay] at hrequested
    exact absurd hrequested List.not_mem_nil

theorem Idle.arbitration_read (h : Idle registered actionMap) (hnone : NoneShared registered)
    {policy : ThermalPolicy} {env : RoundEnv} (hdistinct : policy.DistinctLevels)
    (hnodelay : policy.NoDelay) :
    ∃ actionMap', policyDecision policy.sortLevel env actionMap = some actionMap' ∧
      ∀ (name : String) (cls : ActionClass) (isStrict : Bool),
        registered[name]? = some (cls, isStrict) → ∃ v,
          Decides isStrict cls.fallbackValue
            {v | ∃ clusterName, policy.Contributes env.stateMachineMap name cls clusterName v} v ∧
          ThermalActionMap.readLastValue actionMap' name = some (cls.toResult v) := by
  obtain ⟨actionMap', hdecision, hvalue⟩ := @h.arbitration _ _ _ env hdistinct hnodelay
  have h' : Idle registered (actionMap.step (.policyDecision policy.sortLevel env)) :=
    h.step (by rw [Returns, hdecision]; rfl)
  rw [ThermalActionMap.step, hdecision, Option.getD_some] at h'
  refine ⟨actionMap', hdecision, fun name cls isStrict hregistered => ?_⟩
  obtain ⟨w, v, hw, hdecides, hlast⟩ := hvalue name cls isStrict hregistered
  exact ⟨v, hdecides, (h'.readLastValue hnone hw).trans (congrArg some hlast)⟩

/-- **Arbitration.** After any run of the registered actions, of which no two share a `lastValue_`,
a policy round without delayed entries returns, every action executes the extreme of what the
clusters contribute to it, or its fallback, and neither the order of the configurations nor that of
the hash map makes a difference. -/
theorem policyDecision_arbitrates {events : List PolicyEvent}
    (hrun : Run Returns step (init registered) events actionMap)
    (hnone : NoneShared registered) {policy : ThermalPolicy}
    (hdistinct : policy.DistinctLevels) (hnodelay : policy.NoDelay) (env : RoundEnv) :
    ∃ actionMap', policyDecision policy.sortLevel env actionMap = some actionMap' ∧
      (∀ (name : String) (cls : ActionClass) (isStrict : Bool),
        registered[name]? = some (cls, isStrict) → ∃ v,
          Decides isStrict cls.fallbackValue
            {v | ∃ clusterName, policy.Contributes env.stateMachineMap name cls clusterName v} v ∧
          readLastValue actionMap' name = some (cls.toResult v)) ∧
      ∀ (policy' : ThermalPolicy) (env' : RoundEnv), policy.SameConfigs policy' →
        env'.stateMachineMap = env.stateMachineMap →
        ∃ actionMap₂, policyDecision policy'.sortLevel env' actionMap = some actionMap₂ ∧
          ∀ name : String, readLastValue actionMap₂ name = readLastValue actionMap' name := by
  have h : Idle registered actionMap := hrun.invariant (Idle registered) (idle_init registered)
    fun _ _ hidle hok => hidle.step hok
  obtain ⟨actionMap', hdecision, hvalue⟩ :=
    @h.arbitration_read _ _ hnone _ env hdistinct hnodelay
  refine ⟨actionMap', hdecision, hvalue, ?_⟩
  intro policy' env' hsame hstates
  obtain ⟨actionMap₂, hdecision', hvalue'⟩ :=
    @h.arbitration_read _ _ hnone _ env' (hsame.distinctLevels hdistinct) (hsame.noDelay hnodelay)
  refine ⟨actionMap₂, hdecision', ?_⟩
  intro name
  cases hregistered : registered[name]? with
  | none =>
    have hw : actionMap[name]? = none := by
      rw [← h.registered name] at hregistered
      exact Option.map_eq_none_iff.mp hregistered
    rw [readLastValue, readLastValue, policyDecision_lookup hdecision,
      policyDecision_lookup hdecision', hw]
    rfl
  | some action =>
    obtain ⟨v, hdecides, hread⟩ := hvalue name action.1 action.2 hregistered
    obtain ⟨v', hdecides', hread'⟩ := hvalue' name action.1 action.2 hregistered
    rw [hstates, hsame.contributions] at hdecides'
    rw [hread, hread', hdecides.unique hdecides']

end ThermalActionMap

/-- A policy for a cluster at level two and one at level one; the configurations of the first are
not in order and its entries depend on the charging state. -/
def currentPolicy : ThermalPolicy where
  clusterLevelMap := (∅ : Map String Nat) |>.insert "battery" 2 |>.insert "shell" 1
  clusterPolicyMap := (∅ : PolicyConfigMap)
    |>.insert "battery" [
      ⟨2, [⟨"current", "1500", (∅ : Map String String).insert "charge" "1", true⟩,
        ⟨"current", "1200", (∅ : Map String String).insert "charge" "0", true⟩]⟩,
      ⟨1, [⟨"current", "3000", ∅, false⟩]⟩]
    |>.insert "shell" [⟨1, [⟨"current", "2000", ∅, false⟩]⟩]

def chargingEnv : RoundEnv where
  stateMachineMap := (∅ : StateMachineMap).insert "charge" fun state => state == "1"
  hashOrder _ := .byKey
  uninit _ _ := ⟨false, 0, 0, 0, 0⟩
  newId _ _ := 0

namespace ThermalActionMap

theorem noneShared_of_entries {registered : Map String (ActionClass × Bool)}
    (h : ∀ entry ∈ registered.toList, ∀ entry' ∈ registered.toList,
      entry.2.1.staticLastValue = true → entry'.2.1.staticLastValue = true →
      entry.1 = entry'.1) : NoneShared registered := by
  intro name name' action action' haction haction'
  exact h (name, action) (Std.ExtTreeMap.mem_toList_iff_getElem?_eq_some.mpr haction)
    (name', action') (Std.ExtTreeMap.mem_toList_iff_getElem?_eq_some.mpr haction')

def currentAction : Map String (ActionClass × Bool) :=
  (∅ : Map String (ActionClass × Bool)).insert "current" (actionCharger, true)

theorem currentPolicy_arbitrates :
    ∃ actionMap₁, policyDecision currentPolicy.sortLevel chargingEnv (init currentAction) =
        some actionMap₁ ∧
      ∃ v, Decides true 0 {v | ∃ clusterName, currentPolicy.Contributes
          chargingEnv.stateMachineMap "current" actionCharger clusterName v} v ∧
        readLastValue actionMap₁ "current" = some v := by
  have hdistinct : currentPolicy.DistinctLevels := forall_entries (by decide)
  have hnodelay : currentPolicy.NoDelay := forall_entries (by decide)
  obtain ⟨actionMap₁, hdecision, hvalue, -⟩ :=
    policyDecision_arbitrates (.nil (init currentAction)) (noneShared_of_entries (by decide))
      hdistinct hnodelay chargingEnv
  exact ⟨actionMap₁, hdecision,
    hvalue "current" actionCharger true Std.ExtTreeMap.getElem?_insert_self⟩

/-- Two clusters drive the thermal level, one of them with a negative text. -/
def levelPolicy : ThermalPolicy where
  clusterLevelMap := (∅ : Map String Nat) |>.insert "battery" 1 |>.insert "shell" 1
  clusterPolicyMap := (∅ : PolicyConfigMap)
    |>.insert "battery" [⟨1, [⟨"thermallevel", "-1", ∅, false⟩]⟩]
    |>.insert "shell" [⟨1, [⟨"thermallevel", "5", ∅, false⟩]⟩]

def levelAction : Map String (ActionClass × Bool) :=
  (∅ : Map String (ActionClass × Bool)).insert "thermallevel" (actionThermalLevel, false)

theorem levelPolicy_contributes :
    levelPolicy.Contributes chargingEnv.stateMachineMap "thermallevel" actionThermalLevel "shell"
      5 := by
  refine ⟨1, [⟨1, [⟨"thermallevel", "5", ∅, false⟩]⟩], ⟨1, [⟨"thermallevel", "5", ∅, false⟩]⟩,
    ⟨"thermallevel", "5", ∅, false⟩, by decide, by decide, ?_, ?_, ?_, by decide⟩
  · exact Std.ExtTreeMap.getElem?_insert_self
  · exact ⟨List.mem_cons_self, Nat.le_refl 1,
      fun other hother _ => by rw [List.mem_singleton.mp hother]⟩
  · exact ⟨[], [], rfl, rfl, fun hprop => Bool.noConfusion hprop,
      fun other hother => absurd hother List.not_mem_nil⟩

/-- Two actions of the class of the thermal level. -/
def sharedPolicy : ThermalPolicy where
  clusterLevelMap := (∅ : Map String Nat).insert "battery" 1
  clusterPolicyMap := (∅ : PolicyConfigMap).insert "battery"
    [⟨1, [⟨"levels", "3", ∅, false⟩, ⟨"thermallevel", "5", ∅, false⟩]⟩]

def sharedActions : Map String (ActionClass × Bool) := levelAction.insert "levels"
  (actionThermalLevel, false)

/-- Three is contributed to the first of them, which finds five. -/
theorem sharedPolicy_reads_other :
    sharedPolicy.DistinctLevels ∧ sharedPolicy.NoDelay ∧
    ∃ actionMap₁, policyDecision sharedPolicy.sortLevel chargingEnv (init sharedActions) =
        some actionMap₁ ∧
      ∃ v, readLastValue actionMap₁ "levels" = some v ∧
        ¬ Decides false 0 {v | ∃ clusterName, sharedPolicy.Contributes
          chargingEnv.stateMachineMap "levels" actionThermalLevel clusterName v} v := by
  have hdistinct : sharedPolicy.DistinctLevels := forall_entries (by decide)
  have hnodelay : sharedPolicy.NoDelay := forall_entries (by decide)
  have hrun : ((policyDecision sharedPolicy.sortLevel chargingEnv (init sharedActions)).bind
      fun actionMap₁ => readLastValue actionMap₁ "levels") = some 5 := by decide +kernel
  have hvalues : Action.immediateValues actionThermalLevel
      (policyCalls sharedPolicy.sortLevel chargingEnv "levels") = [3] := by decide +kernel
  obtain ⟨actionMap₁, hdecision, hread⟩ := Option.bind_eq_some_iff.mp hrun
  refine ⟨hdistinct, hnodelay, actionMap₁, hdecision, 5, hread, ?_⟩
  intro hdecides
  rcases hdecides with ⟨-, hfallback⟩ | ⟨hmem, -⟩
  · exact absurd hfallback (by decide)
  · have hfive := (ThermalPolicy.mem_values_iff hdistinct hnodelay).mpr hmem
    rw [hvalues] at hfive
    exact absurd hfive (by decide)

/-- The greatest value is that of `"-1"`, which as an `int32_t` is less than five: what the action
executes is neither the greatest contribution nor the fallback. And where two actions share their
`lastValue_`, one of them finds the value of the other. -/
theorem levelPolicy_not_greatest :
    (levelPolicy.DistinctLevels ∧ levelPolicy.NoDelay ∧
    ∃ actionMap₁, policyDecision levelPolicy.sortLevel chargingEnv (init levelAction) =
        some actionMap₁ ∧
      ∃ w, actionMap₁["thermallevel"]? = some w ∧
        ¬ Decides false 0 {v | ∃ clusterName, levelPolicy.Contributes chargingEnv.stateMachineMap
          "thermallevel" actionThermalLevel clusterName v} w.action.lastValue) ∧
    sharedPolicy.DistinctLevels ∧ sharedPolicy.NoDelay ∧
    ∃ actionMap₁, policyDecision sharedPolicy.sortLevel chargingEnv (init sharedActions) =
        some actionMap₁ ∧
      ∃ v, readLastValue actionMap₁ "levels" = some v ∧
        ¬ Decides false 0 {v | ∃ clusterName, sharedPolicy.Contributes
          chargingEnv.stateMachineMap "levels" actionThermalLevel clusterName v} v := by
  refine ⟨?_, sharedPolicy_reads_other⟩
  have hrun : ((policyDecision levelPolicy.sortLevel chargingEnv (init levelAction)).bind
      fun actionMap₁ => (actionMap₁["thermallevel"]?).map fun w => w.action.lastValue) =
        some (-1) := by decide +kernel
  obtain ⟨actionMap₁, hdecision, hvalue⟩ := Option.bind_eq_some_iff.mp hrun
  obtain ⟨w, hw, hlast⟩ := Option.map_eq_some_iff.mp hvalue
  refine ⟨forall_entries (by decide), forall_entries (by decide), actionMap₁, hdecision, w, hw, ?_⟩
  rw [hlast]
  intro hdecides
  rcases hdecides with ⟨-, hfallback⟩ | ⟨-, hgreatest⟩
  · exact absurd hfallback (by decide)
  · exact absurd (hgreatest ⟨"shell", levelPolicy_contributes⟩) (by decide)

end ThermalActionMap

end ThermalManager
