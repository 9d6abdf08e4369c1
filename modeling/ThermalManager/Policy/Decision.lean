import ThermalManager.Action.ActionSpec
import ThermalManager.Lib.Run
import Mathlib.Data.List.Nodup

/-!
# The policy decision

`thermal_policy.cpp`: a policy round finds for every cluster the configuration that governs its
level, filters the entries by the answers of the state machine, keeps the last entry of every
action and hands its value to the action. Then every registered action executes. An action does not
see the others: what it goes through is one round with the calls made on it.
-/

namespace ThermalManager

open Extremum

/-! ### Data -/

structure PolicyAction where
  actionName : String
  actionValue : String
  actionPropMap : Map String String := ∅
  isProp : Bool := false

structure PolicyConfig where
  level : Nat
  policyActionList : List PolicyAction

abbrev PolicyConfigMap := Map String (List PolicyConfig)

/-- The registered actions by name. -/
abbrev ThermalActionMap := Map String TimedAction

structure ThermalPolicy where
  clusterLevelMap : Map String Nat
  clusterPolicyMap : PolicyConfigMap

/-- The order in which an `unordered_map` is walked, which may be any. -/
structure HashOrder where
  walk : Map String PolicyAction → List (String × PolicyAction)
  perm : ∀ infos, (walk infos).Perm infos.toList

def HashOrder.byKey : HashOrder := ⟨fun infos => infos.toList, fun _ => .refl _⟩

/-- What a round depends on besides the policy: the answers of the states, and by cluster and action
the order of the walk, what a freshly declared `PolicyDelayAction` holds and the ids that the time
service hands out. -/
structure RoundEnv where
  stateMachineMap : StateMachineMap
  hashOrder : String → HashOrder
  uninit : String → String → PolicyDelayAction
  newId : String → Nat → Nat

/-! ### The round -/

def levelCompare (r l : PolicyConfig) : Bool := decide (r.level < l.level)

/-- `std::sort` leaves the order of configurations with the same level open; this is one. -/
def ThermalPolicy.sortLevel (policy : ThermalPolicy) : ThermalPolicy :=
  { policy with clusterPolicyMap := policy.clusterPolicyMap.map fun _ policyConfig =>
      policyConfig.mergeSort fun r l => !levelCompare l r }

def stateMachineDecision (states : StateMachineMap) (stateMap : Map String String) : Bool :=
  stateMap.toList.all fun prop =>
    prop.1 == "delaytime" || (states[prop.1]?).any fun decideState => decideState prop.2

/-- The entries that pass the states, by action; a later entry replaces an earlier one. -/
def actionPolicyInfos (states : StateMachineMap) (actionList : List PolicyAction) :
    Map String PolicyAction :=
  actionList.foldl (fun infos action =>
    if action.isProp && !stateMachineDecision states action.actionPropMap then infos
    else infos.insert action.actionName action) ∅

/-- The call made for an entry. The outer `Option` is a `SplitString` that does not return, the
inner one the size check on its fields. A field that is no number leaves its variable as it was. -/
def policyCall (uninit : PolicyDelayAction) (actionPolicy : PolicyAction) :
    Option (Option Call) :=
  match actionPolicy.isProp, actionPolicy.actionPropMap["delaytime"]? with
  | true, some delayTime =>
      match splitString delayTime ',' with
      | none => none
      | some [idField, delayField] =>
          some (some (.delayed ((strToUint idField).getD 0)
            { uninit with delayTime := (strToUint delayField).getD uninit.delayTime }
            actionPolicy.actionValue))
      | some _ => some none
  | _, _ => some (some (.immediate actionPolicy.actionValue))

/-- One turn of the second loop of `ActionDecision`; names without an action are skipped. -/
def addPolicyAction (uninit : String → PolicyDelayAction) (actionMap : ThermalActionMap)
    (info : String × PolicyAction) : Option ThermalActionMap :=
  match actionMap[info.1]? with
  | none => some actionMap
  | some thermalAction =>
      (policyCall (uninit info.1) info.2).map fun
        | none => actionMap
        | some call => actionMap.insert info.1 (thermalAction.addCalls [call])

def actionDecision (env : RoundEnv) (clusterName : String) (actionMap : ThermalActionMap)
    (actionList : List PolicyAction) : Option ThermalActionMap :=
  ((env.hashOrder clusterName).walk (actionPolicyInfos env.stateMachineMap actionList)).foldlM
    (addPolicyAction (env.uninit clusterName)) actionMap

/-- The configuration found by the reverse search, if the cluster has a name and a level. -/
def governingConfig (clusterLevelMap : Map String Nat) (clusterName : String)
    (policyConfig : List PolicyConfig) : Option PolicyConfig :=
  if clusterName.isEmpty || policyConfig.isEmpty then none
  else
    match clusterLevelMap[clusterName]? with
    | none => none
    | some clusterCurrLev =>
        policyConfig.reverse.find? fun levelAction => decide (clusterCurrLev ≥ levelAction.level)

def clusterDecision (clusterLevelMap : Map String Nat) (env : RoundEnv)
    (actionMap : ThermalActionMap) (clusterPolicy : String × List PolicyConfig) :
    Option ThermalActionMap :=
  match governingConfig clusterLevelMap clusterPolicy.1 clusterPolicy.2 with
  | none => some actionMap
  | some levelAction => actionDecision env clusterPolicy.1 actionMap levelAction.policyActionList

def actionExecution (env : RoundEnv) (actionMap : ThermalActionMap) : ThermalActionMap :=
  actionMap.map fun actionName thermalAction => thermalAction.execute (env.newId actionName)

/-- `ThermalPolicy::PolicyDecision`; nothing when it does not return. -/
def policyDecision (policy : ThermalPolicy) (env : RoundEnv) (actionMap : ThermalActionMap) :
    Option ThermalActionMap :=
  (policy.clusterPolicyMap.toList.foldlM (clusterDecision policy.clusterLevelMap env)
    actionMap).map (actionExecution env)

/-! ### What an action sees of a round -/

/-- The entry that a cluster puts forward for an action, with the level of its configuration. -/
def clusterEntry (clusterLevelMap : Map String Nat) (states : StateMachineMap) (name : String)
    (clusterPolicy : String × List PolicyConfig) : Option (Nat × PolicyAction) :=
  match governingConfig clusterLevelMap clusterPolicy.1 clusterPolicy.2 with
  | none => none
  | some levelAction =>
      ((actionPolicyInfos states levelAction.policyActionList)[name]?).map fun action =>
        (levelAction.level, action)

/-- The calls that a cluster makes on an action. -/
def clusterCalls (clusterLevelMap : Map String Nat) (env : RoundEnv) (name : String)
    (clusterPolicy : String × List PolicyConfig) : List Call :=
  (((clusterEntry clusterLevelMap env.stateMachineMap name clusterPolicy).bind fun entry =>
    policyCall (env.uninit clusterPolicy.1 name) entry.2).join).toList

/-- All calls of a round on an action. -/
def policyCalls (policy : ThermalPolicy) (env : RoundEnv) (name : String) : List Call :=
  policy.clusterPolicyMap.toList.flatMap (clusterCalls policy.clusterLevelMap env name)

theorem TimedAction.addCalls_append (w : TimedAction) (calls calls' : List Call) :
    w.addCalls (calls ++ calls') = (w.addCalls calls).addCalls calls' := by
  rw [addCalls, Action.addCalls, List.foldl_append]
  rfl

theorem foldlM_lookup {ε : Type} {f : ThermalActionMap → ε → Option ThermalActionMap}
    {calls : ε → List Call} {name : String}
    (hf : ∀ (actionMap actionMap' : ThermalActionMap) (e : ε), f actionMap e = some actionMap' →
      actionMap'[name]? = (actionMap[name]?).map fun w => w.addCalls (calls e))
    {entries : List ε} {actionMap actionMap' : ThermalActionMap}
    (hfold : entries.foldlM f actionMap = some actionMap') :
    actionMap'[name]? = (actionMap[name]?).map fun w => w.addCalls (entries.flatMap calls) := by
  induction entries generalizing actionMap with
  | nil =>
    obtain rfl := Option.some.inj hfold
    exact (Option.map_id' (x := actionMap[name]?)).symm
  | cons e rest ih =>
    rw [List.foldlM_cons] at hfold
    obtain ⟨mid, hmid, hrest⟩ := Option.bind_eq_some_iff.mp hfold
    rw [ih hrest, hf actionMap mid e hmid, Option.map_map]
    refine congrArg (fun g => (actionMap[name]?).map g) ?_
    funext w
    exact (w.addCalls_append (calls e) (rest.flatMap calls)).symm

/-- Whatever the order of the walk, it meets the entry of a name once. -/
theorem HashOrder.walk_entries (order : HashOrder) (infos : Map String PolicyAction)
    (name : String) :
    ((order.walk infos).filterMap fun info => if info.1 = name then some info.2 else none) =
      (infos[name]?).toList := by
  have hnodup : infos.toList.Nodup :=
    (Std.ExtTreeMap.distinct_keys_toList (t := infos)).imp
      fun hne heq => hne (Std.compare_eq_iff_eq.mpr (congrArg Prod.fst heq))
  have hperm : ((order.walk infos).filterMap
      fun info => if info.1 = name then some info.2 else none).Perm (infos[name]?).toList := by
    refine ((order.perm infos).filterMap _).trans ?_
    refine (List.perm_ext_iff_of_nodup (hnodup.filterMap ?_) ?_).mpr ?_
    · intro info info' action hinfo hinfo'
      simp only [Option.mem_def, Option.ite_none_right_eq_some, Option.some.injEq] at hinfo hinfo'
      exact Prod.ext (hinfo.1.trans hinfo'.1.symm) (hinfo.2.trans hinfo'.2.symm)
    · cases infos[name]? <;> simp
    · intro action
      simp [Std.ExtTreeMap.mem_toList_iff_getElem?_eq_some]
  cases hlookup : infos[name]? with
  | none => exact (hlookup ▸ hperm).eq_nil
  | some action => exact (hlookup ▸ hperm).eq_singleton

/-! ### The round of one action -/

section Lookup

variable {actionMap actionMap' : ThermalActionMap} {env : RoundEnv} {name : String}

theorem addPolicyAction_cases {uninit : String → PolicyDelayAction}
    {info : String × PolicyAction}
    (hadd : addPolicyAction uninit actionMap info = some actionMap') :
    actionMap[info.1]? = none ∧ actionMap' = actionMap ∨
      policyCall (uninit info.1) info.2 = some none ∧ actionMap' = actionMap ∨
      ∃ thermalAction call, actionMap[info.1]? = some thermalAction ∧
        policyCall (uninit info.1) info.2 = some (some call) ∧
        actionMap' = actionMap.insert info.1 (thermalAction.addCalls [call]) := by
  rw [addPolicyAction] at hadd
  cases hlookup : actionMap[info.1]? with
  | none =>
    rw [hlookup] at hadd
    exact Or.inl ⟨rfl, (Option.some.inj hadd).symm⟩
  | some thermalAction =>
    rw [hlookup] at hadd
    obtain ⟨call, hcall, hmap⟩ := Option.map_eq_some_iff.mp hadd
    cases call with
    | none => exact Or.inr (Or.inl ⟨hcall, hmap.symm⟩)
    | some call => exact Or.inr (Or.inr ⟨thermalAction, call, rfl, hcall, hmap.symm⟩)

theorem addPolicyAction_lookup {uninit : String → PolicyDelayAction}
    {info : String × PolicyAction}
    (hadd : addPolicyAction uninit actionMap info = some actionMap') :
    actionMap'[name]? = (actionMap[name]?).map fun w => w.addCalls
      (if info.1 = name then ((policyCall (uninit name) info.2).join).toList else []) := by
  have hskip : actionMap[name]? = (actionMap[name]?).map fun w => w.addCalls [] :=
    (Option.map_id' (x := actionMap[name]?)).symm
  rcases addPolicyAction_cases hadd with
    ⟨hlookup, rfl⟩ | ⟨hcall, rfl⟩ | ⟨thermalAction, call, hlookup, hcall, rfl⟩
  · by_cases hname : info.1 = name
    · rw [← hname, hlookup]
      rfl
    · rw [if_neg hname]
      exact hskip
  · by_cases hname : info.1 = name
    · subst hname
      rw [if_pos rfl, hcall]
      exact hskip
    · rw [if_neg hname]
      exact hskip
  · by_cases hname : info.1 = name
    · subst hname
      rw [if_pos rfl, hcall, hlookup, Std.ExtTreeMap.getElem?_insert_self]
      rfl
    · rw [if_neg hname, Std.ExtTreeMap.getElem?_insert,
        if_neg (mt Std.compare_eq_iff_eq.mp hname)]
      exact hskip

theorem actionDecision_lookup {clusterName : String} {actionList : List PolicyAction}
    (hdecision : actionDecision env clusterName actionMap actionList = some actionMap') :
    actionMap'[name]? = (actionMap[name]?).map fun w => w.addCalls
      ((((actionPolicyInfos env.stateMachineMap actionList)[name]?).bind fun action =>
        policyCall (env.uninit clusterName name) action).join).toList := by
  refine (foldlM_lookup (fun _ _ _ hinfo => addPolicyAction_lookup hinfo) hdecision).trans ?_
  refine congrArg (fun g => (actionMap[name]?).map g) (funext fun w => congrArg w.addCalls ?_)
  -- the calls of the walk are those of the entries it meets under the name
  have hwalk : ∀ infos : List (String × PolicyAction),
      (infos.flatMap fun info => if info.1 = name then
        ((policyCall (env.uninit clusterName name) info.2).join).toList else []) =
      (infos.filterMap fun info => if info.1 = name then some info.2 else none).flatMap
        fun action => ((policyCall (env.uninit clusterName name) action).join).toList := by
    intro infos
    induction infos with
    | nil => rfl
    | cons info rest ih =>
      rw [List.flatMap_cons, List.filterMap_cons, ih]
      by_cases hname : info.1 = name
      · rw [if_pos hname, if_pos hname]
        rfl
      · rw [if_neg hname, if_neg hname]
        rfl
  rw [hwalk, HashOrder.walk_entries]
  cases (actionPolicyInfos env.stateMachineMap actionList)[name]? with
  | none => rfl
  | some action => simp

theorem clusterDecision_lookup {clusterLevelMap : Map String Nat}
    {clusterPolicy : String × List PolicyConfig}
    (hdecision : clusterDecision clusterLevelMap env actionMap clusterPolicy = some actionMap') :
    actionMap'[name]? = (actionMap[name]?).map fun w => w.addCalls
      (clusterCalls clusterLevelMap env name clusterPolicy) := by
  rw [clusterDecision] at hdecision
  rw [clusterCalls, clusterEntry]
  cases hconfig : governingConfig clusterLevelMap clusterPolicy.1 clusterPolicy.2 with
  | none =>
    rw [hconfig] at hdecision
    obtain rfl := Option.some.inj hdecision
    exact (Option.map_id' (x := actionMap[name]?)).symm
  | some levelAction =>
    rw [hconfig] at hdecision
    rw [actionDecision_lookup hdecision]
    dsimp only
    rw [Option.bind_map]
    rfl

/-- A policy round is, for every action, a round with the calls made on it. -/
theorem policyDecision_lookup {policy : ThermalPolicy}
    (hdecision : policyDecision policy env actionMap = some actionMap') (name : String) :
    actionMap'[name]? = (actionMap[name]?).map fun w =>
      w.round (policyCalls policy env name) (env.newId name) := by
  obtain ⟨added, hadded, rfl⟩ := Option.map_eq_some_iff.mp hdecision
  rw [actionExecution, Std.ExtTreeMap.getElem?_map,
    foldlM_lookup (fun _ _ _ hcluster => clusterDecision_lookup hcluster) hadded,
    Option.map_map]
  rfl

end Lookup

theorem policyDecision_isSome {policy : ThermalPolicy} {env : RoundEnv}
    (hcalls : ∀ (clusterName : String) (policyConfig : List PolicyConfig)
      (levelAction : PolicyConfig) (name : String) (action : PolicyAction),
      policy.clusterPolicyMap[clusterName]? = some policyConfig →
      governingConfig policy.clusterLevelMap clusterName policyConfig = some levelAction →
      (actionPolicyInfos env.stateMachineMap levelAction.policyActionList)[name]? = some action →
      (policyCall (env.uninit clusterName name) action).isSome) (actionMap : ThermalActionMap) :
    (policyDecision policy env actionMap).isSome := by
  rw [policyDecision, Option.isSome_map]
  apply StepSystem.foldlM_isSome
  intro actionMap clusterPolicy hmem
  have hpolicy := Std.ExtTreeMap.mem_toList_iff_getElem?_eq_some.mp hmem
  rw [clusterDecision]
  cases hconfig : governingConfig policy.clusterLevelMap clusterPolicy.1 clusterPolicy.2 with
  | none => rfl
  | some levelAction =>
    dsimp only
    rw [actionDecision]
    apply StepSystem.foldlM_isSome
    intro actionMap info hinfo
    have hentry := Std.ExtTreeMap.mem_toList_iff_getElem?_eq_some.mp
      (((env.hashOrder clusterPolicy.1).perm _).mem_iff.mp hinfo)
    rw [addPolicyAction]
    cases actionMap[info.1]? with
    | none => rfl
    | some thermalAction =>
      dsimp only
      rw [Option.isSome_map]
      exact hcalls clusterPolicy.1 clusterPolicy.2 levelAction info.1 info.2 hpolicy hconfig hentry

end ThermalManager
