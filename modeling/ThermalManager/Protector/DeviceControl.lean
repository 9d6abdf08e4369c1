import Mathlib.Logic.Function.Iterate
import ThermalManager.Protector.KernelPolicy

/-!
# The device control of the protector

`thermal_device_control.cpp` and the three actions it makes. An action writes its value to a node,
and remembers both the value it was last given and the value it last wrote. The policy executes an
action once for every name in a list that is never cleared, so an action is executed again in every
pass for every value it was ever given.
-/

namespace ThermalManager

open StepSystem

/-- `latestvalue` is the member, `value` the static variable of `Execute`; `written` is what has
been written to the node. -/
structure DeviceAction where
  path : String
  latestvalue : Nat := 0
  value : Nat := 0
  written : List Nat := []
  deriving DecidableEq

namespace DeviceAction

def addActionValue (a : DeviceAction) (value : Nat) : DeviceAction :=
  { a with latestvalue := value }

/-- The request of each action, which writes the value to its node. -/
def actionRequest (a : DeviceAction) (value : Nat) : DeviceAction :=
  { a with written := a.written ++ [value] }

def execute (a : DeviceAction) : DeviceAction :=
  if a.value ≠ a.latestvalue then
    { a.actionRequest a.latestvalue with value := a.latestvalue }
  else
    { a with latestvalue := 0 }

end DeviceAction

def cpuAction : DeviceAction := { path := "/data/service/el0/thermal/cooling/cpu/freq" }

def currentAction : DeviceAction := { path := "/data/service/el0/thermal/cooling/battery/current" }

def voltageAction : DeviceAction := { path := "/data/service/el0/thermal/cooling/battery/voltage" }

namespace DeviceControlFactory

def create (name : String) : Option DeviceAction :=
  if name = "cpu" then some cpuAction
  else if name = "current" then some currentAction
  else if name = "voltage" then some voltageAction
  else none

end DeviceControlFactory

namespace ThermalDeviceControl

/-- The action that a name finds; a name with a null pointer finds as little as an absent one. -/
abbrev ThermalActionMap : Type := String → Option DeviceAction

def init (actionList : List LevelAction) : ThermalActionMap := fun name =>
  if actionList.any fun level => level.vAction.any fun action => action.name = name then
    DeviceControlFactory.create name
  else none

/-- The action found under the name does something. -/
def modify (actionMap : ThermalActionMap) (name : String) (act : DeviceAction → DeviceAction) :
    ThermalActionMap :=
  Function.update actionMap name ((actionMap name).map act)

/-- The values that the policy decides on reach their actions. -/
def addActionValues (actionMap : ThermalActionMap) (decided : List ProtectorActionItem) :
    ThermalActionMap :=
  decided.foldl (fun actionMap actionIter => modify actionMap actionIter.name
    (DeviceAction.addActionValue · actionIter.value)) actionMap

/-- `ActionExecution` of the policy. -/
def actionExecution (actionMap : ThermalActionMap) (executeActionList : List String) :
    ThermalActionMap :=
  executeActionList.foldl (fun actionMap name => modify actionMap name DeviceAction.execute)
    actionMap

end ThermalDeviceControl

structure ThermalKernelService where
  policy : ThermalKernelPolicy
  control : ThermalDeviceControl.ThermalActionMap

namespace ThermalKernelService

/-- The names under which the device control has an action. -/
def registered (s : ThermalKernelService) (name : String) : Bool := (s.control name).isSome

/-- `PolicyDecision`: the selected values are added, then the listed actions are executed. -/
def policyDecision (s : ThermalKernelService) : ThermalKernelService :=
  let decided := s.policy.policyDecision s.registered
  { policy := decided.1
    control := ThermalDeviceControl.actionExecution
      (ThermalDeviceControl.addActionValues s.control decided.2.1) decided.2.2 }

def pass (s : ThermalKernelService) (levelMap : Map String Nat) : ThermalKernelService :=
  { s with policy := { s.policy with levelMap } }.policyDecision

def start (tzInfoMap : ThermalZoneMap) (levelAction : List LevelAction) : ThermalKernelService where
  policy := ThermalKernelPolicy.start tzInfoMap levelAction
  control := ThermalDeviceControl.init levelAction

end ThermalKernelService

/-! ### What executions write -/

namespace DeviceAction

variable {a : DeviceAction}

theorem execute_of_ne (h : a.value ≠ a.latestvalue) : a.execute =
    { a with value := a.latestvalue, written := a.written ++ [a.latestvalue] } :=
  if_pos h

theorem execute_of_eq (h : a.value = a.latestvalue) : a.execute = { a with latestvalue := 0 } :=
  if_neg (not_not_intro h)

theorem value_execute_of_ne (h : a.value ≠ a.latestvalue) :
    a.execute.value = a.execute.latestvalue := by
  rw [execute_of_ne h]

theorem iterate_execute_rest (hvalue : a.value = 0) (hlatest : a.latestvalue = 0) (times : Nat) :
    execute^[times] a = a := by
  apply Function.iterate_fixed
  rw [execute_of_eq (hvalue.trans hlatest.symm), ← hlatest]

/-- What a number of executions write. Executed once more, an action takes its value for the one to
leave, and writes zero the time after. -/
def writes (a : DeviceAction) (times : Nat) : List Nat :=
  if a.value = a.latestvalue then
    if times ≤ 1 ∨ a.latestvalue = 0 then [] else [0]
  else if times = 0 then []
  else if times ≤ 2 ∨ a.latestvalue = 0 then [a.latestvalue]
  else [a.latestvalue, 0]

theorem writes_of_eq (h : a.value = a.latestvalue) (times : Nat) :
    a.writes times = if times ≤ 1 ∨ a.latestvalue = 0 then [] else [0] :=
  if_pos h

theorem writes_succ_of_ne (h : a.value ≠ a.latestvalue) (times : Nat) :
    a.writes (times + 1) = a.latestvalue :: a.execute.writes times := by
  rw [writes_of_eq (value_execute_of_ne h), execute_of_ne h, writes, if_neg h,
    if_neg times.succ_ne_zero]
  simp only [Nat.reduceLeDiff]
  split <;> rfl

theorem written_iterate_of_eq (h : a.value = a.latestvalue) (times : Nat) :
    (execute^[times] a).written = a.written ++ a.writes times := by
  rw [writes_of_eq h]
  by_cases hzero : a.latestvalue = 0
  · rw [iterate_execute_rest (h.trans hzero) hzero, if_pos (.inr hzero), List.append_nil]
  · rcases times with - | - | times
    · exact (List.append_nil _).symm
    · rw [Function.iterate_one, execute_of_eq h]
      exact (List.append_nil _).symm
    · have hleft : a.execute = { a with latestvalue := 0 } := execute_of_eq h
      have hne : a.execute.value ≠ a.execute.latestvalue := by
        rw [hleft]
        exact h ▸ hzero
      have hrest : a.execute.execute.value = 0 ∧ a.execute.execute.latestvalue = 0 := by
        rw [execute_of_ne hne, hleft]
        exact ⟨rfl, rfl⟩
      rw [Function.iterate_succ_apply, Function.iterate_succ_apply,
        iterate_execute_rest hrest.1 hrest.2, execute_of_ne hne, hleft, if_neg (by omega)]

theorem written_iterate (a : DeviceAction) (times : Nat) :
    (execute^[times] a).written = a.written ++ a.writes times := by
  by_cases h : a.value = a.latestvalue
  · exact written_iterate_of_eq h times
  · cases times with
    | zero =>
      rw [writes, if_neg h, if_pos rfl]
      exact (List.append_nil _).symm
    | succ times =>
      rw [Function.iterate_succ_apply, written_iterate_of_eq (value_execute_of_ne h),
        writes_succ_of_ne h, List.append_cons]
      congr 1
      rw [execute_of_ne h]

/-- The static variable is what was written last, or zero. -/
def Remembers (a : DeviceAction) : Prop := a.value = a.written.getLast?.getD 0

theorem Remembers.addActionValue (h : a.Remembers) (value : Nat) :
    (a.addActionValue value).Remembers := h

theorem Remembers.execute (h : a.Remembers) : a.execute.Remembers := by
  by_cases hvalue : a.value = a.latestvalue
  · rw [execute_of_eq hvalue]
    exact h
  · rw [execute_of_ne hvalue, Remembers, List.getLast?_append]
    rfl

theorem Remembers.iterate_execute (h : a.Remembers) (times : Nat) :
    (DeviceAction.execute^[times] a).Remembers := by
  induction times with
  | zero => exact h
  | succ times ih =>
    rw [Function.iterate_succ_apply']
    exact ih.execute

/-- The action after a pass that gave it these values and executed it so often. -/
def afterPass (a : DeviceAction) (given : List Nat) (times : Nat) : DeviceAction :=
  execute^[times] { a with latestvalue := given.getLast?.getD a.latestvalue }

theorem Remembers.afterPass (h : a.Remembers) (given : List Nat) (times : Nat) :
    (a.afterPass given times).Remembers :=
  Remembers.iterate_execute (h.addActionValue _) times

/-- What was written last is the value given last, if any was given, and else nothing was
written. -/
def Holds (a a' : DeviceAction) (given : List Nat) : Prop :=
  (given ≠ [] → a'.written.getLast? = given.getLast?) ∧ (given = [] → a'.written = a.written)

/-- Of the values the action was ever given, `listed` are from before the pass. A new value stays
for two executions and a value that is there for one. An action that is given none keeps its value
for one execution, and only if the last pass ended with it. Zero stays once it has been written. -/
def Stays (a : DeviceAction) (given : List Nat) (listed : Nat) : Prop :=
  (∀ last, given.getLast? = some last →
    last ≠ a.value ∧ (listed + given.length ≤ 2 ∨ last = 0) ∨
    last = a.value ∧ a.written ≠ [] ∧ (listed + given.length ≤ 1 ∨ last = 0)) ∧
  (given = [] → listed = 0 ∨ a.latestvalue = a.value ∧ (listed ≤ 1 ∨ a.value = 0))

theorem foldl_addActionValue (given : List Nat) (a : DeviceAction) :
    given.foldl addActionValue a =
      { a with latestvalue := given.getLast?.getD a.latestvalue } := by
  induction given generalizing a with
  | nil => rfl
  | cons value rest ih =>
    rw [List.foldl_cons, ih, List.getLast?_cons]
    cases rest.getLast? <;> rfl

theorem writes_eq_nil_iff (a : DeviceAction) (times : Nat) : a.writes times = [] ↔
    times = 0 ∨ a.latestvalue = a.value ∧ (times ≤ 1 ∨ a.value = 0) := by
  by_cases h : a.value = a.latestvalue
  · rw [writes_of_eq h, ← h]
    simp only [ite_eq_left_iff, List.cons_ne_nil, imp_false, not_not, true_and]
    omega
  · cases times with
    | zero => simp [writes, h]
    | succ times => simp [writes_succ_of_ne h, Ne.symm h]

theorem getLast?_writes_of_eq (h : a.value = a.latestvalue) (times : Nat) :
    (a.writes times).getLast? = if times ≤ 1 ∨ a.latestvalue = 0 then none else some 0 := by
  rw [writes_of_eq h]
  split <;> rfl

theorem getLast?_writes_of_ne (h : a.value ≠ a.latestvalue) {times : Nat} (htimes : 0 < times) :
    (a.writes times).getLast? =
      some (if times ≤ 2 ∨ a.latestvalue = 0 then a.latestvalue else 0) := by
  rw [writes, if_neg h, if_neg htimes.ne']
  split <;> rfl

theorem getLast?_written_iff (h : a.Remembers) (last : Nat) {times : Nat} (htimes : 0 < times) :
    (execute^[times] { a with latestvalue := last }).written.getLast? = some last ↔
      last ≠ a.value ∧ (times ≤ 2 ∨ last = 0) ∨
      last = a.value ∧ a.written ≠ [] ∧ (times ≤ 1 ∨ last = 0) := by
  rw [written_iterate, List.getLast?_append]
  by_cases hvalue : a.value = last
  · rw [getLast?_writes_of_eq hvalue]
    show (if times ≤ 1 ∨ last = 0 then none else some 0).or a.written.getLast? = some last ↔ _
    refine Iff.trans ?_ (or_iff_right fun hne => hne.1 hvalue.symm).symm
    rw [and_iff_right hvalue.symm]
    by_cases hstays : times ≤ 1 ∨ last = 0
    · rw [if_pos hstays, and_iff_left hstays, Option.none_or]
      refine ⟨fun hlast hnil => ?_, fun hwritten => ?_⟩
      · rw [hnil] at hlast
        exact Option.some_ne_none last hlast.symm
      · have hlast := List.getLast?_eq_some_getLast hwritten
        rw [Remembers, hlast, hvalue] at h
        exact hlast.trans (congrArg some h.symm)
    · rw [if_neg hstays, Option.some_or, Option.some.injEq]
      exact iff_of_false (fun hzero => hstays (.inr hzero.symm)) (fun hboth => hstays hboth.2)
  · rw [getLast?_writes_of_ne hvalue htimes, Option.some_or, Option.some.injEq]
    show (if times ≤ 2 ∨ last = 0 then last else 0) = last ↔ _
    refine Iff.trans ?_ (or_iff_left fun heq => hvalue heq.1.symm).symm
    rw [and_iff_right (Ne.symm hvalue)]
    refine ⟨fun hlast => ?_, fun hstays => if_pos hstays⟩
    by_contra hleaves
    rw [if_neg hleaves] at hlast
    exact hleaves (.inr hlast.symm)

theorem holds_iff_stays (h : a.Remembers) (given : List Nat) (listed : Nat) :
    a.Holds (a.afterPass given (listed + given.length)) given ↔ a.Stays given listed := by
  cases hlast : given.getLast? with
  | none =>
    obtain rfl := List.getLast?_eq_none_iff.mp hlast
    have hpass : a.afterPass [] listed = execute^[listed] a := rfl
    simp [Holds, Stays, hpass, written_iterate, writes_eq_nil_iff]
  | some last =>
    have hne : given ≠ [] := by
      rintro rfl
      simp at hlast
    have hlength : 0 < listed + given.length := by
      have := List.length_pos_iff.mpr hne
      omega
    simp [Holds, Stays, hne, hlast, afterPass, getLast?_written_iff h last hlength]

end DeviceAction

/-! ### What a pass does to an action -/

namespace ThermalDeviceControl

variable {α : Type}

/-- A loop over the map does to each action what the members with its name do. -/
theorem foldl_modify (key : α → String) (act : α → DeviceAction → DeviceAction) (xs : List α)
    (actionMap : ThermalActionMap) (name : String) :
    xs.foldl (fun actionMap x => modify actionMap (key x) (act x)) actionMap name =
      (actionMap name).map fun a =>
        (xs.filter fun x => key x = name).foldl (fun a x => act x a) a := by
  induction xs generalizing actionMap with
  | nil => exact Option.map_id'.symm
  | cons x rest ih =>
    rw [List.foldl_cons, ih, modify]
    by_cases hx : key x = name
    · rw [← hx, Function.update_self, Option.map_map, List.filter_cons_of_pos (by simp)]
      rfl
    · rw [Function.update_of_ne (Ne.symm hx), List.filter_cons_of_neg (by simpa using hx)]

theorem addActionValues_apply (decided : List ProtectorActionItem) (actionMap : ThermalActionMap)
    (name : String) : addActionValues actionMap decided name = (actionMap name).map fun a =>
      (((decided.filter fun item => item.name = name).map ProtectorActionItem.value).foldl
        DeviceAction.addActionValue a) := by
  refine (foldl_modify ProtectorActionItem.name
    (fun item => (DeviceAction.addActionValue · item.value)) decided actionMap name).trans ?_
  simp only [List.foldl_map]

theorem actionExecution_apply (executeActionList : List String) (actionMap : ThermalActionMap)
    (name : String) : actionExecution actionMap executeActionList name = (actionMap name).map
      DeviceAction.execute^[(executeActionList.filter fun executed => executed = name).length] := by
  refine (foldl_modify id (fun _ => DeviceAction.execute) executeActionList actionMap
    name).trans ?_
  simp only [List.foldl_const, id]

end ThermalDeviceControl

namespace ThermalKernelPolicy

/-- The values that the selected entries have for the action, in their order. -/
def given (p : ThermalKernelPolicy) (name : String) : List Nat :=
  ((p.selected.flatMap LevelAction.vAction).filter fun item => item.name = name).map
    ProtectorActionItem.value

variable {registered : String → Bool} {name : String}

theorem filter_registered {α : Type} (key : α → String) (hname : registered name) (xs : List α) :
    (xs.filter fun x => registered (key x)).filter (fun x => key x = name) =
      xs.filter fun x => key x = name := by
  rw [List.filter_filter]
  apply List.filter_congr
  intro x _
  by_cases hx : key x = name
  · rw [hx, hname, Bool.and_true]
  · rw [decide_eq_false hx, Bool.false_and]

theorem policyDecision_given (p : ThermalKernelPolicy) (hname : registered name) :
    ((policyDecision registered p).2.1.filter fun item => item.name = name).map
      ProtectorActionItem.value = p.given name := by
  rw [policyDecision_values, filter_registered ProtectorActionItem.name hname, given]

theorem policyDecision_executeActionList (registered : String → Bool) (p : ThermalKernelPolicy) :
    (policyDecision registered p).1.executeActionList = p.executeActionList ++
      (policyDecision registered p).2.1.map ProtectorActionItem.name := by
  rw [policyDecision, foldl_actionDecision]
  rfl

theorem count_executeActionList (p : ThermalKernelPolicy) (hname : registered name) :
    (policyDecision registered p).1.executeActionList.count name =
      p.executeActionList.count name + (p.given name).length := by
  rw [policyDecision_executeActionList, List.count_append, ← policyDecision_given p hname,
    List.length_map, ← List.countP_eq_length_filter]
  exact congrArg _ List.countP_map

/-- The action is executed for every value it was ever given. -/
theorem policyDecision_executed (p : ThermalKernelPolicy) (hname : registered name) :
    ((policyDecision registered p).2.2.filter fun executed => executed = name).length =
      p.executeActionList.count name + (p.given name).length := by
  rw [← count_executeActionList p hname, List.count_eq_length_filter]
  exact congrArg List.length (filter_registered id hname _)

end ThermalKernelPolicy

namespace ThermalKernelService

variable {s : ThermalKernelService} {name : String}

theorem control_policyDecision (s : ThermalKernelService) (name : String) :
    s.policyDecision.control name = (s.control name).map fun a =>
      a.afterPass (s.policy.given name)
        (s.policy.executeActionList.count name + (s.policy.given name).length) := by
  show ThermalDeviceControl.actionExecution _ _ name = _
  rw [ThermalDeviceControl.actionExecution_apply, ThermalDeviceControl.addActionValues_apply]
  cases hname : s.control name with
  | none => rfl
  | some a =>
    have hregistered : s.registered name := Option.isSome_iff_exists.mpr ⟨a, hname⟩
    rw [s.policy.policyDecision_executed hregistered, s.policy.policyDecision_given hregistered]
    simp only [Option.map_some, DeviceAction.afterPass, DeviceAction.foldl_addActionValue]

/-- The values that an action is given in a pass with these levels. -/
def given (s : ThermalKernelService) (levelMap : Map String Nat) (name : String) : List Nat :=
  { s.policy with levelMap }.given name

theorem control_pass (s : ThermalKernelService) (levelMap : Map String Nat) (name : String) :
    (s.pass levelMap).control name = (s.control name).map fun a =>
      a.afterPass (s.given levelMap name)
        (s.policy.executeActionList.count name + (s.given levelMap name).length) :=
  control_policyDecision _ name

theorem given_pass (s : ThermalKernelService) (levelMap levelMap' : Map String Nat)
    (name : String) : (s.pass levelMap).given levelMap' name = s.given levelMap' name := by
  obtain ⟨executed, hpolicy⟩ :=
    ThermalKernelPolicy.policyDecision_fst s.registered { s.policy with levelMap }
  have hpass : (s.pass levelMap).policy =
      { s.policy with levelMap := levelMap, executeActionList := executed } := hpolicy
  rw [given, hpass]
  rfl

/-! ### The decided value at the device -/

/-- Every action holds the value that the pass decides on. -/
def HoldsDecided (s : ThermalKernelService) (levelMap : Map String Nat) : Prop :=
  ∀ (name : String) (a : DeviceAction), s.control name = some a →
    ∃ a', (s.pass levelMap).control name = some a' ∧ a.Holds a' (s.given levelMap name)

/-- No action is executed so often that it leaves its value. -/
def StaysDecided (s : ThermalKernelService) (levelMap : Map String Nat) : Prop :=
  ∀ (name : String) (a : DeviceAction), s.control name = some a →
    a.Stays (s.given levelMap name) (s.policy.executeActionList.count name)

/-- What the node of an action has. -/
def device (s : ThermalKernelService) (name : String) : Option Nat :=
  (s.control name).bind fun a => a.written.getLast?

/-- A pass with the levels of the one before leaves every device as it is. -/
def RepeatsKeep (s : ThermalKernelService) (passes : List (Map String Nat)) : Prop :=
  ∀ (before : List (Map String Nat)) (levelMap : Map String Nat) (name : String),
    before ++ [levelMap, levelMap] <+: passes →
      ((before ++ [levelMap, levelMap]).foldl pass s).device name =
        ((before ++ [levelMap]).foldl pass s).device name

def Remembers (s : ThermalKernelService) : Prop :=
  ∀ (name : String) (a : DeviceAction), s.control name = some a → a.Remembers

theorem start_remembers (tzInfoMap : ThermalZoneMap) (levelAction : List LevelAction) :
    (start tzInfoMap levelAction).Remembers := by
  intro name a ha
  replace ha : ThermalDeviceControl.init levelAction name = some a := ha
  rw [ThermalDeviceControl.init, DeviceControlFactory.create] at ha
  split_ifs at ha <;> cases ha <;> rfl

theorem Remembers.pass (h : s.Remembers) (levelMap : Map String Nat) :
    (s.pass levelMap).Remembers := by
  intro name a' ha'
  rw [control_pass] at ha'
  obtain ⟨a, ha, rfl⟩ := Option.map_eq_some_iff.mp ha'
  exact (h name a ha).afterPass _ _

theorem holdsDecided_iff (h : s.Remembers) (levelMap : Map String Nat) :
    s.HoldsDecided levelMap ↔ s.StaysDecided levelMap := by
  refine forall₃_congr fun name a ha => ?_
  rw [← DeviceAction.holds_iff_stays (h name a ha), control_pass, ha]
  simp only [Option.map_some, Option.some.injEq, exists_eq_left']

/-- What the device has after a pass that decided its value does not change when it decides the same
again. -/
theorem HoldsDecided.device_pass {levelMap : Map String Nat} (h : s.HoldsDecided levelMap)
    (hagain : (s.pass levelMap).HoldsDecided levelMap) (name : String) :
    ((s.pass levelMap).pass levelMap).device name = (s.pass levelMap).device name := by
  cases ha : s.control name with
  | none =>
    rw [device, device, control_pass, control_pass, ha]
    rfl
  | some a =>
    obtain ⟨a', ha', hgiven, hnone⟩ := h name a ha
    obtain ⟨a'', ha'', hgiven', hnone'⟩ := hagain name a' ha'
    rw [given_pass] at hgiven' hnone'
    rw [device, device, ha', ha'', Option.bind_some, Option.bind_some]
    by_cases hnil : s.given levelMap name = []
    · rw [hnone' hnil]
    · rw [hgiven' hnil, hgiven hnil]

/-- The device has the decided value after every pass, and keeps it when the levels stay, exactly as
long as no action is executed so often that it leaves the value. -/
theorem device_holds_iff (tzInfoMap : ThermalZoneMap) (levelAction : List LevelAction)
    (passes : List (Map String Nat)) :
    (Enabled HoldsDecided pass (start tzInfoMap levelAction) passes ∧
        (start tzInfoMap levelAction).RepeatsKeep passes) ↔
      Enabled StaysDecided pass (start tzInfoMap levelAction) passes := by
  rw [← enabled_congr Remembers (fun s levelMap h => holdsDecided_iff h levelMap)
    (fun s levelMap h _ => h.pass levelMap) (start_remembers tzInfoMap levelAction)]
  refine and_iff_left_of_imp fun hholds before levelMap name hprefix => ?_
  have hfirst : before ++ [levelMap] <+: passes :=
    ((List.prefix_append_right_inj before).mpr (List.prefix_append [levelMap] [levelMap])).trans
      hprefix
  have hsecond : (before ++ [levelMap]) ++ [levelMap] <+: passes := by
    rw [List.append_assoc]
    exact hprefix
  have hagain := hholds.enabled_at hsecond
  rw [List.foldl_append] at hagain ⊢
  rw [List.foldl_append]
  exact (hholds.enabled_at hfirst).device_pass hagain name

/-- One zone on its first level, which wants the frequency at a value. -/
def cpuLevels : List LevelAction := [⟨"soc-thermal", 1, [⟨"cpu", 1800⟩]⟩]

def firstLevel : Map String Nat := (∅ : Map String Nat).insert "soc-thermal" 1

/-- The second pass takes the frequency back. -/
theorem device_given_up : ¬ ∀ (tzInfoMap : ThermalZoneMap) (levelAction : List LevelAction)
    (passes : List (Map String Nat)),
    Enabled HoldsDecided pass (start tzInfoMap levelAction) passes ∧
      (start tzInfoMap levelAction).RepeatsKeep passes := by
  intro h
  have hkeep := (h ∅ cpuLevels [firstLevel, firstLevel]).2 [] firstLevel "cpu"
    (List.prefix_refl _)
  exact absurd hkeep (by decide)

end ThermalKernelService

end ThermalManager
