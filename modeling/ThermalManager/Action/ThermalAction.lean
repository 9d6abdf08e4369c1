import ThermalManager.Action.ActionClass
import ThermalManager.Policy.SensorCluster
import ThermalManager.Lib.Extremum

/-!
# Actions and their delay timers

`ithermal_action.h` with the common part of the action classes: immediate values gather in a list
that `ExecuteInner` decides over and clears, delayed values wait in `policyActionMap` until their
timer fires. The time service hands out timer ids and calls back; which ids it hands out is an
argument of `execute`, and zero is its failure. The order in which the hash map is walked makes no
difference to anything here.
-/

namespace ThermalManager

open Extremum

/-! ### Data -/

structure PolicyDelayAction where
  isCompleted : Bool
  intDelayValue : Int
  uintDelayValue : Int
  delayTime : Nat
  delayTimerId : Nat
  deriving DecidableEq

namespace PolicyDelayAction

def delayValue (slot : DelaySlot) (entry : PolicyDelayAction) : Int :=
  match slot with
  | .intDelayValue => entry.intDelayValue
  | .uintDelayValue => entry.uintDelayValue

def setDelayValue (slot : DelaySlot) (value : Int) (entry : PolicyDelayAction) :
    PolicyDelayAction :=
  match slot with
  | .intDelayValue => { entry with intDelayValue := toInt32 value }
  | .uintDelayValue => { entry with uintDelayValue := value }

/-- The negation of the guard that skips an entry. -/
def needsTimer (entry : PolicyDelayAction) : Bool :=
  !(entry.isCompleted || decide (entry.delayTimerId > 0))

end PolicyDelayAction

/-- What a timer was created for: the entry it completes and the delay it was armed with. -/
structure ThermalTimerInfo where
  actionId : Nat
  delayTime : Nat
  deriving DecidableEq

/-- The timers of one action: all that were ever created, those not destroyed, those that called
back. -/
structure TimerService where
  created : Map Nat ThermalTimerInfo := ∅
  running : List Nat := []
  fired : List Nat := []

def TimerService.createTimer (service : TimerService) (timerId : Nat) (info : ThermalTimerInfo) :
    TimerService :=
  if timerId = 0 then service
  else { service with
    created := service.created.insert timerId info
    running := timerId :: service.running }

def TimerService.destroyTimer (service : TimerService) (timerId : Nat) : TimerService :=
  { service with running := service.running.filter fun t => t != timerId }

structure Action where
  cls : ActionClass
  isStrict : Bool
  valueList : List Int := []
  lastValue : Int
  policyActionMap : Map Nat PolicyDelayAction := ∅
  actionIdList : List Nat := []

/-! ### Adding values -/

namespace Action

def addActionDelayTime (a : Action) (actionId : Nat) (delayTime : PolicyDelayAction) : Action :=
  { a with
    policyActionMap := a.policyActionMap.insertIfNew actionId delayTime
    actionIdList := actionId :: a.actionIdList }

def addActionValue (a : Action) (actionId : Nat) (value : String) : Action :=
  match a.cls.parse value with
  | none => a
  | some v =>
      if actionId > 0 then
        { a with
          policyActionMap := a.policyActionMap.modify actionId
            (PolicyDelayAction.setDelayValue a.cls.slot v) }
      else { a with valueList := a.valueList ++ [v] }

/-! ### Deciding -/

def completedValues (a : Action) : List Int :=
  (a.policyActionMap.toList.filter fun policyAction => policyAction.2.isCompleted).map
    fun policyAction => policyAction.2.delayValue a.cls.slot

def getActionValue (a : Action) : Int :=
  a.cls.toResult (decided a.isStrict a.cls.fallbackValue a.valueList)

/-- The request made to the device when the value changes is left out. -/
def executeInner (a : Action) : Action :=
  let a := { a with valueList := a.valueList ++ a.completedValues }
  let value := a.getActionValue
  let a := if value ≠ a.lastValue then { a with lastValue := value } else a
  { a with valueList := [] }

def resetActionValue (a : Action) : Action := { a with lastValue := a.cls.lastValueReset }

end Action

/-! ### Executing -/

/-- An action with the timers it has created. -/
structure TimedAction where
  action : Action
  timers : TimerService := {}

namespace TimedAction

/-- Erase the entries that were not requested; the timers of those not completed are destroyed. -/
def dropUnrequested (w : TimedAction) : TimedAction where
  action := { w.action with
    policyActionMap := w.action.policyActionMap.filter fun actionId _ =>
      w.action.actionIdList.contains actionId
    actionIdList := [] }
  timers :=
    (w.action.policyActionMap.toList.filter fun policyAction =>
      !w.action.actionIdList.contains policyAction.1 && !policyAction.2.isCompleted).foldl
      (fun service policyAction => service.destroyTimer policyAction.2.delayTimerId) w.timers

/-- Create and start the timers of the entries that have none and are not completed. -/
def startTimers (newId : Nat → Nat) (w : TimedAction) : TimedAction where
  action := { w.action with
    policyActionMap := w.action.policyActionMap.map fun actionId entry =>
      if entry.needsTimer then { entry with delayTimerId := newId actionId } else entry }
  timers :=
    (w.action.policyActionMap.toList.filter fun policyAction => policyAction.2.needsTimer).foldl
      (fun service policyAction => service.createTimer (newId policyAction.1)
        ⟨policyAction.1, policyAction.2.delayTime⟩) w.timers

def executeInner (w : TimedAction) : TimedAction := { w with action := w.action.executeInner }

def execute (newId : Nat → Nat) (w : TimedAction) : TimedAction :=
  (w.dropUnrequested.startTimers newId).executeInner

/-- The callback of a timer. The entry is captured by reference; where it has been erased the
reference dangles, and the model does nothing. -/
def timerCallback (timerId : Nat) (w : TimedAction) : TimedAction :=
  match w.timers.created[timerId]? with
  | none => w
  | some info =>
      match w.action.policyActionMap[info.actionId]? with
      | none => w
      | some entry =>
          { action := Action.executeInner { w.action with
              policyActionMap := w.action.policyActionMap.insert info.actionId
                { entry with isCompleted := true } }
            timers := { w.timers.destroyTimer entry.delayTimerId with
              fired := timerId :: w.timers.fired } }

end TimedAction

/-! ### Rounds -/

/-- What a policy round tells an action: a value, or a freshly declared delayed entry with its
value. -/
inductive Call where
  | immediate (value : String)
  | delayed (actionId : Nat) (fresh : PolicyDelayAction) (value : String)

def Action.addCall (a : Action) : Call → Action
  | .immediate value => a.addActionValue 0 value
  | .delayed actionId fresh value =>
      (a.addActionDelayTime actionId fresh).addActionValue actionId value

def Action.addCalls (a : Action) (calls : List Call) : Action := calls.foldl addCall a

def TimedAction.addCalls (w : TimedAction) (calls : List Call) : TimedAction :=
  { w with action := w.action.addCalls calls }

/-- One policy round as an action sees it. -/
def TimedAction.round (calls : List Call) (newId : Nat → Nat) (w : TimedAction) : TimedAction :=
  (w.addCalls calls).execute newId

def requestedIds (calls : List Call) : List Nat :=
  calls.filterMap fun
    | .immediate _ => none
    | .delayed actionId _ _ => some actionId

/-- An action as the manager registers it. -/
def TimedAction.init (cls : ActionClass) (isStrict : Bool) : TimedAction :=
  { action := { cls := cls, isStrict := isStrict, lastValue := cls.lastValueInit } }

end ThermalManager
