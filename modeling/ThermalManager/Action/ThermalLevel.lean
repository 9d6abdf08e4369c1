import ThermalManager.Action.Lifecycle
import ThermalManager.Observer.CallbackRegistry

/-!
# The thermal level and its clients

`action_thermal_level.cpp`: the decided level is kept in the static `lastValue_`. A new one is
clamped, sent as a common event and to the listeners; a subscription and a query hand out
`lastValue_` as it is.
-/

namespace ThermalManager

open StepSystem Extremum

/-! ### The class -/

inductive ThermalLevel where
  | cool | normal | warm | hot | overheated | warning | emergency | escape
  deriving DecidableEq, Repr

def ThermalLevel.value : ThermalLevel → Int
  | .cool => 0 | .normal => 1 | .warm => 2 | .hot => 3
  | .overheated => 4 | .warning => 5 | .emergency => 6 | .escape => 7

def minThermalLevel : Int := ThermalLevel.cool.value
def maxThermalLevel : Int := ThermalLevel.escape.value

def InLevels (level : Int) : Prop := minThermalLevel ≤ level ∧ level ≤ maxThermalLevel

instance (level : Int) : Decidable (InLevels level) :=
  inferInstanceAs (Decidable (_ ∧ _))

/-- What `LevelRequest` makes of the level it is called with. -/
def requestedLevel (level : Int) : Int :=
  let level := if level > maxThermalLevel then maxThermalLevel else level
  if level < minThermalLevel then minThermalLevel else level

/-- What a client sees of the level: the common event, a callback, the callback made at the
subscription, or the answer to a query. -/
inductive LevelMessage where
  | commonEvent (level : Int)
  | onAsyncThermalLevelChanged (listener : RemoteObject) (level : Int)
  | onThermalLevelChanged (listener : RemoteObject) (level : Int)
  | subscribed (listener : RemoteObject) (level : Int)
  | queried (level : Int)

def LevelMessage.level : LevelMessage → Int
  | .commonEvent level => level
  | .onAsyncThermalLevelChanged _ level => level
  | .onThermalLevelChanged _ level => level
  | .subscribed _ level => level
  | .queried level => level

/-- The level was read for the client that asked. -/
def LevelMessage.isAnswer : LevelMessage → Bool
  | .subscribed _ _ => true
  | .queried _ => true
  | _ => false

/-- The request made by `ExecuteInner`. -/
def Action.levelRequest (a : Action) : Option Int :=
  let a := { a with valueList := a.valueList ++ a.completedValues }
  let value := a.getActionValue
  if value ≠ a.lastValue then some value else none

structure ActionThermalLevel where
  timed : TimedAction
  syncThermalLevelListeners : Std.ExtTreeSet RemoteObject compare := ∅
  asyncThermalLevelListeners : Std.ExtTreeSet RemoteObject compare := ∅

/-- A call as the policy makes it: the field of a fresh entry holds a `uint32_t`. -/
def Call.Typed : Call → Prop
  | .immediate _ => True
  | .delayed _ fresh _ => 0 ≤ fresh.uintDelayValue ∧ fresh.uintDelayValue ≤ uintMax

abbrev TypedCall := { call : Call // call.Typed }

inductive LevelEvent where
  | round (calls : List TypedCall) (newId : Nat → Nat)
  | fire (timerId : Nat)
  | subscribe (callback : Option RemoteObject) (isSync : Bool)
  | unSubscribe (callback : Option RemoteObject)
  | getThermalLevel

namespace ActionThermalLevel

/-- The action as the manager registers it. -/
def init (isStrict : Bool) : ActionThermalLevel :=
  { timed := TimedAction.init actionThermalLevel isStrict }

def notifyThermalLevelChanged (s : ActionThermalLevel) (level : Int) : List LevelMessage :=
  .commonEvent level ::
    s.asyncThermalLevelListeners.toList.map (.onAsyncThermalLevelChanged · level) ++
    s.syncThermalLevelListeners.toList.map (.onThermalLevelChanged · level)

def levelRequest (s : ActionThermalLevel) (level : Int) : List LevelMessage :=
  s.notifyThermalLevelChanged (requestedLevel level)

/-- The result says whether the listener is new to the set. -/
def addThermalLevelListeners (s : ActionThermalLevel) (callback : RemoteObject) (isSync : Bool) :
    Bool × ActionThermalLevel :=
  if isSync then
    (!s.syncThermalLevelListeners.contains callback,
      { s with syncThermalLevelListeners := s.syncThermalLevelListeners.insert callback })
  else
    (!s.asyncThermalLevelListeners.contains callback,
      { s with asyncThermalLevelListeners := s.asyncThermalLevelListeners.insert callback })

def subscribeThermalLevelCallback (s : ActionThermalLevel) (isSync : Bool) :
    Option RemoteObject → ActionThermalLevel × List LevelMessage
  | none => (s, [])
  | some callback =>
      match s.addThermalLevelListeners callback isSync with
      | (true, s) => (s, [.subscribed callback s.timed.action.lastValue])
      | (false, s) => (s, [])

def unSubscribeThermalLevelCallback (s : ActionThermalLevel) :
    Option RemoteObject → ActionThermalLevel
  | none => s
  | some callback =>
      { s with
        syncThermalLevelListeners := s.syncThermalLevelListeners.erase callback
        asyncThermalLevelListeners := s.asyncThermalLevelListeners.erase callback }

/-- The level passes through the `uint32_t` that the action manager returns. -/
def getThermalLevel (s : ActionThermalLevel) : Int := toInt32 (toUint32 s.timed.action.lastValue)

/-- The action at the call of `ExecuteInner` that the event makes, if it makes one. -/
def executed (s : ActionThermalLevel) : LevelEvent → Option Action
  | .round calls newId =>
      some ((s.timed.addCalls (calls.map Subtype.val)).dropUnrequested.startTimers newId).action
  | .fire timerId => do
      let info ← s.timed.timers.created[timerId]?
      let entry ← s.timed.action.policyActionMap[info.actionId]?
      pure { s.timed.action with
        policyActionMap := s.timed.action.policyActionMap.insert info.actionId
          { entry with isCompleted := true } }
  | _ => none

def step (s : ActionThermalLevel) : LevelEvent → ActionThermalLevel
  | .round calls newId => { s with timed := s.timed.round (calls.map Subtype.val) newId }
  | .fire timerId => { s with timed := s.timed.timerCallback timerId }
  | .subscribe callback isSync => (s.subscribeThermalLevelCallback isSync callback).1
  | .unSubscribe callback => s.unSubscribeThermalLevelCallback callback
  | .getThermalLevel => s

def messages (s : ActionThermalLevel) : LevelEvent → List LevelMessage
  | .subscribe callback isSync => (s.subscribeThermalLevelCallback isSync callback).2
  | .unSubscribe _ => []
  | .getThermalLevel => [.queried s.getThermalLevel]
  | e => (((s.executed e).bind Action.levelRequest).map s.levelRequest).getD []

end ActionThermalLevel

/-! ### Values in range -/

def Action.decidedOver (a : Action) : List Int := a.valueList ++ a.completedValues

structure Action.Typed (a : Action) : Prop where
  cls : a.cls = actionThermalLevel
  valueList : ∀ v ∈ a.valueList, 0 ≤ v ∧ v ≤ uintMax
  entries : ∀ (id : Nat) (entry : PolicyDelayAction), a.policyActionMap[id]? = some entry →
    0 ≤ entry.uintDelayValue ∧ entry.uintDelayValue ≤ uintMax

theorem strtolValue_typed {value : String} {v : Int} (h : strtolValue value = some v) :
    0 ≤ v ∧ v ≤ uintMax := by
  rw [strtolValue, Option.ite_none_left_eq_some] at h
  obtain rfl := Option.some.inj h.2
  rw [toUint32, uintMax]
  omega

namespace Action.Typed

variable {a : Action}

theorem decidedOver (h : a.Typed) {v : Int} (hv : v ∈ a.decidedOver) : 0 ≤ v ∧ v ≤ uintMax := by
  rcases List.mem_append.mp hv with hlist | hcompleted
  · exact h.valueList v hlist
  · obtain ⟨id, entry, hentry, -, hvalue⟩ := (mem_completedValues a).mp hcompleted
    rw [h.cls] at hvalue
    rw [← hvalue]
    exact h.entries id entry hentry

theorem addActionValue (h : a.Typed) (actionId : Nat) (value : String) :
    (a.addActionValue actionId value).Typed := by
  have hparse : ∀ v, a.cls.parse value = some v → 0 ≤ v ∧ v ≤ uintMax := by
    intro v hv
    rw [h.cls] at hv
    exact strtolValue_typed hv
  refine { cls := ?cls, valueList := ?valueList, entries := ?entries }
  case cls =>
    rw [Action.addActionValue]
    split
    · exact h.cls
    · split <;> exact h.cls
  case valueList =>
    intro v hv
    rw [addActionValue_valueList] at hv
    rcases List.mem_append.mp hv with hold | hnew
    · exact h.valueList v hold
    · split at hnew
      · exact hparse v (Option.mem_toList.mp hnew)
      · exact absurd hnew List.not_mem_nil
  case entries =>
    intro id entry hentry
    rw [addActionValue_entry] at hentry
    split at hentry
    case isFalse => exact h.entries id entry hentry
    case isTrue =>
      obtain ⟨old, hold, heq⟩ := Option.map_eq_some_iff.mp hentry
      rw [← heq]
      cases hv : a.cls.parse value with
      | none => exact h.entries id old hold
      | some v =>
        show 0 ≤ (old.setDelayValue a.cls.slot v).uintDelayValue ∧ _ ≤ _
        rw [h.cls]
        exact hparse v hv

theorem addCall (h : a.Typed) (call : TypedCall) : (a.addCall call.val).Typed := by
  obtain ⟨call, hcall⟩ := call
  cases call with
  | immediate value => exact h.addActionValue 0 value
  | delayed actionId fresh value =>
    refine Action.Typed.addActionValue ?_ actionId value
    refine { cls := h.cls, valueList := h.valueList, entries := fun id entry hentry => ?_ }
    rw [addActionDelayTime_entry] at hentry
    split at hentry
    case isFalse => exact h.entries id entry hentry
    case isTrue =>
      obtain rfl := Option.some.inj hentry
      cases hold : a.policyActionMap[id]? with
      | none => exact hcall
      | some old => exact h.entries id old hold

theorem addCalls (h : a.Typed) (calls : List TypedCall) :
    (a.addCalls (calls.map Subtype.val)).Typed := by
  induction calls generalizing a with
  | nil => exact h
  | cons call rest ih => exact ih (h.addCall call)

theorem executeInner (h : a.Typed) : a.executeInner.Typed where
  cls := by
    rw [Action.executeInner_cls]
    exact h.cls
  valueList _ hmem := absurd hmem List.not_mem_nil
  entries := by
    rw [Action.executeInner_policyActionMap]
    exact h.entries

end Action.Typed

namespace ActionThermalLevel

variable {s : ActionThermalLevel} {e : LevelEvent} {a : Action}

/-- What a call of `ExecuteInner` finds: the level last decided, and values in range. -/
structure Finds (s : ActionThermalLevel) (a : Action) : Prop where
  typed : a.Typed
  isStrict : a.isStrict = s.timed.action.isStrict
  lastValue : a.lastValue = s.timed.action.lastValue

theorem addActionValue_lastValue (a : Action) (actionId : Nat) (value : String) :
    (a.addActionValue actionId value).lastValue = a.lastValue := by
  rw [Action.addActionValue]
  split
  · rfl
  · split <;> rfl

theorem addCalls_lastValue (a : Action) (calls : List Call) :
    (a.addCalls calls).lastValue = a.lastValue := by
  induction calls generalizing a with
  | nil => rfl
  | cons call rest ih =>
    refine (ih (a.addCall call)).trans ?_
    cases call with
    | immediate value => exact addActionValue_lastValue a 0 value
    | delayed actionId fresh value => exact addActionValue_lastValue _ actionId value

theorem finds_of_executed (h : s.timed.action.Typed) (hexecuted : s.executed e = some a) :
    s.Finds a := by
  cases e with
  | round calls newId =>
    obtain rfl := Option.some.inj hexecuted
    have hadded := h.addCalls calls
    refine { typed := ?typed, isStrict := Action.addCalls_isStrict _,
             lastValue := addCalls_lastValue _ _ }
    case typed =>
      refine { cls := hadded.cls, valueList := hadded.valueList, entries := ?_ }
      intro id entry hentry
      rw [← Action.executeInner_policyActionMap] at hentry
      change ((s.timed.addCalls _).execute newId).action.policyActionMap[id]? = _ at hentry
      rw [TimedAction.execute_entry] at hentry
      split at hentry
      case isFalse => cases hentry
      case isTrue =>
        obtain ⟨old, hold, heq⟩ := Option.map_eq_some_iff.mp hentry
        have hvalue := PolicyDelayAction.started_delayValue .uintDelayValue (newId id) old
        rw [heq] at hvalue
        change entry.uintDelayValue = old.uintDelayValue at hvalue
        rw [hvalue]
        exact hadded.entries id old hold
  | fire timerId =>
    obtain ⟨info, -, hinfo⟩ := Option.bind_eq_some_iff.mp hexecuted
    obtain ⟨found, hfound, heq⟩ := Option.bind_eq_some_iff.mp hinfo
    obtain rfl := Option.some.inj heq
    refine { typed := ?typed, isStrict := rfl, lastValue := rfl }
    case typed =>
      refine { cls := h.cls, valueList := h.valueList, entries := ?_ }
      intro id entry hentry
      rw [Std.ExtTreeMap.getElem?_insert] at hentry
      split at hentry
      · obtain rfl := Option.some.inj hentry
        exact h.entries info.actionId found hfound
      · exact h.entries id entry hentry
  | subscribe callback isSync => cases hexecuted
  | unSubscribe callback => cases hexecuted
  | getThermalLevel => cases hexecuted

theorem step_action (s : ActionThermalLevel) (e : LevelEvent) :
    (s.step e).timed.action = ((s.executed e).map Action.executeInner).getD s.timed.action := by
  cases e with
  | round calls newId => rfl
  | fire timerId =>
    show (s.timed.timerCallback timerId).action = _
    cases hcreated : s.timed.timers.created[timerId]? with
    | none => simp [TimedAction.timerCallback, executed, hcreated]
    | some info =>
      cases hentry : s.timed.action.policyActionMap[info.actionId]? with
      | none => simp [TimedAction.timerCallback, executed, hcreated, hentry]
      | some entry => simp [TimedAction.timerCallback, executed, hcreated, hentry]
  | subscribe callback isSync =>
    cases callback with
    | none => rfl
    | some callback =>
      cases isSync with
      | true =>
        show (s.subscribeThermalLevelCallback true (some callback)).1.timed.action = _
        rw [subscribeThermalLevelCallback, addThermalLevelListeners, if_pos rfl]
        cases s.syncThermalLevelListeners.contains callback <;> rfl
      | false =>
        show (s.subscribeThermalLevelCallback false (some callback)).1.timed.action = _
        rw [subscribeThermalLevelCallback, addThermalLevelListeners, if_neg Bool.false_ne_true]
        cases s.asyncThermalLevelListeners.contains callback <;> rfl
  | unSubscribe callback => cases callback <;> rfl
  | getThermalLevel => rfl

end ActionThermalLevel

end ThermalManager
