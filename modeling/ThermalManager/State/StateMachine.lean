import ThermalManager.Config.ServiceConfig
import ThermalManager.Lib.Fanout

/-!
# The state machine

`state_machine.cpp`, with `state_collection_factory.cpp` and the handler table of
`thermal_common_event_receiver.cpp`. Every state has a collection, made by the factory, and the
policy finds it by the name of the state. The collection of the charger is one object for the whole
process. Collections are known by reference here, and what is kept of each is the calls made on it.
-/

namespace ThermalManager

def stateCharger : String := "charge"
def stateScreen : String := "screen"
def stateScene : String := "scene"
def stateChargeDelay : String := "charge_delay"
def stateStartupDelay : String := "startup_delay"
def stateCust : String := "cust"

/-- The events that collections register handlers for. -/
inductive CommonEvent where
  | batteryChanged | batteryChangedInner | thermalLevelChanged
  | screenOn | screenOff | powerConnected | powerDisconnected
  deriving DecidableEq

/-- The classes derived from `IStateCollection`. -/
inductive CollectionClass where
  | charger | screen | scene | chargeDelay | startupDelay | cust | extend
  deriving DecidableEq

/-- The class that `StateCollectionFactory::Create` chooses. -/
def CollectionClass.ofName (stateName : String) : CollectionClass :=
  if stateName == stateCharger then .charger
  else if stateName == stateScreen then .screen
  else if stateName == stateScene then .scene
  else if stateName == stateChargeDelay then .chargeDelay
  else if stateName == stateStartupDelay then .startupDelay
  else if stateName == stateCust then .cust
  else .extend

/-- The handlers that `Init` of a class registers. -/
def CollectionClass.registeredEvents (batteryManagerEnable : Bool) :
    CollectionClass → List CommonEvent
  | .charger =>
      (if batteryManagerEnable then [.batteryChanged, .batteryChangedInner] else []) ++
        [.thermalLevelChanged]
  | .chargeDelay => if batteryManagerEnable then [.powerConnected, .powerDisconnected] else []
  | .screen => [.screenOn, .screenOff]
  | _ => []

/-- A collection: the instance of the charger, or one made by the factory for a state. -/
inductive CollectionRef where
  | charger
  | made (stateName : String) (n : Nat)
  deriving DecidableEq

def CollectionRef.stateName : CollectionRef → String
  | .charger => stateCharger
  | .made stateName _ => stateName

inductive CollectionCall where
  | initParam (params : String)
  | init
  | setState (stateValue : String)
  deriving DecidableEq

/-- The state machine with the handler table of its receiver, the collections made so far, and the
calls made on each. -/
structure StateMachine where
  initFlag : Bool := false
  vState : List StateItem
  stateCollectionMap : Map String CollectionRef := ∅
  eventHandles : CommonEvent → Option CollectionRef := fun _ => none
  made : Nat := 0
  calls : CollectionRef → List CollectionCall := fun _ => []

namespace StateMachine

def create (s : StateMachine) (stateName : String) : CollectionRef × StateMachine :=
  match CollectionClass.ofName stateName with
  | .charger => (.charger, s)
  | _ => (.made stateName s.made, { s with made := s.made + 1 })

def call (s : StateMachine) (ref : CollectionRef) (c : CollectionCall) : StateMachine :=
  { s with calls := fun other => if other = ref then s.calls other ++ [c] else s.calls other }

/-- A handler already there is kept. -/
def addEvent (ref : CollectionRef) (s : StateMachine) (event : CommonEvent) : StateMachine :=
  { s with
    eventHandles := fun other =>
      if other = event then (s.eventHandles other).or (some ref) else s.eventHandles other }

variable (batteryManagerEnable : Bool)

/-- `Init` of a collection, as far as its handlers go. -/
def initCollection (s : StateMachine) (ref : CollectionRef) : StateMachine :=
  ((CollectionClass.ofName ref.stateName).registeredEvents batteryManagerEnable).foldl
    (addEvent ref) (s.call ref .init)

def initState (s : StateMachine) (state : StateItem) : StateMachine :=
  let (stateCollection, s) := s.create state.name
  let s := if state.isExistParam then s.call stateCollection (.initParam state.params) else s
  let s := s.initCollection batteryManagerEnable stateCollection
  { s with stateCollectionMap := s.stateCollectionMap.insertIfNew state.name stateCollection }

def init (s : StateMachine) : StateMachine :=
  if s.initFlag then s
  else s.vState.foldl (initState batteryManagerEnable) { s with initFlag := true }

def updateState (s : StateMachine) (state : String × String) : StateMachine :=
  match s.stateCollectionMap[state.1]? with
  | some stateCollection => s.call stateCollection (.setState state.2)
  | none =>
      let s : StateMachine := { s with vState := s.vState ++ [{ name := state.1 }] }
      let (stateCollection, s) := s.create state.1
      let s := s.call stateCollection (.setState state.2)
      { s with stateCollectionMap := s.stateCollectionMap.insertIfNew state.1 stateCollection }

/-- Updates of a configured machine, the initialisation, and more updates. -/
def run (items : List StateItem) (before after : List (String × String)) : StateMachine :=
  let s : StateMachine := { vState := items }
  after.foldl updateState (init batteryManagerEnable (before.foldl updateState s))

variable {batteryManagerEnable}
variable {s : StateMachine} {name : String} {ref : CollectionRef}

/-! ### What the operations do -/

/-- The reference that the factory returns for a state. -/
def createdRef (s : StateMachine) (stateName : String) : CollectionRef :=
  if stateName = stateCharger then .charger else .made stateName s.made

/-- The number of collections made once a state has one. -/
def madeAfter (s : StateMachine) (stateName : String) : Nat :=
  if stateName = stateCharger then s.made else s.made + 1

theorem ofName_eq_charger_iff : CollectionClass.ofName name = .charger ↔ name = stateCharger := by
  rw [CollectionClass.ofName]
  repeat' split
  all_goals simp_all

theorem create_eq (s : StateMachine) (stateName : String) :
    s.create stateName = (s.createdRef stateName, { s with made := s.madeAfter stateName }) := by
  rw [create, createdRef, madeAfter]
  by_cases hname : stateName = stateCharger
  · rw [ofName_eq_charger_iff.mpr hname, if_pos hname, if_pos hname]
  · have hclass : CollectionClass.ofName stateName ≠ .charger :=
      fun h => hname (ofName_eq_charger_iff.mp h)
    rw [if_neg hname, if_neg hname]
    split
    case h_1 h => exact absurd h hclass
    case h_2 => rfl

theorem createdRef_stateName (s : StateMachine) (stateName : String) :
    (s.createdRef stateName).stateName = stateName := by
  rw [createdRef]
  split
  case isTrue h => exact h.symm
  case isFalse => rfl

theorem foldl_addEvent (ref : CollectionRef) (events : List CommonEvent) (s : StateMachine) :
    events.foldl (addEvent ref) s = { s with
      eventHandles := fun event =>
        if event ∈ events then (s.eventHandles event).or (some ref)
        else s.eventHandles event } := by
  induction events generalizing s with
  | nil => rfl
  | cons first rest ih =>
    rw [List.foldl_cons, ih (addEvent ref s first)]
    refine congrArg (fun eventHandles => { s with eventHandles }) (funext fun event => ?_)
    by_cases hfirst : event = first
    · simp [addEvent, hfirst]
    · simp [addEvent, hfirst]

theorem call_call (s : StateMachine) (ref : CollectionRef) (first second : CollectionCall) :
    (s.call ref first).call ref second = { s with
      calls := fun other =>
        if other = ref then s.calls other ++ [first, second] else s.calls other } := by
  refine congrArg (fun calls => { s with calls }) (funext fun other => ?_)
  by_cases hother : other = ref
  · simp [call, hother]
  · simp [call, hother]

/-- The setup calls that the initialisation of a state makes on its collection. -/
def setupCalls (state : StateItem) : List CollectionCall :=
  (if state.isExistParam then [.initParam state.params] else []) ++ [.init]

theorem initState_eq (s : StateMachine) (state : StateItem) :
    s.initState batteryManagerEnable state = { s with
      stateCollectionMap := s.stateCollectionMap.insertIfNew state.name (s.createdRef state.name)
      eventHandles := fun event =>
        if event ∈ (CollectionClass.ofName state.name).registeredEvents batteryManagerEnable then
          (s.eventHandles event).or (some (s.createdRef state.name))
        else s.eventHandles event
      made := s.madeAfter state.name
      calls := fun other =>
        if other = s.createdRef state.name then s.calls other ++ setupCalls state
        else s.calls other } := by
  rw [initState, create_eq]
  dsimp only [initCollection]
  rw [foldl_addEvent, createdRef_stateName, setupCalls]
  cases state.isExistParam with
  | true =>
    rw [if_pos rfl, if_pos rfl, call_call]
    rfl
  | false => rfl

theorem updateState_of_some {state : String × String}
    (h : s.stateCollectionMap[state.1]? = some ref) :
    s.updateState state = s.call ref (.setState state.2) := by
  rw [updateState, h]

theorem updateState_of_none {state : String × String}
    (h : s.stateCollectionMap[state.1]? = none) : s.updateState state = { s with
      vState := s.vState ++ [{ name := state.1 }]
      stateCollectionMap := s.stateCollectionMap.insertIfNew state.1 (s.createdRef state.1)
      made := s.madeAfter state.1
      calls := fun other =>
        if other = s.createdRef state.1 then s.calls other ++ [.setState state.2]
        else s.calls other } := by
  rw [updateState, h]
  dsimp only
  rw [create_eq]
  rfl

/-! ### References -/

def Known (s : StateMachine) : CollectionRef → Prop
  | .charger => True
  | .made stateName n => stateName ≠ stateCharger ∧ n < s.made

theorem Known.eq_charger (h : s.Known ref) (hname : ref.stateName = stateCharger) :
    ref = .charger := by
  cases ref with
  | charger => rfl
  | made stateName n => exact absurd hname h.1

theorem le_madeAfter (s : StateMachine) (stateName : String) :
    s.made ≤ s.madeAfter stateName := by
  rw [madeAfter]
  split <;> omega

theorem Known.of_le {s' : StateMachine} (h : s.Known ref) (hle : s.made ≤ s'.made) :
    s'.Known ref := by
  cases ref with
  | charger => trivial
  | made stateName n => exact ⟨h.1, h.2.trans_le hle⟩

theorem known_createdRef {s' : StateMachine} (hmade : s'.made = s.madeAfter name) :
    s'.Known (s.createdRef name) := by
  rw [createdRef]
  split
  case isTrue => trivial
  case isFalse hne =>
    rw [madeAfter, if_neg hne] at hmade
    exact ⟨hne, by omega⟩

/-- A collection other than the charger is never returned again. -/
theorem Known.ne_createdRef (h : s.Known ref) (hne : ref ≠ .charger) :
    ref ≠ s.createdRef name := by
  rw [createdRef]
  split
  case isTrue => exact hne
  case isFalse =>
    rintro rfl
    exact absurd h.2 (lt_irrefl _)

/-- No collection is called before it is made, and the map and the handlers refer to collections
that exist, the map by their name. -/
structure WellFormed (s : StateMachine) : Prop where
  fresh : ∀ (stateName : String) (n : Nat), s.made ≤ n → s.calls (.made stateName n) = []
  stored : ∀ (name : String) (ref : CollectionRef), s.stateCollectionMap[name]? = some ref →
    ref.stateName = name ∧ s.Known ref
  owners : ∀ (event : CommonEvent) (ref : CollectionRef), s.eventHandles event = some ref →
    s.Known ref

theorem wellFormed_start (items : List StateItem) :
    ({ vState := items } : StateMachine).WellFormed where
  fresh _ _ _ := rfl
  stored _ _ h := by simp at h
  owners _ _ h := by cases h

theorem WellFormed.calls_createdRef (hs : s.WellFormed) (hname : name ≠ stateCharger) :
    s.calls (s.createdRef name) = [] := by
  rw [createdRef, if_neg hname]
  exact hs.fresh name s.made le_rfl

theorem WellFormed.created (hs : s.WellFormed) {s' : StateMachine} {calls : List CollectionCall}
    (hmap : s'.stateCollectionMap =
      s.stateCollectionMap.insertIfNew name (s.createdRef name))
    (hhandles : ∀ (event : CommonEvent) (ref : CollectionRef), s'.eventHandles event = some ref →
      s.eventHandles event = some ref ∨ ref = s.createdRef name)
    (hmade : s'.made = s.madeAfter name)
    (hcalls : ∀ other, s'.calls other =
      if other = s.createdRef name then s.calls other ++ calls else s.calls other) :
    s'.WellFormed := by
  have hle : s.made ≤ s'.made := hmade ▸ s.le_madeAfter name
  have hcreated : s'.Known (s.createdRef name) := known_createdRef hmade
  refine { fresh := ?fresh, stored := ?stored, owners := ?owners }
  case fresh =>
    intro stateName n hn
    rw [hcalls, if_neg, hs.fresh stateName n (hle.trans hn)]
    intro heq
    rw [← heq] at hcreated
    exact absurd hcreated.2 (by omega)
  case stored =>
    intro other ref h
    rw [hmap, Fanout.getElem?_insertIfNew_or, Option.or_eq_some_iff] at h
    rcases h with hold | ⟨-, hnew⟩
    · obtain ⟨hname, hknown⟩ := hs.stored other ref hold
      exact ⟨hname, hknown.of_le hle⟩
    · obtain ⟨heq, href⟩ := Option.ite_none_right_eq_some.mp hnew
      obtain rfl := Option.some.inj href
      exact ⟨(s.createdRef_stateName name).trans heq, hcreated⟩
  case owners =>
    intro event ref h
    rcases hhandles event ref h with hold | rfl
    · exact (hs.owners event ref hold).of_le hle
    · exact hcreated

theorem WellFormed.initState (hs : s.WellFormed) (state : StateItem) :
    (s.initState batteryManagerEnable state).WellFormed := by
  rw [initState_eq]
  refine hs.created rfl (fun event ref h => ?_) rfl fun other => rfl
  change (if event ∈ _ then (s.eventHandles event).or _ else s.eventHandles event) = _ at h
  split at h
  · rcases Option.or_eq_some_iff.mp h with hold | ⟨-, hnew⟩
    · exact .inl hold
    · exact .inr (Option.some.inj hnew).symm
  · exact .inl h

theorem WellFormed.updateState (hs : s.WellFormed) (state : String × String) :
    (s.updateState state).WellFormed := by
  cases hstored : s.stateCollectionMap[state.1]? with
  | none =>
    rw [updateState_of_none hstored]
    exact hs.created rfl (fun _ _ h => .inl h) rfl fun other => rfl
  | some ref =>
    rw [updateState_of_some hstored]
    refine { fresh := fun stateName n hn => ?_, stored := hs.stored, owners := hs.owners }
    have hne : .made stateName n ≠ ref := by
      rintro rfl
      exact absurd (hs.stored _ _ hstored).2.2 (not_lt.mpr hn)
    exact (if_neg hne).trans (hs.fresh stateName n hn)

end StateMachine

end ThermalManager
