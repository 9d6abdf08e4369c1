import ThermalManager.Lib.Fanout
import ThermalManager.Lib.Run
import ThermalManager.Observer.CallbackRegistry

/-!
# The observer

`thermal_observer.cpp`: who listens to temperatures and to actions, what they are told, and what a
query for a sensor answers.
-/

namespace ThermalManager

inductive SensorType where
  | soc | battery | shell
  | sensor1 | sensor2 | sensor3 | sensor4 | sensor5 | sensor6 | sensor7
  deriving DecidableEq, Repr

/-- `ARG_0` to `ARG_9` -/
def SensorType.arg : SensorType → Nat
  | .soc => 0 | .battery => 1 | .shell => 2
  | .sensor1 => 3 | .sensor2 => 4 | .sensor3 => 5 | .sensor4 => 6 | .sensor5 => 7
  | .sensor6 => 8 | .sensor7 => 9

def SensorType.all : List SensorType :=
  [.soc, .battery, .shell, .sensor1, .sensor2, .sensor3, .sensor4, .sensor5, .sensor6, .sensor7]

def typeMaxSize : Nat := 10

def invalidTemp : Int := -1000000

structure ThermalSrvSensorInfo where
  type : String
  temp : Int
  deriving DecidableEq, Repr

abbrev ActionCallbackMap := Map String String

/-- The members that the callbacks and queries use, and the static `preSensor`. -/
structure ThermalObserver where
  callbackinfo : TypeTempMap := ∅
  sensorTempListeners : CallbackRegistry := .empty
  actionListeners : CallbackRegistry := .empty
  typeMap : SensorType → Option String := fun _ => none
  actionMap : Map String String := ∅
  allActionMap : Map String String := ∅
  preSensor : TypeTempMap := ∅

/-! ### The sensor types -/

/-- `sensorType[i] = typeList[i]`, from `i` on; `none` is an access out of range. -/
def copyTypes (typeList : List String) (sensorType : List String) (i : Nat) :
    (turns : Nat) → Option (List String)
  | 0 => some sensorType
  | turns + 1 => do
      let name ← typeList[i]?
      let _ ← sensorType[i]?
      copyTypes typeList (sensorType.set i name) (i + 1) turns

/-- `typeMap_` is left as it is when there are more types than it can hold. -/
def ThermalObserver.initSensorTypeMap (o : ThermalObserver) (typeList : List String) :
    Option ThermalObserver :=
  let sensorType := List.replicate typeMaxSize ""
  if typeList.length ≤ typeMaxSize then do
    let typeList := typeList ++ List.replicate (typeMaxSize - typeList.length) ""
    let sensorType ← copyTypes typeList sensorType 0 typeList.length
    let typeMap ← SensorType.all.foldlM (fun (m : SensorType → Option String) type => do
      let name ← sensorType[type.arg]?
      pure fun other => if other = type then some name else m other) (fun _ => none)
    pure { o with typeMap }
  else
    some o

theorem copyTypes_eq {typeList : List String} (sensorType : List String) (i : Nat) {turns : Nat}
    (hturns : i + turns ≤ typeList.length) (hroom : typeList.length ≤ sensorType.length) :
    ∃ copied, copyTypes typeList sensorType i turns = some copied ∧
      copied.length = sensorType.length := by
  induction turns generalizing sensorType i with
  | zero => exact ⟨sensorType, rfl, rfl⟩
  | succ turns ih =>
    have hi : i < typeList.length := by omega
    rw [copyTypes, List.getElem?_eq_getElem hi, List.getElem?_eq_getElem (hi.trans_le hroom)]
    obtain ⟨copied, hcopied, hlength⟩ := ih (sensorType.set i typeList[i]) (i + 1) (by omega)
      (by simpa using hroom)
    exact ⟨copied, hcopied, hlength.trans List.length_set⟩

theorem ThermalObserver.initSensorTypeMap_isSome (o : ThermalObserver) (typeList : List String) :
    ∃ o', o.initSensorTypeMap typeList = some o' := by
  rw [initSensorTypeMap]
  split
  case isFalse => exact ⟨o, rfl⟩
  case isTrue hsize =>
    have hlength : (typeList ++ List.replicate (typeMaxSize - typeList.length) "").length =
        typeMaxSize := by
      rw [List.length_append, List.length_replicate]
      omega
    obtain ⟨copied, hcopied, hcopiedLength⟩ := copyTypes_eq
      (List.replicate typeMaxSize "") 0 (Nat.le_of_eq (Nat.zero_add _))
      (by rw [hlength, List.length_replicate])
    rw [List.length_replicate] at hcopiedLength
    have hread : ∀ (types : List SensorType) (m : SensorType → Option String),
        (types.foldlM (fun (m : SensorType → Option String) (type : SensorType) => do
          let name ← copied[type.arg]?
          pure fun other => if other = type then some name else m other) m).isSome := by
      intro types m
      refine StepSystem.foldlM_isSome ?_ m
      intro m (type : SensorType) _
      have harg : type.arg < copied.length := by
        rw [hcopiedLength]
        cases type <;> decide
      rw [List.getElem?_eq_getElem harg]
      rfl
    obtain ⟨typeMap, htypeMap⟩ := Option.isSome_iff_exists.mp (hread SensorType.all fun _ => none)
    refine ⟨{ o with typeMap }, ?_⟩
    dsimp only
    rw [hcopied, Option.bind_eq_bind, Option.bind_some, htypeMap]
    rfl

/-! ### Subscriptions -/

namespace ThermalObserver

def subscribeThermalTempCallback (o : ThermalObserver) (typeList : List String)
    (callback : Option RemoteObject) : ThermalObserver :=
  { o with sensorTempListeners := o.sensorTempListeners.subscribe typeList callback }

def unSubscribeThermalTempCallback (o : ThermalObserver) (callback : Option RemoteObject) :
    ThermalObserver :=
  { o with sensorTempListeners := o.sensorTempListeners.unSubscribe callback }

/-- For each wanted action the map is searched from begin to end. -/
def decisionActionValue (actionList : List String) (filteredMap : ActionCallbackMap)
    (actionMap : Map String String) : ActionCallbackMap :=
  actionList.foldl (fun filtered action =>
    actionMap.toList.foldl (fun filtered entry =>
      if action = entry.1 then filtered.insertIfNew action entry.2 else filtered) filtered)
    filteredMap

/-- The observer after the call, and what a new listener is told. -/
def subscribeThermalActionCallback (o : ThermalObserver) (actionList : List String) :
    Option RemoteObject → ThermalObserver × List (RemoteObject × ActionCallbackMap)
  | none => (o, [])
  | some callback =>
      if callback ∈ o.actionListeners.listeners then (o, [])
      else
        ({ o with actionListeners := o.actionListeners.insert callback actionList },
          [(callback, decisionActionValue actionList ∅ o.allActionMap)])

def unSubscribeThermalActionCallback (o : ThermalObserver) (callback : Option RemoteObject) :
    ThermalObserver :=
  { o with actionListeners := o.actionListeners.unSubscribe callback }

/-! ### Actions -/

def setDecisionValue (o : ThermalObserver) (actionName actionValue : String) : ThermalObserver :=
  { o with
    actionMap := o.actionMap.insert actionName actionValue
    allActionMap := o.allActionMap.insert actionName actionValue }

/-- The first half of `FindSubscribeActionValue`, under `mutexActionMap_`: the pending values are
taken. `none` is the early return. -/
def takeActionMap (o : ThermalObserver) : Option (Map String String) × ThermalObserver :=
  if o.actionMap.isEmpty then (none, o)
  else (some o.actionMap, { o with actionMap := ∅ })

/-- A turn of the loop over the listeners; `newActionCbMap` is declared before the loop. -/
def addListenerActions (r : CallbackRegistry) (actionCache : Map String String)
    (newActionCbMap : ActionCallbackMap) (listener : RemoteObject) : ActionCallbackMap :=
  match r.lists[listener]? with
  | some actionList => decisionActionValue actionList newActionCbMap actionCache
  | none => newActionCbMap

/-- The second half of `FindSubscribeActionValue`, under `mutexActionCallback_`. -/
def deliverActions (o : ThermalObserver) (actionCache : Map String String) :
    List (RemoteObject × ActionCallbackMap) :=
  Fanout.serve (addListenerActions o.actionListeners actionCache) ∅ o.actionListeners.order

def findSubscribeActionValue (o : ThermalObserver) :
    ThermalObserver × List (RemoteObject × ActionCallbackMap) :=
  match o.takeActionMap with
  | (none, o) => (o, [])
  | (some actionCache, o) => (o, o.deliverActions actionCache)

/-! ### Temperatures -/

/-- The variables of the loop in `NotifySensorTempChanged`; `tempCbMap` is the stored report. -/
structure NotifyState where
  preSensor : TypeTempMap
  tempCbMap : TypeTempMap
  newTempCbMap : TypeTempMap := ∅

/-- `preSensor[type] != tempCbMap[type]` creates the entries it does not find. -/
def compareTemp (n : NotifyState) (type : String) : NotifyState :=
  let preSensor := n.preSensor.insertIfNew type 0
  let tempCbMap := n.tempCbMap.insertIfNew type 0
  let temp := tempCbMap.getD type 0
  if preSensor.getD type 0 ≠ temp then
    { preSensor := preSensor.insert type temp
      tempCbMap
      newTempCbMap := n.newTempCbMap.insertIfNew type temp }
  else
    { n with preSensor, tempCbMap }

def compareListenerTemps (r : CallbackRegistry) (n : NotifyState) (listener : RemoteObject) :
    NotifyState :=
  match r.lists[listener]? with
  | some typeList => typeList.foldl compareTemp n
  | none => n

/-- The map is the stored report itself, so what the loop adds to it stays. -/
def notifySensorTempChanged (o : ThermalObserver) :
    ThermalObserver × List (RemoteObject × TypeTempMap) :=
  let order := o.sensorTempListeners.order
  if order.isEmpty then (o, [])
  else
    let start : NotifyState := { preSensor := o.preSensor, tempCbMap := o.callbackinfo }
    let served := Fanout.serve (compareListenerTemps o.sensorTempListeners) start order
    let last := order.foldl (compareListenerTemps o.sensorTempListeners) start
    ({ o with callbackinfo := last.tempCbMap, preSensor := last.preSensor },
      served.map fun turn => (turn.1, turn.2.newTempCbMap))

def onReceivedSensorInfo (o : ThermalObserver) (info : TypeTempMap) :
    ThermalObserver × List (RemoteObject × TypeTempMap) :=
  { o with callbackinfo := info }.notifySensorTempChanged

/-- The result and what becomes of `sensorInfo`. -/
def getThermalSrvSensorInfo (o : ThermalObserver) (type : SensorType)
    (sensorInfo : ThermalSrvSensorInfo) : Bool × ThermalSrvSensorInfo :=
  match o.typeMap type with
  | none => (false, sensorInfo)
  | some sensorTypeName =>
      match o.callbackinfo[sensorTypeName]? with
      | some temp =>
          if temp = invalidTemp then (false, { sensorInfo with type := sensorTypeName })
          else (true, { type := sensorTypeName, temp })
      | none => (false, { type := sensorTypeName, temp := invalidTemp })

end ThermalObserver

end ThermalManager
