import ThermalManager.Policy.Arbitration
import ThermalManager.Policy.RateFreshness
import ThermalManager.State.StateMachine

/-!
# The service

`thermal_service.cpp` with the parts it holds, and the commands of `thermal_mgr_dumper.cpp` that
change it. Temperatures come from the driver, or from the shell while reporting is switched off, and
go through the subscriber and the observer to the policy. Clients set states and may have the policy
decided at once. What a policy round finds in the outside world, the answers of the states included,
is its `RoundEnv`.
-/

namespace ThermalManager

/-! ### The source -/

/-- How the service is built. -/
structure ServiceBuild where
  userVersion : Bool
  batteryManagerEnable : Bool

def errOk : Int := 0
def errFail : Int := -1

/-- The list that the driver hands over: types with temperatures. -/
abbrev HdfThermalCallbackInfo := List (String × Int)

structure ThermalService where
  simulationXml : Bool
  subscriber : SubscriberState
  observer : ThermalObserver
  policy : ReportingPolicy
  actionMap : ThermalActionMap
  /-- The names of the actions made by the classes of `action_soc`. -/
  socSet : List String := []
  state : StateMachine
  scene : String := ""
  isTempReport : Bool := true

namespace ThermalService

/-! #### Reports -/

/-- `OnReceivedSensorInfo` of the observer: the policy is called back before the listeners. -/
def onReceivedSensorInfo (s : ThermalService) (info : TypeTempMap) (env : RoundEnv) :
    Outcome ThermalService := do
  let reported ← s.policy.onSensorInfoReported s.simulationXml
    { info
      subscriber := s.subscriber.toThermalServiceSubscriber
      env
      actionMap := s.actionMap }
  .done { s with
    policy := reported.1
    actionMap := reported.2.2
    observer := (s.observer.onReceivedSensorInfo info).1 }

variable (slope : List Int → Double) (build : ServiceBuild)

def onTemperatureChanged (s : ThermalService) (typeTempMap : TypeTempMap) (env : RoundEnv) :
    Outcome ThermalService :=
  if typeTempMap.isEmpty then .done s
  else do
    let s := { s with subscriber := s.subscriber.receive typeTempMap }
    let s ← s.onReceivedSensorInfo s.subscriber.typeTempMap env
    .done { s with
      subscriber := s.subscriber.setHistoryTypeTempMap slope s.subscriber.typeTempMap }

/-- `insert` keeps the first temperature of a type. -/
def typeTempMapOf (event : HdfThermalCallbackInfo) : TypeTempMap :=
  event.foldl (fun typeTempMap info => typeTempMap.insertIfNew info.1 info.2) ∅

def handleThermalCallbackEvent (s : ThermalService) (event : HdfThermalCallbackInfo)
    (env : RoundEnv) : Outcome ThermalService :=
  if !build.userVersion && !s.isTempReport then .done s
  else s.onTemperatureChanged slope (typeTempMapOf event) env

/-- `thermalInterface` is what its `GetThermalZoneInfo` returns and hands over, if there is one. -/
def getThermalInfo (s : ThermalService) (thermalInterface : Option (Int × HdfThermalCallbackInfo))
    (env : RoundEnv) : Outcome (Int × ThermalService) :=
  match thermalInterface with
  | none => .done (errFail, s)
  | some (res, thermalInfo) => do
      let s ← s.handleThermalCallbackEvent slope build thermalInfo env
      .done (if res = 0 then errOk else errFail, s)

def handleTempEmulation (s : ThermalService) (typeTempMap : TypeTempMap) (env : RoundEnv) :
    Outcome (Bool × ThermalService) :=
  if s.isTempReport then .done (false, s)
  else do
    let s ← s.onTemperatureChanged slope typeTempMap env
    .done (true, s)

/-! #### States -/

/-- `ExecutePolicy` of the policy. -/
def executePolicy (s : ThermalService) (env : RoundEnv) : Outcome ThermalService := do
  let policy ← s.policy.levelDecision env.stateMachineMap s.subscriber.toThermalServiceSubscriber
  let actionMap ← .orDiverges (policyDecision policy.toThermalPolicy env s.actionMap)
  .done { s with policy, actionMap }

def updateThermalState (s : ThermalService) (isSystem : Bool) (tag val : String) (isImmed : Bool)
    (env : RoundEnv) : Outcome (Int × ThermalService) :=
  if !isSystem then .done (errFail, s)
  else do
    let s := { s with state := s.state.updateState (tag, val) }
    let s ← if isImmed then s.executePolicy env else .done s
    .done (errOk, s)

def setScene (s : ThermalService) (isSystem : Bool) (scene : String) : Int × ThermalService :=
  if !isSystem then (errFail, s) else (errOk, { s with scene })

/-! #### Clients -/

def subscribeThermalTempCallback (s : ThermalService) (isSystem : Bool) (typeList : List String)
    (callback : Option RemoteObject) : Int × ThermalService :=
  if !isSystem then (errFail, s)
  else (errOk, { s with observer := s.observer.subscribeThermalTempCallback typeList callback })

def unSubscribeThermalTempCallback (s : ThermalService) (isSystem : Bool)
    (callback : Option RemoteObject) : Int × ThermalService :=
  if !isSystem then (errFail, s)
  else (errOk, { s with observer := s.observer.unSubscribeThermalTempCallback callback })

def subscribeThermalActionCallback (s : ThermalService) (isSystem : Bool)
    (actionList : List String) (callback : Option RemoteObject) : Int × ThermalService :=
  if !isSystem then (errFail, s)
  else
    (errOk, { s with
      observer := (s.observer.subscribeThermalActionCallback actionList callback).1 })

def unSubscribeThermalActionCallback (s : ThermalService) (isSystem : Bool)
    (callback : Option RemoteObject) : Int × ThermalService :=
  if !isSystem then (errFail, s)
  else (errOk, { s with observer := s.observer.unSubscribeThermalActionCallback callback })

/-! #### The shell -/

def argsTempReport : String := "-st"
def argsStopTempFlag : String := "0"
def argsTempEmulation : String := "-te"
def tempEmulParamNum : Nat := 2

def switchTempReport (s : ThermalService) (args : List String) : String × ThermalService :=
  if build.userVersion then ("[Failed] User version is not supported.\n", s)
  else if args.length ≥ tempEmulParamNum ∧ args[1]? = some argsStopTempFlag then
    ("Temperature reporting has been stopped.\n", { s with isTempReport := false })
  else ("Temperature reporting has been started.\n", { s with isTempReport := true })

/-- `atoi` is `strtol` cut to an `int`. -/
def atoi (str : String) : Int := toInt32 (strtol str)

/-- The loop over the pairs after the command; a last argument without a partner is left. -/
def emulationPairs : List String → List (String × String)
  | type :: temp :: rest => (type, temp) :: emulationPairs rest
  | _ => []

/-- `emplace` keeps the first temperature of a type. -/
def emulationMap (pairs : List (String × String)) : TypeTempMap :=
  pairs.foldl (fun tempMap pair => tempMap.insertIfNew pair.1 (atoi pair.2)) ∅

def emulateTempReport (s : ThermalService) (args : List String) (env : RoundEnv) :
    Outcome (String × ThermalService) :=
  if build.userVersion then .done ("[Failed] User version is not supported.\n", s)
  else if args.length ≤ tempEmulParamNum then
    .done ("[Error] Insufficient input parameters!\n", s)
  else do
    let pairs := emulationPairs (args.drop 1)
    let result := String.join (pairs.map fun pair =>
      "Report temperature [ " ++ pair.1 ++ " ]: " ++ pair.2 ++ "\n")
    let (emulated, s) ← s.handleTempEmulation slope (emulationMap pairs) env
    .done (if emulated then result
      else result ++ "[Error] Original temperature reporting has not been closed! You need to " ++
        "close it first.\n", s)

/-- `ThermalMgrDumper::Dump`; `shown` is the text of the commands that only show something. -/
def dump (s : ThermalService) (shown : String) (args : List String) (env : RoundEnv) :
    Outcome (String × ThermalService) :=
  match args with
  | [] => .done (shown, s)
  | command :: _ =>
      if command = argsTempReport then .done (s.switchTempReport build args)
      else if command = argsTempEmulation then s.emulateTempReport slope build args env
      else .done (shown, s)

def shellDump (s : ThermalService) (isSystem isBootCompleted : Bool) (shown : String)
    (args : List String) (env : RoundEnv) : Outcome (Int × String × ThermalService) :=
  if !isSystem || !isBootCompleted then .done (errFail, "", s)
  else do
    let (result, s) ← s.dump slope build shown args env
    .done (errOk, result, s)

/-! #### System abilities -/

/-- `OnAddSystemAbility` for the common event service. -/
def onAddCommonEventService (s : ThermalService) : ThermalService :=
  { s with state := s.state.init build.batteryManagerEnable }

/-- `OnAddSystemAbility` for the perf service; names without an action are skipped. -/
def onAddSocPerfService (s : ThermalService) : ThermalService :=
  { s with
    actionMap := s.socSet.foldl
      (fun actionMap name => actionMap.step (.resetActionValue name)) s.actionMap }

end ThermalService

/-! ### Events -/

inductive ServiceEvent where
  | thermalCallback (event : HdfThermalCallbackInfo) (env : RoundEnv)
  | getThermalInfo (thermalInterface : Option (Int × HdfThermalCallbackInfo)) (env : RoundEnv)
  | updateThermalState (isSystem : Bool) (tag val : String) (isImmed : Bool) (env : RoundEnv)
  | setScene (isSystem : Bool) (scene : String)
  | subscribeTemp (isSystem : Bool) (typeList : List String) (callback : Option RemoteObject)
  | unSubscribeTemp (isSystem : Bool) (callback : Option RemoteObject)
  | subscribeAction (isSystem : Bool) (actionList : List String) (callback : Option RemoteObject)
  | unSubscribeAction (isSystem : Bool) (callback : Option RemoteObject)
  | shellDump (isSystem isBootCompleted : Bool) (shown : String) (args : List String)
      (env : RoundEnv)
  | addCommonEventService
  | addSocPerfService
  | delayTimer (actionName : String) (timerId : Nat)

namespace ThermalService

variable (slope : List Int → Double) (build : ServiceBuild)

def step (s : ThermalService) : ServiceEvent → Outcome ThermalService
  | .thermalCallback event env => s.handleThermalCallbackEvent slope build event env
  | .getThermalInfo thermalInterface env => do
      let answer ← s.getThermalInfo slope build thermalInterface env
      .done answer.2
  | .updateThermalState isSystem tag val isImmed env => do
      let answer ← s.updateThermalState isSystem tag val isImmed env
      .done answer.2
  | .setScene isSystem scene => .done (s.setScene isSystem scene).2
  | .subscribeTemp isSystem typeList callback =>
      .done (s.subscribeThermalTempCallback isSystem typeList callback).2
  | .unSubscribeTemp isSystem callback =>
      .done (s.unSubscribeThermalTempCallback isSystem callback).2
  | .subscribeAction isSystem actionList callback =>
      .done (s.subscribeThermalActionCallback isSystem actionList callback).2
  | .unSubscribeAction isSystem callback =>
      .done (s.unSubscribeThermalActionCallback isSystem callback).2
  | .shellDump isSystem isBootCompleted shown args env => do
      let answer ← s.shellDump slope build isSystem isBootCompleted shown args env
      .done answer.2.2
  | .addCommonEventService => .done (s.onAddCommonEventService build)
  | .addSocPerfService => .done s.onAddSocPerfService
  | .delayTimer actionName timerId =>
      .done { s with actionMap := s.actionMap.step (.fire actionName timerId) }

/-- The service after `InitModules`. The registered actions are those of the action manager. -/
def start (config : ServiceConfig) (started : Started)
    (registered : Map String (ActionClass × Bool)) (socSet : List String) : ThermalService where
  simulationXml := config .simulationXml
  subscriber :=
    SubscriberState.constructed.init started.baseInfo.historyTempCount
      started.baseInfo.riseRateCount
  observer := started.observer
  policy := started.policy
  actionMap := ThermalActionMap.init registered
  socSet
  state := { vState := config .stateItem }

end ThermalService

end ThermalManager
