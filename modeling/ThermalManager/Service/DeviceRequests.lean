import ThermalManager.Service.ServiceActions
import ThermalManager.Service.ActionManager
import ThermalManager.Lib.EdgeTrigger

/-!
# What the device is asked for

`action_shutdown.cpp`, `action_popup.cpp`, `action_application_process.cpp` and `action_node.cpp`:
an action that decides a new value asks the device for something, and tells the observer. Over the
life of the service it asks for what the evaluations of the clusters decide, once for each change.
-/

namespace ThermalManager

open Extremum Outcome EdgeTrigger

/-! ### The requests -/

/-- `TempStatus` of the popup. -/
inductive TempStatus
  | lowerTemp
  | higherTemp
  deriving DecidableEq

/-- What the actions ask for. Whether it is done is up to the other side. -/
inductive DeviceRequest
  | shutDownDevice (reason : String)
  | showThermalDialog (value : TempStatus)
  | refreshActivity
  | processAppActionRequest (value : Int)
  | writeFile (filePath buf : String)
  | writeActionTriggeredHiSysEvent (actionName : String) (value : Int)
  | setDecisionValue (actionName actionValue : String)
  deriving DecidableEq

namespace DeviceRequest

/-- The text that goes to a file. -/
def written? (filePath : String) : DeviceRequest → Option String
  | writeFile path buf => if path = filePath then some buf else none
  | _ => none

end DeviceRequest

open DeviceRequest

def shutdownReason : String := "DeviceTempTooHigh"
def shutdownPath : String := "/data/service/el0/thermal/config/shut_down"
def processPath : String := "/data/service/el0/thermal/config/process_ctrl"
def minPathLength : Nat := 9

def shutdownRequest (isShutdown : Bool) : List DeviceRequest :=
  if isShutdown then [shutDownDevice shutdownReason] else []

def shutdownExecution (isShutdown : Bool) : List DeviceRequest :=
  [writeFile shutdownPath ((if isShutdown then "1" else "0") ++ "\n")]

def handlePopupEvent (value : Int) : List DeviceRequest :=
  if value = 1 then [showThermalDialog .lowerTemp, refreshActivity]
  else if value = 2 then [showThermalDialog .higherTemp, refreshActivity]
  else []

def processAppActionExecution (value : Int) : List DeviceRequest :=
  [writeFile processPath (toString value ++ "\n")]

/-- The classes with requests of their own. -/
inductive RequestingAction
  | shutdown
  | popup
  | applicationProcess
  | node (nodePath : String)

namespace RequestingAction

def deviceClasses : List String := ["shut_down", "popup", "process_ctrl", "node"]

/-- The class of an item with its parameters; nothing for the other classes. -/
def ofItem (item : ActionItem) : Option RequestingAction :=
  match item.actionClass with
  | "shut_down" => some shutdown
  | "popup" => some popup
  | "process_ctrl" => some applicationProcess
  | "node" => (splitString item.params '|').map fun paramList => node (paramList[0]?.getD "")
  | _ => none

/-- What comes after the request in most classes. -/
def told (item : ActionItem) (value : Int) : List DeviceRequest :=
  (if item.enableEvent then [writeActionTriggeredHiSysEvent item.name (toInt32 value)] else []) ++
    [setDecisionValue item.name (toString value)]

/-- `ExecuteInner` of the class with a value that is new. -/
def changed (item : ActionItem) (simulationXml : Bool) (value : Int) :
    RequestingAction → List DeviceRequest
  | shutdown =>
      (if simulationXml then shutdownExecution (value ≠ 0) else shutdownRequest (value ≠ 0)) ++
        told item value
  | popup => handlePopupEvent (toInt32 value) ++ told item value
  | applicationProcess =>
      (if !simulationXml then [processAppActionRequest value]
        else processAppActionExecution value) ++ told item value
  | node nodePath =>
      (if nodePath.utf8ByteSize > minPathLength then [writeFile nodePath (toString value)]
        else []) ++ [setDecisionValue item.name (toString value)]

/-- The file that the class writes, and the text of a value. -/
def file (simulationXml : Bool) : RequestingAction → Option (String × (Int → String))
  | shutdown =>
      if simulationXml then some (shutdownPath, fun v => (if v ≠ 0 then "1" else "0") ++ "\n")
      else none
  | popup => none
  | applicationProcess =>
      if simulationXml then some (processPath, fun v => toString v ++ "\n") else none
  | node nodePath =>
      if nodePath.utf8ByteSize > minPathLength then some (nodePath, toString) else none

end RequestingAction

namespace ThermalService

variable (slope : List Int → Double) (build : ServiceBuild) (item : ActionItem)
  (device : RequestingAction)

/-- What a step has an action ask for that is not in `SocSet`: it is executed once at most, and
nothing else changes its value. -/
def asked (s : ThermalService) (e : ServiceEvent) : List DeviceRequest :=
  match s.step slope build e with
  | .done s' =>
      match s.actionMap[item.name]?, s'.actionMap[item.name]? with
      | some w, some w' =>
          if w'.action.lastValue ≠ w.action.lastValue then
            device.changed item s.simulationXml w'.action.lastValue
          else []
      | _, _ => []
  | _ => []

def askedOf (s : ThermalService) (events : List ServiceEvent) : List DeviceRequest :=
  trace (step slope build) (asked slope build item device) s events

variable {slope build item device}

def lastWritten (filePath : String) (requests : List DeviceRequest) : Option String :=
  (requests.filterMap (written? filePath)).getLast?

/-! ### Decisions in turn -/

/-- The values that an action executes at the evaluations, one after the other. -/
structure ExecutesInTurn (config : ServiceConfig) (evaluated : List Report) (name : String)
    (cls : ActionClass) (isStrict : Bool) (values : List Int) : Prop where
  length : values.length = evaluated.length
  executes : ∀ (i : Nat) (v : Int), values[i]? = some v →
    Executes config (evaluated.take (i + 1)) name cls isStrict v

variable {config : ServiceConfig} {evaluated : List Report} {name : String} {cls : ActionClass}
  {isStrict : Bool} {values : List Int}

theorem executesInTurn_nil : ExecutesInTurn config [] name cls isStrict [] where
  length := rfl
  executes _ _ h := by cases h

theorem ExecutesInTurn.concat (h : ExecutesInTurn config evaluated name cls isStrict values)
    {report : Report} {v : Int}
    (hv : Executes config (evaluated ++ [report]) name cls isStrict v) :
    ExecutesInTurn config (evaluated ++ [report]) name cls isStrict (values ++ [v]) := by
  constructor
  case length =>
    rw [List.length_append, List.length_append, h.length]
    rfl
  case executes =>
    intro i u hu
    rcases Nat.lt_or_ge i values.length with hlt | hge
    · rw [List.getElem?_append_left hlt] at hu
      rw [List.take_append_of_le_length (h.length ▸ hlt)]
      exact h.executes i u hu
    · obtain ⟨hi, hlast⟩ := List.getElem?_eq_some_iff.mp hu
      rw [List.length_append, List.length_singleton] at hi
      obtain rfl : i = values.length := by omega
      rw [List.getElem_concat_length rfl] at hlast
      subst hlast
      rw [List.take_of_length_le (by simp [h.length])]
      exact hv

theorem ExecutesInTurn.exists_mem (h : ExecutesInTurn config evaluated name cls isStrict values)
    {before : List Report} (hbefore : before <+: evaluated) (hne : before ≠ []) :
    ∃ v ∈ values, Executes config before name cls isStrict v := by
  have hpos := List.length_pos_iff.mpr hne
  have hle := hbefore.length_le
  have hlt : before.length - 1 < values.length := by
    rw [h.length]
    omega
  have hexecutes := h.executes _ _ (List.getElem?_eq_getElem hlt)
  rw [Nat.sub_add_cancel hpos, ← List.prefix_iff_eq_take.mp hbefore] at hexecutes
  exact ⟨_, List.getElem_mem hlt, hexecutes⟩

theorem ExecutesInTurn.mem_iff (h : ExecutesInTurn config evaluated name cls isStrict values)
    {v : Int} : v ∈ values ↔ ∃ before, before <+: evaluated ∧ before ≠ [] ∧
      Executes config before name cls isStrict v := by
  constructor
  · intro hmem
    obtain ⟨i, hi⟩ := List.mem_iff_getElem?.mp hmem
    have hlt : i < evaluated.length := by
      rw [← h.length]
      exact (List.getElem?_eq_some_iff.mp hi).1
    refine ⟨evaluated.take (i + 1), List.take_prefix _ _, ?_, h.executes i v hi⟩
    apply List.ne_nil_of_length_pos
    rw [List.length_take]
    omega
  · intro hexists
    obtain ⟨before, hbefore, hne, hexecutes⟩ := hexists
    obtain ⟨u, hmem, hsame⟩ := h.exists_mem hbefore hne
    rw [hexecutes.unique hsame]
    exact hmem

theorem ExecutesInTurn.last (h : ExecutesInTurn config evaluated name cls isStrict values)
    (hne : evaluated ≠ []) (first : Int) :
    Executes config evaluated name cls isStrict (values.getLastD first) := by
  have hvalues : values ≠ [] := by
    intro hnil
    have hlength := h.length
    rw [hnil] at hlength
    exact hne (List.length_eq_zero_iff.mp hlength.symm)
  have hpos := List.length_pos_iff.mpr hvalues
  have hlast := h.executes (values.length - 1) (values.getLastD first) (by
    rw [← List.getLast?_eq_getElem?, List.getLastD_eq_getLast?,
      List.getLast?_eq_some_getLast hvalues, Option.getD_some])
  rw [Nat.sub_add_cancel hpos, List.take_of_length_le (h.length.symm.le)] at hlast
  exact hlast

/-! ### The requests of a run -/

/-- One item has the name, and it makes an action of one of the classes. -/
structure Configured (config : ServiceConfig) (manager : ThermalActionManager) (item : ActionItem)
    (device : RequestingAction) (cls : ActionClass) : Prop where
  registers : ThermalActionManager.init (config .actionItem) = some manager
  only : ThermalActionManager.OnlyItem (config .actionItem) item
  device : RequestingAction.ofItem item = some device
  created : ThermalActionFactory.create item.actionClass item.params =
    some (some (.integerValued cls))

variable {manager : ThermalActionManager} {started : Started} {events : List ServiceEvent}
  {s : ThermalService}

theorem Configured.registered (h : Configured config manager item device cls) :
    manager.registered[item.name]? = some (cls, item.strict) :=
  h.only.registered h.registers h.created

theorem RequestingAction.actionClass_of_ofItem (h : RequestingAction.ofItem item = some device) :
    item.actionClass ∈ RequestingAction.deviceClasses := by
  rw [RequestingAction.ofItem] at h
  split at h
  case h_5 => cases h
  all_goals simp_all [RequestingAction.deviceClasses]

theorem Configured.not_mem_socSet (h : Configured config manager item device cls) :
    item.name ∉ manager.socSet := by
  apply h.only.not_mem_socSet h.registers
  have hdisjoint : ∀ name ∈ RequestingAction.deviceClasses,
      name ∉ ThermalActionFactory.socClasses := by decide
  exact hdisjoint _ (RequestingAction.actionClass_of_ofItem h.device)

theorem Configured.toResult (h : Configured config manager item device cls) :
    cls.toResult = id := by
  have hnames : ∀ name ∈ RequestingAction.deviceClasses,
      name ≠ "lcd" ∧ name ≠ "volume" ∧ name ≠ "thermallevel" := by decide
  obtain ⟨hlcd, hvolume, hlevel⟩ := hnames _ (RequestingAction.actionClass_of_ofItem h.device)
  have hcreated := h.created
  rw [ThermalActionFactory.create, if_neg hlcd, if_neg hvolume] at hcreated
  obtain ⟨created, hcreate, hmap⟩ := Option.map_eq_some_iff.mp hcreated
  obtain ⟨made, rfl, hmade⟩ := Option.map_eq_some_iff.mp hmap
  cases hmade
  exact createAction_toResult hcreate hlevel

theorem Configured.cls_of_shutdown (h : Configured config manager item .shutdown cls) :
    cls = actionShutdown := by
  have hdevice := h.device
  have hcreated := h.created
  rw [RequestingAction.ofItem] at hdevice
  split at hdevice
  case h_1 hclass =>
    rw [hclass] at hcreated
    cases hcreated
    rfl
  case h_4 =>
    obtain ⟨paramList, -, hnode⟩ := Option.map_eq_some_iff.mp hdevice
    cases hnode
  all_goals cases hdevice

/-- What an action has asked for, with its present value. -/
structure AskedFor (config : ServiceConfig) (evaluated : List Report) (item : ActionItem)
    (device : RequestingAction) (cls : ActionClass) (requests : List DeviceRequest)
    (w : TimedAction) (values : List Int) : Prop where
  undelayed : w.action.policyActionMap = ∅
  inTurn : ExecutesInTurn config evaluated item.name cls item.strict values
  lastValue : w.action.lastValue = values.getLastD cls.lastValueInit
  requests : requests = (edges cls.lastValueInit values).flatMap fun v =>
    device.changed item (config .simulationXml) v

/-- A step asks for the value of the action if it is a new one. -/
theorem asked_of_step {s' : ThermalService} {e : ServiceEvent} {w w' : TimedAction}
    (hstep : s.step slope build e = .done s') (hw : s.actionMap[item.name]? = some w)
    (hw' : s'.actionMap[item.name]? = some w') :
    s.asked slope build item device e =
      (edges w.action.lastValue [w'.action.lastValue]).flatMap fun v =>
        device.changed item s.simulationXml v := by
  rw [ThermalService.asked, hstep]
  dsimp only
  rw [hw, hw', edges]
  dsimp only
  split
  case isTrue => exact (List.flatMap_singleton _ _).symm
  case isFalse => rfl

/-- What a run keeps: the action has asked for the values that it executed. -/
theorem Configured.asked (h : Configured config manager item device cls)
    (hserved : Served slope build config started manager.registered manager.socSet events s)
    (hdistinct : (policyAfter config []).DistinctLevels)
    (hnodelay : (policyAfter config []).NoDelay) :
    (s.simulationXml = config .simulationXml ∧ s.socSet = manager.socSet) ∧
    ∃ w values, s.actionMap[item.name]? = some w ∧
      AskedFor config (evaluationsOf slope build
        (start config started manager.registered manager.socSet) events) item device cls
        (askedOf slope build item device
          (start config started manager.registered manager.socSet) events) w values := by
  induction events using List.reverseRecOn generalizing s with
  | nil =>
    obtain rfl : start config started manager.registered manager.socSet = s :=
      Outcome.done.inj hserved.run
    exact ⟨⟨rfl, rfl⟩, _, [], init_lookup h.registered, rfl, executesInTurn_nil, rfl, rfl⟩
  | append_singleton events e ih =>
    obtain ⟨mid, hmid, hstep⟩ := hserved.concat_inv
    obtain ⟨⟨hxml, hsocSet⟩, w, values, hw, hasked⟩ := ih hmid
    have hmoved := step_moved hmid.kept.1 hstep
    have htrace : askedOf slope build item device _ (events ++ [e]) =
        askedOf slope build item device _ events ++ _ := trace_concat hmid.run hstep
    have hsoc : item.name ∉ mid.socSet := by
      rw [hsocSet]
      exact h.not_mem_socSet
    refine ⟨⟨hmoved.simulationXml.trans hxml, hmoved.socSet.trans hsocSet⟩, ?_⟩
    rcases hmid.step_executes hserved hdistinct hnodelay h.registered hsoc hw hasked.undelayed
      with ⟨hevaluated, hw'⟩ | ⟨report, v, w', hevaluated, hw', hempty, hexecutes, hlast⟩
    · rw [asked_of_step hstep hw hw', edges_eq_nil (by simp), List.flatMap_nil,
        List.append_nil] at htrace
      rw [hevaluated, htrace]
      exact ⟨w, values, hw', hasked⟩
    · rw [h.toResult, id_eq] at hlast
      rw [asked_of_step hstep hw hw', hlast, hxml, hasked.lastValue] at htrace
      refine ⟨w', values ++ [v], hw', hempty, ?_, ?_, ?_⟩
      · rw [hevaluated] at hexecutes ⊢
        exact hasked.inTurn.concat hexecutes
      · rw [hlast, List.getLastD_concat]
      · rw [htrace, hasked.requests, edges_concat, List.flatMap_append]

/-- **The requests of a run.** With no delays and a name of its own, an action asks the device in
turn for the values that the evaluations of the clusters come to, whenever one differs from the one
before. -/
theorem requests_of_evaluations (h : Configured config manager item device cls)
    (hserved : Served slope build config started manager.registered manager.socSet events s)
    (hdistinct : (policyAfter config []).DistinctLevels)
    (hnodelay : (policyAfter config []).NoDelay) :
    ∃ values, ExecutesInTurn config (evaluationsOf slope build
        (start config started manager.registered manager.socSet) events) item.name cls
          item.strict values ∧
      askedOf slope build item device (start config started manager.registered manager.socSet)
        events = (edges cls.lastValueInit values).flatMap fun v =>
          device.changed item (config .simulationXml) v := by
  obtain ⟨-, w, values, -, hasked⟩ := h.asked hserved hdistinct hnodelay
  exact ⟨values, hasked.inTurn, hasked.requests⟩

/-! ### Shutting down -/

theorem shutDownDevice_mem_changed {value : Int} :
    shutDownDevice shutdownReason ∈ RequestingAction.changed item false value .shutdown ↔
      value ≠ 0 := by
  have htold : shutDownDevice shutdownReason ∉ RequestingAction.told item value := by
    rw [RequestingAction.told]
    split <;> simp
  rw [RequestingAction.changed, List.mem_append, or_iff_left htold, if_neg Bool.false_ne_true,
    shutdownRequest]
  by_cases hzero : value = 0 <;> simp [hzero]

/-- **When the device is shut down.** On a device that runs on its own sensors, the shutdown is
requested in a run exactly if at one of the evaluations the clusters come to a value that is not
zero. -/
theorem shutdown_requested_iff (h : Configured config manager item .shutdown cls)
    (hdevice : config .simulationXml = false)
    (hserved : Served slope build config started manager.registered manager.socSet events s)
    (hdistinct : (policyAfter config []).DistinctLevels)
    (hnodelay : (policyAfter config []).NoDelay) :
    shutDownDevice shutdownReason ∈ askedOf slope build item .shutdown
        (start config started manager.registered manager.socSet) events ↔
      ∃ evaluated, evaluated <+: evaluationsOf slope build
          (start config started manager.registered manager.socSet) events ∧ evaluated ≠ [] ∧
        ∃ v, v ≠ 0 ∧ Executes config evaluated item.name cls item.strict v := by
  obtain ⟨-, w, values, -, hasked⟩ := h.asked hserved hdistinct hnodelay
  have hzero : cls.lastValueInit = 0 := by
    rw [h.cls_of_shutdown]
    rfl
  rw [hasked.requests, hdevice, hzero, List.mem_flatMap]
  constructor
  · intro hrequested
    obtain ⟨v, hmem, hshutdown⟩ := hrequested
    have hv := shutDownDevice_mem_changed.mp hshutdown
    obtain ⟨evaluated, hbefore, hne, hexecutes⟩ :=
      hasked.inTurn.mem_iff.mp ((mem_edges_iff hv).mp hmem)
    exact ⟨evaluated, hbefore, hne, v, hv, hexecutes⟩
  · intro hexists
    obtain ⟨evaluated, hbefore, hne, v, hv, hexecutes⟩ := hexists
    refine ⟨v, ?_, shutDownDevice_mem_changed.mpr hv⟩
    exact (mem_edges_iff hv).mpr (hasked.inTurn.mem_iff.mpr ⟨evaluated, hbefore, hne, hexecutes⟩)

/-! ### Files -/

/-- A new value is written once to the file of the class, and to no other. -/
theorem written_changed {simulationXml : Bool} {filePath : String} {text : Int → String}
    (hfile : device.file simulationXml = some (filePath, text)) (value : Int) :
    (device.changed item simulationXml value).filterMap (written? filePath) = [text value] := by
  have htold : (RequestingAction.told item value).filterMap (written? filePath) = [] := by
    rw [RequestingAction.told]
    split <;> rfl
  cases device with
  | popup => cases hfile
  | shutdown =>
    cases simulationXml with
    | false => cases hfile
    | true =>
      cases hfile
      rw [RequestingAction.changed, List.filterMap_append, htold, List.append_nil]
      by_cases hzero : value = 0 <;> simp [hzero, shutdownExecution, written?]
  | applicationProcess =>
    cases simulationXml with
    | false => cases hfile
    | true =>
      cases hfile
      rw [RequestingAction.changed, List.filterMap_append, htold, List.append_nil]
      simp [processAppActionExecution, written?]
  | node nodePath =>
    rw [RequestingAction.file] at hfile
    split at hfile
    case isFalse => cases hfile
    case isTrue hlong =>
      cases hfile
      rw [RequestingAction.changed, if_pos hlong]
      simp [written?]

theorem lastWritten_requests {simulationXml : Bool} {filePath : String} {text : Int → String}
    (hfile : device.file simulationXml = some (filePath, text)) (changes : List Int) :
    lastWritten filePath (changes.flatMap fun v => device.changed item simulationXml v) =
      changes.getLast?.map text := by
  have hwritten : (fun v => (device.changed item simulationXml v).filterMap
      (written? filePath)) = fun v => [text v] := by
    funext v
    exact written_changed hfile v
  rw [lastWritten, List.filterMap_flatMap, hwritten, ← List.map_eq_flatMap, List.getLast?_map]

/-- **What the file holds.** If the action writes a file, then the file was given last what the
clusters come to at present; or it was never written, and every evaluation came to the value that
the action was made with. -/
theorem file_holds_evaluation (h : Configured config manager item device cls)
    (hserved : Served slope build config started manager.registered manager.socSet events s)
    (hdistinct : (policyAfter config []).DistinctLevels)
    (hnodelay : (policyAfter config []).NoDelay) {filePath : String} {text : Int → String}
    (hfile : device.file (config .simulationXml) = some (filePath, text))
    (hevaluated : evaluationsOf slope build
      (start config started manager.registered manager.socSet) events ≠ []) :
    ∃ v, Executes config (evaluationsOf slope build
        (start config started manager.registered manager.socSet) events) item.name cls
          item.strict v ∧
      (lastWritten filePath (askedOf slope build item device
          (start config started manager.registered manager.socSet) events) = some (text v) ∨
        lastWritten filePath (askedOf slope build item device
          (start config started manager.registered manager.socSet) events) = none ∧
        ∀ evaluated, evaluated <+: evaluationsOf slope build
            (start config started manager.registered manager.socSet) events → evaluated ≠ [] →
          Executes config evaluated item.name cls item.strict cls.lastValueInit) := by
  obtain ⟨-, w, values, -, hasked⟩ := h.asked hserved hdistinct hnodelay
  refine ⟨_, hasked.inTurn.last hevaluated cls.lastValueInit, ?_⟩
  rw [hasked.requests, lastWritten_requests hfile]
  by_cases hchange : ∃ v ∈ values, v ≠ cls.lastValueInit
  · rw [edges_getLast? hchange]
    exact .inl rfl
  · have hsame : ∀ v ∈ values, v = cls.lastValueInit := by
      intro v hmem
      by_contra hne
      exact hchange ⟨v, hmem, hne⟩
    rw [edges_eq_nil hsame]
    refine .inr ⟨rfl, fun evaluated hbefore hne => ?_⟩
    obtain ⟨v, hmem, hexecutes⟩ := hasked.inTurn.exists_mem hbefore hne
    rw [← hsame v hmem]
    exact hexecutes

/-- The device is shut down and its fan runs at level three when the base cluster is warm. -/
def shutdownFile : XmlFile :=
  thermalFile [twoSensorSection "40,38",
    { name := "action", xmlChildrenNode := [
      { name := "item", properties := [("name", "shut_down")] },
      { name := "item",
        properties := [("name", "fan"), ("protocol", "node"), ("param", "/sys/fan/level|0")] }] },
    { name := "policy", xmlChildrenNode := [
      { name := "config", properties := [("name", "base"), ("level", "1")],
        xmlChildrenNode := [{ name := "shut_down", content := some "1" },
          { name := "fan", content := some "3" }] }] }]

def fanItem : ActionItem := { name := "fan", params := "/sys/fan/level|0", protocol := "node" }

theorem shutdownFile_asks : ∃ config started manager fan, Booted config started ∧
    config .simulationXml = false ∧
    (policyAfter config []).DistinctLevels ∧ (policyAfter config []).NoDelay ∧
    Configured config manager { name := "shut_down" } .shutdown actionShutdown ∧
    Configured config manager fanItem (.node "/sys/fan/level") fan ∧
    evaluationsOf noSlope deviceBuild (start config started manager.registered manager.socSet)
      warmBattery ≠ [] ∧
    shutDownDevice shutdownReason ∈ askedOf noSlope deviceBuild { name := "shut_down" } .shutdown
      (start config started manager.registered manager.socSet) warmBattery ∧
    lastWritten "/sys/fan/level" (askedOf noSlope deviceBuild fanItem (.node "/sys/fan/level")
      (start config started manager.registered manager.socSet) warmBattery) = some "3" := by
  have hload : thermalSrvConfigInit decimalConversions unsetVariables shutdownFile initialConfig =
      some (true, _) := rfl
  refine ⟨_, _, _, _, ⟨⟨_, _, .loaded .initial hload⟩, ⟨{}, rfl⟩⟩, rfl,
    forall_entries (by decide), forall_entries (by decide), ⟨rfl, rfl, rfl, rfl⟩,
    ⟨rfl, rfl, rfl, rfl⟩, ?_, ?_, ?_⟩
  · exact List.ne_nil_of_length_pos (by decide +kernel)
  all_goals decide +kernel

theorem shutdownFile_requests : ∃ config started, ∃ manager : ThermalActionManager, ∃ s values,
    Served noSlope deviceBuild config started manager.registered manager.socSet warmBattery s ∧
    ExecutesInTurn config (evaluationsOf noSlope deviceBuild
      (start config started manager.registered manager.socSet) warmBattery) "shut_down"
        actionShutdown false values ∧
    shutDownDevice shutdownReason ∈ (edges 0 values).flatMap fun v =>
      RequestingAction.shutdown.changed { name := "shut_down" } (config .simulationXml) v := by
  obtain ⟨config, started, manager, fan, hbooted, hdevice, hdistinct, hnodelay, hitem, -, -,
    hasks, -⟩ := shutdownFile_asks
  obtain ⟨s, hserved⟩ : ∃ s, Served noSlope deviceBuild config started manager.registered
      manager.socSet warmBattery s := hbooted.serves_device hdevice hnodelay _
  obtain ⟨values, hinTurn, hrequests⟩ :=
    requests_of_evaluations hitem hserved hdistinct hnodelay
  rw [hrequests] at hasks
  exact ⟨config, started, manager, s, values, hserved, hinTurn, hasks⟩

/-- The warm battery shuts the device down. -/
theorem shutdownFile_shuts_down : ∃ config started, ∃ manager : ThermalActionManager,
    ∃ s evaluated v,
    Served noSlope deviceBuild config started manager.registered manager.socSet warmBattery s ∧
    evaluated <+: evaluationsOf noSlope deviceBuild
      (start config started manager.registered manager.socSet) warmBattery ∧
    v ≠ 0 ∧ Executes config evaluated "shut_down" actionShutdown false v := by
  obtain ⟨config, started, manager, fan, hbooted, hdevice, hdistinct, hnodelay, hitem, -, -,
    hasks, -⟩ := shutdownFile_asks
  obtain ⟨s, hserved⟩ : ∃ s, Served noSlope deviceBuild config started manager.registered
      manager.socSet warmBattery s := hbooted.serves_device hdevice hnodelay _
  obtain ⟨evaluated, hbefore, -, v, hv, hexecutes⟩ :=
    (shutdown_requested_iff hitem hdevice hserved hdistinct hnodelay).mp hasks
  exact ⟨config, started, manager, s, evaluated, v, hserved, hbefore, hv, hexecutes⟩

/-- The fan is told level three. -/
theorem shutdownFile_holds : ∃ config started, ∃ manager : ThermalActionManager, ∃ fan s v,
    Served noSlope deviceBuild config started manager.registered manager.socSet warmBattery s ∧
    Executes config (evaluationsOf noSlope deviceBuild
      (start config started manager.registered manager.socSet) warmBattery) "fan" fan false v ∧
    toString v = "3" := by
  obtain ⟨config, started, manager, fan, hbooted, hdevice, hdistinct, hnodelay, -, hfan,
    hevaluated, -, hwritten⟩ := shutdownFile_asks
  obtain ⟨s, hserved⟩ : ∃ s, Served noSlope deviceBuild config started manager.registered
      manager.socSet warmBattery s := hbooted.serves_device hdevice hnodelay _
  obtain ⟨v, hexecutes, htext⟩ :=
    file_holds_evaluation hfan hserved hdistinct hnodelay rfl hevaluated
  rw [hwritten] at htext
  rcases htext with hlast | hnever
  · exact ⟨config, started, manager, fan, s, v, hserved, hexecutes, (Option.some.inj hlast).symm⟩
  · cases hnever.1

end ThermalService

end ThermalManager
