import ThermalManager.Config.ServiceConfig
import ThermalManager.Lib.Fanout

/-!
# The section parsers

The sections of `thermal_srv_config_parser.cpp`. A section is read into local variables; what the
parser then does with them is in the next module. The conversions of `c_utils` and `strtod` are
parameters, and so is what an uninitialised variable holds.
-/

namespace ThermalManager

/-! ### Outcomes -/

/-- How reading ends: with a value, with `return false`, or not at all, in a call that does not
return or an access out of range. -/
inductive Parsed (α : Type) where
  | ok (value : α)
  | failed
  | stuck

namespace Parsed

variable {α β : Type}

def bind : Parsed α → (α → Parsed β) → Parsed β
  | .ok value, f => f value
  | .failed, _ => .failed
  | .stuck, _ => .stuck

instance : Monad Parsed where
  pure := .ok
  bind := bind

/-- `return false` without a value: the check of a pointer. -/
def orFail : Option α → Parsed α
  | none => .failed
  | some value => .ok value

/-- A call that may not return, or an access that may be out of range. -/
def orStuck : Option α → Parsed α
  | none => .stuck
  | some value => .ok value

theorem bind_eq_ok {x : Parsed α} {f : α → Parsed β} {b : β} :
    (x >>= f) = .ok b ↔ ∃ a, x = .ok a ∧ f a = .ok b := by
  cases x with
  | ok a =>
    refine ⟨fun h => ⟨a, rfl, h⟩, fun h => ?_⟩
    obtain ⟨_, hx, hf⟩ := h
    cases hx
    exact hf
  | failed =>
    apply iff_of_false (fun h => by cases h)
    intro h
    obtain ⟨_, hx, -⟩ := h
    cases hx
  | stuck =>
    apply iff_of_false (fun h => by cases h)
    intro h
    obtain ⟨_, hx, -⟩ := h
    cases hx

theorem foldlM_invariant {f : β → α → Parsed β} (inv : β → Prop)
    (hf : ∀ (b b' : β) (a : α), inv b → f b a = .ok b' → inv b') {entries : List α} {b b' : β}
    (hinit : inv b) (hfold : entries.foldlM f b = .ok b') : inv b' := by
  induction entries generalizing b with
  | nil =>
    cases hfold
    exact hinit
  | cons a rest ih =>
    rw [List.foldlM_cons] at hfold
    obtain ⟨mid, hmid, hrest⟩ := bind_eq_ok.mp hfold
    exact ih (hf b mid a hinit hmid) hrest

theorem foldlM_collected {γ : Type} {f : β → α → Parsed β} (out : β → List γ) (takes : α → Bool)
    (reads : α → γ → Prop)
    (hf : ∀ (b b' : β) (a : α), f b a = .ok b' →
      if takes a then ∃ c, out b' = out b ++ [c] ∧ reads a c else out b' = out b)
    {entries : List α} {b b' : β} (hfold : entries.foldlM f b = .ok b') :
    ∃ taken, out b' = out b ++ taken ∧ List.Forall₂ reads (entries.filter takes) taken := by
  induction entries generalizing b with
  | nil =>
    cases hfold
    exact ⟨[], (List.append_nil _).symm, .nil⟩
  | cons a rest ih =>
    rw [List.foldlM_cons] at hfold
    obtain ⟨mid, hmid, hrest⟩ := bind_eq_ok.mp hfold
    obtain ⟨taken, hout, hreads⟩ := ih hrest
    have hfirst := hf b mid a hmid
    split at hfirst
    case isTrue htakes =>
      obtain ⟨c, hc, hread⟩ := hfirst
      rw [List.filter_cons, if_pos htakes]
      refine ⟨c :: taken, ?_, .cons hread hreads⟩
      rw [hout, hc, List.append_assoc]
      rfl
    case isFalse hskips =>
      rw [List.filter_cons, if_neg hskips]
      exact ⟨taken, hout.trans (congrArg (· ++ taken) hfirst), hreads⟩

/-- A loop that stores what it reads under the name of each element that has one: the first one
stays. -/
theorem foldlM_stored {γ : Type} {f : β → α → Parsed β} (out : β → Map String γ)
    (key : α → Option String) (reads : α → γ → Prop)
    (hf : ∀ (b b' : β) (a : α), f b a = .ok b' → (key a = none ∧ out b' = out b) ∨
      ∃ name c, key a = some name ∧ out b' = (out b).insertIfNew name c ∧ reads a c)
    {entries : List α} {b b' : β} (hfold : entries.foldlM f b = .ok b') {name : String} {first : α}
    (hfirst : entries.find? (fun a => key a == some name) = some first)
    (hnew : (out b)[name]? = none) : ∃ c, (out b')[name]? = some c ∧ reads first c := by
  induction entries generalizing b with
  | nil => cases hfirst
  | cons a rest ih =>
    rw [List.foldlM_cons] at hfold
    obtain ⟨mid, hmid, hrest⟩ := bind_eq_ok.mp hfold
    by_cases hkey : key a = some name
    · rw [List.find?_cons_of_pos (by simpa using hkey)] at hfirst
      obtain rfl := Option.some.inj hfirst
      rcases hf b mid a hmid with ⟨hnone, -⟩ | ⟨_, c, hname, hout, hread⟩
      · cases hnone.symm.trans hkey
      · obtain rfl := Option.some.inj (hname.symm.trans hkey)
        refine ⟨c, foldlM_invariant (fun b => (out b)[_]? = some c) ?_ ?_ hrest, hread⟩
        · intro b b' entry hstored hstep
          rcases hf b b' entry hstep with ⟨-, hsame⟩ | ⟨_, _, -, hnext, -⟩
          · rw [hsame, hstored]
          · rw [hnext, Fanout.getElem?_insertIfNew_or, hstored]
            rfl
        · rw [hout, Fanout.getElem?_insertIfNew_or, hnew, if_pos rfl]
          rfl
    · rw [List.find?_cons_of_neg (by simpa using hkey)] at hfirst
      refine ih hrest hfirst ?_
      rcases hf b mid a hmid with ⟨-, hsame⟩ | ⟨other, c, hname, hout, -⟩
      · rw [hsame, hnew]
      · rw [hout, Fanout.getElem?_insertIfNew_or, hnew,
          if_neg fun heq => hkey (hname.trans (congrArg some heq))]
        rfl

theorem foldlM_turn {f : β → α → Parsed β} {entries : List α} {b b' : β}
    (hfold : entries.foldlM f b = .ok b') {a : α} (ha : a ∈ entries) :
    ∃ before after, f before a = .ok after := by
  induction entries generalizing b with
  | nil => cases ha
  | cons first rest ih =>
    rw [List.foldlM_cons] at hfold
    obtain ⟨mid, hmid, hrest⟩ := bind_eq_ok.mp hfold
    rcases List.mem_cons.mp ha with rfl | hlater
    · exact ⟨b, mid, hmid⟩
    · exact ih hrest hlater

end Parsed

/-! ### Conversions -/

/-- What `strtod` reports: the value, the characters from the end pointer on, whether there was a
number at all and whether it was out of range. -/
structure Strtod where
  value : Double
  rest : List Char
  converted : Bool
  outOfRange : Bool

/-- The conversions that are not part of the repository. `strToInt` is nothing when it returns
false, which leaves its output as it was. -/
structure Conversions where
  strToInt : String → Option Int
  trimStr : String → String
  strtod : String → Strtod

/-- `StringOperation::StrToDouble` -/
def Conversions.strToDouble (conv : Conversions) (str : String) : Option Double :=
  if str.isEmpty then none
  else
    let result := conv.strtod str
    if !result.converted || !result.rest.isEmpty || result.outOfRange ||
        decide (result.value = .posInf) then none
    else some result.value

/-- What the variables that the parser declares without a value hold. -/
structure Uninit where
  levelItem : LevelItem
  auxLevelItem : AuxLevelItem
  policyLevel : Nat
  idleState : IdleState
  faultNum : Int
  faultValue : Int

def split (str : String) (sep : Char) : Parsed (List String) := .orStuck (splitString str sep)

variable (conv : Conversions) (uninit : Uninit)

/-! ### The level section -/

def parseLevelState (cur : XmlNode) (sc : ThermalConfigSensorCluster) :
    Parsed ThermalConfigSensorCluster :=
  cur.xmlChildrenNode.foldlM (fun sc subNode =>
    if subNode.name != "state" || subNode.properties.isEmpty then .ok sc
    else subNode.properties.foldlM (fun sc levStateProp => do
      let propValue ← .orFail (xmlGetProp subNode levStateProp.1)
      .ok { sc with stateMap := sc.stateMap.insertIfNew levStateProp.1 propValue }) sc) sc

def parseAuxSensorTriggerRange (subNode : XmlNode) (auxsensors : List String) (sensorIdx : Nat) :
    Parsed String := do
  let auxTriggerRange ← .orFail (xmlGetProp subNode "aux_trigger_range")
  if auxTriggerRange.isEmpty then .failed
  else
    let auxTempranges ← split auxTriggerRange ','
    if auxsensors.length > auxTempranges.length then .failed
    else .orStuck auxTempranges[sensorIdx]?

def parseAuxSensorLevInfo (cur : XmlNode) (auxsensors : List String) (sensorIdx : Nat) :
    Parsed (List AuxLevelItem) :=
  cur.xmlChildrenNode.foldlM (fun auxLevelItems subNode =>
    if subNode.name != "item" then .ok auxLevelItems
    else do
      let tempRangeStr ← parseAuxSensorTriggerRange subNode auxsensors sensorIdx
      match ← split tempRangeStr '_' with
      | lower :: upper :: _ =>
          let xmlLevel ← .orFail (xmlGetProp subNode "level")
          .ok (auxLevelItems ++ [{
            lowerTemp := (conv.strToInt lower).getD uninit.auxLevelItem.lowerTemp
            upperTemp := (conv.strToInt upper).getD uninit.auxLevelItem.upperTemp
            level := (conv.strToInt xmlLevel).getD uninit.auxLevelItem.level }])
      | _ => .failed) []

def parseAuxSensorInfo (cur : XmlNode) (sc : ThermalConfigSensorCluster) :
    Parsed ThermalConfigSensorCluster :=
  match xmlGetProp cur "aux_sensor" with
  | none => .ok sc
  | some auxsensor => do
      let auxsensors ← split auxsensor ','
      let auxSensorLevelInfo ← auxsensors.zipIdx.foldlM
        (fun (auxSensorLevelInfo : AuxSensorInfoMap) sensor =>
          if sensor.1.isEmpty then .failed
          else do
            let auxLevelItems ← parseAuxSensorLevInfo conv uninit cur auxsensors sensor.2
            if auxLevelItems.isEmpty then .failed
            else .ok (auxSensorLevelInfo.insertIfNew sensor.1 auxLevelItems)) ∅
      .ok { sc with auxFlag := true, auxSensorInfolist := auxSensorLevelInfo }

def parseLevelThreshold (subNode : XmlNode) (sensors : List String) (sensorIdx : Nat) :
    Parsed LevelItem := do
  let xmlThreshold ← .orFail (xmlGetProp subNode "threshold")
  let thresholds ← split xmlThreshold ','
  let xmlThresholdClr ← .orFail (xmlGetProp subNode "threshold_clr")
  let thresholdClrs ← split xmlThresholdClr ','
  if sensors.length != thresholds.length || sensors.length != thresholdClrs.length then .failed
  else
    let xmlLevel ← .orFail (xmlGetProp subNode "level")
    let threshold ← .orStuck thresholds[sensorIdx]?
    let thresholdClr ← .orStuck thresholdClrs[sensorIdx]?
    .ok {
      threshold := (conv.strToInt threshold).getD uninit.levelItem.threshold
      thresholdClr := (conv.strToInt thresholdClr).getD uninit.levelItem.thresholdClr
      level := (strToUint xmlLevel).getD uninit.levelItem.level }

/-- The items of one sensor, and whether one of them has a rate. -/
def parseSensorLevelInfo (cur : XmlNode) (sensors : List String) (sensorIdx : Nat)
    (rateFlag : Bool) : Parsed (List LevelItem × Bool) :=
  cur.xmlChildrenNode.foldlM (fun (read : List LevelItem × Bool) subNode =>
    if subNode.name != "item" then .ok read
    else do
      let levelItem ← parseLevelThreshold conv uninit subNode sensors sensorIdx
      match xmlGetProp subNode "temp_rise_rate" with
      | none => .ok (read.1 ++ [levelItem], read.2)
      | some tempRiseRates =>
          let rates ← split tempRiseRates ','
          if sensors.length != rates.length then .failed
          else
            let rate ← .orStuck rates[sensorIdx]?
            .ok (read.1 ++ [{ levelItem with
              tempRiseRate := (conv.strToDouble rate).getD levelItem.tempRiseRate }], true))
    ([], rateFlag)

def parseSensorInfo (cur : XmlNode) (sc : ThermalConfigSensorCluster) :
    Parsed ThermalConfigSensorCluster := do
  let xmlSensor ← .orFail (xmlGetProp cur "sensor")
  let sensors ← split xmlSensor ','
  if sensors.isEmpty then .failed
  else
    let read ← sensors.zipIdx.foldlM (fun (read : SensorInfoMap × Bool) sensor => do
      let levelInfo ← parseSensorLevelInfo conv uninit cur sensors sensor.2 read.2
      if levelInfo.1.isEmpty then .failed
      else .ok (read.1.insertIfNew sensor.1 levelInfo.1, levelInfo.2)) (∅, sc.rateFlag)
    .ok { sc with sensorInfolist := read.1, rateFlag := read.2 }

def parseTempDiffValue (cur : XmlNode) : Parsed Int := do
  let xmlTempDiffTrigger ← .orFail (xmlGetProp cur "temp_diff_trigger")
  .orFail (conv.strToInt xmlTempDiffTrigger)

def parseTempDiffLevInfo (cur : XmlNode) (sensor1 sensor2 : String) : Parsed TempDiffInfoList :=
  cur.xmlChildrenNode.foldlM (fun infoList subNode =>
    if subNode.name != "item" then .ok infoList
    else do
      let tempDiff ← parseTempDiffValue conv subNode
      let xmlLevel ← .orFail (xmlGetProp subNode "level")
      let level ← .orFail (conv.strToInt xmlLevel)
      .ok (infoList ++ [⟨sensor1, sensor2, tempDiff, level⟩])) []

def parseTempDiffInfo (cur : XmlNode) (sc : ThermalConfigSensorCluster) :
    Parsed ThermalConfigSensorCluster :=
  match xmlGetProp cur "temp_diff" with
  | none => .ok sc
  | some xmlTempDiff => do
      match ← split xmlTempDiff ',' with
      | [sensor1, sensor2] =>
          let infoList ← parseTempDiffLevInfo conv cur sensor1 sensor2
          .ok { sc with tempDiffInfoList := infoList, tempDiffFlag := true }
      | _ => .failed

def parseSensorCluster (cur : XmlNode) : Parsed ThermalConfigSensorCluster := do
  let sc ← parseLevelState cur {}
  let sc ← parseAuxSensorInfo conv uninit cur sc
  let sc ← parseSensorInfo conv uninit cur sc
  let sc ← parseTempDiffInfo conv cur sc
  let descFlag := (xmlGetProp cur "desc").any fun desc => conv.trimStr desc == "1"
  let sc := { sc with descFlag := descFlag }
  if sc.checkStandard then .ok sc else .failed

def parseLevelNode (node : XmlNode) : Parsed SensorClusterMap :=
  node.xmlChildrenNode.foldlM (fun (msc : SensorClusterMap) cur =>
    if cur.name != "sensor_cluster" then .ok msc
    else do
      let name ← .orFail (xmlGetProp cur "name")
      let sc ← parseSensorCluster conv uninit cur
      .ok (msc.insertIfNew name sc)) ∅

/-! ### The base, state, action and idle sections -/

def parseBaseItems (node : XmlNode) : Parsed BaseInfoMap :=
  node.xmlChildrenNode.foldlM (fun (baseInfoMap : BaseInfoMap) cur =>
    if cur.name != "item" then .ok baseInfoMap
    else do
      let tag ← .orFail (xmlGetProp cur "tag")
      let value ← .orFail (xmlGetProp cur "value")
      .ok (baseInfoMap.insertIfNew tag value)) ∅

/-- The simulation flag of the base section; nothing when its text is no flag. -/
def simulationFlag (baseInfoMap : BaseInfoMap) : Option Bool :=
  match baseInfoMap["sim_tz"]? with
  | none => some false
  | some value =>
      if value == "" then some false
      else if value == "0" || value == "1" then
        (parseStrtollResult value).map fun result => decide (result ≠ 0)
      else none

def parseStateNode (node : XmlNode) : Parsed (List StateItem) :=
  node.xmlChildrenNode.foldlM (fun stateItems cur =>
    if cur.name != "item" then .ok stateItems
    else do
      let name ← .orFail (xmlGetProp cur "name")
      let si : StateItem := { name := name }
      let si := (xmlGetProp cur "param").elim si fun param =>
        { si with params := param, isExistParam := true }
      let si := (xmlGetProp cur "delaytime").elim si fun delayTime =>
        { si with params := delayTime, isExistParam := true }
      .ok (stateItems ++ [si])) []

def parseActionInfo (cur : XmlNode) (ai : ActionItem) : ActionItem where
  name := ai.name
  params := (xmlGetProp cur "param").getD ai.params
  uid := (xmlGetProp cur "uid").getD ai.uid
  protocol := (xmlGetProp cur "protocol").getD ai.protocol
  strict := (xmlGetProp cur "strict").elim ai.strict fun strict => conv.trimStr strict == "1"
  enableEvent := (xmlGetProp cur "event").elim ai.enableEvent fun event => conv.trimStr event == "1"

def parseActionNode (node : XmlNode) : Parsed (List ActionItem) :=
  node.xmlChildrenNode.foldlM (fun actionItems cur =>
    if cur.name != "item" then .ok actionItems
    else do
      let name ← .orFail (xmlGetProp cur "name")
      .ok (actionItems ++ [parseActionInfo conv cur { name := name }])) []

/-- The number in the content of a node, or what was there before. -/
def contentOr (subNode : XmlNode) (before : Int) : Int :=
  (subNode.content.bind conv.strToInt).getD before

/-- Reads what it can and never fails. -/
def parseIdleNode (node : XmlNode) : IdleState :=
  node.xmlChildrenNode.foldl (fun idleState subNode =>
    match subNode.name with
    | "thermallevel" => { idleState with level := contentOr conv subNode idleState.level }
    | "soc" => { idleState with soc := contentOr conv subNode idleState.soc }
    | "charging" => { idleState with charging := contentOr conv subNode idleState.charging }
    | "current" => { idleState with current := contentOr conv subNode idleState.current }
    | _ => idleState) uninit.idleState

/-! ### The policy section -/

/-- The properties of an entry; nothing when one has no value. -/
def parseActionProps (subNode : XmlNode) : Option (Map String String) :=
  subNode.properties.foldlM (fun (actionPropMap : Map String String) actionProp =>
    (xmlGetProp subNode actionProp.1).map fun propValue =>
      actionPropMap.insertIfNew actionProp.1 propValue) ∅

/-- An early return keeps the entries read so far; the caller does not look at the result. -/
def parsePolicyActionInfo : List XmlNode → List PolicyAction → Bool × List PolicyAction
  | [], policyActionList => (true, policyActionList)
  | subNode :: rest, policyActionList =>
      if subNode.name == "comment" then parsePolicyActionInfo rest policyActionList
      else
        match subNode.content, parseActionProps subNode with
        | some actionValue, some actionPropMap =>
            parsePolicyActionInfo rest (policyActionList ++
              [⟨subNode.name, actionValue, actionPropMap, !subNode.properties.isEmpty⟩])
        | _, _ => (false, policyActionList)

def parsePolicyNode (node : XmlNode) : Parsed PolicyConfigMap :=
  node.xmlChildrenNode.foldlM (fun (clusterPolicyMap : PolicyConfigMap) cur =>
    if cur.name != "config" then .ok clusterPolicyMap
    else do
      let clusterName ← .orFail (xmlGetProp cur "name")
      let xmlLevel ← .orFail (xmlGetProp cur "level")
      let policyConfig : PolicyConfig := {
        level := (strToUint xmlLevel).getD uninit.policyLevel
        policyActionList := (parsePolicyActionInfo cur.xmlChildrenNode []).2 }
      .ok (clusterPolicyMap.insert clusterName
        ((clusterPolicyMap[clusterName]?).getD [] ++ [policyConfig]))) ∅

/-! ### The fan section -/

def parseFanFaultInfo (node : XmlNode) (sensors : List String) (fanFaultInfoMap : FanFaultInfoMap) :
    Parsed FanFaultInfoMap :=
  node.xmlChildrenNode.foldlM (fun (fanFaultInfoMap : FanFaultInfoMap) cur =>
    if cur.name != "item" then .ok fanFaultInfoMap
    else do
      let faultStr ← .orFail (xmlGetProp cur "fault")
      let faultNum := (conv.strToInt faultStr).getD uninit.faultNum
      let thresholdStr ← .orFail (xmlGetProp cur "threshold")
      let thresholds ← split thresholdStr ','
      if thresholds.length != sensors.length then .failed
      else
        let fanSensorInfo := (sensors.zip thresholds).foldl
          (fun (fanSensorInfo : FanSensorInfo) sensor => fanSensorInfo.insertIfNew sensor.1
            ((conv.strToInt sensor.2).getD uninit.faultValue)) ∅
        .ok (fanFaultInfoMap.insertIfNew faultNum fanSensorInfo)) fanFaultInfoMap

def parseFanNode (node : XmlNode) : Parsed FanFaultInfoMap :=
  node.xmlChildrenNode.foldlM (fun (fanFaultInfoMap : FanFaultInfoMap) cur =>
    if cur.name != "sensor_cluster" then .ok fanFaultInfoMap
    else do
      let sensorStr ← .orFail (xmlGetProp cur "sensor")
      let sensors ← split sensorStr ','
      parseFanFaultInfo conv uninit cur sensors fanFaultInfoMap) ∅

end ThermalManager
