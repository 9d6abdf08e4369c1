import ThermalManager.Config.SectionParser

/-!
# Loading a configuration

`ThermalSrvConfigInit` stores a section as soon as it is read, so a file that is rejected later has
been stored in part, and a second file is loaded over that. Loading is a partial write: which parts
are written does not depend on what was stored. So a rejected file leaves no trace exactly when all
it wrote was stored already.
-/

namespace ThermalManager

open Overlay

variable (conv : Conversions) (uninit : Uninit)

/-! ### The source -/

/-- Store what was read. The result is the return value and the configuration; nothing when the
section parser does not return. -/
def commit (part : ConfigPart) (read : Parsed part.Value) (config : ServiceConfig) :
    Option (Bool × ServiceConfig) :=
  match read with
  | .ok value => some (true, config.set part value)
  | .failed => some (false, config)
  | .stuck => none

/-- The items are stored before the simulation flag is looked at. -/
def parseBaseNode (node : XmlNode) (config : ServiceConfig) : Option (Bool × ServiceConfig) :=
  match parseBaseItems node with
  | .ok baseInfoMap =>
      let config := config.set .baseInfo baseInfoMap
      match simulationFlag baseInfoMap with
      | some flag => some (true, config.set .simulationXml flag)
      | none => some (false, config)
  | .failed => some (false, config)
  | .stuck => none

def parseRootNode (node : XmlNode) (config : ServiceConfig) : Option (Bool × ServiceConfig) :=
  match node.name with
  | "base" => parseBaseNode node config
  | "level" => commit .sensorClusterMap (parseLevelNode conv uninit node) config
  | "state" => commit .stateItem (parseStateNode node) config
  | "action" => commit .actionItem (parseActionNode conv node) config
  | "policy" => commit .policyMap (parsePolicyNode uninit node) config
  | "idle" => commit .idleStateConfig (.ok (parseIdleNode conv uninit node)) config
  | "fan" => commit .faultInfoMap (parseFanNode conv uninit node) config
  | "comment" => some (true, config)
  | _ => some (false, config)

def parseRootNodes : List XmlNode → ServiceConfig → Option (Bool × ServiceConfig)
  | [], config => some (true, config)
  | node :: rest, config =>
      match parseRootNode conv uninit node config with
      | none => none
      | some (false, config) => some (false, config)
      | some (true, config) => parseRootNodes rest config

/-- `ThermalSrvConfigInit`, which is `ParseXmlFile`. -/
def thermalSrvConfigInit (file : XmlFile) (config : ServiceConfig) :
    Option (Bool × ServiceConfig) :=
  match file with
  | none => some (false, config)
  | some rootNode => parseRootNodes conv uninit rootNode.xmlChildrenNode config

/-- `ThermalService::InitConfigFile`. The policy file is there when the service is built with the
configuration policy and finds one. -/
def initConfigFile (serviceConfigParsed : Bool) (policyFile : Option XmlFile)
    (vendorFile systemFile : XmlFile) (config : ServiceConfig) : Option (Bool × ServiceConfig) :=
  if serviceConfigParsed then some (true, config)
  else
    match policyFile with
    | some file => thermalSrvConfigInit conv uninit file config
    | none =>
        match thermalSrvConfigInit conv uninit vendorFile config with
        | none => none
        | some (true, config) => some (true, config)
        | some (false, config) => thermalSrvConfigInit conv uninit systemFile config

/-! ### Loading as a partial write -/

abbrev ConfigWrites := Writes ConfigPart.Value

/-- Whether a section is accepted, and what it writes. -/
def sectionWrites (part : ConfigPart) (read : Parsed part.Value) : Option (Bool × ConfigWrites) :=
  match read with
  | .ok value => some (true, .single part value)
  | .failed => some (false, .none)
  | .stuck => none

def baseWrites (node : XmlNode) : Option (Bool × ConfigWrites) :=
  match parseBaseItems node with
  | .ok baseInfoMap =>
      match simulationFlag baseInfoMap with
      | some flag =>
          some (true, (Writes.single .simulationXml flag).after (.single .baseInfo baseInfoMap))
      | none => some (false, .single .baseInfo baseInfoMap)
  | .failed => some (false, .none)
  | .stuck => none

def rootNodeWrites (node : XmlNode) : Option (Bool × ConfigWrites) :=
  match node.name with
  | "base" => baseWrites node
  | "level" => sectionWrites .sensorClusterMap (parseLevelNode conv uninit node)
  | "state" => sectionWrites .stateItem (parseStateNode node)
  | "action" => sectionWrites .actionItem (parseActionNode conv node)
  | "policy" => sectionWrites .policyMap (parsePolicyNode uninit node)
  | "idle" => sectionWrites .idleStateConfig (.ok (parseIdleNode conv uninit node))
  | "fan" => sectionWrites .faultInfoMap (parseFanNode conv uninit node)
  | "comment" => some (true, .none)
  | _ => some (false, .none)

def stores (node : XmlNode) : ConfigWrites := (rootNodeWrites conv uninit node).elim .none Prod.snd

/-- The sections up to the first that is not accepted, which is the last one looked at. -/
def readSections : List XmlNode → List XmlNode
  | [] => []
  | node :: rest =>
      if (rootNodeWrites conv uninit node).any Prod.fst then node :: readSections rest else [node]

/-- What the last of the sections that store a part says about it. -/
def writesOf (file : XmlFile) : ConfigWrites :=
  Writes.last ((readSections conv uninit (file.elim [] XmlNode.xmlChildrenNode)).map
    (stores conv uninit))

def applied (config : ServiceConfig) (loaded : Bool × ConfigWrites) : Bool × ServiceConfig :=
  (loaded.1, loaded.2.apply config)

theorem commit_eq (part : ConfigPart) (read : Parsed part.Value) (config : ServiceConfig) :
    commit part read config = (sectionWrites part read).map (applied config) := by
  cases read with
  | ok value =>
    rw [commit, sectionWrites, Option.map_some, applied, Writes.apply_single]
    rfl
  | failed => rfl
  | stuck => rfl

theorem parseBaseNode_eq (node : XmlNode) (config : ServiceConfig) :
    parseBaseNode node config = (baseWrites node).map (applied config) := by
  rw [parseBaseNode, baseWrites]
  cases parseBaseItems node with
  | ok baseInfoMap =>
    dsimp only
    cases simulationFlag baseInfoMap with
    | some flag =>
      dsimp only
      rw [Option.map_some, applied, Writes.apply_after, Writes.apply_single, Writes.apply_single]
      rfl
    | none =>
      dsimp only
      rw [Option.map_some, applied, Writes.apply_single]
      rfl
  | failed => rfl
  | stuck => rfl

theorem parseRootNode_eq (node : XmlNode) (config : ServiceConfig) :
    parseRootNode conv uninit node config =
      (rootNodeWrites conv uninit node).map (applied config) := by
  unfold parseRootNode rootNodeWrites
  split
  · exact parseBaseNode_eq node config
  all_goals first
    | exact commit_eq _ _ config
    | rfl

variable {conv uninit} {config config' : ServiceConfig}

theorem parseRootNodes_over {nodes : List XmlNode} {ok : Bool}
    (hload : parseRootNodes conv uninit nodes config = some (ok, config'))
    (stored : ServiceConfig) : parseRootNodes conv uninit nodes stored = some (ok,
      (Writes.last ((readSections conv uninit nodes).map (stores conv uninit))).apply stored) := by
  induction nodes generalizing config stored with
  | nil =>
    cases hload
    rfl
  | cons node rest ih =>
    rw [parseRootNodes, parseRootNode_eq] at hload ⊢
    cases hwrites : rootNodeWrites conv uninit node with
    | none =>
      rw [hwrites] at hload
      cases hload
    | some loaded =>
      obtain ⟨accepted, writes⟩ := loaded
      rw [hwrites] at hload
      have hstores : stores conv uninit node = writes := by rw [stores, hwrites]; rfl
      rw [readSections, hwrites]
      cases accepted with
      | false =>
        cases hload
        rw [Option.any_some, if_neg Bool.false_ne_true, List.map_singleton, hstores,
          Writes.last_cons]
        rfl
      | true =>
        rw [Option.any_some, if_pos rfl, List.map_cons, hstores, Writes.last_cons,
          Writes.apply_after]
        exact ih hload (writes.apply stored)

/-- Whether a file is accepted does not depend on what is stored, nor does what it stores. -/
theorem load_over {file : XmlFile} {ok : Bool}
    (hload : thermalSrvConfigInit conv uninit file config = some (ok, config'))
    (stored : ServiceConfig) : thermalSrvConfigInit conv uninit file stored =
      some (ok, (writesOf conv uninit file).apply stored) := by
  cases file with
  | none =>
    cases hload
    rfl
  | some rootNode => exact parseRootNodes_over hload stored

theorem eq_apply_writesOf {file : XmlFile} {ok : Bool}
    (hload : thermalSrvConfigInit conv uninit file config = some (ok, config')) :
    config' = (writesOf conv uninit file).apply config :=
  congrArg Prod.snd (Option.some.inj (hload.symm.trans (load_over hload config)))

/-! ### Rejected files -/

/-- The fallback to the system file loads it over what the vendor file has left. -/
theorem initConfigFile_eq {vendorFile systemFile : XmlFile} {config₁ : ServiceConfig}
    (hvendor : thermalSrvConfigInit conv uninit vendorFile config = some (false, config'))
    (hsystem : thermalSrvConfigInit conv uninit systemFile config = some (true, config₁)) :
    initConfigFile conv uninit false none vendorFile systemFile config =
      some (true, (writesOf conv uninit systemFile).apply config') := by
  rw [initConfigFile, if_neg Bool.false_ne_true, hvendor]
  exact load_over hsystem config'

/-- **Rejected files.** A rejected file leaves the configuration as it was exactly when, of the
sections read of it, the last that stores a part says what is stored there. The fallback gives what
the system file alone gives exactly when this holds of every part for which the system file has no
section. -/
theorem rejected_traceless_iff (conv : Conversions) (uninit : Uninit) (config : ServiceConfig) :
    (∀ (file : XmlFile) (config' : ServiceConfig),
      thermalSrvConfigInit conv uninit file config = some (false, config') →
      (config' = config ↔ ∀ (part : ConfigPart) (value : part.Value),
        writesOf conv uninit file part = some value → config part = value)) ∧
    ∀ (vendorFile systemFile : XmlFile) (config' config₁ : ServiceConfig),
      thermalSrvConfigInit conv uninit vendorFile config = some (false, config') →
      thermalSrvConfigInit conv uninit systemFile config = some (true, config₁) →
      ∃ config₂, initConfigFile conv uninit false none vendorFile systemFile config =
          some (true, config₂) ∧
        (config₂ = config₁ ↔ ∀ (part : ConfigPart) (value : part.Value),
          writesOf conv uninit vendorFile part = some value →
          writesOf conv uninit systemFile part = none → config part = value) := by
  refine ⟨fun file config' hload => ?_, ?_⟩
  · rw [eq_apply_writesOf hload]
    exact Writes.apply_eq_self_iff
  · intro vendorFile systemFile config' config₁ hvendor hsystem
    refine ⟨_, initConfigFile_eq hvendor hsystem, ?_⟩
    rw [eq_apply_writesOf hvendor, eq_apply_writesOf hsystem]
    exact Writes.apply_apply_eq_iff

/-- Decimal numbers without a sign, no rates. -/
def plainConversions : Conversions where
  strToInt str := (decimalValue str).map Int.ofNat
  trimStr := id
  strtod _ := ⟨.finite 0, [], false, false⟩

def zeroed : Uninit := ⟨⟨0, 0, .finite 0, 0⟩, ⟨0, 0, 0⟩, 0, ⟨0, 0, 0, 0⟩, 0, 0⟩

def initialConfig : ServiceConfig
  | .baseInfo => ∅
  | .simulationXml => false
  | .sensorClusterMap => ∅
  | .stateItem => []
  | .idleStateConfig => ⟨0, 0, 0, 0⟩
  | .actionItem => []
  | .policyMap => ∅
  | .faultInfoMap => ∅

def baseSection (tag value : String) : XmlNode where
  name := "base"
  xmlChildrenNode := [{ name := "item", properties := [("tag", tag), ("value", value)] }]

/-- A level section whose only cluster has no name. -/
def namelessLevel : XmlNode where
  name := "level"
  xmlChildrenNode := [{ name := "sensor_cluster", properties := [("sensor", "battery")] }]

def thermalFile (sections : List XmlNode) : XmlFile :=
  some { name := "thermal", xmlChildrenNode := sections }

/-- The rejected section comes first: nothing was stored, and the fallback is the system file. -/
theorem namelessLevel_traceless :
    ∃ config' config₁ config₂, thermalSrvConfigInit plainConversions zeroed
        (thermalFile [namelessLevel, baseSection "tag" "value"]) initialConfig =
          some (false, config') ∧ config' = initialConfig ∧
      thermalSrvConfigInit plainConversions zeroed
        (thermalFile [{ name := "state" }]) initialConfig = some (true, config₁) ∧
      initConfigFile plainConversions zeroed false none
        (thermalFile [namelessLevel, baseSection "tag" "value"]) (thermalFile [{ name := "state" }])
        initialConfig = some (true, config₂) ∧ config₂ = config₁ := by
  have hvendor : thermalSrvConfigInit plainConversions zeroed
      (thermalFile [namelessLevel, baseSection "tag" "value"]) initialConfig =
        some (false, initialConfig) := rfl
  have hsystem : thermalSrvConfigInit plainConversions zeroed (thermalFile [{ name := "state" }])
      initialConfig = some (true, initialConfig.set .stateItem []) := rfl
  have hnothing : writesOf plainConversions zeroed
      (thermalFile [namelessLevel, baseSection "tag" "value"]) = Writes.none := rfl
  have h := rejected_traceless_iff plainConversions zeroed initialConfig
  obtain ⟨config₂, hinit, hiff⟩ := h.2 _ _ _ _ hvendor hsystem
  refine ⟨_, _, config₂, hvendor, (h.1 _ _ hvendor).mpr ?_, hsystem, hinit, hiff.mpr ?_⟩
  · intro part value hvalue
    rw [hnothing] at hvalue
    cases hvalue
  · intro part value hvalue
    rw [hnothing] at hvalue
    cases hvalue

def historyCount : BaseInfoMap := (∅ : BaseInfoMap).insertIfNew "history_temp_count" "3"

/-- What a file with this count leaves behind. -/
def mixedConfig : ServiceConfig :=
  (initialConfig.set .baseInfo historyCount).set .simulationXml false

/-- A base section in front of the rejected one: it is stored, and the fallback mixes the files. -/
theorem baseSection_leaves_trace :
    ∃ config' config₁ config₂, thermalSrvConfigInit plainConversions zeroed
        (thermalFile [baseSection "history_temp_count" "3", namelessLevel]) initialConfig =
          some (false, config') ∧ config' ≠ initialConfig ∧
      thermalSrvConfigInit plainConversions zeroed
        (thermalFile [{ name := "state" }]) initialConfig = some (true, config₁) ∧
      initConfigFile plainConversions zeroed false none
        (thermalFile [baseSection "history_temp_count" "3", namelessLevel])
        (thermalFile [{ name := "state" }]) initialConfig = some (true, config₂) ∧
      config₂ ≠ config₁ := by
  have hne : ∀ config config' : ServiceConfig, config .baseInfo = historyCount →
      config' .baseInfo = (∅ : BaseInfoMap) → config ≠ config' := by
    intro config config' hconfig hconfig' heq
    have hmaps : historyCount = (∅ : BaseInfoMap) := by rw [← hconfig, heq, hconfig']
    have hlookup := congrArg
      (fun baseInfoMap : BaseInfoMap => baseInfoMap["history_temp_count"]?) hmaps
    exact absurd hlookup (by decide)
  exact ⟨mixedConfig, initialConfig.set .stateItem [], mixedConfig.set .stateItem [], rfl,
    hne _ _ rfl rfl, rfl, rfl, hne _ _ rfl rfl⟩

end ThermalManager
