import ThermalManager.Lib.Outcome
import ThermalManager.Config.Load
import ThermalManager.Config.LevelFields

/-!
# The base information

`thermal_config_base_info.cpp` reads the items that the parser has stored. What an accepted file
stores is in its tree: for each part the last section of its name, and without one what was stored
before.
-/

namespace ThermalManager

/-! ### The source -/

structure ThermalConfigBaseInfo where
  historyTempCount : Nat := 0
  riseRateCount : Nat := 0
  sensorType : String := ""
  sensorsType : List String := []
  baseItems : BaseInfoMap := ∅

namespace ThermalConfigBaseInfo

def setSensorsType (b : ThermalConfigBaseInfo) : Outcome ThermalConfigBaseInfo :=
  match b.baseItems["temperature_query_enum"]? with
  | none => .done { b with sensorsType := [] }
  | some sensorType => do
      let sensorsType ← .orDiverges (splitString sensorType ',')
      .done { b with sensorType, sensorsType }

/-- Only the access to the second field has a guard. -/
def setHistoryTempCount (b : ThermalConfigBaseInfo) : Outcome ThermalConfigBaseInfo :=
  match b.baseItems["history_temp_count"]? with
  | none => .done b
  | some count => do
      let countSizes ← .orDiverges (splitString count ',')
      let historyTempCount ← .orFaults countSizes[0]?
      let b := { b with
        historyTempCount := (strToUint historyTempCount).getD b.historyTempCount }
      if countSizes.length > 1 then do
        let riseRateCount ← .orFaults countSizes[1]?
        .done { b with riseRateCount := (strToUint riseRateCount).getD b.riseRateCount }
      else .done b

def init (b : ThermalConfigBaseInfo) : Outcome ThermalConfigBaseInfo := do
  let b ← b.setSensorsType
  b.setHistoryTempCount

end ThermalConfigBaseInfo

/-! ### How the initialisation ends -/

/-- `SplitString` does not return. -/
def Endless (value : Option String) : Prop := ∃ str, value = some str ∧ ' ' ∈ str.toList

/-- There is no field between the separators. -/
def OnlySeparators (value : Option String) : Prop :=
  ∃ str, value = some str ∧ ∀ c ∈ str.toList, c = ','

theorem OnlySeparators.not_endless {value : Option String} (h : OnlySeparators value) :
    ¬ Endless value := by
  rintro ⟨str, rfl, hspace⟩
  obtain ⟨_, heq, hall⟩ := h
  cases heq
  exact absurd (hall ' ' hspace) (by decide)

theorem splitString_eq_none_iff {str : String} :
    splitString str ',' = none ↔ Endless (some str) := by
  have hsome := splitString_isSome_iff str ','
  rw [← Option.not_isSome_iff_eq_none, hsome, not_not]
  exact ⟨fun hspace => ⟨str, rfl, hspace⟩, fun ⟨_, heq, hspace⟩ => Option.some.inj heq ▸ hspace⟩

namespace ThermalConfigBaseInfo

variable (b : ThermalConfigBaseInfo)

theorem setSensorsType_cases :
    (Endless b.baseItems["temperature_query_enum"]? ∧ b.setSensorsType = .diverges) ∨
      ¬ Endless b.baseItems["temperature_query_enum"]? ∧
        ∃ b', b.setSensorsType = .done b' ∧ b'.baseItems = b.baseItems := by
  rw [setSensorsType]
  cases b.baseItems["temperature_query_enum"]? with
  | none => exact .inr ⟨fun ⟨_, heq, _⟩ => (by cases heq), _, rfl, rfl⟩
  | some sensorType =>
    rw [← splitString_eq_none_iff]
    dsimp only
    cases hsplit : splitString sensorType ',' with
    | none => exact .inl ⟨rfl, rfl⟩
    | some sensorsType => exact .inr ⟨(by simp), _, rfl, rfl⟩

theorem setHistoryTempCount_cases :
    (Endless b.baseItems["history_temp_count"]? ∧ b.setHistoryTempCount = .diverges) ∨
      (OnlySeparators b.baseItems["history_temp_count"]? ∧ b.setHistoryTempCount = .faults) ∨
      ¬ Endless b.baseItems["history_temp_count"]? ∧
        ¬ OnlySeparators b.baseItems["history_temp_count"]? ∧
        ∃ b', b.setHistoryTempCount = .done b' := by
  rw [setHistoryTempCount]
  cases b.baseItems["history_temp_count"]? with
  | none =>
    exact .inr (.inr ⟨fun ⟨_, heq, _⟩ => (by cases heq), fun ⟨_, heq, _⟩ => (by cases heq), _, rfl⟩)
  | some count =>
    dsimp only
    cases hsplit : splitString count ',' with
    | none => exact .inl ⟨splitString_eq_none_iff.mp hsplit, rfl⟩
    | some countSizes =>
      have hnil := splitString_eq_nil_iff hsplit
      have hends : ¬ Endless (some count) := by simp [← splitString_eq_none_iff, hsplit]
      cases countSizes with
      | nil => exact .inr (.inl ⟨⟨count, rfl, hnil.mp rfl⟩, rfl⟩)
      | cons first rest =>
        refine .inr (.inr ⟨hends, ?_, ?_⟩)
        · rintro ⟨_, heq, hall⟩
          cases heq
          cases hnil.mpr hall
        · cases rest with
          | nil => exact ⟨_, rfl⟩
          | cons second rest => exact ⟨_, rfl⟩

theorem init_faults_iff : b.init = .faults ↔
    ¬ Endless b.baseItems["temperature_query_enum"]? ∧
      OnlySeparators b.baseItems["history_temp_count"]? := by
  rw [init]
  rcases b.setSensorsType_cases with ⟨htypes, hset⟩ | ⟨htypes, b', hset, hitems⟩
  · rw [hset]
    exact iff_of_false (fun h => by cases h) fun h => h.1 htypes
  · rw [hset, ← hitems]
    show b'.setHistoryTempCount = .faults ↔ _
    rcases b'.setHistoryTempCount_cases with ⟨hcount, hset⟩ | ⟨hcount, hset⟩ | ⟨-, hcount, _, hset⟩
    · rw [hset]
      exact iff_of_false (fun h => by cases h) fun h => h.2.not_endless hcount
    · exact iff_of_true hset ⟨hitems ▸ htypes, hcount⟩
    · rw [hset]
      exact iff_of_false (fun h => by cases h) fun h => hcount h.2

theorem init_diverges_iff : b.init = .diverges ↔
    Endless b.baseItems["temperature_query_enum"]? ∨
      Endless b.baseItems["history_temp_count"]? := by
  rw [init]
  rcases b.setSensorsType_cases with ⟨htypes, hset⟩ | ⟨htypes, b', hset, hitems⟩
  · rw [hset]
    exact iff_of_true rfl (.inl htypes)
  · rw [hset, ← hitems]
    show b'.setHistoryTempCount = .diverges ↔ _
    rw [or_iff_right (hitems ▸ htypes)]
    rcases b'.setHistoryTempCount_cases with ⟨hcount, hset⟩ | ⟨hcount, hset⟩ | ⟨hcount, -, _, hset⟩
    · exact iff_of_true hset hcount
    · rw [hset]
      exact iff_of_false (fun h => by cases h) hcount.not_endless
    · rw [hset]
      exact iff_of_false (fun h => by cases h) hcount

end ThermalConfigBaseInfo

/-! ### What a tree says -/

def lastSection (rootNode : XmlNode) (name : String) : Option XmlNode :=
  rootNode.xmlChildrenNode.reverse.find? fun node => node.name == name

def itemValue (tag : String) (cur : XmlNode) : Option String :=
  if cur.name = "item" ∧ xmlGetProp cur "tag" = some tag then xmlGetProp cur "value" else none

def taggedValue (tag : String) (node : XmlNode) : Option String :=
  node.xmlChildrenNode.findSome? (itemValue tag)

/-- The value that the file gives a tag, over what was stored. -/
def baseValue (config : ServiceConfig) (rootNode : XmlNode) (tag : String) : Option String :=
  (lastSection rootNode "base").elim (config .baseInfo)[tag]? (taggedValue tag)

def Simulated (config : ServiceConfig) (rootNode : XmlNode) : Prop :=
  (lastSection rootNode "base").elim (config .simulationXml = true) fun node =>
    taggedValue "sim_tz" node = some "1"

def NoClusters (config : ServiceConfig) (rootNode : XmlNode) : Prop :=
  (lastSection rootNode "level").elim (config .sensorClusterMap = ∅) fun node =>
    clusterNodes node = []

/-! ### What is stored of it -/

section Stored

variable {conv : Conversions} {uninit : Uninit} {config config' : ServiceConfig} {ok : Bool}

theorem commit_cases {part : ConfigPart} {read : Parsed part.Value}
    (h : commit part read config = some (ok, config')) :
    (∃ value, read = .ok value ∧ ok = true ∧ config' = config.set part value) ∨
      (read = .failed ∧ ok = false ∧ config' = config) := by
  cases read with
  | ok value =>
    cases h
    exact .inl ⟨value, rfl, rfl, rfl⟩
  | failed =>
    cases h
    exact .inr ⟨rfl, rfl, rfl⟩
  | stuck => cases h

theorem parseBaseNode_cases {node : XmlNode}
    (h : parseBaseNode node config = some (ok, config')) :
    (∃ baseInfoMap flag, parseBaseItems node = .ok baseInfoMap ∧
      simulationFlag baseInfoMap = some flag ∧ ok = true ∧
      config' = (config.set .baseInfo baseInfoMap).set .simulationXml flag) ∨
    (∃ baseInfoMap, ok = false ∧ config' = config.set .baseInfo baseInfoMap) ∨
    (ok = false ∧ config' = config) := by
  rw [parseBaseNode] at h
  cases hitems : parseBaseItems node with
  | ok baseInfoMap =>
    rw [hitems] at h
    dsimp only at h
    cases hflag : simulationFlag baseInfoMap with
    | some flag =>
      rw [hflag] at h
      cases h
      exact .inl ⟨baseInfoMap, flag, rfl, hflag, rfl, rfl⟩
    | none =>
      rw [hflag] at h
      cases h
      exact .inr (.inl ⟨baseInfoMap, rfl, rfl⟩)
  | failed =>
    rw [hitems] at h
    cases h
    exact .inr (.inr ⟨rfl, rfl⟩)
  | stuck =>
    rw [hitems] at h
    cases h

theorem ServiceConfig.set_of_ne {part other : ConfigPart} (hne : other ≠ part)
    (value : part.Value) : config.set part value other = config other :=
  Function.update_of_ne hne value config

theorem commit_other {part other : ConfigPart} {read : Parsed part.Value} (hne : other ≠ part)
    (h : commit part read config = some (ok, config')) : config' other = config other := by
  obtain ⟨value, -, -, rfl⟩ | ⟨-, -, rfl⟩ := commit_cases h
  · exact ServiceConfig.set_of_ne hne value
  · rfl

theorem commit_accepted {part : ConfigPart} {read : Parsed part.Value}
    (h : commit part read config = some (true, config')) : read = .ok (config' part) := by
  obtain ⟨value, rfl, -, rfl⟩ | ⟨-, hok, -⟩ := commit_cases h
  · exact congrArg Parsed.ok (Function.update_self part value config).symm
  · cases hok

theorem parseBaseNode_other {node : XmlNode} {other : ConfigPart} (hinfo : other ≠ .baseInfo)
    (hflag : other ≠ .simulationXml) (h : parseBaseNode node config = some (ok, config')) :
    config' other = config other := by
  obtain ⟨baseInfoMap, flag, -, -, -, rfl⟩ | ⟨baseInfoMap, -, rfl⟩ | ⟨-, rfl⟩ :=
    parseBaseNode_cases h
  · exact (ServiceConfig.set_of_ne hflag flag).trans
      (ServiceConfig.set_of_ne hinfo baseInfoMap)
  · exact ServiceConfig.set_of_ne hinfo baseInfoMap
  · rfl

theorem parseBaseNode_accepted {node : XmlNode}
    (h : parseBaseNode node config = some (true, config')) :
    parseBaseItems node = .ok (config' .baseInfo) ∧
      simulationFlag (config' .baseInfo) = some (config' .simulationXml) := by
  obtain ⟨baseInfoMap, flag, hitems, hflag, -, rfl⟩ | ⟨-, hok, -⟩ | ⟨hok, -⟩ :=
    parseBaseNode_cases h
  · exact ⟨hitems, hflag⟩
  · cases hok
  · cases hok

/-- What an accepted file says about a part that only sections of one name write. -/
theorem parseRootNodes_part (name : String) {γ : Type} (part : ServiceConfig → γ)
    (reads : XmlNode → γ → Prop)
    (hother : ∀ (node : XmlNode) (config config' : ServiceConfig), node.name ≠ name →
      parseRootNode conv uninit node config = some (true, config') → part config' = part config)
    (hread : ∀ (node : XmlNode) (config config' : ServiceConfig), node.name = name →
      parseRootNode conv uninit node config = some (true, config') → reads node (part config'))
    {nodes : List XmlNode}
    (hload : parseRootNodes conv uninit nodes config = some (true, config')) :
    (nodes.reverse.find? fun node => node.name == name).elim (part config' = part config)
      fun node => reads node (part config') := by
  induction nodes generalizing config with
  | nil =>
    cases hload
    rfl
  | cons node rest ih =>
    rw [parseRootNodes] at hload
    split at hload
    case h_1 => cases hload
    case h_2 => cases hload
    case h_3 mid hnode =>
      have hrest := ih hload
      rw [List.reverse_cons, List.find?_append]
      cases hlast : rest.reverse.find? fun node => node.name == name with
      | some last =>
        rw [hlast] at hrest
        exact hrest
      | none =>
        rw [hlast] at hrest
        have hsame : part config' = part mid := hrest
        rw [Option.none_or, hsame, List.find?_singleton]
        by_cases hname : node.name = name
        · rw [if_pos (beq_iff_eq.mpr hname)]
          exact hread node config mid hname hnode
        · rw [if_neg (by simpa using hname)]
          exact hother node config mid hname hnode

/-- The sections that write a part. -/
def ConfigPart.sectionName : ConfigPart → String
  | .baseInfo => "base"
  | .simulationXml => "base"
  | .sensorClusterMap => "level"
  | .stateItem => "state"
  | .idleStateConfig => "idle"
  | .actionItem => "action"
  | .policyMap => "policy"
  | .faultInfoMap => "fan"

theorem parseRootNode_other {node : XmlNode} (part : ConfigPart)
    (hname : node.name ≠ part.sectionName)
    (h : parseRootNode conv uninit node config = some (ok, config')) :
    config' part = config part := by
  have hne : ∀ other : ConfigPart, node.name = other.sectionName → part ≠ other := by
    rintro other hother rfl
    exact hname hother
  unfold parseRootNode at h
  split at h
  case h_1 hbase => exact parseBaseNode_other (hne .baseInfo hbase) (hne .simulationXml hbase) h
  case h_2 hlevel => exact commit_other (hne .sensorClusterMap hlevel) h
  case h_3 hstate => exact commit_other (hne .stateItem hstate) h
  case h_4 haction => exact commit_other (hne .actionItem haction) h
  case h_5 hpolicy => exact commit_other (hne .policyMap hpolicy) h
  case h_6 hidle => exact commit_other (hne .idleStateConfig hidle) h
  case h_7 hfan => exact commit_other (hne .faultInfoMap hfan) h
  case h_8 =>
    cases h
    rfl
  case h_9 =>
    cases h
    rfl

theorem parseBaseItems_getElem? {node : XmlNode} {baseInfoMap : BaseInfoMap}
    (h : parseBaseItems node = .ok baseInfoMap) (tag : String) :
    baseInfoMap[tag]? = taggedValue tag node := by
  have hloop : ∀ (cur : List XmlNode) (before after : BaseInfoMap),
      cur.foldlM (fun (baseInfoMap : BaseInfoMap) cur =>
        if cur.name != "item" then .ok baseInfoMap
        else do
          let tag ← .orFail (xmlGetProp cur "tag")
          let value ← .orFail (xmlGetProp cur "value")
          .ok (baseInfoMap.insertIfNew tag value)) before = Parsed.ok after →
      after[tag]? = before[tag]?.or (cur.findSome? (itemValue tag)) := by
    intro cur
    induction cur with
    | nil =>
      intro before after hfold
      cases hfold
      exact (Option.or_none).symm
    | cons item rest ih =>
      intro before after hfold
      rw [List.foldlM_cons] at hfold
      obtain ⟨mid, hmid, hrest⟩ := Parsed.bind_eq_ok.mp hfold
      rw [ih mid after hrest, List.findSome?_cons]
      by_cases hitem : item.name = "item"
      · rw [if_neg (by simpa using hitem)] at hmid
        obtain ⟨name, hname, hmid⟩ := Parsed.bind_eq_ok.mp hmid
        obtain ⟨value, hvalue, hmid⟩ := Parsed.bind_eq_ok.mp hmid
        cases hmid
        rw [Fanout.getElem?_insertIfNew_or, itemValue, Parsed.orFail_eq_ok.mp hname,
          Parsed.orFail_eq_ok.mp hvalue]
        by_cases htag : name = tag
        · subst htag
          rw [if_pos rfl, if_pos ⟨hitem, rfl⟩]
          cases before[name]? <;> rfl
        · rw [if_neg htag, if_neg fun hboth => htag (Option.some.inj hboth.2), Option.or_none]
      · rw [if_pos (by simpa using hitem)] at hmid
        cases hmid
        rw [itemValue, if_neg fun hboth => hitem hboth.1]
  rw [hloop _ _ _ h, Std.ExtTreeMap.getElem?_empty]
  rfl

/-- A value that is not rejected asks for the simulation exactly when it is 1. -/
theorem simulationFlag_eq {baseInfoMap : BaseInfoMap} {flag : Bool}
    (h : simulationFlag baseInfoMap = some flag) :
    flag = true ↔ baseInfoMap["sim_tz"]? = some "1" := by
  rw [simulationFlag] at h
  cases hvalue : baseInfoMap["sim_tz"]? with
  | none =>
    rw [hvalue] at h
    obtain rfl := Option.some.inj h
    simp
  | some value =>
    rw [hvalue] at h
    dsimp only at h
    split at h
    case isTrue hempty =>
      obtain rfl := Option.some.inj h
      simp [beq_iff_eq.mp hempty]
    case isFalse =>
      split at h
      case isTrue hdigit =>
        rcases Bool.or_eq_true _ _ ▸ hdigit with hzero | hone
        · obtain rfl := beq_iff_eq.mp hzero
          obtain rfl := Option.some.inj h
          decide
        · obtain rfl := beq_iff_eq.mp hone
          obtain rfl := Option.some.inj h
          decide
      case isFalse => cases h

theorem parseLevelNode_eq_empty_iff {node : XmlNode} {msc : SensorClusterMap}
    (h : parseLevelNode conv uninit node = .ok msc) : msc = ∅ ↔ clusterNodes node = [] := by
  have hloop : ∀ (nodes : List XmlNode) (before after : SensorClusterMap),
      nodes.foldlM (fun (msc : SensorClusterMap) cur =>
        if cur.name != "sensor_cluster" then .ok msc
        else do
          let name ← .orFail (xmlGetProp cur "name")
          let sc ← parseSensorCluster conv uninit cur
          .ok (msc.insertIfNew name sc)) before = Parsed.ok after →
      (after.isEmpty ↔ before.isEmpty ∧
        (nodes.filter fun cur => cur.name == "sensor_cluster") = []) := by
    intro nodes
    induction nodes with
    | nil =>
      intro before after hfold
      cases hfold
      simp
    | cons cur rest ih =>
      intro before after hfold
      rw [List.foldlM_cons] at hfold
      obtain ⟨mid, hmid, hrest⟩ := Parsed.bind_eq_ok.mp hfold
      rw [ih mid after hrest, List.filter_cons]
      by_cases hcluster : cur.name = "sensor_cluster"
      · rw [if_neg (by simpa using hcluster)] at hmid
        obtain ⟨name, -, hmid⟩ := Parsed.bind_eq_ok.mp hmid
        obtain ⟨sc, -, hmid⟩ := Parsed.bind_eq_ok.mp hmid
        cases hmid
        simp [hcluster]
      · rw [if_pos (by simpa using hcluster)] at hmid
        cases hmid
        simp [hcluster]
  rw [← Std.ExtTreeMap.isEmpty_iff, hloop _ _ _ h]
  simp [clusterNodes]

variable {rootNode : XmlNode}
  (hload : parseRootNodes conv uninit rootNode.xmlChildrenNode config = some (true, config'))

include hload

theorem accepted_baseInfo (tag : String) :
    (config' .baseInfo)[tag]? = baseValue config rootNode tag := by
  have hpart := parseRootNodes_part "base" (fun config => config .baseInfo)
    (fun node baseInfoMap => parseBaseItems node = .ok baseInfoMap) ?other ?read hload
  case other => exact fun node config config' hname h => parseRootNode_other _ hname h
  case read =>
    intro node config config' hname h
    unfold parseRootNode at h
    rw [hname] at h
    exact (parseBaseNode_accepted h).1
  unfold baseValue lastSection
  cases hlast : rootNode.xmlChildrenNode.reverse.find? fun node => node.name == "base" with
  | some node =>
    rw [hlast] at hpart
    exact parseBaseItems_getElem? hpart tag
  | none =>
    rw [hlast] at hpart
    exact congrArg (fun baseInfoMap : BaseInfoMap => baseInfoMap[tag]?) hpart

theorem accepted_simulated : config' .simulationXml = true ↔ Simulated config rootNode := by
  have hpart := parseRootNodes_part "base" (fun config => config .simulationXml)
    (fun node flag => ∃ baseInfoMap, parseBaseItems node = .ok baseInfoMap ∧
      simulationFlag baseInfoMap = some flag) ?other ?read hload
  case other => exact fun node config config' hname h => parseRootNode_other _ hname h
  case read =>
    intro node config config' hname h
    unfold parseRootNode at h
    rw [hname] at h
    exact ⟨_, parseBaseNode_accepted h⟩
  unfold Simulated lastSection
  cases hlast : rootNode.xmlChildrenNode.reverse.find? fun node => node.name == "base" with
  | some node =>
    rw [hlast] at hpart
    obtain ⟨baseInfoMap, hitems, hflag⟩ := hpart
    rw [simulationFlag_eq hflag, parseBaseItems_getElem? hitems]
    exact Iff.rfl
  | none =>
    rw [hlast] at hpart
    exact iff_of_eq (congrArg (· = true) hpart)

theorem accepted_clusters : config' .sensorClusterMap = ∅ ↔ NoClusters config rootNode := by
  have hpart := parseRootNodes_part "level" (fun config => config .sensorClusterMap)
    (fun node msc => parseLevelNode conv uninit node = .ok msc) ?other ?read hload
  case other => exact fun node config config' hname h => parseRootNode_other _ hname h
  case read =>
    intro node config config' hname h
    unfold parseRootNode at h
    rw [hname] at h
    exact commit_accepted h
  unfold NoClusters lastSection
  cases hlast : rootNode.xmlChildrenNode.reverse.find? fun node => node.name == "level" with
  | some node =>
    rw [hlast] at hpart
    exact parseLevelNode_eq_empty_iff hpart
  | none =>
    rw [hlast] at hpart
    exact iff_of_eq (congrArg (· = (∅ : SensorClusterMap)) hpart)

end Stored

end ThermalManager
