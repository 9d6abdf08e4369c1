import ThermalManager.Config.LevelSection
import ThermalManager.Lib.Alignment

/-!
# What a level section says

The comma fields of an item stand for the sensors of its cluster. The parser reads them without the
empty ones and keeps what a variable held when a field is no number, so an accepted section means
what it says only if its fields are well written.
-/

namespace ThermalManager

/-! ### What is written -/

def itemNodes (cur : XmlNode) : List XmlNode :=
  cur.xmlChildrenNode.filter fun subNode => subNode.name == "item"

/-- The number in a comma field of an attribute. -/
def writtenNumber (subNode : XmlNode) (prop : String) (k : Nat) : Option Int := do
  let text ← xmlGetProp subNode prop
  let field ← (fields text ',')[k]?
  decimalInt32 field

def writtenLevel (subNode : XmlNode) : Option Nat :=
  (xmlGetProp subNode "level").bind decimalValue

/-- The two numbers in a comma field of the trigger range. -/
def writtenRange (subNode : XmlNode) (j : Nat) : Option (Int × Int) := do
  let text ← xmlGetProp subNode "aux_trigger_range"
  let field ← (fields text ',')[j]?
  match fields field '_' with
  | [lower, upper] =>
      let lowerTemp ← decimalInt32 lower
      let upperTemp ← decimalInt32 upper
      some (lowerTemp, upperTemp)
  | _ => none

/-- The sensor in a comma field of the cluster's attribute. -/
def SensorAt (cur : XmlNode) (k : Nat) (name : String) : Prop :=
  ∃ text, xmlGetProp cur "sensor" = some text ∧ (fields text ',')[k]? = some name ∧ name ≠ ""

/-- The auxiliary sensors are counted without the empty fields. -/
def AuxSensorAt (cur : XmlNode) (j : Nat) (name : String) : Prop :=
  ∃ text, xmlGetProp cur "aux_sensor" = some text ∧
    ((fields text ',').filter fun field => field != "")[j]? = some name

/-- The numbers stored for every sensor and every item are the numbers written. -/
structure MeansWhatItSays (cur : XmlNode) (sc : ThermalConfigSensorCluster) : Prop where
  sensors : ∀ k name, SensorAt cur k name →
    ∃ items : List LevelItem, sc.sensorInfolist[name]? = some items ∧
      ∀ (i : Nat) (subNode : XmlNode), (itemNodes cur)[i]? = some subNode →
        ∃ item : LevelItem, items[i]? = some item ∧
          writtenNumber subNode "threshold" k = some item.threshold ∧
          writtenNumber subNode "threshold_clr" k = some item.thresholdClr ∧
          writtenLevel subNode = some item.level
  auxSensors : ∀ j name, AuxSensorAt cur j name →
    ∃ items : List AuxLevelItem, sc.auxSensorInfolist[name]? = some items ∧
      ∀ (i : Nat) (subNode : XmlNode), (itemNodes cur)[i]? = some subNode →
        ∃ item : AuxLevelItem, items[i]? = some item ∧
          writtenRange subNode j = some (item.lowerTemp, item.upperTemp)

/-- Every field that stands for a sensor is a number, and that of an auxiliary sensor two. The
levels are written in order. A sensor that is named twice is given the same numbers. -/
structure WellWritten (cur : XmlNode) : Prop where
  numbers : ∀ k name, SensorAt cur k name →
    ∀ (i : Nat) (subNode : XmlNode), (itemNodes cur)[i]? = some subNode →
    (writtenNumber subNode "threshold" k).isSome ∧
      (writtenNumber subNode "threshold_clr" k).isSome ∧ writtenLevel subNode = some (i + 1)
  ranges : ∀ j name, AuxSensorAt cur j name → ∀ subNode ∈ itemNodes cur,
    (writtenRange subNode j).isSome
  sameNumbers : ∀ k k' name, SensorAt cur k name → SensorAt cur k' name →
    ∀ subNode ∈ itemNodes cur,
      writtenNumber subNode "threshold" k = writtenNumber subNode "threshold" k' ∧
        writtenNumber subNode "threshold_clr" k = writtenNumber subNode "threshold_clr" k'
  sameRanges : ∀ j j' name, AuxSensorAt cur j name → AuxSensorAt cur j' name →
    ∀ subNode ∈ itemNodes cur, writtenRange subNode j = writtenRange subNode j'

/-! ### What is read -/

section Reads

variable (conv : Conversions) (uninit : Uninit)

/-- A number is read from one of as many tokens as there are sensors. -/
def ReadsNumber (prop : String) (count i : Nat) (unset value : Int) (subNode : XmlNode) :
    Prop :=
  ∃ text tokens token, xmlGetProp subNode prop = some text ∧
    splitString text ',' = some tokens ∧ tokens.length = count ∧ tokens[i]? = some token ∧
    value = (conv.strToInt token).getD unset

def ReadsItem (count i : Nat) (subNode : XmlNode) (item : LevelItem) : Prop :=
  ReadsNumber conv "threshold" count i uninit.levelItem.threshold item.threshold subNode ∧
    ReadsNumber conv "threshold_clr" count i uninit.levelItem.thresholdClr item.thresholdClr subNode

def ReadsRange (j : Nat) (subNode : XmlNode) (item : AuxLevelItem) : Prop :=
  ∃ text tokens token lower upper rest, xmlGetProp subNode "aux_trigger_range" = some text ∧
    splitString text ',' = some tokens ∧ tokens[j]? = some token ∧
    splitString token '_' = some (lower :: upper :: rest) ∧
    item.lowerTemp = (conv.strToInt lower).getD uninit.auxLevelItem.lowerTemp ∧
    item.upperTemp = (conv.strToInt upper).getD uninit.auxLevelItem.upperTemp

end Reads

variable {conv : Conversions} {uninit : Uninit} {cur subNode : XmlNode}
  {sc sc' : ThermalConfigSensorCluster}

theorem Parsed.orFail_eq_ok {α : Type} {x : Option α} {a : α} :
    Parsed.orFail x = .ok a ↔ x = some a := by
  cases x with
  | none => exact iff_of_false nofun nofun
  | some b => exact ⟨fun h => congrArg some (Parsed.ok.inj h), fun h => by cases h; rfl⟩

theorem Parsed.orStuck_eq_ok {α : Type} {x : Option α} {a : α} :
    Parsed.orStuck x = .ok a ↔ x = some a := by
  cases x with
  | none => exact iff_of_false nofun nofun
  | some b => exact ⟨fun h => congrArg some (Parsed.ok.inj h), fun h => by cases h; rfl⟩

theorem readsItem_of_parseLevelThreshold {sensors : List String} {i : Nat} {item : LevelItem}
    (h : parseLevelThreshold conv uninit subNode sensors i = .ok item) :
    ReadsItem conv uninit sensors.length i subNode item := by
  rw [parseLevelThreshold] at h
  obtain ⟨xmlThreshold, hthreshold, h⟩ := Parsed.bind_eq_ok.mp h
  obtain ⟨thresholds, hthresholds, h⟩ := Parsed.bind_eq_ok.mp h
  obtain ⟨xmlThresholdClr, hthresholdClr, h⟩ := Parsed.bind_eq_ok.mp h
  obtain ⟨thresholdClrs, hthresholdClrs, h⟩ := Parsed.bind_eq_ok.mp h
  split at h
  case isTrue => cases h
  case isFalse hlengths =>
    simp only [Bool.or_eq_true, bne_iff_ne, ne_eq, not_or, not_not] at hlengths
    obtain ⟨xmlLevel, -, h⟩ := Parsed.bind_eq_ok.mp h
    obtain ⟨threshold, htoken, h⟩ := Parsed.bind_eq_ok.mp h
    obtain ⟨thresholdClr, htokenClr, h⟩ := Parsed.bind_eq_ok.mp h
    cases h
    exact ⟨⟨xmlThreshold, thresholds, threshold, Parsed.orFail_eq_ok.mp hthreshold,
        Parsed.orStuck_eq_ok.mp hthresholds, hlengths.1.symm, Parsed.orStuck_eq_ok.mp htoken, rfl⟩,
      ⟨xmlThresholdClr, thresholdClrs, thresholdClr, Parsed.orFail_eq_ok.mp hthresholdClr,
        Parsed.orStuck_eq_ok.mp hthresholdClrs, hlengths.2.symm,
        Parsed.orStuck_eq_ok.mp htokenClr, rfl⟩⟩

theorem parseSensorLevelInfo_reads {sensors : List String} {i : Nat} {rateFlag : Bool}
    {read : List LevelItem × Bool}
    (h : parseSensorLevelInfo conv uninit cur sensors i rateFlag = .ok read) :
    List.Forall₂ (ReadsItem conv uninit sensors.length i) (itemNodes cur) read.1 := by
  refine (Parsed.foldlM_collected Prod.fst (fun subNode => subNode.name == "item")
    (ReadsItem conv uninit sensors.length i) (fun read read' subNode hstep => ?step) h).elim
    fun taken hread => ?read
  case read =>
    rw [hread.1]
    exact hread.2
  case step =>
    by_cases hitem : (subNode.name == "item") = true
    · rw [if_pos hitem]
      rw [if_neg (by simpa using hitem)] at hstep
      obtain ⟨levelItem, hthreshold, hstep⟩ := Parsed.bind_eq_ok.mp hstep
      have hreads := readsItem_of_parseLevelThreshold hthreshold
      split at hstep
      · cases hstep
        exact ⟨levelItem, rfl, hreads⟩
      · obtain ⟨rates, -, hstep⟩ := Parsed.bind_eq_ok.mp hstep
        split at hstep
        · cases hstep
        · obtain ⟨rate, -, hstep⟩ := Parsed.bind_eq_ok.mp hstep
          cases hstep
          exact ⟨_, rfl, hreads⟩
    · rw [if_neg hitem]
      rw [if_pos (by simpa using hitem)] at hstep
      cases hstep
      rfl

theorem parseAuxSensorLevInfo_reads {auxsensors : List String} {j : Nat}
    {items : List AuxLevelItem}
    (h : parseAuxSensorLevInfo conv uninit cur auxsensors j = .ok items) :
    List.Forall₂ (ReadsRange conv uninit j) (itemNodes cur) items := by
  refine (Parsed.foldlM_collected id (fun subNode => subNode.name == "item")
    (ReadsRange conv uninit j) (fun read read' subNode hstep => ?step) h).elim
    fun taken hread => ?read
  case read =>
    rw [show items = taken from hread.1]
    exact hread.2
  case step =>
    by_cases hitem : (subNode.name == "item") = true
    · rw [if_pos hitem]
      rw [if_neg (by simpa using hitem)] at hstep
      obtain ⟨token, htoken, hstep⟩ := Parsed.bind_eq_ok.mp hstep
      obtain ⟨parts, hparts, hstep⟩ := Parsed.bind_eq_ok.mp hstep
      rw [parseAuxSensorTriggerRange] at htoken
      obtain ⟨text, htext, htoken⟩ := Parsed.bind_eq_ok.mp htoken
      split at htoken
      · cases htoken
      · obtain ⟨tokens, htokens, htoken⟩ := Parsed.bind_eq_ok.mp htoken
        split at htoken
        · cases htoken
        · split at hstep
          · obtain ⟨xmlLevel, -, hstep⟩ := Parsed.bind_eq_ok.mp hstep
            cases hstep
            exact ⟨_, rfl, text, tokens, token, _, _, _, Parsed.orFail_eq_ok.mp htext,
              Parsed.orStuck_eq_ok.mp htokens, Parsed.orStuck_eq_ok.mp htoken,
              Parsed.orStuck_eq_ok.mp hparts, rfl, rfl⟩
          · cases hstep
    · rw [if_neg hitem]
      rw [if_pos (by simpa using hitem)] at hstep
      cases hstep
      rfl

theorem exists_find_zipIdx {sensors : List String} {name : String} (h : name ∈ sensors) :
    ∃ i, sensors.zipIdx.find? (fun sensor => some sensor.1 == some name) = some (name, i) ∧
      sensors[i]? = some name := by
  obtain ⟨i, hi⟩ := List.mem_iff_getElem?.mp h
  have hsome : (sensors.zipIdx.find? fun sensor => some sensor.1 == some name).isSome :=
    List.find?_isSome.mpr ⟨(name, i), List.mem_zipIdx_iff_getElem?.mpr hi, beq_self_eq_true _⟩
  obtain ⟨⟨found, j⟩, hfind⟩ := Option.isSome_iff_exists.mp hsome
  obtain rfl : found = name := by simpa using List.find?_some hfind
  exact ⟨j, hfind, List.mem_zipIdx_iff_getElem?.mp (List.mem_of_find?_eq_some hfind)⟩

theorem parseSensorInfo_reads (h : parseSensorInfo conv uninit cur sc = .ok sc') :
    ∃ text sensors, xmlGetProp cur "sensor" = some text ∧ splitString text ',' = some sensors ∧
      sc'.auxSensorInfolist = sc.auxSensorInfolist ∧ ∀ name ∈ sensors, ∃ i items,
        sensors[i]? = some name ∧ sc'.sensorInfolist[name]? = some items ∧
        List.Forall₂ (ReadsItem conv uninit sensors.length i) (itemNodes cur) items := by
  rw [parseSensorInfo] at h
  obtain ⟨text, htext, h⟩ := Parsed.bind_eq_ok.mp h
  obtain ⟨sensors, hsensors, h⟩ := Parsed.bind_eq_ok.mp h
  split at h
  · cases h
  · obtain ⟨read, hloop, h⟩ := Parsed.bind_eq_ok.mp h
    cases h
    refine ⟨text, sensors, Parsed.orFail_eq_ok.mp htext, Parsed.orStuck_eq_ok.mp hsensors, rfl,
      fun name hname => ?_⟩
    obtain ⟨i, hfind, hi⟩ := exists_find_zipIdx hname
    refine (Parsed.foldlM_stored Prod.fst (fun sensor => some sensor.1)
      (fun sensor items => List.Forall₂ (ReadsItem conv uninit sensors.length sensor.2)
        (itemNodes cur) items) (fun read read' sensor hstep => ?step) hloop hfind (by simp)).elim
      fun items hread => ⟨i, items, hi, hread⟩
    case step =>
      obtain ⟨levelInfo, hlevelInfo, hstep⟩ := Parsed.bind_eq_ok.mp hstep
      split at hstep
      · cases hstep
      · cases hstep
        exact .inr ⟨sensor.1, levelInfo.1, rfl, rfl, parseSensorLevelInfo_reads hlevelInfo⟩

theorem parseAuxSensorInfo_reads (h : parseAuxSensorInfo conv uninit cur sc = .ok sc')
    {text : String} (htext : xmlGetProp cur "aux_sensor" = some text) :
    ∃ auxsensors, splitString text ',' = some auxsensors ∧ ∀ name ∈ auxsensors, ∃ j items,
      auxsensors[j]? = some name ∧ sc'.auxSensorInfolist[name]? = some items ∧
      List.Forall₂ (ReadsRange conv uninit j) (itemNodes cur) items := by
  rw [parseAuxSensorInfo, htext] at h
  obtain ⟨auxsensors, hauxsensors, h⟩ := Parsed.bind_eq_ok.mp h
  obtain ⟨auxSensorLevelInfo, hloop, h⟩ := Parsed.bind_eq_ok.mp h
  cases h
  refine ⟨auxsensors, Parsed.orStuck_eq_ok.mp hauxsensors, fun name hname => ?_⟩
  obtain ⟨j, hfind, hj⟩ := exists_find_zipIdx hname
  refine (Parsed.foldlM_stored id (fun sensor => some sensor.1)
    (fun sensor items => List.Forall₂ (ReadsRange conv uninit sensor.2) (itemNodes cur) items)
    (fun read read' sensor hstep => ?step) hloop hfind (by simp)).elim
    fun items hread => ⟨j, items, hj, hread⟩
  case step =>
    split at hstep
    · cases hstep
    · obtain ⟨auxLevelItems, hitems, hstep⟩ := Parsed.bind_eq_ok.mp hstep
      split at hstep
      · cases hstep
      · cases hstep
        exact .inr ⟨sensor.1, auxLevelItems, rfl, rfl, parseAuxSensorLevInfo_reads hitems⟩

theorem parseTempDiffInfo_reads (h : parseTempDiffInfo conv cur sc = .ok sc') :
    sc'.sensorInfolist = sc.sensorInfolist ∧ sc'.auxSensorInfolist = sc.auxSensorInfolist := by
  rw [parseTempDiffInfo] at h
  split at h
  · cases h
    exact ⟨rfl, rfl⟩
  · obtain ⟨sensors, -, h⟩ := Parsed.bind_eq_ok.mp h
    split at h
    · obtain ⟨infoList, -, h⟩ := Parsed.bind_eq_ok.mp h
      cases h
      exact ⟨rfl, rfl⟩
    · cases h

/-- What is stored for the sensors of an accepted cluster, and how it was read. -/
structure Reads (conv : Conversions) (uninit : Uninit) (cur : XmlNode)
    (sc : ThermalConfigSensorCluster) : Prop where
  sensors : ∃ text sensors, xmlGetProp cur "sensor" = some text ∧
    splitString text ',' = some sensors ∧ ∀ name ∈ sensors, ∃ i items,
      sensors[i]? = some name ∧ sc.sensorInfolist[name]? = some items ∧
      List.Forall₂ (ReadsItem conv uninit sensors.length i) (itemNodes cur) items
  auxSensors : ∀ text, xmlGetProp cur "aux_sensor" = some text →
    ∃ auxsensors, splitString text ',' = some auxsensors ∧ ∀ name ∈ auxsensors, ∃ j items,
      auxsensors[j]? = some name ∧ sc.auxSensorInfolist[name]? = some items ∧
      List.Forall₂ (ReadsRange conv uninit j) (itemNodes cur) items
  numbered : ∀ (name : String) (items : List LevelItem), sc.sensorInfolist[name]? = some items →
    Numbered items

theorem parseSensorCluster_reads (h : parseSensorCluster conv uninit cur = .ok sc) :
    Reads conv uninit cur sc := by
  have haccepted := parseSensorCluster_accepted h
  rw [parseSensorCluster] at h
  obtain ⟨sc₁, -, h⟩ := Parsed.bind_eq_ok.mp h
  obtain ⟨sc₂, haux, h⟩ := Parsed.bind_eq_ok.mp h
  obtain ⟨sc₃, hsensor, h⟩ := Parsed.bind_eq_ok.mp h
  obtain ⟨sc₄, htempDiff, h⟩ := Parsed.bind_eq_ok.mp h
  obtain ⟨hsensorsKept, hauxKept⟩ := parseTempDiffInfo_reads htempDiff
  obtain ⟨text, sensors, htext, hsplit, hauxBefore, hsensors⟩ := parseSensorInfo_reads hsensor
  have hsame : sc.sensorInfolist = sc₃.sensorInfolist ∧
      sc.auxSensorInfolist = sc₂.auxSensorInfolist := by
    dsimp only at h
    split at h
    · cases h
      exact ⟨hsensorsKept, hauxKept.trans hauxBefore⟩
    · cases h
  refine { sensors := ⟨text, sensors, htext, hsplit, ?sensors⟩, auxSensors := ?auxSensors,
           numbered := fun name items hitems => (haccepted.1.checks.1 name items hitems).2 }
  case sensors =>
    rw [hsame.1]
    exact hsensors
  case auxSensors =>
    rw [hsame.2]
    exact fun text htext => parseAuxSensorInfo_reads haux htext

/-! ### Meaning what it says -/

theorem forall₂_getElem? {α β : Type} {R : α → β → Prop} {entries : List α} {taken : List β}
    (h : List.Forall₂ R entries taken) {i : Nat} {a : α} (ha : entries[i]? = some a) :
    ∃ b, taken[i]? = some b ∧ R a b := by
  obtain ⟨hi, rfl⟩ := List.getElem?_eq_some_iff.mp ha
  have hi' : i < taken.length := h.length_eq ▸ hi
  exact ⟨taken[i], List.getElem?_eq_getElem hi', h.get hi hi'⟩

theorem writtenNumber_eq_some_iff {prop : String} {k : Nat} {value : Int} :
    writtenNumber subNode prop k = some value ↔
      ∃ text field, xmlGetProp subNode prop = some text ∧ (fields text ',')[k]? = some field ∧
        decimalInt32 field = some value := by
  simp only [writtenNumber, Option.bind_eq_bind, Option.bind_eq_some_iff]
  grind

theorem writtenRange_eq_some_iff {j : Nat} {range : Int × Int} :
    writtenRange subNode j = some range ↔
      ∃ text field lower upper, xmlGetProp subNode "aux_trigger_range" = some text ∧
        (fields text ',')[j]? = some field ∧ fields field '_' = [lower, upper] ∧
        decimalInt32 lower = some range.1 ∧ decimalInt32 upper = some range.2 := by
  simp only [writtenRange, Option.bind_eq_bind, Option.bind_eq_some_iff]
  constructor
  · rintro ⟨text, htext, field, hfield, hrange⟩
    split at hrange
    · rename_i lower upper hsplit
      obtain ⟨lowerTemp, hlower, upperTemp, hupper, heq⟩ := by
        simpa only [Option.bind_eq_some_iff] using hrange
      obtain rfl := Option.some.inj heq
      exact ⟨text, field, lower, upper, htext, hfield, hsplit, hlower, hupper⟩
    · cases hrange
  · rintro ⟨text, field, lower, upper, htext, hfield, hsplit, hlower, hupper⟩
    refine ⟨text, htext, field, hfield, ?_⟩
    rw [hsplit]
    dsimp only
    rw [hlower, hupper]
    rfl

theorem ne_empty_of_decimalInt32 {str : String} {value : Int}
    (h : decimalInt32 str = some value) : str ≠ "" := by
  rintro rfl
  revert h
  exact nofun

theorem ReadsNumber.written {prop : String} {sensors : List String} {text : String} {i : Nat}
    {unset value : Int} {name : String}
    (hread : ReadsNumber conv prop sensors.length i unset value subNode)
    (hconv : ∀ str, conv.strToInt str = decimalInt32 str)
    (htext : xmlGetProp cur "sensor" = some text)
    (hsensors : sensors = (fields text ',').filter fun field => field != "")
    (hname : sensors[i]? = some name)
    (hnumbers : ∀ k name, SensorAt cur k name → (writtenNumber subNode prop k).isSome) :
    ∃ k, SensorAt cur k name ∧ writtenNumber subNode prop k = some value := by
  obtain ⟨written, tokens, token, hwritten, htokens, hlength, htoken, hvalue⟩ := hread
  have hcovered : Alignment.Covered (fun field => field != "") (fun field => field != "")
      (fields text ',') (fields written ',') := by
    intro k other hother hne
    obtain ⟨number, hnumber⟩ := Option.isSome_iff_exists.mp
      (hnumbers k other ⟨text, htext, hother, by simpa using hne⟩)
    obtain ⟨_, field, hprop, hfield, hdecimal⟩ := writtenNumber_eq_some_iff.mp hnumber
    rw [hwritten] at hprop
    obtain rfl := Option.some.inj hprop
    exact ⟨field, hfield, by simpa using ne_empty_of_decimalInt32 hdecimal⟩
  have htokensEq := splitString_eq htokens
  subst hsensors htokensEq
  obtain ⟨k, field, hk, hfield, hbeside⟩ := hcovered.exists_beside hlength.symm hname
  obtain rfl := Option.some.inj (hbeside.symm.trans htoken)
  have hat : SensorAt cur k name := by
    refine ⟨text, htext, hk, ?_⟩
    simpa using (List.mem_filter.mp (List.mem_of_getElem? hname)).2
  refine ⟨k, hat, ?_⟩
  obtain ⟨number, hnumber⟩ := Option.isSome_iff_exists.mp (hnumbers k name hat)
  obtain ⟨_, found, hprop, hfound, hdecimal⟩ := writtenNumber_eq_some_iff.mp hnumber
  rw [hwritten] at hprop
  obtain rfl := Option.some.inj hprop
  obtain rfl := Option.some.inj (hfield.symm.trans hfound)
  rw [hnumber, hvalue, hconv, hdecimal]
  rfl

/-- With two numbers for every auxiliary sensor, the tokens are read where they are written. -/
theorem ReadsRange.written {auxsensors : List String} {text : String} {j : Nat}
    {item : AuxLevelItem} {name : String} (hread : ReadsRange conv uninit j subNode item)
    (hconv : ∀ str, conv.strToInt str = decimalInt32 str)
    (htext : xmlGetProp cur "aux_sensor" = some text)
    (hsensors : auxsensors = (fields text ',').filter fun field => field != "")
    (hname : auxsensors[j]? = some name)
    (hranges : ∀ j name, AuxSensorAt cur j name → (writtenRange subNode j).isSome) :
    writtenRange subNode j = some (item.lowerTemp, item.upperTemp) := by
  obtain ⟨written, tokens, token, lower, upper, rest, hwritten, htokens, htoken, hparts, hlower,
    hupper⟩ := hread
  -- every field up to this one is written, so none before it is empty
  have hfields : ∀ k, k < auxsensors.length → ∃ range, writtenRange subNode k = some range := by
    intro k hk
    refine Option.isSome_iff_exists.mp (hranges k auxsensors[k] ⟨text, htext, ?_⟩)
    rw [← hsensors]
    exact List.getElem?_eq_getElem hk
  have hj : j < auxsensors.length := (List.getElem?_eq_some_iff.mp hname).1
  have hleading : tokens[j]? = (fields written ',')[j]? := by
    rw [splitString_eq htokens]
    refine Alignment.getElem?_filter_of_leading (fun k hk => ?_) hj
    obtain ⟨range, hrange⟩ := hfields k hk
    obtain ⟨_, field, first, last, hprop, hfield, hsplit, -⟩ := writtenRange_eq_some_iff.mp hrange
    rw [hwritten] at hprop
    obtain rfl := Option.some.inj hprop
    refine ⟨field, hfield, ?_⟩
    rw [bne_iff_ne]
    rintro rfl
    cases hsplit
  obtain ⟨range, hrange⟩ := hfields j hj
  obtain ⟨_, field, first, last, hprop, hfield, hsplit, hfirst, hlast⟩ :=
    writtenRange_eq_some_iff.mp hrange
  rw [hwritten] at hprop
  obtain rfl := Option.some.inj hprop
  obtain rfl := Option.some.inj (htoken.symm.trans (hleading.trans hfield))
  have hboth := splitString_eq hparts
  rw [hsplit, List.filter_cons_of_pos (by simpa using ne_empty_of_decimalInt32 hfirst),
    List.filter_cons_of_pos (by simpa using ne_empty_of_decimalInt32 hlast)] at hboth
  obtain ⟨rfl, rfl, -⟩ : lower = first ∧ upper = last ∧ rest = [] := by simpa using hboth
  rw [hrange, hlower, hupper, hconv, hconv, hfirst, hlast]
  rfl

theorem SensorAt.mem {k : Nat} {name text : String} (h : SensorAt cur k name)
    (htext : xmlGetProp cur "sensor" = some text) :
    name ∈ (fields text ',').filter fun field => field != "" := by
  obtain ⟨_, htext', hk, hne⟩ := h
  obtain rfl := Option.some.inj (htext.symm.trans htext')
  exact List.mem_filter.mpr ⟨List.mem_of_getElem? hk, by simpa using hne⟩

theorem Reads.meansWhatItSays (hreads : Reads conv uninit cur sc)
    (hconv : ∀ str, conv.strToInt str = decimalInt32 str) (hwell : WellWritten cur) :
    MeansWhatItSays cur sc := by
  refine { sensors := ?sensors, auxSensors := ?auxSensors }
  case sensors =>
    intro k name hname
    obtain ⟨text, sensors, htext, hsplit, hsensors⟩ := hreads.sensors
    have hsensorsEq := splitString_eq hsplit
    obtain ⟨i, items, hi, hitems, hread⟩ := hsensors name (hsensorsEq ▸ hname.mem htext)
    refine ⟨items, hitems, fun n subNode hn => ?_⟩
    obtain ⟨item, hitem, hthreshold, hthresholdClr⟩ := forall₂_getElem? hread hn
    have hmem := List.mem_of_getElem? hn
    -- the tokens stand for some place of the sensor, and all its places have the same numbers
    obtain ⟨k₁, hk₁, hwritten⟩ := hthreshold.written hconv htext hsensorsEq hi
      fun k name hk => (hwell.numbers k name hk n subNode hn).1
    obtain ⟨k₂, hk₂, hwrittenClr⟩ := hthresholdClr.written hconv htext hsensorsEq hi
      fun k name hk => (hwell.numbers k name hk n subNode hn).2.1
    refine ⟨item, hitem, ?_, ?_, ?_⟩
    · rw [(hwell.sameNumbers k k₁ name hname hk₁ subNode hmem).1]
      exact hwritten
    · rw [(hwell.sameNumbers k k₂ name hname hk₂ subNode hmem).2]
      exact hwrittenClr
    · rw [(hwell.numbers k name hname n subNode hn).2.2,
        hreads.numbered name items hitems n item hitem]
  case auxSensors =>
    intro j name hname
    obtain ⟨text, htext, hj⟩ := hname
    obtain ⟨auxsensors, hsplit, hsensors⟩ := hreads.auxSensors text htext
    have hsensorsEq := splitString_eq hsplit
    obtain ⟨j₁, items, hj₁, hitems, hread⟩ :=
      hsensors name (hsensorsEq ▸ List.mem_of_getElem? hj)
    refine ⟨items, hitems, fun n subNode hn => ?_⟩
    obtain ⟨item, hitem, hrange⟩ := forall₂_getElem? hread hn
    have hmem := List.mem_of_getElem? hn
    refine ⟨item, hitem, ?_⟩
    rw [hwell.sameRanges j j₁ name ⟨text, htext, hj⟩ ⟨text, htext, hsensorsEq ▸ hj₁⟩ subNode hmem]
    exact hrange.written hconv htext hsensorsEq hj₁ fun k other hk =>
      hwell.ranges k other hk subNode hmem

theorem MeansWhatItSays.wellWritten (h : MeansWhatItSays cur sc)
    (hnumbered : ∀ (name : String) (items : List LevelItem),
      sc.sensorInfolist[name]? = some items → Numbered items) : WellWritten cur := by
  refine { numbers := ?numbers, ranges := ?ranges, sameNumbers := ?sameNumbers,
           sameRanges := ?sameRanges }
  case numbers =>
    intro k name hname i subNode hi
    obtain ⟨items, hitems, hitem⟩ := h.sensors k name hname
    obtain ⟨item, hitem, hthreshold, hthresholdClr, hlevel⟩ := hitem i subNode hi
    rw [hthreshold, hthresholdClr, hlevel, hnumbered name items hitems i item hitem]
    exact ⟨rfl, rfl, rfl⟩
  case ranges =>
    intro j name hname subNode hmem
    obtain ⟨i, hi⟩ := List.mem_iff_getElem?.mp hmem
    obtain ⟨items, -, hitem⟩ := h.auxSensors j name hname
    obtain ⟨item, -, hrange⟩ := hitem i subNode hi
    rw [hrange]
    rfl
  case sameNumbers =>
    intro k k' name hname hname' subNode hmem
    obtain ⟨i, hi⟩ := List.mem_iff_getElem?.mp hmem
    obtain ⟨items, hitems, hitem⟩ := h.sensors k name hname
    obtain ⟨items', hitems', hitem'⟩ := h.sensors k' name hname'
    obtain rfl := Option.some.inj (hitems.symm.trans hitems')
    obtain ⟨item, hstored, hthreshold, hthresholdClr, -⟩ := hitem i subNode hi
    obtain ⟨item', hstored', hthreshold', hthresholdClr', -⟩ := hitem' i subNode hi
    obtain rfl := Option.some.inj (hstored.symm.trans hstored')
    exact ⟨hthreshold.trans hthreshold'.symm, hthresholdClr.trans hthresholdClr'.symm⟩
  case sameRanges =>
    intro j j' name hname hname' subNode hmem
    obtain ⟨i, hi⟩ := List.mem_iff_getElem?.mp hmem
    obtain ⟨items, hitems, hitem⟩ := h.auxSensors j name hname
    obtain ⟨items', hitems', hitem'⟩ := h.auxSensors j' name hname'
    obtain rfl := Option.some.inj (hitems.symm.trans hitems')
    obtain ⟨item, hstored, hrange⟩ := hitem i subNode hi
    obtain ⟨item', hstored', hrange'⟩ := hitem' i subNode hi
    obtain rfl := Option.some.inj (hstored.symm.trans hstored')
    exact hrange.trans hrange'.symm

/-! ### The whole section -/

/-- The name of a node that describes a cluster. -/
def clusterName (cur : XmlNode) : Option String :=
  if cur.name == "sensor_cluster" then xmlGetProp cur "name" else none

def clusterNodes (node : XmlNode) : List XmlNode :=
  node.xmlChildrenNode.filter fun cur => cur.name == "sensor_cluster"

section Section

variable {node : XmlNode} {msc : SensorClusterMap}

theorem parseLevelNode_clusters (h : parseLevelNode conv uninit node = .ok msc)
    (hcur : cur ∈ clusterNodes node) : ∃ sc, parseSensorCluster conv uninit cur = .ok sc := by
  obtain ⟨hmem, hcluster⟩ := List.mem_filter.mp hcur
  obtain ⟨before, after, hturn⟩ := Parsed.foldlM_turn h hmem
  rw [if_neg (by simpa using hcluster)] at hturn
  obtain ⟨name, -, hturn⟩ := Parsed.bind_eq_ok.mp hturn
  obtain ⟨sc, hsc, -⟩ := Parsed.bind_eq_ok.mp hturn
  exact ⟨sc, hsc⟩

/-- The first cluster of a name is the one stored. -/
theorem parseLevelNode_stored (h : parseLevelNode conv uninit node = .ok msc) {name : String}
    (hfirst : node.xmlChildrenNode.find? (fun cur => clusterName cur == some name) = some cur) :
    ∃ sc, msc[name]? = some sc ∧ parseSensorCluster conv uninit cur = .ok sc := by
  refine Parsed.foldlM_stored id clusterName
    (fun cur sc => parseSensorCluster conv uninit cur = .ok sc) ?_ h hfirst (by simp)
  intro msc msc' cur hstep
  by_cases hcluster : (cur.name == "sensor_cluster") = true
  · rw [if_neg (by simpa using hcluster)] at hstep
    obtain ⟨name, hname, hstep⟩ := Parsed.bind_eq_ok.mp hstep
    obtain ⟨sc, hsc, hstep⟩ := Parsed.bind_eq_ok.mp hstep
    cases hstep
    refine .inr ⟨name, sc, ?_, rfl, hsc⟩
    rw [clusterName, if_pos hcluster]
    exact Parsed.orFail_eq_ok.mp hname
  · rw [if_pos (by simpa using hcluster)] at hstep
    cases hstep
    exact .inl ⟨if_neg hcluster, rfl⟩

/-- The clusters of an accepted section are stored, the first of each name. What is stored means
what the section says exactly when the section is well written. -/
theorem level_section_means_what_it_says_iff
    (hconv : ∀ str, conv.strToInt str = decimalInt32 str)
    (h : parseLevelNode conv uninit node = .ok msc) :
    (∀ name cur, node.xmlChildrenNode.find? (fun cur => clusterName cur == some name) = some cur →
      ∃ sc, msc[name]? = some sc ∧ parseSensorCluster conv uninit cur = .ok sc) ∧
    ((∀ cur ∈ clusterNodes node, ∃ sc, parseSensorCluster conv uninit cur = .ok sc ∧
      MeansWhatItSays cur sc) ↔ ∀ cur ∈ clusterNodes node, WellWritten cur) := by
  refine ⟨fun name cur hfirst => parseLevelNode_stored h hfirst, ?_⟩
  refine forall₂_congr fun cur hcur => ⟨?_, fun hwell => ?_⟩
  · rintro ⟨sc, hsc, hmeans⟩
    exact hmeans.wellWritten (parseSensorCluster_reads hsc).numbered
  · obtain ⟨sc, hsc⟩ := parseLevelNode_clusters h hcur
    exact ⟨sc, hsc, (parseSensorCluster_reads hsc).meansWhatItSays hconv hwell⟩

end Section

/-! ### Sections that are accepted -/

/-- `StrToInt` reads decimals of an `int32_t`. -/
def decimalConversions : Conversions where
  strToInt := decimalInt32
  trimStr := id
  strtod _ := ⟨.nan, [], false, false⟩

def unsetVariables : Uninit where
  levelItem := ⟨0, 0, .nan, 0⟩
  auxLevelItem := ⟨0, 0, 0⟩
  policyLevel := 0
  idleState := ⟨0, 0, 0, 0⟩
  faultNum := 0
  faultValue := 0

def levelItemNode (threshold : String) : XmlNode where
  name := "item"
  properties := [("threshold", threshold), ("threshold_clr", "38,36"), ("level", "1")]

/-- A cluster of two sensors with one item. -/
def twoSensorCluster (threshold : String) : XmlNode where
  name := "sensor_cluster"
  properties := [("name", "base"), ("sensor", "soc,battery")]
  xmlChildrenNode := [levelItemNode threshold]

def twoSensorSection (threshold : String) : XmlNode where
  name := "level"
  xmlChildrenNode := [twoSensorCluster threshold]

theorem sensorAt_twoSensorCluster {threshold name : String} {k : Nat}
    (h : SensorAt (twoSensorCluster threshold) k name) :
    (k = 0 ∧ name = "soc") ∨ (k = 1 ∧ name = "battery") := by
  obtain ⟨_, htext, hk, -⟩ := h
  obtain rfl := Option.some.inj htext
  rw [show fields "soc,battery" ',' = ["soc", "battery"] by decide] at hk
  rcases k with - | - | k
  · exact .inl ⟨rfl, (Option.some.inj hk).symm⟩
  · exact .inr ⟨rfl, (Option.some.inj hk).symm⟩
  · cases hk

theorem twoSensorCluster_wellWritten : WellWritten (twoSensorCluster "40,38") := by
  have hitem : ∀ (i : Nat) (subNode : XmlNode),
      (itemNodes (twoSensorCluster "40,38"))[i]? = some subNode →
      i = 0 ∧ subNode = levelItemNode "40,38" := by
    intro i subNode hi
    rcases i with - | i
    · exact ⟨rfl, (Option.some.inj hi).symm⟩
    · cases hi
  refine { numbers := ?numbers, ranges := ?ranges, sameNumbers := ?sameNumbers,
           sameRanges := ?sameRanges }
  case numbers =>
    intro k name hname i subNode hi
    obtain ⟨rfl, rfl⟩ := hitem i subNode hi
    rcases sensorAt_twoSensorCluster hname with ⟨rfl, -⟩ | ⟨rfl, -⟩ <;> decide
  case sameNumbers =>
    intro k k' name hname hname' subNode _
    rcases sensorAt_twoSensorCluster hname with ⟨rfl, rfl⟩ | ⟨rfl, rfl⟩ <;>
      rcases sensorAt_twoSensorCluster hname' with ⟨rfl, h⟩ | ⟨rfl, h⟩ <;>
      first | exact ⟨rfl, rfl⟩ | exact absurd h (by decide)
  case ranges =>
    rintro j name ⟨_, htext, -⟩
    cases htext
  case sameRanges =>
    rintro j j' name ⟨_, htext, -⟩
    cases htext

/-- A section that is well written is accepted and means what it says. -/
theorem twoSensorSection_means_what_it_says :
    ∃ msc, parseLevelNode decimalConversions unsetVariables (twoSensorSection "40,38") = .ok msc ∧
      ∀ cur ∈ clusterNodes (twoSensorSection "40,38"), ∃ sc,
        parseSensorCluster decimalConversions unsetVariables cur = .ok sc ∧
          MeansWhatItSays cur sc := by
  refine ⟨_, rfl, (level_section_means_what_it_says_iff (fun _ => rfl) rfl).2.mpr ?_⟩
  intro cur hcur
  obtain rfl := List.mem_singleton.mp hcur
  exact twoSensorCluster_wellWritten

/-- An empty field between the thresholds is skipped: the section is accepted, and the battery gets
the number that stands in no field of its own. -/
theorem skipped_field_shifts_threshold :
    ∃ msc, parseLevelNode decimalConversions unsetVariables (twoSensorSection "40,,38") =
        .ok msc ∧
      ¬ ∀ cur ∈ clusterNodes (twoSensorSection "40,,38"), ∃ sc,
        parseSensorCluster decimalConversions unsetVariables cur = .ok sc ∧
          MeansWhatItSays cur sc := by
  refine ⟨_, rfl, fun h => ?_⟩
  obtain ⟨sc, -, hmeans⟩ := h (twoSensorCluster "40,,38") List.mem_cons_self
  obtain ⟨items, -, hitems⟩ :=
    hmeans.sensors 1 "battery" ⟨"soc,battery", rfl, by decide, by decide⟩
  obtain ⟨item, -, hthreshold, -⟩ := hitems 0 (levelItemNode "40,,38") rfl
  have hnone : writtenNumber (levelItemNode "40,,38") "threshold" 1 = none := by decide
  exact Option.some_ne_none _ (hthreshold.symm.trans hnone)

end ThermalManager
