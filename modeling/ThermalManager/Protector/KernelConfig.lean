import ThermalManager.Config.LevelFields
import ThermalManager.Protector.KernelPolicy

/-!
# The configuration of the protector

`thermal_kernel_config_file.cpp`: the control section is read zone by zone. The entry of an item is
made from a variable that all items of its zone share, so it has the sub-nodes of the items before
as well. The list of entries is static and grows from one control section to the next.
-/

namespace ThermalManager

/-- What the variables that the parser declares without a value hold: an item, the level of a
`LevelAction` and the value of an `ActionItem`. -/
structure KernelUninit where
  tziItem : ThermalZoneInfoItem
  level : Nat
  value : Nat

namespace ThermalKernelConfigFile

variable (conv : Conversions) (uninit : KernelUninit)

/-! ### The items of a zone -/

def parseActionNode (subActionNode : XmlNode) : ProtectorActionItem where
  name := subActionNode.name
  value := (subActionNode.content.bind strToUint).getD uninit.value

def parseItem (subNode : XmlNode) : ThermalZoneInfoItem where
  threshold := ((xmlGetProp subNode "threshold").bind conv.strToInt).getD uninit.tziItem.threshold
  thresholdClr :=
    ((xmlGetProp subNode "threshold_clr").bind conv.strToInt).getD uninit.tziItem.thresholdClr
  level := ((xmlGetProp subNode "level").bind strToUint).getD uninit.tziItem.level

/-- The level is kept where the item has none; the actions are added. -/
def nextLevelAction (levelAction : LevelAction) (subNode : XmlNode) : LevelAction :=
  { levelAction with
    level := if (xmlGetProp subNode "level").isSome then (parseItem conv uninit subNode).level
      else levelAction.level
    vAction := levelAction.vAction ++ subNode.xmlChildrenNode.map (parseActionNode uninit) }

/-- The variables of `ParseSubNode` and the static list. -/
structure SubNodeState where
  tzItemList : List ThermalZoneInfoItem
  levelAction : LevelAction
  levelActionList : List LevelAction

def parseSubNodeStep (s : SubNodeState) (subNode : XmlNode) : SubNodeState :=
  if subNode.name != "item" then s
  else
    let levelAction := nextLevelAction conv uninit s.levelAction subNode
    { tzItemList := s.tzItemList ++ [parseItem conv uninit subNode]
      levelAction := levelAction
      levelActionList := s.levelActionList ++ [levelAction] }

def parseSubNode (cur : XmlNode) (type : String) (levelActionList : List LevelAction) :
    List ThermalZoneInfoItem × List LevelAction :=
  let s := cur.xmlChildrenNode.foldl (parseSubNodeStep conv uninit)
    { tzItemList := []
      levelAction := { name := type, level := uninit.level, vAction := [] }
      levelActionList := levelActionList }
  (s.tzItemList, s.levelActionList)

/-! ### The zones of a control section -/

def zoneType (cur : XmlNode) : String := (xmlGetProp cur "type").getD ""

def descendingOrder : String := "1"

/-- One zone of the loop. A type that is there already keeps its first zone. -/
def parseZoneNode (read : ThermalZoneMap × List LevelAction) (cur : XmlNode) :
    ThermalZoneMap × List LevelAction :=
  let items := parseSubNode conv uninit cur (zoneType cur) read.2
  let tzinfo : ProtectorThermalZoneInfo :=
    { interval := ((xmlGetProp cur "interval").bind conv.strToInt).getD 0
      multiple := 0
      desc := (xmlGetProp cur "desc").any fun value => conv.trimStr value == descendingOrder
      tzItemList := items.1 }
  (read.1.insertIfNew (zoneType cur) tzinfo, items.2)

/-- `levelActionList` is the static list as earlier calls have left it. -/
def parseControlNode (p : ThermalKernelPolicy) (levelActionList : List LevelAction)
    (node : XmlNode) : ThermalKernelPolicy × List LevelAction :=
  let read := node.xmlChildrenNode.foldl (parseZoneNode conv uninit) (∅, levelActionList)
  ({ p with tzInfoMap := read.1, levelAction := read.2 }, read.2)

/-! ### The entries as a function of the nodes -/

/-- The entries of the items, made from the variable one after the other. -/
def entriesFrom (levelAction : LevelAction) : List XmlNode → List LevelAction
  | [] => []
  | subNode :: subNodes =>
      nextLevelAction conv uninit levelAction subNode ::
        entriesFrom (nextLevelAction conv uninit levelAction subNode) subNodes

def zoneEntries (cur : XmlNode) : List LevelAction :=
  entriesFrom conv uninit { name := zoneType cur, level := uninit.level, vAction := [] }
    (itemNodes cur)

variable {conv uninit}

theorem length_entriesFrom (levelAction : LevelAction) (subNodes : List XmlNode) :
    (entriesFrom conv uninit levelAction subNodes).length = subNodes.length := by
  induction subNodes generalizing levelAction with
  | nil => rfl
  | cons subNode subNodes ih => exact congrArg Nat.succ (ih _)

theorem foldl_parseSubNodeStep (subNodes : List XmlNode) (s : SubNodeState) :
    (subNodes.foldl (parseSubNodeStep conv uninit) s).tzItemList =
        s.tzItemList ++
          (subNodes.filter fun subNode => subNode.name == "item").map (parseItem conv uninit) ∧
      (subNodes.foldl (parseSubNodeStep conv uninit) s).levelActionList =
        s.levelActionList ++ entriesFrom conv uninit s.levelAction
          (subNodes.filter fun subNode => subNode.name == "item") := by
  induction subNodes generalizing s with
  | nil => simp [entriesFrom]
  | cons subNode subNodes ih =>
    rw [List.foldl_cons, (ih _).1, (ih _).2, parseSubNodeStep]
    by_cases hname : subNode.name = "item"
    · simp [hname, entriesFrom]
    · simp [hname]

theorem parseSubNode_eq (cur : XmlNode) (type : String) (levelActionList : List LevelAction) :
    parseSubNode conv uninit cur type levelActionList =
      ((itemNodes cur).map (parseItem conv uninit),
        levelActionList ++ entriesFrom conv uninit
          { name := type, level := uninit.level, vAction := [] } (itemNodes cur)) :=
  Prod.ext ((foldl_parseSubNodeStep cur.xmlChildrenNode _).1.trans (List.nil_append _))
    (foldl_parseSubNodeStep cur.xmlChildrenNode _).2

theorem foldl_parseZoneNode (zones : List XmlNode) (read : ThermalZoneMap × List LevelAction) :
    (zones.foldl (parseZoneNode conv uninit) read).2 =
      read.2 ++ zones.flatMap (zoneEntries conv uninit) := by
  induction zones generalizing read with
  | nil => simp
  | cons cur zones ih =>
    rw [List.foldl_cons, ih, parseZoneNode, parseSubNode_eq, List.flatMap_cons, List.append_assoc]
    rfl

theorem parseControlNode_levelAction (p : ThermalKernelPolicy)
    (levelActionList : List LevelAction) (node : XmlNode) :
    (parseControlNode conv uninit p levelActionList node).1.levelAction =
      levelActionList ++ node.xmlChildrenNode.flatMap (zoneEntries conv uninit) :=
  foldl_parseZoneNode node.xmlChildrenNode (∅, levelActionList)

/-! ### One entry for each item -/

def IsAction (subActionNode : XmlNode) (action : ProtectorActionItem) : Prop :=
  action.name = subActionNode.name ∧
    subActionNode.content.bind strToUint = some action.value

/-- The entry has the level of the item and the item's own sub-nodes. -/
structure OwnEntry (type : String) (subNode : XmlNode) (entry : LevelAction) : Prop where
  name : entry.name = type
  level : (xmlGetProp subNode "level").bind strToUint = some entry.level
  vAction : List.Forall₂ IsAction subNode.xmlChildrenNode entry.vAction

/-- The items of all zones in document order, with the types of their zones. -/
def zoneItems (node : XmlNode) : List (String × XmlNode) :=
  node.xmlChildrenNode.flatMap fun cur => (itemNodes cur).map (zoneType cur, ·)

/-- The level and the values of the item's sub-nodes are numbers. -/
structure ReadableItem (subNode : XmlNode) : Prop where
  level : ((xmlGetProp subNode "level").bind strToUint).isSome
  values : ∀ subActionNode ∈ subNode.xmlChildrenNode,
    (subActionNode.content.bind strToUint).isSome

theorem isAction_parseActionNode {subActionNode : XmlNode} :
    IsAction subActionNode (parseActionNode uninit subActionNode) ↔
      (subActionNode.content.bind strToUint).isSome := by
  rw [IsAction, parseActionNode]
  cases subActionNode.content.bind strToUint with
  | none => simp
  | some value => simp

/-- The entry made from the variable is the item's own if the variable had no actions. -/
theorem ownEntry_nextLevelAction {levelAction : LevelAction} {subNode : XmlNode} :
    OwnEntry levelAction.name subNode (nextLevelAction conv uninit levelAction subNode) ↔
      ReadableItem subNode ∧ levelAction.vAction = [] := by
  have hvalues : List.Forall₂ IsAction subNode.xmlChildrenNode
      (subNode.xmlChildrenNode.map (parseActionNode uninit)) ↔
        ∀ subActionNode ∈ subNode.xmlChildrenNode,
          (subActionNode.content.bind strToUint).isSome := by
    rw [List.forall₂_map_right_iff, List.forall₂_same]
    exact forall₂_congr fun _ _ => isAction_parseActionNode
  constructor
  · intro h
    have hlength := h.vAction.length_eq
    rw [nextLevelAction, List.length_append, List.length_map] at hlength
    have hempty : levelAction.vAction = [] := List.length_eq_zero_iff.mp (by omega)
    refine ⟨{ level := ?level, values := hvalues.mp ?values }, hempty⟩
    case level =>
      rw [h.level]
      rfl
    case values =>
      have hown := h.vAction
      rwa [nextLevelAction, hempty, List.nil_append] at hown
  · intro h
    obtain ⟨hreadable, hempty⟩ := h
    obtain ⟨level, hlevel⟩ := Option.isSome_iff_exists.mp hreadable.level
    obtain ⟨text, htext, -⟩ := Option.bind_eq_some_iff.mp hlevel
    refine { name := rfl, level := ?level, vAction := ?vAction }
    case level =>
      rw [nextLevelAction, parseItem, hlevel, htext]
      rfl
    case vAction =>
      rw [nextLevelAction, hempty, List.nil_append]
      exact hvalues.mpr hreadable.values

/-- The induction is over the items of a zone; the variable carries the sub-nodes of all items but
the last into the entries after them. -/
theorem forall₂_entriesFrom {levelAction : LevelAction} {subNodes : List XmlNode} :
    List.Forall₂ (OwnEntry levelAction.name) subNodes
        (entriesFrom conv uninit levelAction subNodes) ↔
      (∀ subNode ∈ subNodes, ReadableItem subNode) ∧
        (subNodes ≠ [] → levelAction.vAction = []) ∧
        ∀ subNode ∈ subNodes.dropLast, subNode.xmlChildrenNode = [] := by
  induction subNodes generalizing levelAction with
  | nil => simp [entriesFrom]
  | cons subNode subNodes ih =>
    have hrest := @ih (nextLevelAction conv uninit levelAction subNode)
    have hactions : (nextLevelAction conv uninit levelAction subNode).vAction = [] ↔
        levelAction.vAction = [] ∧ subNode.xmlChildrenNode = [] := by
      rw [nextLevelAction, List.append_eq_nil_iff, List.map_eq_nil_iff]
    rw [entriesFrom, List.forall₂_cons, ownEntry_nextLevelAction]
    show _ ∧ List.Forall₂ (OwnEntry (nextLevelAction conv uninit levelAction subNode).name) _ _ ↔ _
    rw [hrest, hactions, List.forall_mem_cons]
    cases subNodes with
    | nil => simp
    | cons next subNodes =>
      have hne := List.cons_ne_nil next subNodes
      have hne' := List.cons_ne_nil subNode (next :: subNodes)
      rw [List.dropLast_cons_cons]
      constructor
      · intro h
        obtain ⟨⟨hreadable, hempty⟩, hall, hown, hlast⟩ := h
        exact ⟨⟨hreadable, hall⟩, fun _ => hempty, List.forall_mem_cons.mpr ⟨(hown hne).2, hlast⟩⟩
      · intro h
        obtain ⟨⟨hreadable, hall⟩, hempty, hlast⟩ := h
        obtain ⟨hown, hlast⟩ := List.forall_mem_cons.mp hlast
        exact ⟨⟨hreadable, hempty hne'⟩, hall, fun _ => ⟨hempty hne', hown⟩, hlast⟩

/-! ### What a level triggers -/

/-- The list has one entry for each item, with the type of the zone, the level of the item and the
item's own sub-nodes, so that a level triggers only sub-nodes of the items with that level. -/
structure PerLevel (node : XmlNode) (p : ThermalKernelPolicy) : Prop where
  entries : List.Forall₂ (fun item entry => OwnEntry item.1 item.2 entry) (zoneItems node)
    p.levelAction
  triggers : ∀ (registered : String → Bool) (levelMap : Map String Nat),
    ∀ action ∈ (ThermalKernelPolicy.policyDecision registered
        { p with levelMap := levelMap }).2.1,
      ∃ item ∈ zoneItems node, ∃ level, levelMap[item.1]? = some level ∧
        (xmlGetProp item.2 "level").bind strToUint = some level ∧
        ∃ subActionNode ∈ item.2.xmlChildrenNode, IsAction subActionNode action

theorem perLevel_iff_entries {node : XmlNode} {p : ThermalKernelPolicy} :
    PerLevel node p ↔ List.Forall₂ (fun item entry => OwnEntry item.1 item.2 entry)
      (zoneItems node) p.levelAction := by
  refine ⟨PerLevel.entries, fun hentries => ⟨hentries, ?_⟩⟩
  intro registered levelMap action hmem
  rw [ThermalKernelPolicy.policyDecision_values] at hmem
  obtain ⟨entry, hselected, haction⟩ := List.mem_flatMap.mp (List.mem_filter.mp hmem).1
  obtain ⟨hentry, hlevel⟩ := List.mem_filter.mp hselected
  obtain ⟨item, hitem, hown⟩ := Alignment.exists_of_mem_right hentries hentry
  refine ⟨item, hitem, entry.level, ?_, hown.level, ?_⟩
  · rw [← hown.name]
    exact beq_iff_eq.mp hlevel
  · exact Alignment.exists_of_mem_right hown.vAction haction

theorem forall₂_zoneEntries (cur : XmlNode) :
    List.Forall₂ (fun item entry => OwnEntry item.1 item.2 entry)
        ((itemNodes cur).map (zoneType cur, ·)) (zoneEntries conv uninit cur) ↔
      (∀ subNode ∈ itemNodes cur, ReadableItem subNode) ∧
        ∀ subNode ∈ (itemNodes cur).dropLast, subNode.xmlChildrenNode = [] := by
  rw [List.forall₂_map_left_iff]
  show List.Forall₂ (OwnEntry (LevelAction.name ⟨zoneType cur, uninit.level, []⟩)) _
    (entriesFrom conv uninit ⟨zoneType cur, uninit.level, []⟩ _) ↔ _
  rw [forall₂_entriesFrom]
  exact and_congr_right fun _ => and_iff_right fun _ => rfl

theorem length_zoneEntries (cur : XmlNode) :
    ((itemNodes cur).map (zoneType cur, ·)).length = (zoneEntries conv uninit cur).length := by
  rw [List.length_map, zoneEntries, length_entriesFrom]

theorem forall_zoneItems_iff {node : XmlNode} {ReadsItem : XmlNode → Prop} :
    (∀ item ∈ zoneItems node, ReadsItem item.2) ↔
      ∀ cur ∈ node.xmlChildrenNode, ∀ subNode ∈ itemNodes cur, ReadsItem subNode := by
  simp only [zoneItems, List.mem_flatMap, List.mem_map]
  constructor
  · intro h cur hcur subNode hsubNode
    exact h (zoneType cur, subNode) ⟨cur, hcur, subNode, hsubNode, rfl⟩
  · intro h item hitem
    obtain ⟨cur, hcur, subNode, hsubNode, rfl⟩ := hitem
    exact h cur hcur subNode hsubNode

theorem forall₂_zones (node : XmlNode) :
    List.Forall₂ (fun item entry => OwnEntry item.1 item.2 entry) (zoneItems node)
        (node.xmlChildrenNode.flatMap (zoneEntries conv uninit)) ↔
      (∀ item ∈ zoneItems node, ReadableItem item.2) ∧
        ∀ cur ∈ node.xmlChildrenNode, ∀ subNode ∈ (itemNodes cur).dropLast,
          subNode.xmlChildrenNode = [] := by
  rw [forall_zoneItems_iff, ← forall₂_and]
  exact (Alignment.forall₂_flatMap_iff node.xmlChildrenNode length_zoneEntries).trans
    (forall₂_congr fun cur _ => forall₂_zoneEntries cur)

/-- Entries that an earlier section has left are too many. -/
theorem nil_of_forall₂_append {node : XmlNode} {levelActionList : List LevelAction}
    (hentries : List.Forall₂ (fun item entry => OwnEntry item.1 item.2 entry) (zoneItems node)
      (levelActionList ++ node.xmlChildrenNode.flatMap (zoneEntries conv uninit))) :
    levelActionList = [] := by
  have htotal : (zoneItems node).length =
      (node.xmlChildrenNode.flatMap (zoneEntries conv uninit)).length := by
    rw [zoneItems, List.length_flatMap, List.length_flatMap, List.map_congr_left]
    exact fun cur _ => length_zoneEntries cur
  have happend := hentries.length_eq
  rw [List.length_append] at happend
  exact List.length_eq_zero_iff.mp (by omega)

/-- The entries are per level exactly if the static list was empty, the levels and the values are
numbers, and no item but the last of its zone has sub-nodes. -/
theorem per_level_iff (p : ThermalKernelPolicy) (levelActionList : List LevelAction)
    (node : XmlNode) :
    PerLevel node (parseControlNode conv uninit p levelActionList node).1 ↔
      levelActionList = [] ∧ (∀ item ∈ zoneItems node, ReadableItem item.2) ∧
        ∀ cur ∈ node.xmlChildrenNode, ∀ subNode ∈ (itemNodes cur).dropLast,
          subNode.xmlChildrenNode = [] := by
  rw [perLevel_iff_entries, parseControlNode_levelAction]
  constructor
  · intro h
    have hempty := nil_of_forall₂_append h
    rw [hempty, List.nil_append] at h
    exact ⟨hempty, (forall₂_zones node).mp h⟩
  · intro h
    rw [h.1, List.nil_append]
    exact (forall₂_zones node).mpr h.2

/-- Two levels with an action each, as in the zones that the repository ships. -/
def twoLevels : XmlNode where
  name := "control"
  xmlChildrenNode := [
    { name := "thermal_zone"
      properties := [("type", "soc-thermal"), ("interval", "2000")]
      xmlChildrenNode := [
        { name := "item"
          properties := [("level", "1"), ("threshold", "35000"), ("threshold_clr", "32000")]
          xmlChildrenNode := [{ name := "cpu", content := some "998000" }] },
        { name := "item"
          properties := [("level", "2"), ("threshold", "40000"), ("threshold_clr", "37000")]
          xmlChildrenNode := [{ name := "current", content := some "1500" }] }] }]

def unsetItem : KernelUninit where
  tziItem := ⟨0, 0, 0⟩
  level := 0
  value := 0

/-- The second entry has the action of the first level too. -/
theorem twoLevels_not_per_level :
    ¬ ∀ (conv : Conversions) (uninit : KernelUninit) (p : ThermalKernelPolicy) (node : XmlNode),
      PerLevel node (parseControlNode conv uninit p [] node).1 := by
  intro h
  have hentries := (h decimalConversions unsetItem ⟨∅, ∅, ∅, [], []⟩ twoLevels).entries
  rw [parseControlNode_levelAction] at hentries
  cases hentries with
  | cons hfirst hrest =>
    cases hrest with
    | cons hsecond _ => exact absurd hsecond.vAction.length_eq (by decide)

end ThermalKernelConfigFile

end ThermalManager
