import ThermalManager.Config.ServiceConfig
import ThermalManager.Policy.Arbitration
import ThermalManager.Lib.Fanout

/-!
# The actions of a configuration

`thermal_action_manager.cpp` and `thermal_action_factory.cpp`: the items of the configuration become
the registered actions. A name keeps the action of its first item; the clients of the thermal level
are served by the action of the last item that is called so.
-/

namespace ThermalManager

open StepSystem

def thermalLevelName : String := "thermallevel"

/-- What the factory makes. The values of two of the classes are floating-point numbers. -/
inductive CreatedAction
  | integerValued (cls : ActionClass)
  | actionDisplay
  | actionVolume

namespace CreatedAction

def integerValued? : CreatedAction → Option ActionClass
  | integerValued cls => some cls
  | _ => none

end CreatedAction

namespace ThermalActionFactory

/-- `ThermalActionFactory::Create` followed by `InitParams`. The outer `Option` is the factory's
null pointer, the inner one a call that does not return. -/
def create (actionClass params : String) : Option (Option CreatedAction) :=
  if actionClass = "lcd" then some (some .actionDisplay)
  else if actionClass = "volume" then some (some .actionVolume)
  else (createAction actionClass params).map (Option.map .integerValued)

/-- The classes whose constructor enters the name of the action in `SocSet`. -/
def socClasses : List String :=
  ["cpu_big", "cpu_med", "cpu_lit", "gpu", "boost", "isolate", "nonvip", "socperf",
    "socperf_resource"]

end ThermalActionFactory

open ThermalActionFactory

/-- The name that the action is made by. -/
def ActionItem.actionClass (item : ActionItem) : String :=
  if item.name = thermalLevelName then thermalLevelName
  else if item.protocol ≠ "" then item.protocol
  else item.name

/-- An action with the number of the item that it was made from. -/
structure RegisteredAction where
  item : Nat
  cls : CreatedAction
  isStrict : Bool
  enableEvent : Bool

structure ThermalActionManager where
  actionMap : Map String RegisteredAction := ∅
  actionThermalLevel : Option Nat := none
  socSet : List String := []

namespace ThermalActionManager

/-- One turn of the loop of `Init`; nothing if it does not return. -/
def addItem (m : ThermalActionManager) (numbered : ActionItem × Nat) :
    Option ThermalActionManager :=
  match create numbered.1.actionClass numbered.1.params with
  | none => some m
  | some none => none
  | some (some cls) => some {
      actionMap := m.actionMap.insertIfNew numbered.1.name
        ⟨numbered.2, cls, numbered.1.strict, numbered.1.enableEvent⟩
      actionThermalLevel := if numbered.1.name = thermalLevelName then some numbered.2
        else m.actionThermalLevel
      socSet := if numbered.1.actionClass ∈ socClasses then m.socSet.insert numbered.1.name
        else m.socSet }

def init (vActionItem : List ActionItem) : Option ThermalActionManager :=
  vActionItem.zipIdx.foldlM addItem {}

def registered (m : ThermalActionManager) : Map String (ActionClass × Bool) :=
  m.actionMap.filterMap fun _ action =>
    action.cls.integerValued?.map fun cls => (cls, action.isStrict)

/-! ### What the loop leaves -/

def made (numbered : ActionItem × Nat) : Option RegisteredAction :=
  match create numbered.1.actionClass numbered.1.params with
  | some (some cls) => some ⟨numbered.2, cls, numbered.1.strict, numbered.1.enableEvent⟩
  | _ => none

/-- The items that are called as the thermal level is. -/
def levelItems (items : List (ActionItem × Nat)) : List (ActionItem × Nat) :=
  items.filter fun numbered => decide (numbered.1.name = thermalLevelName)

/-- The manager is what the items make it. -/
structure MadeFrom (items : List (ActionItem × Nat)) (m : ThermalActionManager) : Prop where
  actionMap : ∀ name : String, m.actionMap[name]? =
    items.findSome? fun numbered => if numbered.1.name = name then made numbered else none
  actionThermalLevel : m.actionThermalLevel = (levelItems items).getLast?.map Prod.snd
  socSet : ∀ name : String, name ∈ m.socSet ↔
    ∃ numbered ∈ items, numbered.1.name = name ∧ numbered.1.actionClass ∈ socClasses
  returns : ∀ numbered ∈ items, create numbered.1.actionClass numbered.1.params ≠ some none

variable {m m' : ThermalActionManager} {items : List (ActionItem × Nat)}
  {numbered : ActionItem × Nat}

theorem create_actionClass {item : ActionItem} (h : item.name = thermalLevelName) :
    create item.actionClass item.params =
      some (some (.integerValued ThermalManager.actionThermalLevel)) := by
  rw [ActionItem.actionClass, if_pos h]
  rfl

theorem create_isSome_of_soc {actionClass params : String} (h : actionClass ∈ socClasses) :
    (create actionClass params).isSome := by
  simp only [socClasses, List.mem_cons, List.not_mem_nil, or_false] at h
  rcases h with rfl | rfl | rfl | rfl | rfl | rfl | rfl | rfl | rfl <;> rfl

theorem addItem_spec (h : m.addItem numbered = some m') :
    (∀ name : String, m'.actionMap[name]? = (m.actionMap[name]?).or
      (if numbered.1.name = name then made numbered else none)) ∧
    m'.actionThermalLevel =
      (if numbered.1.name = thermalLevelName then some numbered.2 else m.actionThermalLevel) ∧
    (∀ name : String, name ∈ m'.socSet ↔ name ∈ m.socSet ∨
      numbered.1.name = name ∧ numbered.1.actionClass ∈ socClasses) ∧
    create numbered.1.actionClass numbered.1.params ≠ some none := by
  rw [addItem] at h
  rw [made]
  cases hcreate : create numbered.1.actionClass numbered.1.params with
  | none =>
    rw [hcreate] at h
    obtain rfl := Option.some.inj h
    have hlevel : numbered.1.name ≠ thermalLevelName := by
      intro hname
      rw [create_actionClass hname] at hcreate
      cases hcreate
    have hsoc : numbered.1.actionClass ∉ socClasses := by
      intro hmem
      have hsome : (create numbered.1.actionClass numbered.1.params).isSome :=
        create_isSome_of_soc hmem
      rw [hcreate] at hsome
      cases hsome
    refine ⟨fun name => ?_, (if_neg hlevel).symm, fun name => ?_, nofun⟩
    · rw [ite_self, Option.or_none]
    · exact (or_iff_left fun hboth => hsoc hboth.2).symm
  | some created =>
    rw [hcreate] at h
    cases created with
    | none => cases h
    | some cls =>
      obtain rfl := Option.some.inj h
      refine ⟨fun name => Fanout.getElem?_insertIfNew_or _ _ _ _, rfl, fun name => ?_, nofun⟩
      dsimp only
      split
      case isTrue hmem => simp [hmem, or_comm, eq_comm]
      case isFalse hmem => exact (or_iff_left fun hboth => hmem hboth.2).symm

theorem madeFrom_init {vActionItem : List ActionItem} (h : init vActionItem = some m) :
    MadeFrom vActionItem.zipIdx m := by
  have hloop : ∀ items : List (ActionItem × Nat), ∀ m, items.foldlM addItem {} = some m →
      MadeFrom items m := by
    intro items
    induction items using List.reverseRecOn with
    | nil =>
      intro m h
      obtain rfl := Option.some.inj h
      exact ⟨fun _ => rfl, rfl, fun _ => by simp, nofun⟩
    | append_singleton items numbered ih =>
      intro m h
      rw [List.foldlM_append] at h
      obtain ⟨mid, hmid, hlast⟩ := Option.bind_eq_some_iff.mp h
      rw [List.foldlM_cons] at hlast
      obtain ⟨last, hturn, hnil⟩ := Option.bind_eq_some_iff.mp hlast
      obtain rfl := Option.some.inj hnil
      obtain ⟨hmap, hlevel, hsoc, hreturns⟩ := addItem_spec hturn
      have hbefore := ih mid hmid
      constructor
      case actionMap =>
        intro name
        rw [hmap, hbefore.actionMap, List.findSome?_append]
        simp
      case actionThermalLevel =>
        rw [hlevel, hbefore.actionThermalLevel, levelItems, levelItems, List.filter_append,
          List.getLast?_append]
        by_cases hname : numbered.1.name = thermalLevelName <;> simp [hname]
      case socSet =>
        intro name
        rw [hsoc, hbefore.socSet]
        simp [or_and_right, exists_or]
      case returns =>
        intro other hother
        rcases List.mem_append.mp hother with hold | hnew
        · exact hbefore.returns other hold
        · rw [List.mem_singleton.mp hnew]
          exact hreturns
  exact hloop _ m h

/-! ### First and last -/

section Items

variable {vActionItem : List ActionItem} {item : ActionItem}

theorem actionMap_first (h : MadeFrom vActionItem.zipIdx m) {name : String}
    {action : RegisteredAction} :
    m.actionMap[name]? = some action ↔ ∃ before item after,
      vActionItem = before ++ item :: after ∧ item.name = name ∧
      made (item, before.length) = some action ∧
      ∀ other ∈ before, other.name = name → create other.actionClass other.params = none := by
  rw [h.actionMap, List.findSome?_eq_some_iff]
  constructor
  · intro hfound
    obtain ⟨first, numbered, rest, hsplit, hmade, hnone⟩ := hfound
    obtain ⟨before, tail, rfl, rfl, htail⟩ := List.zipIdx_eq_append_iff.mp hsplit
    obtain ⟨item, after, rfl, rfl, rfl⟩ := List.zipIdx_eq_cons_iff.mp htail.symm
    rw [Option.ite_none_right_eq_some, Nat.zero_add] at hmade
    refine ⟨before, item, after, rfl, hmade.1, hmade.2, ?_⟩
    intro other hother hname
    obtain ⟨i, hi, heq⟩ := List.getElem_of_mem hother
    have hmem : (other, i) ∈ before.zipIdx :=
      List.mk_mem_zipIdx_iff_getElem?.mpr (heq ▸ List.getElem?_eq_getElem hi)
    have hreturns := h.returns (other, i) (hsplit ▸ List.mem_append_left _ hmem)
    have hnone := hnone (other, i) hmem
    rw [if_pos hname, made] at hnone
    cases hcreate : create other.actionClass other.params with
    | none => rfl
    | some created =>
      dsimp only at hreturns hnone
      rw [hcreate] at hreturns hnone
      cases created with
      | none => exact absurd rfl hreturns
      | some cls => cases hnone
  · intro hfirst
    obtain ⟨before, item, after, rfl, rfl, hmade, hnone⟩ := hfirst
    refine ⟨before.zipIdx, (item, before.length), after.zipIdx (before.length + 1), ?_, ?_, ?_⟩
    · rw [List.zipIdx_append, List.zipIdx_cons, Nat.zero_add]
    · rw [if_pos rfl]
      exact hmade
    · intro numbered hmem
      split
      case isFalse => rfl
      case isTrue hname =>
        rw [made, hnone numbered.1 (List.fst_mem_of_mem_zipIdx hmem) hname]

/-- The number of the action that a name has, if its items make one each. -/
theorem actionMap_thermalLevelName (h : MadeFrom vActionItem.zipIdx m) :
    (m.actionMap[thermalLevelName]?).map RegisteredAction.item =
      (levelItems vActionItem.zipIdx).head?.map Prod.snd := by
  have hmade : ∀ numbered : ActionItem × Nat, numbered.1.name = thermalLevelName →
      (made numbered).map RegisteredAction.item = some numbered.2 := by
    intro numbered hname
    rw [made, create_actionClass hname]
    rfl
  rw [h.actionMap, levelItems, List.head?_filter]
  induction vActionItem.zipIdx with
  | nil => rfl
  | cons numbered rest ih =>
    rw [List.findSome?_cons, List.find?_cons]
    by_cases hname : numbered.1.name = thermalLevelName
    · have hitem := hmade numbered hname
      obtain ⟨action, haction, -⟩ := Option.map_eq_some_iff.mp hitem
      rw [if_pos hname, decide_eq_true hname]
      rw [haction] at hitem ⊢
      exact hitem
    · rw [if_neg hname, decide_eq_false hname]
      exact ih

theorem length_levelItems (vActionItem : List ActionItem) :
    (levelItems vActionItem.zipIdx).length =
      vActionItem.countP fun item => decide (item.name = thermalLevelName) := by
  rw [levelItems, ← List.countP_eq_length_filter]
  conv_rhs => rw [← List.zipIdx_map_fst 0 vActionItem, List.countP_map]
  rfl

/-- In a list without repetition the first and the last are the same if there is no other. -/
theorem head?_eq_getLast?_iff {numbers : List Nat} (hnodup : numbers.Nodup)
    (hne : numbers ≠ []) : numbers.getLast? = numbers.head? ↔ numbers.length = 1 := by
  cases numbers with
  | nil => exact absurd rfl hne
  | cons first rest =>
    cases rest with
    | nil => simp
    | cons second others =>
      apply iff_of_false
      · intro heq
        rw [List.getLast?_cons_cons, List.head?_cons] at heq
        exact (List.nodup_cons.mp hnodup).1 (List.mem_of_getLast? heq)
      · simp

/-- **The items of a configuration.** A name has the action of its first item that the factory
knows, and `SocSet` has the names of the items of its classes. If an item is called after the
thermal level, its clients are served by the registered action exactly if no other item is. -/
theorem init_registers (h : init vActionItem = some m) :
    (∀ (name : String) (action : RegisteredAction), m.actionMap[name]? = some action ↔
      ∃ before item after, vActionItem = before ++ item :: after ∧ item.name = name ∧
        made (item, before.length) = some action ∧
        ∀ other ∈ before, other.name = name → create other.actionClass other.params = none) ∧
    (∀ name : String, name ∈ m.socSet ↔
      ∃ item ∈ vActionItem, item.name = name ∧ item.actionClass ∈ socClasses) ∧
    ((∃ item ∈ vActionItem, item.name = thermalLevelName) →
      (m.actionThermalLevel = (m.actionMap[thermalLevelName]?).map RegisteredAction.item ↔
        (vActionItem.countP fun item => decide (item.name = thermalLevelName)) = 1)) := by
  have hmade := madeFrom_init h
  refine ⟨fun name action => actionMap_first hmade, fun name => ?_, fun hlevel => ?_⟩
  · rw [hmade.socSet]
    constructor
    · intro hentered
      obtain ⟨numbered, hmem, hitem⟩ := hentered
      exact ⟨numbered.1, List.fst_mem_of_mem_zipIdx hmem, hitem⟩
    · intro hentered
      obtain ⟨item, hmem, hitem⟩ := hentered
      rw [← List.zipIdx_map_fst 0 vActionItem] at hmem
      obtain ⟨numbered, hnumbered, rfl⟩ := List.mem_map.mp hmem
      exact ⟨numbered, hnumbered, hitem⟩
  · rw [hmade.actionThermalLevel, actionMap_thermalLevelName hmade, ← length_levelItems,
      ← List.getLast?_map, ← List.head?_map, ← List.length_map (f := Prod.snd)]
    apply head?_eq_getLast?_iff
    · have hnodup : (vActionItem.zipIdx.map Prod.snd).Nodup := by
        rw [List.zipIdx_map_snd]
        exact List.nodup_range'
      exact hnodup.sublist (List.filter_sublist.map Prod.snd)
    · obtain ⟨item, hmem, hname⟩ := hlevel
      rw [← List.length_pos_iff, List.length_map, length_levelItems, List.countP_pos_iff]
      exact ⟨item, hmem, decide_eq_true hname⟩

end Items

/-- The thermal level is configured twice, and the big cores by a name of their own. -/
def levelTwice : List ActionItem :=
  [{ name := "thermallevel" }, { name := "cores", protocol := "cpu_big", strict := true },
    { name := "unknown" }, { name := "thermallevel", strict := true }]

theorem levelTwice_registers : ∃ m, init levelTwice = some m ∧
    m.actionMap["cores"]? = some ⟨1, .integerValued actionCpuBig, true, false⟩ ∧
    "cores" ∈ m.socSet ∧
    m.actionThermalLevel ≠ (m.actionMap[thermalLevelName]?).map RegisteredAction.item := by
  obtain ⟨m, hinit⟩ : ∃ m, init levelTwice = some m := ⟨_, rfl⟩
  obtain ⟨hactions, hsoc, hclients⟩ := init_registers hinit
  refine ⟨m, hinit, ?_, ?_, ?_⟩
  · apply (hactions _ _).mpr
    exact ⟨[{ name := "thermallevel" }], _, _, rfl, rfl, rfl, by decide⟩
  · apply (hsoc _).mpr
    exact ⟨{ name := "cores", protocol := "cpu_big", strict := true }, by decide, rfl, by decide⟩
  · intro heq
    have hcount := (hclients ⟨{ name := "thermallevel" }, by decide, rfl⟩).mp heq
    revert hcount
    decide

/-! ### Items with a name of their own -/

def OnlyItem (vActionItem : List ActionItem) (item : ActionItem) : Prop :=
  (vActionItem.filter fun other => decide (other.name = item.name)) = [item]

/-- One item makes a thermal level, and it is called so. -/
def OneThermalLevel (vActionItem : List ActionItem) (item : ActionItem) : Prop :=
  (vActionItem.filter fun item => decide (item.actionClass = thermalLevelName)) = [item] ∧
    item.name = thermalLevelName

section OnlyItem

variable {vActionItem : List ActionItem} {item : ActionItem}

theorem OnlyItem.filter_zipIdx (honly : OnlyItem vActionItem item) : ∃ i,
    (vActionItem.zipIdx.filter fun numbered => decide (numbered.1.name = item.name)) =
      [(item, i)] := by
  rw [OnlyItem, ← List.zipIdx_map_fst 0 vActionItem, List.filter_map] at honly
  obtain ⟨numbered, hnumbered, hitem⟩ := List.map_eq_singleton_iff.mp honly
  refine ⟨numbered.2, hnumbered.trans ?_⟩
  rw [← hitem]

theorem OnlyItem.actionMap (honly : OnlyItem vActionItem item) (h : init vActionItem = some m)
    {cls : CreatedAction} (hcreate : create item.actionClass item.params = some (some cls)) :
    ∃ i, m.actionMap[item.name]? = some ⟨i, cls, item.strict, item.enableEvent⟩ := by
  obtain ⟨i, hitems⟩ := honly.filter_zipIdx
  have hfirst : vActionItem.zipIdx.filterMap (fun numbered =>
      if numbered.1.name = item.name then made numbered else none) =
        (vActionItem.zipIdx.filter fun numbered =>
          decide (numbered.1.name = item.name)).filterMap made := by
    rw [List.filterMap_filter]
    simp
  refine ⟨i, ?_⟩
  rw [(madeFrom_init h).actionMap, ← List.head?_filterMap, hfirst, hitems, List.head?_filterMap,
    List.findSome?_singleton, made, hcreate]

theorem OnlyItem.registered (honly : OnlyItem vActionItem item) (h : init vActionItem = some m)
    {cls : ActionClass}
    (hcreate : create item.actionClass item.params = some (some (.integerValued cls))) :
    m.registered[item.name]? = some (cls, item.strict) := by
  obtain ⟨i, haction⟩ := honly.actionMap h hcreate
  rw [ThermalActionManager.registered, Std.ExtTreeMap.getElem?_filterMap', haction]
  rfl

theorem OnlyItem.not_mem_socSet (honly : OnlyItem vActionItem item) (h : init vActionItem = some m)
    (hclass : item.actionClass ∉ socClasses) : item.name ∉ m.socSet := by
  intro hmem
  obtain ⟨i, hitems⟩ := honly.filter_zipIdx
  obtain ⟨numbered, hnumbered, hname, hsoc⟩ := ((madeFrom_init h).socSet item.name).mp hmem
  have hfiltered : numbered ∈ [(item, i)] := by
    rw [← hitems]
    exact List.mem_filter.mpr ⟨hnumbered, decide_eq_true hname⟩
  rw [List.mem_singleton.mp hfiltered] at hsoc
  exact hclass hsoc

theorem OneThermalLevel.onlyItem (hone : OneThermalLevel vActionItem item) :
    OnlyItem vActionItem item := by
  obtain ⟨hclass, hname⟩ := hone
  have hboth : ∀ item : ActionItem, decide (item.name = thermalLevelName) =
      (decide (item.name = thermalLevelName) &&
        decide (item.actionClass = thermalLevelName)) := by
    intro item
    by_cases hitem : item.name = thermalLevelName
    · simp [ActionItem.actionClass, hitem]
    · simp [hitem]
  rw [OnlyItem, hname, funext hboth, ← List.filter_filter, hclass]
  simp [hname]

theorem OneThermalLevel.registered (hone : OneThermalLevel vActionItem item)
    (h : init vActionItem = some m) :
    m.registered[thermalLevelName]? = some (ThermalManager.actionThermalLevel, item.strict) := by
  rw [← hone.2]
  exact hone.onlyItem.registered h (create_actionClass hone.2)

theorem OneThermalLevel.not_mem_socSet (hone : OneThermalLevel vActionItem item)
    (h : init vActionItem = some m) : thermalLevelName ∉ m.socSet := by
  rw [← hone.2]
  apply hone.onlyItem.not_mem_socSet h
  rw [ActionItem.actionClass, if_pos hone.2]
  decide

theorem OneThermalLevel.serves (hone : OneThermalLevel vActionItem item)
    (h : init vActionItem = some m) :
    m.actionThermalLevel = (m.actionMap[thermalLevelName]?).map RegisteredAction.item := by
  obtain ⟨i, hitems⟩ := hone.onlyItem.filter_zipIdx
  rw [hone.2] at hitems
  have hmade := madeFrom_init h
  rw [hmade.actionThermalLevel, actionMap_thermalLevelName hmade, levelItems, hitems]
  rfl

end OnlyItem

end ThermalActionManager

end ThermalManager
