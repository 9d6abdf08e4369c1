import ThermalManager.Lib.Run
import ThermalManager.Observer.CallbackRegistry
import ThermalManager.Action.ThermalLevel
import Mathlib.Logic.Function.Basic

/-!
# Death recipients

`thermal_observer.cpp` and `action_thermal_level.cpp` register a death recipient with the remote
object of a callback whenever one of their sets gains it, and remove one when it is unsubscribed.
The containers of the observer are kept here as the code has them, without the invariant that
`CallbackRegistry` carries, and the level listeners are those of `ActionThermalLevel`.
-/

namespace ThermalManager

open StepSystem

/-- How many death recipients of one kind are registered with each remote object. -/
abbrev DeathRecipients := RemoteObject → Nat

namespace DeathRecipients

def addDeathRecipient (d : DeathRecipients) (object : RemoteObject) : DeathRecipients :=
  Function.update d object (d object + 1)

def removeDeathRecipient (d : DeathRecipients) (object : RemoteObject) : DeathRecipients :=
  Function.update d object (d object - 1)

variable {d : DeathRecipients} {object other : RemoteObject}

@[simp] theorem addDeathRecipient_self : d.addDeathRecipient object object = d object + 1 :=
  Function.update_self object _ d

@[simp] theorem removeDeathRecipient_self : d.removeDeathRecipient object object = d object - 1 :=
  Function.update_self object _ d

theorem addDeathRecipient_other (h : object ≠ other) : d.addDeathRecipient object other = d other :=
  Function.update_of_ne h.symm _ d

theorem removeDeathRecipient_other (h : object ≠ other) :
    d.removeDeathRecipient object other = d other :=
  Function.update_of_ne h.symm _ d

end DeathRecipients

/-- How often a set contains a callback. -/
def holds (listeners : Std.ExtTreeSet RemoteObject compare) (callback : RemoteObject) : Nat :=
  if callback ∈ listeners then 1 else 0

section Holds

variable {listeners : Std.ExtTreeSet RemoteObject compare} {callback other : RemoteObject}

theorem holds_of_mem (h : callback ∈ listeners) : holds listeners callback = 1 := if_pos h

theorem holds_of_not_mem (h : callback ∉ listeners) : holds listeners callback = 0 := if_neg h

@[simp] theorem holds_insert_self : holds (listeners.insert callback) callback = 1 :=
  holds_of_mem Std.ExtTreeSet.mem_insert_self

@[simp] theorem holds_erase_self : holds (listeners.erase callback) callback = 0 :=
  holds_of_not_mem fun h => (Std.ExtTreeSet.mem_erase.mp h).1 Std.ReflCmp.compare_self

theorem holds_insert_other (h : callback ≠ other) :
    holds (listeners.insert callback) other = holds listeners other := by
  simp only [holds, Std.ExtTreeSet.mem_insert, Std.LawfulEqOrd.compare_eq_iff_eq, h, false_or]

theorem holds_erase_other (h : callback ≠ other) :
    holds (listeners.erase callback) other = holds listeners other := by
  simp only [holds, Std.ExtTreeSet.mem_erase, Ne, Std.LawfulEqOrd.compare_eq_iff_eq, h,
    not_false_iff, true_and]

theorem not_contains_iff : (!listeners.contains callback) = true ↔ callback ∉ listeners := by
  rw [Bool.not_eq_true', ← Bool.not_eq_true, Std.ExtTreeSet.contains_iff_mem]

/-- A set that gains a callback and registers a recipient stays in balance. -/
theorem recipients_insert {d : DeathRecipients} {n : Nat}
    (h : d other = holds listeners other + n) :
    (if (!listeners.contains callback) = true then d.addDeathRecipient callback else d) other =
      holds (listeners.insert callback) other + n := by
  by_cases heq : callback = other
  · subst heq
    rw [holds_insert_self]
    split
    case isTrue hnew =>
      rw [DeathRecipients.addDeathRecipient_self, h, holds_of_not_mem (not_contains_iff.mp hnew)]
      omega
    case isFalse hold =>
      rw [not_contains_iff, not_not] at hold
      rw [h, holds_of_mem hold]
  · rw [holds_insert_other heq, ← h]
    split
    · exact DeathRecipients.addDeathRecipient_other heq
    · rfl

/-- So does a set that loses a callback and removes its recipient. -/
theorem recipients_erase {d : DeathRecipients} (h : d other = holds listeners other) :
    (if holds listeners callback ≠ 0 then d.removeDeathRecipient callback else d) other =
      holds (listeners.erase callback) other := by
  by_cases heq : callback = other
  · subst heq
    rw [holds_erase_self]
    split
    case isTrue =>
      rw [DeathRecipients.removeDeathRecipient_self, h, holds]
      split <;> rfl
    case isFalse hnone => exact h.trans (not_not.mp hnone)
  · rw [holds_erase_other heq, ← h]
    split
    · exact DeathRecipients.removeDeathRecipient_other heq
    · rfl

end Holds

/-! ### The two tables of the observer -/

/-- A set of listeners, the map with the list of each and the death recipients of its kind. -/
structure ListenerTable where
  listeners : Std.ExtTreeSet RemoteObject compare := ∅
  lists : Map RemoteObject (List String) := ∅
  recipients : DeathRecipients := fun _ => 0

namespace ListenerTable

def subscribe (t : ListenerTable) (list : List String) : Option RemoteObject → ListenerTable
  | none => t
  | some callback =>
      let isNew := !t.listeners.contains callback
      let t := { t with listeners := t.listeners.insert callback }
      if isNew then
        { t with
          recipients := t.recipients.addDeathRecipient callback
          lists := t.lists.insertIfNew callback list }
      else t

def unSubscribe (t : ListenerTable) : Option RemoteObject → ListenerTable
  | none => t
  | some callback =>
      let t := { t with
        lists := if callback ∈ t.lists then t.lists.erase callback else t.lists }
      let eraseNum := holds t.listeners callback
      let t := { t with listeners := t.listeners.erase callback }
      if eraseNum ≠ 0 then { t with recipients := t.recipients.removeDeathRecipient callback }
      else t

/-- The set has the keys of the map, and every listener one death recipient. -/
structure Consistent (t : ListenerTable) : Prop where
  keys : ∀ callback, callback ∈ t.listeners ↔ callback ∈ t.lists
  counted : ∀ callback, t.recipients callback = holds t.listeners callback

variable {t : ListenerTable} {callback : RemoteObject} {list : List String}

theorem subscribe_eq : t.subscribe list (some callback) =
    { listeners := t.listeners.insert callback
      lists := if (!t.listeners.contains callback) = true then t.lists.insertIfNew callback list
        else t.lists
      recipients := if (!t.listeners.contains callback) = true then
          t.recipients.addDeathRecipient callback
        else t.recipients } := by
  dsimp only [subscribe]
  split <;> rfl

theorem unSubscribe_eq : t.unSubscribe (some callback) =
    { listeners := t.listeners.erase callback
      lists := if callback ∈ t.lists then t.lists.erase callback else t.lists
      recipients := if holds t.listeners callback ≠ 0 then
          t.recipients.removeDeathRecipient callback
        else t.recipients } := by
  dsimp only [unSubscribe]
  split <;> rfl

theorem Consistent.subscribe (h : t.Consistent) (list : List String)
    (object : Option RemoteObject) : (t.subscribe list object).Consistent := by
  cases object with
  | none => exact h
  | some callback =>
    rw [subscribe_eq]
    refine ⟨fun other => ?_, fun other => recipients_insert (n := 0) (h.counted other)⟩
    show other ∈ t.listeners.insert callback ↔ other ∈ if _ then _ else t.lists
    rw [Std.ExtTreeSet.mem_insert]
    split
    case isTrue => rw [Std.ExtTreeMap.mem_insertIfNew, h.keys]
    case isFalse hold =>
      rw [not_contains_iff, not_not] at hold
      rw [Std.LawfulEqOrd.compare_eq_iff_eq, ← h.keys]
      exact or_iff_right_of_imp fun heq => heq ▸ hold

theorem Consistent.unSubscribe (h : t.Consistent) (object : Option RemoteObject) :
    (t.unSubscribe object).Consistent := by
  cases object with
  | none => exact h
  | some callback =>
    rw [unSubscribe_eq]
    refine ⟨fun other => ?_, fun other => recipients_erase (h.counted other)⟩
    show other ∈ t.listeners.erase callback ↔ other ∈ if _ then _ else t.lists
    rw [Std.ExtTreeSet.mem_erase, h.keys]
    split
    case isTrue => rw [Std.ExtTreeMap.mem_erase]
    case isFalse hnot =>
      rw [Ne, Std.LawfulEqOrd.compare_eq_iff_eq]
      exact and_iff_right_of_imp fun hmem heq => hnot (heq ▸ hmem)

/-- The registry that carries the invariant has the contents of the table. -/
structure Represents (t : ListenerTable) (r : CallbackRegistry) : Prop where
  listeners : ∀ callback, callback ∈ t.listeners ↔ callback ∈ r.listeners
  lists : ∀ callback : RemoteObject, t.lists[callback]? = r.lists[callback]?

theorem Represents.subscribe {r : CallbackRegistry} (h : t.Represents r) (list : List String)
    (object : Option RemoteObject) :
    (t.subscribe list object).Represents (r.subscribe list object) := by
  cases object with
  | none => exact h
  | some callback =>
    rw [subscribe_eq, CallbackRegistry.subscribe, CallbackRegistry.insert]
    have hmem := h.listeners callback
    by_cases hold : callback ∈ r.listeners
    · have hcontains := mt not_contains_iff.mp (not_not_intro (hmem.mpr hold))
      rw [if_pos hold, if_neg hcontains]
      refine ⟨fun other => ?_, h.lists⟩
      show other ∈ t.listeners.insert callback ↔ _
      rw [Std.ExtTreeSet.mem_insert, Std.LawfulEqOrd.compare_eq_iff_eq, h.listeners]
      exact or_iff_right_of_imp fun heq => heq ▸ hold
    · have hcontains := not_contains_iff.mpr (mt hmem.mp hold)
      have heq : t.lists = r.lists := Std.ExtTreeMap.ext_getElem? fun {k} => h.lists k
      rw [if_neg hold, if_pos hcontains, heq]
      refine ⟨fun other => ?_, fun other => rfl⟩
      show other ∈ t.listeners.insert callback ↔ other ∈ r.listeners.insert callback
      rw [Std.ExtTreeSet.mem_insert, Std.ExtTreeSet.mem_insert, h.listeners]

theorem Represents.unSubscribe {r : CallbackRegistry} (h : t.Represents r)
    (object : Option RemoteObject) :
    (t.unSubscribe object).Represents (r.unSubscribe object) := by
  cases object with
  | none => exact h
  | some callback =>
    have heq : t.lists = r.lists := Std.ExtTreeMap.ext_getElem? fun {k} => h.lists k
    rw [unSubscribe_eq]
    refine ⟨fun other => ?_, fun other => ?_⟩
    · show other ∈ t.listeners.erase callback ↔ other ∈ r.listeners.erase callback
      rw [Std.ExtTreeSet.mem_erase, Std.ExtTreeSet.mem_erase, h.listeners]
    · show (if callback ∈ t.lists then t.lists.erase callback else t.lists)[other]? =
        (r.lists.erase callback)[other]?
      rw [heq]
      split
      · rfl
      case isFalse hnot =>
        rw [Std.ExtTreeMap.getElem?_erase]
        split
        case isTrue heq =>
          rw [← Std.LawfulEqOrd.eq_of_compare heq]
          exact Std.ExtTreeMap.getElem?_eq_none hnot
        case isFalse => rfl

end ListenerTable

/-! ### The level listeners -/

/-- The level action with the death recipients of its listeners. -/
structure LevelTable where
  action : ActionThermalLevel
  recipients : DeathRecipients := fun _ => 0

namespace LevelTable

def sync (t : LevelTable) : Std.ExtTreeSet RemoteObject compare :=
  t.action.syncThermalLevelListeners

def async (t : LevelTable) : Std.ExtTreeSet RemoteObject compare :=
  t.action.asyncThermalLevelListeners

def subscribe (t : LevelTable) (isSync : Bool) : Option RemoteObject → LevelTable
  | none => t
  | some callback =>
      { action := (t.action.subscribeThermalLevelCallback isSync (some callback)).1
        recipients :=
          if (t.action.addThermalLevelListeners callback isSync).1 then
            t.recipients.addDeathRecipient callback
          else t.recipients }

/-- The number erased from the asynchronous set replaces the one before. -/
def unSubscribe (t : LevelTable) : Option RemoteObject → LevelTable
  | none => t
  | some callback =>
      let eraseNum := 0
      let eraseNum := if callback ∈ t.sync then holds t.sync callback else eraseNum
      let eraseNum := if callback ∈ t.async then holds t.async callback else eraseNum
      { action := t.action.unSubscribeThermalLevelCallback (some callback)
        recipients :=
          if eraseNum ≠ 0 then t.recipients.removeDeathRecipient callback else t.recipients }

/-- A callback has a death recipient for each set that contains it. -/
def Counted (t : LevelTable) : Prop :=
  ∀ callback, t.recipients callback = holds t.sync callback + holds t.async callback

variable {t : LevelTable} {callback : RemoteObject}

theorem subscribe_action (isSync : Bool) :
    (t.subscribe isSync (some callback)).action =
      (t.action.addThermalLevelListeners callback isSync).2 := by
  dsimp only [subscribe, ActionThermalLevel.subscribeThermalLevelCallback]
  split
  case h_1 s heq => rw [heq]
  case h_2 s heq => rw [heq]

theorem Counted.subscribe (h : t.Counted) (isSync : Bool) (object : Option RemoteObject) :
    (t.subscribe isSync object).Counted := by
  cases object with
  | none => exact h
  | some callback =>
    intro other
    rw [LevelTable.sync, LevelTable.async, subscribe_action]
    cases isSync with
    | true => exact recipients_insert (h other)
    | false =>
      rw [Nat.add_comm]
      exact recipients_insert ((h other).trans (Nat.add_comm _ _))

theorem unSubscribe_recipients_self (h : t.Counted) :
    (t.unSubscribe (some callback)).recipients callback =
      if callback ∈ t.sync ∧ callback ∈ t.async then 1 else 0 := by
  have hcount := h callback
  dsimp only [unSubscribe]
  by_cases hsync : callback ∈ t.sync <;> by_cases hasync : callback ∈ t.async <;>
    simp [hsync, hasync, holds] at hcount ⊢ <;> omega

theorem unSubscribe_recipients_other {other : RemoteObject} (hne : callback ≠ other) :
    (t.unSubscribe (some callback)).recipients other = t.recipients other := by
  dsimp only [unSubscribe]
  by_cases hsync : callback ∈ t.sync <;> by_cases hasync : callback ∈ t.async <;>
    simp [hsync, hasync, holds, DeathRecipients.removeDeathRecipient_other hne]

theorem counted_unSubscribe_iff (h : t.Counted) (callback : RemoteObject) :
    (t.unSubscribe (some callback)).Counted ↔ ¬ (callback ∈ t.sync ∧ callback ∈ t.async) := by
  have hsync : (t.unSubscribe (some callback)).sync = t.sync.erase callback := rfl
  have hasync : (t.unSubscribe (some callback)).async = t.async.erase callback := rfl
  constructor
  · intro hcounted hboth
    have hself := hcounted callback
    rw [unSubscribe_recipients_self h, if_pos hboth, hsync, hasync, holds_erase_self,
      holds_erase_self] at hself
    exact Nat.one_ne_zero hself
  · intro hnot other
    rw [hsync, hasync]
    by_cases heq : callback = other
    · subst heq
      rw [unSubscribe_recipients_self h, if_neg hnot, holds_erase_self, holds_erase_self]
    · rw [holds_erase_other heq, holds_erase_other heq, ← h other]
      exact unSubscribe_recipients_other heq

end LevelTable

/-! ### All registries -/

structure CallbackRegistries where
  temp : ListenerTable := {}
  action : ListenerTable := {}
  level : LevelTable

inductive RegistryEvent where
  | subscribeTemp (typeList : List String) (callback : Option RemoteObject)
  | unSubscribeTemp (callback : Option RemoteObject)
  | subscribeAction (actionList : List String) (callback : Option RemoteObject)
  | unSubscribeAction (callback : Option RemoteObject)
  | subscribeLevel (callback : Option RemoteObject) (isSync : Bool)
  | unSubscribeLevel (callback : Option RemoteObject)

namespace CallbackRegistries

def subscribeThermalTempCallback (r : CallbackRegistries) (typeList : List String)
    (callback : Option RemoteObject) : CallbackRegistries :=
  { r with temp := r.temp.subscribe typeList callback }

def unSubscribeThermalTempCallback (r : CallbackRegistries) (callback : Option RemoteObject) :
    CallbackRegistries :=
  { r with temp := r.temp.unSubscribe callback }

/-- The new listener is told the current values, which is left out. -/
def subscribeThermalActionCallback (r : CallbackRegistries) (actionList : List String)
    (callback : Option RemoteObject) : CallbackRegistries :=
  { r with action := r.action.subscribe actionList callback }

def unSubscribeThermalActionCallback (r : CallbackRegistries) (callback : Option RemoteObject) :
    CallbackRegistries :=
  { r with action := r.action.unSubscribe callback }

def subscribeThermalLevelCallback (r : CallbackRegistries) (callback : Option RemoteObject)
    (isSync : Bool) : CallbackRegistries :=
  { r with level := r.level.subscribe isSync callback }

def unSubscribeThermalLevelCallback (r : CallbackRegistries) (callback : Option RemoteObject) :
    CallbackRegistries :=
  { r with level := r.level.unSubscribe callback }

def step (r : CallbackRegistries) : RegistryEvent → CallbackRegistries
  | .subscribeTemp typeList callback => r.subscribeThermalTempCallback typeList callback
  | .unSubscribeTemp callback => r.unSubscribeThermalTempCallback callback
  | .subscribeAction actionList callback => r.subscribeThermalActionCallback actionList callback
  | .unSubscribeAction callback => r.unSubscribeThermalActionCallback callback
  | .subscribeLevel callback isSync => r.subscribeThermalLevelCallback callback isSync
  | .unSubscribeLevel callback => r.unSubscribeThermalLevelCallback callback

/-- Nobody has subscribed yet. -/
def init (isStrict : Bool) : CallbackRegistries where
  level := { action := ActionThermalLevel.init isStrict }

/-- Every pair of containers has the same keys, and every callback as many death recipients of a
kind as there are sets of that kind that contain it. -/
structure Consistent (r : CallbackRegistries) : Prop where
  temp : r.temp.Consistent
  action : r.action.Consistent
  level : r.level.Counted

/-- A callback that leaves the level listeners is in one of the two sets at most. -/
def LeavesOne (r : CallbackRegistries) : RegistryEvent → Prop
  | .unSubscribeLevel (some callback) => ¬ (callback ∈ r.level.sync ∧ callback ∈ r.level.async)
  | _ => True

variable {r : CallbackRegistries}

theorem init_consistent (isStrict : Bool) : (init isStrict).Consistent := by
  have hempty : ∀ callback : RemoteObject, holds ∅ callback = 0 := fun callback =>
    holds_of_not_mem Std.ExtTreeSet.not_mem_empty
  refine ⟨⟨fun callback => ?_, fun callback => ?_⟩, ⟨fun callback => ?_, fun callback => ?_⟩,
    fun callback => ?_⟩
  · exact iff_of_false Std.ExtTreeSet.not_mem_empty Std.ExtTreeMap.not_mem_empty
  · exact (hempty callback).symm
  · exact iff_of_false Std.ExtTreeSet.not_mem_empty Std.ExtTreeMap.not_mem_empty
  · exact (hempty callback).symm
  · show 0 = holds ∅ callback + holds ∅ callback
    rw [hempty]

theorem step_consistent_iff (h : r.Consistent) (e : RegistryEvent) :
    (r.step e).Consistent ↔ r.LeavesOne e := by
  obtain ⟨htemp, haction, hlevel⟩ := h
  cases e with
  | subscribeTemp typeList callback =>
    exact iff_of_true ⟨htemp.subscribe typeList callback, haction, hlevel⟩ trivial
  | unSubscribeTemp callback =>
    exact iff_of_true ⟨htemp.unSubscribe callback, haction, hlevel⟩ trivial
  | subscribeAction actionList callback =>
    exact iff_of_true ⟨htemp, haction.subscribe actionList callback, hlevel⟩ trivial
  | unSubscribeAction callback =>
    exact iff_of_true ⟨htemp, haction.unSubscribe callback, hlevel⟩ trivial
  | subscribeLevel callback isSync =>
    exact iff_of_true ⟨htemp, haction, hlevel.subscribe isSync callback⟩ trivial
  | unSubscribeLevel callback =>
    cases callback with
    | none => exact iff_of_true ⟨htemp, haction, hlevel⟩ trivial
    | some callback =>
      have hiff := LevelTable.counted_unSubscribe_iff hlevel callback
      exact ⟨fun h => hiff.mp h.level, fun h => ⟨htemp, haction, hiff.mpr h⟩⟩

/-- The registries stay consistent through a run exactly if no callback that is in both sets of
level listeners is unsubscribed from them. -/
theorem always_consistent_iff (isStrict : Bool) (events : List RegistryEvent) :
    Always step Consistent (init isStrict) events ↔ Enabled LeavesOne step (init isStrict) events :=
  always_iff_enabled_of_step Consistent (fun _ e h => step_consistent_iff h e)
    (init_consistent isStrict) events

/-- A callback that subscribed both ways and unsubscribes keeps a death recipient. -/
theorem level_recipient_left_behind :
    ¬ ∀ (isStrict : Bool) (events : List RegistryEvent),
      Always step Consistent (init isStrict) events := by
  intro h
  have hsafe := (always_iff_enabled_of_step Consistent (fun _ e h => step_consistent_iff h e)
    (init_consistent true) _).mp (h true [.subscribeLevel (some 7) true,
      .subscribeLevel (some 7) false, .unSubscribeLevel (some 7)])
  exact hsafe.2.2.1 ⟨Std.ExtTreeSet.mem_insert_self, Std.ExtTreeSet.mem_insert_self⟩

end CallbackRegistries

end ThermalManager
