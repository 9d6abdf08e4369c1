import ThermalManager.Policy.SensorCluster
import Std.Data.ExtTreeSet

/-!
# Registered listeners

The observer keeps its listeners in a `std::set` ordered by the pointers to the remote objects, and
a map with the same keys that holds the list each listener subscribed with. Temperature and action
listeners are kept in the same way.
-/

namespace ThermalManager

/-- The remote object of a callback. Listeners are told in the order of these pointers. -/
abbrev RemoteObject := Nat

/-- A set of listeners and the list each of them subscribed with. -/
structure CallbackRegistry where
  listeners : Std.ExtTreeSet RemoteObject compare := ∅
  lists : Map RemoteObject (List String) := ∅
  agree : ∀ listener, listener ∈ listeners ↔ listener ∈ lists

namespace CallbackRegistry

def empty : CallbackRegistry where
  agree listener := by simp

/-- A listener that is there already keeps its list. -/
def insert (r : CallbackRegistry) (listener : RemoteObject) (list : List String) :
    CallbackRegistry :=
  if listener ∈ r.listeners then r
  else
    { listeners := r.listeners.insert listener
      lists := r.lists.insertIfNew listener list
      agree := fun other => by
        rw [Std.ExtTreeSet.mem_insert, Std.ExtTreeMap.mem_insertIfNew, r.agree] }

def erase (r : CallbackRegistry) (listener : RemoteObject) : CallbackRegistry where
  listeners := r.listeners.erase listener
  lists := r.lists.erase listener
  agree other := by
    rw [Std.ExtTreeSet.mem_erase, Std.ExtTreeMap.mem_erase, r.agree]

def order (r : CallbackRegistry) : List RemoteObject := r.listeners.toList

def listOf (r : CallbackRegistry) (listener : RemoteObject) : List String :=
  r.lists.getD listener []

/-- A null callback is ignored. -/
def subscribe (r : CallbackRegistry) (list : List String) :
    Option RemoteObject → CallbackRegistry
  | none => r
  | some callback => r.insert callback list

def unSubscribe (r : CallbackRegistry) : Option RemoteObject → CallbackRegistry
  | none => r
  | some callback => r.erase callback

variable {r : CallbackRegistry} {listener other : RemoteObject} {list : List String}

/-! ### Changes -/

theorem mem_insert :
    other ∈ (r.insert listener list).lists ↔ listener = other ∨ other ∈ r.lists := by
  rw [insert]
  split
  case isTrue hmem => exact (or_iff_right_of_imp fun heq => heq ▸ (r.agree listener).mp hmem).symm
  case isFalse =>
    show other ∈ r.lists.insertIfNew listener list ↔ _
    rw [Std.ExtTreeMap.mem_insertIfNew, Std.LawfulEqOrd.compare_eq_iff_eq]

theorem listOf_insert (h : listener ∉ r.listeners) :
    (r.insert listener list).listOf other = if listener = other then list else r.listOf other := by
  rw [insert, if_neg h]
  show (r.lists.insertIfNew listener list).getD other [] = _
  rw [Std.ExtTreeMap.getD_insertIfNew]
  simp only [Std.LawfulEqOrd.compare_eq_iff_eq, ← r.agree, h, not_false_iff, and_true]
  rfl

theorem mem_erase : other ∈ (r.erase listener).lists ↔ listener ≠ other ∧ other ∈ r.lists := by
  show other ∈ r.lists.erase listener ↔ _
  rw [Std.ExtTreeMap.mem_erase, Ne, Ne, Std.LawfulEqOrd.compare_eq_iff_eq]

theorem listOf_erase (hne : listener ≠ other) :
    (r.erase listener).listOf other = r.listOf other := by
  show (r.lists.erase listener).getD other [] = _
  rw [Std.ExtTreeMap.getD_erase, if_neg (fun h => hne (Std.LawfulEqOrd.eq_of_compare h))]
  rfl

/-! ### Order -/

theorem mem_order : listener ∈ r.order ↔ listener ∈ r.lists :=
  Std.ExtTreeSet.mem_toList.trans (r.agree listener)

theorem mem_before {before after : List RemoteObject}
    (horder : r.order = before ++ listener :: after) :
    other ∈ before ↔ other ∈ r.lists ∧ other < listener := by
  have hsorted : r.order.Pairwise (fun a b => compare a b = .lt) := Std.ExtTreeSet.ordered_toList
  rw [horder, List.pairwise_append] at hsorted
  obtain ⟨-, hafter, hbetween⟩ := hsorted
  refine ⟨fun hother => ⟨?_, ?_⟩, fun h => ?_⟩
  · rw [← mem_order, horder]
    exact List.mem_append_left _ hother
  · exact Nat.compare_eq_lt.mp (hbetween other hother listener List.mem_cons_self)
  · obtain ⟨hmem, hlt⟩ := h
    rw [← mem_order, horder, List.mem_append, List.mem_cons] at hmem
    rcases hmem with hmem | rfl | hmem
    · exact hmem
    · exact absurd hlt (Nat.lt_irrefl _)
    · have hgt : listener < other :=
        Nat.compare_eq_lt.mp ((List.pairwise_cons.mp hafter).1 other hmem)
      exact absurd (Nat.lt_trans hlt hgt) (Nat.lt_irrefl _)

theorem listOf_of_not_mem (h : listener ∉ r.lists) : r.listOf listener = [] :=
  Std.ExtTreeMap.getD_eq_fallback h

/-- A type or action is asked for by the listener or by one that is told earlier. -/
def AskedUpTo (r : CallbackRegistry) (listener : RemoteObject) (name : String) : Prop :=
  name ∈ r.listOf listener ∨
    ∃ other ∈ r.lists, other < listener ∧ name ∈ r.listOf other

/-- A type or action is asked for by some listener. -/
def Asked (r : CallbackRegistry) (name : String) : Prop :=
  ∃ listener ∈ r.lists, name ∈ r.listOf listener

theorem askedUpTo_iff {before after : List RemoteObject}
    (horder : r.order = before ++ listener :: after) {name : String} :
    r.AskedUpTo listener name ↔ name ∈ (before ++ [listener]).flatMap r.listOf := by
  rw [List.mem_flatMap]
  refine ⟨fun h => ?_, fun h => ?_⟩
  · rcases h with hown | ⟨other, hmem, hlt, hname⟩
    · exact ⟨listener, List.mem_append_right _ List.mem_cons_self, hown⟩
    · exact ⟨other, List.mem_append_left _ ((mem_before horder).mpr ⟨hmem, hlt⟩), hname⟩
  · obtain ⟨other, hother, hname⟩ := h
    rcases List.mem_append.mp hother with hbefore | hself
    · obtain ⟨hmem, hlt⟩ := (mem_before horder).mp hbefore
      exact .inr ⟨other, hmem, hlt, hname⟩
    · obtain rfl := List.mem_singleton.mp hself
      exact .inl hname

theorem asked_iff {name : String} : r.Asked name ↔ name ∈ r.order.flatMap r.listOf := by
  rw [List.mem_flatMap]
  exact exists_congr fun _ => and_congr_left' mem_order.symm

theorem turn_eq {σ : Type} (work : σ → String → σ) (s : σ) :
    (match r.lists[listener]? with
      | some list => list.foldl work s
      | none => s) = (r.listOf listener).foldl work s := by
  rw [listOf, Std.ExtTreeMap.getD_eq_getD_getElem?]
  cases r.lists[listener]? with
  | none => rfl
  | some list => rfl

end CallbackRegistry

end ThermalManager
