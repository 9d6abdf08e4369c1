import Mathlib.Data.List.Basic
import Std.Data.ExtTreeMap

/-!
# Bounded windows

A queue with a bound that drops an element at one end for each new one at the other holds the last
elements of all that were pushed. A table of such queues is updated by a loop over another table:
each entry of the second updates the entry of its own key in the first.
-/

namespace Window

section Queue

variable {α : Type*}

/-- A new element in front of a queue that is kept to a bound. -/
def pushFront (bound : Nat) (a : α) (queue : List α) : List α :=
  if bound ≤ queue.length then a :: queue.dropLast else a :: queue

/-- A new element behind a queue that is kept to a bound. -/
def pushBack (bound : Nat) (queue : List α) (a : α) : List α :=
  if bound ≤ queue.length then queue.tail ++ [a] else queue ++ [a]

/-- The last elements of a list, at most `bound` of them. -/
def lastOf (bound : Nat) (l : List α) : List α := l.drop (l.length - bound)

variable {bound : Nat} (hbound : 0 < bound) (a : α) (l : List α)
include hbound

theorem pushFront_take : pushFront bound a (l.take bound) = (a :: l).take bound := by
  obtain ⟨bound, rfl⟩ := Nat.exists_eq_add_one_of_ne_zero (Nat.ne_of_gt hbound)
  rw [pushFront, List.length_take, List.take_succ_cons]
  split
  case isTrue hfull =>
    rw [List.dropLast_eq_take, List.length_take, List.take_take]
    congr 2
    omega
  case isFalse hroom =>
    rw [List.take_of_length_le (by omega), List.take_of_length_le (by omega)]

theorem pushBack_lastOf : pushBack bound (lastOf bound l) a = lastOf bound (l ++ [a]) := by
  rw [pushBack, lastOf, lastOf, List.length_drop, List.length_append, List.length_singleton]
  split
  case isTrue hfull =>
    rw [List.tail_drop, List.drop_append_of_le_length (by omega)]
    congr 2
    omega
  case isFalse hroom =>
    rw [Nat.sub_eq_zero_of_le (by omega), Nat.sub_eq_zero_of_le (by omega), List.drop_zero,
      List.drop_zero]

end Queue

section Table

variable {κ β γ : Type} [Ord κ] [Std.TransOrd κ] [Std.LawfulEqOrd κ]

/-- The loop over one table that updates another. -/
def updateEach (f : Option γ → β → γ) (entries : List (κ × β))
    (table : Std.ExtTreeMap κ γ compare) : Std.ExtTreeMap κ γ compare :=
  entries.foldl (fun table entry => table.insert entry.1 (f table[entry.1]? entry.2)) table

variable {f : Option γ → β → γ} {entries : List (κ × β)} {table : Std.ExtTreeMap κ γ compare}
  {key : κ}

theorem getElem?_updateEach_of_notMem (hkey : key ∉ entries.map Prod.fst) :
    (updateEach f entries table)[key]? = table[key]? := by
  induction entries generalizing table with
  | nil => rfl
  | cons entry rest ih =>
    rw [List.map_cons, List.mem_cons, not_or] at hkey
    rw [updateEach, List.foldl_cons, ← updateEach, ih hkey.2, Std.ExtTreeMap.getElem?_insert,
      if_neg fun h => hkey.1 (Std.LawfulEqOrd.eq_of_compare h).symm]

theorem getElem?_updateEach_of_mem (hdistinct : (entries.map Prod.fst).Nodup) {value : β}
    (hmem : (key, value) ∈ entries) :
    (updateEach f entries table)[key]? = some (f table[key]? value) := by
  induction entries generalizing table with
  | nil => cases hmem
  | cons entry rest ih =>
    obtain ⟨hhead, htail⟩ := List.nodup_cons.mp hdistinct
    rw [updateEach, List.foldl_cons, ← updateEach]
    rcases List.mem_cons.mp hmem with rfl | hrest
    · rw [getElem?_updateEach_of_notMem hhead, Std.ExtTreeMap.getElem?_insert_self]
    · have hne : entry.1 ≠ key := by
        rintro rfl
        exact hhead (List.mem_map.mpr ⟨_, hrest, rfl⟩)
      rw [ih htail hrest, Std.ExtTreeMap.getElem?_insert,
        if_neg fun h => hne (Std.LawfulEqOrd.eq_of_compare h)]

/-- What the loop over a whole table leaves at a key. -/
theorem getElem?_updateEach_toList (source : Std.ExtTreeMap κ β compare) :
    (updateEach f source.toList table)[key]? =
      (source[key]?).elim table[key]? fun value => some (f table[key]? value) := by
  cases hsource : source[key]? with
  | none =>
    apply getElem?_updateEach_of_notMem
    rw [Std.ExtTreeMap.map_fst_toList_eq_keys, Std.ExtTreeMap.mem_keys]
    intro hmem
    rw [Std.ExtTreeMap.mem_iff_isSome_getElem?, hsource] at hmem
    cases hmem
  | some value =>
    apply getElem?_updateEach_of_mem
    · rw [Std.ExtTreeMap.map_fst_toList_eq_keys]
      exact Std.ExtTreeMap.nodup_keys
    · exact Std.ExtTreeMap.mem_toList_iff_getElem?_eq_some.mpr hsource

end Table

end Window
