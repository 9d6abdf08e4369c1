import Mathlib.Order.Bounds.Basic
import Mathlib.Data.List.MinMax

/-!
# The extreme of a collection, with a fallback

A decision takes the least or the greatest of the values put forward, and a fallback value when
there are none. It depends on which values are put forward, not on their order or number.
-/

namespace Extremum

variable {α : Type*} [LinearOrder α]

/-- The least value of the list, or the greatest; nothing for the empty list. -/
def pick (least : Bool) (values : List α) : Option α :=
  if least then values.min? else values.max?

/-- The value is the least, or the greatest, of the set. -/
def IsPick (least : Bool) (values : Set α) (v : α) : Prop :=
  if least then IsLeast values v else IsGreatest values v

/-- The decided value of a list of values. -/
def decided (least : Bool) (fallback : α) (values : List α) : α :=
  (pick least values).getD fallback

/-- What a decision over a set of values is: its extreme, or the fallback when it is empty. -/
def Decides (least : Bool) (fallback : α) (values : Set α) (v : α) : Prop :=
  (values = ∅ ∧ v = fallback) ∨ IsPick least values v

/-- The first value is at least as extreme as the second. -/
def Beats (least : Bool) (v w : α) : Prop := if least then v ≤ w else w ≤ v

instance (least : Bool) (v w : α) : Decidable (Beats least v w) :=
  inferInstanceAs (Decidable (if least then v ≤ w else w ≤ v))

theorem pick_eq_some_iff {least : Bool} {values : List α} {v : α} :
    pick least values = some v ↔ IsPick least {x | x ∈ values} v := by
  unfold pick IsPick
  cases least
  · simp only [Bool.false_eq_true, if_false, List.max?_eq_some_iff]
    rfl
  · simp only [if_true, List.min?_eq_some_iff]
    rfl

theorem pick_eq_none_iff {least : Bool} {values : List α} :
    pick least values = none ↔ values = [] := by
  unfold pick
  cases least <;> simp

theorem IsPick.unique {least : Bool} {values : Set α} {v w : α} (hv : IsPick least values v)
    (hw : IsPick least values w) : v = w := by
  unfold IsPick at hv hw
  cases least
  · exact IsGreatest.unique hv hw
  · exact IsLeast.unique hv hw

theorem IsPick.mem {least : Bool} {values : Set α} {v : α} (hv : IsPick least values v) :
    v ∈ values := by
  unfold IsPick at hv
  cases least
  · exact hv.1
  · exact hv.1

theorem isPick_iff {least : Bool} {values : Set α} {v : α} :
    IsPick least values v ↔ v ∈ values ∧ ∀ w ∈ values, Beats least v w := by
  unfold IsPick Beats
  cases least <;> rfl

theorem decides_decided (least : Bool) (fallback : α) (values : List α) :
    Decides least fallback {x | x ∈ values} (decided least fallback values) := by
  unfold decided
  cases hpick : pick least values with
  | none =>
    rw [pick_eq_none_iff] at hpick
    subst hpick
    exact Or.inl ⟨by simp, rfl⟩
  | some v => exact Or.inr (pick_eq_some_iff.mp hpick)

theorem Beats.trans {least : Bool} {u v w : α} (huv : Beats least u v) (hvw : Beats least v w) :
    Beats least u w := by
  unfold Beats at huv hvw ⊢
  cases least
  · exact le_trans hvw huv
  · exact le_trans huv hvw

theorem Decides.unique {least : Bool} {fallback : α} {values : Set α} {v w : α}
    (hv : Decides least fallback values v) (hw : Decides least fallback values w) : v = w := by
  rcases hv with ⟨hempty, rfl⟩ | hv <;> rcases hw with ⟨hempty', rfl⟩ | hw
  · rfl
  · rw [hempty] at hw
    exact absurd hw.mem (Set.notMem_empty w)
  · rw [hempty'] at hv
    exact absurd hv.mem (Set.notMem_empty v)
  · exact hv.unique hw

theorem Decides.eq_decided {least : Bool} {fallback : α} {values : List α} {v : α}
    (hv : Decides least fallback {x | x ∈ values} v) : v = decided least fallback values :=
  hv.unique (decides_decided least fallback values)

theorem isPick_decided {least : Bool} {fallback : α} {values : List α} {v : α}
    (hv : v ∈ values) : IsPick least {x | x ∈ values} (decided least fallback values) := by
  rcases decides_decided least fallback values with ⟨hempty, -⟩ | hpick
  · have hmem : v ∈ {x | x ∈ values} := hv
    rw [hempty] at hmem
    exact absurd hmem (Set.notMem_empty v)
  · exact hpick

theorem decided_eq_or_mem (least : Bool) (fallback : α) (values : List α) :
    decided least fallback values = fallback ∨ decided least fallback values ∈ values := by
  rcases decides_decided least fallback values with ⟨-, hfallback⟩ | hpick
  · exact .inl hfallback
  · exact .inr hpick.mem

/-- When a decision stays below a bound that the fallback stays below. -/
theorem decided_le_iff {least : Bool} {fallback bound : α} (hfallback : fallback ≤ bound)
    (values : List α) : decided least fallback values ≤ bound ↔
      if least then values = [] ∨ ∃ v ∈ values, v ≤ bound else ∀ v ∈ values, v ≤ bound := by
  cases values with
  | nil =>
    have hnil : decided least fallback [] = fallback := by cases least <;> rfl
    rw [hnil]
    refine iff_of_true hfallback ?_
    split
    · exact .inl rfl
    · exact fun v hv => absurd hv List.not_mem_nil
  | cons v rest =>
    obtain ⟨hmem, hbeats⟩ :=
      isPick_iff.mp (@isPick_decided _ _ least fallback _ v (List.mem_cons_self (l := rest)))
    cases least with
    | true =>
      refine ⟨fun h => .inr ⟨_, hmem, h⟩, fun h => ?_⟩
      rcases h with hnil | ⟨w, hw, hle⟩
      · cases hnil
      · exact le_trans (hbeats w hw) hle
    | false => exact ⟨fun h w hw => le_trans (hbeats w hw) h, fun h => h _ hmem⟩

theorem decided_congr {least : Bool} {fallback : α} {values values' : List α}
    (hmem : ∀ x, x ∈ values ↔ x ∈ values') :
    decided least fallback values = decided least fallback values' := by
  have hset : {x | x ∈ values} = {x | x ∈ values'} := Set.ext hmem
  have hdecides := decides_decided least fallback values
  rw [hset] at hdecides
  exact hdecides.eq_decided

/-- Values that are each beaten by a value kept do not change the decision. -/
theorem decided_append_of_beaten {least : Bool} {fallback : α} {beaten kept : List α}
    (hbeaten : ∀ x ∈ beaten, ∃ y ∈ kept, Beats least y x) :
    decided least fallback (beaten ++ kept) = decided least fallback kept := by
  cases beaten with
  | nil => rfl
  | cons x rest =>
    obtain ⟨y, hy, -⟩ := hbeaten x List.mem_cons_self
    obtain ⟨hmem, hall⟩ := isPick_iff.mp (@isPick_decided _ _ least fallback _ _ hy)
    refine (Decides.eq_decided (Or.inr (isPick_iff.mpr ⟨List.mem_append_right _ hmem, ?_⟩))).symm
    intro w hw
    rcases List.mem_append.mp hw with hw | hw
    · obtain ⟨z, hz, hzw⟩ := hbeaten w hw
      exact (hall z hz).trans hzw
    · exact hall w hw

end Extremum
