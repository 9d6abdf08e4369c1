import Mathlib.Data.List.Chain

/-!
# Edge-triggered reports

A watched value is reported whenever it differs from the one reported last. The reports then change
from one to the next and the last of them is the present value. A report that may be lost counts as
made all the same, so a receiver can be left with an old value. The value that is watched is often
made of parts that arrive one at a time; each part is then what was last said about it.
-/

namespace EdgeTrigger

variable {α : Type*} [DecidableEq α]

/-- The reports of a sequence of values, after a first value that counts as reported. -/
def edges (reported : α) : List α → List α
  | [] => []
  | value :: rest => if value ≠ reported then value :: edges value rest else edges reported rest

theorem edges_isChain (reported : α) (values : List α) :
    (reported :: edges reported values).IsChain (· ≠ ·) := by
  induction values generalizing reported with
  | nil => exact List.isChain_singleton reported
  | cons value rest ih =>
    rw [edges]
    split
    case isTrue hne => exact List.isChain_cons_cons.mpr ⟨hne.symm, ih value⟩
    case isFalse => exact ih reported

theorem edges_getLastD (reported : α) (values : List α) :
    (edges reported values).getLastD reported = values.getLastD reported := by
  induction values generalizing reported with
  | nil => rfl
  | cons value rest ih =>
    rw [edges, List.getLastD_cons]
    split
    case isTrue => rw [List.getLastD_cons, ih]
    case isFalse heq => rw [ih, not_not.mp heq]

theorem edges_ne_nil {reported : α} {values : List α} (h : ∃ value ∈ values, value ≠ reported) :
    edges reported values ≠ [] := by
  intro hnil
  induction values with
  | nil => exact absurd h (by simp)
  | cons value rest ih =>
    rw [edges] at hnil
    split at hnil
    case isTrue => exact absurd hnil (List.cons_ne_nil _ _)
    case isFalse heq =>
      obtain ⟨other, hmem, hne⟩ := h
      rcases List.mem_cons.mp hmem with rfl | hmem
      · exact heq hne
      · exact ih ⟨other, hmem, hne⟩ hnil

theorem edges_getLast? {reported : α} {values : List α} (h : ∃ value ∈ values, value ≠ reported) :
    (edges reported values).getLast? = some (values.getLastD reported) := by
  rw [← edges_getLastD, List.getLast?_eq_some_getLast (edges_ne_nil h),
    List.getLastD_eq_getLast?, List.getLast?_eq_some_getLast (edges_ne_nil h), Option.getD_some]

theorem edges_eq_nil {reported : α} {values : List α} (h : ∀ value ∈ values, value = reported) :
    edges reported values = [] := by
  induction values with
  | nil => rfl
  | cons first rest ih =>
    rw [edges, if_neg (not_not.mpr (h first List.mem_cons_self))]
    exact ih fun value hmem => h value (List.mem_cons_of_mem _ hmem)

theorem edges_concat (reported : α) (values : List α) (value : α) :
    edges reported (values ++ [value]) =
      edges reported values ++ edges (values.getLastD reported) [value] := by
  induction values generalizing reported with
  | nil => rfl
  | cons first rest ih =>
    rw [List.cons_append, edges, edges, List.getLastD_cons]
    split
    case isTrue => rw [ih, List.cons_append]
    case isFalse heq => rw [ih, not_not.mp heq]

/-- No value is passed over but the one that counts as reported. -/
theorem mem_edges_iff {reported value : α} {values : List α} (hne : value ≠ reported) :
    value ∈ edges reported values ↔ value ∈ values := by
  induction values generalizing reported with
  | nil => exact Iff.rfl
  | cons first rest ih =>
    rw [edges, List.mem_cons]
    by_cases hfirst : value = first
    · subst hfirst
      rw [if_pos hne]
      exact iff_of_true List.mem_cons_self (.inl rfl)
    · rw [or_iff_right hfirst]
      split
      case isTrue => rw [List.mem_cons, or_iff_right hfirst, ih hfirst]
      case isFalse => exact ih hne

/-! ### Reports that may be lost -/

/-- The reports that get through, where each value comes with whether a report made now would. -/
def delivered (reported : α) : List (α × Bool) → List α
  | [] => []
  | (value, through) :: rest =>
      if value ≠ reported then (if through then [value] else []) ++ delivered value rest
      else delivered reported rest

theorem delivered_cons (reported : α) (p : α × Bool) (rest : List (α × Bool)) :
    delivered reported (p :: rest) = delivered reported [p] ++ delivered p.1 rest := by
  rw [delivered, delivered]
  split
  case isTrue => rw [delivered, List.append_nil]
  case isFalse heq =>
    rw [not_not.mp heq]
    rfl

theorem delivered_eq_edges (reported : α) {values : List (α × Bool)}
    (h : ∀ p ∈ values, p.2 = true) :
    delivered reported values = edges reported (values.map Prod.fst) := by
  induction values generalizing reported with
  | nil => rfl
  | cons p rest ih =>
    have hrest := fun before => ih before fun q hq => h q (List.mem_cons_of_mem _ hq)
    rw [delivered, h p List.mem_cons_self, if_pos rfl, List.map_cons, edges, hrest, hrest]
    rfl

/-! ### Values made of parts -/

/-- A part of a state that events set or leave alone is what was last said about it. -/
theorem part_eq_last {σ ε β : Type*} (step : σ → ε → σ) (part : σ → β) (said : ε → Option β)
    (h : ∀ s e, part (step s e) = (said e).getD (part s)) (s : σ) (events : List ε) :
    part (events.foldl step s) = (events.filterMap said).getLastD (part s) := by
  induction events generalizing s with
  | nil => rfl
  | cons e rest ih =>
    rw [List.foldl_cons, ih, h, List.filterMap_cons]
    cases said e with
    | none => rfl
    | some value => exact List.getLastD_cons.symm

end EdgeTrigger
