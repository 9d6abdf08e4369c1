import Mathlib.Data.List.Basic
import Std.Data.ExtTreeMap

/-!
# One loop over the receivers of a message

A sender serves its receivers in some order. Each turn changes a state that the next turn starts
from, and the receiver is handed the state its own turn leaves. So what a receiver gets can depend
on the receivers served before it. When a turn collects the entries a receiver asked for into a map
that already holds an entry, the older one stays, and the receiver is handed its own entries
together with those collected for the others. What a receiver was last told under a key is the
latest entry with that key among the maps it was handed.
-/

namespace Fanout

section Serve

variable {σ ρ κ : Type*}

/-- The receivers in order, each with the state its turn leaves. -/
def serve (take : σ → ρ → σ) : σ → List ρ → List (ρ × σ)
  | _, [] => []
  | s, r :: rest => (r, take s r) :: serve take (take s r) rest

theorem map_fst_serve (take : σ → ρ → σ) (s : σ) (order : List ρ) :
    (serve take s order).map Prod.fst = order := by
  induction order generalizing s with
  | nil => rfl
  | cons r rest ih =>
    show r :: (serve take (take s r) rest).map Prod.fst = r :: rest
    rw [ih]

theorem mem_serve {take : σ → ρ → σ} {s out : σ} {order : List ρ} {r : ρ} :
    (r, out) ∈ serve take s order ↔
      ∃ before after, order = before ++ r :: after ∧ out = (before ++ [r]).foldl take s := by
  induction order generalizing s with
  | nil => simp [serve]
  | cons first rest ih =>
    rw [serve, List.mem_cons, ih]
    refine ⟨fun h => ?_, fun h => ?_⟩
    · rcases h with heq | ⟨before, after, rfl, rfl⟩
      · obtain ⟨rfl, rfl⟩ := Prod.mk.inj heq
        exact ⟨[], rest, rfl, rfl⟩
      · exact ⟨first :: before, after, rfl, rfl⟩
    · obtain ⟨before, after, horder, rfl⟩ := h
      cases before with
      | nil =>
        obtain ⟨rfl, -⟩ := List.cons.inj horder
        exact .inl rfl
      | cons _ before =>
        obtain ⟨rfl, rfl⟩ := List.cons.inj horder
        exact .inr ⟨before, after, rfl, rfl⟩

/-- Turns that work through a list each work through all the lists in a row. -/
theorem foldl_turns (work : σ → κ → σ) (asked : ρ → List κ) (s : σ) (order : List ρ) :
    order.foldl (fun s r => (asked r).foldl work s) s = (order.flatMap asked).foldl work s := by
  induction order generalizing s with
  | nil => rfl
  | cons r rest ih =>
    rw [List.foldl_cons, ih, List.flatMap_cons, List.foldl_append]

end Serve

section Hear

variable {ρ κ β : Type} [DecidableEq ρ] [Ord κ] [Std.TransOrd κ]

/-- What each receiver was last told, after these maps were handed out. -/
def hear (heard : ρ → κ → Option β) (told : List (ρ × Std.ExtTreeMap κ β compare)) (r : ρ)
    (key : κ) : Option β :=
  match told.lookup r with
  | some entries => entries[key]?.or (heard r key)
  | none => heard r key

theorem hear_of_mem {heard : ρ → κ → Option β} {told : List (ρ × Std.ExtTreeMap κ β compare)}
    {r : ρ} (h : r ∈ told.map Prod.fst) (key : κ) :
    ∃ entries, (r, entries) ∈ told ∧ hear heard told r key = entries[key]?.or (heard r key) := by
  rw [hear]
  cases hlookup : told.lookup r with
  | some entries =>
    obtain ⟨_, _, heq, -⟩ := List.lookup_eq_some_iff.mp hlookup
    refine ⟨entries, ?_, rfl⟩
    rw [heq]
    exact List.mem_append_right _ List.mem_cons_self
  | none =>
    obtain ⟨turn, hturn, rfl⟩ := List.mem_map.mp h
    have hne := List.lookup_eq_none_iff.mp hlookup turn hturn
    rw [bne_self_eq_false] at hne
    cases hne

theorem hear_of_not_mem {heard : ρ → κ → Option β}
    {told : List (ρ × Std.ExtTreeMap κ β compare)} {r : ρ} (h : r ∉ told.map Prod.fst) (key : κ) :
    hear heard told r key = heard r key := by
  rw [hear]
  cases hlookup : told.lookup r with
  | none => rfl
  | some entries =>
    obtain ⟨_, _, heq, -⟩ := List.lookup_eq_some_iff.mp hlookup
    refine absurd ?_ h
    rw [heq, List.map_append]
    exact List.mem_append_right _ List.mem_cons_self

theorem hear_singleton (heard : ρ → κ → Option β) (r : ρ) (entries : Std.ExtTreeMap κ β compare)
    (key : κ) : hear heard [(r, entries)] r key = entries[key]?.or (heard r key) := by
  rw [hear, List.lookup_cons_self]

end Hear

section Collect

variable {κ β : Type} [Ord κ] [Std.TransOrd κ] [Std.LawfulEqOrd κ] [DecidableEq κ]

theorem getElem?_insertIfNew (m : Std.ExtTreeMap κ β compare) (key other : κ) (value : β) :
    (m.insertIfNew key value)[other]? =
      if key = other then some (m.getD key value) else m[other]? := by
  rw [Std.ExtTreeMap.getElem?_insertIfNew]
  by_cases heq : key = other
  · subst heq
    rw [if_pos rfl]
    by_cases hmem : key ∈ m
    · rw [if_neg (fun h => h.2 hmem), Std.ExtTreeMap.getElem?_eq_some_getD hmem]
    · rw [if_pos ⟨Std.ReflOrd.compare_self, hmem⟩, Std.ExtTreeMap.getD_eq_fallback hmem]
  · rw [if_neg heq, if_neg (fun h => heq (Std.LawfulEqOrd.eq_of_compare h.1))]

theorem getElem?_insert (m : Std.ExtTreeMap κ β compare) (key other : κ) (value : β) :
    (m.insert key value)[other]? = if key = other then some value else m[other]? := by
  rw [Std.ExtTreeMap.getElem?_insert]
  simp only [Std.LawfulEqOrd.compare_eq_iff_eq]

/-- The entry of `find` for a key, added if there is none yet. -/
def add (find : κ → Option β) (collected : Std.ExtTreeMap κ β compare) (key : κ) :
    Std.ExtTreeMap κ β compare :=
  match find key with
  | some value => collected.insertIfNew key value
  | none => collected

theorem getElem?_add (find : κ → Option β) (collected : Std.ExtTreeMap κ β compare)
    (key other : κ) :
    (add find collected key)[other]? =
      collected[other]?.or (if key = other then find other else none) := by
  rw [add]
  cases hfind : find key with
  | none =>
    by_cases heq : key = other
    · rw [if_pos heq, ← heq, hfind, Option.or_none]
    · rw [if_neg heq, Option.or_none]
  | some value =>
    show (collected.insertIfNew key value)[other]? = _
    rw [getElem?_insertIfNew]
    by_cases heq : key = other
    · rw [if_pos heq, if_pos heq, ← heq, hfind, Std.ExtTreeMap.getD_eq_getD_getElem?]
      cases collected[key]? with
      | none => rfl
      | some old => rfl
    · rw [if_neg heq, if_neg heq, Option.or_none]

theorem getElem?_insertIfNew_or (m : Std.ExtTreeMap κ β compare) (key other : κ) (value : β) :
    (m.insertIfNew key value)[other]? = m[other]?.or (if key = other then some value else none) :=
  getElem?_add (fun _ => some value) m key other

/-- The entries of `find` for the keys, added where there is none yet. -/
def collect (find : κ → Option β) (collected : Std.ExtTreeMap κ β compare) (keys : List κ) :
    Std.ExtTreeMap κ β compare :=
  keys.foldl (add find) collected

theorem getElem?_collect (find : κ → Option β) (keys : List κ)
    (collected : Std.ExtTreeMap κ β compare) (key : κ) :
    (collect find collected keys)[key]? =
      collected[key]?.or (if key ∈ keys then find key else none) := by
  induction keys generalizing collected with
  | nil => simp [collect]
  | cons first rest ih =>
    show (collect find (add find collected first) rest)[key]? = _
    rw [ih, getElem?_add, Option.or_assoc]
    congr 1
    by_cases hfirst : first = key
    · subst hfirst
      rw [if_pos rfl, if_pos List.mem_cons_self]
      by_cases hagain : first ∈ rest
      · rw [if_pos hagain, Option.or_self]
      · rw [if_neg hagain, Option.or_none]
    · have hkey : (key ∈ first :: rest) ↔ key ∈ rest := by simp [Ne.symm hfirst]
      simp only [hkey, if_neg hfirst, Option.none_or]

end Collect

end Fanout
