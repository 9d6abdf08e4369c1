import Mathlib.Data.List.Forall2

/-!
# Lists read without their blanks

Two lists are written side by side, and each is read without the entries that do not count. The
places agree as long as the entries that count in one list stand where they stand in the other.
-/

namespace Alignment

variable {α β : Type*} {p : α → Bool} {q : β → Bool}

/-- Every entry that counts has one that counts beside it. -/
def Covered (p : α → Bool) (q : β → Bool) (names : List α) (fields : List β) : Prop :=
  ∀ (k : Nat) (name : α), names[k]? = some name → p name = true →
    ∃ field, fields[k]? = some field ∧ q field = true

theorem Covered.tail {name : α} {names : List α} {field : β} {fields : List β}
    (h : Covered p q (name :: names) (field :: fields)) : Covered p q names fields :=
  fun k other hother => h (k + 1) other hother

theorem Covered.length_le {names : List α} {fields : List β} (h : Covered p q names fields) :
    (names.filter p).length ≤ (fields.filter q).length := by
  induction names generalizing fields with
  | nil => exact Nat.zero_le _
  | cons name names ih =>
    cases fields with
    | nil =>
      have hnone : (name :: names).filter p = [] := by
        refine List.filter_eq_nil_iff.mpr fun other hother hp => ?_
        obtain ⟨k, hk⟩ := List.mem_iff_getElem?.mp hother
        obtain ⟨field, hfield, -⟩ := h k other hk hp
        cases hfield
      rw [hnone]
      exact Nat.zero_le _
    | cons field fields =>
      have hrest := ih h.tail
      by_cases hname : p name = true
      · obtain ⟨_, hfirst, hfield⟩ := h 0 name rfl hname
        obtain rfl := Option.some.inj hfirst
        rw [List.filter_cons_of_pos hname, List.filter_cons_of_pos hfield]
        exact Nat.succ_le_succ hrest
      · rw [List.filter_cons_of_neg hname]
        exact Nat.le_trans hrest ((List.sublist_cons_self field fields).filter q).length_le

/-- With as many fields as names, the field read for a name is the one written beside it. -/
theorem Covered.exists_beside {names : List α} {fields : List β} (h : Covered p q names fields)
    (hlength : (names.filter p).length = (fields.filter q).length) {i : Nat} {name : α}
    (hname : (names.filter p)[i]? = some name) :
    ∃ (k : Nat) (field : β), names[k]? = some name ∧ fields[k]? = some field ∧
      (fields.filter q)[i]? = some field := by
  induction names generalizing fields i with
  | nil => cases hname
  | cons first names ih =>
    cases fields with
    | nil =>
      rw [List.filter_nil, List.length_nil, List.length_eq_zero_iff] at hlength
      rw [hlength] at hname
      cases hname
    | cons field fields =>
      by_cases hfirst : p first = true
      · obtain ⟨_, hbeside, hfield⟩ := h 0 first rfl hfirst
        obtain rfl := Option.some.inj hbeside
        rw [List.filter_cons_of_pos hfirst] at hname hlength
        rw [List.filter_cons_of_pos hfield] at hlength ⊢
        cases i with
        | zero =>
          obtain rfl := Option.some.inj hname
          exact ⟨0, _, rfl, rfl, rfl⟩
        | succ i =>
          obtain ⟨k, found, hk, hfound, hread⟩ := ih h.tail (Nat.succ.inj hlength) hname
          exact ⟨k + 1, found, hk, hfound, hread⟩
      · rw [List.filter_cons_of_neg hfirst] at hname hlength
        by_cases hfield : q field = true
        · -- then the fields would outnumber the names
          rw [List.filter_cons_of_pos hfield, List.length_cons] at hlength
          have hle := h.tail.length_le
          omega
        · rw [List.filter_cons_of_neg hfield] at hlength ⊢
          obtain ⟨k, found, hk, hfound, hread⟩ := ih h.tail hlength hname
          exact ⟨k + 1, found, hk, hfound, hread⟩

theorem getElem?_filter_of_leading {fields : List β} {n : Nat}
    (h : ∀ j, j < n → ∃ field, fields[j]? = some field ∧ q field = true) {j : Nat} (hj : j < n) :
    (fields.filter q)[j]? = fields[j]? := by
  induction fields generalizing n j with
  | nil => rfl
  | cons first fields ih =>
    obtain ⟨_, hfirst, hcounts⟩ := h 0 (Nat.zero_lt_of_lt hj)
    obtain rfl := Option.some.inj hfirst
    rw [List.filter_cons_of_pos hcounts]
    cases j with
    | zero => rfl
    | succ j => exact @ih (n - 1) (fun j hj => h (j + 1) (by omega)) j (by omega)

/-! ### Lists made piece by piece -/

variable {R : α → β → Prop}

theorem forall₂_append_iff {xs xs' : List α} {ys ys' : List β} (hlength : xs.length = ys.length) :
    List.Forall₂ R (xs ++ xs') (ys ++ ys') ↔ List.Forall₂ R xs ys ∧ List.Forall₂ R xs' ys' := by
  induction xs generalizing ys with
  | nil =>
    obtain rfl := List.length_eq_zero_iff.mp hlength.symm
    simp
  | cons x xs ih =>
    cases ys with
    | nil => cases hlength
    | cons y ys =>
      rw [List.cons_append, List.cons_append, List.forall₂_cons, List.forall₂_cons,
        ih (Nat.succ.inj hlength), and_assoc]

/-- Two lists made of pieces of the same lengths match if the pieces do. -/
theorem forall₂_flatMap_iff {γ : Type*} {f : γ → List α} {g : γ → List β} (pieces : List γ)
    (hlength : ∀ piece, (f piece).length = (g piece).length) :
    List.Forall₂ R (pieces.flatMap f) (pieces.flatMap g) ↔
      ∀ piece ∈ pieces, List.Forall₂ R (f piece) (g piece) := by
  induction pieces with
  | nil => simp
  | cons piece pieces ih =>
    rw [List.flatMap_cons, List.flatMap_cons, forall₂_append_iff (hlength piece), ih,
      List.forall_mem_cons]

theorem exists_of_mem_right {xs : List α} {ys : List β} (h : List.Forall₂ R xs ys) {y : β}
    (hy : y ∈ ys) : ∃ x ∈ xs, R x y := by
  induction h with
  | nil => exact absurd hy List.not_mem_nil
  | cons hR _ ih =>
    rcases List.mem_cons.mp hy with rfl | hrest
    · exact ⟨_, List.mem_cons_self, hR⟩
    · obtain ⟨x, hx, hxy⟩ := ih hrest
      exact ⟨x, List.mem_cons_of_mem _ hx, hxy⟩

end Alignment
