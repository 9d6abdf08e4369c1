import Mathlib.Data.List.Basic

/-!
# Calls that may fault

A call returns, does not return, or makes an access it must not make. `Guarded` is the weakest
precondition for making none: nothing is asked of a call that does not return. A loop is guarded by
an invariant that guards each of its turns. `EndsAs` compares a call with one that asks less: it
ends in the same way, unless something it asks for is without end.
-/

universe u v

/-- How a call ends. -/
inductive Outcome (α : Type u) where
  | done (value : α)
  | diverges
  | faults

namespace Outcome

variable {α β σ : Type u} {ε : Type v}

def bind : Outcome α → (α → Outcome β) → Outcome β
  | .done value, f => f value
  | .diverges, _ => .diverges
  | .faults, _ => .faults

instance : Monad Outcome where
  pure := .done
  bind := bind

/-- An access, nothing when it is out of range. -/
def orFaults : Option α → Outcome α
  | none => .faults
  | some value => .done value

/-- A call, nothing when it does not return. -/
def orDiverges : Option α → Outcome α
  | none => .diverges
  | some value => .done value

theorem bind_eq_done_iff {x : Outcome α} {f : α → Outcome β} {value : β} :
    x >>= f = .done value ↔ ∃ mid, x = .done mid ∧ f mid = .done value := by
  constructor
  · intro h
    cases x with
    | done mid => exact ⟨mid, rfl, h⟩
    | diverges => cases h
    | faults => cases h
  · rintro ⟨mid, rfl, h⟩
    exact h

theorem orDiverges_eq_done_iff {call : Option α} {value : α} :
    orDiverges call = .done value ↔ call = some value := by
  cases call with
  | none => exact iff_of_false (fun h => by cases h) (fun h => by cases h)
  | some found =>
    constructor
    · intro h
      cases h
      rfl
    · intro h
      cases h
      rfl

theorem orDiverges_bind (call : Option α) (f : α → Option β) :
    orDiverges (call >>= f) = orDiverges call >>= fun value => orDiverges (f value) := by
  cases call <;> rfl

theorem orDiverges_foldlM (f : σ → ε → Option σ) (entries : List ε) (s : σ) :
    orDiverges (entries.foldlM f s) = entries.foldlM (fun s e => orDiverges (f s e)) s := by
  induction entries generalizing s with
  | nil => rfl
  | cons e rest ih =>
    rw [List.foldlM_cons, List.foldlM_cons, orDiverges_bind]
    exact congrArg (orDiverges (f s e) >>= ·) (funext fun mid => ih mid)

def isDone : Outcome α → Bool
  | .done _ => true
  | _ => false

theorem isDone_iff {x : Outcome α} : x.isDone ↔ ∃ value, x = .done value := by
  cases x with
  | done value => exact iff_of_true rfl ⟨value, rfl⟩
  | diverges => exact iff_of_false Bool.false_ne_true nofun
  | faults => exact iff_of_false Bool.false_ne_true nofun

theorem done_bind (value : α) (f : α → Outcome β) : done value >>= f = f value := rfl

protected theorem bind_assoc {γ : Type u} (x : Outcome α) (f : α → Outcome β) (g : β → Outcome γ) :
    x >>= f >>= g = x >>= fun value => f value >>= g := by
  cases x <;> rfl

theorem bind_done (x : Outcome α) : (x >>= fun value => .done value) = x := by
  cases x <;> rfl

theorem bind_ne_diverges {x : Outcome α} {f : α → Outcome β} (hx : x ≠ .diverges)
    (hf : ∀ value, x = .done value → f value ≠ .diverges) : x >>= f ≠ .diverges := by
  cases x with
  | done value => exact hf value rfl
  | diverges => exact absurd rfl hx
  | faults => exact fun h => by cases h

/-- The call makes no bad access, and what it returns is as wanted. -/
def Guarded (post : α → Prop) : Outcome α → Prop
  | .done value => post value
  | .diverges => True
  | .faults => False

variable {post : α → Prop}

theorem guarded_pure {value : α} (h : post value) : (pure value : Outcome α).Guarded post := h

theorem guarded_orDiverges {call : Option α} (h : ∀ value, call = some value → post value) :
    (orDiverges call).Guarded post := by
  cases call with
  | none => trivial
  | some value => exact h value rfl

theorem Guarded.ne_faults {x : Outcome α} (h : x.Guarded post) : x ≠ .faults := by
  rintro rfl
  exact h

theorem Guarded.mono {after : α → Prop} {x : Outcome α} (himp : ∀ value, post value → after value)
    (h : x.Guarded post) : x.Guarded after := by
  cases x with
  | done value => exact himp value h
  | diverges => trivial
  | faults => exact h

theorem Guarded.bind {x : Outcome α} {f : α → Outcome β} {after : β → Prop} (hx : x.Guarded post)
    (hf : ∀ value, post value → (f value).Guarded after) : (x >>= f).Guarded after := by
  cases x with
  | done value => exact hf value hx
  | diverges => trivial
  | faults => exact hx.elim

theorem Guarded.foldlM {f : σ → ε → Outcome σ} (inv : σ → Prop) {entries : List ε}
    (hf : ∀ s, ∀ e ∈ entries, inv s → (f s e).Guarded inv) {s : σ} (hinit : inv s) :
    (entries.foldlM f s).Guarded inv := by
  induction entries generalizing s with
  | nil => exact guarded_pure hinit
  | cons e rest ih =>
    rw [List.foldlM_cons]
    apply Guarded.bind (hf s e List.mem_cons_self hinit)
    intro mid hmid
    exact ih (fun s e' he' => hf s e' (List.mem_cons_of_mem _ he')) hmid

/-! ### Calls that ask more -/

/-- The first call ends as the second, or, where it may, does not return. -/
def EndsAs (mayDiverge : Prop) (x y : Outcome α) : Prop := x = y ∨ mayDiverge ∧ x = .diverges

section EndsAs

variable {mayDiverge : Prop} {x y : Outcome α}

theorem EndsAs.refl (x : Outcome α) : x.EndsAs mayDiverge x := .inl rfl

theorem EndsAs.eq (h : x.EndsAs False y) : x = y := by
  rcases h with heq | ⟨hfalse, -⟩
  · exact heq
  · exact hfalse.elim

theorem EndsAs.eq_of_ne (h : x.EndsAs mayDiverge y) (hreturns : x ≠ .diverges) : x = y := by
  rcases h with heq | ⟨-, hdiverges⟩
  · exact heq
  · exact absurd hdiverges hreturns

theorem EndsAs.bind {f g : α → Outcome β} (hx : x.EndsAs mayDiverge y)
    (hf : ∀ value, y = .done value → (f value).EndsAs mayDiverge (g value)) :
    (x >>= f).EndsAs mayDiverge (y >>= g) := by
  rcases hx with rfl | ⟨hmay, rfl⟩
  · cases x with
    | done value => exact hf value rfl
    | diverges => exact .inl rfl
    | faults => exact .inl rfl
  · exact .inr ⟨hmay, rfl⟩

theorem EndsAs.foldlM {f g : σ → ε → Outcome σ} {entries : List ε}
    (hf : ∀ s, ∀ e ∈ entries, (f s e).EndsAs mayDiverge (g s e)) (s : σ) :
    (entries.foldlM f s).EndsAs mayDiverge (entries.foldlM g s) := by
  induction entries generalizing s with
  | nil => exact .refl _
  | cons e rest ih =>
    rw [List.foldlM_cons, List.foldlM_cons]
    apply EndsAs.bind (hf s e List.mem_cons_self)
    intro mid _
    exact ih (fun s e' he' => hf s e' (List.mem_cons_of_mem _ he')) mid

end EndsAs

end Outcome
