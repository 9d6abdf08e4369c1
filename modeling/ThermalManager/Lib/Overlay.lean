import Mathlib.Logic.Function.Basic
import Mathlib.Data.Option.Basic

/-!
# Partial writes to a family of parts

A state is a family of parts. A partial write replaces some of them; writes compose, the later one
winning. A write leaves a state as it is exactly when every part it writes is there already, and a
write that came first goes unnoticed exactly when the parts the second one leaves alone were there
already.
-/

namespace Overlay

variable {ι : Type*} {β : ι → Type*}

/-- A new value for some of the parts. -/
abbrev Writes (β : ι → Type*) : Type _ := ∀ i, Option (β i)

namespace Writes

def none : Writes β := fun _ => Option.none

def single [DecidableEq ι] (i : ι) (v : β i) : Writes β :=
  Function.update (fun _ => Option.none) i (some v)

/-- The second write after the first one. -/
def after (second first : Writes β) : Writes β := fun i => (second i).or (first i)

def apply (w : Writes β) (state : ∀ i, β i) : ∀ i, β i := fun i => (w i).getD (state i)

@[simp] theorem apply_none (state : ∀ i, β i) : (none : Writes β).apply state = state := rfl

theorem apply_single [DecidableEq ι] (i : ι) (v : β i) (state : ∀ i, β i) :
    (single i v).apply state = Function.update state i v := by
  funext j
  by_cases hj : j = i
  · subst hj
    rw [apply, single, Function.update_self, Function.update_self, Option.getD_some]
  · rw [apply, single, Function.update_of_ne hj, Function.update_of_ne hj, Option.getD_none]

theorem apply_after (second first : Writes β) (state : ∀ i, β i) :
    (second.after first).apply state = second.apply (first.apply state) := by
  funext i
  rw [apply, after, apply, apply]
  cases second i <;> rfl

/-- The last of several writes to each part. -/
def last (ws : List (Writes β)) : Writes β := fun i => ws.reverse.findSome? fun w => w i

@[simp] theorem last_nil : (last [] : Writes β) = none := rfl

theorem last_cons (w : Writes β) (ws : List (Writes β)) : last (w :: ws) = (last ws).after w := by
  funext i
  rw [after, last, last, List.reverse_cons, List.findSome?_append]
  cases hw : w i <;> simp [hw]

theorem apply_eq_self_iff {w : Writes β} {state : ∀ i, β i} :
    w.apply state = state ↔ ∀ (i : ι) (v : β i), w i = some v → state i = v := by
  refine ⟨fun h => ?_, fun h => ?_⟩
  · intro i v hv
    have hi := congrFun h i
    rw [apply, hv] at hi
    exact hi.symm
  · funext i
    rw [apply]
    cases hv : w i with
    | none => rfl
    | some v => exact (h i v hv).symm

/-- A first write goes unnoticed exactly when what it writes is overwritten or was there. -/
theorem apply_apply_eq_iff {second first : Writes β} {state : ∀ i, β i} :
    second.apply (first.apply state) = second.apply state ↔
      ∀ (i : ι) (v : β i), first i = some v → second i = Option.none → state i = v := by
  refine ⟨fun h => ?_, fun h => ?_⟩
  · intro i v hfirst hsecond
    have hi := congrFun h i
    rw [apply, apply, apply, hsecond, hfirst] at hi
    exact hi.symm
  · funext i
    rw [apply, apply, apply]
    cases hsecond : second i with
    | some v => rfl
    | none =>
      cases hfirst : first i with
      | none => rfl
      | some v => exact (h i v hfirst hsecond).symm

end Writes

end Overlay
