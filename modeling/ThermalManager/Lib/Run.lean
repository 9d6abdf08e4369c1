import Mathlib.Data.List.Basic

/-!
# Runs of a guarded step function

A system is a step function together with a guard saying which events can happen where. A run is a
list of events, each enabled in the state it happens in. Every safety result of the development is
an instance of `Run.invariant`: what holds at the start and is preserved by an enabled step holds
at the end of every run. A condition on the steps of a run is a stronger guard, so the same rule
serves a conditional result.
-/

namespace StepSystem

variable {σ ε : Type*}

/-- From the first state the events happen one after the other and end in the last state. -/
inductive Run (ok : σ → ε → Prop) (step : σ → ε → σ) : σ → List ε → σ → Prop where
  | nil (s : σ) : Run ok step s [] s
  | snoc {s s' : σ} {events : List ε} {e : ε} :
      Run ok step s events s' → ok s' e → Run ok step s (events ++ [e]) (step s' e)

namespace Run

variable {ok : σ → ε → Prop} {step : σ → ε → σ} {s s' : σ} {events : List ε}

/-- What holds at the start and is preserved by every enabled step holds after the run. -/
theorem invariant (inv : σ → Prop) (hinit : inv s)
    (hstep : ∀ state e, inv state → ok state e → inv (step state e))
    (hrun : Run ok step s events s') : inv s' := by
  induction hrun with
  | nil => exact hinit
  | snoc _ hok ih => exact hstep _ _ ih hok

theorem invariant_of_mem (inv : σ → Prop) (hinit : inv s)
    (hstep : ∀ state, ∀ e ∈ events, inv state → ok state e → inv (step state e))
    (hrun : Run ok step s events s') : inv s' := by
  induction hrun with
  | nil => exact hinit
  | snoc _ hok ih =>
    apply hstep _ _ (List.mem_append_right _ List.mem_cons_self) _ hok
    exact ih fun state e hmem => hstep state e (List.mem_append_left _ hmem)

theorem last_step (hne : events ≠ []) (hrun : Run ok step s events s') :
    ∃ before mid e, events = before ++ [e] ∧ Run ok step s before mid ∧ ok mid e ∧
      s' = step mid e := by
  cases hrun with
  | nil => exact absurd rfl hne
  | snoc hbefore hok => exact ⟨_, _, _, rfl, hbefore, hok, rfl⟩

/-- What every step establishes, from a state the invariant holds in, holds after a nonempty run. -/
theorem after_last (inv post : σ → Prop) (hinit : inv s)
    (hstep : ∀ state e, inv state → ok state e → inv (step state e))
    (hpost : ∀ state e, inv state → ok state e → post (step state e))
    (hne : events ≠ []) (hrun : Run ok step s events s') : post s' := by
  obtain ⟨before, mid, e, -, hbefore, hok, rfl⟩ := hrun.last_step hne
  exact hpost mid e (hbefore.invariant inv hinit hstep) hok

theorem nil_inv (hrun : Run ok step s [] s') : s' = s := by
  generalize hnil : ([] : List ε) = events at hrun
  cases hrun with
  | nil => rfl
  | snoc => exact absurd hnil.symm (List.concat_ne_nil _ _)

theorem single_inv {e : ε} (hrun : Run ok step s [e] s') : ok s e ∧ s' = step s e := by
  obtain ⟨before, mid, last, hevents, hbefore, hok, rfl⟩ :=
    hrun.last_step (List.cons_ne_nil e [])
  have hsplit : [] ++ [e] = before ++ [last] := hevents
  obtain ⟨rfl, hlast⟩ := List.append_inj' hsplit rfl
  obtain rfl := List.singleton_inj.mp hlast
  rw [hbefore.nil_inv] at hok ⊢
  exact ⟨hok, rfl⟩

theorem mono {ok' : σ → ε → Prop} (h : ∀ state e, ok state e → ok' state e)
    (hrun : Run ok step s events s') : Run ok' step s events s' := by
  induction hrun with
  | nil => exact .nil _
  | snoc _ hok ih => exact .snoc ih (h _ _ hok)

theorem cons {e : ε} (hok : ok s e) (hrun : Run ok step (step s e) events s') :
    Run ok step s (e :: events) s' := by
  induction hrun with
  | nil => exact .snoc (.nil s) hok
  | snoc _ hlast ih => exact .snoc ih hlast

end Run

/-- The events are enabled one after the other. -/
def Enabled (ok : σ → ε → Prop) (step : σ → ε → σ) : σ → List ε → Prop
  | _, [] => True
  | s, e :: events => ok s e ∧ Enabled ok step (step s e) events

instance decidableEnabled (ok : σ → ε → Prop) [∀ s e, Decidable (ok s e)] (step : σ → ε → σ) :
    (s : σ) → (events : List ε) → Decidable (Enabled ok step s events)
  | _, [] => inferInstanceAs (Decidable True)
  | s, e :: events =>
      have := decidableEnabled ok step (step s e) events
      inferInstanceAs (Decidable (ok s e ∧ Enabled ok step (step s e) events))

/-- Guards that agree wherever the invariant holds enable the same events. The invariant need only
be kept by steps that the guards enable. -/
theorem enabled_congr {ok ok' : σ → ε → Prop} {step : σ → ε → σ} (inv : σ → Prop)
    (hiff : ∀ s e, inv s → (ok s e ↔ ok' s e)) (hstep : ∀ s e, inv s → ok s e → inv (step s e))
    {s : σ} (hinit : inv s) (events : List ε) :
    Enabled ok step s events ↔ Enabled ok' step s events := by
  induction events generalizing s with
  | nil => exact Iff.rfl
  | cons e rest ih =>
    show ok s e ∧ _ ↔ ok' s e ∧ _
    rw [← hiff s e hinit]
    exact and_congr_right fun hok => ih (hstep s e hinit hok)

theorem Enabled.run {ok : σ → ε → Prop} {step : σ → ε → σ} {s : σ} {events : List ε}
    (h : Enabled ok step s events) : Run ok step s events (events.foldl step s) := by
  induction events generalizing s with
  | nil => exact .nil s
  | cons e rest ih => exact (ih h.2).cons h.1

theorem enabled_append {ok : σ → ε → Prop} {step : σ → ε → σ} {s : σ} (first second : List ε) :
    Enabled ok step s (first ++ second) ↔
      Enabled ok step s first ∧ Enabled ok step (first.foldl step s) second := by
  induction first generalizing s with
  | nil => exact (and_iff_right trivial).symm
  | cons e rest ih => exact (and_congr_right fun _ => ih).trans and_assoc.symm

theorem Enabled.enabled_at {ok : σ → ε → Prop} {step : σ → ε → σ} {s : σ} {events before : List ε}
    {e : ε} (h : Enabled ok step s events) (hnext : before ++ [e] <+: events) :
    ok (before.foldl step s) e := by
  obtain ⟨after, rfl⟩ := hnext
  exact ((enabled_append before [e]).mp ((enabled_append _ after).mp h).1).2.1

theorem enabled_iff_forall {ok : σ → ε → Prop} {step : σ → ε → σ} {s : σ} {events : List ε} :
    Enabled ok step s events ↔
      ∀ before e, before ++ [e] <+: events → ok (before.foldl step s) e := by
  constructor
  · intro h before e
    exact h.enabled_at
  · intro h
    induction events generalizing s with
    | nil => trivial
    | cons first rest ih =>
      refine ⟨h [] first (List.prefix_append [first] rest), ih fun before e hnext => ?_⟩
      exact h (first :: before) e ((List.prefix_cons_inj first).mpr hnext)

/-- A property of states holds before and after each of the events. -/
def Always (step : σ → ε → σ) (good : σ → Prop) (s : σ) (events : List ε) : Prop :=
  ∀ before, before <+: events → good (before.foldl step s)

section Always

variable {ok safe : σ → ε → Prop} {step : σ → ε → σ} {good : σ → Prop} {s : σ}

theorem always_nil : Always step good s [] ↔ good s := by
  constructor
  · intro h
    exact h [] (List.prefix_refl [])
  · intro h before hbefore
    rw [List.prefix_nil.mp hbefore]
    exact h

theorem always_cons (e : ε) (events : List ε) :
    Always step good s (e :: events) ↔ good s ∧ Always step good (step s e) events := by
  constructor
  · intro h
    refine ⟨h [] List.nil_prefix, fun before hbefore => ?_⟩
    exact h (e :: before) ((List.prefix_cons_inj e).mpr hbefore)
  · rintro ⟨hgood, hrest⟩ before hbefore
    rcases List.prefix_cons_iff.mp hbefore with rfl | ⟨tail, rfl, htail⟩
    · exact hgood
    · exact hrest tail htail

theorem Always.head {events : List ε} (h : Always step good s events) : good s :=
  h [] List.nil_prefix

/-- Where every enabled step from a good state is good exactly if it is safe, a run stays good
exactly if all its steps are safe. -/
theorem always_iff_enabled (inv good : σ → Prop) (hstep : ∀ s e, inv s → ok s e → inv (step s e))
    (hiff : ∀ s e, inv s → ok s e → good s → (good (step s e) ↔ safe s e)) (hinit : inv s)
    (hgood : good s) {events : List ε} (hrun : Enabled ok step s events) :
    Always step good s events ↔ Enabled safe step s events := by
  induction events generalizing s with
  | nil => exact always_nil.trans (iff_true_intro hgood)
  | cons e rest ih =>
    have hnext := hiff s e hinit hrun.1 hgood
    rw [always_cons]
    constructor
    · rintro ⟨-, hrest⟩
      have hgood' := hrest.head
      exact ⟨hnext.mp hgood', (ih (hstep s e hinit hrun.1) hgood' hrun.2).mp hrest⟩
    · rintro ⟨hsafe, hrest⟩
      have hgood' := hnext.mpr hsafe
      exact ⟨hgood, (ih (hstep s e hinit hrun.1) hgood' hrun.2).mpr hrest⟩

theorem enabled_of_forall (hok : ∀ s e, ok s e) (s : σ) (events : List ε) :
    Enabled ok step s events := by
  induction events generalizing s with
  | nil => trivial
  | cons e rest ih => exact ⟨hok s e, ih (step s e)⟩

/-- The rule without a guard and without an invariant. -/
theorem always_iff_enabled_of_step (good : σ → Prop)
    (hiff : ∀ s e, good s → (good (step s e) ↔ safe s e)) (hgood : good s) (events : List ε) :
    Always step good s events ↔ Enabled safe step s events :=
  always_iff_enabled (fun _ => True) good (fun _ _ _ _ => trivial)
    (fun s e _ _ h => hiff s e h) trivial hgood
    (enabled_of_forall (fun _ _ => (trivial : True)) s events)

theorem Enabled.always (good : σ → Prop) (hgood : good s)
    (hstep : ∀ s e, good s → ok s e → good (step s e)) {events : List ε}
    (hrun : Enabled ok step s events) : Always step good s events := by
  induction events generalizing s with
  | nil => exact always_nil.mpr hgood
  | cons e rest ih =>
    exact (always_cons e rest).mpr ⟨hgood, ih (hstep s e hgood hrun.1) hrun.2⟩

end Always

theorem foldlM_isSome {f : σ → ε → Option σ} {events : List ε}
    (hf : ∀ (s : σ) (e : ε), e ∈ events → (f s e).isSome) (s : σ) :
    (events.foldlM f s).isSome := by
  induction events generalizing s with
  | nil => rfl
  | cons e rest ih =>
    obtain ⟨mid, hmid⟩ := Option.isSome_iff_exists.mp (hf s e List.mem_cons_self)
    rw [List.foldlM_cons, hmid]
    exact ih (fun s e' he' => hf s e' (List.mem_cons_of_mem _ he')) mid

theorem foldlM_invariant {f : σ → ε → Option σ} (inv : σ → Prop) {events : List ε}
    (hf : ∀ (s : σ) (e : ε) (s' : σ), e ∈ events → inv s → f s e = some s' → inv s') {s s' : σ}
    (hs : inv s) (h : events.foldlM f s = some s') : inv s' := by
  induction events generalizing s with
  | nil =>
    obtain rfl := Option.some.inj h
    exact hs
  | cons e rest ih =>
    obtain ⟨mid, hmid, hrest⟩ := Option.bind_eq_some_iff.mp ((List.foldlM_cons ..).symm.trans h)
    refine ih (fun s e' s' he' => hf s e' s' (List.mem_cons_of_mem _ he')) ?_ hrest
    exact hf s e mid List.mem_cons_self hs hmid

end StepSystem
