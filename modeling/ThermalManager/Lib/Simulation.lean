import ThermalManager.Lib.Outcome

/-!
# Simulation by labels

A step of a system may be no step, one step or several steps of a simpler one. What it is there is
its list of labels. If a relation between the states survives every step that returns, with the
labels taken on the other side, it survives every run that returns, with the labels of the run. A
run that does not return has no last state to say anything about.
-/

universe u v w x y

namespace Outcome

variable {σ : Type u} {τ : Type x} {ε : Type v} {ε' : Type y} {α : Type w}

section Trace

variable (step : σ → ε → Outcome σ) (emit : σ → ε → List α)

/-- The labels of the steps of a run, up to the first that does not return. -/
def trace : σ → List ε → List α
  | _, [] => []
  | s, e :: events =>
      match step s e with
      | .done s' => emit s e ++ trace s' events
      | .diverges => []
      | .faults => []

variable {step emit} {s s' : σ} {e : ε}

theorem trace_cons (h : step s e = .done s') (events : List ε) :
    trace step emit s (e :: events) = emit s e ++ trace step emit s' events := by
  rw [trace, h]

theorem foldlM_cons_eq_done_iff {last : σ} {events : List ε} :
    (e :: events).foldlM step s = .done last ↔
      ∃ mid, step s e = .done mid ∧ events.foldlM step mid = .done last := by
  rw [List.foldlM_cons]
  exact bind_eq_done_iff

theorem foldlM_append_eq_done_iff {last : σ} {first second : List ε} :
    (first ++ second).foldlM step s = .done last ↔
      ∃ mid, first.foldlM step s = .done mid ∧ second.foldlM step mid = .done last := by
  induction first generalizing s with
  | nil =>
    constructor
    · intro h
      exact ⟨s, rfl, h⟩
    · rintro ⟨mid, hmid, h⟩
      cases hmid
      exact h
  | cons e rest ih =>
    rw [List.cons_append, foldlM_cons_eq_done_iff]
    constructor
    · rintro ⟨next, hnext, hrest⟩
      obtain ⟨mid, hmid, hsecond⟩ := ih.mp hrest
      exact ⟨mid, foldlM_cons_eq_done_iff.mpr ⟨next, hnext, hmid⟩, hsecond⟩
    · rintro ⟨mid, hfirst, hsecond⟩
      obtain ⟨next, hnext, hmid⟩ := foldlM_cons_eq_done_iff.mp hfirst
      exact ⟨next, hnext, ih.mpr ⟨mid, hmid, hsecond⟩⟩

theorem trace_append {mid : σ} {first : List ε} (h : first.foldlM step s = .done mid)
    (second : List ε) :
    trace step emit s (first ++ second) =
      trace step emit s first ++ trace step emit mid second := by
  induction first generalizing s with
  | nil =>
    cases h
    rfl
  | cons e rest ih =>
    obtain ⟨next, hnext, hrest⟩ := foldlM_cons_eq_done_iff.mp h
    rw [List.cons_append, trace_cons hnext, trace_cons hnext, ih hrest, List.append_assoc]

theorem trace_concat {mid : σ} {events : List ε} (h : events.foldlM step s = .done mid)
    (hlast : step mid e = .done s') :
    trace step emit s (events ++ [e]) = trace step emit s events ++ emit mid e := by
  rw [trace_append h, trace_cons hlast, trace, List.append_nil]

end Trace

/-- Every step that returns keeps the relation, if the other side takes the labels of the step. -/
structure Simulates (step : σ → ε → Outcome σ) (emit : σ → ε → List α) (answer : τ → α → τ)
    (rel : σ → τ → Prop) : Prop where
  next : ∀ {s s' : σ} {t : τ} {e : ε}, rel s t → step s e = .done s' →
    rel s' ((emit s e).foldl answer t)

variable {step : σ → ε → Outcome σ} {emit : σ → ε → List α}

/-- **A run is matched by its labels.** -/
theorem Simulates.run {answer : τ → α → τ} {rel : σ → τ → Prop}
    (h : Simulates step emit answer rel) {s s' : σ} {t : τ} {events : List ε} (hstart : rel s t)
    (hrun : events.foldlM step s = .done s') :
    rel s' ((trace step emit s events).foldl answer t) := by
  induction events generalizing s t with
  | nil =>
    cases hrun
    exact hstart
  | cons e rest ih =>
    obtain ⟨mid, hmid, hrest⟩ := foldlM_cons_eq_done_iff.mp hrun
    rw [trace_cons hmid, List.foldl_append]
    exact ih (h.next hstart hmid) hrest

/-- A relation to the labels so far that every step that returns keeps relates the last state to the
labels of the run. -/
theorem relation_of_run (rel : σ → List α → Prop)
    (hstep : ∀ {s s' : σ} {e : ε} {before : List α}, rel s before → step s e = .done s' →
      rel s' (before ++ emit s e)) {s s' : σ} {events : List ε} (hstart : rel s [])
    (hrun : events.foldlM step s = .done s') : rel s' (trace step emit s events) := by
  have hpush : ∀ labels before : List α,
      labels.foldl (fun before label => before ++ [label]) before = before ++ labels := by
    intro labels before
    rw [List.foldl_append_eq_append, ← List.flatMap_def, List.flatMap_singleton']
  have hsim : Simulates step emit (fun before label => before ++ [label]) rel := by
    refine ⟨fun hrel hnext => ?_⟩
    rw [hpush]
    exact hstep hrel hnext
  have hlast := hsim.run hstart hrun
  rw [hpush, List.nil_append] at hlast
  exact hlast

theorem invariant_of_run (inv : σ → Prop)
    (hstep : ∀ {s s' : σ} {e : ε}, inv s → step s e = .done s' → inv s') {s s' : σ}
    {events : List ε} (hstart : inv s) (hrun : events.foldlM step s = .done s') : inv s' := by
  induction events generalizing s with
  | nil =>
    cases hrun
    exact hstart
  | cons e rest ih =>
    obtain ⟨mid, hmid, hrest⟩ := foldlM_cons_eq_done_iff.mp hrun
    exact ih (hstep hstart hmid) hrest

/-- Two systems that look alike go on looking alike over matched events, if both return. -/
theorem alike_of_runs {step' : τ → ε' → Outcome τ} {alike : σ → τ → Prop} {matched : ε → ε' → Prop}
    (hstep : ∀ {s s' : σ} {t t' : τ} {e : ε} {e' : ε'}, alike s t → matched e e' →
      step s e = .done s' → step' t e' = .done t' → alike s' t') {s s' : σ} {t t' : τ}
    {events : List ε} {events' : List ε'} (hmatched : List.Forall₂ matched events events')
    (hstart : alike s t) (hrun : events.foldlM step s = .done s')
    (hrun' : events'.foldlM step' t = .done t') : alike s' t' := by
  induction hmatched generalizing s t with
  | nil =>
    cases hrun
    cases hrun'
    exact hstart
  | cons hfirst _ ih =>
    obtain ⟨mid, hmid, hrest⟩ := foldlM_cons_eq_done_iff.mp hrun
    obtain ⟨mid', hmid', hrest'⟩ := foldlM_cons_eq_done_iff.mp hrun'
    exact ih (hstep hstart hfirst hmid hmid') hrest hrest'

end Outcome
