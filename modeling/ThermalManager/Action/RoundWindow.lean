import ThermalManager.Action.TimerOwner

/-!
# The accumulation window of a round

Between two `Execute` calls an action gathers the immediate values of a round. A timer callback
that runs in between decides over what has been gathered so far and clears it. The window records
what a round has added and whether a callback ran while something was gathered.
-/

namespace ThermalManager

open StepSystem Extremum

/-- What happened since the last `Execute`. -/
structure RoundWindow where
  /-- The immediate values accepted so far. -/
  added : List Int := []
  /-- A callback ran after one of them was added. -/
  interrupted : Bool := false

def RoundWindow.step (cls : ActionClass) (window : RoundWindow) : CallEvent → RoundWindow
  | .addActionValue actionId value =>
      if actionId = 0 then { window with added := window.added ++ (cls.parse value).toList }
      else window
  | .addActionDelayTime _ _ => window
  | .execute _ => {}
  | .fire _ => { window with interrupted := window.interrupted || !window.added.isEmpty }

namespace TimedAction

def windowStep (s : TimedAction × RoundWindow) (e : CallEvent) : TimedAction × RoundWindow :=
  (s.1.callStep e, s.2.step s.1.action.cls e)

/-- The list holds the added values, all of them unless a callback interrupted the window. -/
def Gathers (w : TimedAction) (window : RoundWindow) : Prop :=
  if window.interrupted then w.action.valueList.length < window.added.length
  else w.action.valueList = window.added

theorem Gathers.step {w : TimedAction} {window : RoundWindow} (howned : w.TimersOwned)
    (h : w.Gathers window) {e : CallEvent} (hok : w.TimersBehave e) :
    (w.callStep e).Gathers (window.step w.action.cls e) := by
  cases e with
  | addActionValue actionId value =>
    have hlist := w.action.addActionValue_valueList actionId value
    rw [Gathers] at h ⊢
    rw [callStep, RoundWindow.step, hlist]
    by_cases hid : actionId = 0
    · simp only [if_pos hid]
      split at h
      · rename_i hint
        rw [if_pos hint, List.length_append, List.length_append]
        omega
      · rename_i hint
        rw [if_neg hint, h]
    · simpa only [if_neg hid, List.append_nil] using h
  | addActionDelayTime actionId fresh => exact h
  | execute newId => exact execute_valueList w
  | fire timerId =>
    obtain ⟨id, entry, -, hstep⟩ := howned.fire_eq hok
    rw [callStep, RoundWindow.step, hstep]
    rw [Gathers] at h ⊢
    rw [complete_valueList]
    cases hadded : window.added with
    | nil =>
      -- nothing was gathered, so nothing is lost
      cases hint : window.interrupted with
      | false => simp
      | true =>
        rw [hint, hadded] at h
        simp at h
    | cons v rest => simp

/-- **No value is lost iff no callback interrupts the window.** In every interleaving of calls and
callbacks, `Execute` decides over the list and the completed entries, and the list holds every
immediate value of the round exactly when no callback ran after one of them was added. -/
theorem execute_considers_added_iff {cls : ActionClass} {isStrict : Bool}
    {events : List CallEvent} {w : TimedAction} {window : RoundWindow}
    (hrun : Run (fun s e => s.1.TimersBehave e) windowStep (init cls isStrict, {}) events
      (w, window)) (newId : Nat → Nat) :
    (w.execute newId).action.lastValue = w.action.cls.toResult
      (decided w.action.isStrict w.action.cls.fallbackValue
        (w.action.valueList ++ (w.execute newId).action.completedValues)) ∧
    (w.action.valueList = window.added ↔ window.interrupted = false) := by
  have hinv : (w, window).1.TimersOwned ∧ (w, window).1.Gathers (w, window).2 := by
    refine hrun.invariant (fun s => s.1.TimersOwned ∧ s.1.Gathers s.2)
      ⟨timersOwned_init cls isStrict, rfl⟩ ?_
    intro s e h hok
    exact ⟨h.1.callStep hok, h.2.step h.1 hok⟩
  refine ⟨execute_lastValue w, ?_⟩
  have hgathers := hinv.2
  rw [Gathers] at hgathers
  cases hint : window.interrupted with
  | false => simpa [hint] using hgathers
  | true =>
    rw [hint, if_pos rfl] at hgathers
    refine ⟨fun heq => ?_, fun h => absurd h (by simp)⟩
    rw [heq] at hgathers
    exact absurd hgathers (lt_irrefl _)

def threeSeconds : PolicyDelayAction := ⟨false, 0, 0, 3000, 0⟩

/-- The first round requests a delayed entry, the second one as well and adds a value; then the
timer of the entry calls back. -/
def interruptedEvents : List CallEvent :=
  [.addActionDelayTime 1 threeSeconds, .addActionValue 1 "3000", .execute (fun _ => 7),
    .addActionDelayTime 1 threeSeconds, .addActionValue 1 "3000", .addActionValue 0 "2000",
    .fire 7]

def interruptedRound : TimedAction × RoundWindow :=
  interruptedEvents.foldl windowStep (init actionCharger true, {})

theorem run_interruptedRound :
    Run (fun s e => s.1.TimersBehave e) windowStep (init actionCharger true, {}) interruptedEvents
      interruptedRound := by
  apply Enabled.run
  decide +kernel

/-- The strict action applies the delayed value although the round has added a smaller one. -/
theorem interruptedRound_loses_value :
    Run (fun s e => s.1.TimersBehave e) windowStep (init actionCharger true, {}) interruptedEvents
      interruptedRound ∧
    interruptedRound.2.added = [2000] ∧ interruptedRound.1.action.valueList = [] ∧
    (interruptedRound.1.execute (fun _ => 8)).action.lastValue = 3000 :=
  ⟨run_interruptedRound, by decide +kernel, by decide +kernel, by decide +kernel⟩

theorem interruptedRound_considers_added_iff :
    (interruptedRound.1.execute (fun _ => 8)).action.lastValue =
      interruptedRound.1.action.cls.toResult
        (decided interruptedRound.1.action.isStrict interruptedRound.1.action.cls.fallbackValue
          (interruptedRound.1.action.valueList ++
            (interruptedRound.1.execute (fun _ => 8)).action.completedValues)) ∧
    (interruptedRound.1.action.valueList = interruptedRound.2.added ↔
      interruptedRound.2.interrupted = false) :=
  execute_considers_added_iff run_interruptedRound (fun _ => 8)

end TimedAction

end ThermalManager
