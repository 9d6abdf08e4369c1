import ThermalManager.State.DelayTimer

/-!
# Who owns the delay timers

The screen and the startup delay destroy their timer whenever they give up its id. The charge delay
does so in both of its handlers and not in `ResetState`, so its timer is lost each time it fires
while it is known.
-/

namespace ThermalManager

open StepSystem OneShot

/-- What can happen, with fresh ids from the time service. -/
def ScreenStateCollection.Allowed (c : ScreenStateCollection) (e : ScreenEvent) : Prop :=
  c.CanHappen e ∧ c.HasFreshId e

def StartupDelayStateCollection.Allowed (c : StartupDelayStateCollection) (e : StartupEvent) :
    Prop :=
  c.CanHappen e ∧ c.HasFreshId e

namespace ChargeDelay

def Allowed (c : ChargeDelay) (e : ChargeDelayEvent) : Prop := c.CanHappen e ∧ c.HasFreshId e

/-- `ResetState` runs only where the collection knows no timer. -/
def KeepsTimer (c : ChargeDelay) : ChargeDelayEvent → Prop
  | .resetState _ => c.timer.delayTimerId = 0
  | _ => True

variable {c : ChargeDelay} {e : ChargeDelayEvent}

/-- The charge delay still owns its timer after a step exactly if it did not reset a known one. -/
theorem step_owned_iff (h : c.timer.Owned) (hfresh : c.HasFreshId e) :
    (c.step e).timer.Owned ↔ c.KeepsTimer e := by
  cases e with
  | init => exact iff_of_true h trivial
  | handlerPowerDisconnected newId started =>
    refine iff_of_true ?_ trivial
    dsimp only [step, handlerPowerDisconnected]
    split
    · exact h
    · exact h.restart hfresh
  | handlerPowerConnected =>
    refine iff_of_true ?_ trivial
    dsimp only [step]
    cases hcharge : c.isCharge with
    | true =>
      rw [handlerPowerConnected, if_pos hcharge]
      exact h
    | false =>
      rw [handlerPowerConnected_eq hcharge]
      exact h.stop
  | expire serial => exact iff_of_true h.expire trivial
  | resetState serial =>
    have hrun : (c.timer.runCallback serial).Owned := h.runCallback
    exact hrun.forget_iff

end ChargeDelay

/-- The screen and the startup delay always own their timers. The charge delay does exactly as long
as its reset never runs while it knows a timer. -/
theorem delay_timers_owned_iff (delayTime : Nat) (isCharge : Bool)
    (screenEvents : List ScreenEvent) (startupEvents : List StartupEvent)
    (chargeEvents : List ChargeDelayEvent) :
    (Enabled ScreenStateCollection.Allowed ScreenStateCollection.step { delayTime } screenEvents →
      Always ScreenStateCollection.step (fun c => c.timer.Owned) { delayTime } screenEvents) ∧
    (Enabled StartupDelayStateCollection.Allowed StartupDelayStateCollection.step {}
        startupEvents →
      Always StartupDelayStateCollection.step (fun c => c.timer.Owned) {} startupEvents) ∧
    (Enabled ChargeDelay.Allowed ChargeDelay.step { isCharge } chargeEvents →
      (Always ChargeDelay.step (fun c => c.timer.Owned) { isCharge } chargeEvents ↔
        Enabled ChargeDelay.KeepsTimer ChargeDelay.step { isCharge } chargeEvents)) := by
  refine ⟨fun hrun => ?_, fun hrun => ?_, fun hrun => ?_⟩
  · exact hrun.always (fun c => c.timer.Owned) DelayTimer.owned_new fun c e h hok =>
      ScreenStateCollection.step_owned h hok.2
  · exact hrun.always (fun c => c.timer.Owned) DelayTimer.owned_new fun c e h hok =>
      StartupDelayStateCollection.step_owned h hok.2
  · exact always_iff_enabled (fun _ => True) (fun c => c.timer.Owned) (fun _ _ _ _ => trivial)
      (fun c e _ hok h => ChargeDelay.step_owned_iff h hok.2) trivial DelayTimer.owned_new hrun

/-- The screen goes off before its timer fires, the startup delay runs out, and the power is
connected in time. -/
theorem delay_timers_given_up :
    Always ScreenStateCollection.step (fun c => c.timer.Owned) { delayTime := 5 }
      [.handleScreenOn 7 true, .handleScreenOff] ∧
    Always StartupDelayStateCollection.step (fun c => c.timer.Owned) {}
      [.init 7 true, .expire 1, .resetState 1] ∧
    Always ChargeDelay.step (fun c => c.timer.Owned) { isCharge := true }
      [.handlerPowerDisconnected 7 true, .handlerPowerConnected] := by
  obtain ⟨hscreen, hstartup, hcharge⟩ := delay_timers_owned_iff 5 true
    [.handleScreenOn 7 true, .handleScreenOff] [.init 7 true, .expire 1, .resetState 1]
    [.handlerPowerDisconnected 7 true, .handlerPowerConnected]
  refine ⟨hscreen ?_, hstartup ?_, (hcharge ?_).mpr ⟨trivial, trivial, trivial⟩⟩
  · exact ⟨⟨trivial, by decide, by decide⟩, ⟨trivial, trivial⟩, trivial⟩
  · exact ⟨⟨trivial, by decide, by decide⟩, ⟨⟨⟨7, 1⟩, by decide, rfl⟩, trivial⟩,
      ⟨List.mem_cons_self, trivial⟩, trivial⟩
  · exact ⟨⟨trivial, by decide, by decide⟩, ⟨trivial, trivial⟩, trivial⟩

/-- A power disconnection starts a timer and the timer fires: nothing destroys it. -/
theorem charge_delay_loses_timer :
    ¬ ∀ (isCharge : Bool) (events : List ChargeDelayEvent),
      Enabled ChargeDelay.Allowed ChargeDelay.step { isCharge } events →
        Always ChargeDelay.step (fun c => c.timer.Owned) { isCharge } events := by
  intro h
  have hrun : Enabled ChargeDelay.Allowed ChargeDelay.step { isCharge := true }
      [.handlerPowerDisconnected 7 true, .expire 1, .resetState 1] :=
    ⟨⟨trivial, by decide, by decide⟩, ⟨⟨⟨7, 1⟩, by decide, rfl⟩, trivial⟩,
      ⟨List.mem_cons_self, trivial⟩, trivial⟩
  have howned := h true _ hrun _ (List.prefix_refl _)
  exact absurd ((howned.outstanding 7).mp (by decide)).1 (by decide)

end ThermalManager
