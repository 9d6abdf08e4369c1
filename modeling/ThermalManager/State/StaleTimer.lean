import ThermalManager.State.DelayTimer

/-!
# Callbacks of cancelled timers

`ResetState` does not know which timer it was started by. A timer can expire and its callback wait
while an event cancels it, and the callback then resets the state as if it were the timer of that
event. The histories here keep, beside a collection, the serial number of the timer that should
reset it.
-/

namespace ThermalManager

open StepSystem OneShot

/-! ### The screen -/

/-- The screen collection, with the timer started for the latest screen event if that was on. -/
structure ScreenHistory where
  collection : ScreenStateCollection
  latestOn : Option Nat := none

namespace ScreenHistory

def service (h : ScreenHistory) : Service := h.collection.timer.service

def step (h : ScreenHistory) (e : ScreenEvent) : ScreenHistory where
  collection := h.collection.step e
  latestOn :=
    match e with
    | .handleScreenOn _ _ => some (h.service.calls + 1)
    | .handleScreenOff => none
    | _ => h.latestOn

def CanHappen (h : ScreenHistory) (e : ScreenEvent) : Prop := h.collection.CanHappen e

/-- The screen state is on only if the latest event was on and the timer started for it fired. -/
def NotFlipped (h : ScreenHistory) : Prop :=
  h.collection.state = screenOn → ∃ serial, h.latestOn = some serial ∧ serial ∈ h.service.expired

/-- A callback runs only while the latest event is on, and it is that of the timer started for this
event, or that timer has expired as well. -/
def Timely (h : ScreenHistory) : ScreenEvent → Prop
  | .resetState serial =>
      ∃ latest, h.latestOn = some latest ∧ (serial = latest ∨ latest ∈ h.service.expired)
  | _ => True

variable {h : ScreenHistory} {e : ScreenEvent}

theorem step_delayTime : (h.step e).collection.delayTime = h.collection.delayTime := by
  cases e with
  | init => rfl
  | handleScreenOn newId started =>
    dsimp only [step, ScreenStateCollection.step, ScreenStateCollection.handleScreenOnCompleted]
    split <;> rfl
  | handleScreenOff => rfl
  | decideState isScreenOn value =>
    dsimp only [step, ScreenStateCollection.step, ScreenStateCollection.decideState]
    split <;> rfl
  | expire serial => rfl
  | resetState serial => rfl

/-- With a delay the screen event itself leaves the state off. -/
theorem handleScreenOn_state (hdelay : 0 < h.collection.delayTime) (newId : Nat) (started : Bool) :
    (h.step (.handleScreenOn newId started)).collection.state = screenOff := by
  dsimp only [step, ScreenStateCollection.step, ScreenStateCollection.handleScreenOnCompleted]
  rw [if_pos hdelay]

theorem step_notFlipped_iff (hdelay : 0 < h.collection.delayTime) (hsound : h.service.Sound)
    (hok : h.CanHappen e) (hgood : h.NotFlipped) : (h.step e).NotFlipped ↔ h.Timely e := by
  cases e with
  | init => exact iff_of_true hgood trivial
  | handleScreenOn newId started =>
    refine iff_of_true (fun hon => ?_) trivial
    rw [handleScreenOn_state hdelay] at hon
    exact absurd hon screenOff_ne_screenOn
  | handleScreenOff => exact iff_of_true (fun hon => absurd hon screenOff_ne_screenOn) trivial
  | decideState isScreenOn value =>
    have hkept : h.step (.decideState isScreenOn value) = h := by
      dsimp only [step, ScreenStateCollection.step, ScreenStateCollection.decideState]
      rw [if_neg (Nat.pos_iff_ne_zero.mp hdelay)]
    rw [hkept]
    exact iff_of_true hgood trivial
  | expire serial =>
    refine iff_of_true (fun hon => ?_) trivial
    obtain ⟨latest, hlatest, hexpired⟩ := hgood hon
    exact ⟨latest, hlatest, List.mem_cons_of_mem _ hexpired⟩
  | resetState serial =>
    have hserial : serial ∈ h.service.expired := hsound.waiting serial hok
    have hexpired : (h.step (.resetState serial)).service.expired = h.service.expired :=
      DelayTimer.stopDelayTimer_expired
    rw [NotFlipped, hexpired]
    show (screenOn = screenOn → ∃ latest, h.latestOn = some latest ∧ _) ↔ _
    constructor
    · intro hreset
      obtain ⟨latest, hlatest, hfired⟩ := hreset rfl
      exact ⟨latest, hlatest, .inr hfired⟩
    · rintro ⟨latest, hlatest, rfl | hfired⟩ -
      · exact ⟨serial, hlatest, hserial⟩
      · exact ⟨latest, hlatest, hfired⟩

end ScreenHistory

/-! ### The charge delay -/

/-- The charge delay, with the timer started for the latest disconnection that set it critical if
no connection followed. -/
structure ChargeHistory where
  collection : ChargeDelay
  latestDisconnect : Option Nat := none

namespace ChargeHistory

def service (h : ChargeHistory) : Service := h.collection.timer.service

def step (h : ChargeHistory) (e : ChargeDelayEvent) : ChargeHistory where
  collection := h.collection.step e
  latestDisconnect :=
    match e with
    | .handlerPowerDisconnected _ _ =>
        if h.collection.isCharge then some (h.service.calls + 1) else h.latestDisconnect
    | .handlerPowerConnected => none
    | _ => h.latestDisconnect

def CanHappen (h : ChargeHistory) (e : ChargeDelayEvent) : Prop := h.collection.CanHappen e

/-- Where a disconnection set the state critical and no connection followed, the state is not
critical only if the timer started for it fired. -/
def NotFlipped (h : ChargeHistory) : Prop :=
  h.collection.criticalState = nonCritical → ∀ serial, h.latestDisconnect = some serial →
    serial ∈ h.service.expired

/-- After a disconnection without a connection, a callback runs only if it is that of the timer
started for this disconnection, or that timer has expired as well. -/
def Timely (h : ChargeHistory) : ChargeDelayEvent → Prop
  | .resetState serial => ∀ latest, h.latestDisconnect = some latest →
      serial = latest ∨ latest ∈ h.service.expired
  | _ => True

variable {h : ChargeHistory} {e : ChargeDelayEvent}

theorem step_notFlipped_iff (hsound : h.service.Sound) (hok : h.CanHappen e)
    (hgood : h.NotFlipped) : (h.step e).NotFlipped ↔ h.Timely e := by
  cases e with
  | init => exact iff_of_true hgood trivial
  | handlerPowerDisconnected newId started =>
    refine iff_of_true ?_ trivial
    cases hcharge : h.collection.isCharge with
    | true =>
      intro hnon
      dsimp only [step, ChargeDelay.step, ChargeDelay.handlerPowerDisconnected] at hnon
      rw [hcharge] at hnon
      exact absurd hnon critical_ne_nonCritical
    | false =>
      have hkept : h.step (.handlerPowerDisconnected newId started) = h := by
        dsimp only [step, ChargeDelay.step, ChargeDelay.handlerPowerDisconnected]
        rw [hcharge]
        rfl
      rw [hkept]
      exact hgood
  | handlerPowerConnected =>
    exact iff_of_true (fun _ serial hnone => absurd hnone.symm (Option.some_ne_none serial)) trivial
  | expire serial =>
    refine iff_of_true (fun hnon latest hlatest => ?_) trivial
    exact List.mem_cons_of_mem _ (hgood hnon latest hlatest)
  | resetState serial =>
    have hserial : serial ∈ h.service.expired := hsound.waiting serial hok
    constructor
    · intro hreset latest hlatest
      exact .inr (hreset rfl latest hlatest)
    · intro htimely _ latest hlatest
      rcases htimely latest hlatest with rfl | hfired
      · exact hserial
      · exact hfired

end ChargeHistory

/-- Neither delayed state is ever flipped too early exactly if every callback that runs is that of
the timer of the latest event, or of one whose successor has expired too. -/
theorem not_flipped_iff_timely (delayTime : Nat) (isCharge : Bool)
    (screenEvents : List ScreenEvent) (chargeEvents : List ChargeDelayEvent)
    (hdelay : 0 < delayTime) :
    (Enabled ScreenHistory.CanHappen ScreenHistory.step ⟨{ delayTime }, none⟩ screenEvents →
      (Always ScreenHistory.step ScreenHistory.NotFlipped ⟨{ delayTime }, none⟩ screenEvents ↔
        Enabled ScreenHistory.Timely ScreenHistory.step ⟨{ delayTime }, none⟩ screenEvents)) ∧
    (Enabled ChargeHistory.CanHappen ChargeHistory.step ⟨{ isCharge }, none⟩ chargeEvents →
      (Always ChargeHistory.step ChargeHistory.NotFlipped ⟨{ isCharge }, none⟩ chargeEvents ↔
        Enabled ChargeHistory.Timely ChargeHistory.step ⟨{ isCharge }, none⟩ chargeEvents)) := by
  constructor
  · intro hrun
    refine always_iff_enabled
      (fun h => 0 < h.collection.delayTime ∧ h.service.Sound) ScreenHistory.NotFlipped
      (fun h e hinv hok => ?_)
      (fun h e hinv hok hgood => ScreenHistory.step_notFlipped_iff hinv.1 hinv.2 hok hgood)
      ⟨hdelay, Service.sound_new⟩ ?_ hrun
    · refine ⟨?_, ScreenStateCollection.step_sound hinv.2 hok⟩
      rw [ScreenHistory.step_delayTime]
      exact hinv.1
    · intro hon
      exact absurd hon screenOff_ne_screenOn
  · intro hrun
    refine always_iff_enabled (fun h => h.service.Sound) ChargeHistory.NotFlipped
      (fun h e hinv hok => ?_)
      (fun h e hinv hok hgood => ChargeHistory.step_notFlipped_iff hinv hok hgood)
      Service.sound_new ?_ hrun
    · exact ChargeDelay.step_sound hinv hok
    · intro _ serial hnone
      exact absurd hnone.symm (Option.some_ne_none serial)

/-- A screen that goes on and off before its timer expires, and a charger plugged in in time. -/
theorem not_flipped_in_time :
    Always ScreenHistory.step ScreenHistory.NotFlipped ⟨{ delayTime := 5 }, none⟩
      [.handleScreenOn 7 true, .handleScreenOff, .handleScreenOn 8 true, .expire 2,
        .resetState 2] ∧
    Always ChargeHistory.step ChargeHistory.NotFlipped ⟨{ isCharge := true }, none⟩
      [.handlerPowerDisconnected 7 true, .handlerPowerConnected] := by
  obtain ⟨hscreen, hcharge⟩ := not_flipped_iff_timely 5 true
    [.handleScreenOn 7 true, .handleScreenOff, .handleScreenOn 8 true, .expire 2, .resetState 2]
    [.handlerPowerDisconnected 7 true, .handlerPowerConnected] (by decide)
  constructor
  · refine (hscreen ⟨trivial, trivial, trivial, ⟨⟨8, 2⟩, by decide, rfl⟩, List.mem_cons_self,
      trivial⟩).mpr ?_
    exact ⟨trivial, trivial, trivial, trivial, ⟨2, rfl, .inl rfl⟩, trivial⟩
  · exact (hcharge ⟨trivial, trivial, trivial⟩).mpr ⟨trivial, trivial, trivial⟩

/-- The timer expires, the screen goes off, and the waiting callback turns the state on. Likewise
the timer of a disconnection expires, the charger is plugged in and out again, and the waiting
callback ends the critical state that has just begun. -/
theorem delayed_states_flipped :
    (¬ ∀ (delayTime : Nat) (events : List ScreenEvent), 0 < delayTime →
      Enabled ScreenHistory.CanHappen ScreenHistory.step ⟨{ delayTime }, none⟩ events →
        Always ScreenHistory.step ScreenHistory.NotFlipped ⟨{ delayTime }, none⟩ events) ∧
    ¬ ∀ (isCharge : Bool) (events : List ChargeDelayEvent),
      Enabled ChargeHistory.CanHappen ChargeHistory.step ⟨{ isCharge }, none⟩ events →
        Always ChargeHistory.step ChargeHistory.NotFlipped ⟨{ isCharge }, none⟩ events := by
  constructor
  · intro h
    obtain ⟨latest, hlatest, -⟩ := h 5
      [.handleScreenOn 7 true, .expire 1, .handleScreenOff, .resetState 1] (by decide)
      ⟨trivial, ⟨⟨7, 1⟩, by decide, rfl⟩, trivial, List.mem_cons_self, trivial⟩ _
      (List.prefix_refl _) rfl
    exact Option.some_ne_none latest hlatest.symm
  · intro h
    have hexpired := h true
      [.handlerPowerDisconnected 7 true, .expire 1, .handlerPowerConnected,
        .handlerPowerDisconnected 8 true, .resetState 1]
      ⟨trivial, ⟨⟨7, 1⟩, by decide, rfl⟩, trivial, trivial, List.mem_cons_self, trivial⟩ _
      (List.prefix_refl _) rfl 2 rfl
    exact absurd hexpired (by decide)

end ThermalManager
