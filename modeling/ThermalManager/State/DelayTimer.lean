import ThermalManager.Lib.OneShot
import ThermalManager.Lib.Run
import ThermalManager.State.ChargeState

/-!
# The delay timers of the state collections

`screen_state_collection.cpp`, `startup_delay_state_collection.cpp` and
`charge_delay_state_collection.cpp` start and stop a timer in the same way and differ in when they
do it. The time service and its timers are those of `OneShot`: a timer expires, its callback waits
for the mutex of the collection, and then `ResetState` runs.
-/

namespace ThermalManager

open StepSystem OneShot

/-- The timer id of a collection, with the time service it comes from. -/
structure DelayTimer where
  delayTimerId : Nat := 0
  service : Service := {}
  deriving DecidableEq

namespace DelayTimer

/-- `CreateTimer` answers `newId`, and `StartTimer` whether the timer was `started`. -/
def startDelayTimer (t : DelayTimer) (newId : Nat) (started : Bool) : DelayTimer where
  delayTimerId := newId
  service := (t.service.createTimer newId).startTimer newId started

def stopDelayTimer (t : DelayTimer) : DelayTimer :=
  if t.delayTimerId > 0 then
    { delayTimerId := 0
      service := (t.service.stopTimer t.delayTimerId).destroyTimer t.delayTimerId }
  else t

def expire (t : DelayTimer) (serial : Nat) : DelayTimer :=
  { t with service := t.service.expire serial }

def runCallback (t : DelayTimer) (serial : Nat) : DelayTimer :=
  { t with service := t.service.runCallback serial }

/-- The timers created and not destroyed are the one the collection knows. -/
def Owned (t : DelayTimer) : Prop := t.service.Owns t.delayTimerId

variable {t : DelayTimer} {newId serial : Nat} {started : Bool}

@[simp] theorem stopDelayTimer_delayTimerId : t.stopDelayTimer.delayTimerId = 0 := by
  rw [stopDelayTimer]
  split
  · rfl
  · omega

@[simp] theorem stopDelayTimer_created : t.stopDelayTimer.service.created = t.service.created := by
  rw [stopDelayTimer]
  split <;> rfl

@[simp] theorem stopDelayTimer_expired : t.stopDelayTimer.service.expired = t.service.expired := by
  rw [stopDelayTimer]
  split <;> rfl

/-! ### Soundness and ownership -/

theorem sound_start (h : t.service.Sound) : (t.startDelayTimer newId started).service.Sound :=
  h.createTimer.startTimer

theorem sound_stop (h : t.service.Sound) : t.stopDelayTimer.service.Sound := by
  rw [stopDelayTimer]
  split
  · exact h.stopTimer.destroyTimer
  · exact h

theorem owned_new : Owned {} := Service.owns_new

theorem Owned.stop (h : t.Owned) : t.stopDelayTimer.Owned := by
  rw [stopDelayTimer]
  split
  case isTrue hpos =>
    have hstopped : (t.service.stopTimer t.delayTimerId).Owns t.delayTimerId := h.congr rfl rfl
    exact hstopped.destroyTimer hpos
  case isFalse => exact h

theorem Owned.start (h : t.Owned) (hid : t.delayTimerId = 0)
    (hfresh : t.service.FreshId newId) : (t.startDelayTimer newId started).Owned := by
  have hzero : t.service.Owns 0 := hid ▸ h
  exact (hzero.createTimer hfresh).congr Service.startTimer_created Service.startTimer_destroyed

theorem Owned.restart (h : t.Owned) (hfresh : t.service.FreshId newId) :
    (t.stopDelayTimer.startDelayTimer newId started).Owned := by
  refine h.stop.start stopDelayTimer_delayTimerId ?_
  rw [Service.FreshId, stopDelayTimer_created]
  exact hfresh

theorem Owned.expire (h : t.Owned) : (t.expire serial).Owned := Service.Owns.congr h rfl rfl

theorem Owned.runCallback (h : t.Owned) : (t.runCallback serial).Owned :=
  Service.Owns.congr h rfl rfl

end DelayTimer

/-! ### The screen -/

def screenOff : Nat := 0
def screenOn : Nat := 1

theorem screenOff_ne_screenOn : screenOff ≠ screenOn := by decide

structure ScreenStateCollection where
  state : Nat := 0
  delayTime : Nat
  timer : DelayTimer := {}
  deriving DecidableEq

namespace ScreenStateCollection

def handleScreenOnCompleted (c : ScreenStateCollection) (newId : Nat) (started : Bool) :
    ScreenStateCollection :=
  if c.delayTime > 0 then
    { c with
      state := screenOff
      timer := c.timer.stopDelayTimer.startDelayTimer newId started }
  else { c with state := screenOn }

def handleScreenOffCompleted (c : ScreenStateCollection) : ScreenStateCollection :=
  { c with
    state := screenOff
    timer := c.timer.stopDelayTimer }

/-- Without a delay the power manager is asked whether the screen is on. -/
def decideState (c : ScreenStateCollection) (isScreenOn : Bool) (value : String) :
    ScreenStateCollection × Bool :=
  let c := if c.delayTime = 0 then
      { c with state := if isScreenOn then screenOn else screenOff }
    else c
  (c, (value == toString screenOn && c.state == screenOn) ||
    (value == toString screenOff && c.state == screenOff))

def resetState (c : ScreenStateCollection) : ScreenStateCollection :=
  { c with
    state := screenOn
    timer := c.timer.stopDelayTimer }

end ScreenStateCollection

/-- What happens to the screen collection. `Init` only registers the handlers. -/
inductive ScreenEvent where
  | init
  | handleScreenOn (newId : Nat) (started : Bool)
  | handleScreenOff
  | decideState (isScreenOn : Bool) (value : String)
  | expire (serial : Nat)
  | resetState (serial : Nat)
  deriving DecidableEq

namespace ScreenStateCollection

def step (c : ScreenStateCollection) : ScreenEvent → ScreenStateCollection
  | .init => c
  | .handleScreenOn newId started => c.handleScreenOnCompleted newId started
  | .handleScreenOff => c.handleScreenOffCompleted
  | .decideState isScreenOn value => (c.decideState isScreenOn value).1
  | .expire serial => { c with timer := c.timer.expire serial }
  | .resetState serial => resetState { c with timer := c.timer.runCallback serial }

/-- Armed timers expire, and the callbacks that run are those that wait. -/
def CanHappen (c : ScreenStateCollection) : ScreenEvent → Prop
  | .expire serial => c.timer.service.IsArmed serial
  | .resetState serial => serial ∈ c.timer.service.waiting
  | _ => True

def HasFreshId (c : ScreenStateCollection) : ScreenEvent → Prop
  | .handleScreenOn newId _ => c.timer.service.FreshId newId
  | _ => True

variable {c : ScreenStateCollection} {e : ScreenEvent}

theorem decideState_timer (isScreenOn : Bool) (value : String) :
    (c.decideState isScreenOn value).1.timer = c.timer := by
  dsimp only [decideState]
  split <;> rfl

theorem step_sound (h : c.timer.service.Sound) (hok : c.CanHappen e) :
    (c.step e).timer.service.Sound := by
  cases e with
  | init => exact h
  | handleScreenOn newId started =>
    dsimp only [step, handleScreenOnCompleted]
    split
    · exact DelayTimer.sound_start (DelayTimer.sound_stop h)
    · exact h
  | handleScreenOff => exact DelayTimer.sound_stop h
  | decideState isScreenOn value =>
    dsimp only [step]
    rw [decideState_timer]
    exact h
  | expire serial => exact h.expire hok
  | resetState serial => exact DelayTimer.sound_stop h.runCallback

theorem step_owned (h : c.timer.Owned) (hfresh : c.HasFreshId e) : (c.step e).timer.Owned := by
  cases e with
  | init => exact h
  | handleScreenOn newId started =>
    dsimp only [step, handleScreenOnCompleted]
    split
    · exact h.restart hfresh
    · exact h
  | handleScreenOff => exact h.stop
  | decideState isScreenOn value =>
    dsimp only [step]
    rw [decideState_timer]
    exact h
  | expire serial => exact h.expire
  | resetState serial => exact h.runCallback.stop

end ScreenStateCollection

/-! ### The startup delay -/

def nonStartupDelayState : Nat := 0
def startupDelayState : Nat := 1

structure StartupDelayStateCollection where
  state : Nat := nonStartupDelayState
  timer : DelayTimer := {}
  deriving DecidableEq

inductive StartupEvent where
  | init (newId : Nat) (started : Bool)
  | expire (serial : Nat)
  | resetState (serial : Nat)
  deriving DecidableEq

namespace StartupDelayStateCollection

def init (c : StartupDelayStateCollection) (newId : Nat) (started : Bool) :
    StartupDelayStateCollection where
  state := startupDelayState
  timer := (if c.timer.delayTimerId > 0 then c.timer.stopDelayTimer else c.timer).startDelayTimer
    newId started

def resetState (c : StartupDelayStateCollection) : StartupDelayStateCollection where
  state := nonStartupDelayState
  timer := c.timer.stopDelayTimer

def step (c : StartupDelayStateCollection) : StartupEvent → StartupDelayStateCollection
  | .init newId started => c.init newId started
  | .expire serial => { c with timer := c.timer.expire serial }
  | .resetState serial => resetState { c with timer := c.timer.runCallback serial }

def CanHappen (c : StartupDelayStateCollection) : StartupEvent → Prop
  | .init _ _ => True
  | .expire serial => c.timer.service.IsArmed serial
  | .resetState serial => serial ∈ c.timer.service.waiting

def HasFreshId (c : StartupDelayStateCollection) : StartupEvent → Prop
  | .init newId _ => c.timer.service.FreshId newId
  | _ => True

/-- The test before `StopDelayTimer` is the one that `StopDelayTimer` makes. -/
theorem init_eq (c : StartupDelayStateCollection) (newId : Nat) (started : Bool) :
    c.init newId started =
      { state := startupDelayState
        timer := c.timer.stopDelayTimer.startDelayTimer newId started } := by
  rw [init]
  split
  · rfl
  case isFalse h => rw [DelayTimer.stopDelayTimer, if_neg h]

theorem step_owned {c : StartupDelayStateCollection} {e : StartupEvent} (h : c.timer.Owned)
    (hfresh : c.HasFreshId e) : (c.step e).timer.Owned := by
  cases e with
  | init newId started =>
    dsimp only [step]
    rw [init_eq]
    exact h.restart hfresh
  | expire serial => exact h.expire
  | resetState serial => exact h.runCallback.stop

end StartupDelayStateCollection

/-! ### The charge delay -/

def nonCritical : Nat := 0
def critical : Nat := 1

theorem critical_ne_nonCritical : critical ≠ nonCritical := by decide

/-- The charge delay with its timer, and the charger whose flag it reads and writes. -/
structure ChargeDelay where
  isCharge : Bool
  criticalState : Nat := nonCritical
  timer : DelayTimer := {}
  deriving DecidableEq

inductive ChargeDelayEvent where
  | init
  | handlerPowerDisconnected (newId : Nat) (started : Bool)
  | handlerPowerConnected
  | expire (serial : Nat)
  | resetState (serial : Nat)
  deriving DecidableEq

namespace ChargeDelay

def handlerPowerDisconnected (c : ChargeDelay) (newId : Nat) (started : Bool) : ChargeDelay :=
  if !c.isCharge then c
  else
    { isCharge := false
      criticalState := critical
      timer := c.timer.stopDelayTimer.startDelayTimer newId started }

def handlerPowerConnected (c : ChargeDelay) : ChargeDelay :=
  if c.isCharge then c
  else
    { isCharge := true
      criticalState := nonCritical
      timer := if c.timer.delayTimerId > 0 then c.timer.stopDelayTimer else c.timer }

/-- The id is set to zero, and the timer is neither stopped nor destroyed. -/
def resetState (c : ChargeDelay) : ChargeDelay :=
  { c with
    criticalState := nonCritical
    timer := { c.timer with delayTimerId := 0 } }

def step (c : ChargeDelay) : ChargeDelayEvent → ChargeDelay
  | .init => c
  | .handlerPowerDisconnected newId started => c.handlerPowerDisconnected newId started
  | .handlerPowerConnected => c.handlerPowerConnected
  | .expire serial => { c with timer := c.timer.expire serial }
  | .resetState serial => resetState { c with timer := c.timer.runCallback serial }

def CanHappen (c : ChargeDelay) : ChargeDelayEvent → Prop
  | .expire serial => c.timer.service.IsArmed serial
  | .resetState serial => serial ∈ c.timer.service.waiting
  | _ => True

def HasFreshId (c : ChargeDelay) : ChargeDelayEvent → Prop
  | .handlerPowerDisconnected newId _ => c.timer.service.FreshId newId
  | _ => True

variable {c : ChargeDelay} {e : ChargeDelayEvent}

theorem handlerPowerConnected_eq (h : c.isCharge = false) : c.handlerPowerConnected =
    { isCharge := true, criticalState := nonCritical, timer := c.timer.stopDelayTimer } := by
  rw [handlerPowerConnected, h, if_neg Bool.false_ne_true]
  congr 1
  split
  · rfl
  case isFalse hid => rw [DelayTimer.stopDelayTimer, if_neg hid]

theorem step_sound (h : c.timer.service.Sound) (hok : c.CanHappen e) :
    (c.step e).timer.service.Sound := by
  cases e with
  | init => exact h
  | handlerPowerDisconnected newId started =>
    dsimp only [step, handlerPowerDisconnected]
    split
    · exact h
    · exact DelayTimer.sound_start (DelayTimer.sound_stop h)
  | handlerPowerConnected =>
    dsimp only [step]
    cases hcharge : c.isCharge with
    | true =>
      rw [handlerPowerConnected, if_pos hcharge]
      exact h
    | false =>
      rw [handlerPowerConnected_eq hcharge]
      exact DelayTimer.sound_stop h
  | expire serial => exact h.expire hok
  | resetState serial => exact h.runCallback

/-- What the state machine knows of the charge delay. -/
def toChargeStates (c : ChargeDelay) (s : ChargeStates) : ChargeStates :=
  { s with
    charger := { s.charger with isCharge := c.isCharge }
    chargeDelay := ⟨c.criticalState, c.timer.delayTimerId⟩ }

/-- The handlers are those of the charge states, with the timers added. -/
theorem toChargeStates_handlerPowerDisconnected (s : ChargeStates) (newId : Nat)
    (started : Bool) : (c.handlerPowerDisconnected newId started).toChargeStates s =
      (c.toChargeStates s).handlerPowerDisconnected newId := by
  rw [handlerPowerDisconnected, ChargeStates.handlerPowerDisconnected]
  cases hcharge : c.isCharge <;> simp [toChargeStates, hcharge]
  exact ⟨rfl, rfl⟩

theorem toChargeStates_handlerPowerConnected (s : ChargeStates) :
    c.handlerPowerConnected.toChargeStates s = (c.toChargeStates s).handlerPowerConnected := by
  cases hcharge : c.isCharge with
  | true =>
    rw [handlerPowerConnected, if_pos hcharge, ChargeStates.handlerPowerConnected]
    exact (if_pos hcharge).symm
  | false =>
    rw [handlerPowerConnected_eq hcharge, ChargeStates.handlerPowerConnected,
      if_neg (by simp [toChargeStates, hcharge])]
    simp [toChargeStates]
    rfl

end ChargeDelay

end ThermalManager
