import ThermalManager.State.StateMachine

/-!
# The charge condition

`charger_state_collection.cpp` and `charge_delay_state_collection.cpp`, built with the battery
manager. The policy asks `isCharge_`. It is written by `InitChargeState` and by the handlers that
the charge-delay collection registers; the battery handler of the charger itself writes `state_`.
-/

namespace ThermalManager

/-- `BatteryChargeState` of the battery manager. -/
inductive BatteryChargeState where
  | none | enable | disable | full | butt
  deriving DecidableEq

/-- The text of the charger's own enumerator. -/
def BatteryChargeState.stateText : BatteryChargeState → String
  | .disable => "0"
  | .enable => "1"
  | .full => "2"
  | .none => "3"
  | .butt => "4"

structure ChargerStateCollection where
  state : String := ""
  isCharge : Bool := false
  idleStateConfig : IdleState := ⟨0, 0, 0, 0⟩
  cachedIdleState : IdleState := ⟨0, 0, 0, 0⟩
  isChargeIdle : Bool := true

namespace ChargerStateCollection

def initChargeState (c : ChargerStateCollection) (chargeState : BatteryChargeState) :
    ChargerStateCollection :=
  { c with isCharge := chargeState == .enable }

def init (c : ChargerStateCollection) (idleStateConfig : IdleState)
    (chargeState : BatteryChargeState) : ChargerStateCollection :=
  initChargeState { c with idleStateConfig := idleStateConfig } chargeState

/-- The second component is the idle mode that is broadcast. -/
def handleChargeIdleState (c : ChargerStateCollection) : ChargerStateCollection × Option Bool :=
  let isIdle := decide (c.cachedIdleState.soc ≥ c.idleStateConfig.soc) &&
    decide (c.cachedIdleState.charging = c.idleStateConfig.charging) &&
    decide (c.cachedIdleState.current ≥ c.idleStateConfig.current) &&
    decide (c.cachedIdleState.level ≤ c.idleStateConfig.level)
  if isIdle ≠ c.isChargeIdle then ({ c with isChargeIdle := isIdle }, some isIdle) else (c, none)

/-- The enumerators have the numbers that `decode` reads. -/
def handleChangerStatusCompleted (decode : Int → Option BatteryChargeState)
    (c : ChargerStateCollection) (capacity chargeState : Option Int) :
    ChargerStateCollection × Option Bool :=
  let c := { c with
    cachedIdleState := { c.cachedIdleState with
      soc := capacity.getD (-1), charging := chargeState.getD (-1) } }
  let (c, broadcast) := c.handleChargeIdleState
  match decode c.cachedIdleState.charging with
  | some chargeState => ({ c with state := chargeState.stateText }, broadcast)
  | none => (c, broadcast)

def handleChangerInnerStatusCompleted (c : ChargerStateCollection) (current : Option Int) :
    ChargerStateCollection × Option Bool :=
  handleChargeIdleState
    { c with cachedIdleState := { c.cachedIdleState with current := current.getD (-1) } }

def handleThermalLevelCompleted (c : ChargerStateCollection) (level : Option Int) :
    ChargerStateCollection × Option Bool :=
  handleChargeIdleState
    { c with cachedIdleState := { c.cachedIdleState with level := level.getD (-1) } }

def decideState (c : ChargerStateCollection) (value : String) : Bool :=
  (!c.isCharge && value == "0") || (c.isCharge && value == "1")

end ChargerStateCollection

structure ChargeDelayStateCollection where
  criticalState : Nat := 0
  delayTimerId : Nat := 0

/-- What reaches the collections. -/
inductive ChargeEvent where
  | batteryChanged (capacity chargeState : Option Int)
  | batteryChangedInner (current : Option Int)
  | thermalLevelChanged (level : Option Int)
  | powerConnected
  /-- `CreateTimer` returns the id if a timer is started. -/
  | powerDisconnected (newId : Nat)
  | initChargeState (chargeState : BatteryChargeState)
  /-- The delay timer fires. -/
  | resetState

structure ChargeStates where
  eventHandles : CommonEvent → Option CollectionRef
  charger : ChargerStateCollection
  chargeDelay : ChargeDelayStateCollection := {}

namespace ChargeStates

def handlerPowerDisconnected (s : ChargeStates) (newId : Nat) : ChargeStates :=
  if !s.charger.isCharge then s
  else { s with
    charger := { s.charger with isCharge := false }
    chargeDelay := { criticalState := 1, delayTimerId := newId } }

def handlerPowerConnected (s : ChargeStates) : ChargeStates :=
  if s.charger.isCharge then s
  else { s with
    charger := { s.charger with isCharge := true }
    chargeDelay := { criticalState := 0, delayTimerId := 0 } }

/-- An event without a handler is ignored. -/
def handleEvent (s : ChargeStates) (event : CommonEvent) (handler : ChargeStates) : ChargeStates :=
  if (s.eventHandles event).isSome then handler else s

variable (decode : Int → Option BatteryChargeState)

def step (s : ChargeStates) : ChargeEvent → ChargeStates
  | .batteryChanged capacity chargeState => s.handleEvent .batteryChanged
      { s with
        charger := (s.charger.handleChangerStatusCompleted decode capacity chargeState).1 }
  | .batteryChangedInner current => s.handleEvent .batteryChangedInner
      { s with charger := (s.charger.handleChangerInnerStatusCompleted current).1 }
  | .thermalLevelChanged level => s.handleEvent .thermalLevelChanged
      { s with charger := (s.charger.handleThermalLevelCompleted level).1 }
  | .powerConnected => s.handleEvent .powerConnected s.handlerPowerConnected
  | .powerDisconnected newId => s.handleEvent .powerDisconnected (s.handlerPowerDisconnected newId)
  | .initChargeState chargeState => { s with charger := s.charger.initChargeState chargeState }
  | .resetState => { s with chargeDelay := {} }

/-- The collections of a configuration once the state machine is initialised. `Init` of the charger
asks the battery service. -/
def start (items : List StateItem) (idleStateConfig : IdleState)
    (chargeState : BatteryChargeState) : ChargeStates where
  eventHandles := (StateMachine.run true items [] []).eventHandles
  charger :=
    if items.any fun item => item.name == stateCharger then
      ChargerStateCollection.init {} idleStateConfig chargeState
    else {}

/-! ### What the events say -/

/-- What an event says about charging, if it says anything. -/
def reportedCharging : ChargeEvent → Option Bool
  | .batteryChanged _ chargeState => (decode (chargeState.getD (-1))).map (· == .enable)
  | .powerConnected => some true
  | .powerDisconnected _ => some false
  | .initChargeState chargeState => some (chargeState == .enable)
  | _ => none

/-- The same for the events that write the flag: the answers of the battery service and, if the
charge delay is configured, the power events. -/
def recordedCharging (hasChargeDelay : Bool) : ChargeEvent → Option Bool
  | .powerConnected => if hasChargeDelay then some true else none
  | .powerDisconnected _ => if hasChargeDelay then some false else none
  | .initChargeState chargeState => some (chargeState == .enable)
  | _ => none

/-- The most recent information, or what was known at the start. -/
def latest (info : ChargeEvent → Option Bool) (initial : Bool) (events : List ChargeEvent) : Bool :=
  (events.filterMap info).getLastD initial

variable {decode} {s : ChargeStates}

theorem latest_cons (info : ChargeEvent → Option Bool) (initial : Bool) (e : ChargeEvent)
    (events : List ChargeEvent) :
    latest info initial (e :: events) = latest info ((info e).getD initial) events := by
  rw [latest, List.filterMap_cons]
  cases info e with
  | none => rfl
  | some said => exact List.getLastD_cons

/-! ### The flag -/

theorem handleChargeIdleState_isCharge (c : ChargerStateCollection) :
    c.handleChargeIdleState.1.isCharge = c.isCharge := by
  rw [ChargerStateCollection.handleChargeIdleState]
  split <;> rfl

theorem handleChangerStatusCompleted_isCharge (c : ChargerStateCollection)
    (capacity chargeState : Option Int) :
    (c.handleChangerStatusCompleted decode capacity chargeState).1.isCharge = c.isCharge := by
  simp only [ChargerStateCollection.handleChangerStatusCompleted]
  split <;> exact handleChargeIdleState_isCharge _

theorem handleEvent_isCharge (event : CommonEvent) (handler : ChargeStates) :
    (s.handleEvent event handler).charger.isCharge =
      if (s.eventHandles event).isSome then handler.charger.isCharge else s.charger.isCharge := by
  rw [handleEvent]
  split <;> rfl

theorem step_eventHandles (e : ChargeEvent) : (s.step decode e).eventHandles = s.eventHandles := by
  have hhandled : ∀ (event : CommonEvent) (handler : ChargeStates),
      handler.eventHandles = s.eventHandles →
      (s.handleEvent event handler).eventHandles = s.eventHandles := by
    intro event handler h
    rw [handleEvent]
    split
    · exact h
    · rfl
  cases e with
  | batteryChanged capacity chargeState => exact hhandled _ _ rfl
  | batteryChangedInner current => exact hhandled _ _ rfl
  | thermalLevelChanged level => exact hhandled _ _ rfl
  | powerConnected =>
    refine hhandled _ _ ?_
    rw [handlerPowerConnected]
    split <;> rfl
  | powerDisconnected newId =>
    refine hhandled _ _ ?_
    rw [handlerPowerDisconnected]
    split <;> rfl
  | initChargeState chargeState => rfl
  | resetState => rfl

/-- The flag after an event, if the power events have handlers exactly with a charge delay. -/
theorem step_isCharge {hasChargeDelay : Bool}
    (hconnected : (s.eventHandles .powerConnected).isSome = hasChargeDelay)
    (hdisconnected : (s.eventHandles .powerDisconnected).isSome = hasChargeDelay)
    (e : ChargeEvent) : (s.step decode e).charger.isCharge =
      (recordedCharging hasChargeDelay e).getD s.charger.isCharge := by
  cases e with
  | batteryChanged capacity chargeState =>
    refine (handleEvent_isCharge _ _).trans ?_
    rw [handleChangerStatusCompleted_isCharge, ite_self]
    rfl
  | batteryChangedInner current =>
    refine (handleEvent_isCharge _ _).trans ?_
    rw [ChargerStateCollection.handleChangerInnerStatusCompleted, handleChargeIdleState_isCharge,
      ite_self]
    rfl
  | thermalLevelChanged level =>
    refine (handleEvent_isCharge _ _).trans ?_
    rw [ChargerStateCollection.handleThermalLevelCompleted, handleChargeIdleState_isCharge,
      ite_self]
    rfl
  | powerConnected =>
    refine (handleEvent_isCharge _ _).trans ?_
    rw [hconnected, handlerPowerConnected, recordedCharging]
    cases hasChargeDelay <;> cases hflag : s.charger.isCharge <;> simp [hflag]
  | powerDisconnected newId =>
    refine (handleEvent_isCharge _ _).trans ?_
    rw [hdisconnected, handlerPowerDisconnected, recordedCharging]
    cases hasChargeDelay <;> cases hflag : s.charger.isCharge <;> simp [hflag]
  | initChargeState chargeState => rfl
  | resetState => rfl

theorem run_isCharge {hasChargeDelay : Bool}
    (hconnected : (s.eventHandles .powerConnected).isSome = hasChargeDelay)
    (hdisconnected : (s.eventHandles .powerDisconnected).isSome = hasChargeDelay)
    (events : List ChargeEvent) : (events.foldl (step decode) s).charger.isCharge =
      latest (recordedCharging hasChargeDelay) s.charger.isCharge events := by
  induction events generalizing s with
  | nil => rfl
  | cons e rest ih =>
    rw [List.foldl_cons, ih, step_isCharge hconnected hdisconnected, latest_cons]
    · rwa [step_eventHandles]
    · rwa [step_eventHandles]

/-! ### The handlers of a configuration -/

theorem ofName_eq_chargeDelay_iff {name : String} :
    CollectionClass.ofName name = .chargeDelay ↔ name = stateChargeDelay := by
  rw [CollectionClass.ofName]
  repeat' split
  all_goals simp_all [stateCharger, stateScreen, stateScene, stateChargeDelay]

theorem mem_registeredEvents_power {c : CollectionClass} {event : CommonEvent}
    (h : event = .powerConnected ∨ event = .powerDisconnected) :
    event ∈ c.registeredEvents true ↔ c = .chargeDelay := by
  rcases h with rfl | rfl <;> cases c <;> decide

theorem isSome_eventHandles {batteryManagerEnable : Bool} (states : List StateItem)
    (s : StateMachine) (event : CommonEvent) :
    ((states.foldl (StateMachine.initState batteryManagerEnable) s).eventHandles event).isSome ↔
      (s.eventHandles event).isSome ∨ ∃ state ∈ states,
        event ∈ (CollectionClass.ofName state.name).registeredEvents batteryManagerEnable := by
  induction states generalizing s with
  | nil => simp
  | cons state rest ih =>
    have hfirst : ((s.initState batteryManagerEnable state).eventHandles event).isSome ↔
        (s.eventHandles event).isSome ∨
          event ∈ (CollectionClass.ofName state.name).registeredEvents batteryManagerEnable := by
      rw [StateMachine.initState_eq]
      show (if event ∈ _ then (s.eventHandles event).or _ else s.eventHandles event).isSome ↔ _
      split
      case isTrue h => simp [h]
      case isFalse h => simp [h]
    rw [List.foldl_cons, ih, hfirst, or_assoc]
    simp

/-- The power events have handlers exactly when the charge delay is configured. -/
theorem isSome_powerHandler (items : List StateItem) {event : CommonEvent}
    (h : event = .powerConnected ∨ event = .powerDisconnected) :
    ((StateMachine.run true items [] []).eventHandles event).isSome =
      items.any fun item => item.name == stateChargeDelay := by
  rw [Bool.eq_iff_iff]
  show ((items.foldl (StateMachine.initState true) _).eventHandles event).isSome ↔ _
  rw [isSome_eventHandles, List.any_eq_true]
  simp only [mem_registeredEvents_power h, ofName_eq_chargeDelay_iff, beq_iff_eq]
  exact or_iff_right Bool.false_ne_true

/-! ### Following the charger -/

/-- The charge state answers what the device is said to do. -/
def Follows (s : ChargeStates) (charging : Bool) : Prop :=
  (s.charger.decideState "1" = true ↔ charging = true) ∧
    (s.charger.decideState "0" = true ↔ charging = false)

theorem follows_iff {charging : Bool} : s.Follows charging ↔ charging = s.charger.isCharge := by
  rw [Follows, ChargerStateCollection.decideState, ChargerStateCollection.decideState]
  cases s.charger.isCharge <;> cases charging <;> decide

/-- After every run, the charge state follows the most recent information about charging exactly
when this is what the battery service or, with a charge delay, a power event last said. -/
theorem charge_state_follows_iff (decode : Int → Option BatteryChargeState)
    (items : List StateItem) (idleStateConfig : IdleState) (chargeState : BatteryChargeState)
    (hcharge : ∃ item ∈ items, item.name = stateCharger) (events : List ChargeEvent) :
    (events.foldl (step decode) (start items idleStateConfig chargeState)).Follows
        (latest (reportedCharging decode) (chargeState == .enable) events) ↔
      latest (reportedCharging decode) (chargeState == .enable) events =
        latest (recordedCharging (items.any fun item => item.name == stateChargeDelay))
          (chargeState == .enable) events := by
  have hstart : (start items idleStateConfig chargeState).charger.isCharge =
      (chargeState == .enable) := by
    have hany : (items.any fun item => item.name == stateCharger) = true := by
      simpa using hcharge
    rw [start]
    dsimp only
    rw [if_pos hany]
    rfl
  rw [follows_iff, run_isCharge (isSome_powerHandler items (.inl rfl))
    (isSome_powerHandler items (.inr rfl)), hstart]

/-- Only the number of the charging state is known to the repository. -/
def chargingOnly (chargeState : Int) : Option BatteryChargeState :=
  if chargeState = 1 then some .enable else none

/-- With a charge delay, the state follows the power events. -/
theorem charge_state_follows_power :
    ([ChargeEvent.powerConnected, .powerDisconnected 7].foldl (step chargingOnly)
      (start [{ name := "charge" }, { name := "charge_delay" }] ⟨0, 0, 0, 0⟩ .enable)).Follows
      false :=
  (charge_state_follows_iff chargingOnly [{ name := "charge" }, { name := "charge_delay" }]
    ⟨0, 0, 0, 0⟩ .enable ⟨{ name := "charge" }, List.mem_cons_self, rfl⟩
    [.powerConnected, .powerDisconnected 7]).mpr (by decide)

/-- The battery reports that charging has begun, and the state stays at not charging. -/
theorem charge_state_misses_battery_event :
    ¬ ([ChargeEvent.batteryChanged (some 50) (some 1)].foldl (step chargingOnly)
      (start [{ name := "charge" }, { name := "charge_delay" }] ⟨0, 0, 0, 0⟩ .disable)).Follows
      (latest (reportedCharging chargingOnly) false
        [.batteryChanged (some 50) (some 1)]) := by
  rw [follows_iff]
  decide

end ChargeStates

end ThermalManager
