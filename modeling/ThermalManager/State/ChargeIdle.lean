import ThermalManager.Lib.EdgeTrigger
import ThermalManager.State.ChargeState

/-!
# Charge-idle broadcasts

The three handlers of `charger_state_collection.cpp` each store their part of the cached idle state
and then compare the idle condition with the one broadcast last. `PublishCommonEvent` is taken to
succeed.
-/

namespace ThermalManager

open EdgeTrigger

/-- The events the charger has handlers for; a parameter may be missing. -/
inductive IdleEvent where
  | batteryChanged (capacity chargeState : Option Int)
  | batteryChangedInner (current : Option Int)
  | thermalLevelChanged (level : Option Int)
  deriving DecidableEq

namespace ChargerStateCollection

variable (decode : Int → Option BatteryChargeState)

/-- The second component is the broadcast, if there is one. -/
def idleStep (c : ChargerStateCollection) : IdleEvent → ChargerStateCollection × Option Bool
  | .batteryChanged capacity chargeState =>
      c.handleChangerStatusCompleted decode capacity chargeState
  | .batteryChangedInner current => c.handleChangerInnerStatusCompleted current
  | .thermalLevelChanged level => c.handleThermalLevelCompleted level

def broadcasts (c : ChargerStateCollection) : List IdleEvent → List Bool
  | [] => []
  | e :: rest =>
      (c.idleStep decode e).2.toList ++ broadcasts (c.idleStep decode e).1 rest

/-! ### The idle condition -/

/-- The condition under which the device is idle while charging. -/
def isIdle (config received : IdleState) : Bool :=
  decide (received.soc ≥ config.soc) && decide (received.charging = config.charging) &&
    decide (received.current ≥ config.current) && decide (received.level ≤ config.level)

/-- What was received before, with what an event says. -/
def receive (received : IdleState) : IdleEvent → IdleState
  | .batteryChanged capacity chargeState =>
      { received with soc := capacity.getD (-1), charging := chargeState.getD (-1) }
  | .batteryChangedInner current => { received with current := current.getD (-1) }
  | .thermalLevelChanged level => { received with level := level.getD (-1) }

variable {decode} {c : ChargerStateCollection} {e : IdleEvent}

theorem handleChargeIdleState_eq (c : ChargerStateCollection) :
    c.handleChargeIdleState =
      ({ c with isChargeIdle := isIdle c.idleStateConfig c.cachedIdleState },
        if isIdle c.idleStateConfig c.cachedIdleState ≠ c.isChargeIdle then
          some (isIdle c.idleStateConfig c.cachedIdleState)
        else none) := by
  show (if isIdle c.idleStateConfig c.cachedIdleState ≠ c.isChargeIdle then _ else _) = _
  split
  · rfl
  case isFalse heq => rw [not_not.mp heq]

/-- Every handler stores what it received and then evaluates the condition. -/
theorem idleStep_spec (decode : Int → Option BatteryChargeState) (c : ChargerStateCollection)
    (e : IdleEvent) :
    (c.idleStep decode e).1.cachedIdleState = receive c.cachedIdleState e ∧
      (c.idleStep decode e).1.idleStateConfig = c.idleStateConfig ∧
      (c.idleStep decode e).1.isChargeIdle =
        isIdle c.idleStateConfig (receive c.cachedIdleState e) ∧
      (c.idleStep decode e).2 =
        if isIdle c.idleStateConfig (receive c.cachedIdleState e) ≠ c.isChargeIdle then
          some (isIdle c.idleStateConfig (receive c.cachedIdleState e))
        else none := by
  cases e with
  | batteryChanged capacity chargeState =>
    dsimp only [idleStep, handleChangerStatusCompleted]
    rw [handleChargeIdleState_eq]
    dsimp only
    split <;> exact ⟨rfl, rfl, rfl, rfl⟩
  | batteryChangedInner current =>
    rw [idleStep, handleChangerInnerStatusCompleted, handleChargeIdleState_eq]
    exact ⟨rfl, rfl, rfl, rfl⟩
  | thermalLevelChanged level =>
    rw [idleStep, handleThermalLevelCompleted, handleChargeIdleState_eq]
    exact ⟨rfl, rfl, rfl, rfl⟩

def conditions (config received : IdleState) : List IdleEvent → List Bool
  | [] => []
  | e :: rest => isIdle config (receive received e) :: conditions config (receive received e) rest

theorem broadcasts_eq_edges (c : ChargerStateCollection) (events : List IdleEvent) :
    c.broadcasts decode events =
      edges c.isChargeIdle (conditions c.idleStateConfig c.cachedIdleState events) := by
  induction events generalizing c with
  | nil => rfl
  | cons e rest ih =>
    obtain ⟨hcached, hconfig, hidle, hbroadcast⟩ := idleStep_spec decode c e
    rw [broadcasts, ih, hcached, hconfig, hidle, hbroadcast, conditions, edges]
    split
    · rfl
    case isFalse heq =>
      rw [not_not.mp heq]
      rfl

theorem conditions_getLastD (config received : IdleState) (events : List IdleEvent) (e : IdleEvent)
    (before : Bool) : (conditions config received (events ++ [e])).getLastD before =
      isIdle config ((events ++ [e]).foldl receive received) := by
  induction events generalizing received before with
  | nil => rfl
  | cons first rest ih =>
    rw [List.cons_append, conditions, List.getLastD_cons, List.foldl_cons, ih]

/-! ### The most recent values -/

/-- What an event says about each of the four values. -/
def saidSoc : IdleEvent → Option Int
  | .batteryChanged capacity _ => some (capacity.getD (-1))
  | _ => none

def saidCharging : IdleEvent → Option Int
  | .batteryChanged _ chargeState => some (chargeState.getD (-1))
  | _ => none

def saidCurrent : IdleEvent → Option Int
  | .batteryChangedInner current => some (current.getD (-1))
  | _ => none

def saidLevel : IdleEvent → Option Int
  | .thermalLevelChanged level => some (level.getD (-1))
  | _ => none

/-- The most recent value of each kind, or the one that was cached at first. -/
def mostRecent (initial : IdleState) (events : List IdleEvent) : IdleState where
  level := (events.filterMap saidLevel).getLastD initial.level
  soc := (events.filterMap saidSoc).getLastD initial.soc
  charging := (events.filterMap saidCharging).getLastD initial.charging
  current := (events.filterMap saidCurrent).getLastD initial.current

theorem foldl_receive (initial : IdleState) (events : List IdleEvent) :
    events.foldl receive initial = mostRecent initial events := by
  have hlevel := part_eq_last receive IdleState.level saidLevel
    (fun s e => by cases e <;> rfl) initial events
  have hsoc := part_eq_last receive IdleState.soc saidSoc
    (fun s e => by cases e <;> rfl) initial events
  have hcharging := part_eq_last receive IdleState.charging saidCharging
    (fun s e => by cases e <;> rfl) initial events
  have hcurrent := part_eq_last receive IdleState.current saidCurrent
    (fun s e => by cases e <;> rfl) initial events
  rw [mostRecent, ← hlevel, ← hsoc, ← hcharging, ← hcurrent]

/-- After the charger is initialised, its broadcasts alternate, the first of them says that the
device is not idle, and after every event the last one, or the initial value, is the idle condition
on the most recent values. -/
theorem broadcasts_track_idle (decode : Int → Option BatteryChargeState)
    (idleStateConfig : IdleState) (chargeState : BatteryChargeState) (events : List IdleEvent)
    (e : IdleEvent) :
    let sent := (init {} idleStateConfig chargeState).broadcasts decode (events ++ [e])
    sent.IsChain (· ≠ ·) ∧ (∀ first, sent.head? = some first → first = false) ∧
      sent.getLastD true = isIdle idleStateConfig (mostRecent ⟨0, 0, 0, 0⟩ (events ++ [e])) := by
  intro sent
  have hsent : sent = edges true (conditions idleStateConfig ⟨0, 0, 0, 0⟩ (events ++ [e])) :=
    broadcasts_eq_edges _ _
  have hchain : (true :: sent).IsChain (· ≠ ·) := hsent ▸ edges_isChain true _
  refine ⟨hchain.tail, fun first hfirst => ?_, ?_⟩
  · obtain ⟨rest, hrest⟩ := List.head?_eq_some_iff.mp hfirst
    rw [hrest] at hchain
    have hne := (List.isChain_cons_cons.mp hchain).1
    exact (Bool.eq_false_of_not_eq_true fun htrue => hne htrue.symm)
  · rw [hsent, edges_getLastD, conditions_getLastD, foldl_receive]

end ChargerStateCollection

end ThermalManager
