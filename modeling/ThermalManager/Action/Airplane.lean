import ThermalManager.Lib.Run

/-!
# Airplane mode

`AirplaneRequest` of `action_airplane.cpp` and `OnReceiveEvent` of `thermal_service.cpp`, with the
network service between them: a call or a user who changes the mode publishes an event, which is
delivered later and in order, and one who does not change it publishes none. The flag
`isThermalAirplane_` is to tell the events that thermal control causes from those of the user.
-/

namespace ThermalManager

open StepSystem

structure AirplaneSystem where
  mode : Bool := false
  inFlight : List Bool := []
  userAirplaneState : Bool := false
  isThermalAirplane : Bool := false
  /-- The mode last chosen by the user. -/
  chosen : Bool := false
  deriving DecidableEq

inductive AirplaneEvent where
  | userToggle (mode : Bool)
  | airplaneRequest (value : Nat)
  | deliver
  deriving DecidableEq

namespace AirplaneSystem

def setAirplaneMode (s : AirplaneSystem) (mode : Bool) : AirplaneSystem :=
  if s.mode = mode then s
  else { s with
    mode := mode
    inFlight := s.inFlight ++ [mode] }

def userToggle (s : AirplaneSystem) (mode : Bool) : AirplaneSystem :=
  setAirplaneMode { s with chosen := mode } mode

/-- `LOWER_TEMP` is zero and `HIGHER_TEMP` one. -/
def airplaneRequest (s : AirplaneSystem) : Nat → AirplaneSystem
  | 0 =>
      if !s.userAirplaneState then setAirplaneMode { s with isThermalAirplane := true } false else s
  | 1 =>
      if !s.userAirplaneState then setAirplaneMode { s with isThermalAirplane := true } true else s
  | _ => s

def onReceiveEvent (s : AirplaneSystem) (code : Bool) : AirplaneSystem :=
  if !s.isThermalAirplane then { s with userAirplaneState := code }
  else { s with isThermalAirplane := false }

def deliver (s : AirplaneSystem) : AirplaneSystem :=
  match s.inFlight with
  | [] => s
  | code :: rest => onReceiveEvent { s with inFlight := rest } code

def step (s : AirplaneSystem) : AirplaneEvent → AirplaneSystem
  | .userToggle mode => s.userToggle mode
  | .airplaneRequest value => s.airplaneRequest value
  | .deliver => s.deliver

/-- All events in flight are delivered. -/
def drain (s : AirplaneSystem) : AirplaneSystem := s.inFlight.foldl (fun s _ => s.deliver) s

/-- The service knows what the user chose and expects no event of its own. -/
def Faithful (s : AirplaneSystem) : Prop :=
  s.userAirplaneState = s.chosen ∧ s.isThermalAirplane = false

/-- A toggle changes the mode or repeats the choice. A request that the service does not turn down
changes the mode while nothing is in flight, or to what the user chose; or, if it does not change
the mode, the event that the flag will take is one that may be lost. -/
def Safe (s : AirplaneSystem) : AirplaneEvent → Prop
  | .userToggle mode => s.mode ≠ mode ∨ s.chosen = mode
  | .airplaneRequest value =>
      s.userAirplaneState = true ∨ 2 ≤ value ∨
        if s.mode = decide (value = 1) then
          s.isThermalAirplane = true ∨ 2 ≤ s.inFlight.length ∨
            (s.inFlight ≠ [] ∧ s.chosen = false)
        else s.inFlight = [] ∨ s.chosen = decide (value = 1)
  | .deliver => True

variable {s : AirplaneSystem} {e : AirplaneEvent}

/-! ### Delivering -/

def believed (s : AirplaneSystem) : Bool :=
  (if s.isThermalAirplane then s.inFlight.tail else s.inFlight).getLastD s.userAirplaneState

theorem drain_of_quiet (h : s.inFlight = []) : s.drain = s := by
  rw [drain, h]
  rfl

theorem drain_deliver (s : AirplaneSystem) : s.deliver.drain = s.drain := by
  cases hflight : s.inFlight with
  | nil =>
    have hsame : s.deliver = s := by rw [deliver, hflight]
    rw [hsame]
  | cons code rest =>
    have hrest : s.deliver.inFlight = rest := by
      rw [deliver, hflight]
      dsimp only [onReceiveEvent]
      split <;> rfl
    rw [drain, drain, hrest, hflight, List.foldl_cons]

theorem deliver_spec {code : Bool} {rest : List Bool} (hflight : s.inFlight = code :: rest) :
    s.deliver.believed = s.believed ∧ s.deliver.chosen = s.chosen ∧
      s.deliver.inFlight = rest ∧ s.deliver.isThermalAirplane = false := by
  rw [deliver, hflight, believed, believed, hflight]
  dsimp only [onReceiveEvent]
  cases hflag : s.isThermalAirplane with
  | true => exact ⟨rfl, rfl, rfl, rfl⟩
  | false => exact ⟨List.getLastD_cons.symm, rfl, rfl, rfl⟩

/-- The service is right in the end exactly if the flag still has an event to take and the last of
the others is the choice. -/
theorem faithful_drain_iff (s : AirplaneSystem) : s.drain.Faithful ↔
    s.believed = s.chosen ∧ (s.isThermalAirplane = true → s.inFlight ≠ []) := by
  generalize hlength : s.inFlight.length = n
  induction n generalizing s with
  | zero =>
    have hnil := List.length_eq_zero_iff.mp hlength
    rw [drain_of_quiet hnil, Faithful, believed, hnil]
    simp
  | succ n ih =>
    obtain ⟨code, rest, hflight⟩ := List.exists_cons_of_length_eq_add_one hlength
    obtain ⟨hbelieved, hchosen, hrest, hflag⟩ := deliver_spec hflight
    have hlength' : s.deliver.inFlight.length = n := by
      rw [hrest]
      rw [hflight] at hlength
      exact Nat.succ.inj hlength
    rw [← drain_deliver, ih s.deliver hlength', hbelieved, hchosen, hflag, hflight]
    simp

/-! ### One step -/

theorem setAirplaneMode_same (s : AirplaneSystem) {mode : Bool} (h : s.mode = mode) :
    s.setAirplaneMode mode = s :=
  if_pos h

theorem setAirplaneMode_change (s : AirplaneSystem) {mode : Bool} (h : s.mode ≠ mode) :
    s.setAirplaneMode mode =
      { s with
        mode := mode
        inFlight := s.inFlight ++ [mode] } :=
  if_neg h

theorem getLastD_append_singleton (codes : List Bool) (mode before : Bool) :
    (codes ++ [mode]).getLastD before = mode := by
  rw [List.getLastD_eq_getLast?, List.getLast?_concat]
  rfl

theorem append_singleton_ne_nil (codes : List Bool) (mode : Bool) : codes ++ [mode] ≠ [] :=
  List.append_ne_nil_of_right_ne_nil _ (List.cons_ne_nil _ _)

theorem userToggle_drain_iff (h : s.drain.Faithful) (mode : Bool) :
    (s.userToggle mode).drain.Faithful ↔ s.Safe (.userToggle mode) := by
  rw [faithful_drain_iff] at h ⊢
  by_cases hmode : s.mode = mode
  · rw [userToggle, setAirplaneMode_same { s with chosen := mode } hmode]
    show s.believed = mode ∧ _ ↔ s.mode ≠ mode ∨ s.chosen = mode
    rw [h.1, or_iff_right (not_not_intro hmode)]
    exact and_iff_left h.2
  · rw [userToggle, setAirplaneMode_change { s with chosen := mode } hmode]
    refine iff_of_true ⟨?_, fun _ => append_singleton_ne_nil _ _⟩ (.inl hmode)
    show (if s.isThermalAirplane then (s.inFlight ++ [mode]).tail
      else s.inFlight ++ [mode]).getLastD _ = mode
    split
    case isTrue hflag =>
      rw [List.tail_append_of_ne_nil (h.2 hflag)]
      exact getLastD_append_singleton _ _ _
    case isFalse => exact getLastD_append_singleton _ _ _

/-- A flag that is raised without a new event takes one of those in flight: none is missing from
what the service will believe if one is taken already, or if the last is still to come. -/
theorem raised_same_iff {inFlight : List Bool} {flag chosen : Bool}
    (hbelieved : (if flag then inFlight.tail else inFlight).getLastD false = chosen)
    (hflag : flag = true → inFlight ≠ []) :
    (inFlight.tail.getLastD false = chosen ∧ inFlight ≠ []) ↔
      flag = true ∨ 2 ≤ inFlight.length ∨ (inFlight ≠ [] ∧ chosen = false) := by
  cases flag with
  | true => exact iff_of_true ⟨hbelieved, hflag rfl⟩ (.inl rfl)
  | false =>
    replace hbelieved : inFlight.getLastD false = chosen := hbelieved
    rcases inFlight with _ | ⟨code, _ | ⟨next, rest⟩⟩
    · simp
    · simp [eq_comm]
    · rw [List.getLastD_cons, List.getLastD_cons] at hbelieved
      rw [List.tail_cons, List.getLastD_cons]
      simpa using hbelieved

theorem raised_change_iff {inFlight : List Bool} {flag chosen : Bool}
    (hbelieved : (if flag then inFlight.tail else inFlight).getLastD false = chosen)
    (hflag : flag = true → inFlight ≠ []) (mode : Bool) :
    (inFlight ++ [mode]).tail.getLastD false = chosen ↔ inFlight = [] ∨ chosen = mode := by
  by_cases hnil : inFlight = []
  · subst hnil
    have hdown : flag = false := Bool.eq_false_iff.mpr fun h => hflag h rfl
    subst hdown
    exact iff_of_true hbelieved (.inl rfl)
  · rw [List.tail_append_of_ne_nil hnil, getLastD_append_singleton, or_iff_right hnil]
    exact eq_comm

theorem setAirplaneMode_drain_iff (h : s.drain.Faithful) (huser : s.userAirplaneState = false)
    (mode : Bool) :
    (setAirplaneMode { s with isThermalAirplane := true } mode).drain.Faithful ↔
      if s.mode = mode then
        s.isThermalAirplane = true ∨ 2 ≤ s.inFlight.length ∨
          (s.inFlight ≠ [] ∧ s.chosen = false)
      else s.inFlight = [] ∨ s.chosen = mode := by
  rw [faithful_drain_iff] at h ⊢
  rw [believed, huser] at h
  by_cases hmode : s.mode = mode
  · rw [setAirplaneMode_same { s with isThermalAirplane := true } hmode, if_pos hmode,
      ← raised_same_iff h.1 h.2, ← huser]
    exact and_congr_right fun _ => forall_prop_of_true rfl
  · rw [setAirplaneMode_change { s with isThermalAirplane := true } hmode, if_neg hmode,
      ← raised_change_iff h.1 h.2, ← huser]
    exact and_iff_left fun _ => append_singleton_ne_nil _ _

theorem airplaneRequest_turned_down {value : Nat} (h : s.userAirplaneState = true ∨ 2 ≤ value) :
    s.airplaneRequest value = s := by
  rcases value with _ | _ | n
  · rw [airplaneRequest, h.resolve_right (by omega)]
    rfl
  · rw [airplaneRequest, h.resolve_right (by omega)]
    rfl
  · rfl

theorem airplaneRequest_let_through {value : Nat} (h : ¬ (s.userAirplaneState = true ∨ 2 ≤ value)) :
    s.airplaneRequest value =
      setAirplaneMode { s with isThermalAirplane := true } (decide (value = 1)) := by
  have hnot : (!s.userAirplaneState) = true := by simpa using fun huser => h (.inl huser)
  rcases value with _ | _ | n
  · exact if_pos hnot
  · exact if_pos hnot
  · exact absurd (.inr (by omega)) h

theorem airplaneRequest_drain_iff (h : s.drain.Faithful) (value : Nat) :
    (s.airplaneRequest value).drain.Faithful ↔ s.Safe (.airplaneRequest value) := by
  by_cases hdown : s.userAirplaneState = true ∨ 2 ≤ value
  · rw [airplaneRequest_turned_down hdown]
    exact iff_of_true h (or_assoc.mp (.inl hdown))
  · obtain ⟨huser, hvalue⟩ := not_or.mp hdown
    rw [airplaneRequest_let_through hdown,
      setAirplaneMode_drain_iff h (Bool.eq_false_iff.mpr huser)]
    exact ((or_iff_right huser).trans (or_iff_right hvalue)).symm

theorem step_drain_iff (h : s.drain.Faithful) (e : AirplaneEvent) :
    (s.step e).drain.Faithful ↔ s.Safe e := by
  cases e with
  | userToggle mode => exact userToggle_drain_iff h mode
  | airplaneRequest value => exact airplaneRequest_drain_iff h value
  | deliver =>
    show s.deliver.drain.Faithful ↔ True
    rw [drain_deliver]
    exact iff_true_intro h

/-! ### The mode a user asked for -/

/-- A user who asked for airplane mode has it. -/
def HasMode (s : AirplaneSystem) : Prop :=
  s.chosen = true → s.mode = true

/-- The service believes the user, or an event of the user is in flight and the request is not
safe. -/
theorem airplaneRequest_mode (h : s.drain.Faithful) (hmode : s.HasMode) {value : Nat}
    (hsafe : s.Safe (.airplaneRequest value)) (hchosen : s.chosen = true) :
    (s.airplaneRequest value).mode = s.mode := by
  by_cases hdown : s.userAirplaneState = true ∨ 2 ≤ value
  · rw [airplaneRequest_turned_down hdown]
  obtain ⟨huser, hvalue⟩ := not_or.mp hdown
  rw [airplaneRequest_let_through hdown]
  by_cases hsame : s.mode = decide (value = 1)
  · rw [setAirplaneMode_same { s with isThermalAirplane := true } hsame]
  have hcase := (hsafe.resolve_left huser).resolve_left hvalue
  rw [if_neg hsame] at hcase
  rcases hcase with hnil | hvalue'
  · rw [drain_of_quiet hnil] at h
    exact absurd (h.1.trans hchosen) huser
  · exact absurd ((hmode hchosen).trans (hchosen.symm.trans hvalue')) hsame

theorem setAirplaneMode_chosen (s : AirplaneSystem) (mode : Bool) :
    (s.setAirplaneMode mode).chosen = s.chosen := by
  rw [setAirplaneMode]
  split <;> rfl

theorem setAirplaneMode_mode (s : AirplaneSystem) (mode : Bool) :
    (s.setAirplaneMode mode).mode = mode := by
  rw [setAirplaneMode]
  split
  case isTrue h => exact h
  case isFalse => rfl

theorem airplaneRequest_chosen (s : AirplaneSystem) (value : Nat) :
    (s.airplaneRequest value).chosen = s.chosen := by
  by_cases hdown : s.userAirplaneState = true ∨ 2 ≤ value
  · rw [airplaneRequest_turned_down hdown]
  · rw [airplaneRequest_let_through hdown, setAirplaneMode_chosen]

theorem deliver_mode (s : AirplaneSystem) :
    s.deliver.mode = s.mode ∧ s.deliver.chosen = s.chosen := by
  cases hflight : s.inFlight with
  | nil => simp only [deliver, hflight, and_self]
  | cons code rest =>
    rw [deliver, hflight]
    dsimp only [onReceiveEvent]
    split <;> exact ⟨rfl, rfl⟩

theorem step_hasMode (h : s.drain.Faithful) (hmode : s.HasMode) (e : AirplaneEvent)
    (hsafe : s.Safe e) : (s.step e).HasMode := by
  intro hchosen
  cases e with
  | userToggle mode =>
    show (setAirplaneMode { s with chosen := mode } mode).mode = true
    rw [setAirplaneMode_mode]
    exact (setAirplaneMode_chosen { s with chosen := mode } mode).symm.trans hchosen
  | airplaneRequest value =>
    have hchosen' : s.chosen = true := (s.airplaneRequest_chosen value).symm.trans hchosen
    exact (airplaneRequest_mode h hmode hsafe hchosen').trans (hmode hchosen')
  | deliver =>
    have hsame := s.deliver_mode
    exact hsame.1.trans (hmode (hsame.2.symm.trans hchosen))

/-! ### Whole runs -/

/-- What the service knows of the user's choice, when nothing is in flight and else when everything
is delivered. -/
structure KnowsChoice (s : AirplaneSystem) : Prop where
  quiet : s.inFlight = [] → s.Faithful
  drained : s.drain.Faithful

theorem knowsChoice_iff : s.KnowsChoice ↔ s.drain.Faithful := by
  constructor
  · exact KnowsChoice.drained
  · intro h
    exact ⟨fun hnil => drain_of_quiet hnil ▸ h, h⟩

theorem drain_iff_enabled (events : List AirplaneEvent) :
    Always step (fun s => s.drain.Faithful) {} events ↔ Enabled Safe step {} events :=
  always_iff_enabled_of_step _ (fun _ e h => step_drain_iff h e) ⟨rfl, rfl⟩ events

theorem hasMode_of_enabled {events : List AirplaneEvent} (h : Enabled Safe step {} events) :
    Always step (fun s => s.drain.Faithful ∧ s.HasMode) {} events :=
  h.always _ ⟨⟨rfl, rfl⟩, fun hchosen => hchosen⟩ fun _ e hgood hsafe =>
    ⟨(step_drain_iff hgood.1 e).mpr hsafe, step_hasMode hgood.1 hgood.2 e hsafe⟩

/-- The service knows the user's choice all along a run, and no request of the run changes the mode
of a user who has it on, exactly if every step of the run is safe. -/
theorem user_choice_kept_iff (events : List AirplaneEvent) :
    (∀ before, before <+: events → KnowsChoice (before.foldl step {}) ∧
      ∀ value, before ++ [.airplaneRequest value] <+: events →
        (before.foldl step {}).chosen = true →
          ((before.foldl step {}).airplaneRequest value).mode = (before.foldl step {}).mode) ↔
      Enabled Safe step {} events := by
  constructor
  · intro h
    exact (drain_iff_enabled events).mp fun before hbefore => (h before hbefore).1.drained
  · intro hsafe before hbefore
    obtain ⟨hdrain, hmode⟩ := hasMode_of_enabled hsafe before hbefore
    refine ⟨knowsChoice_iff.mpr hdrain, fun value hnext hchosen => ?_⟩
    exact airplaneRequest_mode hdrain hmode (hsafe.enabled_at hnext) hchosen

/-- The mode is off when thermal control asks for it to be off. The flag then takes the event of the
user who turns it on. -/
theorem user_choice_lost :
    ¬ ∀ events : List AirplaneEvent, (events.foldl step {}).inFlight = [] →
      (events.foldl step {}).Faithful := by
  intro h
  exact absurd (h [.airplaneRequest 1, .deliver, .userToggle false, .deliver, .airplaneRequest 0,
    .userToggle true, .deliver] rfl).1 (by decide)

/-- Two more requests then turn off the mode that the user has on. -/
example : ([.airplaneRequest 1, .deliver, .userToggle false, .deliver, .airplaneRequest 0,
    .userToggle true, .deliver, .airplaneRequest 1, .airplaneRequest 0].foldl step {}) =
    { inFlight := [false]
      isThermalAirplane := true
      chosen := true } := by
  decide

end AirplaneSystem

end ThermalManager
