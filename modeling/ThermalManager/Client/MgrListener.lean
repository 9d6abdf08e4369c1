import ThermalManager.Action.LevelListeners

/-!
# A level listener of a client

`thermal_mgr_listener.cpp`: every subscription makes a new callback object and keeps the address of
the last one only. An unsubscription takes back the object whose address is kept, so an object that
was registered when the next subscription came stays with the service.
-/

namespace ThermalManager

open StepSystem

/-- The address of a `ThermalLevelEvent`. -/
abbrev ThermalLevelEvent := Nat

inductive ListenerError where
  | errOk
  | errInvalidValue
  deriving DecidableEq, Repr

structure ThermalMgrListener where
  callback : Option RemoteObject := none
  levelEvent : Option ThermalLevelEvent := none

/-! ### The client -/

namespace ThermalMgrClient

/-- `connected` says whether `Connect` finds the service. -/
def subscribeThermalLevelCallback (thermalSrv : ActionThermalLevel)
    (callback : Option RemoteObject) (isSync connected : Bool) : Bool × ActionThermalLevel :=
  if callback = none ∨ connected = false then (false, thermalSrv)
  else (true, (thermalSrv.subscribeThermalLevelCallback isSync callback).1)

def unSubscribeThermalLevelCallback (thermalSrv : ActionThermalLevel)
    (callback : Option RemoteObject) (connected : Bool) : Bool × ActionThermalLevel :=
  if callback = none ∨ connected = false then (false, thermalSrv)
  else (true, thermalSrv.unSubscribeThermalLevelCallback callback)

end ThermalMgrClient

/-- The calls of a listener, and what else happens at the service. A subscription comes with the
address of the callback object it makes. -/
inductive ListenerCall where
  | subscribeLevelEvent (levelEvent : Option ThermalLevelEvent) (isSync : Bool)
      (new : RemoteObject) (connected : Bool)
  | unSubscribeLevelEvent (connected : Bool)
  | service (e : LevelEvent)

/-- A listener with the service, and the callback objects it has made. -/
structure ListenerSystem where
  listener : ThermalMgrListener := {}
  service : ActionThermalLevel
  created : List RemoteObject := []

namespace ListenerSystem

/-- A new listener, whatever the service has been doing. -/
def start (service : ActionThermalLevel) : ListenerSystem := { service := service }

/-- What the client returns is not looked at. -/
def registerServiceEvent (s : ListenerSystem) (isSync : Bool) (new : RemoteObject)
    (connected : Bool) : ListenerSystem :=
  { listener := { s.listener with callback := some new }
    service :=
      (ThermalMgrClient.subscribeThermalLevelCallback s.service (some new) isSync connected).2
    created := new :: s.created }

def unRegisterServiceEvent (s : ListenerSystem) (connected : Bool) : ListenerSystem :=
  { s with
    service := (ThermalMgrClient.unSubscribeThermalLevelCallback s.service s.listener.callback
      connected).2 }

def subscribeLevelEvent (s : ListenerSystem) (isSync : Bool) (new : RemoteObject)
    (connected : Bool) : Option ThermalLevelEvent → ListenerError × ListenerSystem
  | none => (.errInvalidValue, s)
  | some levelEvent =>
      (.errOk, { s with listener := { s.listener with levelEvent := some levelEvent } }
        |>.registerServiceEvent isSync new connected)

def unSubscribeLevelEvent (s : ListenerSystem) (connected : Bool) :
    ListenerError × ListenerSystem :=
  if s.listener.callback = none then (.errInvalidValue, s)
  else (.errOk, s.unRegisterServiceEvent connected)

def step (s : ListenerSystem) : ListenerCall → ListenerSystem
  | .subscribeLevelEvent levelEvent isSync new connected =>
      (s.subscribeLevelEvent isSync new connected levelEvent).2
  | .unSubscribeLevelEvent connected => (s.unSubscribeLevelEvent connected).2
  | .service e => { s with service := s.service.step e }

end ListenerSystem

/-! ### What a call does to the sets of the service -/

/-- The callback object is in one of the sets. -/
def ActionThermalLevel.Holds (service : ActionThermalLevel) (object : RemoteObject) : Prop :=
  object ∈ service.asyncThermalLevelListeners ∨ object ∈ service.syncThermalLevelListeners

instance (service : ActionThermalLevel) (object : RemoteObject) :
    Decidable (service.Holds object) :=
  inferInstanceAs (Decidable (_ ∨ _))

/-- The service is called by the policy or by other clients. -/
def LevelEvent.NamesNone (created : List RemoteObject) : LevelEvent → Prop
  | .subscribe callback _ => ∀ object ∈ created, callback ≠ some object
  | .unSubscribe callback => ∀ object ∈ created, callback ≠ some object
  | _ => True

instance (created : List RemoteObject) : (e : LevelEvent) → Decidable (e.NamesNone created)
  | .round _ _ => inferInstanceAs (Decidable True)
  | .fire _ => inferInstanceAs (Decidable True)
  | .subscribe _ _ => inferInstanceAs (Decidable (∀ object ∈ created, _))
  | .unSubscribe _ => inferInstanceAs (Decidable (∀ object ∈ created, _))
  | .getThermalLevel => inferInstanceAs (Decidable True)

def LevelMessage.listener? : LevelMessage → Option RemoteObject
  | .commonEvent _ => none
  | .onAsyncThermalLevelChanged listener _ => some listener
  | .onThermalLevelChanged listener _ => some listener
  | .subscribed listener _ => some listener
  | .queried _ => none

namespace ActionThermalLevel

variable {service : ActionThermalLevel} {callback object : RemoteObject} {isSync : Bool}

theorem holds_subscribe :
    (service.subscribeThermalLevelCallback isSync (some callback)).1.Holds object ↔
      callback = object ∨ service.Holds object := by
  have hset : (service.subscribeThermalLevelCallback isSync (some callback)).1 =
      (service.addThermalLevelListeners callback isSync).2 := by
    rw [subscribeThermalLevelCallback]
    cases service.addThermalLevelListeners callback isSync with
    | mk new service' => cases new <;> rfl
  obtain ⟨hasync, hsync⟩ := @LevelSystem.subscribed_insert object service callback isSync
  rw [hset, Holds, hasync, hsync, Holds]
  cases isSync with
  | true => simp [or_left_comm]
  | false => simp [or_assoc]

theorem holds_unSubscribe :
    (service.unSubscribeThermalLevelCallback (some callback)).Holds object ↔
      callback ≠ object ∧ service.Holds object := by
  rw [Holds, Holds, unSubscribeThermalLevelCallback, Std.ExtTreeSet.mem_erase,
    Std.ExtTreeSet.mem_erase, ne_eq, Std.LawfulEqOrd.compare_eq_iff_eq, ← and_or_left]

theorem holds_step {created : List RemoteObject} {e : LevelEvent} (he : e.NamesNone created)
    (hobject : object ∈ created) : (service.step e).Holds object ↔ service.Holds object := by
  cases e with
  | round calls newId => exact Iff.rfl
  | fire timerId => exact Iff.rfl
  | subscribe callback isSync =>
    cases callback with
    | none => exact Iff.rfl
    | some callback =>
      have hne : callback ≠ object := fun heq => he object hobject (congrArg some heq)
      exact holds_subscribe.trans (or_iff_right hne)
  | unSubscribe callback =>
    cases callback with
    | none => exact Iff.rfl
    | some callback =>
      have hne : callback ≠ object := fun heq => he object hobject (congrArg some heq)
      exact holds_unSubscribe.trans (and_iff_right hne)
  | getThermalLevel => exact Iff.rfl

theorem holds_of_mem_levelRequest {level : Int} {message : LevelMessage}
    (hmem : message ∈ service.levelRequest level) (hlistener : message.listener? = some object) :
    service.Holds object := by
  rw [levelRequest, notifyThermalLevelChanged] at hmem
  simp only [List.cons_append, List.mem_cons, List.mem_append, List.mem_map] at hmem
  rcases hmem with rfl | ⟨listener, hmem, rfl⟩ | ⟨listener, hmem, rfl⟩
  · cases hlistener
  · obtain rfl := Option.some.inj hlistener
    exact .inl (Std.ExtTreeSet.mem_toList.mp hmem)
  · obtain rfl := Option.some.inj hlistener
    exact .inr (Std.ExtTreeSet.mem_toList.mp hmem)

theorem holds_of_mem_messages {created : List RemoteObject} {e : LevelEvent}
    (he : e.NamesNone created) {message : LevelMessage} (hmessage : message ∈ service.messages e)
    (hlistener : message.listener? = some object) (hobject : object ∈ created) :
    service.Holds object := by
  have hrequest : ∀ request : Option Int,
      message ∈ (request.map service.levelRequest).getD [] → service.Holds object := by
    intro request hmem
    cases request with
    | none => exact absurd hmem List.not_mem_nil
    | some level => exact holds_of_mem_levelRequest hmem hlistener
  cases e with
  | round calls newId => exact hrequest _ hmessage
  | fire timerId => exact hrequest _ hmessage
  | subscribe callback isSync =>
    cases callback with
    | none => exact absurd hmessage List.not_mem_nil
    | some callback =>
      change message ∈ (service.subscribeThermalLevelCallback isSync (some callback)).2 at hmessage
      rw [subscribeThermalLevelCallback] at hmessage
      split at hmessage
      · obtain rfl := List.mem_singleton.mp hmessage
        exact absurd hlistener (he object hobject)
      · exact absurd hmessage List.not_mem_nil
  | unSubscribe callback => exact absurd hmessage List.not_mem_nil
  | getThermalLevel =>
    obtain rfl := List.mem_singleton.mp hmessage
    cases hlistener

end ActionThermalLevel

/-! ### What a listener leaves with the service -/

namespace ListenerCall

/-- A subscription with an event: it makes a new callback object. -/
def subscribes : ListenerCall → Bool
  | .subscribeLevelEvent levelEvent _ _ _ => levelEvent.isSome
  | _ => false

def registers : ListenerCall → Bool
  | .subscribeLevelEvent levelEvent _ _ connected => levelEvent.isSome && connected
  | _ => false

def releases : ListenerCall → Bool
  | .unSubscribeLevelEvent connected => connected
  | _ => false

theorem releases_of_subscribes {call : ListenerCall} (h : call.subscribes = true) :
    call.releases = false := by
  cases call with
  | subscribeLevelEvent levelEvent isSync new connected => rfl
  | unSubscribeLevelEvent connected => cases h
  | service e => cases h

theorem registers_of_not_subscribes {call : ListenerCall} (h : call.subscribes = false) :
    call.registers = false := by
  cases call with
  | subscribeLevelEvent levelEvent isSync new connected =>
    show (levelEvent.isSome && connected) = false
    rw [show levelEvent.isSome = false from h, Bool.false_and]
  | unSubscribeLevelEvent connected => rfl
  | service e => rfl

/-- The calls after a subscription take its object back: an unsubscription reaches the service
before the next subscription. -/
def released : List ListenerCall → Bool
  | [] => false
  | call :: calls => call.releases || (!call.subscribes && released calls)

/-- The calls take back every object that they register. -/
def allReleased : List ListenerCall → Bool
  | [] => true
  | call :: calls => (!call.registers || released calls) && allReleased calls

end ListenerCall

namespace ListenerSystem

open ListenerCall

/-- A new object gets an address that is not in use, and other clients have objects of their
own. -/
def Possible (s : ListenerSystem) : ListenerCall → Prop
  | .subscribeLevelEvent (some _) _ new _ => ¬ s.service.Holds new
  | .service e => e.NamesNone s.created
  | _ => True

instance (s : ListenerSystem) : (call : ListenerCall) → Decidable (s.Possible call)
  | .subscribeLevelEvent (some _) _ _ _ => inferInstanceAs (Decidable (¬ _))
  | .subscribeLevelEvent none _ _ _ => inferInstanceAs (Decidable True)
  | .unSubscribeLevelEvent _ => inferInstanceAs (Decidable True)
  | .service e => inferInstanceAs (Decidable (e.NamesNone s.created))

/-- The call of `OnThermalLevelResult` that a message makes; the listener is alive. -/
def onThermalLevelChanged (s : ListenerSystem) (message : LevelMessage) :
    Option (ThermalLevelEvent × Int) := do
  let object ← message.listener?
  if object ∈ s.created then s.listener.levelEvent.map (·, message.level) else none

/-- The calls of `OnThermalLevelResult` while the service is called by others. -/
def levelResults (s : ListenerSystem) : List LevelEvent → List (ThermalLevelEvent × Int)
  | [] => []
  | e :: others =>
      (s.service.messages e).filterMap s.onThermalLevelChanged ++
        (s.step (.service e)).levelResults others

/-- The service has none of the objects of the listener, and the event is not called any more. -/
structure Unsubscribed (s : ListenerSystem) : Prop where
  notHeld : ∀ object ∈ s.created, ¬ s.service.Holds object
  notCalled : ∀ others : List LevelEvent, (∀ e ∈ others, e.NamesNone s.created) →
    s.levelResults others = []

/-- After an unsubscription that returns `ERR_OK` the listener is unsubscribed. -/
def UnsubscribesCompletely (s : ListenerSystem) (call : ListenerCall) : Prop :=
  ∀ connected, call = .unSubscribeLevelEvent connected →
    (s.unSubscribeLevelEvent connected).1 = .errOk → (s.step call).Unsubscribed

/-- The service has the object whose address is kept. -/
def Current (s : ListenerSystem) : Prop :=
  ∃ object, s.listener.callback = some object ∧ s.service.Holds object

/-- The service has an object whose address is not kept. -/
def Stray (s : ListenerSystem) : Prop :=
  ∃ object ∈ s.created, s.service.Holds object ∧ s.listener.callback ≠ some object

/-- An address is kept from the first subscription on. -/
structure Keeps (s : ListenerSystem) : Prop where
  mem : ∀ object, s.listener.callback = some object → object ∈ s.created
  empty : s.listener.callback = none → s.created = []

theorem keeps_start (service : ActionThermalLevel) : (start service).Keeps where
  mem _ h := by cases h
  empty _ := rfl

variable {s : ListenerSystem} {call : ListenerCall}

theorem Keeps.notHeld_iff (hs : s.Keeps) :
    (∀ object ∈ s.created, ¬ s.service.Holds object) ↔ ¬ s.Stray ∧ ¬ s.Current := by
  constructor
  · intro h
    refine ⟨fun hstray => ?_, fun hcurrent => ?_⟩
    · obtain ⟨object, hmem, hholds, -⟩ := hstray
      exact h object hmem hholds
    · obtain ⟨object, hcallback, hholds⟩ := hcurrent
      exact h object (hs.mem object hcallback) hholds
  · intro h object hmem hholds
    by_cases hcallback : s.listener.callback = some object
    · exact h.2 ⟨object, hcallback, hholds⟩
    · exact h.1 ⟨object, hmem, hholds, hcallback⟩

theorem unsubscribed_iff :
    s.Unsubscribed ↔ ∀ object ∈ s.created, ¬ s.service.Holds object := by
  refine ⟨Unsubscribed.notHeld, fun hnone => ⟨hnone, fun others => ?_⟩⟩
  induction others generalizing s with
  | nil => exact fun _ => rfl
  | cons e others ih =>
    intro hothers
    have he := hothers e List.mem_cons_self
    rw [levelResults, List.append_eq_nil_iff, List.filterMap_eq_nil_iff]
    constructor
    · intro message hmessage
      rw [onThermalLevelChanged]
      cases hlistener : message.listener? with
      | none => rfl
      | some object =>
        refine if_neg fun hmem => hnone object hmem ?_
        exact ActionThermalLevel.holds_of_mem_messages he hmessage hlistener hmem
    · refine ih (s := s.step (.service e)) (fun object hmem => ?_) fun e' he' =>
        hothers e' (List.mem_cons_of_mem _ he')
      exact mt (ActionThermalLevel.holds_step he hmem).mp (hnone object hmem)

/-! ### What each call does -/

theorem holds_registerServiceEvent {isSync connected : Bool} {new object : RemoteObject} :
    (s.registerServiceEvent isSync new connected).service.Holds object ↔
      (connected = true ∧ new = object) ∨ s.service.Holds object := by
  rw [registerServiceEvent, ThermalMgrClient.subscribeThermalLevelCallback]
  cases connected with
  | false => simp
  | true =>
    rw [if_neg (by simp), ActionThermalLevel.holds_subscribe]
    simp

@[simp] theorem unSubscribeLevelEvent_listener (connected : Bool) :
    (s.unSubscribeLevelEvent connected).2.listener = s.listener := by
  rw [unSubscribeLevelEvent]
  split <;> rfl

@[simp] theorem unSubscribeLevelEvent_created (connected : Bool) :
    (s.unSubscribeLevelEvent connected).2.created = s.created := by
  rw [unSubscribeLevelEvent]
  split <;> rfl

theorem holds_unSubscribeLevelEvent {connected : Bool} {object : RemoteObject} :
    (s.unSubscribeLevelEvent connected).2.service.Holds object ↔
      ¬ (connected = true ∧ s.listener.callback = some object) ∧ s.service.Holds object := by
  rw [unSubscribeLevelEvent, unRegisterServiceEvent]
  cases hcallback : s.listener.callback with
  | none => simp
  | some kept =>
    rw [if_neg (Option.some_ne_none kept), ThermalMgrClient.unSubscribeThermalLevelCallback]
    cases connected with
    | false => simp
    | true => simp [ActionThermalLevel.holds_unSubscribe]

theorem Keeps.step (hs : s.Keeps) (call : ListenerCall) : (s.step call).Keeps := by
  cases call with
  | subscribeLevelEvent levelEvent isSync new connected =>
    cases levelEvent with
    | none => exact hs
    | some levelEvent =>
      refine ⟨fun object hcallback => ?_, fun hcallback => ?_⟩
      · obtain rfl := Option.some.inj hcallback
        exact List.mem_cons_self
      · cases hcallback
  | unSubscribeLevelEvent connected =>
    refine ⟨?_, ?_⟩ <;>
      rw [ListenerSystem.step, unSubscribeLevelEvent_listener, unSubscribeLevelEvent_created]
    · exact hs.mem
    · exact hs.empty
  | service e => exact ⟨hs.mem, hs.empty⟩

/-- A subscription leaves the object of the subscription before it behind. -/
theorem stray_step (hs : s.Keeps) (hcall : s.Possible call) :
    (s.step call).Stray ↔ s.Stray ∨ (call.subscribes = true ∧ s.Current) := by
  cases call with
  | subscribeLevelEvent levelEvent isSync new connected =>
    cases levelEvent with
    | none => exact (or_iff_left fun h => Bool.false_ne_true h.1).symm
    | some levelEvent =>
      have hheld : (∃ object ∈ s.created, s.service.Holds object) ↔ s.Stray ∨ s.Current := by
        rw [← not_iff_not, not_or, ← hs.notHeld_iff]
        simp only [not_exists, not_and]
      rw [and_iff_right (show ListenerCall.subscribes _ = true from rfl), ← hheld]
      constructor
      · intro hstray
        obtain ⟨object, hmem, hholds, hne⟩ := hstray
        have hne' : new ≠ object := fun heq => hne (congrArg some heq)
        refine ⟨object, (List.mem_cons.mp hmem).resolve_left (Ne.symm hne'), ?_⟩
        exact (holds_registerServiceEvent.mp hholds).resolve_left fun h => hne' h.2
      · intro hheld
        obtain ⟨object, hmem, hholds⟩ := hheld
        refine ⟨object, List.mem_cons_of_mem _ hmem, ?_, fun heq => ?_⟩
        · exact holds_registerServiceEvent.mpr (.inr hholds)
        · obtain rfl := Option.some.inj heq
          exact hcall hholds
  | unSubscribeLevelEvent connected =>
    refine Iff.trans ?_ (or_iff_left fun h => Bool.false_ne_true h.1).symm
    rw [Stray, Stray, step, unSubscribeLevelEvent_listener, unSubscribeLevelEvent_created]
    simp only [holds_unSubscribeLevelEvent]
    refine exists_congr fun object => and_congr_right fun _ => ?_
    exact and_congr_left fun hne => and_iff_right fun h => hne h.2
  | service e =>
    refine Iff.trans ?_ (or_iff_left fun h => Bool.false_ne_true h.1).symm
    refine exists_congr fun object => and_congr_right fun hmem => ?_
    exact and_congr_left fun _ => ActionThermalLevel.holds_step hcall hmem

/-- The service has the last object from a subscription that reaches it to the next subscription, or
to an unsubscription that reaches it. -/
theorem current_step (hs : s.Keeps) (hcall : s.Possible call) :
    (s.step call).Current ↔ call.registers = true ∨
      (call.subscribes = false ∧ call.releases = false ∧ s.Current) := by
  cases call with
  | subscribeLevelEvent levelEvent isSync new connected =>
    cases levelEvent with
    | none =>
      show s.Current ↔ false = true ∨ false = false ∧ false = false ∧ s.Current
      simp
    | some levelEvent =>
      have hnew : (s.step (.subscribeLevelEvent (some levelEvent) isSync new connected)).Current ↔
          connected = true := by
        constructor
        · intro hcurrent
          obtain ⟨object, hcallback, hholds⟩ := hcurrent
          obtain rfl := Option.some.inj hcallback
          exact ((holds_registerServiceEvent.mp hholds).resolve_right hcall).1
        · intro hconnected
          exact ⟨new, rfl, holds_registerServiceEvent.mpr (.inl ⟨hconnected, rfl⟩)⟩
      rw [hnew, ListenerCall.registers, ListenerCall.subscribes]
      simp
  | unSubscribeLevelEvent connected =>
    rw [Current, Current, step, unSubscribeLevelEvent_listener]
    simp only [holds_unSubscribeLevelEvent, ListenerCall.registers, ListenerCall.subscribes,
      ListenerCall.releases]
    cases connected with
    | false => simp
    | true =>
      refine iff_of_false (fun h => ?_) (by simp)
      obtain ⟨object, hcallback, hne, -⟩ := h
      exact hne ⟨rfl, hcallback⟩
  | service e =>
    have hsame : (s.step (.service e)).Current ↔ s.Current := by
      refine exists_congr fun object => and_congr_right fun hcallback => ?_
      exact ActionThermalLevel.holds_step hcall (hs.mem object hcallback)
    show _ ↔ false = true ∨ false = false ∧ false = false ∧ s.Current
    rw [hsame]
    simp

/-! ### Runs of calls -/

/-- After the calls the service has none of the objects exactly if it had none without an address
and the calls take the others back. -/
theorem notHeld_after (hs : s.Keeps) {calls : List ListenerCall}
    (hcalls : Enabled Possible step s calls) :
    (∀ object ∈ (calls.foldl step s).created, ¬ (calls.foldl step s).service.Holds object) ↔
      ¬ s.Stray ∧ (s.Current → released calls = true) ∧ allReleased calls = true := by
  induction calls generalizing s with
  | nil =>
    rw [List.foldl_nil, hs.notHeld_iff, released, allReleased]
    simp
  | cons call calls ih =>
    rw [List.foldl_cons, ih (hs.step call) hcalls.2, stray_step hs hcalls.1,
      current_step hs hcalls.1, released, allReleased]
    cases hsubscribes : call.subscribes with
    | true =>
      rw [releases_of_subscribes hsubscribes]
      cases call.registers <;> simp [and_assoc]
    | false =>
      rw [registers_of_not_subscribes hsubscribes]
      cases call.releases <;> simp

/-- An unsubscription that returns an error comes before every subscription. -/
theorem Keeps.unsubscribesCompletely_iff (hs : s.Keeps) (connected : Bool) :
    s.UnsubscribesCompletely (.unSubscribeLevelEvent connected) ↔
      ∀ object ∈ (s.step (.unSubscribeLevelEvent connected)).created,
        ¬ (s.step (.unSubscribeLevelEvent connected)).service.Holds object := by
  rw [← unsubscribed_iff]
  constructor
  · intro h
    by_cases hcallback : s.listener.callback = none
    · refine unsubscribed_iff.mpr fun object hmem => ?_
      rw [ListenerSystem.step, unSubscribeLevelEvent_created, hs.empty hcallback] at hmem
      exact absurd hmem List.not_mem_nil
    · refine h connected rfl ?_
      rw [unSubscribeLevelEvent, if_neg hcallback]
  · intro h _ _ _
    exact h

theorem Keeps.run (hs : s.Keeps) (calls : List ListenerCall) :
    (calls.foldl ListenerSystem.step s).Keeps := by
  induction calls generalizing s with
  | nil => exact hs
  | cons call calls ih => exact ih (hs.step call)

theorem notHeld_after_start (service : ActionThermalLevel) {calls : List ListenerCall}
    (hcalls : Enabled Possible step (start service) calls) :
    (∀ object ∈ (calls.foldl step (start service)).created,
        ¬ (calls.foldl step (start service)).service.Holds object) ↔
      allReleased calls = true := by
  have hstray : ¬ (start service).Stray := fun h => by
    obtain ⟨object, hmem, -⟩ := h
    exact absurd hmem List.not_mem_nil
  have hcurrent : ¬ (start service).Current := fun h => by
    obtain ⟨object, hcallback, -⟩ := h
    cases hcallback
  rw [notHeld_after (keeps_start service) hcalls]
  simp only [hstray, hcurrent, not_false_eq_true, false_implies, true_and]

/-- Every unsubscription is complete exactly if, whenever one is made, the calls up to it have taken
back every object that they registered. -/
theorem unsubscribes_completely_iff (service : ActionThermalLevel) {calls : List ListenerCall}
    (hcalls : Enabled Possible step (start service) calls) :
    Enabled UnsubscribesCompletely step (start service) calls ↔
      ∀ before connected, before ++ [.unSubscribeLevelEvent connected] <+: calls →
        allReleased (before ++ [.unSubscribeLevelEvent connected]) = true := by
  have hafter : ∀ before connected, before ++ [.unSubscribeLevelEvent connected] <+: calls →
      ((before.foldl step (start service)).UnsubscribesCompletely
          (.unSubscribeLevelEvent connected) ↔
        allReleased (before ++ [.unSubscribeLevelEvent connected]) = true) := by
    intro before connected hprefix
    obtain ⟨after, rfl⟩ := hprefix
    have hbefore := ((enabled_append _ after).mp hcalls).1
    rw [((keeps_start service).run before).unsubscribesCompletely_iff,
      ← notHeld_after_start service hbefore, List.foldl_append]
    rfl
  rw [enabled_iff_forall]
  constructor
  · intro h before connected hprefix
    exact (hafter before connected hprefix).mp (h before _ hprefix)
  · intro h before call hprefix
    cases call with
    | subscribeLevelEvent levelEvent isSync new connected => exact fun _ heq => by cases heq
    | unSubscribeLevelEvent connected =>
      exact (hafter before connected hprefix).mpr (h before connected hprefix)
    | service e => exact fun _ heq => by cases heq

/-- Two sessions one after the other, one with each kind of callback. -/
def sessions : List ListenerCall :=
  [.subscribeLevelEvent (some 1) true 10 true, .unSubscribeLevelEvent true,
    .subscribeLevelEvent (some 1) false 11 true, .unSubscribeLevelEvent true]

theorem sessions_completely :
    Enabled UnsubscribesCompletely step (start (.init false)) sessions ↔
      ∀ before connected, before ++ [.unSubscribeLevelEvent connected] <+: sessions →
        allReleased (before ++ [.unSubscribeLevelEvent connected]) = true :=
  unsubscribes_completely_iff (.init false) (by decide)

/-- The first of two subscriptions is never taken back. -/
theorem second_subscription_strays :
    ¬ ∀ (service : ActionThermalLevel) (calls : List ListenerCall),
      Enabled Possible step (start service) calls →
        Enabled UnsubscribesCompletely step (start service) calls := by
  intro h
  have hrun := h (.init false) [.subscribeLevelEvent (some 1) true 10 true,
    .subscribeLevelEvent (some 1) true 11 true, .unSubscribeLevelEvent true] (by decide)
  exact (hrun.2.2.1 true rfl rfl).notHeld 10 (by decide) (by decide)

end ListenerSystem

end ThermalManager
