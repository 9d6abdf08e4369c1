import ThermalManager.Action.LevelOutdated

/-!
# The level callback of a script

`thermal_manager_napi.cpp`: a script has one callback object, which it registers with the service
over and over. A level that arrives is kept in the object and an event is sent to the thread of the
script, which hands the kept level to the function that is set by then. So levels that come fast are
merged, and a function is left with the level that the service called the object with last. That is
an old one only if a subscription hands over an outdated level.
-/

namespace ThermalManager

open StepSystem

/-- `callbackRef` is the function of the script, `env` whether the object has an environment. -/
structure ThermalLevelCallback where
  level : Int := ThermalLevel.cool.value
  callbackRef : Option Nat := none
  env : Bool := false

namespace ThermalLevelCallback

/-- `referenced` says whether a reference to the function can be made. -/
def updateCallback (c : ThermalLevelCallback) (jsCallback : Nat) (referenced : Bool) :
    ThermalLevelCallback :=
  { c with callbackRef := if referenced then some jsCallback else none, env := true }

def releaseCallback (c : ThermalLevelCallback) : ThermalLevelCallback :=
  { c with callbackRef := none, env := false }

end ThermalLevelCallback

/-! ### Calls of listeners -/

namespace LevelSystem

/-- The listener that an event at the service calls, with the level. -/
def called (s : LevelSystem) : ListenerEvent → Option (RemoteObject × Int)
  | .notify =>
      match s.notifier with
      | .async level (listener :: _) => some (listener, level)
      | .sync level (listener :: _) => some (listener, level)
      | _ => none
  | .deliver i =>
      match s.subscriptions[i]? with
      | some ⟨listener, some level⟩ => some (listener, level)
      | _ => none
  | _ => none

variable {s : LevelSystem} {listener : RemoteObject}

theorem heard_step (s : LevelSystem) (e : ListenerEvent) (listener : RemoteObject) :
    (s.step e).heard listener = ((s.called e).bind fun call =>
      if listener = call.1 then some call.2 else none).or (s.heard listener) := by
  have htell (served : RemoteObject) (level : Int) :
      (if listener = served then some level else s.heard listener) =
        (if listener = served then some level else none).or (s.heard listener) := by
    split <;> rfl
  cases e with
  | store level =>
    by_cases h : s.notifier = .idle ∧ level.value ≠ s.lastValue
    · rw [step_store h.1 h.2]
      rfl
    · rw [step_store_of_not h]
      rfl
  | notify =>
    show s.notify.heard listener = _
    rw [notify, called]
    cases s.notifier with
    | async level rest =>
      cases rest with
      | nil => rfl
      | cons served rest => exact htell served level
    | sync level rest =>
      cases rest with
      | nil => rfl
      | cons served rest => exact htell served level
    | _ => rfl
  | insert callback isSync => cases callback <;> rfl
  | read i => rfl
  | deliver i =>
    by_cases h : ∃ served level, s.subscriptions[i]? = some ⟨served, some level⟩
    · obtain ⟨served, level, hread⟩ := h
      rw [step_deliver hread, called, hread]
      exact htell served level
    · rw [step_deliver_of_not fun served level heq => h ⟨served, level, heq⟩, called]
      split
      case h_1 served level heq => exact absurd ⟨served, level, heq⟩ h
      case h_2 => rfl
  | unSubscribe callback => cases callback <;> rfl

/-- A subscription of the listener is under way. -/
def Pending (s : LevelSystem) (listener : RemoteObject) : Prop :=
  ∃ subscription ∈ s.subscriptions, subscription.listener = listener

theorem Pending.step (h : s.Pending listener) (e : ListenerEvent) :
    (s.step e).Pending listener ∨ ∃ level, s.called e = some (listener, level) := by
  obtain ⟨subscription, hmem, hlistener⟩ := h
  cases e with
  | store level =>
    by_cases h : s.notifier = .idle ∧ level.value ≠ s.lastValue
    · rw [step_store h.1 h.2]
      exact .inl ⟨subscription, hmem, hlistener⟩
    · rw [step_store_of_not h]
      exact .inl ⟨subscription, hmem, hlistener⟩
  | notify =>
    refine .inl ⟨subscription, ?_, hlistener⟩
    show subscription ∈ s.notify.subscriptions
    have hstep := notifyStep s
    generalize s.notify = next at hstep ⊢
    cases hstep <;> exact hmem
  | insert callback isSync =>
    cases callback with
    | none => exact .inl ⟨subscription, hmem, hlistener⟩
    | some callback =>
      refine .inl ⟨subscription, ?_, hlistener⟩
      show subscription ∈ (if _ then s.subscriptions ++ _ else s.subscriptions)
      split
      · exact List.mem_append_left _ hmem
      · exact hmem
  | read i =>
    obtain ⟨j, hj⟩ := List.mem_iff_getElem?.mp hmem
    have hmodified := congrArg (Functor.map fun subscription =>
      if i = j then { subscription with read := subscription.read.or (some s.lastValue) }
      else subscription) hj
    rw [← List.getElem?_modify] at hmodified
    refine .inl ⟨_, List.mem_of_getElem? hmodified, ?_⟩
    split <;> exact hlistener
  | deliver i =>
    by_cases h : ∃ served level, s.subscriptions[i]? = some ⟨served, some level⟩
    · obtain ⟨served, level, hread⟩ := h
      obtain ⟨j, hj⟩ := List.mem_iff_getElem?.mp hmem
      by_cases hsame : j = i
      · subst hsame
        obtain rfl := Option.some.inj (hj.symm.trans hread)
        refine .inr ⟨level, ?_⟩
        rw [called, hread, ← hlistener]
      · rw [step_deliver hread]
        refine .inl ⟨subscription, ?_, hlistener⟩
        exact List.mem_eraseIdx_iff_getElem?.mpr ⟨j, hsame, hj⟩
    · rw [step_deliver_of_not fun served level heq => h ⟨served, level, heq⟩]
      exact .inl ⟨subscription, hmem, hlistener⟩
  | unSubscribe callback => cases callback <;> exact .inl ⟨subscription, hmem, hlistener⟩

end LevelSystem

/-! ### The client -/

/-- The callback object with the level action and its listeners. `inFlight` levels are on their way
to the object, in order, and `events` have been sent to the thread of the script. `told` is what the
function was called with last since it was set, and `anew` whether the service did not have the
object when it was. -/
structure NapiClient where
  levels : LevelSystem
  callback : ThermalLevelCallback := {}
  inFlight : List Int := []
  events : Nat := 0
  told : Option Int := none
  anew : Bool := false

/-- The calls of the script, with whether the service is reached, the arrival of a level, the event
on the thread of the script, and what else happens at the service: level changes, other clients, and
the subscriptions on their way through it. A call of the script in which levels arrive comes twice:
before them without the service, after them with it. -/
inductive NapiEvent
  | subscribeThermalLevel (jsCallback : Nat) (referenced connected : Bool)
  | unSubscribeThermalLevel (connected : Bool)
  | onAsyncThermalLevelChanged (sent : Bool)
  | onThermalLevel (called : Bool)
  | atService (e : ListenerEvent)

namespace NapiClient

-- The callback object as the service knows it.
variable (object : RemoteObject) (s : NapiClient)

/-- The level of a call of the object. -/
def levelFor (call : RemoteObject × Int) : Option Int :=
  if object = call.1 then some call.2 else none

/-- Something happens at the service, and if it calls the object, the level is on its way. -/
def atService (e : ListenerEvent) : NapiClient :=
  { s with
    levels := s.levels.step e
    inFlight := s.inFlight ++ ((s.levels.called e).bind (levelFor object)).toList }

def listening : Bool := s.levels.service.asyncThermalLevelListeners.contains object

/-- The service is left between the insertion of the object and the answer to it. -/
def subscribeThermalLevel (jsCallback : Nat) (referenced connected : Bool) : NapiClient :=
  let s := { s with
    callback := s.callback.releaseCallback.updateCallback jsCallback referenced
    told := none
    anew := connected && !s.listening object }
  if connected then s.atService object (.insert (some object) false) else s

def unSubscribeThermalLevel (connected : Bool) : NapiClient :=
  let s := { s with callback := s.callback.releaseCallback, told := none }
  if connected then s.atService object (.unSubscribe (some object)) else s

def onAsyncThermalLevelChanged (sent : Bool) : NapiClient :=
  match s.inFlight with
  | [] => s
  | level :: inFlight =>
      { s with
        inFlight := inFlight
        callback := { s.callback with level }
        events := if s.callback.env && sent then s.events + 1 else s.events }

/-- `called` says whether the function can be called. -/
def onThermalLevel (called : Bool) : NapiClient :=
  { s with
    events := s.events - 1
    told := if s.callback.callbackRef.isSome && s.callback.env && called then some s.callback.level
      else s.told }

def step : NapiEvent → NapiClient
  | .subscribeThermalLevel jsCallback referenced connected =>
      s.subscribeThermalLevel object jsCallback referenced connected
  | .unSubscribeThermalLevel connected => s.unSubscribeThermalLevel object connected
  | .onAsyncThermalLevelChanged sent => s.onAsyncThermalLevelChanged sent
  | .onThermalLevel called => s.onThermalLevel called
  | .atService e => s.atService object e

/-- The object is inserted and removed by its own script only. -/
def Foreign : ListenerEvent → Prop
  | .insert callback _ => callback ≠ some object
  | .unSubscribe callback => callback ≠ some object
  | _ => True

/-- What can happen while the thread of the script takes events and its functions can be called. -/
def Possible : NapiEvent → Prop
  | .onAsyncThermalLevelChanged sent => s.inFlight ≠ [] ∧ sent
  | .onThermalLevel called => 0 < s.events ∧ called
  | .atService e => Foreign object e
  | _ => True

/-- And no subscription hands over an outdated level. -/
def Timely (e : NapiEvent) : Prop :=
  s.Possible object e ∧ ∀ listenerEvent, e = .atService listenerEvent →
    s.levels.NotOutdated listenerEvent

theorem timely_atService {object : RemoteObject} {s : NapiClient} {e : ListenerEvent} :
    s.Timely object (.atService e) ↔ Foreign object e ∧ s.levels.NotOutdated e := by
  refine and_congr_right fun _ => ⟨fun h => h e rfl, fun h listenerEvent heq => ?_⟩
  obtain rfl := NapiEvent.atService.inj heq
  exact h

def start (isStrict : Bool) : NapiClient := { levels := { service := .init isStrict } }

variable {object s} {e : ListenerEvent}

/-! ### What the function is told -/

/-- The last level on its way is the one that the object was called with last. With none on its way
the object keeps it, if an event is to come, and otherwise the function has it, if it was told one
at all. -/
structure Tracks (object : RemoteObject) (s : NapiClient) : Prop where
  env : s.callback.callbackRef.isSome → s.callback.env = true
  unset : s.callback.callbackRef = none → s.told = none
  underway : ∀ level, s.inFlight.getLast? = some level → s.levels.heard object = some level
  kept : s.inFlight = [] → 0 < s.events → s.levels.heard object = some s.callback.level
  told : s.inFlight = [] → s.events = 0 → ∀ level, s.told = some level →
    s.levels.heard object = some level

theorem tracks_start (isStrict : Bool) : Tracks object (start isStrict) where
  env h := by cases h
  unset _ := rfl
  underway level h := by cases h
  kept _ h := absurd h (Nat.lt_irrefl 0)
  told _ _ level h := by cases h

theorem Tracks.atService (h : s.Tracks object) (e : ListenerEvent) :
    (s.atService object e).Tracks object := by
  have hheard := s.levels.heard_step e object
  rw [NapiClient.atService]
  change _ = ((s.levels.called e).bind (levelFor object)).or _ at hheard
  cases hcalled : (s.levels.called e).bind (levelFor object) with
  | none =>
    rw [hcalled, Option.none_or] at hheard
    rw [Option.toList_none, List.append_nil]
    exact ⟨h.env, h.unset, fun level hlast => hheard.trans (h.underway level hlast),
      fun hnil hevents => hheard.trans (h.kept hnil hevents),
      fun hnil hevents level htold => hheard.trans (h.told hnil hevents level htold)⟩
  | some level =>
    rw [hcalled, Option.some_or] at hheard
    rw [Option.toList_some]
    have hne : s.inFlight ++ [level] ≠ [] := List.concat_ne_nil _ _
    refine ⟨h.env, h.unset, fun last hlast => ?_, fun hnil => absurd hnil hne,
      fun hnil => absurd hnil hne⟩
    change (s.inFlight ++ [level]).getLast? = some last at hlast
    rw [List.getLast?_concat] at hlast
    exact hheard.trans hlast

theorem Tracks.reset (h : s.Tracks object) (callback : ThermalLevelCallback) (anew : Bool)
    (hlevel : callback.level = s.callback.level)
    (henv : callback.callbackRef.isSome → callback.env = true) :
    Tracks object { s with callback, told := none, anew } where
  env := henv
  unset _ := rfl
  underway := h.underway
  kept hnil hevents := by
    show s.levels.heard object = some callback.level
    rw [hlevel]
    exact h.kept hnil hevents
  told _ _ level htold := by cases htold

/-- The level is kept, and if there is a function an event will bring it. -/
theorem Tracks.onAsync (h : s.Tracks object) :
    (s.onAsyncThermalLevelChanged true).Tracks object := by
  rw [onAsyncThermalLevelChanged]
  cases hflight : s.inFlight with
  | nil => exact h
  | cons level rest =>
    rw [Bool.and_true]
    have hunset : s.callback.env = false → s.told = none := by
      intro henv
      apply h.unset
      rw [← Option.not_isSome_iff_eq_none]
      intro hset
      rw [h.env hset] at henv
      cases henv
    constructor
    case env => exact h.env
    case unset => exact h.unset
    case underway =>
      intro last hrest
      apply h.underway
      rw [hflight, List.getLast?_cons, hrest]
      rfl
    case kept =>
      intro hnil _
      apply h.underway
      change rest = [] at hnil
      rw [hflight, hnil]
      rfl
    case told =>
      intro _ hevents last htold
      change (if s.callback.env then s.events + 1 else s.events) = 0 at hevents
      split_ifs at hevents with henv
      change s.told = some last at htold
      rw [hunset (Bool.not_eq_true _ ▸ henv)] at htold
      cases htold

theorem Tracks.onThermalLevel (h : s.Tracks object) (hevents : 0 < s.events) :
    (s.onThermalLevel true).Tracks object := by
  rw [NapiClient.onThermalLevel, Bool.and_true]
  constructor
  case env => exact h.env
  case unset =>
    intro hnone
    change s.callback.callbackRef = none at hnone
    show (if s.callback.callbackRef.isSome && _ then _ else s.told) = none
    rw [h.unset hnone, hnone]
    rfl
  case underway => exact h.underway
  case kept => exact fun hnil _ => h.kept hnil hevents
  case told =>
    intro hnil _ level hlevel
    change (if _ then some s.callback.level else s.told) = some level at hlevel
    cases hset : s.callback.callbackRef with
    | none =>
      rw [h.unset hset, hset] at hlevel
      cases hlevel
    | some jsCallback =>
      rw [h.env (hset ▸ rfl), hset] at hlevel
      rw [h.kept hnil hevents]
      exact hlevel

theorem Tracks.step {e : NapiEvent} (h : s.Tracks object) (hpossible : s.Possible object e) :
    (s.step object e).Tracks object := by
  cases e with
  | subscribeThermalLevel jsCallback referenced connected =>
    have hreset := fun anew => h.reset
      (s.callback.releaseCallback.updateCallback jsCallback referenced) anew rfl fun _ => rfl
    rw [NapiClient.step, subscribeThermalLevel]
    cases connected with
    | false => exact hreset _
    | true => exact (hreset _).atService _
  | unSubscribeThermalLevel connected =>
    have hreset := h.reset s.callback.releaseCallback s.anew rfl fun hset => by cases hset
    rw [NapiClient.step, unSubscribeThermalLevel]
    cases connected with
    | false => exact hreset
    | true => exact hreset.atService _
  | onAsyncThermalLevelChanged sent =>
    obtain ⟨-, rfl⟩ := hpossible
    exact h.onAsync
  | onThermalLevel called =>
    obtain ⟨hevents, rfl⟩ := hpossible
    exact h.onThermalLevel hevents
  | atService e => exact h.atService e

/-! ### That it is told -/

/-- A function that was set when the service did not have the object is told a level, or one is on
its way, or a subscription will hand one over. -/
def Promised (object : RemoteObject) (s : NapiClient) : Prop :=
  s.anew → s.callback.callbackRef.isSome →
    s.levels.Pending object ∨ s.inFlight ≠ [] ∨ 0 < s.events ∨ s.told.isSome

theorem Promised.atService (h : s.Promised object) (e : ListenerEvent) :
    (s.atService object e).Promised object := by
  intro hanew hset
  rcases h hanew hset with hpending | hflight | hrest
  · rcases hpending.step e with hstays | ⟨level, hcalled⟩
    · exact .inl hstays
    · refine .inr (.inl ?_)
      rw [NapiClient.atService, hcalled, Option.bind_some, levelFor, if_pos rfl]
      exact List.concat_ne_nil _ _
  · exact .inr (.inl (List.append_ne_nil_of_left_ne_nil hflight _))
  · exact .inr (.inr hrest)

theorem promised_subscribe (jsCallback : Nat) (referenced connected : Bool) :
    (s.subscribeThermalLevel object jsCallback referenced connected).Promised object := by
  rw [subscribeThermalLevel]
  intro hanew _
  cases connected with
  | false => cases hanew
  | true =>
    change (!s.levels.service.asyncThermalLevelListeners.contains object) = true at hanew
    refine .inl ⟨{ listener := object }, ?_, rfl⟩
    show _ ∈ (if (!s.levels.service.asyncThermalLevelListeners.contains object) = true then _
      else _)
    rw [if_pos hanew]
    exact List.mem_append_right _ (List.mem_singleton.mpr rfl)

theorem Promised.step {e : NapiEvent} (h : s.Promised object) (htracks : s.Tracks object)
    (hpossible : s.Possible object e) : (s.step object e).Promised object := by
  cases e with
  | subscribeThermalLevel jsCallback referenced connected =>
    exact promised_subscribe jsCallback referenced connected
  | unSubscribeThermalLevel connected =>
    intro _ hset
    cases connected <;> cases hset
  | onAsyncThermalLevelChanged sent =>
    obtain ⟨hflight, rfl⟩ := hpossible
    obtain ⟨level, rest, hcons⟩ := List.exists_cons_of_ne_nil hflight
    rw [NapiClient.step, onAsyncThermalLevelChanged, hcons, Bool.and_true]
    intro _ hset
    refine .inr (.inr (.inl ?_))
    show 0 < if s.callback.env then s.events + 1 else s.events
    rw [if_pos (htracks.env hset)]
    exact Nat.succ_pos _
  | onThermalLevel called =>
    obtain ⟨-, rfl⟩ := hpossible
    intro _ hset
    change s.callback.callbackRef.isSome at hset
    refine .inr (.inr (.inr ?_))
    show Option.isSome (if s.callback.callbackRef.isSome && s.callback.env && true then _ else _)
    rw [hset, htracks.env hset]
    rfl
  | atService e => exact h.atService e

/-! ### Runs -/

theorem run_tracks {isStrict : Bool} {events : List NapiEvent}
    (hrun : Run (Possible object) (NapiClient.step object) (start isStrict) events s) :
    s.Tracks object ∧ s.Promised object := by
  refine hrun.invariant (fun s => s.Tracks object ∧ s.Promised object) ⟨tracks_start isStrict, ?_⟩ ?_
  · intro hanew
    cases hanew
  · intro _ _ h hpossible
    exact ⟨h.1.step hpossible, h.2.step h.1 hpossible⟩

/-- What the client does at the service is an event there, or nothing. -/
theorem step_levels (object : RemoteObject) (s : NapiClient) (e : NapiEvent) :
    (s.step object e).levels = s.levels ∨ ∃ listenerEvent,
      (s.step object e).levels = s.levels.step listenerEvent ∧
      (e = .atService listenerEvent ∨ listenerEvent = .insert (some object) false ∨
        listenerEvent = .unSubscribe (some object)) := by
  cases e with
  | subscribeThermalLevel jsCallback referenced connected =>
    cases connected with
    | false => exact .inl rfl
    | true => exact .inr ⟨_, rfl, .inr (.inl rfl)⟩
  | unSubscribeThermalLevel connected =>
    cases connected with
    | false => exact .inl rfl
    | true => exact .inr ⟨_, rfl, .inr (.inr rfl)⟩
  | onAsyncThermalLevelChanged sent =>
    refine .inl ?_
    rw [NapiClient.step, onAsyncThermalLevelChanged]
    split <;> rfl
  | onThermalLevel called => exact .inl rfl
  | atService e => exact .inr ⟨e, rfl, .inl rfl⟩

theorem levels_start (isStrict : Bool) :
    (start isStrict).levels.Notifies ∧ (start isStrict).levels.Arrives := by
  refine ⟨⟨?level, ?inLevels, ?broadcast, ?owed⟩, ?arrives⟩
  case level =>
    intro level h
    cases h
  case inLevels =>
    intro level h
    cases h
  case broadcast =>
    intro _ level h
    cases h
  case owed =>
    intro listener level hmem
    exact absurd hmem List.not_mem_nil
  case arrives =>
    rintro listener (hasync | hsync)
    · exact absurd hasync Std.ExtTreeSet.not_mem_empty
    · exact absurd hsync Std.ExtTreeSet.not_mem_empty

/-- Without outdated levels every listener has the stored level or will be told it. -/
theorem run_arrives {isStrict : Bool} {events : List NapiEvent}
    (hrun : Run (Timely object) (NapiClient.step object) (start isStrict) events s) :
    s.levels.Notifies ∧ s.levels.Arrives := by
  refine hrun.invariant (fun s => s.levels.Notifies ∧ s.levels.Arrives) ?_ ?_
  · exact levels_start isStrict
  · intro s e h htimely
    rcases step_levels object s e with hsame | ⟨listenerEvent, hstep, hcase⟩
    · rw [hsame]
      exact h
    · have htimely : s.levels.NotOutdated listenerEvent := by
        rcases hcase with rfl | rfl | rfl
        · exact htimely.2 listenerEvent rfl
        · trivial
        · trivial
      rw [hstep]
      exact ⟨h.1.step listenerEvent, h.2.step h.1 htimely⟩

theorem told_heard {isStrict : Bool} {events : List NapiEvent}
    (hrun : Run (Possible object) (NapiClient.step object) (start isStrict) events s)
    (hquiet : s.inFlight = [] ∧ s.events = 0) :
    ∀ level, s.told = some level → s.levels.heard object = some level :=
  (run_tracks hrun).1.told hquiet.1 hquiet.2

theorem told_lastValue {isStrict : Bool} {events : List NapiEvent}
    (hrun : Run (Timely object) (NapiClient.step object) (start isStrict) events s)
    (hfinished : s.levels.Finished) (hquiet : s.inFlight = [] ∧ s.events = 0)
    (hlistening : s.listening object) :
    (∀ level, s.told = some level → level = s.levels.lastValue) ∧
      (s.anew → s.callback.callbackRef.isSome → s.told = some s.levels.lastValue) := by
  have hpossible := hrun.mono fun _ _ htimely => htimely.1
  have hcurrent : ∀ level, s.told = some level → level = s.levels.lastValue := by
    intro level hlevel
    have hsubscribed : s.levels.Subscribed object :=
      .inl (Std.ExtTreeSet.contains_iff_mem.mp hlistening)
    rcases (run_arrives hrun).2 object hsubscribed with hheard | hserve | ⟨_, hmem, -⟩
    · exact Option.some.inj ((told_heard hpossible hquiet level hlevel).symm.trans hheard)
    · exact absurd hserve hfinished.not_willServe
    · rw [hfinished.2] at hmem
      exact absurd hmem List.not_mem_nil
  refine ⟨hcurrent, fun hanew hset => ?_⟩
  rcases (run_tracks hpossible).2 hanew hset with ⟨_, hmem, -⟩ | hne | hpos | hsome
  · rw [hfinished.2] at hmem
    exact absurd hmem List.not_mem_nil
  · exact absurd hquiet.1 hne
  · exact absurd hquiet.2 hpos.ne'
  · obtain ⟨level, hlevel⟩ := Option.isSome_iff_exists.mp hsome
    rw [hlevel, hcurrent level hlevel]

end NapiClient

end ThermalManager
