import ThermalManager.Action.LevelClients

/-!
# Level changes and subscriptions at the same time

A level change stores the level, publishes it, and then serves a copy of the asynchronous listeners
and a copy of the synchronous ones. A subscription inserts the listener, reads the stored level and
hands it over, each at its own time. Level changes do not overlap, and a subscribed listener either
has the stored level, or the current change will still serve it, or a subscription of its own will
hand it over. Only a subscription that hands over a level it read before the change breaks this.
-/

namespace ThermalManager

open StepSystem

/-- Where the current level change stands. The lists are what is left of the copied sets. -/
inductive NotifierPhase where
  | idle
  | stored (level : Int)
  | published (level : Int)
  | async (level : Int) (rest : List RemoteObject)
  | sync (level : Int) (rest : List RemoteObject)

def NotifierPhase.level? : NotifierPhase → Option Int
  | .idle => none
  | .stored level => some level
  | .published level => some level
  | .async level _ => some level
  | .sync level _ => some level

/-- A level change at this point will still serve a subscribed listener. -/
def NotifierPhase.WillServe (syncListeners : Std.ExtTreeSet RemoteObject compare)
    (listener : RemoteObject) : NotifierPhase → Prop
  | .idle => False
  | .stored _ => True
  | .published _ => True
  | .async _ rest => listener ∈ rest ∨ listener ∈ syncListeners
  | .sync _ rest => listener ∈ rest

/-- A call of `SubscribeThermalLevelCallback` whose listener is inserted, and the level it read. -/
structure Subscription where
  listener : RemoteObject
  read : Option Int := none

inductive ListenerEvent where
  /-- `ExecuteInner` decides a level. -/
  | store (level : ThermalLevel)
  /-- The next step of the current level change. -/
  | notify
  | insert (callback : Option RemoteObject) (isSync : Bool)
  /-- The subscription at this place reads `lastValue_`. -/
  | read (i : Nat)
  | deliver (i : Nat)
  | unSubscribe (callback : Option RemoteObject)

/-- The action, the level change and the subscriptions under way, the level last broadcast, what
each listener was last told, and the levels broadcast since a listener was inserted that no level
change has delivered to it. -/
structure LevelSystem where
  service : ActionThermalLevel
  notifier : NotifierPhase := .idle
  subscriptions : List Subscription := []
  lastBroadcast : Option Int := none
  heard : RemoteObject → Option Int := fun _ => none
  owed : RemoteObject → List Int := fun _ => []

namespace LevelSystem

def start : LevelSystem := { service := .init false }

/-- `lastValue_` -/
def lastValue (s : LevelSystem) : Int := s.service.timed.action.lastValue

def setLastValue (service : ActionThermalLevel) (level : Int) : ActionThermalLevel :=
  { service with
    timed := { service.timed with action := { service.timed.action with lastValue := level } } }

/-- The listener is in one of the sets. -/
def Subscribed (s : LevelSystem) (listener : RemoteObject) : Prop :=
  listener ∈ s.service.asyncThermalLevelListeners ∨ listener ∈ s.service.syncThermalLevelListeners

instance (s : LevelSystem) (listener : RemoteObject) : Decidable (s.Subscribed listener) :=
  inferInstanceAs (Decidable (_ ∨ _))

def tell (s : LevelSystem) (listener : RemoteObject) (level : Int) : LevelSystem :=
  { s with
    heard := fun other => if other = listener then some level else s.heard other
    owed := fun other =>
      if other = listener then (s.owed other).filter (· ≠ level) else s.owed other }

def notify (s : LevelSystem) : LevelSystem :=
  match s.notifier with
  | .idle => s
  | .stored level =>
      { s with
        notifier := .published (requestedLevel level)
        lastBroadcast := some (requestedLevel level)
        owed := fun listener =>
          if s.Subscribed listener then s.owed listener ++ [requestedLevel level]
          else s.owed listener }
  | .published level =>
      { s with notifier := .async level s.service.asyncThermalLevelListeners.toList }
  | .async level (listener :: rest) => { s.tell listener level with notifier := .async level rest }
  | .async level [] =>
      { s with notifier := .sync level s.service.syncThermalLevelListeners.toList }
  | .sync level (listener :: rest) => { s.tell listener level with notifier := .sync level rest }
  | .sync _ [] => { s with notifier := .idle }

def step (s : LevelSystem) : ListenerEvent → LevelSystem
  | .store level =>
      match s.notifier with
      | .idle =>
          if level.value ≠ s.lastValue then
            { s with
              service := setLastValue s.service level.value
              notifier := .stored level.value }
          else s
      | _ => s
  | .notify => s.notify
  | .insert none _ => s
  | .insert (some callback) isSync =>
      { s with
        service := (s.service.addThermalLevelListeners callback isSync).2
        subscriptions :=
          if (s.service.addThermalLevelListeners callback isSync).1 then
            s.subscriptions ++ [{ listener := callback }]
          else s.subscriptions }
  | .read i =>
      { s with subscriptions := s.subscriptions.modify i fun subscription =>
        { subscription with read := subscription.read.or (some s.lastValue) } }
  | .deliver i =>
      match s.subscriptions[i]? with
      | some ⟨listener, some level⟩ =>
          { s with
            subscriptions := s.subscriptions.eraseIdx i
            heard := fun other => if other = listener then some level else s.heard other }
      | _ => s
  | .unSubscribe callback =>
      { s with
        service := s.service.unSubscribeThermalLevelCallback callback
        owed := fun listener => if callback = some listener then [] else s.owed listener }

def Finished (s : LevelSystem) : Prop := s.notifier = .idle ∧ s.subscriptions = []

/-- Every subscribed listener was last told the level last broadcast. -/
def UpToDate (s : LevelSystem) : Prop :=
  ∀ level, s.lastBroadcast = some level → ∀ listener, s.Subscribed listener →
    s.heard listener = some level

/-- The current level change will still serve a subscribed listener. -/
def WillServe (s : LevelSystem) (listener : RemoteObject) : Prop :=
  s.notifier.WillServe s.service.syncThermalLevelListeners listener

/-- The subscription will hand its listener the stored level. -/
def Subscription.Fresh (subscription : Subscription) (lastValue : Int) : Prop :=
  subscription.read = none ∨ subscription.read = some lastValue

/-- A subscription hands over a level other than the stored one only while the stored one is still
to come to the listener. -/
def NotOutdated (s : LevelSystem) : ListenerEvent → Prop
  | .deliver i => ∀ listener level, s.subscriptions[i]? = some ⟨listener, some level⟩ →
      s.Subscribed listener → level ≠ s.lastValue →
      s.WillServe listener ∨ ∃ j, j ≠ i ∧ ∃ subscription : Subscription,
        s.subscriptions[j]? = some subscription ∧ subscription.listener = listener ∧
          Subscription.Fresh subscription s.lastValue
  | _ => True

variable {s : LevelSystem} {listener : RemoteObject}

/-! ### The listener sets -/

theorem subscribed_insert (service : ActionThermalLevel) (callback : RemoteObject)
    (isSync : Bool) :
    (listener ∈ (service.addThermalLevelListeners callback isSync).2.asyncThermalLevelListeners ↔
      (isSync = false ∧ callback = listener) ∨ listener ∈ service.asyncThermalLevelListeners) ∧
    (listener ∈ (service.addThermalLevelListeners callback isSync).2.syncThermalLevelListeners ↔
      (isSync = true ∧ callback = listener) ∨ listener ∈ service.syncThermalLevelListeners) := by
  rw [ActionThermalLevel.addThermalLevelListeners]
  cases isSync with
  | true =>
    refine ⟨?_, ?_⟩
    · simp
    · show listener ∈ service.syncThermalLevelListeners.insert callback ↔ _
      rw [Std.ExtTreeSet.mem_insert, Std.LawfulEqOrd.compare_eq_iff_eq]
      simp
  | false =>
    refine ⟨?_, ?_⟩
    · show listener ∈ service.asyncThermalLevelListeners.insert callback ↔ _
      rw [Std.ExtTreeSet.mem_insert, Std.LawfulEqOrd.compare_eq_iff_eq]
      simp
    · simp

theorem lastValue_insert (service : ActionThermalLevel) (callback : RemoteObject)
    (isSync : Bool) :
    (service.addThermalLevelListeners callback isSync).2.timed = service.timed := by
  rw [ActionThermalLevel.addThermalLevelListeners]
  split <;> rfl

theorem subscribed_of_not_new {callback : RemoteObject} {isSync : Bool}
    (h : (s.service.addThermalLevelListeners callback isSync).1 = false) :
    s.Subscribed callback := by
  rw [ActionThermalLevel.addThermalLevelListeners] at h
  cases isSync with
  | true =>
    refine .inr ?_
    change (!s.service.syncThermalLevelListeners.contains callback) = false at h
    exact Std.ExtTreeSet.mem_iff_contains.mpr (by simpa using h)
  | false =>
    refine .inl ?_
    change (!s.service.asyncThermalLevelListeners.contains callback) = false at h
    exact Std.ExtTreeSet.mem_iff_contains.mpr (by simpa using h)

/-! ### The level change -/

/-- The level change under way has published and will still serve the listener. -/
def Serving (s : LevelSystem) (listener : RemoteObject) : Prop :=
  (∀ level, s.notifier ≠ .stored level) ∧ s.WillServe listener

/-- The level change under way is for the stored level, and delivers all it owes. -/
structure Notifies (s : LevelSystem) : Prop where
  level : ∀ level, s.notifier.level? = some level → level = s.lastValue
  inLevels : ∀ level, s.notifier = .stored level → InLevels level
  broadcast : (∀ level, s.notifier ≠ .stored level) → ∀ level, s.lastBroadcast = some level →
    level = s.lastValue
  owed : ∀ listener, ∀ level ∈ s.owed listener,
    level = s.lastValue ∧ s.Subscribed listener ∧ s.Serving listener

theorem notifies_start : start.Notifies where
  level _ h := by cases h
  inLevels _ h := by cases h
  broadcast _ _ h := by cases h
  owed _ _ h := absurd h List.not_mem_nil

/-- What a delivery to another listener leaves owed is unchanged, and nothing is owed to the one
served. -/
theorem mem_tell_owed {level : Int} (h : ∀ other, ∀ owed ∈ s.owed other, owed = level)
    {other : RemoteObject} {owed : Int} (howed : owed ∈ (s.tell listener level).owed other) :
    other ≠ listener ∧ owed ∈ s.owed other := by
  change owed ∈ (if other = listener then (s.owed other).filter (· ≠ level) else s.owed other)
    at howed
  split at howed
  case isTrue =>
    obtain ⟨hmem, hne⟩ := List.mem_filter.mp howed
    exact absurd (h other owed hmem) (of_decide_eq_true hne)
  case isFalse hne => exact ⟨hne, howed⟩

theorem willServe_iff {phase : NotifierPhase} (h : s.notifier = phase) :
    s.WillServe listener ↔ phase.WillServe s.service.syncThermalLevelListeners listener := by
  rw [WillServe, h]

/-- What a step of the level change does: it publishes the level, serves a listener of the current
list or turns to the next list. -/
inductive NotifyStep (s : LevelSystem) : LevelSystem → Prop where
  | idle (hphase : s.notifier = .idle) : NotifyStep s s
  | publish {level : Int} (hphase : s.notifier = .stored level) :
      NotifyStep s { s with
        notifier := .published (requestedLevel level)
        lastBroadcast := some (requestedLevel level)
        owed := fun listener =>
          if s.Subscribed listener then s.owed listener ++ [requestedLevel level]
          else s.owed listener }
  | serve {level : Int} {served : RemoteObject} {phase : NotifierPhase}
      (hstored : ∀ level, s.notifier ≠ .stored level) (hphase : ∀ level, phase ≠ .stored level)
      (hlevel : s.notifier.level? = some level) (hsame : phase.level? = some level)
      (hserve : ∀ listener, s.WillServe listener ↔
        listener = served ∨ phase.WillServe s.service.syncThermalLevelListeners listener) :
      NotifyStep s { s.tell served level with notifier := phase }
  | advance {phase : NotifierPhase}
      (hstored : ∀ level, s.notifier ≠ .stored level) (hphase : ∀ level, phase ≠ .stored level)
      (hlevel : ∀ level, phase.level? = some level → s.notifier.level? = some level)
      (hserve : ∀ listener, s.Subscribed listener → (s.WillServe listener ↔
        phase.WillServe s.service.syncThermalLevelListeners listener)) :
      NotifyStep s { s with notifier := phase }

theorem notifyStep (s : LevelSystem) : NotifyStep s s.notify := by
  rw [notify]
  cases hphase : s.notifier with
  | idle => exact .idle hphase
  | stored level => exact .publish hphase
  | published level =>
    refine .advance (by rw [hphase]; nofun) nofun (fun _ h => by rw [hphase]; exact h) ?_
    intro listener hsubscribed
    rw [willServe_iff hphase]
    exact iff_of_true trivial (hsubscribed.imp_left Std.ExtTreeSet.mem_toList.mpr)
  | async level rest =>
    cases rest with
    | cons served rest =>
      refine .serve (by rw [hphase]; nofun) nofun (by rw [hphase]; rfl) rfl fun listener => ?_
      rw [willServe_iff hphase, NotifierPhase.WillServe, List.mem_cons, or_assoc]
      exact Iff.rfl
    | nil =>
      refine .advance (by rw [hphase]; nofun) nofun (fun _ h => by rw [hphase]; exact h) ?_
      intro listener _
      rw [willServe_iff hphase, NotifierPhase.WillServe, or_iff_right List.not_mem_nil]
      exact Std.ExtTreeSet.mem_toList.symm
  | sync level rest =>
    cases rest with
    | cons served rest =>
      refine .serve (by rw [hphase]; nofun) nofun (by rw [hphase]; rfl) rfl fun listener => ?_
      rw [willServe_iff hphase]
      exact List.mem_cons
    | nil =>
      refine .advance (by rw [hphase]; nofun) nofun nofun fun listener _ => ?_
      rw [willServe_iff hphase]
      exact iff_of_false List.not_mem_nil id

theorem Notifies.notify (hs : s.Notifies) : s.notify.Notifies := by
  have hstep := notifyStep s
  generalize s.notify = next at hstep ⊢
  cases hstep with
  | idle => exact hs
  | @publish level hphase =>
    have heq : requestedLevel level = s.lastValue := by
      rw [LevelHistory.requestedLevel_eq (hs.inLevels level hphase)]
      exact hs.level level (by rw [hphase]; rfl)
    refine { level := fun _ h => (Option.some.inj h).symm.trans heq, inLevels := nofun,
             broadcast := fun _ _ h => (Option.some.inj h).symm.trans heq, owed := ?owed }
    case owed =>
      intro listener owed hmem
      have hnone : ∀ owed, owed ∉ s.owed listener := fun owed h =>
        (hs.owed listener owed h).2.2.1 level hphase
      change owed ∈ (if s.Subscribed listener then _ else _) at hmem
      split at hmem
      case isTrue hsubscribed =>
        rcases List.mem_append.mp hmem with hold | hnew
        · exact absurd hold (hnone owed)
        · exact ⟨(List.mem_singleton.mp hnew).trans heq, hsubscribed, nofun, trivial⟩
      case isFalse => exact absurd hmem (hnone owed)
  | @serve level served phase hstored hphase hlevel hsame hserve =>
    have heq : level = s.lastValue := hs.level level hlevel
    refine { level := fun _ h => (Option.some.inj (hsame.symm.trans h)).symm.trans heq,
             inLevels := fun level h => absurd h (hphase level),
             broadcast := fun _ => hs.broadcast hstored, owed := ?owed }
    case owed =>
      intro listener owed hmem
      obtain ⟨hne, hmem⟩ := mem_tell_owed
        (fun other owed h => (hs.owed other owed h).1.trans heq.symm) hmem
      obtain ⟨hvalue, hsubscribed, -, hserving⟩ := hs.owed listener owed hmem
      exact ⟨hvalue, hsubscribed, hphase, ((hserve listener).mp hserving).resolve_left hne⟩
  | advance hstored hphase hlevel hserve =>
    refine { level := fun level h => hs.level level (hlevel level h),
             inLevels := fun level h => absurd h (hphase level),
             broadcast := fun _ => hs.broadcast hstored, owed := ?owed }
    case owed =>
      intro listener owed hmem
      obtain ⟨hvalue, hsubscribed, -, hserving⟩ := hs.owed listener owed hmem
      exact ⟨hvalue, hsubscribed, hphase, (hserve listener hsubscribed).mp hserving⟩

/-! ### The other steps -/

theorem step_store {level : ThermalLevel} (hidle : s.notifier = .idle)
    (hne : level.value ≠ s.lastValue) : s.step (.store level) = { s with
      service := setLastValue s.service level.value
      notifier := .stored level.value } := by
  show (match s.notifier with | .idle => _ | _ => s) = _
  rw [hidle]
  exact if_pos hne

theorem step_store_of_not {level : ThermalLevel}
    (h : ¬ (s.notifier = .idle ∧ level.value ≠ s.lastValue)) : s.step (.store level) = s := by
  show (match s.notifier with | .idle => _ | _ => s) = _
  cases hphase : s.notifier with
  | idle => exact if_neg fun hne => h ⟨hphase, hne⟩
  | stored level => rfl
  | published level => rfl
  | async level rest => rfl
  | sync level rest => rfl

theorem step_deliver {i : Nat} {level : Int}
    (h : s.subscriptions[i]? = some ⟨listener, some level⟩) : s.step (.deliver i) = { s with
      subscriptions := s.subscriptions.eraseIdx i
      heard := fun other => if other = listener then some level else s.heard other } := by
  show (match s.subscriptions[i]? with | some ⟨_, some _⟩ => _ | _ => s) = _
  rw [h]

theorem step_deliver_of_not {i : Nat}
    (h : ∀ listener level, s.subscriptions[i]? ≠ some ⟨listener, some level⟩) :
    s.step (.deliver i) = s := by
  show (match s.subscriptions[i]? with | some ⟨_, some _⟩ => _ | _ => s) = _
  split
  case h_1 listener level heq => exact absurd heq (h listener level)
  case h_2 => rfl

theorem subscribed_step_insert {callback : RemoteObject} {isSync : Bool} :
    (s.step (.insert (some callback) isSync)).Subscribed listener ↔
      callback = listener ∨ s.Subscribed listener := by
  obtain ⟨hasync, hsync⟩ := @subscribed_insert listener s.service callback isSync
  show _ ∈ (s.service.addThermalLevelListeners callback isSync).2.asyncThermalLevelListeners ∨
    _ ∈ (s.service.addThermalLevelListeners callback isSync).2.syncThermalLevelListeners ↔ _
  rw [hasync, hsync, Subscribed]
  cases isSync <;> simp only [Bool.false_eq_true, false_and, true_and, false_or, reduceCtorEq]
  · exact or_assoc
  · exact or_left_comm

theorem subscribed_step_unSubscribe {callback : RemoteObject} :
    (s.step (.unSubscribe (some callback))).Subscribed listener ↔
      callback ≠ listener ∧ s.Subscribed listener := by
  show listener ∈ s.service.asyncThermalLevelListeners.erase callback ∨
    listener ∈ s.service.syncThermalLevelListeners.erase callback ↔ _
  rw [Std.ExtTreeSet.mem_erase, Std.ExtTreeSet.mem_erase, ← and_or_left, Ne,
    Std.LawfulEqOrd.compare_eq_iff_eq]
  rfl

theorem lastValue_step_insert {callback : RemoteObject} {isSync : Bool} :
    (s.step (.insert (some callback) isSync)).lastValue = s.lastValue :=
  congrArg (fun timed => timed.action.lastValue) (lastValue_insert s.service callback isSync)

theorem willServe_step_insert {callback : RemoteObject} {isSync : Bool}
    (h : s.WillServe listener) : (s.step (.insert (some callback) isSync)).WillServe listener := by
  show s.notifier.WillServe _ listener
  rw [WillServe] at h
  cases hphase : s.notifier with
  | async level rest =>
    rw [hphase] at h
    exact h.imp_right fun hmem => (@subscribed_insert listener s.service callback isSync).2.mpr
      (.inr hmem)
  | idle => rwa [hphase] at h
  | stored level => trivial
  | published level => trivial
  | sync level rest => rwa [hphase] at h

/-- Inserting or removing another listener changes nothing there. -/
theorem willServe_step_insert_iff {callback : RemoteObject} {isSync : Bool}
    (hne : callback ≠ listener) :
    (s.step (.insert (some callback) isSync)).WillServe listener ↔ s.WillServe listener := by
  show s.notifier.WillServe _ listener ↔ s.notifier.WillServe _ listener
  cases s.notifier with
  | async level rest =>
    refine or_congr Iff.rfl ((@subscribed_insert listener s.service callback isSync).2.trans ?_)
    exact or_iff_right fun h => hne h.2
  | idle => exact Iff.rfl
  | stored level => exact Iff.rfl
  | published level => exact Iff.rfl
  | sync level rest => exact Iff.rfl

theorem willServe_step_unSubscribe_iff {callback : RemoteObject} (hne : callback ≠ listener) :
    (s.step (.unSubscribe (some callback))).WillServe listener ↔ s.WillServe listener := by
  show s.notifier.WillServe _ listener ↔ s.notifier.WillServe _ listener
  cases s.notifier with
  | async level rest =>
    refine or_congr Iff.rfl ?_
    show listener ∈ s.service.syncThermalLevelListeners.erase callback ↔ _
    rw [Std.ExtTreeSet.mem_erase, Ne, Std.LawfulEqOrd.compare_eq_iff_eq]
    exact and_iff_right hne
  | idle => exact Iff.rfl
  | stored level => exact Iff.rfl
  | published level => exact Iff.rfl
  | sync level rest => exact Iff.rfl

theorem Notifies.store (hs : s.Notifies) (level : ThermalLevel) :
    (s.step (.store level)).Notifies := by
  by_cases h : s.notifier = .idle ∧ level.value ≠ s.lastValue
  · rw [step_store h.1 h.2]
    refine { level := fun _ h => (Option.some.inj h).symm, inLevels := ?inLevels,
             broadcast := fun h => absurd rfl (h level.value), owed := ?owed }
    case inLevels =>
      intro value hvalue
      obtain rfl := NotifierPhase.stored.inj hvalue
      cases level <;> decide
    case owed =>
      intro listener owed hmem
      exact absurd ((willServe_iff h.1).mp (hs.owed listener owed hmem).2.2.2) id
  · rw [step_store_of_not h]
    exact hs

theorem Notifies.insert (hs : s.Notifies) (callback : RemoteObject) (isSync : Bool) :
    (s.step (.insert (some callback) isSync)).Notifies := by
  refine { level := ?level, inLevels := hs.inLevels, broadcast := ?broadcast, owed := ?owed }
  case level =>
    rw [lastValue_step_insert]
    exact hs.level
  case broadcast =>
    rw [lastValue_step_insert]
    exact hs.broadcast
  case owed =>
    intro listener owed hmem
    obtain ⟨hvalue, hsubscribed, hstored, hserve⟩ := hs.owed listener owed hmem
    rw [lastValue_step_insert]
    exact ⟨hvalue, subscribed_step_insert.mpr (.inr hsubscribed), hstored,
      willServe_step_insert hserve⟩

theorem Notifies.deliver (hs : s.Notifies) (i : Nat) : (s.step (.deliver i)).Notifies := by
  by_cases h : ∃ listener level, s.subscriptions[i]? = some ⟨listener, some level⟩
  · obtain ⟨listener, level, hread⟩ := h
    rw [step_deliver hread]
    exact ⟨hs.level, hs.inLevels, hs.broadcast, hs.owed⟩
  · rw [step_deliver_of_not fun listener level heq => h ⟨listener, level, heq⟩]
    exact hs

theorem Notifies.unSubscribe (hs : s.Notifies) (callback : RemoteObject) :
    (s.step (.unSubscribe (some callback))).Notifies := by
  refine { level := hs.level, inLevels := hs.inLevels, broadcast := hs.broadcast, owed := ?owed }
  case owed =>
    intro listener owed hmem
    change owed ∈ (if some callback = some listener then [] else s.owed listener) at hmem
    split at hmem
    case isTrue => exact absurd hmem List.not_mem_nil
    case isFalse hne =>
      have hother : callback ≠ listener := fun heq => hne (congrArg some heq)
      obtain ⟨hvalue, hsubscribed, hstored, hserve⟩ := hs.owed listener owed hmem
      exact ⟨hvalue, subscribed_step_unSubscribe.mpr ⟨hother, hsubscribed⟩, hstored,
        (willServe_step_unSubscribe_iff hother).mpr hserve⟩

theorem Notifies.step (hs : s.Notifies) (e : ListenerEvent) : (s.step e).Notifies := by
  cases e with
  | store level => exact hs.store level
  | notify => exact hs.notify
  | insert callback isSync =>
    cases callback with
    | none => exact hs
    | some callback => exact hs.insert callback isSync
  | read i => exact ⟨hs.level, hs.inLevels, hs.broadcast, hs.owed⟩
  | deliver i => exact hs.deliver i
  | unSubscribe callback =>
    cases callback with
    | none => exact ⟨hs.level, hs.inLevels, hs.broadcast, hs.owed⟩
    | some callback => exact hs.unSubscribe callback

/-! ### Arrival -/

/-- A subscription of the listener will hand it the stored level. -/
def WillHandOver (s : LevelSystem) (listener : RemoteObject) : Prop :=
  ∃ subscription ∈ s.subscriptions, subscription.listener = listener ∧
    Subscription.Fresh subscription s.lastValue

/-- Every subscribed listener has the stored level or will be told it. -/
def Arrives (s : LevelSystem) : Prop :=
  ∀ listener, s.Subscribed listener →
    s.heard listener = some s.lastValue ∨ s.WillServe listener ∨ s.WillHandOver listener

theorem Arrives.notify (hs : s.Arrives) (hn : s.Notifies) : s.notify.Arrives := by
  have hstep := notifyStep s
  generalize s.notify = next at hstep ⊢
  cases hstep with
  | idle => exact hs
  | publish => exact fun _ _ => .inr (.inl trivial)
  | @serve level served phase hstored hphase hlevel hsame hserve =>
    have heq : level = s.lastValue := hn.level level hlevel
    intro listener hsubscribed
    by_cases hserved : listener = served
    · refine .inl ((if_pos hserved).trans ?_)
      rw [heq]
      rfl
    · rcases hs listener hsubscribed with hheard | hserving | hhand
      · exact .inl ((if_neg hserved).trans hheard)
      · exact .inr (.inl (((hserve listener).mp hserving).resolve_left hserved))
      · exact .inr (.inr hhand)
  | advance hstored hphase hlevel hserve =>
    intro listener hsubscribed
    rcases hs listener hsubscribed with hheard | hserving | hhand
    · exact .inl hheard
    · exact .inr (.inl ((hserve listener hsubscribed).mp hserving))
    · exact .inr (.inr hhand)

theorem willHandOver_step_read (i : Nat) (h : s.WillHandOver listener) :
    (s.step (.read i)).WillHandOver listener := by
  obtain ⟨subscription, hmem, hlistener, hfresh⟩ := h
  obtain ⟨j, hj⟩ := List.mem_iff_getElem?.mp hmem
  have hmodified := congrArg (Functor.map fun subscription =>
    if i = j then { subscription with read := subscription.read.or (some s.lastValue) }
    else subscription) hj
  rw [← List.getElem?_modify] at hmodified
  refine ⟨_, List.mem_of_getElem? hmodified, ?_, ?_⟩
  · split <;> exact hlistener
  · split
    · refine .inr ?_
      show subscription.read.or (some s.lastValue) = some s.lastValue
      rcases hfresh with hnone | hread
      · rw [hnone]
        rfl
      · rw [hread]
        rfl
    · exact hfresh

theorem willHandOver_step_insert {callback : RemoteObject} {isSync : Bool}
    (h : s.WillHandOver listener) :
    (s.step (.insert (some callback) isSync)).WillHandOver listener := by
  obtain ⟨subscription, hmem, hlistener, hfresh⟩ := h
  refine ⟨subscription, ?_, hlistener, ?_⟩
  · show subscription ∈ (if (s.service.addThermalLevelListeners callback isSync).1 then _ else _)
    split
    · exact List.mem_append_left _ hmem
    · exact hmem
  · rw [lastValue_step_insert]
    exact hfresh

/-- A listener new to its set is handed the level by the subscription that inserts it. -/
theorem willHandOver_step_insert_of_new {callback : RemoteObject} {isSync : Bool}
    (h : (s.service.addThermalLevelListeners callback isSync).1 = true) :
    (s.step (.insert (some callback) isSync)).WillHandOver callback := by
  refine ⟨{ listener := callback }, ?_, rfl, .inl rfl⟩
  show _ ∈ (if (s.service.addThermalLevelListeners callback isSync).1 then _ else _)
  rw [if_pos h]
  exact List.mem_append_right _ (List.mem_singleton.mpr rfl)

theorem Arrives.insert (hs : s.Arrives) (callback : RemoteObject) (isSync : Bool) :
    (s.step (.insert (some callback) isSync)).Arrives := by
  -- who was subscribed before keeps what it had
  have hkept : ∀ listener, s.Subscribed listener →
      (s.step (.insert (some callback) isSync)).heard listener =
          some (s.step (.insert (some callback) isSync)).lastValue ∨
        (s.step (.insert (some callback) isSync)).WillServe listener ∨
        (s.step (.insert (some callback) isSync)).WillHandOver listener := by
    intro listener hsubscribed
    rcases hs listener hsubscribed with hheard | hserve | hhand
    · rw [lastValue_step_insert]
      exact .inl hheard
    · exact .inr (.inl (willServe_step_insert hserve))
    · exact .inr (.inr (willHandOver_step_insert hhand))
  intro listener hsubscribed
  rcases subscribed_step_insert.mp hsubscribed with heq | hold
  · subst heq
    cases hnew : (s.service.addThermalLevelListeners callback isSync).1 with
    | true => exact .inr (.inr (willHandOver_step_insert_of_new hnew))
    | false => exact hkept callback (subscribed_of_not_new hnew)
  · exact hkept listener hold

theorem Arrives.deliver (hs : s.Arrives) {i : Nat} (hok : s.NotOutdated (.deliver i)) :
    (s.step (.deliver i)).Arrives := by
  by_cases h : ∃ listener level, s.subscriptions[i]? = some ⟨listener, some level⟩
  · obtain ⟨served, level, hread⟩ := h
    rw [step_deliver hread]
    -- the other subscriptions stay
    have hstays : ∀ (j : Nat) (subscription : Subscription), j ≠ i →
        s.subscriptions[j]? = some subscription →
        subscription ∈ s.subscriptions.eraseIdx i := fun j subscription hne hj =>
      List.mem_eraseIdx_iff_getElem?.mpr ⟨j, hne, hj⟩
    intro listener hsubscribed
    by_cases hserved : listener = served
    · subst hserved
      by_cases hcurrent : level = s.lastValue
      · refine .inl ((if_pos rfl).trans ?_)
        rw [hcurrent]
        rfl
      · rcases hok listener level hread hsubscribed hcurrent with
          hserve | ⟨j, hne, subscription, hj, hlistener, hfresh⟩
        · exact .inr (.inl hserve)
        · exact .inr (.inr ⟨subscription, hstays j subscription hne hj, hlistener, hfresh⟩)
    · rcases hs listener hsubscribed with hheard | hserve | hhand
      · exact .inl ((if_neg hserved).trans hheard)
      · exact .inr (.inl hserve)
      · obtain ⟨subscription, hmem, hlistener, hfresh⟩ := hhand
        obtain ⟨j, hj⟩ := List.mem_iff_getElem?.mp hmem
        refine .inr (.inr ⟨subscription, hstays j subscription ?_ hj, hlistener, hfresh⟩)
        intro heq
        rw [heq, hread] at hj
        obtain rfl := Option.some.inj hj
        exact hserved hlistener.symm
  · rw [step_deliver_of_not fun listener level heq => h ⟨listener, level, heq⟩]
    exact hs

theorem Arrives.step (hs : s.Arrives) (hn : s.Notifies) {e : ListenerEvent}
    (hok : s.NotOutdated e) : (s.step e).Arrives := by
  cases e with
  | store level =>
    by_cases h : s.notifier = .idle ∧ level.value ≠ s.lastValue
    · rw [step_store h.1 h.2]
      exact fun _ _ => .inr (.inl trivial)
    · rw [step_store_of_not h]
      exact hs
  | notify => exact hs.notify hn
  | insert callback isSync =>
    cases callback with
    | none => exact hs
    | some callback => exact hs.insert callback isSync
  | read i =>
    intro listener hsubscribed
    rcases hs listener hsubscribed with hheard | hserve | hhand
    · exact .inl hheard
    · exact .inr (.inl hserve)
    · exact .inr (.inr (willHandOver_step_read i hhand))
  | deliver i => exact hs.deliver hok
  | unSubscribe callback =>
    cases callback with
    | none => exact hs
    | some callback =>
      intro listener hsubscribed
      obtain ⟨hne, hsubscribed⟩ := subscribed_step_unSubscribe.mp hsubscribed
      rcases hs listener hsubscribed with hheard | hserve | hhand
      · exact .inl hheard
      · exact .inr (.inl ((willServe_step_unSubscribe_iff hne).mpr hserve))
      · exact .inr (.inr hhand)

/-- Nothing is broadcast while the stored level is the first one. -/
def Announced (s : LevelSystem) : Prop :=
  s.lastBroadcast = none → (∃ level, s.notifier = .stored level) ∨
    ∀ subscription ∈ s.subscriptions, Subscription.Fresh subscription s.lastValue

theorem Announced.notify (hs : s.Announced) : s.notify.Announced := by
  -- a phase after the first leaves the broadcast and the subscriptions as they are
  have hlater : (∀ level, s.notifier ≠ .stored level) → s.lastBroadcast = none →
      ∀ subscription ∈ s.subscriptions, Subscription.Fresh subscription s.lastValue :=
    fun h hnone => (hs hnone).resolve_left fun ⟨level, hlevel⟩ => h level hlevel
  have hstep := notifyStep s
  generalize s.notify = next at hstep ⊢
  cases hstep with
  | idle => exact hs
  | publish => exact nofun
  | serve hstored => exact fun h => .inr (hlater hstored h)
  | advance hstored => exact fun h => .inr (hlater hstored h)

theorem mem_step_read {i : Nat} {subscription : Subscription}
    (h : subscription ∈ (s.step (.read i)).subscriptions) :
    ∃ old ∈ s.subscriptions, subscription.listener = old.listener ∧
      (subscription.read = old.read ∨ subscription.read = old.read.or (some s.lastValue)) := by
  obtain ⟨j, hj⟩ := List.mem_iff_getElem?.mp h
  change (s.subscriptions.modify i _)[j]? = _ at hj
  rw [List.getElem?_modify] at hj
  obtain ⟨old, hold, heq⟩ := Option.map_eq_some_iff.mp hj
  refine ⟨old, List.mem_of_getElem? hold, ?_⟩
  split at heq
  · exact ⟨heq ▸ rfl, .inr (heq ▸ rfl)⟩
  · exact ⟨heq ▸ rfl, .inl (heq ▸ rfl)⟩

/-- What a subscription reads is fresh, and what it had read before it keeps. -/
theorem fresh_step_read {old subscription : Subscription}
    (h : subscription.read = old.read ∨ subscription.read = old.read.or (some s.lastValue))
    (hfresh : Subscription.Fresh old s.lastValue) :
    Subscription.Fresh subscription s.lastValue := by
  rcases h with hsame | hread
  · exact hfresh.imp hsame.trans hsame.trans
  · refine .inr (hread.trans ?_)
    rcases hfresh with hnone | hsome
    · rw [hnone]
      rfl
    · rw [hsome]
      rfl

theorem Announced.step (hs : s.Announced) (e : ListenerEvent) : (s.step e).Announced := by
  cases e with
  | store level =>
    by_cases h : s.notifier = .idle ∧ level.value ≠ s.lastValue
    · rw [step_store h.1 h.2]
      exact fun _ => .inl ⟨level.value, rfl⟩
    · rw [step_store_of_not h]
      exact hs
  | notify => exact hs.notify
  | insert callback isSync =>
    cases callback with
    | none => exact hs
    | some callback =>
      intro hnone
      refine (hs hnone).imp_right fun hfresh subscription hmem => ?_
      rw [lastValue_step_insert]
      change subscription ∈ (if _ then s.subscriptions ++ _ else s.subscriptions) at hmem
      split at hmem
      · rcases List.mem_append.mp hmem with hold | hnew
        · exact hfresh subscription hold
        · exact .inl (congrArg Subscription.read (List.mem_singleton.mp hnew))
      · exact hfresh subscription hmem
  | read i =>
    intro hnone
    refine (hs hnone).imp_right fun hfresh subscription hmem => ?_
    obtain ⟨old, hold, -, hread⟩ := mem_step_read hmem
    exact fresh_step_read hread (hfresh old hold)
  | deliver i =>
    by_cases h : ∃ listener level, s.subscriptions[i]? = some ⟨listener, some level⟩
    · obtain ⟨listener, level, hread⟩ := h
      rw [step_deliver hread]
      exact fun hnone => (hs hnone).imp_right fun hfresh subscription hmem =>
        hfresh subscription (List.mem_of_mem_eraseIdx hmem)
    · rw [step_deliver_of_not fun listener level heq => h ⟨listener, level, heq⟩]
      exact hs
  | unSubscribe callback => cases callback <;> exact hs

end LevelSystem

end ThermalManager
