import ThermalManager.Observer.ActionCallback
import ThermalManager.Lib.Run

/-!
# Tasks that deliver action values

A policy round submits a task that takes the pending values under one lock and delivers them later
under another. Any number of tasks can stand between the two. A value is fresh when nothing was set
for its action since. The fresh value of an action is pending, or a task holds it, or all listeners
of the action have it; only a task that delivers an old value after the fresh one breaks this.
-/

namespace ThermalManager

inductive TaskEvent where
  | setDecisionValue (actionName actionValue : String)
  | submit
  /-- A submitted task takes the pending values. -/
  | take
  /-- The task at this place among those that hold values delivers them. -/
  | deliver (i : Nat)
  | subscribe (actionList : List String) (callback : Option RemoteObject)
  | unSubscribe (callback : Option RemoteObject)

/-- The observer, the tasks submitted but not started, the values that started tasks hold, whether a
task was submitted after the last value was set, the last value set for each action, and the value
each listener was last told for it. -/
structure ActionTasks where
  observer : ThermalObserver := {}
  submitted : Nat := 0
  holding : List (Map String String) := []
  covered : Bool := true
  lastSet : String → Option String := fun _ => none
  heard : RemoteObject → String → Option String := fun _ _ => none

namespace ActionTasks

/-- A task that finds nothing pending is done. -/
def take (s : ActionTasks) : ActionTasks :=
  match s.observer.takeActionMap with
  | (none, o) => { s with observer := o, submitted := s.submitted - 1 }
  | (some actionCache, o) =>
      { s with observer := o, submitted := s.submitted - 1, holding := s.holding ++ [actionCache] }

def step (s : ActionTasks) : TaskEvent → ActionTasks
  | .setDecisionValue actionName actionValue =>
      { s with
        observer := s.observer.setDecisionValue actionName actionValue
        covered := false
        lastSet := fun action =>
          if actionName = action then some actionValue else s.lastSet action }
  | .submit => { s with submitted := s.submitted + 1, covered := true }
  | .take => if s.submitted = 0 then s else s.take
  | .deliver i =>
      match s.holding[i]? with
      | none => s
      | some actionCache =>
          { s with
            holding := s.holding.eraseIdx i
            heard := Fanout.hear s.heard (s.observer.deliverActions actionCache) }
  | .subscribe actionList callback =>
      let called := s.observer.subscribeThermalActionCallback actionList callback
      { s with observer := called.1, heard := Fanout.hear s.heard called.2 }
  | .unSubscribe callback =>
      { s with observer := s.observer.unSubscribeThermalActionCallback callback }

/-- When all tasks are done and one was submitted after the last value was set, every listener has
the last value set for each action it subscribed to. -/
def UpdatesArrived (s : ActionTasks) : Prop :=
  s.submitted = 0 → s.holding = [] → s.covered = true →
    ∀ listener ∈ s.observer.actionListeners.lists,
      ∀ action ∈ s.observer.actionListeners.listOf listener, ∀ value,
        s.lastSet action = some value → s.heard listener action = some value

/-- The last value set for the action is pending or held by a task other than the one at `i`. -/
def StillToCome (s : ActionTasks) (i : Nat) (action : String) : Prop :=
  action ∈ s.observer.actionMap ∨
    ∃ j, j ≠ i ∧ ∃ actionCache, s.holding[j]? = some actionCache ∧
      actionCache[action]? = s.lastSet action

/-- A task that delivers an old value of an action somebody subscribed to does so while the last
value is still to come. -/
def NotOvertaken (s : ActionTasks) : TaskEvent → Prop
  | .deliver i => ∀ actionCache, s.holding[i]? = some actionCache →
      ∀ action ∈ actionCache, s.observer.actionListeners.Asked action →
        actionCache[action]? ≠ s.lastSet action → s.StillToCome i action
  | _ => True

/-- Where the last value of each action is. -/
structure Fresh (s : ActionTasks) : Prop where
  all : ∀ action : String, s.observer.allActionMap[action]? = s.lastSet action
  pending : ∀ action : String, action ∈ s.observer.actionMap →
    s.observer.actionMap[action]? = s.lastSet action
  arrives : ∀ action value, s.lastSet action = some value →
    action ∈ s.observer.actionMap ∨
      (∃ actionCache ∈ s.holding, actionCache[action]? = some value) ∨
      ∀ listener ∈ s.observer.actionListeners.lists,
        action ∈ s.observer.actionListeners.listOf listener →
          s.heard listener action = some value
  covered : s.covered = true → s.submitted = 0 → s.observer.actionMap = ∅
  held : ∀ actionCache ∈ s.holding, ∀ action ∈ actionCache, (s.lastSet action).isSome

theorem fresh_start : Fresh {} where
  all _ := rfl
  pending _ h := absurd h Std.ExtTreeMap.not_mem_empty
  arrives _ _ h := by cases h
  covered _ _ := rfl
  held _ h := absurd h List.not_mem_nil

variable {s : ActionTasks}

theorem Fresh.updatesArrived (hs : s.Fresh) : s.UpdatesArrived := by
  intro hsubmitted hholding hcovered listener hlistener action haction value hvalue
  rcases hs.arrives action value hvalue with hpending | ⟨actionCache, hheld, -⟩ | harrived
  · rw [hs.covered hcovered hsubmitted] at hpending
    exact absurd hpending Std.ExtTreeMap.not_mem_empty
  · rw [hholding] at hheld
    exact absurd hheld List.not_mem_nil
  · exact harrived listener hlistener haction

theorem Fresh.setDecisionValue (hs : s.Fresh) (actionName actionValue : String) :
    (s.step (.setDecisionValue actionName actionValue)).Fresh where
  all action := by
    show (s.observer.allActionMap.insert actionName actionValue)[action]? =
      if actionName = action then _ else _
    rw [Fanout.getElem?_insert, hs.all]
  pending action haction := by
    show (s.observer.actionMap.insert actionName actionValue)[action]? =
      if actionName = action then _ else _
    rw [Fanout.getElem?_insert]
    split
    case isTrue => rfl
    case isFalse hne =>
      have hold : action ∈ s.observer.actionMap :=
        (Std.ExtTreeMap.mem_insert.mp haction).resolve_left
          (fun hcmp => hne (Std.LawfulEqOrd.eq_of_compare hcmp))
      exact hs.pending action hold
  arrives action value hvalue := by
    show action ∈ s.observer.actionMap.insert actionName actionValue ∨ _
    by_cases heq : actionName = action
    · subst heq
      exact .inl (Std.ExtTreeMap.mem_insert.mpr (.inl Std.ReflOrd.compare_self))
    · have hlast : s.lastSet action = some value := by
        rw [← hvalue]
        exact (if_neg heq).symm
      rcases hs.arrives action value hlast with hpending | hheld | harrived
      · exact .inl (Std.ExtTreeMap.mem_insert.mpr (.inr hpending))
      · exact .inr (.inl hheld)
      · exact .inr (.inr harrived)
  covered h := by cases h
  held actionCache hheld action haction := by
    show Option.isSome (if actionName = action then _ else _) = true
    split
    case isTrue => rfl
    case isFalse => exact hs.held actionCache hheld action haction

theorem Fresh.take (hs : s.Fresh) : s.take.Fresh := by
  rw [ActionTasks.take, ThermalObserver.takeActionMap]
  by_cases hempty : s.observer.actionMap.isEmpty
  · rw [if_pos hempty]
    exact ⟨hs.all, hs.pending, hs.arrives, fun _ _ => Std.ExtTreeMap.isEmpty_iff.mp hempty, hs.held⟩
  · rw [if_neg hempty]
    refine { all := hs.all, pending := ?pending, arrives := ?arrives, covered := fun _ _ => rfl,
             held := ?held }
    case pending => exact fun _ h => absurd h Std.ExtTreeMap.not_mem_empty
    case arrives =>
      intro action value hvalue
      rcases hs.arrives action value hvalue with hpending | ⟨actionCache, hheld, hcache⟩ | harrived
      · exact .inr (.inl ⟨s.observer.actionMap, List.mem_append_right _ List.mem_cons_self,
          (hs.pending action hpending).trans hvalue⟩)
      · exact .inr (.inl ⟨actionCache, List.mem_append_left _ hheld, hcache⟩)
      · exact .inr (.inr harrived)
    case held =>
      intro actionCache hheld action haction
      rcases List.mem_append.mp hheld with hold | hnew
      · exact hs.held actionCache hold action haction
      · obtain rfl := List.mem_singleton.mp hnew
        rw [← hs.pending action haction]
        exact Std.ExtTreeMap.mem_iff_isSome_getElem?.mp haction

theorem heard_delivered (s : ActionTasks) (actionCache : Map String String)
    {listener : RemoteObject} {action : String}
    (hlistener : listener ∈ s.observer.actionListeners.lists)
    (haction : action ∈ s.observer.actionListeners.listOf listener) :
    Fanout.hear s.heard (s.observer.deliverActions actionCache) listener action =
      actionCache[action]?.or (s.heard listener action) := by
  rw [← CallbackRegistry.mem_order, ← s.observer.deliverActions_told actionCache] at hlistener
  obtain ⟨told, hturn, hhear⟩ := Fanout.hear_of_mem hlistener action
  have htold : told[action]? = actionCache[action]? := by
    refine Option.ext fun value => ?_
    rw [s.observer.getElem?_delivered actionCache hturn]
    exact and_iff_right (.inl haction)
  rw [hhear, htold]

theorem step_deliver (s : ActionTasks) {i : Nat} {delivered : Map String String}
    (hheld : s.holding[i]? = some delivered) :
    s.step (.deliver i) = { s with
      holding := s.holding.eraseIdx i
      heard := Fanout.hear s.heard (s.observer.deliverActions delivered) } := by
  show (match s.holding[i]? with | none => s | some _ => _) = _
  rw [hheld]

theorem step_deliver_none (s : ActionTasks) {i : Nat} (hheld : s.holding[i]? = none) :
    s.step (.deliver i) = s := by
  show (match s.holding[i]? with | none => s | some _ => _) = _
  rw [hheld]

theorem exists_mem_eraseIdx {i j : Nat} {action value : String} (hne : j ≠ i)
    {actionCache : Map String String} (hj : s.holding[j]? = some actionCache)
    (hcache : actionCache[action]? = some value) :
    ∃ actionCache ∈ s.holding.eraseIdx i, actionCache[action]? = some value := by
  refine ⟨actionCache, ?_, hcache⟩
  rw [List.mem_eraseIdx_iff_getElem?]
  exact ⟨j, hne, hj⟩

theorem Fresh.arrives_of_not_delivered (hs : s.Fresh) {i : Nat} {delivered : Map String String}
    (hheld : s.holding[i]? = some delivered) {action value : String}
    (hvalue : s.lastSet action = some value) (hnone : delivered[action]? = none) :
    action ∈ s.observer.actionMap ∨
      (∃ actionCache ∈ s.holding.eraseIdx i, actionCache[action]? = some value) ∨
      ∀ listener ∈ s.observer.actionListeners.lists,
        action ∈ s.observer.actionListeners.listOf listener →
          Fanout.hear s.heard (s.observer.deliverActions delivered) listener action =
            some value := by
  rcases hs.arrives action value hvalue with hpending | ⟨actionCache, hcache, hentry⟩ | harrived
  · exact .inl hpending
  · obtain ⟨j, hj⟩ := List.mem_iff_getElem?.mp hcache
    refine .inr (.inl (exists_mem_eraseIdx (fun heq => ?_) hj hentry))
    rw [heq, hheld] at hj
    obtain rfl := Option.some.inj hj
    exact Option.some_ne_none value (hentry.symm.trans hnone)
  · refine .inr (.inr fun listener hlistener haction => ?_)
    rw [heard_delivered s delivered hlistener haction, hnone]
    exact harrived listener hlistener haction

theorem Fresh.deliver (hs : s.Fresh) {i : Nat} (hok : s.NotOvertaken (.deliver i)) :
    (s.step (.deliver i)).Fresh := by
  cases hheld : s.holding[i]? with
  | none =>
    rw [step_deliver_none s hheld]
    exact hs
  | some delivered =>
    rw [step_deliver s hheld]
    refine { all := hs.all, pending := hs.pending, arrives := ?arrives, covered := hs.covered,
             held := ?held }
    case held => exact fun actionCache hmem => hs.held actionCache (List.mem_of_mem_eraseIdx hmem)
    case arrives =>
      intro action value hvalue
      by_cases hcurrent : delivered[action]? = some value
      · -- the last value is delivered now
        refine .inr (.inr fun listener hlistener haction => ?_)
        show Fanout.hear s.heard _ listener action = some value
        rw [heard_delivered s delivered hlistener haction, hcurrent]
        rfl
      by_cases hasked : s.observer.actionListeners.Asked action
      · by_cases hstale : action ∈ delivered
        · have hold : delivered[action]? ≠ s.lastSet action := hvalue ▸ hcurrent
          rcases hok delivered hheld action hstale hasked hold with
            hpending | ⟨j, hne, actionCache, hj, hcache⟩
          · exact .inl hpending
          · exact .inr (.inl (exists_mem_eraseIdx hne hj (hcache.trans hvalue)))
        · exact hs.arrives_of_not_delivered hheld hvalue
            (Std.ExtTreeMap.getElem?_eq_none hstale)
      · exact .inr (.inr fun listener hlistener haction =>
          absurd ⟨listener, hlistener, haction⟩ hasked)

theorem step_subscribe (s : ActionTasks) (actionList : List String) {callback : RemoteObject}
    (hnew : callback ∉ s.observer.actionListeners.listeners) :
    s.step (.subscribe actionList (some callback)) = { s with
      observer := { s.observer with
        actionListeners := s.observer.actionListeners.insert callback actionList }
      heard := Fanout.hear s.heard [(callback,
        ThermalObserver.decisionActionValue actionList ∅ s.observer.allActionMap)] } := by
  show { s with
    observer := (s.observer.subscribeThermalActionCallback actionList (some callback)).1
    heard := Fanout.hear s.heard
      (s.observer.subscribeThermalActionCallback actionList (some callback)).2 } = _
  rw [ThermalObserver.subscribeThermalActionCallback, if_neg hnew]

theorem step_subscribe_of_mem (s : ActionTasks) (actionList : List String)
    {callback : RemoteObject} (hold : callback ∈ s.observer.actionListeners.listeners) :
    s.step (.subscribe actionList (some callback)) = s := by
  show { s with
    observer := (s.observer.subscribeThermalActionCallback actionList (some callback)).1
    heard := Fanout.hear s.heard
      (s.observer.subscribeThermalActionCallback actionList (some callback)).2 } = _
  rw [ThermalObserver.subscribeThermalActionCallback, if_pos hold]
  rfl

theorem Fresh.subscribe (hs : s.Fresh) (actionList : List String) (callback : Option RemoteObject) :
    (s.step (.subscribe actionList callback)).Fresh := by
  cases callback with
  | none => exact hs
  | some callback =>
    by_cases hold : callback ∈ s.observer.actionListeners.listeners
    · rw [step_subscribe_of_mem s actionList hold]
      exact hs
    · rw [step_subscribe s actionList hold]
      refine { all := hs.all, pending := hs.pending, arrives := ?arrives, covered := hs.covered,
               held := hs.held }
      case arrives =>
        intro action value hvalue
        rcases hs.arrives action value hvalue with hpending | hheld | harrived
        · exact .inl hpending
        · exact .inr (.inl hheld)
        · refine .inr (.inr fun listener hlistener haction => ?_)
          show Fanout.hear s.heard _ listener action = some value
          rw [CallbackRegistry.listOf_insert hold] at haction
          by_cases heq : callback = listener
          · subst heq
            rw [if_pos rfl] at haction
            rw [Fanout.hear_singleton, ThermalObserver.getElem?_decisionActionValue,
              if_pos haction, hs.all, hvalue]
            rfl
          · rw [if_neg heq] at haction
            rw [Fanout.hear_of_not_mem]
            · exact harrived listener ((CallbackRegistry.mem_insert.mp hlistener).resolve_left heq)
                haction
            · exact fun h => heq (List.mem_singleton.mp h).symm

theorem Fresh.unSubscribe (hs : s.Fresh) (callback : Option RemoteObject) :
    (s.step (.unSubscribe callback)).Fresh := by
  cases callback with
  | none => exact hs
  | some callback =>
    refine { all := hs.all, pending := hs.pending, arrives := ?arrives, covered := hs.covered,
             held := hs.held }
    case arrives =>
      intro action value hvalue
      rcases hs.arrives action value hvalue with hpending | hheld | harrived
      · exact .inl hpending
      · exact .inr (.inl hheld)
      · refine .inr (.inr fun listener hlistener haction => ?_)
        obtain ⟨hne, hstays⟩ := CallbackRegistry.mem_erase.mp hlistener
        exact harrived listener hstays (CallbackRegistry.listOf_erase hne ▸ haction)

theorem Fresh.step (hs : s.Fresh) {e : TaskEvent} (hok : s.NotOvertaken e) : (s.step e).Fresh := by
  cases e with
  | setDecisionValue actionName actionValue => exact hs.setDecisionValue actionName actionValue
  | submit =>
    exact ⟨hs.all, hs.pending, hs.arrives, fun _ h => absurd h (Nat.succ_ne_zero _), hs.held⟩
  | take =>
    show (if s.submitted = 0 then s else s.take).Fresh
    split
    · exact hs
    · exact hs.take
  | deliver i => exact hs.deliver hok
  | subscribe actionList callback => exact hs.subscribe actionList callback
  | unSubscribe callback => exact hs.unSubscribe callback

/-! ### An overtaken value -/

/-- The listener has an old value of an action it subscribed to, and the last value is neither
pending nor held by a task. -/
structure Stale (s : ActionTasks) (listener : RemoteObject) (action value : String) : Prop where
  subscribed : listener ∈ s.observer.actionListeners.lists
  asked : action ∈ s.observer.actionListeners.listOf listener
  last : s.lastSet action = some value
  notPending : action ∉ s.observer.actionMap
  notHeld : ∀ actionCache ∈ s.holding, actionCache[action]? ≠ some value
  heard : s.heard listener action ≠ some value

/-- The event does not set the action and is not the listener's leaving. -/
def Leaves (listener : RemoteObject) (action : String) : TaskEvent → Prop
  | .setDecisionValue actionName _ => actionName ≠ action
  | .unSubscribe callback => callback ≠ some listener
  | _ => True

/-- A task that delivers an old value after the last one leaves a listener with it. -/
theorem Fresh.stale (hs : s.Fresh) {e : TaskEvent} (hovertaken : ¬ s.NotOvertaken e) :
    ∃ listener action value, (s.step e).Stale listener action value := by
  cases e with
  | deliver i =>
    by_contra hnot
    refine hovertaken fun delivered hheld action haction hasked hold => ?_
    by_contra hgone
    refine hnot ?_
    obtain ⟨listener, hlistener, hlist⟩ := hasked
    obtain ⟨value, hvalue⟩ := Option.isSome_iff_exists.mp
      (hs.held delivered (List.mem_of_getElem? hheld) action haction)
    obtain ⟨old, hentry⟩ := Option.isSome_iff_exists.mp
      (Std.ExtTreeMap.mem_iff_isSome_getElem?.mp haction)
    refine ⟨listener, action, value, ?_⟩
    rw [step_deliver s hheld]
    refine { subscribed := hlistener, asked := hlist, last := hvalue, notPending := ?notPending,
             notHeld := ?notHeld, heard := ?heard }
    case notPending => exact fun hpending => hgone (.inl hpending)
    case notHeld =>
      intro actionCache hmem hcache
      obtain ⟨j, hne, hj⟩ := List.mem_eraseIdx_iff_getElem?.mp hmem
      exact hgone (.inr ⟨j, hne, actionCache, hj, hcache.trans hvalue.symm⟩)
    case heard =>
      show Fanout.hear s.heard _ listener action ≠ some value
      rw [heard_delivered s delivered hlistener hlist, ← hvalue, hentry, Option.some_or, ← hentry]
      exact hold
  | setDecisionValue actionName actionValue => exact absurd trivial hovertaken
  | submit => exact absurd trivial hovertaken
  | take => exact absurd trivial hovertaken
  | subscribe actionList callback => exact absurd trivial hovertaken
  | unSubscribe callback => exact absurd trivial hovertaken

variable {listener : RemoteObject} {action value : String}

theorem Stale.take (h : s.Stale listener action value) : s.take.Stale listener action value := by
  rw [ActionTasks.take, ThermalObserver.takeActionMap]
  by_cases hempty : s.observer.actionMap.isEmpty
  · rw [if_pos hempty]
    exact ⟨h.subscribed, h.asked, h.last, h.notPending, h.notHeld, h.heard⟩
  · rw [if_neg hempty]
    refine { subscribed := h.subscribed, asked := h.asked, last := h.last, heard := h.heard,
             notPending := Std.ExtTreeMap.not_mem_empty, notHeld := ?notHeld }
    case notHeld =>
      intro actionCache hmem hcache
      rcases List.mem_append.mp hmem with hold | hnew
      · exact h.notHeld actionCache hold hcache
      · obtain rfl := List.mem_singleton.mp hnew
        rw [Std.ExtTreeMap.getElem?_eq_none h.notPending] at hcache
        cases hcache

theorem Stale.deliver (h : s.Stale listener action value) (i : Nat) :
    (s.step (.deliver i)).Stale listener action value := by
  cases hheld : s.holding[i]? with
  | none =>
    rw [step_deliver_none s hheld]
    exact h
  | some delivered =>
    rw [step_deliver s hheld]
    refine { subscribed := h.subscribed, asked := h.asked, last := h.last,
             notPending := h.notPending, notHeld := ?notHeld, heard := ?heard }
    case notHeld =>
      exact fun actionCache hmem => h.notHeld actionCache (List.mem_of_mem_eraseIdx hmem)
    case heard =>
      show Fanout.hear s.heard _ listener action ≠ some value
      rw [heard_delivered s delivered h.subscribed h.asked]
      have hother := h.notHeld delivered (List.mem_of_getElem? hheld)
      cases hentry : delivered[action]? with
      | none => exact h.heard
      | some old =>
        rw [hentry] at hother
        exact hother

theorem Stale.subscribe (h : s.Stale listener action value) (actionList : List String)
    (callback : Option RemoteObject) :
    (s.step (.subscribe actionList callback)).Stale listener action value := by
  cases callback with
  | none => exact ⟨h.subscribed, h.asked, h.last, h.notPending, h.notHeld, h.heard⟩
  | some callback =>
    by_cases hold : callback ∈ s.observer.actionListeners.listeners
    · rw [step_subscribe_of_mem s actionList hold]
      exact h
    · rw [step_subscribe s actionList hold]
      have hne : callback ≠ listener := by
        intro heq
        subst heq
        exact hold ((CallbackRegistry.agree _ _).mpr h.subscribed)
      refine { subscribed := CallbackRegistry.mem_insert.mpr (.inr h.subscribed), asked := ?asked,
               last := h.last, notPending := h.notPending, notHeld := h.notHeld, heard := ?heard }
      case asked =>
        show action ∈ (s.observer.actionListeners.insert callback actionList).listOf listener
        rw [CallbackRegistry.listOf_insert hold, if_neg hne]
        exact h.asked
      case heard =>
        show Fanout.hear s.heard _ listener action ≠ some value
        rw [Fanout.hear_of_not_mem]
        · exact h.heard
        · exact fun hmem => hne (List.mem_singleton.mp hmem).symm

/-- Nothing but a new value of the action or its leaving changes that for the listener. -/
theorem Stale.step (h : s.Stale listener action value) {e : TaskEvent}
    (he : Leaves listener action e) : (s.step e).Stale listener action value := by
  cases e with
  | setDecisionValue actionName actionValue =>
    refine { subscribed := h.subscribed, asked := h.asked, last := ?last,
             notPending := ?notPending, notHeld := h.notHeld, heard := h.heard }
    case last => exact (if_neg he).trans h.last
    case notPending =>
      intro hpending
      rcases Std.ExtTreeMap.mem_insert.mp hpending with hcmp | hold
      · exact he (Std.LawfulEqOrd.eq_of_compare hcmp)
      · exact h.notPending hold
  | submit => exact ⟨h.subscribed, h.asked, h.last, h.notPending, h.notHeld, h.heard⟩
  | take =>
    show (if s.submitted = 0 then s else s.take).Stale listener action value
    split
    · exact h
    · exact h.take
  | deliver i => exact h.deliver i
  | subscribe actionList callback => exact h.subscribe actionList callback
  | unSubscribe callback =>
    cases callback with
    | none => exact ⟨h.subscribed, h.asked, h.last, h.notPending, h.notHeld, h.heard⟩
    | some callback =>
      have hne : callback ≠ listener := fun heq => he (congrArg some heq)
      refine { subscribed := CallbackRegistry.mem_erase.mpr ⟨hne, h.subscribed⟩, asked := ?asked,
               last := h.last, notPending := h.notPending, notHeld := h.notHeld, heard := h.heard }
      case asked =>
        show action ∈ (s.observer.actionListeners.erase callback).listOf listener
        rw [CallbackRegistry.listOf_erase hne]
        exact h.asked

theorem Stale.run (h : s.Stale listener action value) {more : List TaskEvent}
    (hmore : ∀ e ∈ more, Leaves listener action e) :
    (more.foldl ActionTasks.step s).Stale listener action value :=
  List.foldlRecOn (motive := fun s => s.Stale listener action value) more ActionTasks.step h
    fun _ hs e he => hs.step (hmore e he)

theorem Stale.not_updatesArrived (h : s.Stale listener action value) (hsubmitted : s.submitted = 0)
    (hholding : s.holding = []) (hcovered : s.covered = true) : ¬ s.UpdatesArrived := by
  intro harrived
  exact h.heard (harrived hsubmitted hholding hcovered listener h.subscribed action h.asked value
    h.last)

/-- All listeners end up with the last values when no task delivers an old value after the last one.
The first task to do so leaves a listener with the old value, whatever happens next, until the
action is set again or the listener leaves. -/
theorem updates_arrive_iff_not_overtaken (events : List TaskEvent) :
    (StepSystem.Enabled NotOvertaken step {} events → (events.foldl step {}).UpdatesArrived) ∧
      ∀ e, StepSystem.Enabled NotOvertaken step {} events →
        ¬ (events.foldl step {}).NotOvertaken e →
        ∃ listener action, ∀ more : List TaskEvent, (∀ e' ∈ more, Leaves listener action e') →
          (more.foldl step ((events.foldl step {}).step e)).submitted = 0 →
          (more.foldl step ((events.foldl step {}).step e)).holding = [] →
          (more.foldl step ((events.foldl step {}).step e)).covered = true →
          ¬ (more.foldl step ((events.foldl step {}).step e)).UpdatesArrived := by
  have hfresh : StepSystem.Enabled NotOvertaken step {} events → (events.foldl step {}).Fresh :=
    fun h => h.run.invariant Fresh fresh_start fun _ _ hs hok => hs.step hok
  refine ⟨fun h => (hfresh h).updatesArrived, fun e h hovertaken => ?_⟩
  obtain ⟨listener, action, value, hstale⟩ := (hfresh h).stale hovertaken
  exact ⟨listener, action, fun more hmore => (hstale.run hmore).not_updatesArrived⟩

/-- Two rounds whose tasks deliver in the wrong order. -/
def crossedTasks : List TaskEvent :=
  [.subscribe ["lcd"] (some 1), .setDecisionValue "lcd" "1", .submit, .take,
    .setDecisionValue "lcd" "2", .submit, .take, .deliver 1, .deliver 0]

/-- The listener is left with the value of the first round. -/
theorem crossed_tasks_leave_old_value : ¬ (crossedTasks.foldl step {}).UpdatesArrived := by
  intro h
  have hheard := h rfl rfl rfl 1 (by decide) "lcd" (by decide) "2" (by decide)
  revert hheard
  decide

end ActionTasks

end ThermalManager
