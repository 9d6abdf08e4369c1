import ThermalManager.Action.LevelListeners

/-!
# Listeners with an outdated level

In a run without outdated deliveries every listener ends up with the level last broadcast. A
delivery that is outdated leaves its listener behind, and nothing but a new level, a subscription of
its own or its leaving changes that.
-/

namespace ThermalManager

open StepSystem

namespace LevelSystem

variable {s : LevelSystem} {listener : RemoteObject}

/-! ### A listener left behind -/

/-- A subscribed listener has another level than the stored one, and nothing under way will tell
it. -/
structure Stale (s : LevelSystem) (listener : RemoteObject) : Prop where
  subscribed : s.Subscribed listener
  heard : s.heard listener ≠ some s.lastValue
  notServed : ¬ s.WillServe listener
  notHandedOver : ¬ s.WillHandOver listener

/-- No new level is decided, and the listener neither subscribes again nor leaves. -/
def Leaves (listener : RemoteObject) : ListenerEvent → Prop
  | .store _ => False
  | .insert callback _ => callback ≠ some listener
  | .unSubscribe callback => callback ≠ some listener
  | _ => True

/-- A subscription that hands over an outdated level leaves its listener with it. -/
theorem stale_of_outdated {e : ListenerEvent} (houtdated : ¬ s.NotOutdated e) :
    ∃ listener, (s.step e).Stale listener := by
  cases e with
  | deliver i =>
    by_contra hnot
    refine houtdated fun listener level hread hsubscribed hne => ?_
    by_contra hgone
    refine hnot ⟨listener, ?_⟩
    rw [step_deliver hread]
    refine { subscribed := hsubscribed, heard := ?heard, notServed := fun h => hgone (.inl h),
             notHandedOver := ?notHandedOver }
    case heard =>
      show (if listener = listener then some level else s.heard listener) ≠ some s.lastValue
      rw [if_pos rfl]
      exact fun h => hne (Option.some.inj h)
    case notHandedOver =>
      rintro ⟨subscription, hmem, hlistener, hfresh⟩
      obtain ⟨j, hj, hother⟩ := List.mem_eraseIdx_iff_getElem?.mp hmem
      exact hgone (.inr ⟨j, hj, subscription, hother, hlistener, hfresh⟩)
  | store level => exact absurd trivial houtdated
  | notify => exact absurd trivial houtdated
  | insert callback isSync => exact absurd trivial houtdated
  | read i => exact absurd trivial houtdated
  | unSubscribe callback => exact absurd trivial houtdated

theorem Stale.notify (h : s.Stale listener) : s.notify.Stale listener := by
  have hstep := notifyStep s
  generalize s.notify = next at hstep ⊢
  cases hstep with
  | idle => exact h
  | publish hphase => exact absurd ((willServe_iff hphase).mpr trivial) h.notServed
  | @serve level served phase hstored hphase hlevel hsame hserve =>
    refine { subscribed := h.subscribed, heard := ?heard, notHandedOver := h.notHandedOver,
             notServed := fun hserving => h.notServed ((hserve listener).mpr (.inr hserving)) }
    case heard =>
      have hne : listener ≠ served := fun heq => h.notServed ((hserve listener).mpr (.inl heq))
      exact fun hheard => h.heard ((if_neg hne).symm.trans hheard)
  | advance hstored hphase hlevel hserve =>
    exact { subscribed := h.subscribed, heard := h.heard, notHandedOver := h.notHandedOver,
            notServed := fun hserving =>
              h.notServed ((hserve listener h.subscribed).mpr hserving) }

theorem Stale.insert (h : s.Stale listener) {callback : RemoteObject} (isSync : Bool)
    (hne : callback ≠ listener) : (s.step (.insert (some callback) isSync)).Stale listener := by
  refine { subscribed := subscribed_step_insert.mpr (.inr h.subscribed), heard := ?heard,
           notServed := fun hserve => h.notServed ((willServe_step_insert_iff hne).mp hserve),
           notHandedOver := ?notHandedOver }
  case heard =>
    rw [lastValue_step_insert]
    exact h.heard
  case notHandedOver =>
    rintro ⟨subscription, hmem, hlistener, hfresh⟩
    rw [lastValue_step_insert] at hfresh
    change subscription ∈ (if _ then s.subscriptions ++ _ else s.subscriptions) at hmem
    split at hmem
    · rcases List.mem_append.mp hmem with hold | hnew
      · exact h.notHandedOver ⟨subscription, hold, hlistener, hfresh⟩
      · obtain rfl := List.mem_singleton.mp hnew
        exact hne hlistener
    · exact h.notHandedOver ⟨subscription, hmem, hlistener, hfresh⟩

theorem Stale.deliver (h : s.Stale listener) (i : Nat) : (s.step (.deliver i)).Stale listener := by
  by_cases hread : ∃ listener level, s.subscriptions[i]? = some ⟨listener, some level⟩
  · obtain ⟨served, level, hread⟩ := hread
    rw [step_deliver hread]
    refine { subscribed := h.subscribed, heard := ?heard, notServed := h.notServed,
             notHandedOver := ?notHandedOver }
    case heard =>
      show (if listener = served then some level else s.heard listener) ≠ some s.lastValue
      split
      case isTrue heq =>
        -- a level read after the change would have been the stored one
        refine fun hlevel => h.notHandedOver ?_
        exact ⟨_, List.mem_of_getElem? hread, heq.symm, .inr hlevel⟩
      case isFalse => exact h.heard
    case notHandedOver =>
      rintro ⟨subscription, hmem, hlistener, hfresh⟩
      exact h.notHandedOver
        ⟨subscription, List.mem_of_mem_eraseIdx hmem, hlistener, hfresh⟩
  · rw [step_deliver_of_not fun listener level heq => hread ⟨listener, level, heq⟩]
    exact h

/-- Nothing but a new level, a new subscription or its leaving changes that for the listener. -/
theorem Stale.step (h : s.Stale listener) {e : ListenerEvent} (he : Leaves listener e) :
    (s.step e).Stale listener := by
  cases e with
  | store level => exact absurd he id
  | notify => exact h.notify
  | insert callback isSync =>
    cases callback with
    | none => exact h
    | some callback => exact h.insert isSync fun heq => he (congrArg some heq)
  | read i =>
    refine { subscribed := h.subscribed, heard := h.heard, notServed := h.notServed,
             notHandedOver := ?notHandedOver }
    case notHandedOver =>
      rintro ⟨subscription, hmem, hlistener, hfresh⟩
      obtain ⟨old, hold, hsame, hread⟩ := mem_step_read hmem
      refine h.notHandedOver ⟨old, hold, hsame.symm.trans hlistener, ?_⟩
      cases hvalue : old.read with
      | none => exact .inl hvalue
      | some level =>
        rw [hvalue] at hread
        have hkept : subscription.read = some level := hread.elim id id
        rcases hfresh with hnone | hsome
        · exact absurd (hkept.symm.trans hnone) nofun
        · exact .inr (hvalue.trans (hkept.symm.trans hsome))
  | deliver i => exact h.deliver i
  | unSubscribe callback =>
    cases callback with
    | none => exact ⟨h.subscribed, h.heard, h.notServed, h.notHandedOver⟩
    | some callback =>
      have hne : callback ≠ listener := fun heq => he (congrArg some heq)
      exact { subscribed := subscribed_step_unSubscribe.mpr ⟨hne, h.subscribed⟩, heard := h.heard,
              notServed := fun hserve =>
                h.notServed ((willServe_step_unSubscribe_iff hne).mp hserve),
              notHandedOver := h.notHandedOver }

/-! ### All runs -/

theorem Finished.not_willServe (h : s.Finished) : ¬ s.WillServe listener := by
  rw [willServe_iff h.1]
  exact id

/-- Once all calls have returned, the level last broadcast is the stored one. -/
theorem Notifies.lastBroadcast (hs : s.Notifies) (h : s.Finished) {level : Int}
    (hlevel : s.lastBroadcast = some level) : level = s.lastValue := by
  refine hs.broadcast (fun level hstored => ?_) level hlevel
  rw [h.1] at hstored
  cases hstored

theorem Arrives.upToDate (hs : s.Arrives) (hn : s.Notifies) (h : s.Finished) : s.UpToDate := by
  intro level hlevel listener hsubscribed
  rw [hn.lastBroadcast h hlevel]
  rcases hs listener hsubscribed with hheard | hserve | ⟨subscription, hmem, -⟩
  · exact hheard
  · exact absurd hserve h.not_willServe
  · rw [h.2] at hmem
    exact absurd hmem List.not_mem_nil

/-- An outdated subscription has read before the level last broadcast was stored. -/
theorem Announced.of_outdated (hs : s.Announced) {e : ListenerEvent}
    (houtdated : ¬ s.NotOutdated e) : s.lastBroadcast ≠ none := by
  cases e with
  | deliver i =>
    refine fun hnone => houtdated fun listener level hread hsubscribed hne => ?_
    rcases hs hnone with ⟨stored, hstored⟩ | hfresh
    · exact .inl ((willServe_iff hstored).mpr trivial)
    · rcases hfresh _ (List.mem_of_getElem? hread) with hunread | hcurrent
      · cases hunread
      · exact absurd (Option.some.inj hcurrent) hne
  | store level => exact absurd trivial houtdated
  | notify => exact absurd trivial houtdated
  | insert callback isSync => exact absurd trivial houtdated
  | read i => exact absurd trivial houtdated
  | unSubscribe callback => exact absurd trivial houtdated

theorem notify_lastBroadcast (h : s.lastBroadcast ≠ none) : s.notify.lastBroadcast ≠ none := by
  have hstep := notifyStep s
  generalize s.notify = next at hstep ⊢
  cases hstep with
  | idle => exact h
  | publish => exact Option.some_ne_none _
  | serve => exact h
  | advance => exact h

theorem step_lastBroadcast (h : s.lastBroadcast ≠ none) (e : ListenerEvent) :
    (s.step e).lastBroadcast ≠ none := by
  cases e with
  | store level =>
    by_cases hstore : s.notifier = .idle ∧ level.value ≠ s.lastValue
    · rw [step_store hstore.1 hstore.2]
      exact h
    · rw [step_store_of_not hstore]
      exact h
  | notify => exact notify_lastBroadcast h
  | insert callback isSync => cases callback <;> exact h
  | read i => exact h
  | deliver i =>
    by_cases hread : ∃ listener level, s.subscriptions[i]? = some ⟨listener, some level⟩
    · obtain ⟨listener, level, hread⟩ := hread
      rw [step_deliver hread]
      exact h
    · rw [step_deliver_of_not fun listener level heq => hread ⟨listener, level, heq⟩]
      exact h
  | unSubscribe callback => cases callback <;> exact h

/-- What holds of every state after a violating step. -/
structure LeftBehind (s : LevelSystem) (listener : RemoteObject) : Prop where
  notifies : s.Notifies
  stale : s.Stale listener
  broadcast : s.lastBroadcast ≠ none

theorem LeftBehind.run (h : s.LeftBehind listener) {more : List ListenerEvent}
    (hmore : ∀ e ∈ more, Leaves listener e) :
    (more.foldl LevelSystem.step s).LeftBehind listener :=
  List.foldlRecOn (motive := fun s => s.LeftBehind listener) more LevelSystem.step h
    fun _ hs e he =>
      ⟨hs.notifies.step e, hs.stale.step (hmore e he), step_lastBroadcast hs.broadcast e⟩

theorem LeftBehind.not_upToDate (h : s.LeftBehind listener) (hfinished : s.Finished) :
    ¬ s.UpToDate := by
  intro hupToDate
  obtain ⟨level, hlevel⟩ := Option.ne_none_iff_exists'.mp h.broadcast
  refine h.stale.heard ?_
  rw [← h.notifies.lastBroadcast hfinished hlevel]
  exact hupToDate level hlevel listener h.stale.subscribed

theorem notifies_run (events : List ListenerEvent) : (events.foldl step start).Notifies :=
  List.foldlRecOn (motive := Notifies) events step notifies_start fun _ hs e _ => hs.step e

theorem announced_run (events : List ListenerEvent) : (events.foldl step start).Announced :=
  List.foldlRecOn (motive := Announced) events step
    (fun _ => .inr fun _ h => absurd h List.not_mem_nil) fun _ hs e _ => hs.step e

theorem arrives_run {events : List ListenerEvent} (h : Enabled NotOutdated step start events) :
    (events.foldl step start).Arrives := by
  have hstart : start.Arrives := fun listener hsubscribed =>
    hsubscribed.elim (fun h => absurd h Std.ExtTreeSet.not_mem_empty)
      (fun h => absurd h Std.ExtTreeSet.not_mem_empty)
  refine (h.run.invariant (fun s => s.Notifies ∧ s.Arrives) ⟨notifies_start, hstart⟩ ?_).2
  exact fun _ e hs hok => ⟨hs.1.step e, hs.2.step hs.1 hok⟩

/-- A level change delivers what it broadcasts to every listener subscribed before. All listeners
end up with the level last broadcast when no subscription hands over an outdated level. One that
does leaves its listener with that level, whatever happens next, until another level is decided or
the listener subscribes again or leaves. -/
theorem listeners_up_to_date_iff_not_outdated (events : List ListenerEvent) :
    ((events.foldl step start).Finished →
      ∀ listener, (events.foldl step start).owed listener = []) ∧
    (Enabled NotOutdated step start events → (events.foldl step start).Finished →
      (events.foldl step start).UpToDate) ∧
    ∀ e, ¬ (events.foldl step start).NotOutdated e →
      ∃ listener, ∀ more : List ListenerEvent, (∀ e' ∈ more, Leaves listener e') →
        (more.foldl step ((events.foldl step start).step e)).Finished →
        ¬ (more.foldl step ((events.foldl step start).step e)).UpToDate := by
  have hnotifies := notifies_run events
  refine ⟨?delivered, ?upToDate, ?leftBehind⟩
  case delivered =>
    intro hfinished listener
    refine List.eq_nil_iff_forall_not_mem.mpr fun level hmem => ?_
    exact hfinished.not_willServe (hnotifies.owed listener level hmem).2.2.2
  case upToDate => exact fun h hfinished => (arrives_run h).upToDate hnotifies hfinished
  case leftBehind =>
    intro e houtdated
    obtain ⟨listener, hstale⟩ := stale_of_outdated houtdated
    have hbehind : ((events.foldl step start).step e).LeftBehind listener :=
      ⟨hnotifies.step e, hstale,
        step_lastBroadcast ((announced_run events).of_outdated houtdated) e⟩
    exact ⟨listener, fun more hmore => (hbehind.run hmore).not_upToDate⟩

/-- A subscription reads level 1, the change to level 2 is broadcast and delivered, and then the
subscription hands over what it read. -/
def overtakenSubscription : List ListenerEvent :=
  [.store .normal, .notify, .notify, .notify, .notify, .insert (some 1) false, .read 0,
    .store .warm, .notify, .notify, .notify, .notify, .notify, .deliver 0]

/-- The listener is left with level 1. -/
theorem subscription_hands_over_outdated_level :
    ¬ ((overtakenSubscription.foldl step start).Finished →
      (overtakenSubscription.foldl step start).UpToDate) := by
  intro h
  have hheard := h ⟨rfl, rfl⟩ 2 rfl 1 (by decide)
  revert hheard
  decide

end LevelSystem

end ThermalManager
