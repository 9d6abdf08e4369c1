import ThermalManager.Action.ActionSpec
import ThermalManager.Lib.Run

/-!
# Running timers and their entries

Whatever a delayed entry holds when it is inserted, a timer that is running belongs to a pending
entry: the one it was created for, which still refers to it. So the reference that the callback
captures never dangles. The calls of a round and the callbacks of timers may come in any order.
-/

namespace ThermalManager

open PolicyDelayAction

/-- The single calls that reach an action, and the callbacks of its timers. -/
inductive CallEvent where
  | addActionValue (actionId : Nat) (value : String)
  | addActionDelayTime (actionId : Nat) (fresh : PolicyDelayAction)
  | execute (newId : Nat → Nat)
  | fire (timerId : Nat)

namespace TimedAction

def callStep (w : TimedAction) : CallEvent → TimedAction
  | .addActionValue actionId value => { w with action := w.action.addActionValue actionId value }
  | .addActionDelayTime actionId fresh =>
      { w with action := w.action.addActionDelayTime actionId fresh }
  | .execute newId => w.execute newId
  | .fire timerId => w.timerCallback timerId

/-- The time service fails or hands out ids never used before, no id twice. -/
structure UsableIds (w : TimedAction) (ids : List Nat) (newId : Nat → Nat) : Prop where
  unused : ∀ id ∈ ids, newId id = 0 ∨ w.timers.created[newId id]? = none
  injective : ∀ id ∈ ids, ∀ id' ∈ ids, newId id = newId id' → newId id ≠ 0 → id = id'

/-- The time service behaves; nothing is asked of the calls. -/
def TimersBehave (w : TimedAction) : CallEvent → Prop
  | .execute newId => w.UsableIds w.action.actionIdList newId
  | .fire timerId => timerId ∈ w.timers.running
  | _ => True

instance (w : TimedAction) (ids : List Nat) (newId : Nat → Nat) :
    Decidable (w.UsableIds ids newId) :=
  decidable_of_iff
    ((∀ id ∈ ids, newId id = 0 ∨ w.timers.created[newId id]? = none) ∧
      ∀ id ∈ ids, ∀ id' ∈ ids, newId id = newId id' → newId id ≠ 0 → id = id')
    ⟨fun h => ⟨h.1, h.2⟩, fun h => ⟨h.1, h.2⟩⟩

instance (w : TimedAction) : (e : CallEvent) → Decidable (w.TimersBehave e)
  | .addActionValue _ _ => inferInstanceAs (Decidable True)
  | .addActionDelayTime _ _ => inferInstanceAs (Decidable True)
  | .execute newId => inferInstanceAs (Decidable (w.UsableIds w.action.actionIdList newId))
  | .fire timerId => inferInstanceAs (Decidable (timerId ∈ w.timers.running))

/-- The timer was created for the entry, which is pending and refers to it. -/
def Owns (w : TimedAction) (id : Nat) (entry : PolicyDelayAction) (t : Nat) : Prop :=
  w.action.policyActionMap[id]? = some entry ∧ entry.isCompleted = false ∧
    entry.delayTimerId = t ∧ ∃ delayTime, w.timers.created[t]? = some ⟨id, delayTime⟩

/-- Every running timer has its entry. -/
def TimersOwned (w : TimedAction) : Prop :=
  ∀ t ∈ w.timers.running, t ≠ 0 ∧ ∃ id entry, w.Owns id entry t

theorem timersOwned_init (cls : ActionClass) (isStrict : Bool) : (init cls isStrict).TimersOwned :=
  fun _ ht => absurd ht List.not_mem_nil

variable {w : TimedAction}

theorem Owns.id_eq {id id' t : Nat} {entry entry' : PolicyDelayAction} (h : w.Owns id entry t)
    (h' : w.Owns id' entry' t) : id = id' := by
  obtain ⟨-, -, -, _, hcreated⟩ := h
  obtain ⟨-, -, -, _, hcreated'⟩ := h'
  exact congrArg ThermalTimerInfo.actionId (Option.some.inj (hcreated.symm.trans hcreated'))

theorem TimersOwned.of_sameTimer (h : w.TimersOwned) {action : Action}
    (hkeep : ∀ (id : Nat) (entry : PolicyDelayAction), w.action.policyActionMap[id]? = some entry →
      ∃ entry', action.policyActionMap[id]? = some entry' ∧ SameTimer entry entry') :
    ({ w with action := action } : TimedAction).TimersOwned := by
  intro t ht
  obtain ⟨hne, id, entry, hentry, hpending, rfl, delayTime, hcreated⟩ := h t ht
  obtain ⟨entry', hentry', hsame⟩ := hkeep id entry hentry
  exact ⟨hne, id, entry', hentry', hsame.isCompleted.trans hpending, hsame.delayTimerId, delayTime,
    hcreated⟩

theorem TimersOwned.addActionValue (h : w.TimersOwned) (actionId : Nat) (value : String) :
    ({ w with action := w.action.addActionValue actionId value } : TimedAction).TimersOwned := by
  refine h.of_sameTimer (fun id entry hentry => ?_)
  rw [Action.addActionValue_entry, hentry]
  split
  · refine ⟨_, rfl, ?_⟩
    cases w.action.cls.parse value with
    | none => exact .refl entry
    | some v => exact setDelayValue_sameTimer w.action.cls.slot v entry
  · exact ⟨entry, rfl, .refl entry⟩

theorem TimersOwned.addActionDelayTime (h : w.TimersOwned) (actionId : Nat)
    (fresh : PolicyDelayAction) : ({ w with
      action := w.action.addActionDelayTime actionId fresh } : TimedAction).TimersOwned := by
  refine h.of_sameTimer (fun id entry hentry => ⟨entry, ?_, .refl entry⟩)
  rw [Action.addActionDelayTime_entry, hentry]
  split <;> rfl

theorem TimersOwned.addCalls (h : w.TimersOwned) (calls : List Call) :
    (w.addCalls calls).TimersOwned :=
  h.of_sameTimer (fun _ _ hentry => Action.addCalls_sameTimer calls hentry)

/-- The id of a timer that is in use is not handed out again. -/
theorem UsableIds.not_new {newId : Nat → Nat} (hids : w.UsableIds w.action.actionIdList newId)
    {t : Nat} (hknown : t ∈ w.timers.created) (hne : t ≠ 0) {id : Nat}
    {entry : PolicyDelayAction} (hstarted : w.Started id entry) : t ≠ newId id := by
  rintro rfl
  rw [Std.ExtTreeMap.mem_iff_isSome_getElem?,
    (hids.unused id hstarted.2.1).resolve_left hne] at hknown
  cases hknown

theorem UsableIds.created_of_known {newId : Nat → Nat}
    (hids : w.UsableIds w.action.actionIdList newId) {t : Nat} (hknown : t ∈ w.timers.created) :
    (w.execute newId).timers.created[t]? = w.timers.created[t]? := by
  rcases w.execute_created newId t with ⟨hne, id, entry, hstarted, heq, -⟩ | ⟨-, hsame⟩
  · exact absurd heq (hids.not_new hknown hne hstarted)
  · exact hsame

theorem UsableIds.running_of_known {newId : Nat → Nat}
    (hids : w.UsableIds w.action.actionIdList newId) {t : Nat} (hknown : t ∈ w.timers.created)
    (ht : t ∈ (w.execute newId).timers.running) :
    t ∈ w.timers.running ∧ ∀ id entry, w.Dropped id entry → t ≠ entry.delayTimerId := by
  rcases w.mem_execute_running.mp ht with hbefore | ⟨hne, id, entry, hstarted, heq⟩
  · exact hbefore
  · exact absurd heq (hids.not_new hknown hne hstarted)

theorem TimersOwned.execute (h : w.TimersOwned) {newId : Nat → Nat}
    (hids : w.UsableIds w.action.actionIdList newId) : (w.execute newId).TimersOwned := by
  intro t ht
  rcases w.mem_execute_running.mp ht with ⟨hbefore, hkept⟩ | ⟨hne, id, entry, hstarted, rfl⟩
  · obtain ⟨hne, id, entry, hentry, hpending, rfl, delayTime, hcreated⟩ := h t hbefore
    have hid : id ∈ w.action.actionIdList := by
      by_contra hid
      exact hkept id entry ⟨hentry, hid, hpending⟩ rfl
    have hsettled : entry.started (newId id) = entry := by
      rw [started, if_neg]
      rw [needsTimer_iff]
      exact fun hneeds => hne hneeds.2
    refine ⟨hne, id, entry, ?_, hpending, rfl, delayTime, ?_⟩
    · rw [execute_entry, if_pos hid, hentry, Option.map_some, hsettled]
    · have hknown : entry.delayTimerId ∈ w.timers.created :=
        Std.ExtTreeMap.mem_iff_isSome_getElem?.mpr (Option.isSome_of_eq_some hcreated)
      exact (hids.created_of_known hknown).trans hcreated
  · refine ⟨hne, id, entry.started (newId id), ?_, ?_, ?_, ?_⟩
    · rw [execute_entry, if_pos hstarted.2.1, hstarted.1, Option.map_some]
    · rw [started_isCompleted]
      exact (needsTimer_iff.mp hstarted.2.2).1
    · rw [started_delayTimerId, if_pos hstarted.2.2]
    · rcases w.execute_created newId (newId id) with
        ⟨-, id', entry', hstarted', heq, hcreated⟩ | ⟨hnot, -⟩
      · obtain rfl := hids.injective id hstarted.2.1 id' hstarted'.2.1 heq hne
        exact ⟨entry'.delayTime, hcreated⟩
      · exact absurd (hnot id entry hstarted rfl) hne

theorem TimersOwned.round (h : w.TimersOwned) (hidle : w.action.actionIdList = [])
    {calls : List Call} {newId : Nat → Nat} (hids : w.UsableIds (requestedIds calls) newId) :
    (w.round calls newId).TimersOwned := by
  refine (h.addCalls calls).execute ⟨fun id hid => ?_, fun id hid id' hid' => ?_⟩
  · exact hids.unused id ((mem_addCalls_requested hidle).mp hid)
  · exact hids.injective id ((mem_addCalls_requested hidle).mp hid) id'
      ((mem_addCalls_requested hidle).mp hid')

theorem TimersOwned.fire_eq (h : w.TimersOwned) {timerId : Nat}
    (hrunning : timerId ∈ w.timers.running) :
    ∃ id entry, w.Owns id entry timerId ∧
      w.timerCallback timerId = w.complete timerId id entry := by
  obtain ⟨-, id, entry, howns⟩ := h timerId hrunning
  obtain ⟨delayTime, hcreated⟩ := howns.2.2.2
  exact ⟨id, entry, howns, timerCallback_eq hcreated howns.1⟩

theorem TimersOwned.fire (h : w.TimersOwned) {timerId : Nat}
    (hrunning : timerId ∈ w.timers.running) : (w.timerCallback timerId).TimersOwned := by
  obtain ⟨id, entry, howns, hstep⟩ := h.fire_eq hrunning
  rw [hstep]
  intro t ht
  obtain ⟨ht, hne⟩ := mem_complete_running.mp ht
  obtain ⟨hzero, id', entry', hentry', hpending', htimer', hcreated'⟩ := h t ht
  have hid : id ≠ id' := by
    intro heq
    subst heq
    obtain rfl := Option.some.inj (howns.1.symm.trans hentry')
    exact hne htimer'.symm
  exact ⟨hzero, id', entry', (complete_entry_of_ne hid).trans hentry', hpending', htimer',
    hcreated'⟩

theorem TimersOwned.callStep (h : w.TimersOwned) {e : CallEvent} (hok : w.TimersBehave e) :
    (w.callStep e).TimersOwned := by
  cases e with
  | addActionValue actionId value => exact h.addActionValue actionId value
  | addActionDelayTime actionId fresh => exact h.addActionDelayTime actionId fresh
  | execute newId => exact h.execute hok
  | fire timerId => exact h.fire hok

end TimedAction

end ThermalManager
