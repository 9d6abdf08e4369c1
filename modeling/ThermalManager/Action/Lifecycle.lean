import ThermalManager.Action.ActionSpec
import ThermalManager.Lib.Run

/-!
# The life of a delayed entry

A run of an action is a sequence of policy rounds and timer callbacks. When fresh entries are
inserted clean and the time service hands out fresh ids, the running timers of the action are in
step with its pending entries: every pending entry has one timer of its own, and every timer
belongs to one pending entry.
-/

namespace ThermalManager

open StepSystem PolicyDelayAction

/-- What happens to an action: a policy round, or the callback of a timer. -/
inductive RoundEvent where
  | round (calls : List Call) (newId : Nat → Nat)
  | fire (timerId : Nat)

/-- A delayed entry is inserted under a positive id, not completed and without a timer. -/
def Call.Clean : Call → Prop
  | .immediate _ => True
  | .delayed actionId fresh _ =>
      0 < actionId ∧ fresh.isCompleted = false ∧ fresh.delayTimerId = 0

instance : DecidablePred Call.Clean
  | .immediate _ => inferInstanceAs (Decidable True)
  | .delayed actionId fresh _ => inferInstanceAs (Decidable
      (0 < actionId ∧ fresh.isCompleted = false ∧ fresh.delayTimerId = 0))

namespace TimedAction

def step (w : TimedAction) : RoundEvent → TimedAction
  | .round calls newId => w.round calls newId
  | .fire timerId => w.timerCallback timerId

/-- The ids handed out for the requested entries are not zero, not in use and pairwise distinct. -/
structure FreshIds (w : TimedAction) (calls : List Call) (newId : Nat → Nat) : Prop where
  ne_zero : ∀ id ∈ requestedIds calls, newId id ≠ 0
  unused : ∀ id ∈ requestedIds calls, w.timers.created[newId id]? = none
  injective : ∀ id ∈ requestedIds calls, ∀ id' ∈ requestedIds calls, newId id = newId id' → id = id'

/-- Entries are inserted clean under positive ids, timer ids are fresh, and only a running timer
calls back. -/
def CleanStep (w : TimedAction) : RoundEvent → Prop
  | .round calls newId => (∀ call ∈ calls, call.Clean) ∧ w.FreshIds calls newId
  | .fire timerId => timerId ∈ w.timers.running

instance (w : TimedAction) (timerId : Nat) : Decidable (w.CleanStep (.fire timerId)) :=
  inferInstanceAs (Decidable (timerId ∈ w.timers.running))

/-- Entries and timers are in step. -/
structure Lifecycle (w : TimedAction) : Prop where
  idle : w.action.actionIdList = []
  owner : ∀ (id : Nat) (entry : PolicyDelayAction), w.action.policyActionMap[id]? = some entry →
    entry.delayTimerId ≠ 0 ∧
      w.timers.created[entry.delayTimerId]? = some ⟨id, entry.delayTime⟩
  pending : ∀ (id : Nat) (entry : PolicyDelayAction), w.action.policyActionMap[id]? = some entry →
    entry.isCompleted = false → entry.delayTimerId ∈ w.timers.running
  running : ∀ t ∈ w.timers.running, ∃ (id : Nat) (entry : PolicyDelayAction),
    w.action.policyActionMap[id]? = some entry ∧ entry.isCompleted = false ∧
      entry.delayTimerId = t
  completed : ∀ (id : Nat) (entry : PolicyDelayAction), w.action.policyActionMap[id]? = some entry →
    entry.isCompleted = true → entry.delayTimerId ∈ w.timers.fired

theorem Lifecycle.init (cls : ActionClass) (isStrict : Bool) : (init cls isStrict).Lifecycle where
  idle := rfl
  owner := by simp [TimedAction.init]
  pending := by simp [TimedAction.init]
  running := by simp [TimedAction.init]
  completed := by simp [TimedAction.init]

variable {w : TimedAction} {calls : List Call} {newId : Nat → Nat}

theorem Lifecycle.id_eq (h : w.Lifecycle) {id id' : Nat} {entry entry' : PolicyDelayAction}
    (hentry : w.action.policyActionMap[id]? = some entry)
    (hentry' : w.action.policyActionMap[id']? = some entry')
    (htimer : entry.delayTimerId = entry'.delayTimerId) : id = id' := by
  have howner := (h.owner id entry hentry).2
  rw [htimer, (h.owner id' entry' hentry').2] at howner
  exact (congrArg ThermalTimerInfo.actionId (Option.some.inj howner)).symm

/-! ### A round -/

theorem Lifecycle.kept (h : w.Lifecycle) (newId : Nat → Nat) {id : Nat}
    (hid : id ∈ requestedIds calls) {entry : PolicyDelayAction}
    (hentry : w.action.policyActionMap[id]? = some entry) :
    ∃ entry', (w.round calls newId).action.policyActionMap[id]? = some entry' ∧
      SameTimer entry entry' := by
  obtain ⟨entry', hentry', hsame⟩ := round_entry_kept h.idle newId hid hentry
  have hstarted : entry.started (newId id) = entry := by
    rw [started, if_neg]
    rw [needsTimer_iff]
    exact fun hneeds => (h.owner id entry hentry).1 hneeds.2
  rw [hstarted] at hsame
  exact ⟨entry', hentry', hsame⟩

theorem Lifecycle.running_of_kept (h : w.Lifecycle) {id : Nat} (hid : id ∈ requestedIds calls)
    {entry : PolicyDelayAction} (hentry : w.action.policyActionMap[id]? = some entry)
    (hrunning : entry.delayTimerId ∈ w.timers.running) :
    entry.delayTimerId ∈ (w.round calls newId).timers.running := by
  refine (w.addCalls calls).mem_execute_running.mpr (Or.inl ⟨hrunning, ?_⟩)
  intro id' entry' hdropped heq
  obtain ⟨hentry', hid', -⟩ := (dropped_addCalls_iff h.idle).mp hdropped
  exact hid' (h.id_eq hentry hentry' heq ▸ hid)

/-- Every timer running after the round belongs to a pending entry. -/
theorem Lifecycle.exists_pending (h : w.Lifecycle) {t : Nat}
    (hrunning : t ∈ (w.round calls newId).timers.running) :
    ∃ (id : Nat) (entry : PolicyDelayAction),
      (w.round calls newId).action.policyActionMap[id]? = some entry ∧
        entry.isCompleted = false ∧ entry.delayTimerId = t := by
  rcases (w.addCalls calls).mem_execute_running.mp hrunning with
    ⟨hbefore, hkept⟩ | ⟨-, id, entry, hstarted, rfl⟩
  · obtain ⟨id, entry, hentry, hpending, rfl⟩ := h.running t hbefore
    have hid : id ∈ requestedIds calls := by
      by_contra hid
      exact hkept id entry ((dropped_addCalls_iff h.idle).mpr ⟨hentry, hid, hpending⟩) rfl
    obtain ⟨entry', hentry', hsame⟩ := h.kept newId hid hentry
    exact ⟨id, entry', hentry', hsame.isCompleted.trans hpending, hsame.delayTimerId⟩
  · obtain ⟨-, hentry', hpending⟩ := started_addCalls h.idle newId hstarted
    exact ⟨id, _, hentry', hpending, rfl⟩

section Round

variable (h : w.Lifecycle) (hok : w.CleanStep (.round calls newId))
include h hok

theorem Lifecycle.exists_started {id : Nat} (hid : id ∈ requestedIds calls)
    (hnone : w.action.policyActionMap[id]? = none) :
    ∃ entry, (w.addCalls calls).Started id entry := by
  obtain ⟨fresh, value, entry, hmem, hentry, hsame⟩ := Action.addCalls_fresh calls hnone hid
  obtain ⟨-, hpending, htimer⟩ := hok.1 _ hmem
  refine ⟨entry, hentry, (mem_addCalls_requested h.idle).mpr hid, needsTimer_iff.mpr ⟨?_, ?_⟩⟩
  · rw [hsame.isCompleted, hpending]
  · rw [hsame.delayTimerId, htimer]

theorem Lifecycle.not_mem_of_started {id : Nat} {entry : PolicyDelayAction}
    (hstarted : (w.addCalls calls).Started id entry) : w.action.policyActionMap[id]? = none := by
  obtain ⟨hid, hentry', -⟩ := started_addCalls h.idle newId hstarted
  cases hentry : w.action.policyActionMap[id]? with
  | none => rfl
  | some old =>
    obtain ⟨entry', hkept, hsame⟩ := h.kept newId hid hentry
    rw [hentry'] at hkept
    cases hkept
    exfalso
    have hknown := (h.owner id old hentry).2
    rw [← hsame.delayTimerId] at hknown
    dsimp only at hknown
    rw [hok.2.unused id hid] at hknown
    cases hknown

theorem Lifecycle.created_of_known {t : Nat} {info : ThermalTimerInfo}
    (hknown : w.timers.created[t]? = some info) :
    (w.round calls newId).timers.created[t]? = some info := by
  rcases (w.addCalls calls).execute_created newId t with
    ⟨-, id, entry, hstarted, rfl, -⟩ | ⟨-, hcreated⟩
  · have hid := (started_addCalls h.idle newId hstarted).1
    rw [hok.2.unused id hid] at hknown
    cases hknown
  · exact hcreated.trans hknown

theorem Lifecycle.fresh {id : Nat} (hid : id ∈ requestedIds calls)
    (hnone : w.action.policyActionMap[id]? = none) :
    ∃ entry', (w.round calls newId).action.policyActionMap[id]? = some entry' ∧
      entry'.isCompleted = false ∧ entry'.delayTimerId = newId id ∧
      (w.round calls newId).timers.created[newId id]? = some ⟨id, entry'.delayTime⟩ ∧
      newId id ∈ (w.round calls newId).timers.running := by
  obtain ⟨entry, hstarted⟩ := h.exists_started hok hid hnone
  obtain ⟨-, hentry', hpending⟩ := started_addCalls h.idle newId hstarted
  have hne := hok.2.ne_zero id hid
  refine ⟨_, hentry', hpending, rfl, ?_, ?_⟩
  · rcases (w.addCalls calls).execute_created newId (newId id) with
      ⟨-, id', entry', hstarted', heq, hcreated⟩ | ⟨hnot, -⟩
    · have hid' := (started_addCalls h.idle newId hstarted').1
      obtain rfl := hok.2.injective id hid id' hid' heq
      obtain rfl := Option.some.inj (hstarted.1.symm.trans hstarted'.1)
      exact hcreated
    · exact absurd (hnot id entry hstarted rfl) hne
  · exact (w.addCalls calls).mem_execute_running.mpr (Or.inr ⟨hne, id, entry, hstarted, rfl⟩)

/-- An entry after the round is one that was there, or it starts with a timer of its own. -/
theorem Lifecycle.round_cases {id : Nat} {entry' : PolicyDelayAction}
    (hentry' : (w.round calls newId).action.policyActionMap[id]? = some entry') :
    (∃ entry, w.action.policyActionMap[id]? = some entry ∧ id ∈ requestedIds calls ∧
      SameTimer entry entry') ∨
    (entry'.isCompleted = false ∧ entry'.delayTimerId ≠ 0 ∧
      (w.round calls newId).timers.created[entry'.delayTimerId]? = some ⟨id, entry'.delayTime⟩ ∧
      entry'.delayTimerId ∈ (w.round calls newId).timers.running) := by
  have hid := requested_of_round_entry h.idle hentry'
  cases hentry : w.action.policyActionMap[id]? with
  | none =>
    obtain ⟨fresh, hfresh, hpending, htimer, hcreated, hrunning⟩ := h.fresh hok hid hentry
    obtain rfl := Option.some.inj (hentry'.symm.trans hfresh)
    rw [htimer]
    exact Or.inr ⟨hpending, hok.2.ne_zero id hid, hcreated, hrunning⟩
  | some entry =>
    obtain ⟨kept, hkept, hsame⟩ := h.kept newId hid hentry
    obtain rfl := Option.some.inj (hentry'.symm.trans hkept)
    exact Or.inl ⟨entry, rfl, hid, hsame⟩

theorem Lifecycle.round : (w.round calls newId).Lifecycle where
  idle := execute_actionIdList _
  owner := by
    intro id entry' hentry'
    rcases h.round_cases hok hentry' with
      ⟨entry, hentry, -, hsame⟩ | ⟨-, hne, hcreated, -⟩
    · obtain ⟨hne, hknown⟩ := h.owner id entry hentry
      rw [hsame.delayTimerId, hsame.delayTime]
      exact ⟨hne, h.created_of_known hok hknown⟩
    · exact ⟨hne, hcreated⟩
  pending := by
    intro id entry' hentry' hpending
    rcases h.round_cases hok hentry' with
      ⟨entry, hentry, hid, hsame⟩ | ⟨-, -, -, hrunning⟩
    · have hbefore := h.pending id entry hentry (hsame.isCompleted.symm.trans hpending)
      rw [hsame.delayTimerId]
      exact h.running_of_kept hid hentry hbefore
    · exact hrunning
  running := fun _ hrunning => h.exists_pending hrunning
  completed := by
    intro id entry' hentry' hcompleted
    rw [round_fired]
    rcases h.round_cases hok hentry' with ⟨entry, hentry, -, hsame⟩ | ⟨hpending, -⟩
    · rw [hsame.delayTimerId]
      exact h.completed id entry hentry (hsame.isCompleted.symm.trans hcompleted)
    · rw [hpending] at hcompleted
      cases hcompleted

end Round

/-! ### A callback -/

theorem Lifecycle.fire_eq (h : w.Lifecycle) {timerId : Nat}
    (hrunning : timerId ∈ w.timers.running) :
    ∃ (id : Nat) (entry : PolicyDelayAction),
      w.action.policyActionMap[id]? = some entry ∧ entry.isCompleted = false ∧
        entry.delayTimerId = timerId ∧ w.timerCallback timerId = w.complete timerId id entry := by
  obtain ⟨id, entry, hentry, hpending, rfl⟩ := h.running timerId hrunning
  exact ⟨id, entry, hentry, hpending, rfl, timerCallback_eq (h.owner id entry hentry).2 hentry⟩

theorem Lifecycle.fire (h : w.Lifecycle) {timerId : Nat} (hrunning : timerId ∈ w.timers.running) :
    (w.timerCallback timerId).Lifecycle := by
  obtain ⟨id, entry, hentry, hpending, rfl, hstep⟩ := h.fire_eq hrunning
  rw [hstep]
  refine {
    idle := complete_actionIdList.trans h.idle
    owner := ?owner
    pending := ?pending
    running := ?running
    completed := ?completed }
  case owner =>
    intro id' entry' hentry'
    rcases complete_entry_cases hentry' with ⟨rfl, rfl⟩ | ⟨-, hentry'⟩
    · exact h.owner id entry hentry
    · exact h.owner id' entry' hentry'
  case pending =>
    intro id' entry' hentry' hpending'
    rcases complete_entry_cases hentry' with ⟨-, rfl⟩ | ⟨hid, hentry'⟩
    · cases hpending'
    · apply mem_complete_running.mpr
      exact ⟨h.pending id' entry' hentry' hpending',
        fun heq => hid (h.id_eq hentry hentry' heq.symm)⟩
  case running =>
    intro t ht
    obtain ⟨ht, hne⟩ := mem_complete_running.mp ht
    obtain ⟨id', entry', hentry', hpending', rfl⟩ := h.running t ht
    have hid : id ≠ id' := by
      intro heq
      subst heq
      rw [hentry] at hentry'
      exact hne (congrArg delayTimerId (Option.some.inj hentry').symm)
    exact ⟨id', entry', (complete_entry_of_ne hid).trans hentry', hpending', rfl⟩
  case completed =>
    intro id' entry' hentry' hcompleted
    rcases complete_entry_cases hentry' with ⟨-, rfl⟩ | ⟨-, hentry'⟩
    · exact List.mem_cons_self
    · exact List.mem_cons_of_mem _ (h.completed id' entry' hentry' hcompleted)

/-! ### Runs -/

theorem Lifecycle.step (h : w.Lifecycle) {e : RoundEvent} (hok : w.CleanStep e) :
    (w.step e).Lifecycle := by
  cases e with
  | round calls newId => exact h.round hok
  | fire timerId => exact h.fire hok

theorem Lifecycle.of_run {cls : ActionClass} {isStrict : Bool} {events : List RoundEvent}
    (hrun : Run CleanStep TimedAction.step (TimedAction.init cls isStrict) events w) :
    w.Lifecycle :=
  hrun.invariant Lifecycle (.init cls isStrict) (fun _ _ h hok => h.step hok)

theorem Lifecycle.known_of_created (h : w.Lifecycle) {id t : Nat} {entry : PolicyDelayAction}
    {info : ThermalTimerInfo} (hentry : w.action.policyActionMap[id]? = some entry)
    (hcreated : (w.round calls newId).timers.created[t]? = some info) (hid : info.actionId = id)
    (hok : w.CleanStep (.round calls newId)) : w.timers.created[t]? = some info := by
  rcases (w.addCalls calls).execute_created newId t with
    ⟨-, id', entry', hstarted, -, hnew⟩ | ⟨-, hsame⟩
  · obtain rfl := Option.some.inj (hcreated.symm.trans hnew)
    subst hid
    rw [h.not_mem_of_started hok hstarted] at hentry
    cases hentry
  · exact hsame.symm.trans hcreated

/-- What holds of the entries and timers once a round has been executed. -/
structure AfterExecute (w : TimedAction) (calls : List Call) (newId : Nat → Nat) : Prop where
  /-- The entries are those requested in the round. -/
  keys : ∀ id : Nat,
    id ∈ (w.round calls newId).action.policyActionMap ↔ id ∈ requestedIds calls
  /-- The running timers are those of the pending entries. -/
  running : ∀ t, t ∈ (w.round calls newId).timers.running ↔
    ∃ (id : Nat) (entry : PolicyDelayAction),
      (w.round calls newId).action.policyActionMap[id]? = some entry ∧
        entry.isCompleted = false ∧ entry.delayTimerId = t
  /-- No two entries share a timer. -/
  distinct : ∀ (id id' : Nat) (entry entry' : PolicyDelayAction),
    (w.round calls newId).action.policyActionMap[id]? = some entry →
    (w.round calls newId).action.policyActionMap[id']? = some entry' →
    entry.delayTimerId = entry'.delayTimerId → id = id'
  /-- An entry that stays requested keeps its timer and no other is created for it. -/
  kept : ∀ (id : Nat) (entry : PolicyDelayAction), id ∈ requestedIds calls →
    w.action.policyActionMap[id]? = some entry →
    (∃ entry', (w.round calls newId).action.policyActionMap[id]? = some entry' ∧
      SameTimer entry entry') ∧
    ∀ (t : Nat) (info : ThermalTimerInfo),
      (w.round calls newId).timers.created[t]? = some info → info.actionId = id →
        w.timers.created[t]? = some info
  /-- An entry that was not there starts pending with a timer never used before. -/
  fresh : ∀ id : Nat, id ∈ requestedIds calls → w.action.policyActionMap[id]? = none →
    ∃ entry', (w.round calls newId).action.policyActionMap[id]? = some entry' ∧
      entry'.isCompleted = false ∧ w.timers.created[entry'.delayTimerId]? = none ∧
      (w.round calls newId).timers.created[entry'.delayTimerId]? = some ⟨id, entry'.delayTime⟩
  /-- The own timer of a completed entry has fired. -/
  completed : ∀ (id : Nat) (entry : PolicyDelayAction),
    (w.round calls newId).action.policyActionMap[id]? = some entry → entry.isCompleted = true →
    entry.delayTimerId ∈ (w.round calls newId).timers.fired ∧
      (w.round calls newId).timers.created[entry.delayTimerId]? = some ⟨id, entry.delayTime⟩

/-- **The life of delayed entries.** Entries and timers are in step after the `Execute` that ends
any run of rounds and callbacks. -/
theorem lifecycle_after_execute {cls : ActionClass} {isStrict : Bool} {events : List RoundEvent}
    (hrun : Run CleanStep TimedAction.step (TimedAction.init cls isStrict) events w)
    (hok : w.CleanStep (.round calls newId)) : w.AfterExecute calls newId := by
  have h := Lifecycle.of_run hrun
  have hafter := h.round hok
  refine {
    keys := ?keys
    running := ?running
    distinct := fun id id' entry entry' => hafter.id_eq
    kept := fun id entry hid hentry => ⟨h.kept newId hid hentry,
      fun t info hcreated hinfo => h.known_of_created hentry hcreated hinfo hok⟩
    fresh := ?fresh
    completed := fun id entry hentry hcompleted =>
      ⟨hafter.completed id entry hentry hcompleted, (hafter.owner id entry hentry).2⟩ }
  case keys =>
    intro id
    rw [Std.ExtTreeMap.mem_iff_isSome_getElem?, Option.isSome_iff_exists]
    refine ⟨fun ⟨entry, hentry⟩ => requested_of_round_entry h.idle hentry, fun hid => ?_⟩
    cases hentry : w.action.policyActionMap[id]? with
    | none =>
      obtain ⟨entry', hentry', -⟩ := h.fresh hok hid hentry
      exact ⟨entry', hentry'⟩
    | some entry =>
      obtain ⟨entry', hentry', -⟩ := h.kept newId hid hentry
      exact ⟨entry', hentry'⟩
  case running =>
    intro t
    refine ⟨hafter.running t, fun hpending => ?_⟩
    obtain ⟨id, entry, hentry, hpending, rfl⟩ := hpending
    exact hafter.pending id entry hentry hpending
  case fresh =>
    intro id hid hnone
    obtain ⟨entry', hentry', hpending, htimer, hcreated, -⟩ := h.fresh hok hid hnone
    refine ⟨entry', hentry', hpending, ?_, ?_⟩
    · rw [htimer]
      exact hok.2.unused id hid
    · rw [htimer]
      exact hcreated

/-- A fresh entry with a delay of three seconds, as a value-initialised struct would be. -/
def cleanEntry : PolicyDelayAction := ⟨false, 0, 0, 3000, 0⟩

/-- One entry requested, its timer fired, then requested again together with a second one. -/
def firedOnce : TimedAction :=
  ((TimedAction.init actionCharger true).step
    (.round [.immediate "2000", .delayed 1 cleanEntry "1000"] (fun _ => 7))).step (.fire 7)

theorem firedOnce_after_execute :
    firedOnce.AfterExecute [.delayed 1 cleanEntry "1000", .delayed 2 cleanEntry "500"]
      (fun id => 10 + id) := by
  have hfirst : (TimedAction.init actionCharger true).CleanStep
      (.round [.immediate "2000", .delayed 1 cleanEntry "1000"] (fun _ => 7)) :=
    ⟨by decide, by decide, by decide, by decide⟩
  have hsecond : firedOnce.CleanStep
      (.round [.delayed 1 cleanEntry "1000", .delayed 2 cleanEntry "500"] (fun id => 10 + id)) :=
    ⟨by decide, by decide, by decide +kernel, by decide⟩
  exact lifecycle_after_execute (.snoc (.snoc (.nil _) hfirst) (by decide +kernel)) hsecond

end TimedAction

end ThermalManager
