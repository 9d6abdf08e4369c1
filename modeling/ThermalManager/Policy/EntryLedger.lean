import ThermalManager.Policy.Decision
import ThermalManager.Action.TimerOwner
import Mathlib.Logic.Function.Basic

/-!
# Where values and timers come from

A policy entry with a `delaytime` property is handed to its action under the id it names. A ledger
beside the action records which entry every id, every timer and every value comes from. It is right
about the values: what an action decides over are the values of the entries in the ledger, those
apart that an id held before any entry wrote it. A policy round is such a sequence of steps.
-/

namespace ThermalManager

open StepSystem PolicyDelayAction Extremum

/-! ### Entries -/

namespace PolicyAction

/-- The two fields of the delay of an entry; nothing when the entry is not delayed or is skipped. -/
def delayFields (action : PolicyAction) : Option (String × String) :=
  match action.isProp, action.actionPropMap["delaytime"]? with
  | true, some delayTime =>
      match splitString delayTime ',' with
      | some [idField, delayField] => some (idField, delayField)
      | _ => none
  | _, _ => none

/-- The delay that the entry asks for. -/
def givenDelay (action : PolicyAction) : Option Nat :=
  action.delayFields.bind fun fields => decimalValue fields.2

end PolicyAction

theorem PolicyAction.delayFields_eq_some {action : PolicyAction} {idField delayField : String}
    (hfields : action.delayFields = some (idField, delayField)) :
    ∃ delayTime, action.isProp = true ∧ action.actionPropMap["delaytime"]? = some delayTime ∧
      splitString delayTime ',' = some [idField, delayField] := by
  rw [delayFields] at hfields
  cases hprop : action.isProp with
  | false =>
    rw [hprop] at hfields
    cases hfields
  | true =>
    cases hdelay : action.actionPropMap["delaytime"]? with
    | none =>
      rw [hprop, hdelay] at hfields
      cases hfields
    | some delayTime =>
      rw [hprop, hdelay] at hfields
      refine ⟨delayTime, rfl, rfl, ?_⟩
      dsimp only at hfields
      rcases hsplit : splitString delayTime ',' with _ | _ | ⟨first, _ | ⟨second, _ | _⟩⟩
      all_goals
        rw [hsplit] at hfields
        cases hfields
      rfl

theorem policyCall_of_delayed {action : PolicyAction} {idField delayField : String}
    (hfields : action.delayFields = some (idField, delayField)) (uninit : PolicyDelayAction) :
    policyCall uninit action = some (some (.delayed ((strToUint idField).getD 0)
      { uninit with delayTime := (strToUint delayField).getD uninit.delayTime }
      action.actionValue)) := by
  obtain ⟨delayTime, hprop, hdelay, hsplit⟩ := action.delayFields_eq_some hfields
  rw [policyCall, hprop, hdelay]
  dsimp only
  rw [hsplit]

theorem policyCall_of_not_delayed {action : PolicyAction} (hfields : action.delayFields = none)
    {uninit : PolicyDelayAction} {call : Call}
    (hcall : policyCall uninit action = some (some call)) :
    call = .immediate action.actionValue := by
  rw [PolicyAction.delayFields] at hfields
  rw [policyCall] at hcall
  split at hcall
  · rename_i delayTime hprop hdelay
    rw [hprop, hdelay] at hfields
    dsimp only at hfields
    split at hcall
    · cases hcall
    · rename_i hsplit
      rw [hsplit] at hfields
      cases hfields
    · cases hcall
  · cases hcall
    rfl

/-! ### The ledger -/

/-- A round as its single steps, between which a timer may call back. -/
inductive EntryEvent (κ : Type) where
  | hand (key : κ) (uninit : PolicyDelayAction)
  | execute (newId : Nat → Nat)
  | fire (timerId : Nat)

/-- Where the values and the timers of an action come from. -/
structure EntryLedger (κ : Type) where
  /-- The entries handed over since the last `Execute`. -/
  present : List κ := []
  /-- The entries whose values are in the list. -/
  listed : List κ := []
  /-- The entry under which an id was inserted. -/
  owner : Nat → Option κ := fun _ => none
  /-- The entry that wrote the value of an id last. -/
  writer : Nat → Option κ := fun _ => none
  /-- The entry a timer was created for. -/
  createdFor : Nat → Option κ := fun _ => none
  /-- The entries with a timer, created for them with the delay they give, that has fired since
  they were last absent from a round. -/
  matured : List κ := []
  /-- The entries whose values went into the last decision. -/
  applied : List κ := []

/-- The entries that wrote the values of the completed ids. -/
def Action.completedWriters {κ : Type} (a : Action) (writer : Nat → Option κ) : List κ :=
  (a.policyActionMap.toList.filter fun policyAction => policyAction.2.isCompleted).filterMap
    fun policyAction => writer policyAction.1

namespace EntryLedger

variable {κ : Type} (entryOf : κ → PolicyAction)

def hand (ledger : EntryLedger κ) (cls : ActionClass) (key : κ) : Call → EntryLedger κ
  | .immediate value =>
      { ledger with
        present := key :: ledger.present
        listed := ledger.listed ++ (cls.parse value).toList.map fun _ => key }
  | .delayed actionId _ value =>
      { ledger with
        present := key :: ledger.present
        owner := Function.update ledger.owner actionId (some ((ledger.owner actionId).getD key))
        listed := ledger.listed ++
          if actionId = 0 then (cls.parse value).toList.map fun _ => key else []
        writer := if 0 < actionId ∧ (cls.parse value).isSome then
            Function.update ledger.writer actionId (some key)
          else ledger.writer }

/-- The ids that are still requested. -/
def kept (w : TimedAction) (of : Nat → Option κ) (actionId : Nat) : Option κ :=
  if actionId ∈ w.action.actionIdList then of actionId else none

/-- A timer that was not known before was created for the entry of its id. -/
def execute [DecidableEq κ] (ledger : EntryLedger κ) (w : TimedAction) (newId : Nat → Nat) :
    EntryLedger κ where
  owner := kept w ledger.owner
  writer := kept w ledger.writer
  createdFor timerId :=
    if timerId ∈ w.timers.created then ledger.createdFor timerId
    else ((w.execute newId).timers.created[timerId]?).bind fun info =>
      kept w ledger.owner info.actionId
  matured := ledger.matured.filter fun key => decide (key ∈ ledger.present)
  applied := ledger.listed ++ (w.execute newId).action.completedWriters (kept w ledger.writer)

/-- The entry that has matured with the timer. -/
def ripened (ledger : EntryLedger κ) (w : TimedAction) (timerId : Nat) : List κ :=
  match ledger.createdFor timerId, w.timers.created[timerId]? with
  | some key, some info => if (entryOf key).givenDelay = some info.delayTime then [key] else []
  | _, _ => []

def fire (ledger : EntryLedger κ) (w : TimedAction) (timerId : Nat) : EntryLedger κ :=
  { ledger with
    listed := []
    matured := ledger.ripened entryOf w timerId ++ ledger.matured
    applied := ledger.listed ++ (w.timerCallback timerId).action.completedWriters ledger.writer }

end EntryLedger

section Steps

variable {κ : Type} (entryOf : κ → PolicyAction)

/-- An action beside its ledger. -/
def entryStep [DecidableEq κ] (s : TimedAction × EntryLedger κ) :
    EntryEvent κ → TimedAction × EntryLedger κ
  | .hand key uninit =>
      match policyCall uninit (entryOf key) with
      | some (some call) => (s.1.addCalls [call], s.2.hand s.1.action.cls key call)
      | _ => s
  | .execute newId => (s.1.execute newId, s.2.execute s.1 newId)
  | .fire timerId => (s.1.timerCallback timerId, s.2.fire entryOf s.1 timerId)

/-- The call for the entry returns and the time service behaves. -/
def EntryReturns (s : TimedAction × EntryLedger κ) : EntryEvent κ → Prop
  | .hand key uninit => (policyCall uninit (entryOf key)).isSome
  | .execute newId => s.1.UsableIds s.1.action.actionIdList newId
  | .fire timerId => timerId ∈ s.1.timers.running

instance (s : TimedAction × EntryLedger κ) :
    (e : EntryEvent κ) → Decidable (EntryReturns entryOf s e)
  | .hand key uninit => inferInstanceAs (Decidable ((policyCall uninit (entryOf key)).isSome))
  | .execute newId => inferInstanceAs (Decidable (s.1.UsableIds s.1.action.actionIdList newId))
  | .fire timerId => inferInstanceAs (Decidable (timerId ∈ s.1.timers.running))

variable {entryOf} {w : TimedAction} {ledger : EntryLedger κ}

theorem mem_completedWriters {a : Action} {writer : Nat → Option κ} {key : κ} :
    key ∈ a.completedWriters writer ↔ ∃ (id : Nat) (entry : PolicyDelayAction),
      a.policyActionMap[id]? = some entry ∧ entry.isCompleted = true ∧ writer id = some key := by
  simp only [Action.completedWriters, List.mem_filterMap, List.mem_filter, Prod.exists,
    Std.ExtTreeMap.mem_toList_iff_getElem?_eq_some, and_assoc]

theorem kept_eq_some {of : Nat → Option κ} {id : Nat} {key : κ} :
    EntryLedger.kept w of id = some key ↔ id ∈ w.action.actionIdList ∧ of id = some key := by
  rw [EntryLedger.kept]
  split
  · rename_i hid
    exact (and_iff_right hid).symm
  · rename_i hid
    exact iff_of_false (by simp) fun hkey => hid hkey.1

/-! ### The ledger is right about values -/

theorem policyCall_value {action : PolicyAction} {uninit : PolicyDelayAction} {call : Call}
    (hcall : policyCall uninit action = some (some call)) :
    call = .immediate action.actionValue ∨
      ∃ actionId fresh, call = .delayed actionId fresh action.actionValue := by
  cases hfields : action.delayFields with
  | none => exact Or.inl (policyCall_of_not_delayed hfields hcall)
  | some fields =>
    rw [policyCall_of_delayed hfields] at hcall
    cases hcall
    exact Or.inr ⟨_, _, rfl⟩

/-- The list holds the values of the listed entries, and an id that was written that of its
writer. -/
structure Sourced (entryOf : κ → PolicyAction) (s : TimedAction × EntryLedger κ) : Prop where
  list : s.1.action.valueList =
    s.2.listed.filterMap fun key => s.1.action.cls.parse (entryOf key).actionValue
  slot : ∀ (id : Nat) (key : κ), s.2.writer id = some key → ∃ entry v,
    s.1.action.policyActionMap[id]? = some entry ∧
    s.1.action.cls.parse (entryOf key).actionValue = some v ∧
    entry.delayValue s.1.action.cls.slot = s.1.action.cls.stored v

theorem sourced_init (cls : ActionClass) (isStrict : Bool) :
    Sourced entryOf (TimedAction.init cls isStrict, {}) where
  list := rfl
  slot _ _ hwriter := by cases hwriter

theorem filterMap_listed {cls : ActionClass} {value : String} {key : κ}
    (hvalue : (entryOf key).actionValue = value) :
    ((cls.parse value).toList.map fun _ => key).filterMap
      (fun key => cls.parse (entryOf key).actionValue) = (cls.parse value).toList := by
  cases hparse : cls.parse value with
  | none => rfl
  | some v =>
    rw [← hvalue] at hparse
    simp [hparse]

theorem Sourced.hand_list (h : Sourced entryOf (w, ledger)) {key : κ} {call : Call}
    (hcall : call = .immediate (entryOf key).actionValue ∨
      ∃ actionId fresh, call = .delayed actionId fresh (entryOf key).actionValue) :
    (w.addCalls [call]).action.valueList =
      (ledger.hand w.action.cls key call).listed.filterMap fun key =>
        w.action.cls.parse (entryOf key).actionValue := by
  have hvalues : (w.addCalls [call]).action.valueList =
      w.action.valueList ++ Action.immediateValues w.action.cls [call] :=
    Action.addCall_valueList _ _
  obtain rfl | ⟨actionId, fresh, rfl⟩ := hcall
  · rw [hvalues, h.list, EntryLedger.hand, List.filterMap_append, filterMap_listed rfl]
    simp [Action.immediateValues]
  · rw [hvalues, h.list, EntryLedger.hand, List.filterMap_append]
    split
    · rename_i hzero
      rw [filterMap_listed rfl]
      simp [Action.immediateValues, hzero]
    · rename_i hzero
      simp [Action.immediateValues, hzero]

/-- The id of a delayed call holds the value of its writer, which is the call if the value can be
read. -/
theorem Sourced.hand_slot_self (h : Sourced entryOf (w, ledger)) {key key' : κ} {actionId : Nat}
    {fresh : PolicyDelayAction}
    (hwriter : (ledger.hand w.action.cls key
      (.delayed actionId fresh (entryOf key).actionValue)).writer actionId = some key') :
    ∃ entry v, (w.action.addCall
        (.delayed actionId fresh (entryOf key).actionValue)).policyActionMap[actionId]? =
        some entry ∧
      w.action.cls.parse (entryOf key').actionValue = some v ∧
      entry.delayValue w.action.cls.slot = w.action.cls.stored v := by
  rw [Action.addCall_entry]
  dsimp only
  rw [if_pos rfl]
  rw [EntryLedger.hand] at hwriter
  dsimp only at hwriter
  split at hwriter
  · rename_i hwrites
    rw [Function.update_self] at hwriter
    cases hwriter
    obtain ⟨v, hparse⟩ := Option.isSome_iff_exists.mp hwrites.2
    rw [if_pos hwrites.1, hparse]
    exact ⟨_, v, rfl, rfl, delayValue_setDelayValue _ _ _⟩
  · rename_i hwrites
    obtain ⟨entry, v, hentry, hslot⟩ := h.slot actionId key' hwriter
    refine ⟨entry, v, ?_, hslot⟩
    rw [hentry, Option.getD_some]
    split
    · rename_i hpos
      have hnone : w.action.cls.parse (entryOf key).actionValue = none := by
        rw [← Option.not_isSome_iff_eq_none]
        exact fun hsome => hwrites ⟨hpos, hsome⟩
      rw [hnone]
      rfl
    · rfl

theorem Sourced.hand (h : Sourced entryOf (w, ledger)) {key : κ} {call : Call}
    (hcall : call = .immediate (entryOf key).actionValue ∨
      ∃ actionId fresh, call = .delayed actionId fresh (entryOf key).actionValue) :
    Sourced entryOf (w.addCalls [call], ledger.hand w.action.cls key call) := by
  have hcls : (w.addCalls [call]).action.cls = w.action.cls := Action.addCall_cls _ _
  have hlookup : ∀ id : Nat, (w.addCalls [call]).action.policyActionMap[id]? =
      (w.action.addCall call).policyActionMap[id]? := fun _ => rfl
  refine ⟨hcls.symm ▸ h.hand_list hcall, fun id key' hwriter => ?_⟩
  rw [hlookup, hcls]
  obtain rfl | ⟨actionId, fresh, rfl⟩ := hcall
  · rw [Action.addCall_entry]
    exact h.slot id key' hwriter
  · by_cases hid : id = actionId
    · subst hid
      exact h.hand_slot_self hwriter
    · rw [Action.addCall_entry]
      dsimp only
      rw [if_neg hid]
      rw [EntryLedger.hand] at hwriter
      dsimp only at hwriter
      split at hwriter
      · rw [Function.update_of_ne hid] at hwriter
        exact h.slot id key' hwriter
      · exact h.slot id key' hwriter

theorem Sourced.execute [DecidableEq κ] (h : Sourced entryOf (w, ledger)) (newId : Nat → Nat) :
    Sourced entryOf (w.execute newId, ledger.execute w newId) := by
  refine ⟨rfl, fun id key hwriter => ?_⟩
  obtain ⟨hid, hwriter⟩ := kept_eq_some.mp hwriter
  obtain ⟨entry, v, hentry, hparse, hvalue⟩ := h.slot id key hwriter
  refine ⟨entry.started (newId id), v, ?_, ?_, ?_⟩
  · rw [TimedAction.execute_entry, if_pos hid, hentry, Option.map_some]
  · rw [TimedAction.execute_cls]
    exact hparse
  · rw [TimedAction.execute_cls, started_delayValue]
    exact hvalue

theorem Sourced.fire (h : Sourced entryOf (w, ledger)) (howned : w.TimersOwned) {timerId : Nat}
    (hrunning : timerId ∈ w.timers.running) :
    Sourced entryOf (w.timerCallback timerId, ledger.fire entryOf w timerId) := by
  obtain ⟨id, entry, ⟨hentry, -⟩, hstep⟩ := howned.fire_eq hrunning
  refine ⟨?_, fun id' key hwriter => ?_⟩
  · rw [hstep]
    rfl
  · obtain ⟨entry', v, hentry', hparse, hvalue⟩ := h.slot id' key hwriter
    obtain ⟨kept, hkept, hsame⟩ := TimedAction.complete_entry_kept hentry hentry'
    rw [hstep, TimedAction.complete_cls]
    exact ⟨kept, v, hkept, hparse, (hsame _).trans hvalue⟩

/-- The value is that of an applied entry, or one that a completed id held before any entry wrote
it. -/
def FromEntry (entryOf : κ → PolicyAction) (s : TimedAction × EntryLedger κ) (v : Int) : Prop :=
  (∃ key ∈ s.2.applied, ∃ u, s.1.action.cls.parse (entryOf key).actionValue = some u ∧
    (v = u ∨ v = s.1.action.cls.stored u)) ∨
  ∃ (id : Nat) (entry : PolicyDelayAction), s.1.action.policyActionMap[id]? = some entry ∧
    entry.isCompleted = true ∧ s.2.writer id = none ∧ entry.delayValue s.1.action.cls.slot = v

theorem Sourced.fromEntry {s : TimedAction × EntryLedger κ} (h : Sourced entryOf s)
    {listed : List κ} (happlied : s.2.applied = listed ++ s.1.action.completedWriters s.2.writer)
    {v : Int} (hv : v ∈ (listed.filterMap fun key =>
      s.1.action.cls.parse (entryOf key).actionValue) ++ s.1.action.completedValues) :
    FromEntry entryOf s v := by
  rcases List.mem_append.mp hv with hv | hv
  · obtain ⟨key, hkey, hparse⟩ := List.mem_filterMap.mp hv
    refine Or.inl ⟨key, ?_, v, hparse, Or.inl rfl⟩
    rw [happlied]
    exact List.mem_append_left _ hkey
  · obtain ⟨id, entry, hentry, hcompleted, hvalue⟩ := s.1.action.mem_completedValues.mp hv
    cases hwriter : s.2.writer id with
    | none => exact Or.inr ⟨id, entry, hentry, hcompleted, hwriter, hvalue⟩
    | some key =>
      obtain ⟨entry', u, hentry', hparse, hstored⟩ := h.slot id key hwriter
      obtain rfl := Option.some.inj (hentry.symm.trans hentry')
      refine Or.inl ⟨key, ?_, u, hparse, Or.inr (hvalue.symm.trans hstored)⟩
      rw [happlied]
      apply List.mem_append_right
      exact mem_completedWriters.mpr ⟨id, entry, hentry, hcompleted, hwriter⟩

theorem sourced_step [DecidableEq κ] {s : TimedAction × EntryLedger κ} {e : EntryEvent κ}
    (howned : s.1.TimersOwned) (h : Sourced entryOf s) (hok : EntryReturns entryOf s e) :
    (entryStep entryOf s e).1.TimersOwned ∧ Sourced entryOf (entryStep entryOf s e) := by
  cases e with
  | hand key uninit =>
    rw [entryStep]
    split
    · rename_i call hcall
      exact ⟨howned.addCalls _, h.hand (policyCall_value hcall)⟩
    · exact ⟨howned, h⟩
  | execute newId => exact ⟨howned.execute hok, h.execute newId⟩
  | fire timerId => exact ⟨howned.fire hok, h.fire howned hok⟩

/-- Every decision of every run is over values of applied entries, those apart that an id held
before any entry wrote it. -/
theorem lastValue_fromEntry [DecidableEq κ] {cls : ActionClass} {isStrict : Bool}
    {events : List (EntryEvent κ)} {s : TimedAction × EntryLedger κ}
    (hrun : Run (EntryReturns entryOf) (entryStep entryOf) (TimedAction.init cls isStrict, {})
      events s) {e : EntryEvent κ} (hok : EntryReturns entryOf s e)
    (hdecides : ∀ key uninit, e ≠ .hand key uninit) :
    ∃ values, (entryStep entryOf s e).1.action.lastValue = s.1.action.cls.toResult
        (decided s.1.action.isStrict s.1.action.cls.fallbackValue values) ∧
      ∀ v ∈ values, FromEntry entryOf (entryStep entryOf s e) v := by
  obtain ⟨howned, h⟩ := hrun.invariant (fun s => s.1.TimersOwned ∧ Sourced entryOf s)
    ⟨TimedAction.timersOwned_init cls isStrict, sourced_init cls isStrict⟩
    fun _ _ h hok => sourced_step h.1 h.2 hok
  have hafter := (sourced_step howned h hok).2
  obtain ⟨w, ledger⟩ := s
  cases e with
  | hand key uninit => exact absurd rfl (hdecides key uninit)
  | execute newId =>
    refine ⟨_, TimedAction.execute_lastValue w, fun v hv => ?_⟩
    refine hafter.fromEntry rfl ?_
    rw [h.list] at hv
    rwa [entryStep, TimedAction.execute_cls]
  | fire timerId =>
    obtain ⟨id, entry, -, hstep⟩ := howned.fire_eq hok
    have hcls : (w.timerCallback timerId).action.cls = w.action.cls := by
      rw [hstep, TimedAction.complete_cls]
    refine ⟨w.action.valueList ++ (w.timerCallback timerId).action.completedValues, ?_, ?_⟩
    · rw [entryStep, hstep]
      exact TimedAction.complete_lastValue
    · intro v hv
      refine hafter.fromEntry rfl ?_
      rw [h.list] at hv
      rwa [entryStep, hcls]

end Steps

/-! ### The entries of a policy round -/

/-- An entry of the policy is known by its cluster, the level of its configuration and what it
says. -/
structure EntryKey where
  clusterName : String
  level : Nat
  action : PolicyAction

/-- The entry that a cluster hands over to an action. -/
def clusterHand (clusterLevelMap : Map String Nat) (env : RoundEnv) (name : String)
    (clusterPolicy : String × List PolicyConfig) : Option (EntryEvent EntryKey) :=
  (clusterEntry clusterLevelMap env.stateMachineMap name clusterPolicy).map fun entry =>
    .hand ⟨clusterPolicy.1, entry.1, entry.2⟩ (env.uninit clusterPolicy.1 name)

/-- The steps of an action in a policy round. -/
def policyEntryEvents (policy : ThermalPolicy) (env : RoundEnv) (name : String) :
    List (EntryEvent EntryKey) :=
  policy.clusterPolicyMap.toList.filterMap (clusterHand policy.clusterLevelMap env name) ++
    [.execute (env.newId name)]

theorem entryStep_hand {κ : Type} [DecidableEq κ] {entryOf : κ → PolicyAction} (key : κ)
    (uninit : PolicyDelayAction) (s : TimedAction × EntryLedger κ) :
    (entryStep entryOf s (.hand key uninit)).1 =
      s.1.addCalls ((policyCall uninit (entryOf key)).join).toList := by
  rw [entryStep]
  cases policyCall uninit (entryOf key) with
  | none => rfl
  | some call => cases call <;> rfl

theorem clusterHands_fst [DecidableEq EntryKey] {clusterLevelMap : Map String Nat} {env : RoundEnv}
    {name : String} (clusters : List (String × List PolicyConfig))
    (s : TimedAction × EntryLedger EntryKey) :
    ((clusters.filterMap (clusterHand clusterLevelMap env name)).foldl
      (entryStep EntryKey.action) s).1 =
      s.1.addCalls (clusters.flatMap (clusterCalls clusterLevelMap env name)) := by
  induction clusters generalizing s with
  | nil => rfl
  | cons clusterPolicy rest ih =>
    rw [List.filterMap_cons, List.flatMap_cons, TimedAction.addCalls_append, clusterCalls,
      clusterHand]
    cases clusterEntry clusterLevelMap env.stateMachineMap name clusterPolicy with
    | none => exact ih s
    | some entry =>
      rw [Option.map_some, List.foldl_cons, ih, entryStep_hand]
      rfl

/-- A policy round takes every action through these steps, whatever the ledger. -/
theorem policyDecision_entryEvents [DecidableEq EntryKey] {policy : ThermalPolicy} {env : RoundEnv}
    {actionMap actionMap' : ThermalActionMap}
    (hdecision : policyDecision policy env actionMap = some actionMap') {name : String}
    {w : TimedAction} (hw : actionMap[name]? = some w) (ledger : EntryLedger EntryKey) :
    actionMap'[name]? = some ((policyEntryEvents policy env name).foldl
      (entryStep EntryKey.action) (w, ledger)).1 := by
  rw [policyDecision_lookup hdecision, hw, Option.map_some, policyEntryEvents, List.foldl_append,
    List.foldl_cons, List.foldl_nil, entryStep, clusterHands_fst]
  rfl

end ThermalManager
