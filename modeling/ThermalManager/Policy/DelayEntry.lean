import ThermalManager.Policy.EntryLedger

/-!
# Delayed policy entries

The policy sets nothing but the delay in the struct of a delayed entry. As long as the fields of the
entries are numbers, the ids are positive and not shared, and the structs happen to be inserted not
completed, no delayed value is applied before its own timer has fired.
-/

namespace ThermalManager

open StepSystem PolicyDelayAction

section Steps

variable {κ : Type} (entryOf : κ → PolicyAction)

/-- A delayed entry has an id that is read as a positive number and is not in use by another entry,
and a number for its delay; if its id is not there yet it is inserted not completed. -/
def SoundEntry (s : TimedAction × EntryLedger κ) : EntryEvent κ → Prop
  | .hand key uninit => ∀ idField delayField : String,
      (entryOf key).delayFields = some (idField, delayField) → ∃ actionId delayTime,
        strToUint idField = some actionId ∧ 0 < actionId ∧
        decimalValue delayField = some delayTime ∧ delayTime < 2 ^ 32 ∧
        (s.1.action.policyActionMap[actionId]? = none → uninit.isCompleted = false) ∧
        ∀ key', s.2.owner actionId = some key' → key' = key
  | _ => True

/-! ### What keeps a value back -/

/-- Ids, timers and values belong to the entries the ledger names, and an entry whose id is
completed has matured. -/
structure OnTime (s : TimedAction × EntryLedger κ) : Prop where
  owned : s.1.TimersOwned
  entry : ∀ (id : Nat) (entry : PolicyDelayAction), s.1.action.policyActionMap[id]? = some entry →
    ∃ key, s.2.owner id = some key ∧ (entryOf key).givenDelay = some entry.delayTime ∧
      (entry.isCompleted = true → key ∈ s.2.matured) ∧
      (id ∈ s.1.action.actionIdList → key ∈ s.2.present)
  owner : ∀ id : Nat, s.1.action.policyActionMap[id]? = none → s.2.owner id = none
  writer : ∀ (id : Nat) (key : κ), s.2.writer id = some key → s.2.owner id = some key
  running : ∀ t ∈ s.1.timers.running, ∀ id delayTime : Nat,
    s.1.timers.created[t]? = some ⟨id, delayTime⟩ → ∃ key, s.2.owner id = some key ∧
      s.2.createdFor t = some key ∧ (entryOf key).givenDelay = some delayTime
  listed : ∀ key ∈ s.2.listed, (entryOf key).delayFields = none
  applied : ∀ key ∈ s.2.applied, (entryOf key).delayFields ≠ none → key ∈ s.2.matured

theorem onTime_init (cls : ActionClass) (isStrict : Bool) :
    OnTime entryOf (TimedAction.init cls isStrict, {}) where
  owned := TimedAction.timersOwned_init cls isStrict
  entry := by simp [TimedAction.init]
  owner _ _ := rfl
  writer _ _ hwriter := by cases hwriter
  running _ ht := absurd ht List.not_mem_nil
  listed _ hkey := absurd hkey List.not_mem_nil
  applied _ hkey := absurd hkey List.not_mem_nil

variable {entryOf} {w : TimedAction} {ledger : EntryLedger κ}

theorem matured_of_completed {a : Action} {owner writer : Nat → Option κ} {matured : List κ}
    (hentry : ∀ (id : Nat) (entry : PolicyDelayAction), a.policyActionMap[id]? = some entry →
      ∃ key, owner id = some key ∧ (entry.isCompleted = true → key ∈ matured))
    (hwriter : ∀ (id : Nat) (key : κ), writer id = some key → owner id = some key)
    {key : κ} (hkey : key ∈ a.completedWriters writer) : key ∈ matured := by
  obtain ⟨id, entry, hlookup, hcompleted, hwrote⟩ := mem_completedWriters.mp hkey
  obtain ⟨key', howner, hmatured⟩ := hentry id entry hlookup
  obtain rfl := Option.some.inj (howner.symm.trans (hwriter id key hwrote))
  exact hmatured hcompleted

theorem OnTime.hand_immediate (h : OnTime entryOf (w, ledger)) {key : κ}
    (hfields : (entryOf key).delayFields = none) (value : String) :
    OnTime entryOf (w.addCalls [.immediate value],
      ledger.hand w.action.cls key (.immediate value)) := by
  have hlookup : ∀ id : Nat, (w.addCalls [.immediate value]).action.policyActionMap[id]? =
      w.action.policyActionMap[id]? := fun id => Action.addCall_entry w.action (.immediate value) id
  refine {
    owned := h.owned.addCalls _
    entry := ?entry
    owner := fun id hnone => h.owner id (hlookup id ▸ hnone)
    writer := h.writer
    running := h.running
    listed := ?listed
    applied := h.applied }
  case entry =>
    intro id entry hentry
    obtain ⟨owner, howner, hdelay, hmatured, hpresent⟩ := h.entry id entry (hlookup id ▸ hentry)
    refine ⟨owner, howner, hdelay, hmatured, fun hid => ?_⟩
    have hmem := (w.action.mem_addCall_actionIdList (.immediate value) id).mp hid
    exact List.mem_cons_of_mem _ (hpresent (hmem.resolve_right (by simp [requestedIds])))
  case listed =>
    intro key' hkey'
    rcases List.mem_append.mp hkey' with hkey' | hkey'
    · exact h.listed key' hkey'
    · obtain ⟨-, -, rfl⟩ := List.mem_map.mp hkey'
      exact hfields

/-! Handing over a delayed entry makes it the owner of its id and changes no other owner. -/

theorem hand_owner_self {key : κ} {actionId : Nat}
    (hown : ∀ key', ledger.owner actionId = some key' → key' = key) (cls : ActionClass)
    (fresh : PolicyDelayAction) (value : String) :
    (ledger.hand cls key (.delayed actionId fresh value)).owner actionId = some key := by
  refine (Function.update_self actionId _ ledger.owner).trans ?_
  cases howner : ledger.owner actionId with
  | none => rw [Option.getD_none]
  | some key' => rw [Option.getD_some, hown key' howner]

theorem hand_owner_of_ne {actionId id : Nat} (hid : id ≠ actionId) (cls : ActionClass) (key : κ)
    (fresh : PolicyDelayAction) (value : String) :
    (ledger.hand cls key (.delayed actionId fresh value)).owner id = ledger.owner id :=
  Function.update_of_ne hid _ _

theorem hand_owner_mono {key key' : κ} {actionId id : Nat}
    (hown : ∀ key', ledger.owner actionId = some key' → key' = key) (cls : ActionClass)
    (fresh : PolicyDelayAction) (value : String) (howner : ledger.owner id = some key') :
    (ledger.hand cls key (.delayed actionId fresh value)).owner id = some key' := by
  by_cases hid : id = actionId
  · subst hid
    rw [hand_owner_self hown, hown key' howner]
  · rw [hand_owner_of_ne hid, howner]

theorem hand_writer_owner {key key' : κ} {actionId id : Nat}
    (hown : ∀ key', ledger.owner actionId = some key' → key' = key)
    (hwriter : ∀ (id : Nat) (key' : κ), ledger.writer id = some key' →
      ledger.owner id = some key') (cls : ActionClass) (fresh : PolicyDelayAction)
    (value : String)
    (hhand : (ledger.hand cls key (.delayed actionId fresh value)).writer id = some key') :
    (ledger.hand cls key (.delayed actionId fresh value)).owner id = some key' := by
  have hold : ledger.writer id = some key' →
      (ledger.hand cls key (.delayed actionId fresh value)).owner id = some key' :=
    fun hid => hand_owner_mono hown _ fresh _ (hwriter id key' hid)
  rw [EntryLedger.hand] at hhand
  dsimp only at hhand
  split at hhand
  · by_cases hid : id = actionId
    · subst hid
      rw [Function.update_self] at hhand
      rw [hand_owner_self hown, hhand]
    · rw [Function.update_of_ne hid] at hhand
      exact hold hhand
  · exact hold hhand

theorem OnTime.handed_entry (h : OnTime entryOf (w, ledger)) {key : κ} {actionId : Nat}
    {fresh : PolicyDelayAction} {value : String}
    (hdelay : (entryOf key).givenDelay = some fresh.delayTime)
    (hpending : w.action.policyActionMap[actionId]? = none → fresh.isCompleted = false)
    (hown : ∀ key', ledger.owner actionId = some key' → key' = key) {entry' : PolicyDelayAction}
    (hentry' : (w.addCalls [.delayed actionId fresh value]).action.policyActionMap[actionId]? =
      some entry') :
    (entryOf key).givenDelay = some entry'.delayTime ∧
      (entry'.isCompleted = true → key ∈ ledger.matured) := by
  obtain ⟨mid, hmid, hsame⟩ := w.action.addCall_delayed_entry actionId fresh value
  obtain rfl := Option.some.inj (hentry'.symm.trans hmid)
  rw [hsame.delayTime, hsame.isCompleted]
  cases hentry : w.action.policyActionMap[actionId]? with
  | none =>
    refine ⟨hdelay, fun hcompleted => ?_⟩
    exact absurd (hcompleted.symm.trans (hpending hentry)) (by decide)
  | some entry =>
    obtain ⟨key', hkey', hdelay', hmatured, -⟩ := h.entry actionId entry hentry
    obtain rfl := hown key' hkey'
    exact ⟨hdelay', hmatured⟩

theorem addCalls_delayed_of_ne {actionId id : Nat} (hid : id ≠ actionId)
    (fresh : PolicyDelayAction) (value : String) :
    (w.addCalls [.delayed actionId fresh value]).action.policyActionMap[id]? =
      w.action.policyActionMap[id]? := by
  have hnot : id ∉ requestedIds [.delayed actionId fresh value] :=
    fun hmem => hid (List.mem_singleton.mp hmem)
  exact w.action.addCall_entry_of_not_mem _ hnot

theorem OnTime.hand_entry (h : OnTime entryOf (w, ledger)) {key : κ} {actionId : Nat}
    {fresh : PolicyDelayAction} {value : String}
    (hdelay : (entryOf key).givenDelay = some fresh.delayTime)
    (hpending : w.action.policyActionMap[actionId]? = none → fresh.isCompleted = false)
    (hown : ∀ key', ledger.owner actionId = some key' → key' = key) {id : Nat}
    {entry' : PolicyDelayAction}
    (hentry' : (w.addCalls [.delayed actionId fresh value]).action.policyActionMap[id]? =
      some entry') :
    ∃ key', (ledger.hand w.action.cls key (.delayed actionId fresh value)).owner id = some key' ∧
      (entryOf key').givenDelay = some entry'.delayTime ∧
      (entry'.isCompleted = true → key' ∈ ledger.matured) ∧
      (id ∈ (w.addCalls [.delayed actionId fresh value]).action.actionIdList →
        key' ∈ key :: ledger.present) := by
  by_cases hid : id = actionId
  · subst hid
    obtain ⟨hgiven, hmatured⟩ := h.handed_entry hdelay hpending hown hentry'
    exact ⟨key, hand_owner_self hown _ fresh _, hgiven, hmatured, fun _ => List.mem_cons_self⟩
  · rw [addCalls_delayed_of_ne hid] at hentry'
    obtain ⟨key', hkey', hdelay', hmatured, hpresent⟩ := h.entry id entry' hentry'
    have howner' := (hand_owner_of_ne hid w.action.cls key fresh value).trans hkey'
    refine ⟨key', howner', hdelay', hmatured, fun hmem => ?_⟩
    have hmem := (w.action.mem_addCall_actionIdList (.delayed actionId fresh value) id).mp hmem
    exact List.mem_cons_of_mem _ (hpresent (hmem.resolve_right
      fun hmem => hid (List.mem_singleton.mp hmem)))

/-- A delayed entry under a positive id of its own, inserted not completed if it is new. -/
theorem OnTime.hand_delayed (h : OnTime entryOf (w, ledger)) {key : κ} {actionId : Nat}
    {fresh : PolicyDelayAction} (value : String) (hpos : 0 < actionId)
    (hdelay : (entryOf key).givenDelay = some fresh.delayTime)
    (hpending : w.action.policyActionMap[actionId]? = none → fresh.isCompleted = false)
    (hown : ∀ key', ledger.owner actionId = some key' → key' = key) :
    OnTime entryOf (w.addCalls [.delayed actionId fresh value],
      ledger.hand w.action.cls key (.delayed actionId fresh value)) := by
  refine {
    owned := h.owned.addCalls _
    entry := ?entry
    owner := ?owner
    writer := ?writer
    running := ?running
    listed := ?listed
    applied := h.applied }
  case entry =>
    intro id entry' hentry'
    exact h.hand_entry hdelay hpending hown hentry'
  case owner =>
    intro id hnone
    have hid : id ≠ actionId := by
      intro heq
      subst heq
      obtain ⟨mid, hmid, -⟩ := w.action.addCall_delayed_entry id fresh value
      exact absurd (hnone.symm.trans hmid) (by simp)
    rw [hand_owner_of_ne hid]
    exact h.owner id (addCalls_delayed_of_ne hid fresh value ▸ hnone)
  case writer =>
    intro id key' hhand
    exact hand_writer_owner hown h.writer _ fresh _ hhand
  case running =>
    intro t ht id delayTime hcreated
    obtain ⟨key', hkey', hfor, hdelay'⟩ := h.running t ht id delayTime hcreated
    exact ⟨key', hand_owner_mono hown _ fresh _ hkey', hfor, hdelay'⟩
  case listed =>
    intro key' hkey'
    rw [EntryLedger.hand] at hkey'
    simp only [if_neg (Nat.pos_iff_ne_zero.mp hpos), List.append_nil] at hkey'
    exact h.listed key' hkey'

theorem OnTime.hand [DecidableEq κ] (h : OnTime entryOf (w, ledger)) {key : κ}
    {uninit : PolicyDelayAction}
    (hsound : SoundEntry entryOf (w, ledger) (.hand key uninit)) :
    OnTime entryOf (entryStep entryOf (w, ledger) (.hand key uninit)) := by
  rw [entryStep]
  cases hfields : (entryOf key).delayFields with
  | none =>
    split
    · rename_i call hcall
      rw [policyCall_of_not_delayed hfields hcall]
      exact h.hand_immediate hfields _
    · exact h
  | some fields =>
    obtain ⟨idField, delayField⟩ := fields
    obtain ⟨actionId, delayTime, hid, hpos, hdelay, hlt, hpending, hown⟩ :=
      hsound idField delayField hfields
    rw [policyCall_of_delayed hfields, hid, strToUint_of_decimalValue hdelay hlt]
    refine h.hand_delayed _ hpos ?_ hpending hown
    rw [PolicyAction.givenDelay, hfields]
    exact hdelay

theorem OnTime.execute_entry [DecidableEq κ] (h : OnTime entryOf (w, ledger)) {newId : Nat → Nat}
    {id : Nat} {entry' : PolicyDelayAction}
    (hentry' : (w.execute newId).action.policyActionMap[id]? = some entry') :
    ∃ key, EntryLedger.kept w ledger.owner id = some key ∧
      (entryOf key).givenDelay = some entry'.delayTime ∧
      (entry'.isCompleted = true → key ∈ (ledger.execute w newId).matured) := by
  rw [TimedAction.execute_entry] at hentry'
  split at hentry'
  · rename_i hid
    obtain ⟨entry, hentry, rfl⟩ := Option.map_eq_some_iff.mp hentry'
    obtain ⟨key, hkey, hdelay, hmatured, hpresent⟩ := h.entry id entry hentry
    refine ⟨key, kept_eq_some.mpr ⟨hid, hkey⟩, ?_, ?_⟩
    · rw [started_delayTime]
      exact hdelay
    · rw [started_isCompleted]
      intro hcompleted
      exact List.mem_filter.mpr ⟨hmatured hcompleted, decide_eq_true (hpresent hid)⟩
  · cases hentry'

theorem requested_of_running (howned : w.TimersOwned) {newId : Nat → Nat}
    (hids : w.UsableIds w.action.actionIdList newId) {t id delayTime : Nat}
    (hknown : t ∈ w.timers.created) (ht : t ∈ (w.execute newId).timers.running)
    (hcreated : w.timers.created[t]? = some ⟨id, delayTime⟩) : id ∈ w.action.actionIdList := by
  obtain ⟨hrunning, hkept⟩ := hids.running_of_known hknown ht
  obtain ⟨-, id', entry, hentry, hpending, htimer, delayTime', hcreated'⟩ := howned t hrunning
  obtain ⟨rfl, -⟩ := ThermalTimerInfo.mk.inj (Option.some.inj (hcreated'.symm.trans hcreated))
  by_contra hid
  exact hkept id' entry ⟨hentry, hid, hpending⟩ htimer.symm

theorem OnTime.execute_running [DecidableEq κ] (h : OnTime entryOf (w, ledger))
    {newId : Nat → Nat} (hids : w.UsableIds w.action.actionIdList newId) {t id delayTime : Nat}
    (ht : t ∈ (w.execute newId).timers.running)
    (hcreated : (w.execute newId).timers.created[t]? = some ⟨id, delayTime⟩) :
    ∃ key, EntryLedger.kept w ledger.owner id = some key ∧
      (ledger.execute w newId).createdFor t = some key ∧
      (entryOf key).givenDelay = some delayTime := by
  by_cases hknown : t ∈ w.timers.created
  · rw [hids.created_of_known hknown] at hcreated
    have hid := requested_of_running h.owned hids hknown ht hcreated
    obtain ⟨key, hkey, hfor, hdelay⟩ :=
      h.running t (hids.running_of_known hknown ht).1 id delayTime hcreated
    exact ⟨key, kept_eq_some.mpr ⟨hid, hkey⟩, (if_pos hknown).trans hfor, hdelay⟩
  · rcases w.execute_created newId t with ⟨-, id', entry, hstarted, -, hcreated'⟩ | ⟨-, hsame⟩
    · obtain ⟨rfl, rfl⟩ := ThermalTimerInfo.mk.inj
        (Option.some.inj (hcreated'.symm.trans hcreated))
      obtain ⟨key, hkey, hdelay, -⟩ := h.entry id' entry hstarted.1
      have howner := kept_eq_some.mpr ⟨hstarted.2.1, hkey⟩
      refine ⟨key, howner, (if_neg hknown).trans ?_, hdelay⟩
      rw [hcreated]
      exact howner
    · rw [hsame] at hcreated
      exact absurd (Std.ExtTreeMap.mem_iff_isSome_getElem?.mpr (by rw [hcreated]; rfl)) hknown

/-- `Execute` keeps what is requested; a timer it creates is one for the entry of its id. -/
theorem OnTime.execute [DecidableEq κ] (h : OnTime entryOf (w, ledger)) {newId : Nat → Nat}
    (hids : w.UsableIds w.action.actionIdList newId) :
    OnTime entryOf (w.execute newId, ledger.execute w newId) := by
  have hwriter : ∀ (id : Nat) (key : κ), EntryLedger.kept w ledger.writer id = some key →
      EntryLedger.kept w ledger.owner id = some key := by
    intro id key hkey
    obtain ⟨hid, hkey⟩ := kept_eq_some.mp hkey
    exact kept_eq_some.mpr ⟨hid, h.writer id key hkey⟩
  refine {
    owned := h.owned.execute hids
    entry := ?requested
    owner := ?owner
    writer := hwriter
    running := fun t ht id delayTime hcreated => h.execute_running hids ht hcreated
    listed := fun key hkey => absurd hkey List.not_mem_nil
    applied := ?applied }
  case requested =>
    intro id entry' hentry'
    obtain ⟨key, hkey, hdelay, hmatured⟩ := h.execute_entry hentry'
    refine ⟨key, hkey, hdelay, hmatured, fun hid => ?_⟩
    rw [TimedAction.execute_actionIdList] at hid
    exact absurd hid List.not_mem_nil
  case owner =>
    intro id hnone
    by_contra hsome
    obtain ⟨key, hkey⟩ := Option.ne_none_iff_exists'.mp hsome
    obtain ⟨hid, hkey⟩ := kept_eq_some.mp hkey
    rw [TimedAction.execute_entry, if_pos hid, Option.map_eq_none_iff] at hnone
    exact absurd (hkey.symm.trans (h.owner id hnone)) (by simp)
  case applied =>
    intro key hkey hdelayed
    rcases List.mem_append.mp hkey with hlisted | hkey
    · exact absurd (h.listed key hlisted) hdelayed
    · refine matured_of_completed (fun id entry' hentry' => ?_) hwriter hkey
      obtain ⟨key', hkey', -, hmatured⟩ := h.execute_entry hentry'
      exact ⟨key', hkey', hmatured⟩

/-- The callback of a running timer completes the id of an owner, whose entry it ripens. -/
theorem OnTime.fire_cases (h : OnTime entryOf (w, ledger)) {timerId : Nat}
    (hrunning : timerId ∈ w.timers.running) :
    ∃ (id : Nat) (entry : PolicyDelayAction) (key : κ),
      w.action.policyActionMap[id]? = some entry ∧ ledger.owner id = some key ∧
      ledger.ripened entryOf w timerId = [key] ∧
      w.timerCallback timerId = w.complete timerId id entry := by
  obtain ⟨id, entry, ⟨hentry, -, -, delayTime, hcreated⟩, hstep⟩ := h.owned.fire_eq hrunning
  obtain ⟨key, hkey, hfor, hdelay⟩ := h.running timerId hrunning id delayTime hcreated
  refine ⟨id, entry, key, hentry, hkey, ?_, hstep⟩
  rw [EntryLedger.ripened, hfor, hcreated]
  exact if_pos hdelay

theorem OnTime.fire_entry (h : OnTime entryOf (w, ledger)) {timerId : Nat}
    (hrunning : timerId ∈ w.timers.running) {id' : Nat} {entry' : PolicyDelayAction}
    (hentry' : (w.timerCallback timerId).action.policyActionMap[id']? = some entry') :
    ∃ key', ledger.owner id' = some key' ∧ (entryOf key').givenDelay = some entry'.delayTime ∧
      (entry'.isCompleted = true → key' ∈ (ledger.fire entryOf w timerId).matured) ∧
      (id' ∈ w.action.actionIdList → key' ∈ ledger.present) := by
  obtain ⟨id, entry, key, hentry, hkey, hripened, hstep⟩ := h.fire_cases hrunning
  rw [hstep] at hentry'
  rw [EntryLedger.fire, hripened]
  rcases TimedAction.complete_entry_cases hentry' with ⟨rfl, rfl⟩ | ⟨-, hentry'⟩
  · obtain ⟨key', hkey', hdelay', -, hpresent⟩ := h.entry id entry hentry
    obtain rfl := Option.some.inj (hkey.symm.trans hkey')
    exact ⟨key, hkey, hdelay', fun _ => List.mem_cons_self, hpresent⟩
  · obtain ⟨key', hkey', hdelay', hmatured, hpresent⟩ := h.entry id' entry' hentry'
    exact ⟨key', hkey', hdelay', fun hcompleted => List.mem_cons_of_mem _ (hmatured hcompleted),
      hpresent⟩

theorem OnTime.fire (h : OnTime entryOf (w, ledger)) {timerId : Nat}
    (hrunning : timerId ∈ w.timers.running) :
    OnTime entryOf (w.timerCallback timerId, ledger.fire entryOf w timerId) := by
  obtain ⟨id, entry, key, -, -, -, hstep⟩ := h.fire_cases hrunning
  refine {
    owned := h.owned.fire hrunning
    entry := ?entry
    owner := ?owner
    writer := h.writer
    running := ?running
    listed := fun key' hkey' => absurd hkey' List.not_mem_nil
    applied := ?applied }
  case entry =>
    intro id' entry' hentry'
    have hids : (w.timerCallback timerId).action.actionIdList = w.action.actionIdList := by
      rw [hstep, TimedAction.complete_actionIdList]
    dsimp only
    rw [hids]
    exact h.fire_entry hrunning hentry'
  case owner =>
    intro id' hnone
    rw [hstep, TimedAction.complete_entry] at hnone
    split at hnone
    · cases hnone
    · exact h.owner id' hnone
  case running =>
    intro t ht id' delayTime' hcreated'
    rw [hstep] at ht hcreated'
    obtain ⟨ht, -⟩ := TimedAction.mem_complete_running.mp ht
    exact h.running t ht id' delayTime' hcreated'
  case applied =>
    intro key' hkey' hdelayed
    rcases List.mem_append.mp hkey' with hlisted | hkey'
    · exact absurd (h.listed key' hlisted) hdelayed
    · refine matured_of_completed (fun id' entry' hentry' => ?_) h.writer hkey'
      obtain ⟨owner, howner, -, hmatured, -⟩ := h.fire_entry hrunning hentry'
      exact ⟨owner, howner, hmatured⟩

theorem OnTime.step [DecidableEq κ] {s : TimedAction × EntryLedger κ} (h : OnTime entryOf s)
    {e : EntryEvent κ} (hreturns : EntryReturns entryOf s e) (hsound : SoundEntry entryOf s e) :
    OnTime entryOf (entryStep entryOf s e) := by
  cases e with
  | hand key uninit => exact h.hand hsound
  | execute newId => exact h.execute hreturns
  | fire timerId => exact h.fire hreturns

/-- **No delayed value is applied early.** In every run that hands over sound entries, a delayed
entry whose value went into a decision has matured. -/
theorem applied_matured [DecidableEq κ] {cls : ActionClass} {isStrict : Bool}
    {events : List (EntryEvent κ)}
    (hrun : Run (fun s e => EntryReturns entryOf s e ∧ SoundEntry entryOf s e) (entryStep entryOf)
      (TimedAction.init cls isStrict, {}) events (w, ledger)) :
    ∀ key ∈ ledger.applied, (entryOf key).delayFields ≠ none → key ∈ ledger.matured :=
  (hrun.invariant (OnTime entryOf) (onTime_init entryOf cls isStrict)
    fun _ _ h hok => h.step hok.1 hok.2).applied

end Steps

def delayedEntry (delayTime : String) : PolicyAction where
  actionName := "current"
  actionValue := "1000"
  actionPropMap := (∅ : Map String String).insert "delaytime" delayTime
  isProp := true

/-- A freshly declared struct that holds nothing but perhaps a completion. -/
def declared (isCompleted : Bool) : PolicyDelayAction := ⟨isCompleted, 0, 0, 0, 0⟩

/-- The entry is handed over to a strict current limit, which executes. -/
def firstRound (isCompleted : Bool) : List (EntryEvent Unit) :=
  [.hand () (declared isCompleted), .execute fun _ => 7]

def afterEntries (delayTime : String) (events : List (EntryEvent Unit)) :
    TimedAction × EntryLedger Unit :=
  events.foldl (entryStep fun _ => delayedEntry delayTime) (TimedAction.init actionCharger true, {})

/-- After the callback the value is applied, and its entry has matured. -/
theorem firedEntry_matured :
    () ∈ (afterEntries "1,3000" (firstRound false ++ [.fire 7])).2.applied ∧
      () ∈ (afterEntries "1,3000" (firstRound false ++ [.fire 7])).2.matured := by
  have hfields : (delayedEntry "1,3000").delayFields = some ("1", "3000") := by decide +kernel
  have hsound : SoundEntry (fun _ : Unit => delayedEntry "1,3000")
      (TimedAction.init actionCharger true, {}) (.hand () (declared false)) := by
    intro idField delayField hdelayed
    cases hfields.symm.trans hdelayed
    exact ⟨1, 3000, by decide, by decide, by decide, by decide, fun _ => rfl, fun _ _ => rfl⟩
  have hrun : Run (fun s e => EntryReturns (fun _ => delayedEntry "1,3000") s e ∧
      SoundEntry (fun _ => delayedEntry "1,3000") s e)
      (entryStep fun _ => delayedEntry "1,3000") (TimedAction.init actionCharger true, {})
      (firstRound false ++ [.fire 7]) (afterEntries "1,3000" (firstRound false ++ [.fire 7])) :=
    .snoc (.snoc (.snoc (.nil _) ⟨by decide +kernel, hsound⟩) ⟨by decide +kernel, trivial⟩)
      ⟨by decide +kernel, trivial⟩
  have happlied : () ∈ (afterEntries "1,3000" (firstRound false ++ [.fire 7])).2.applied := by
    decide +kernel
  exact ⟨happlied, applied_matured hrun () happlied (by rw [hfields]; exact Option.some_ne_none _)⟩

/-- Two runs that apply the value with no timer fired: the id is zero, or the struct happens to be
inserted completed. -/
theorem earlyEntry_not_matured :
    (Run (EntryReturns fun _ => delayedEntry "0,3000") (entryStep fun _ => delayedEntry "0,3000")
        (TimedAction.init actionCharger true, {}) (firstRound false)
        (afterEntries "0,3000" (firstRound false)) ∧
      (afterEntries "0,3000" (firstRound false)).1.action.lastValue = 1000 ∧
      (afterEntries "0,3000" (firstRound false)).1.timers.fired = [] ∧
      () ∈ (afterEntries "0,3000" (firstRound false)).2.applied ∧
      () ∉ (afterEntries "0,3000" (firstRound false)).2.matured) ∧
    Run (EntryReturns fun _ => delayedEntry "1,3000") (entryStep fun _ => delayedEntry "1,3000")
        (TimedAction.init actionCharger true, {}) (firstRound true)
        (afterEntries "1,3000" (firstRound true)) ∧
      (afterEntries "1,3000" (firstRound true)).1.action.lastValue = 1000 ∧
      (afterEntries "1,3000" (firstRound true)).1.timers.fired = [] ∧
      () ∈ (afterEntries "1,3000" (firstRound true)).2.applied ∧
      () ∉ (afterEntries "1,3000" (firstRound true)).2.matured := by
  have hrun : ∀ (delayTime : String) (isCompleted : Bool),
      Enabled (EntryReturns fun _ : Unit => delayedEntry delayTime)
        (entryStep fun _ => delayedEntry delayTime) (TimedAction.init actionCharger true, {})
        (firstRound isCompleted) →
      Run (EntryReturns fun _ => delayedEntry delayTime)
        (entryStep fun _ => delayedEntry delayTime) (TimedAction.init actionCharger true, {})
        (firstRound isCompleted) (afterEntries delayTime (firstRound isCompleted)) :=
    fun delayTime isCompleted henabled => henabled.run
  refine ⟨⟨hrun "0,3000" false (by decide +kernel), ?_⟩, hrun "1,3000" true (by decide +kernel), ?_⟩
  · decide +kernel
  · decide +kernel

end ThermalManager
