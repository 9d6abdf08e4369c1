import ThermalManager.Action.ThermalAction

/-!
# What the operations of an action do

One lemma for each operation and each part of the state it touches. The proofs about whole runs
reach the operations through these lemmas only: entries are looked up by id, timers are asked
whether they are running and what they were created for.
-/

namespace ThermalManager

open Extremum

/-! ### Entries -/

namespace PolicyDelayAction

/-- The two entries agree on everything but their value. -/
structure SameTimer (entry entry' : PolicyDelayAction) : Prop where
  isCompleted : entry'.isCompleted = entry.isCompleted
  delayTime : entry'.delayTime = entry.delayTime
  delayTimerId : entry'.delayTimerId = entry.delayTimerId

theorem SameTimer.refl (entry : PolicyDelayAction) : SameTimer entry entry := ⟨rfl, rfl, rfl⟩

theorem SameTimer.trans {e₁ e₂ e₃ : PolicyDelayAction} (h : SameTimer e₁ e₂)
    (h' : SameTimer e₂ e₃) : SameTimer e₁ e₃ :=
  ⟨h'.1.trans h.1, h'.2.trans h.2, h'.3.trans h.3⟩

theorem setDelayValue_sameTimer (slot : DelaySlot) (value : Int) (entry : PolicyDelayAction) :
    SameTimer entry (setDelayValue slot value entry) := by
  cases slot <;> exact ⟨rfl, rfl, rfl⟩

theorem SameTimer.needsTimer_eq {entry entry' : PolicyDelayAction} (h : SameTimer entry entry') :
    entry'.needsTimer = entry.needsTimer := by
  rw [needsTimer, needsTimer, h.isCompleted, h.delayTimerId]

theorem needsTimer_iff {entry : PolicyDelayAction} :
    entry.needsTimer = true ↔ entry.isCompleted = false ∧ entry.delayTimerId = 0 := by
  simp [needsTimer]

def started (newId : Nat) (entry : PolicyDelayAction) : PolicyDelayAction :=
  if entry.needsTimer then { entry with delayTimerId := newId } else entry

@[simp] theorem started_isCompleted (newId : Nat) (entry : PolicyDelayAction) :
    (entry.started newId).isCompleted = entry.isCompleted := by
  rw [started]
  split <;> rfl

@[simp] theorem started_delayTime (newId : Nat) (entry : PolicyDelayAction) :
    (entry.started newId).delayTime = entry.delayTime := by
  rw [started]
  split <;> rfl

@[simp] theorem started_delayValue (slot : DelaySlot) (newId : Nat) (entry : PolicyDelayAction) :
    (entry.started newId).delayValue slot = entry.delayValue slot := by
  rw [started]
  split <;> cases slot <;> rfl

theorem started_delayTimerId (newId : Nat) (entry : PolicyDelayAction) :
    (entry.started newId).delayTimerId =
      if entry.needsTimer then newId else entry.delayTimerId := by
  rw [started]
  split <;> rfl

theorem SameTimer.started {entry entry' : PolicyDelayAction} (h : SameTimer entry entry')
    (timerId : Nat) : SameTimer (entry.started timerId) (entry'.started timerId) := by
  refine ⟨?_, ?_, ?_⟩
  · rw [started_isCompleted, started_isCompleted, h.isCompleted]
  · rw [started_delayTime, started_delayTime, h.delayTime]
  · rw [started_delayTimerId, started_delayTimerId, h.needsTimer_eq, h.delayTimerId]

end PolicyDelayAction

open PolicyDelayAction

/-- What is left of a value after it went through the delay field of the class. -/
def ActionClass.stored (cls : ActionClass) (value : Int) : Int :=
  match cls.slot with
  | .intDelayValue => toInt32 value
  | .uintDelayValue => value

theorem delayValue_setDelayValue (cls : ActionClass) (value : Int) (entry : PolicyDelayAction) :
    (entry.setDelayValue cls.slot value).delayValue cls.slot = cls.stored value := by
  rw [ActionClass.stored]
  cases cls.slot <;> rfl

/-! ### ExecuteInner -/

namespace Action

variable (a : Action)

@[simp] theorem executeInner_valueList : a.executeInner.valueList = [] := rfl

@[simp] theorem executeInner_policyActionMap :
    a.executeInner.policyActionMap = a.policyActionMap := by
  rw [executeInner]
  dsimp only
  split <;> rfl

@[simp] theorem executeInner_actionIdList : a.executeInner.actionIdList = a.actionIdList := by
  rw [executeInner]
  dsimp only
  split <;> rfl

@[simp] theorem executeInner_cls : a.executeInner.cls = a.cls := by
  rw [executeInner]
  dsimp only
  split <;> rfl

@[simp] theorem executeInner_isStrict : a.executeInner.isStrict = a.isStrict := by
  rw [executeInner]
  dsimp only
  split <;> rfl

/-- Whether or not the value is new, it is the applied value afterwards. -/
theorem executeInner_lastValue :
    a.executeInner.lastValue = a.cls.toResult
      (decided a.isStrict a.cls.fallbackValue (a.valueList ++ a.completedValues)) := by
  rw [executeInner]
  dsimp only
  split
  · rfl
  · rename_i hsame
    exact (not_not.mp hsame).symm

theorem mem_completedValues {v : Int} :
    v ∈ a.completedValues ↔ ∃ (actionId : Nat) (entry : PolicyDelayAction),
      a.policyActionMap[actionId]? = some entry ∧ entry.isCompleted = true ∧
        entry.delayValue a.cls.slot = v := by
  simp only [completedValues, List.mem_map, List.mem_filter, Prod.exists,
    Std.ExtTreeMap.mem_toList_iff_getElem?_eq_some, and_assoc]

/-! ### Adding values -/

theorem addActionDelayTime_entry (actionId id : Nat) (fresh : PolicyDelayAction) :
    (a.addActionDelayTime actionId fresh).policyActionMap[id]? =
      if id = actionId then some ((a.policyActionMap[id]?).getD fresh)
      else a.policyActionMap[id]? := by
  simp only [addActionDelayTime, Std.ExtTreeMap.getElem?_insertIfNew, compare_eq_iff_eq]
  by_cases heq : id = actionId
  · subst heq
    cases hentry : a.policyActionMap[id]? with
    | none => simp [Std.ExtTreeMap.mem_iff_isSome_getElem?, hentry]
    | some entry => simp [Std.ExtTreeMap.mem_iff_isSome_getElem?, hentry]
  · simp [heq, Ne.symm heq]

theorem addActionValue_entry (actionId id : Nat) (value : String) :
    (a.addActionValue actionId value).policyActionMap[id]? =
      if id = actionId ∧ 0 < actionId then
        (a.policyActionMap[id]?).map (fun entry =>
          (a.cls.parse value).elim entry (entry.setDelayValue a.cls.slot))
      else a.policyActionMap[id]? := by
  rw [addActionValue]
  cases hparse : a.cls.parse value with
  | none => simp
  | some v =>
    dsimp only [Option.elim]
    by_cases hpos : actionId > 0
    · rw [if_pos hpos]
      dsimp only
      rw [Std.ExtTreeMap.getElem?_modify]
      simp only [compare_eq_iff_eq, hpos, and_true]
      by_cases heq : id = actionId
      · subst heq
        simp
      · simp [heq, Ne.symm heq]
    · rw [if_neg hpos, if_neg (fun h => hpos h.2)]

theorem addActionValue_valueList (actionId : Nat) (value : String) :
    (a.addActionValue actionId value).valueList =
      a.valueList ++ if actionId = 0 then (a.cls.parse value).toList else [] := by
  rw [addActionValue]
  cases hparse : a.cls.parse value with
  | none => simp
  | some v =>
    rcases Nat.eq_zero_or_pos actionId with rfl | hpos
    · simp
    · simp [hpos, Nat.pos_iff_ne_zero.mp hpos]

/-! ### The calls of a round -/

/-- The values that go into the list: those of the immediate calls and of the id zero. -/
def immediateValues (cls : ActionClass) (calls : List Call) : List Int :=
  calls.flatMap fun
    | .immediate value => (cls.parse value).toList
    | .delayed actionId _ value => if actionId = 0 then (cls.parse value).toList else []

@[simp] theorem addCall_cls (call : Call) : (a.addCall call).cls = a.cls := by
  cases call <;> simp only [addCall, addActionValue, addActionDelayTime] <;> split <;>
    [rfl; split <;> rfl; rfl; split <;> rfl]

@[simp] theorem addCall_isStrict (call : Call) : (a.addCall call).isStrict = a.isStrict := by
  cases call <;> simp only [addCall, addActionValue, addActionDelayTime] <;> split <;>
    [rfl; split <;> rfl; rfl; split <;> rfl]

theorem addActionValue_actionIdList (actionId : Nat) (value : String) :
    (a.addActionValue actionId value).actionIdList = a.actionIdList := by
  rw [addActionValue]
  split
  · rfl
  · split <;> rfl

theorem mem_addCall_actionIdList (call : Call) (id : Nat) :
    id ∈ (a.addCall call).actionIdList ↔ id ∈ a.actionIdList ∨ id ∈ requestedIds [call] := by
  cases call with
  | immediate value => simp [addCall, addActionValue_actionIdList, requestedIds]
  | delayed actionId fresh value =>
    have hids : requestedIds [.delayed actionId fresh value] = [actionId] := rfl
    rw [addCall, addActionValue_actionIdList, addActionDelayTime, hids, List.mem_cons,
      List.mem_singleton, or_comm]

theorem addCall_valueList (call : Call) :
    (a.addCall call).valueList = a.valueList ++ immediateValues a.cls [call] := by
  cases call with
  | immediate value => simp [addCall, addActionValue_valueList, immediateValues]
  | delayed actionId fresh value =>
    simp [addCall, addActionValue_valueList, addActionDelayTime, immediateValues]

theorem addCall_entry (call : Call) (id : Nat) :
    (a.addCall call).policyActionMap[id]? =
      match call with
      | .immediate _ => a.policyActionMap[id]?
      | .delayed actionId fresh value =>
          if id = actionId then
            some (if 0 < actionId then
                (a.cls.parse value).elim ((a.policyActionMap[id]?).getD fresh)
                  (((a.policyActionMap[id]?).getD fresh).setDelayValue a.cls.slot)
              else (a.policyActionMap[id]?).getD fresh)
          else a.policyActionMap[id]? := by
  cases call with
  | immediate value => simp [addCall, addActionValue_entry]
  | delayed actionId fresh value =>
    simp only [addCall, addActionValue_entry, addActionDelayTime_entry]
    by_cases heq : id = actionId
    · by_cases hpos : 0 < actionId
      · simp only [heq, hpos, and_self, if_true, Option.map_some]
        rfl
      · simp [heq, hpos]
    · simp [heq]

/-- The entry of the id of a delayed call is the one that was there, or the fresh one, but for its
value. -/
theorem addCall_delayed_entry (actionId : Nat) (fresh : PolicyDelayAction) (value : String) :
    ∃ entry', (a.addCall (.delayed actionId fresh value)).policyActionMap[actionId]? =
      some entry' ∧ SameTimer ((a.policyActionMap[actionId]?).getD fresh) entry' := by
  rw [addCall_entry]
  simp only [if_true]
  refine ⟨_, rfl, ?_⟩
  split
  · cases a.cls.parse value with
    | none => exact .refl _
    | some v => exact setDelayValue_sameTimer a.cls.slot v _
  · exact .refl _

theorem addCall_sameTimer (call : Call) {id : Nat} {entry : PolicyDelayAction}
    (hentry : a.policyActionMap[id]? = some entry) :
    ∃ entry', (a.addCall call).policyActionMap[id]? = some entry' ∧ SameTimer entry entry' := by
  cases call with
  | immediate value =>
    rw [addCall_entry]
    exact ⟨entry, hentry, .refl entry⟩
  | delayed actionId fresh value =>
    by_cases heq : id = actionId
    · subst heq
      obtain ⟨entry', hentry', hsame⟩ := a.addCall_delayed_entry id fresh value
      rw [hentry, Option.getD_some] at hsame
      exact ⟨entry', hentry', hsame⟩
    · rw [addCall_entry]
      simp only [if_neg heq]
      exact ⟨entry, hentry, .refl entry⟩

theorem addCall_entry_of_not_mem (call : Call) {id : Nat} (hid : id ∉ requestedIds [call]) :
    (a.addCall call).policyActionMap[id]? = a.policyActionMap[id]? := by
  rw [addCall_entry]
  cases call with
  | immediate value => rfl
  | delayed actionId fresh value =>
    have hne : id ≠ actionId := by simpa [requestedIds] using hid
    simp [hne]

variable {a}

theorem requestedIds_cons (call : Call) (calls : List Call) :
    requestedIds (call :: calls) = requestedIds [call] ++ requestedIds calls := by
  rw [requestedIds, requestedIds, requestedIds, ← List.filterMap_append]
  rfl

@[simp] theorem addCalls_cls (calls : List Call) : (a.addCalls calls).cls = a.cls := by
  induction calls generalizing a with
  | nil => rfl
  | cons call rest ih => exact ih.trans (addCall_cls a call)

@[simp] theorem addCalls_isStrict (calls : List Call) :
    (a.addCalls calls).isStrict = a.isStrict := by
  induction calls generalizing a with
  | nil => rfl
  | cons call rest ih => exact ih.trans (addCall_isStrict a call)

theorem mem_addCalls_actionIdList (calls : List Call) (id : Nat) :
    id ∈ (a.addCalls calls).actionIdList ↔ id ∈ a.actionIdList ∨ id ∈ requestedIds calls := by
  induction calls generalizing a with
  | nil => simp [addCalls, requestedIds]
  | cons call rest ih =>
    rw [addCalls, List.foldl_cons]
    have hrest := ih (a := a.addCall call)
    rw [addCalls] at hrest
    rw [hrest, mem_addCall_actionIdList, requestedIds_cons call rest, List.mem_append, or_assoc]

theorem addCalls_valueList (calls : List Call) :
    (a.addCalls calls).valueList = a.valueList ++ immediateValues a.cls calls := by
  induction calls generalizing a with
  | nil => simp [addCalls, immediateValues]
  | cons call rest ih =>
    have hrest := ih (a := a.addCall call)
    rw [addCalls] at hrest
    rw [addCalls, List.foldl_cons, hrest, addCall_valueList, addCall_cls, List.append_assoc]
    simp only [immediateValues, List.flatMap_cons, List.flatMap_nil, List.append_nil]

theorem addCalls_sameTimer (calls : List Call) {id : Nat} {entry : PolicyDelayAction}
    (hentry : a.policyActionMap[id]? = some entry) :
    ∃ entry', (a.addCalls calls).policyActionMap[id]? = some entry' ∧ SameTimer entry entry' := by
  induction calls generalizing a entry with
  | nil => exact ⟨entry, hentry, .refl entry⟩
  | cons call rest ih =>
    obtain ⟨mid, hmid, hsame⟩ := addCall_sameTimer a call hentry
    obtain ⟨entry', hentry', hsame'⟩ := ih hmid
    exact ⟨entry', hentry', hsame.trans hsame'⟩

theorem addCalls_entry_of_not_mem (calls : List Call) {id : Nat}
    (hid : id ∉ requestedIds calls) :
    (a.addCalls calls).policyActionMap[id]? = a.policyActionMap[id]? := by
  induction calls generalizing a with
  | nil => rfl
  | cons call rest ih =>
    rw [requestedIds_cons, List.mem_append, not_or] at hid
    exact (ih hid.2).trans (addCall_entry_of_not_mem a call hid.1)

theorem addCalls_fresh (calls : List Call) {id : Nat} (hnone : a.policyActionMap[id]? = none)
    (hid : id ∈ requestedIds calls) :
    ∃ fresh value entry', .delayed id fresh value ∈ calls ∧
      (a.addCalls calls).policyActionMap[id]? = some entry' ∧ SameTimer fresh entry' := by
  induction calls generalizing a with
  | nil => simp [requestedIds] at hid
  | cons call rest ih =>
    by_cases hcall : id ∈ requestedIds [call]
    · cases call with
      | immediate value => simp [requestedIds] at hcall
      | delayed actionId fresh value =>
        obtain rfl : id = actionId := by simpa [requestedIds] using hcall
        obtain ⟨mid, hmid, hsame⟩ := a.addCall_delayed_entry id fresh value
        rw [hnone, Option.getD_none] at hsame
        obtain ⟨entry', hentry', hsame'⟩ := addCalls_sameTimer rest hmid
        exact ⟨fresh, value, entry', by simp, hentry', hsame.trans hsame'⟩
    · rw [requestedIds_cons, List.mem_append] at hid
      have hmid := (addCall_entry_of_not_mem a call hcall).trans hnone
      obtain ⟨fresh, value, entry', hmem, hentry', hsame⟩ := ih hmid (hid.resolve_left hcall)
      exact ⟨fresh, value, entry', List.mem_cons_of_mem _ hmem, hentry', hsame⟩

theorem addCalls_value (calls : List Call) {id : Nat} (hpos : 0 < id)
    (hnodup : (requestedIds calls).Nodup) {fresh : PolicyDelayAction} {value : String} {v : Int}
    (hmem : .delayed id fresh value ∈ calls) (hparse : a.cls.parse value = some v) :
    ∃ entry', (a.addCalls calls).policyActionMap[id]? = some entry' ∧
      entry'.delayValue a.cls.slot = a.cls.stored v := by
  induction calls generalizing a with
  | nil => simp at hmem
  | cons call rest ih =>
    rw [requestedIds_cons] at hnodup
    have hrest := (List.nodup_append.mp hnodup).2.1
    rcases List.mem_cons.mp hmem with heq | hmem
    · subst heq
      have hnot : id ∉ requestedIds rest := fun h =>
        (List.nodup_append.mp hnodup).2.2 id (by simp [requestedIds]) id h rfl
      have hlater := addCalls_entry_of_not_mem (a := a.addCall (.delayed id fresh value)) rest hnot
      rw [addCalls] at hlater
      rw [addCalls, List.foldl_cons, hlater, addCall_entry]
      simp only [if_true, hpos, hparse]
      exact ⟨_, rfl, delayValue_setDelayValue a.cls v _⟩
    · have hcls := addCall_cls a call
      have hlater := ih (a := a.addCall call) hrest hmem (hcls.symm ▸ hparse)
      rw [hcls] at hlater
      exact hlater

end Action

/-! ### Timers -/

namespace TimerService

@[simp] theorem destroyTimer_created (service : TimerService) (timerId : Nat) :
    (service.destroyTimer timerId).created = service.created := rfl

@[simp] theorem destroyTimer_fired (service : TimerService) (timerId : Nat) :
    (service.destroyTimer timerId).fired = service.fired := rfl

theorem mem_destroyTimer_running {service : TimerService} {timerId t : Nat} :
    t ∈ (service.destroyTimer timerId).running ↔ t ∈ service.running ∧ t ≠ timerId := by
  simp [destroyTimer]

def destroyAll (service : TimerService) (entries : List (Nat × PolicyDelayAction)) :
    TimerService :=
  entries.foldl (fun service policyAction => service.destroyTimer policyAction.2.delayTimerId)
    service

theorem destroyAll_created (service : TimerService) (entries : List (Nat × PolicyDelayAction)) :
    (service.destroyAll entries).created = service.created := by
  induction entries generalizing service with
  | nil => rfl
  | cons entry rest ih => exact ih (service.destroyTimer entry.2.delayTimerId)

theorem destroyAll_fired (service : TimerService) (entries : List (Nat × PolicyDelayAction)) :
    (service.destroyAll entries).fired = service.fired := by
  induction entries generalizing service with
  | nil => rfl
  | cons entry rest ih => exact ih (service.destroyTimer entry.2.delayTimerId)

theorem mem_destroyAll_running {service : TimerService}
    {entries : List (Nat × PolicyDelayAction)} {t : Nat} :
    t ∈ (service.destroyAll entries).running ↔
      t ∈ service.running ∧ ∀ entry ∈ entries, t ≠ entry.2.delayTimerId := by
  induction entries generalizing service with
  | nil => simp [destroyAll]
  | cons entry rest ih =>
    have hrest := @ih (service.destroyTimer entry.2.delayTimerId)
    rw [destroyAll] at hrest ⊢
    rw [List.foldl_cons, hrest, mem_destroyTimer_running, List.forall_mem_cons, and_assoc]

def createAll (newId : Nat → Nat) (service : TimerService)
    (entries : List (Nat × PolicyDelayAction)) : TimerService :=
  entries.foldl (fun service policyAction => service.createTimer (newId policyAction.1)
    ⟨policyAction.1, policyAction.2.delayTime⟩) service

variable {newId : Nat → Nat}

theorem createTimer_fired (service : TimerService) (timerId : Nat) (info : ThermalTimerInfo) :
    (service.createTimer timerId info).fired = service.fired := by
  rw [createTimer]
  split <;> rfl

theorem mem_createTimer_running {service : TimerService} {timerId t : Nat}
    {info : ThermalTimerInfo} :
    t ∈ (service.createTimer timerId info).running ↔
      t ∈ service.running ∨ (t ≠ 0 ∧ t = timerId) := by
  rw [createTimer]
  split
  · rename_i hzero
    subst hzero
    exact ⟨Or.inl, fun h => h.resolve_right (fun h => h.1 h.2)⟩
  · rename_i hne
    rw [List.mem_cons, or_comm]
    exact or_congr_right ⟨fun h => ⟨h ▸ hne, h⟩, fun h => h.2⟩

theorem createTimer_created (service : TimerService) (timerId t : Nat) (info : ThermalTimerInfo) :
    (service.createTimer timerId info).created[t]? =
      if t ≠ 0 ∧ t = timerId then some info else service.created[t]? := by
  rw [createTimer]
  split
  · rename_i hzero
    subst hzero
    rw [if_neg (fun h => h.1 h.2)]
  · rename_i hne
    dsimp only
    rw [Std.ExtTreeMap.getElem?_insert]
    simp only [compare_eq_iff_eq]
    by_cases heq : timerId = t
    · rw [if_pos heq, if_pos ⟨heq ▸ hne, heq.symm⟩]
    · rw [if_neg heq, if_neg (fun h => heq h.2.symm)]

theorem createAll_fired (service : TimerService) (entries : List (Nat × PolicyDelayAction)) :
    (createAll newId service entries).fired = service.fired := by
  induction entries generalizing service with
  | nil => rfl
  | cons entry rest ih =>
    exact (ih (service.createTimer (newId entry.1) ⟨entry.1, entry.2.delayTime⟩)).trans
      (createTimer_fired service (newId entry.1) ⟨entry.1, entry.2.delayTime⟩)

theorem mem_createAll_running {service : TimerService}
    {entries : List (Nat × PolicyDelayAction)} {t : Nat} :
    t ∈ (createAll newId service entries).running ↔
      t ∈ service.running ∨ (t ≠ 0 ∧ ∃ entry ∈ entries, t = newId entry.1) := by
  induction entries generalizing service with
  | nil => simp [createAll]
  | cons entry rest ih =>
    have hrest := @ih (service.createTimer (newId entry.1) ⟨entry.1, entry.2.delayTime⟩)
    rw [createAll] at hrest ⊢
    rw [List.foldl_cons, hrest, mem_createTimer_running, List.exists_mem_cons_iff, or_assoc,
      ← and_or_left]

theorem createAll_created (service : TimerService) (entries : List (Nat × PolicyDelayAction))
    (t : Nat) :
    (t ≠ 0 ∧ ∃ entry ∈ entries, t = newId entry.1 ∧
      (createAll newId service entries).created[t]? = some ⟨entry.1, entry.2.delayTime⟩) ∨
    ((∀ entry ∈ entries, t = newId entry.1 → t = 0) ∧
      (createAll newId service entries).created[t]? = service.created[t]?) := by
  induction entries generalizing service with
  | nil => exact Or.inr ⟨by simp, rfl⟩
  | cons entry rest ih =>
    have hcons : createAll newId service (entry :: rest) = createAll newId
      (service.createTimer (newId entry.1) ⟨entry.1, entry.2.delayTime⟩) rest := rfl
    rw [hcons]
    rcases ih (service.createTimer (newId entry.1) ⟨entry.1, entry.2.delayTime⟩) with
      ⟨hne, later, hlater, heq, hcreated⟩ | ⟨hrest, hcreated⟩
    · exact Or.inl ⟨hne, later, List.mem_cons_of_mem _ hlater, heq, hcreated⟩
    · rw [hcreated, createTimer_created]
      by_cases hnew : t ≠ 0 ∧ t = newId entry.1
      · exact Or.inl ⟨hnew.1, entry, List.mem_cons_self, hnew.2, if_pos hnew⟩
      · refine Or.inr ⟨?_, if_neg hnew⟩
        intro later hlater heq
        rcases List.mem_cons.mp hlater with rfl | hlater
        · by_contra hne
          exact hnew ⟨hne, heq⟩
        · exact hrest later hlater heq

end TimerService

/-! ### Execute -/

namespace TimedAction

variable (w : TimedAction) {newId : Nat → Nat} {id t : Nat}

/-- The entry was not requested and its timer is still to fire. -/
def Dropped (w : TimedAction) (id : Nat) (entry : PolicyDelayAction) : Prop :=
  w.action.policyActionMap[id]? = some entry ∧ id ∉ w.action.actionIdList ∧
    entry.isCompleted = false

def Started (w : TimedAction) (id : Nat) (entry : PolicyDelayAction) : Prop :=
  w.action.policyActionMap[id]? = some entry ∧ id ∈ w.action.actionIdList ∧
    entry.needsTimer = true

theorem dropUnrequested_entry :
    w.dropUnrequested.action.policyActionMap[id]? =
      if id ∈ w.action.actionIdList then w.action.policyActionMap[id]? else none := by
  rw [dropUnrequested, Std.ExtTreeMap.getElem?_filter']
  by_cases hid : id ∈ w.action.actionIdList
  · rw [if_pos hid]
    cases w.action.policyActionMap[id]? <;> simp [hid]
  · rw [if_neg hid]
    cases w.action.policyActionMap[id]? <;> simp [hid]

theorem execute_entry :
    (w.execute newId).action.policyActionMap[id]? =
      if id ∈ w.action.actionIdList then
        (w.action.policyActionMap[id]?).map (started (newId id))
      else none := by
  have hmap : (w.execute newId).action.policyActionMap =
      (w.dropUnrequested.startTimers newId).action.policyActionMap :=
    Action.executeInner_policyActionMap _
  have hstart : (w.dropUnrequested.startTimers newId).action.policyActionMap[id]? =
      (w.dropUnrequested.action.policyActionMap[id]?).map (started (newId id)) :=
    Std.ExtTreeMap.getElem?_map
  rw [hmap, hstart, dropUnrequested_entry]
  split <;> rfl

@[simp] theorem execute_actionIdList : (w.execute newId).action.actionIdList = [] := by
  rw [execute, executeInner, Action.executeInner_actionIdList]
  rfl

@[simp] theorem execute_valueList : (w.execute newId).action.valueList = [] := rfl

@[simp] theorem execute_cls : (w.execute newId).action.cls = w.action.cls := by
  rw [execute, executeInner, Action.executeInner_cls]
  rfl

@[simp] theorem execute_isStrict : (w.execute newId).action.isStrict = w.action.isStrict := by
  rw [execute, executeInner, Action.executeInner_isStrict]
  rfl

theorem execute_lastValue :
    (w.execute newId).action.lastValue = w.action.cls.toResult
      (decided w.action.isStrict w.action.cls.fallbackValue
        (w.action.valueList ++ (w.execute newId).action.completedValues)) := by
  have hvalues : (w.execute newId).action.completedValues =
      (w.dropUnrequested.startTimers newId).action.completedValues := by
    rw [execute, executeInner, Action.completedValues, Action.completedValues]
    simp only [Action.executeInner_policyActionMap, Action.executeInner_cls]
  rw [hvalues]
  exact Action.executeInner_lastValue _

@[simp] theorem execute_fired : (w.execute newId).timers.fired = w.timers.fired := by
  refine (TimerService.createAll_fired _ _).trans ?_
  exact TimerService.destroyAll_fired _ _

private theorem mem_droppedEntries {id : Nat} {entry : PolicyDelayAction} :
    (id, entry) ∈ w.action.policyActionMap.toList.filter (fun policyAction =>
        !w.action.actionIdList.contains policyAction.1 && !policyAction.2.isCompleted) ↔
      w.Dropped id entry := by
  rw [List.mem_filter, Std.ExtTreeMap.mem_toList_iff_getElem?_eq_some, Dropped]
  simp

private theorem mem_startedEntries {id : Nat} {entry : PolicyDelayAction} :
    (id, entry) ∈ w.dropUnrequested.action.policyActionMap.toList.filter
        (fun policyAction => policyAction.2.needsTimer) ↔ w.Started id entry := by
  rw [List.mem_filter, Std.ExtTreeMap.mem_toList_iff_getElem?_eq_some, dropUnrequested_entry,
    Started]
  by_cases hid : id ∈ w.action.actionIdList
  · simp [hid]
  · simp [hid]

theorem mem_execute_running :
    t ∈ (w.execute newId).timers.running ↔
      (t ∈ w.timers.running ∧ ∀ id entry, w.Dropped id entry → t ≠ entry.delayTimerId) ∨
      (t ≠ 0 ∧ ∃ id entry, w.Started id entry ∧ t = newId id) := by
  refine TimerService.mem_createAll_running.trans (or_congr ?_ (and_congr_right fun _ => ?_))
  · refine TimerService.mem_destroyAll_running.trans (and_congr_right fun _ => ?_)
    exact ⟨fun h id entry hdropped => h (id, entry) (w.mem_droppedEntries.mpr hdropped),
      fun h p hp => h p.1 p.2 (w.mem_droppedEntries.mp hp)⟩
  · exact ⟨fun ⟨p, hp, heq⟩ => ⟨p.1, p.2, w.mem_startedEntries.mp hp, heq⟩,
      fun ⟨id, entry, hstarted, heq⟩ => ⟨(id, entry), w.mem_startedEntries.mpr hstarted, heq⟩⟩

theorem execute_created (newId : Nat → Nat) (t : Nat) :
    (t ≠ 0 ∧ ∃ id entry, w.Started id entry ∧ t = newId id ∧
      (w.execute newId).timers.created[t]? = some ⟨id, entry.delayTime⟩) ∨
    ((∀ id entry, w.Started id entry → t = newId id → t = 0) ∧
      (w.execute newId).timers.created[t]? = w.timers.created[t]?) := by
  rcases @TimerService.createAll_created newId w.dropUnrequested.timers
      (w.dropUnrequested.action.policyActionMap.toList.filter
        fun policyAction => policyAction.2.needsTimer) t with
    ⟨hne, ⟨id, entry⟩, hentry, heq, hcreated⟩ | ⟨hnone, hcreated⟩
  · exact Or.inl ⟨hne, id, entry, w.mem_startedEntries.mp hentry, heq, hcreated⟩
  · refine Or.inr ⟨fun id entry hstarted =>
      hnone (id, entry) (w.mem_startedEntries.mpr hstarted), hcreated.trans ?_⟩
    rw [dropUnrequested]
    exact congrArg (fun created : Map Nat ThermalTimerInfo => created[t]?)
      (TimerService.destroyAll_created _ _)

/-! ### Rounds -/

variable {w} {calls : List Call}

@[simp] theorem round_cls : (w.round calls newId).action.cls = w.action.cls := by
  rw [round, execute_cls]
  exact Action.addCalls_cls calls

@[simp] theorem round_isStrict : (w.round calls newId).action.isStrict = w.action.isStrict := by
  rw [round, execute_isStrict]
  exact Action.addCalls_isStrict calls

@[simp] theorem round_fired : (w.round calls newId).timers.fired = w.timers.fired :=
  execute_fired _

/-- A round decides over what was in the list, its immediate values and the completed entries. -/
theorem round_lastValue (calls : List Call) (newId : Nat → Nat) :
    (w.round calls newId).action.lastValue = w.action.cls.toResult
      (decided w.action.isStrict w.action.cls.fallbackValue
        (w.action.valueList ++ Action.immediateValues w.action.cls calls ++
          (w.round calls newId).action.completedValues)) := by
  have hlist : (w.addCalls calls).action.valueList =
      w.action.valueList ++ Action.immediateValues w.action.cls calls :=
    Action.addCalls_valueList calls
  have hcls : (w.addCalls calls).action.cls = w.action.cls := Action.addCalls_cls calls
  have hstrict : (w.addCalls calls).action.isStrict = w.action.isStrict :=
    Action.addCalls_isStrict calls
  have happly := @execute_lastValue (w.addCalls calls) newId
  rw [hlist, hcls, hstrict] at happly
  exact happly

section Idle

variable (hidle : w.action.actionIdList = [])
include hidle

theorem mem_addCalls_requested :
    id ∈ (w.addCalls calls).action.actionIdList ↔ id ∈ requestedIds calls := by
  refine (Action.mem_addCalls_actionIdList calls id).trans ?_
  rw [hidle]
  simp

theorem round_entry_of_not_requested (hid : id ∉ requestedIds calls) :
    (w.round calls newId).action.policyActionMap[id]? = none := by
  rw [round, execute_entry, if_neg (mt (mem_addCalls_requested hidle).mp hid)]

theorem round_entry (hid : id ∈ requestedIds calls) :
    (w.round calls newId).action.policyActionMap[id]? =
      ((w.addCalls calls).action.policyActionMap[id]?).map (started (newId id)) := by
  rw [round, execute_entry, if_pos ((mem_addCalls_requested hidle).mpr hid)]

/-- An entry that stays requested keeps its timer, or is given one if it needs one. -/
theorem round_entry_kept (newId : Nat → Nat) (hid : id ∈ requestedIds calls)
    {entry : PolicyDelayAction} (hentry : w.action.policyActionMap[id]? = some entry) :
    ∃ entry', (w.round calls newId).action.policyActionMap[id]? = some entry' ∧
      SameTimer (entry.started (newId id)) entry' := by
  obtain ⟨mid, hmid, hsame⟩ := Action.addCalls_sameTimer calls hentry
  refine ⟨mid.started (newId id), ?_, hsame.started (newId id)⟩
  rw [round_entry hidle hid]
  exact congrArg (Option.map _) hmid

theorem round_entry_fresh (newId : Nat → Nat) (hid : id ∈ requestedIds calls)
    (hnone : w.action.policyActionMap[id]? = none) :
    ∃ fresh value entry', .delayed id fresh value ∈ calls ∧
      (w.round calls newId).action.policyActionMap[id]? = some entry' ∧
      SameTimer (fresh.started (newId id)) entry' := by
  obtain ⟨fresh, value, mid, hmem, hmid, hsame⟩ := Action.addCalls_fresh calls hnone hid
  refine ⟨fresh, value, mid.started (newId id), hmem, ?_, hsame.started (newId id)⟩
  rw [round_entry hidle hid]
  exact congrArg (Option.map _) hmid

theorem requested_of_round_entry {entry' : PolicyDelayAction}
    (hentry : (w.round calls newId).action.policyActionMap[id]? = some entry') :
    id ∈ requestedIds calls := by
  by_contra hid
  rw [round_entry_of_not_requested hidle hid] at hentry
  cases hentry

theorem dropped_addCalls_iff {entry : PolicyDelayAction} :
    (w.addCalls calls).Dropped id entry ↔ w.action.policyActionMap[id]? = some entry ∧
      id ∉ requestedIds calls ∧ entry.isCompleted = false := by
  rw [Dropped, mem_addCalls_requested hidle]
  apply and_congr_left
  intro hdropped
  have hsame : (w.addCalls calls).action.policyActionMap[id]? = w.action.policyActionMap[id]? :=
    Action.addCalls_entry_of_not_mem calls hdropped.1
  rw [hsame]

/-- A started entry is in the map afterwards, with the new timer. -/
theorem started_addCalls (newId : Nat → Nat) {entry : PolicyDelayAction}
    (hstarted : (w.addCalls calls).Started id entry) :
    id ∈ requestedIds calls ∧ (w.round calls newId).action.policyActionMap[id]? =
      some { entry with delayTimerId := newId id } ∧ entry.isCompleted = false := by
  obtain ⟨hentry, hid, hneeds⟩ := hstarted
  have hrequested := (mem_addCalls_requested hidle).mp hid
  refine ⟨hrequested, ?_, (needsTimer_iff.mp hneeds).1⟩
  rw [round_entry hidle hrequested, hentry, Option.map_some, PolicyDelayAction.started,
    if_pos hneeds]

end Idle

/-! ### The timer callback -/

/-- The action once the callback of a timer has completed an entry. -/
def complete (w : TimedAction) (timerId id : Nat) (entry : PolicyDelayAction) : TimedAction where
  action := Action.executeInner { w.action with
    policyActionMap := w.action.policyActionMap.insert id { entry with isCompleted := true } }
  timers := { w.timers.destroyTimer entry.delayTimerId with
    fired := timerId :: w.timers.fired }

section Complete

variable {timerId : Nat} {entry : PolicyDelayAction}

@[simp] theorem complete_cls : (w.complete timerId id entry).action.cls = w.action.cls :=
  Action.executeInner_cls _

@[simp] theorem complete_isStrict :
    (w.complete timerId id entry).action.isStrict = w.action.isStrict :=
  Action.executeInner_isStrict _

@[simp] theorem complete_actionIdList :
    (w.complete timerId id entry).action.actionIdList = w.action.actionIdList :=
  Action.executeInner_actionIdList _

@[simp] theorem complete_valueList : (w.complete timerId id entry).action.valueList = [] := rfl

theorem complete_entry (id' : Nat) :
    (w.complete timerId id entry).action.policyActionMap[id']? =
      if id = id' then some { entry with isCompleted := true }
      else w.action.policyActionMap[id']? := by
  rw [complete, Action.executeInner_policyActionMap]
  simp only [Std.ExtTreeMap.getElem?_insert, compare_eq_iff_eq]

theorem complete_entry_self : (w.complete timerId id entry).action.policyActionMap[id]? =
    some { entry with isCompleted := true } := by
  rw [complete_entry, if_pos rfl]

theorem complete_entry_of_ne {id' : Nat} (hne : id ≠ id') :
    (w.complete timerId id entry).action.policyActionMap[id']? =
      w.action.policyActionMap[id']? := by
  rw [complete_entry, if_neg hne]

theorem complete_entry_cases {id' : Nat} {entry' : PolicyDelayAction}
    (hentry' : (w.complete timerId id entry).action.policyActionMap[id']? = some entry') :
    id = id' ∧ entry' = { entry with isCompleted := true } ∨
      id ≠ id' ∧ w.action.policyActionMap[id']? = some entry' := by
  by_cases hid : id = id'
  · subst hid
    rw [complete_entry_self] at hentry'
    exact Or.inl ⟨rfl, (Option.some.inj hentry').symm⟩
  · rw [complete_entry_of_ne hid] at hentry'
    exact Or.inr ⟨hid, hentry'⟩

theorem complete_entry_kept {id' : Nat} {entry' : PolicyDelayAction}
    (hentry : w.action.policyActionMap[id]? = some entry)
    (hentry' : w.action.policyActionMap[id']? = some entry') :
    ∃ kept, (w.complete timerId id entry).action.policyActionMap[id']? = some kept ∧
      ∀ slot, kept.delayValue slot = entry'.delayValue slot := by
  by_cases hid : id = id'
  · subst hid
    obtain rfl := Option.some.inj (hentry.symm.trans hentry')
    exact ⟨_, complete_entry_self, fun _ => rfl⟩
  · exact ⟨entry', (complete_entry_of_ne hid).trans hentry', fun _ => rfl⟩

theorem mem_complete_running {t : Nat} : t ∈ (w.complete timerId id entry).timers.running ↔
    t ∈ w.timers.running ∧ t ≠ entry.delayTimerId :=
  TimerService.mem_destroyTimer_running

theorem complete_lastValue :
    (w.complete timerId id entry).action.lastValue = w.action.cls.toResult
      (decided w.action.isStrict w.action.cls.fallbackValue
        (w.action.valueList ++ (w.complete timerId id entry).action.completedValues)) := by
  rw [complete, Action.executeInner_lastValue, Action.completedValues, Action.completedValues,
    Action.executeInner_policyActionMap, Action.executeInner_cls]

end Complete

theorem timerCallback_eq {timerId delayTime : Nat} {entry : PolicyDelayAction}
    (hcreated : w.timers.created[timerId]? = some ⟨id, delayTime⟩)
    (hentry : w.action.policyActionMap[id]? = some entry) :
    w.timerCallback timerId = w.complete timerId id entry := by
  rw [timerCallback, hcreated]
  dsimp only
  rw [hentry]
  rfl

theorem timerCallback_cases (w : TimedAction) (timerId : Nat) :
    w.timerCallback timerId = w ∨
      ∃ id entry, w.timerCallback timerId = w.complete timerId id entry := by
  cases hcreated : w.timers.created[timerId]? with
  | none =>
    left
    rw [timerCallback, hcreated]
  | some info =>
    cases hentry : w.action.policyActionMap[info.actionId]? with
    | none =>
      left
      rw [timerCallback, hcreated]
      dsimp only
      rw [hentry]
    | some entry => exact Or.inr ⟨info.actionId, entry, timerCallback_eq hcreated hentry⟩

end TimedAction

end ThermalManager
