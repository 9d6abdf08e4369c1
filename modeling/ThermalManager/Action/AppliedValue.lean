import ThermalManager.Action.TimerOwner
import ThermalManager.Action.Lifecycle

/-!
# The value an action has applied

The law says what an action should have applied: the extreme of the immediate values of the current
round and of the delayed values of this round whose timer has fired, or the fallback. The action
keeps its own books, a list that is cleared by every decision and a map that is not. The two agree
along every run whose callbacks never have an immediate value to lose.
-/

namespace ThermalManager

open StepSystem PolicyDelayAction Extremum

/-! ### The law -/

/-- The immediate values of the current round, its delayed values by id, and the ids whose timer
has fired since they were last not requested. -/
structure AppliedLaw where
  immediates : List Int := []
  delayed : List (Nat × Int) := []
  fired : List Nat := []

namespace AppliedLaw

def firedValues (law : AppliedLaw) : List Int :=
  (law.delayed.filter fun p => law.fired.contains p.1).map Prod.snd

def value (law : AppliedLaw) (cls : ActionClass) (isStrict : Bool) : Int :=
  decided isStrict cls.fallbackValue (law.immediates ++ law.firedValues)

def round (law : AppliedLaw) (cls : ActionClass) (calls : List Call) : AppliedLaw where
  immediates := calls.flatMap fun
    | .immediate value => (cls.parse value).toList
    | .delayed _ _ _ => []
  delayed := calls.filterMap fun
    | .immediate _ => none
    | .delayed actionId _ value => (cls.parse value).map fun v => (actionId, v)
  fired := law.fired.filter fun actionId => (requestedIds calls).contains actionId

def fire (law : AppliedLaw) (actionId : Nat) : AppliedLaw :=
  { law with fired := actionId :: law.fired }

def step (law : AppliedLaw) (w : TimedAction) : RoundEvent → AppliedLaw
  | .round calls _ => law.round w.action.cls calls
  | .fire timerId => (w.timers.created[timerId]?).elim law fun info => law.fire info.actionId

theorem step_fire_immediates (law : AppliedLaw) (w : TimedAction) (timerId : Nat) :
    (law.step w (.fire timerId)).immediates = law.immediates := by
  rw [step]
  cases w.timers.created[timerId]? <;> rfl

theorem mem_firedValues {law : AppliedLaw} {v : Int} :
    v ∈ law.firedValues ↔ ∃ actionId ∈ law.fired, (actionId, v) ∈ law.delayed := by
  simp only [firedValues, List.mem_map, List.mem_filter, List.contains_iff_mem, Prod.exists,
    exists_eq_right]
  exact ⟨fun ⟨id, hmem, hfired⟩ => ⟨id, hfired, hmem⟩, fun ⟨id, hfired, hmem⟩ => ⟨id, hmem, hfired⟩⟩

theorem mem_round_delayed {law : AppliedLaw} {cls : ActionClass} {calls : List Call} {id : Nat}
    {v : Int} : (id, v) ∈ (law.round cls calls).delayed ↔
      ∃ fresh value, .delayed id fresh value ∈ calls ∧ cls.parse value = some v := by
  simp only [round, List.mem_filterMap]
  refine ⟨fun h => ?_, fun h => ?_⟩
  · obtain ⟨call, hmem, hcall⟩ := h
    cases call with
    | immediate value => cases hcall
    | delayed actionId fresh value =>
      obtain ⟨v', hparse, heq⟩ := Option.map_eq_some_iff.mp hcall
      cases heq
      exact ⟨fresh, value, hmem, hparse⟩
  · obtain ⟨fresh, value, hmem, hparse⟩ := h
    exact ⟨_, hmem, Option.map_eq_some_iff.mpr ⟨v, hparse, rfl⟩⟩

end AppliedLaw

/-! ### The steps the law speaks about, and those the action gets right -/

namespace TimedAction

/-- Delayed entries have distinct positive ids and the time service behaves. -/
def LawfulStep (w : TimedAction) : RoundEvent → Prop
  | .round calls newId => (requestedIds calls).Nodup ∧ (∀ id ∈ requestedIds calls, 0 < id) ∧
      w.UsableIds (requestedIds calls) newId
  | .fire timerId => timerId ∈ w.timers.running

/-- A new delayed entry is inserted pending, and its text is a value that survives the field it is
kept in. -/
def SoundCall (w : TimedAction) : Call → Prop
  | .immediate _ => True
  | .delayed actionId fresh value =>
      (w.action.policyActionMap[actionId]? = none → fresh.isCompleted = false) ∧
        ∃ v, w.action.cls.parse value = some v ∧ w.action.cls.stored v = v

/-- The step loses nothing: delayed entries are sound, every immediate value of the round is beaten
by a fired one when a timer calls back, and the value of the law survives the conversion to the type
of the result. -/
def LosslessStep (w : TimedAction) (law : AppliedLaw) (e : RoundEvent) : Prop :=
  (match e with
    | .round calls _ => ∀ call ∈ calls, w.SoundCall call
    | .fire _ => ∀ v ∈ law.immediates,
        ∃ u ∈ (law.step w e).firedValues, Beats w.action.isStrict u v) ∧
  w.action.cls.toResult ((law.step w e).value w.action.cls w.action.isStrict) =
    (law.step w e).value w.action.cls w.action.isStrict

def lawStep (s : TimedAction × AppliedLaw) (e : RoundEvent) : TimedAction × AppliedLaw :=
  (s.1.step e, s.2.step s.1 e)

/-! ### The books agree -/

/-- Entries and law agree on ids, values and what has fired. -/
structure AgreesWith (w : TimedAction) (law : AppliedLaw) : Prop where
  idle : w.action.actionIdList = []
  empty : w.action.valueList = []
  owned : w.TimersOwned
  entry : ∀ (id : Nat) (entry : PolicyDelayAction), w.action.policyActionMap[id]? = some entry →
    (entry.isCompleted = true ↔ id ∈ law.fired) ∧
      (id, entry.delayValue w.action.cls.slot) ∈ law.delayed
  delayed : ∀ (id : Nat) (v : Int), (id, v) ∈ law.delayed →
    ∃ entry, w.action.policyActionMap[id]? = some entry ∧ entry.delayValue w.action.cls.slot = v
  fired : ∀ id ∈ law.fired, ∃ entry, w.action.policyActionMap[id]? = some entry

variable {w : TimedAction} {law : AppliedLaw}

theorem AgreesWith.mem_completedValues (h : w.AgreesWith law) {v : Int} :
    v ∈ w.action.completedValues ↔ v ∈ law.firedValues := by
  rw [Action.mem_completedValues, AppliedLaw.mem_firedValues]
  refine ⟨fun hcompleted => ?_, fun hfired => ?_⟩
  · obtain ⟨id, entry, hentry, hcompleted, rfl⟩ := hcompleted
    obtain ⟨hfired, hmem⟩ := h.entry id entry hentry
    exact ⟨id, hfired.mp hcompleted, hmem⟩
  · obtain ⟨id, hfired, hmem⟩ := hfired
    obtain ⟨entry, hentry, hvalue⟩ := h.delayed id v hmem
    exact ⟨id, entry, hentry, (h.entry id entry hentry).1.mpr hfired, hvalue⟩

theorem agreesWith_init (cls : ActionClass) (isStrict : Bool) :
    (init cls isStrict).AgreesWith {} where
  idle := rfl
  empty := rfl
  owned := timersOwned_init cls isStrict
  entry := by simp [TimedAction.init]
  delayed := by simp
  fired := by simp

section Round

variable {calls : List Call} {newId : Nat → Nat}

/-- With positive ids only the immediate calls add to the list. -/
theorem immediateValues_eq (hpos : ∀ id ∈ requestedIds calls, 0 < id) :
    Action.immediateValues w.action.cls calls = (law.round w.action.cls calls).immediates := by
  rw [Action.immediateValues, AppliedLaw.round]
  apply List.flatMap_congr
  intro call hmem
  cases call with
  | immediate value => rfl
  | delayed actionId fresh value =>
    have hid : actionId ∈ requestedIds calls := List.mem_filterMap.mpr ⟨_, hmem, rfl⟩
    exact if_neg (Nat.pos_iff_ne_zero.mp (hpos actionId hid))

theorem exists_delayed_of_requested {id : Nat} (hid : id ∈ requestedIds calls) :
    ∃ fresh value, .delayed id fresh value ∈ calls := by
  obtain ⟨call, hmem, hcall⟩ := List.mem_filterMap.mp hid
  cases call with
  | immediate value => cases hcall
  | delayed actionId fresh value =>
    cases hcall
    exact ⟨fresh, value, hmem⟩

theorem round_entry_value (newId : Nat → Nat) (hidle : w.action.actionIdList = [])
    (hnodup : (requestedIds calls).Nodup) {id : Nat} (hpos : 0 < id)
    {fresh : PolicyDelayAction} {value : String} (hmem : .delayed id fresh value ∈ calls)
    {v : Int} (hparse : w.action.cls.parse value = some v) :
    ∃ entry, (w.round calls newId).action.policyActionMap[id]? = some entry ∧
      entry.delayValue w.action.cls.slot = w.action.cls.stored v := by
  obtain ⟨mid, hmid, hvalue⟩ := Action.addCalls_value calls hpos hnodup hmem hparse
  have hid : id ∈ requestedIds calls := List.mem_filterMap.mpr ⟨_, hmem, rfl⟩
  refine ⟨mid.started (newId id), ?_, ?_⟩
  · rw [round_entry hidle hid]
    exact congrArg (Option.map _) hmid
  · rw [started_delayValue, hvalue]

theorem AgreesWith.round_value (h : w.AgreesWith law) (newId : Nat → Nat)
    (hnodup : (requestedIds calls).Nodup) (hpos : ∀ id ∈ requestedIds calls, 0 < id)
    (hsound : ∀ call ∈ calls, w.SoundCall call) {id : Nat} {fresh : PolicyDelayAction}
    {value : String} (hmem : .delayed id fresh value ∈ calls) :
    ∃ v entry, w.action.cls.parse value = some v ∧
      (w.round calls newId).action.policyActionMap[id]? = some entry ∧
      entry.delayValue w.action.cls.slot = v := by
  obtain ⟨-, v, hparse, hstored⟩ := hsound _ hmem
  have hid : id ∈ requestedIds calls := List.mem_filterMap.mpr ⟨_, hmem, rfl⟩
  obtain ⟨entry, hentry, hdelay⟩ :=
    round_entry_value newId h.idle hnodup (hpos id hid) hmem hparse
  exact ⟨v, entry, hparse, hentry, hdelay.trans hstored⟩

theorem AgreesWith.round_completed (h : w.AgreesWith law)
    (hsound : ∀ call ∈ calls, w.SoundCall call) {id : Nat} {entry' : PolicyDelayAction}
    (hentry' : (w.round calls newId).action.policyActionMap[id]? = some entry') :
    entry'.isCompleted = true ↔ id ∈ law.fired := by
  have hid := requested_of_round_entry h.idle hentry'
  cases hentry : w.action.policyActionMap[id]? with
  | none =>
    obtain ⟨fresh, value, entry, hmem, hlookup, hsame⟩ :=
      round_entry_fresh h.idle newId hid hentry
    obtain rfl := Option.some.inj (hentry'.symm.trans hlookup)
    have hpending := (hsound _ hmem).1 hentry
    have hnot : id ∉ law.fired := by
      intro hfired
      obtain ⟨entry, hknown⟩ := h.fired id hfired
      rw [hentry] at hknown
      cases hknown
    rw [hsame.isCompleted, started_isCompleted, hpending]
    exact iff_of_false Bool.false_ne_true hnot
  | some entry =>
    obtain ⟨kept, hkept, hsame⟩ := round_entry_kept h.idle newId hid hentry
    obtain rfl := Option.some.inj (hentry'.symm.trans hkept)
    rw [hsame.isCompleted, started_isCompleted]
    exact (h.entry id entry hentry).1

theorem AgreesWith.round (h : w.AgreesWith law) (hlawful : w.LawfulStep (.round calls newId))
    (hsound : ∀ call ∈ calls, w.SoundCall call) :
    (w.round calls newId).AgreesWith (law.round w.action.cls calls) := by
  obtain ⟨hnodup, hpos, hids⟩ := hlawful
  refine {
    idle := execute_actionIdList _
    empty := execute_valueList _
    owned := h.owned.round h.idle hids
    entry := ?entry
    delayed := ?delayed
    fired := ?fired }
  case entry =>
    intro id entry' hentry'
    rw [round_cls]
    have hid := requested_of_round_entry h.idle hentry'
    have hrequested : (requestedIds calls).contains id = true := List.contains_iff_mem.mpr hid
    refine ⟨?_, ?_⟩
    · have hfired : id ∈ (law.round w.action.cls calls).fired ↔ id ∈ law.fired := by
        simp [AppliedLaw.round, hid]
      rw [hfired]
      exact h.round_completed hsound hentry'
    · obtain ⟨fresh, value, hmem⟩ := exists_delayed_of_requested hid
      obtain ⟨v, entry, hparse, hlookup, hdelay⟩ := h.round_value newId hnodup hpos hsound hmem
      obtain rfl := Option.some.inj (hentry'.symm.trans hlookup)
      rw [hdelay]
      exact AppliedLaw.mem_round_delayed.mpr ⟨fresh, value, hmem, hparse⟩
  case delayed =>
    intro id v hmem
    rw [round_cls]
    obtain ⟨fresh, value, hcall, hparse⟩ := AppliedLaw.mem_round_delayed.mp hmem
    obtain ⟨v', entry, hparse', hentry, hdelay⟩ := h.round_value newId hnodup hpos hsound hcall
    obtain rfl := Option.some.inj (hparse.symm.trans hparse')
    exact ⟨entry, hentry, hdelay⟩
  case fired =>
    intro id hfired
    have hid : id ∈ requestedIds calls := List.contains_iff_mem.mp (List.mem_filter.mp hfired).2
    obtain ⟨fresh, value, hmem⟩ := exists_delayed_of_requested hid
    obtain ⟨v, entry, -, hentry, -⟩ := h.round_value newId hnodup hpos hsound hmem
    exact ⟨entry, hentry⟩

end Round

theorem AgreesWith.fire (h : w.AgreesWith law) {timerId : Nat}
    (hrunning : timerId ∈ w.timers.running) :
    (w.timerCallback timerId).AgreesWith (law.step w (.fire timerId)) := by
  have howned := h.owned.fire hrunning
  obtain ⟨id, entry, ⟨hentry, hpending, htimer, delayTime, hcreated⟩, hstep⟩ :=
    h.owned.fire_eq hrunning
  have hlaw : law.step w (.fire timerId) = law.fire id := by
    rw [AppliedLaw.step, hcreated]
    rfl
  rw [hlaw]
  rw [hstep] at howned ⊢
  refine {
    idle := complete_actionIdList.trans h.idle
    empty := rfl
    owned := howned
    entry := ?entry
    delayed := ?delayed
    fired := ?fired }
  case entry =>
    intro id' entry' hentry'
    rw [complete_cls]
    rcases complete_entry_cases hentry' with ⟨rfl, rfl⟩ | ⟨hid, hentry'⟩
    · exact ⟨iff_of_true rfl List.mem_cons_self, (h.entry id entry hentry).2⟩
    · obtain ⟨hfired, hmem⟩ := h.entry id' entry' hentry'
      exact ⟨hfired.trans ⟨List.mem_cons_of_mem _, fun hcons =>
        (List.mem_cons.mp hcons).resolve_left (Ne.symm hid)⟩, hmem⟩
  case delayed =>
    intro id' v hmem
    obtain ⟨entry', hentry', hvalue⟩ := h.delayed id' v hmem
    obtain ⟨kept, hkept, hsame⟩ := complete_entry_kept hentry hentry'
    rw [complete_cls]
    exact ⟨kept, hkept, (hsame _).trans hvalue⟩
  case fired =>
    intro id' hfired
    have hknown : ∃ entry', w.action.policyActionMap[id']? = some entry' := by
      rcases List.mem_cons.mp hfired with rfl | hfired
      · exact ⟨entry, hentry⟩
      · exact h.fired id' hfired
    obtain ⟨entry', hentry'⟩ := hknown
    obtain ⟨kept, hkept, -⟩ := complete_entry_kept hentry hentry'
    exact ⟨kept, hkept⟩

/-! ### The applied value -/

theorem AgreesWith.step (h : w.AgreesWith law) {e : RoundEvent} (hlawful : w.LawfulStep e)
    (hlossless : w.LosslessStep law e) : (w.step e).AgreesWith (law.step w e) := by
  cases e with
  | round calls newId => exact h.round hlawful hlossless.1
  | fire timerId => exact h.fire hlawful

theorem step_cls (h : w.AgreesWith law) {e : RoundEvent} (hlawful : w.LawfulStep e) :
    (w.step e).action.cls = w.action.cls ∧ (w.step e).action.isStrict = w.action.isStrict := by
  cases e with
  | round calls newId => exact ⟨round_cls, round_isStrict⟩
  | fire timerId =>
    obtain ⟨id, entry, -, hstep⟩ := h.owned.fire_eq hlawful
    rw [TimedAction.step, hstep]
    exact ⟨complete_cls, complete_isStrict⟩

/-- Every lossless step applies the value of the law. -/
theorem AgreesWith.lastValue_step (h : w.AgreesWith law) {e : RoundEvent}
    (hlawful : w.LawfulStep e) (hlossless : w.LosslessStep law e) :
    (w.step e).action.lastValue = (law.step w e).value w.action.cls w.action.isStrict := by
  have hafter := h.step hlawful hlossless
  rw [← hlossless.2, AppliedLaw.value]
  cases e with
  | round calls newId =>
    have himmediates := @immediateValues_eq w law calls hlawful.2.1
    refine (round_lastValue calls newId).trans ?_
    rw [h.empty, List.nil_append, himmediates]
    refine congrArg w.action.cls.toResult (decided_congr fun v => ?_)
    rw [List.mem_append, List.mem_append]
    exact or_congr_right hafter.mem_completedValues
  | fire timerId =>
    obtain ⟨id, entry, -, hstep⟩ := h.owned.fire_eq hlawful
    -- the list is empty here: the immediate values of the round are gone
    rw [AppliedLaw.step_fire_immediates, decided_append_of_beaten hlossless.1]
    rw [TimedAction.step, hstep] at hafter ⊢
    rw [complete_lastValue, h.empty, List.nil_append]
    exact congrArg w.action.cls.toResult (decided_congr fun v => hafter.mem_completedValues)

/-- **The applied value follows the law.** In every run whose steps lose nothing the action has
applied, after every `Execute` and every callback, the extreme of the immediate values of the
current round and of its delayed values whose timer has fired, or the fallback. -/
theorem lastValue_eq_law {cls : ActionClass} {isStrict : Bool} {events : List RoundEvent}
    (hne : events ≠ [])
    (hrun : Run (fun s e => s.1.LawfulStep e ∧ s.1.LosslessStep s.2 e) lawStep
      (init cls isStrict, {}) events (w, law)) :
    w.action.lastValue = law.value cls isStrict := by
  have hinit : (init cls isStrict).AgreesWith {} := agreesWith_init cls isStrict
  refine hrun.after_last
    (fun s => s.1.AgreesWith s.2 ∧ s.1.action.cls = cls ∧ s.1.action.isStrict = isStrict)
    (fun s => s.1.action.lastValue = s.2.value cls isStrict) ⟨hinit, rfl, rfl⟩ ?_ ?_ hne
  · intro s e hinv hok
    obtain ⟨h, rfl, rfl⟩ := hinv
    exact ⟨h.step hok.1 hok.2, step_cls h hok.1⟩
  · intro s e hinv hok
    obtain ⟨h, rfl, rfl⟩ := hinv
    exact h.lastValue_step hok.1 hok.2

/-- A round with an immediate value of 2000 and a delayed one, and the callback of its timer. -/
def delayedRound (value : String) : List RoundEvent :=
  [.round [.immediate "2000", .delayed 1 cleanEntry value] (fun _ => 7), .fire 7]

def afterDelayedRound (value : String) : TimedAction × AppliedLaw :=
  (delayedRound value).foldl lawStep (init actionCharger true, {})

/-- The delayed value is the smaller one: nothing is lost. -/
theorem delayed_1000_eq_law :
    (afterDelayedRound "1000").1.action.lastValue =
      (afterDelayedRound "1000").2.value actionCharger true := by
  have hround : (init actionCharger true).LawfulStep
      (.round [.immediate "2000", .delayed 1 cleanEntry "1000"] (fun _ => 7)) :=
    ⟨by decide, by decide, by decide⟩
  have hsound : (init actionCharger true).LosslessStep {}
      (.round [.immediate "2000", .delayed 1 cleanEntry "1000"] (fun _ => 7)) := by
    refine ⟨?_, by decide +kernel⟩
    intro call hmem
    rcases List.mem_cons.mp hmem with rfl | hmem
    · trivial
    · obtain rfl := List.mem_singleton.mp hmem
      exact ⟨fun _ => rfl, 1000, by decide +kernel, rfl⟩
  have hrun : Run (fun s e => s.1.LawfulStep e ∧ s.1.LosslessStep s.2 e) lawStep
      (init actionCharger true, {}) (delayedRound "1000") (afterDelayedRound "1000") :=
    .snoc (.snoc (.nil _) ⟨hround, hsound⟩)
      ⟨show 7 ∈ _ by decide +kernel, by decide +kernel, by decide +kernel⟩
  exact lastValue_eq_law (by decide) hrun

/-- The delayed value is the greater one: the callback applies it and forgets the value of the
round that is still valid. -/
theorem delayed_3000_ne_law :
    Run (fun s e => s.1.LawfulStep e) lawStep (init actionCharger true, {}) (delayedRound "3000")
      (afterDelayedRound "3000") ∧
    (afterDelayedRound "3000").1.action.lastValue = 3000 ∧
    (afterDelayedRound "3000").2.value actionCharger true = 2000 :=
  ⟨.snoc (.snoc (.nil _) ⟨by decide, by decide, by decide⟩) (show 7 ∈ _ by decide +kernel),
    by decide +kernel, by decide +kernel⟩

end TimedAction

end ThermalManager
