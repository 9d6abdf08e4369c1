import ThermalManager.Action.ThermalLevel

/-!
# What clients see of the thermal level

Only what is broadcast is clamped. What a query or a subscription hands out is the level decided
last, or the initial sentinel. So clients agree with the broadcasts exactly when they ask after a
decision whose outcome is a level.
-/

namespace ThermalManager

open StepSystem Extremum

/-- The action with its listeners, the level last broadcast, and the values that the last call of
`ExecuteInner` decided over. -/
structure LevelHistory where
  service : ActionThermalLevel
  lastBroadcast : Option Int := none
  decidedOver : Option (List Int) := none

def LevelMessage.broadcast? : LevelMessage → Option Int
  | .commonEvent level => some level
  | _ => none

namespace LevelHistory

def start (isStrict : Bool) : LevelHistory := { service := .init isStrict }

def step (s : LevelHistory) (e : LevelEvent) : LevelHistory where
  service := s.service.step e
  lastBroadcast := ((s.service.messages e).findSome? LevelMessage.broadcast?).or s.lastBroadcast
  decidedOver := ((s.service.executed e).map Action.decidedOver).or s.decidedOver

/-- Every level handed out is a level, and an answer is the level last broadcast, `COOL` if there
was none. -/
def HandsOutLevels (s : LevelHistory) (e : LevelEvent) : Prop :=
  ∀ message ∈ s.service.messages e, InLevels message.level ∧
    (message.isAnswer = true →
      message.level = s.lastBroadcast.getD ThermalLevel.cool.value)

/-- There was a decision, and not all of its values are above `ESCAPE` when it takes the least, none
of them when it takes the greatest. -/
def LevelDecided (s : LevelHistory) : Prop :=
  ∃ values, s.decidedOver = some values ∧
    if s.service.timed.action.isStrict then
      values = [] ∨ ∃ v ∈ values, v ≤ maxThermalLevel
    else ∀ v ∈ values, v ≤ maxThermalLevel

/-- Queries, and subscriptions of listeners that are new to their set, come after such a
decision. -/
def AsksAfterDecision (s : LevelHistory) : LevelEvent → Prop
  | .subscribe (some callback) isSync =>
      (s.service.addThermalLevelListeners callback isSync).1 = true → s.LevelDecided
  | .getThermalLevel => s.LevelDecided
  | _ => True

theorem requestedLevel_inLevels (level : Int) : InLevels (requestedLevel level) := by
  rw [requestedLevel]
  by_cases hhigh : level > maxThermalLevel
  · rw [if_pos hhigh]
    decide
  · rw [if_neg hhigh]
    by_cases hlow : level < minThermalLevel
    · rw [if_pos hlow]
      decide
    · rw [if_neg hlow]
      exact ⟨by omega, by omega⟩

theorem requestedLevel_eq {level : Int} (h : InLevels level) : requestedLevel level = level := by
  obtain ⟨hlow, hhigh⟩ := h
  have hle : ¬ level > maxThermalLevel := by omega
  rw [requestedLevel, if_neg hle, if_neg (by omega)]

/-- The level last decided and last broadcast. -/
structure LevelKnown (s : LevelHistory) : Prop where
  typed : s.service.timed.action.Typed
  undecided : s.decidedOver = none → s.service.timed.action.lastValue = intMin
  outcome : ∀ values, s.decidedOver = some values →
    (∀ v ∈ values, 0 ≤ v ∧ v ≤ uintMax) ∧ s.service.timed.action.lastValue =
      toInt32 (decided s.service.timed.action.isStrict minThermalLevel values)
  broadcast : s.service.timed.action.lastValue ≠ intMin →
    s.lastBroadcast = some (requestedLevel s.service.timed.action.lastValue)

theorem levelKnown_start (isStrict : Bool) : LevelKnown (start isStrict) where
  typed := {
    cls := rfl
    valueList := fun _ h => absurd h List.not_mem_nil
    entries := fun id entry h => by
      change (∅ : Map Nat PolicyDelayAction)[id]? = some entry at h
      rw [Std.ExtTreeMap.getElem?_empty] at h
      cases h }
  undecided _ := rfl
  outcome _ h := by cases h
  broadcast h := absurd rfl h

variable {s : LevelHistory}

/-- The converted decision is a level exactly when the decided value is not above `ESCAPE`. -/
theorem inLevels_toInt32 {v : Int} (h : 0 ≤ v ∧ v ≤ uintMax) :
    InLevels (toInt32 v) ↔ v ≤ maxThermalLevel := by
  have hmax : maxThermalLevel = 7 := rfl
  have hmin : minThermalLevel = 0 := rfl
  have hbound : v ≤ 4294967295 := h.2
  rw [InLevels, hmax, hmin, toInt32, Int.bmod_def]
  omega

theorem LevelKnown.inLevels_iff (hs : s.LevelKnown) :
    InLevels s.service.timed.action.lastValue ↔ s.LevelDecided := by
  rw [LevelDecided]
  cases hover : s.decidedOver with
  | none =>
    rw [hs.undecided hover]
    refine iff_of_false (by decide) ?_
    intro h
    obtain ⟨_, hnone, -⟩ := h
    cases hnone
  | some values =>
    obtain ⟨htyped, hlast⟩ := hs.outcome values hover
    have hvalues : (∃ values', some values = some values' ∧
        if s.service.timed.action.isStrict then
          values' = [] ∨ ∃ v ∈ values', v ≤ maxThermalLevel
        else ∀ v ∈ values', v ≤ maxThermalLevel) ↔
        if s.service.timed.action.isStrict then values = [] ∨ ∃ v ∈ values, v ≤ maxThermalLevel
        else ∀ v ∈ values, v ≤ maxThermalLevel := by
      simp
    have hdecided : 0 ≤ decided s.service.timed.action.isStrict minThermalLevel values ∧
        decided s.service.timed.action.isStrict minThermalLevel values ≤ uintMax := by
      rcases decided_eq_or_mem s.service.timed.action.isStrict minThermalLevel values with h | h
      · rw [h]
        decide
      · exact htyped _ h
    rw [hlast, hvalues, inLevels_toInt32 hdecided, decided_le_iff (by decide)]

/-- The request made is for the level that becomes the last one. -/
theorem levelRequest_eq (a : Action) : a.levelRequest =
    if a.executeInner.lastValue ≠ a.lastValue then some a.executeInner.lastValue else none := by
  rw [Action.executeInner_lastValue]
  rfl

theorem messages_of_executed {s : ActionThermalLevel} {e : LevelEvent} {a : Action}
    (h : s.executed e = some a) :
    s.messages e = (a.levelRequest.map s.levelRequest).getD [] := by
  cases e with
  | round calls newId =>
    obtain rfl := Option.some.inj h
    rfl
  | fire timerId =>
    show (((s.executed (.fire timerId)).bind Action.levelRequest).map s.levelRequest).getD [] = _
    rw [h]
    rfl
  | subscribe callback isSync => cases h
  | unSubscribe callback => cases h
  | getThermalLevel => cases h

theorem no_broadcast {s : ActionThermalLevel} {e : LevelEvent} (h : s.executed e = none) :
    (s.messages e).findSome? LevelMessage.broadcast? = none := by
  cases e with
  | round calls newId => cases h
  | fire timerId =>
    show ((((s.executed (.fire timerId)).bind Action.levelRequest).map s.levelRequest).getD
      []).findSome? _ = _
    rw [h]
    rfl
  | subscribe callback isSync =>
    cases callback with
    | none => rfl
    | some callback =>
      show (s.subscribeThermalLevelCallback isSync (some callback)).2.findSome? _ = _
      rw [ActionThermalLevel.subscribeThermalLevelCallback]
      split <;> rfl
  | unSubscribe callback => rfl
  | getThermalLevel => rfl

theorem LevelKnown.congr {s' : LevelHistory} (hs : s.LevelKnown)
    (haction : s'.service.timed.action = s.service.timed.action)
    (hover : s'.decidedOver = s.decidedOver) (hbroadcast : s'.lastBroadcast = s.lastBroadcast) :
    s'.LevelKnown where
  typed := by
    rw [haction]
    exact hs.typed
  undecided := by
    rw [haction, hover]
    exact hs.undecided
  outcome := by
    rw [haction, hover]
    exact hs.outcome
  broadcast := by
    rw [haction, hbroadcast]
    exact hs.broadcast

theorem LevelKnown.step_executed (hs : s.LevelKnown) {e : LevelEvent} {a : Action}
    (hexecuted : s.service.executed e = some a) : (s.step e).LevelKnown := by
  have haction := ActionThermalLevel.step_action s.service e
  rw [hexecuted] at haction
  change (s.step e).service.timed.action = a.executeInner at haction
  obtain ⟨htyped, hstrict, hlast⟩ := ActionThermalLevel.finds_of_executed hs.typed hexecuted
  have hover : (s.step e).decidedOver = some a.decidedOver := by
    show ((s.service.executed e).map _).or _ = _
    rw [hexecuted]
    rfl
  refine { typed := ?typed, undecided := ?undecided, outcome := ?outcome,
           broadcast := ?broadcast }
  case typed =>
    rw [haction]
    exact htyped.executeInner
  case undecided =>
    intro h
    rw [hover] at h
    cases h
  case outcome =>
    intro values h
    rw [hover] at h
    obtain rfl := Option.some.inj h
    refine ⟨fun v hv => htyped.decidedOver hv, ?_⟩
    rw [haction, Action.executeInner_isStrict, Action.executeInner_lastValue, htyped.cls]
    rfl
  case broadcast =>
    show _ → ((s.service.messages e).findSome? _).or _ = _
    rw [haction, messages_of_executed hexecuted, levelRequest_eq]
    intro hne
    by_cases hchanged : a.executeInner.lastValue ≠ a.lastValue
    · rw [if_pos hchanged]
      rfl
    · -- the level stays, and so does what was broadcast
      have hsame : a.executeInner.lastValue = s.service.timed.action.lastValue :=
        (not_not.mp hchanged).trans hlast
      rw [if_neg hchanged, hsame]
      exact hs.broadcast (hsame ▸ hne)

theorem LevelKnown.step (hs : s.LevelKnown) (e : LevelEvent) : (s.step e).LevelKnown := by
  cases hexecuted : s.service.executed e with
  | none =>
    have haction := ActionThermalLevel.step_action s.service e
    rw [hexecuted] at haction
    refine hs.congr haction ?_ ?_
    · show ((s.service.executed e).map _).or _ = _
      rw [hexecuted]
      rfl
    · show (List.findSome? _ _).or _ = _
      rw [no_broadcast hexecuted]
      rfl
  | some a => exact hs.step_executed hexecuted

theorem LevelKnown.answer_iff (hs : s.LevelKnown) :
    (InLevels s.service.timed.action.lastValue ∧
      s.service.timed.action.lastValue = s.lastBroadcast.getD ThermalLevel.cool.value) ↔
      s.LevelDecided := by
  rw [← hs.inLevels_iff]
  refine and_iff_left_of_imp fun hlevel => ?_
  have hne : s.service.timed.action.lastValue ≠ intMin := by
    intro heq
    rw [heq] at hlevel
    revert hlevel
    decide
  rw [hs.broadcast hne, Option.getD_some, requestedLevel_eq hlevel]

theorem LevelKnown.getThermalLevel_eq (hs : s.LevelKnown) :
    s.service.getThermalLevel = s.service.timed.action.lastValue := by
  have hconverted : ∃ v, s.service.timed.action.lastValue = toInt32 v := by
    cases hover : s.decidedOver with
    | none => exact ⟨intMin, hs.undecided hover⟩
    | some values => exact ⟨_, (hs.outcome values hover).2⟩
  obtain ⟨v, hv⟩ := hconverted
  rw [ActionThermalLevel.getThermalLevel, hv]
  simp only [toUint32, toInt32, Int.bmod_def]
  omega

theorem request_inLevels {service : ActionThermalLevel} {request : Option Int}
    {message : LevelMessage} (h : message ∈ (request.map service.levelRequest).getD []) :
    InLevels message.level ∧ message.isAnswer = false := by
  cases request with
  | none => exact absurd h List.not_mem_nil
  | some level =>
    have hlevel := requestedLevel_inLevels level
    rcases List.mem_append.mp h with hasync | hsync
    · rcases List.mem_cons.mp hasync with rfl | hasync
      · exact ⟨hlevel, rfl⟩
      · obtain ⟨listener, -, rfl⟩ := List.mem_map.mp hasync
        exact ⟨hlevel, rfl⟩
    · obtain ⟨listener, -, rfl⟩ := List.mem_map.mp hsync
      exact ⟨hlevel, rfl⟩

theorem LevelKnown.single_iff (hs : s.LevelKnown) {message : LevelMessage}
    (hlevel : message.level = s.service.timed.action.lastValue)
    (hanswer : message.isAnswer = true) :
    (∀ m ∈ [message], InLevels m.level ∧
      (m.isAnswer = true → m.level = s.lastBroadcast.getD ThermalLevel.cool.value)) ↔
      s.LevelDecided := by
  rw [← hs.answer_iff, List.forall_mem_singleton, hlevel, hanswer]
  exact and_congr_right fun _ => forall_prop_of_true rfl

theorem handsOutLevels_iff (hs : s.LevelKnown) (e : LevelEvent) :
    s.HandsOutLevels e ↔ s.AsksAfterDecision e := by
  cases e with
  | round calls newId =>
    refine iff_of_true (fun message hmessage => ?_) trivial
    obtain ⟨hlevel, hanswer⟩ := request_inLevels hmessage
    exact ⟨hlevel, fun h => absurd (hanswer.symm.trans h) Bool.false_ne_true⟩
  | fire timerId =>
    refine iff_of_true (fun message hmessage => ?_) trivial
    obtain ⟨hlevel, hanswer⟩ := request_inLevels hmessage
    exact ⟨hlevel, fun h => absurd (hanswer.symm.trans h) Bool.false_ne_true⟩
  | subscribe callback isSync =>
    cases callback with
    | none => exact iff_of_true (fun _ h => absurd h List.not_mem_nil) trivial
    | some callback =>
      show (∀ message ∈ (s.service.subscribeThermalLevelCallback isSync (some callback)).2, _) ↔
        ((s.service.addThermalLevelListeners callback isSync).1 = true → _)
      rw [ActionThermalLevel.subscribeThermalLevelCallback]
      have hlast : (s.service.addThermalLevelListeners callback isSync).2.timed =
          s.service.timed := by
        rw [ActionThermalLevel.addThermalLevelListeners]
        split <;> rfl
      generalize s.service.addThermalLevelListeners callback isSync = added at hlast
      obtain ⟨isNew, service⟩ := added
      change service.timed = s.service.timed at hlast
      cases isNew with
      | false =>
        exact iff_of_true (fun _ h => absurd h List.not_mem_nil) fun h =>
          absurd h Bool.false_ne_true
      | true =>
        have hanswer := @LevelKnown.single_iff s hs
          (.subscribed callback service.timed.action.lastValue)
          (congrArg (fun timed => timed.action.lastValue) hlast) rfl
        exact ⟨fun h _ => hanswer.mp h, fun h => hanswer.mpr (h rfl)⟩
  | unSubscribe callback => exact iff_of_true (fun _ h => absurd h List.not_mem_nil) trivial
  | getThermalLevel => exact hs.single_iff hs.getThermalLevel_eq rfl

/-- In every run, clients are handed levels that agree with the broadcasts exactly when they ask
after a decision whose outcome is a level. -/
theorem clients_handed_levels_iff (isStrict : Bool) (events : List LevelEvent) :
    Enabled HandsOutLevels step (start isStrict) events ↔
      Enabled AsksAfterDecision step (start isStrict) events :=
  enabled_congr LevelKnown (fun _ e hs => handsOutLevels_iff hs e) (fun _ e hs _ => hs.step e)
    (levelKnown_start isStrict) events

/-- A query before any decision is answered with the sentinel. -/
theorem query_before_decision_hands_out_sentinel :
    ¬ Enabled HandsOutLevels step (start false) [.getThermalLevel] := by
  intro h
  have hlevel := (h.1 _ (List.mem_singleton.mpr rfl)).1
  revert hlevel
  decide

end LevelHistory

end ThermalManager
