import Mathlib.Logic.Function.Basic
import ThermalManager.Lib.EdgeTrigger

/-!
# Charging limits

`ActionCharger` and `ActionVoltage` with the end of `ThermalPolicy::PolicyDecision`. An action hands
over its value when it changes. The limits gather in one list for each class, which is applied by
the battery interface as a whole or kept for the next round.
-/

namespace ThermalManager

open EdgeTrigger

inductive ChargingLimitType where
  | typeCurrent
  | typeVoltage
  deriving DecidableEq

structure ChargingLimit where
  type : ChargingLimitType
  protocol : String
  value : Int32
  deriving DecidableEq

/-- A current or voltage action is known by its class and its protocol. -/
structure ChargingAction where
  type : ChargingLimitType
  protocol : String
  deriving DecidableEq

def ChargingLimit.action (limit : ChargingLimit) : ChargingAction := ⟨limit.type, limit.protocol⟩

/-- What the actions decide in a round, and how the battery interface answers: whether
`IBatteryInterface::Get` returns it to a voltage action and to the two functions that apply the
limits, and whether `SetChargingLimit` succeeds. -/
structure ChargingRound where
  value : ChargingAction → UInt32
  available : ChargingAction → Bool
  getInterface : ChargingLimitType → Bool
  setChargingLimit : ChargingLimitType → Bool

structure ChargingRound.Works (round : ChargingRound) : Prop where
  available : ∀ a, round.available a = true
  getInterface : ∀ type, round.getInterface type = true
  setChargingLimit : ∀ type, round.setChargingLimit type = true

/-- Whether a limit that an action hands over in the round enters the list. -/
def ChargingRound.through (round : ChargingRound) (a : ChargingAction) : Bool :=
  decide (a.type = .typeCurrent) || round.available a

def ChargingRound.decision (round : ChargingRound) (a : ChargingAction) : UInt32 × Bool :=
  (round.value a, round.through a)

/-- The actions, the list of each class and all limits that the interface has applied. -/
structure ChargingControl where
  lastValue : ChargingAction → UInt32 := fun _ => 0
  chargeLimitList : ChargingLimitType → List ChargingLimit := fun _ => []
  applied : List ChargingLimit := []
  typed : ∀ type, ∀ limit ∈ chargeLimitList type, limit.type = type := by simp

namespace ChargingControl

/-! ### The functions -/

def pushBack (c : ChargingControl) (limit : ChargingLimit) : ChargingControl :=
  { c with
    chargeLimitList := Function.update c.chargeLimitList limit.type
      (c.chargeLimitList limit.type ++ [limit])
    typed := by
      intro type other hmem
      by_cases htype : type = limit.type
      · subst htype
        rw [Function.update_self, List.mem_append, List.mem_singleton] at hmem
        rcases hmem with hmem | rfl
        · exact c.typed _ other hmem
        · rfl
      · rw [Function.update_of_ne htype] at hmem
        exact c.typed type other hmem }

def chargerRequest (c : ChargingControl) (protocol : String) (current : Int32) : ChargingControl :=
  c.pushBack ⟨.typeCurrent, protocol, current⟩

def setVoltage (available : Bool) (c : ChargingControl) (protocol : String) (voltage : Int32) :
    ChargingControl :=
  if !available then c else c.pushBack ⟨.typeVoltage, protocol, voltage⟩

def executeInner (round : ChargingRound) (c : ChargingControl) (a : ChargingAction) :
    ChargingControl :=
  let value := round.value a
  if value ≠ c.lastValue a then
    let c := match a.type with
      | .typeCurrent => c.chargerRequest a.protocol value.toInt32
      | .typeVoltage => c.setVoltage (round.available a) a.protocol value.toInt32
    { c with lastValue := Function.update c.lastValue a value }
  else c

/-- `ExecuteCurrentLimit` and `ExecuteVoltageLimit` differ in the list they speak about. -/
def executeLimit (type : ChargingLimitType) (round : ChargingRound) (c : ChargingControl) :
    ChargingControl :=
  if (c.chargeLimitList type).isEmpty then c
  else if !round.getInterface type then c
  else if !round.setChargingLimit type then c
  else { c with
    applied := c.applied ++ c.chargeLimitList type
    chargeLimitList := Function.update c.chargeLimitList type []
    typed := by
      intro other limit hmem
      by_cases htype : other = type
      · subst htype
        rw [Function.update_self] at hmem
        exact absurd hmem List.not_mem_nil
      · rw [Function.update_of_ne htype] at hmem
        exact c.typed other limit hmem }

def executeCurrentLimit : ChargingRound → ChargingControl → ChargingControl :=
  executeLimit .typeCurrent

def executeVoltageLimit : ChargingRound → ChargingControl → ChargingControl :=
  executeLimit .typeVoltage

def actionExecution (actions : List ChargingAction) (c : ChargingControl) (round : ChargingRound) :
    ChargingControl :=
  actions.foldl (executeInner round) c

def policyDecision (actions : List ChargingAction) (c : ChargingControl) (round : ChargingRound) :
    ChargingControl :=
  executeVoltageLimit round (executeCurrentLimit round (actionExecution actions c round))

/-! ### What an action has told -/

def limitsFor (a : ChargingAction) (limits : List ChargingLimit) : List Int32 :=
  limits.filterMap fun limit => if limit.action = a then some limit.value else none

def lastApplied (c : ChargingControl) (a : ChargingAction) : Option Int32 :=
  (limitsFor a c.applied).getLast?

/-- Limits for an action, those applied and then those that wait. -/
def told (c : ChargingControl) (a : ChargingAction) : List Int32 :=
  limitsFor a (c.applied ++ c.chargeLimitList a.type)

variable {c : ChargingControl} {round : ChargingRound} {a : ChargingAction}

theorem limitsFor_append (a : ChargingAction) (before after : List ChargingLimit) :
    limitsFor a (before ++ after) = limitsFor a before ++ limitsFor a after :=
  List.filterMap_append

theorem limitsFor_singleton_of_ne {limit : ChargingLimit} (h : limit.action ≠ a) :
    limitsFor a [limit] = [] := by
  simp [limitsFor, h]

theorem limitsFor_other (c : ChargingControl) {type : ChargingLimitType} (h : a.type ≠ type) :
    limitsFor a (c.chargeLimitList type) = [] := by
  rw [limitsFor, List.filterMap_eq_nil_iff]
  intro limit hmem
  refine if_neg fun heq => h ?_
  rw [← heq]
  exact c.typed type limit hmem

theorem told_pushBack (c : ChargingControl) (limit : ChargingLimit) (a : ChargingAction) :
    (c.pushBack limit).told a = c.told a ++ limitsFor a [limit] := by
  show limitsFor a (c.applied ++ Function.update c.chargeLimitList limit.type _ a.type) = _
  rw [told]
  by_cases htype : a.type = limit.type
  · rw [htype, Function.update_self, ← List.append_assoc, limitsFor_append]
  · have hother : limitsFor a [limit] = [] := by
      have hne : limit.action ≠ a := fun heq => htype (congrArg ChargingAction.type heq).symm
      simp [limitsFor, hne]
    rw [Function.update_of_ne htype, hother, List.append_nil]

/-- Applying the limits of a class loses none and repeats none. -/
theorem told_executeLimit (type : ChargingLimitType) (round : ChargingRound) (c : ChargingControl)
    (a : ChargingAction) : (c.executeLimit type round).told a = c.told a := by
  rw [executeLimit]
  split; · rfl
  split; · rfl
  split; · rfl
  show limitsFor a (c.applied ++ c.chargeLimitList type ++
    Function.update c.chargeLimitList type [] a.type) = _
  rw [told]
  by_cases htype : a.type = type
  · rw [htype, Function.update_self, List.append_nil]
  · rw [Function.update_of_ne htype, limitsFor_append, limitsFor_append, limitsFor_append,
      c.limitsFor_other htype, List.append_nil]

/-! ### One round -/

theorem executeInner_lastValue (round : ChargingRound) (c : ChargingControl) (b : ChargingAction) :
    (c.executeInner round b).lastValue = Function.update c.lastValue b (round.value b) := by
  rw [executeInner]
  split
  case isTrue =>
    rcases b with ⟨_ | _, protocol⟩
    · rfl
    · dsimp only [setVoltage]
      split <;> rfl
  case isFalse heq => rw [not_not.mp heq, Function.update_eq_self]

theorem told_executeInner (round : ChargingRound) (c : ChargingControl) (a b : ChargingAction) :
    (c.executeInner round b).told a = c.told a ++
      if round.value b ≠ c.lastValue b ∧ round.through b then
        limitsFor a [⟨b.type, b.protocol, (round.value b).toInt32⟩]
      else [] := by
  rw [executeInner]
  by_cases hvalue : round.value b = c.lastValue b
  · rw [if_neg (not_not_intro hvalue), if_neg fun h => h.1 hvalue, List.append_nil]
  rw [if_pos hvalue]
  rcases b with ⟨_ | _, protocol⟩
  · rw [if_pos ⟨hvalue, rfl⟩]
    exact told_pushBack c ⟨.typeCurrent, protocol, _⟩ a
  · cases havailable : round.available ⟨.typeVoltage, protocol⟩ with
    | true =>
      rw [if_pos ⟨hvalue, havailable⟩]
      exact told_pushBack c ⟨.typeVoltage, protocol, _⟩ a
    | false =>
      rw [if_neg fun h => Bool.false_ne_true (havailable.symm.trans h.2), List.append_nil]
      rfl

theorem told_executeInner_of_ne {b : ChargingAction} (h : b ≠ a) :
    (c.executeInner round b).told a = c.told a := by
  have hother : limitsFor a [⟨b.type, b.protocol, (round.value b).toInt32⟩] = [] :=
    limitsFor_singleton_of_ne h
  rw [told_executeInner, hother, ite_self, List.append_nil]

theorem told_executeInner_self : (c.executeInner round a).told a =
    c.told a ++ (delivered (c.lastValue a) [round.decision a]).map UInt32.toInt32 := by
  have hself (value : Int32) : limitsFor a [⟨a.type, a.protocol, value⟩] = [value] := by
    simp [limitsFor, ChargingLimit.action]
  rw [told_executeInner, hself, ChargingRound.decision, delivered, delivered]
  by_cases hvalue : round.value a = c.lastValue a
  · rw [if_neg fun h => h.1 hvalue, if_neg (not_not_intro hvalue)]
    rfl
  · rw [if_pos hvalue]
    cases round.through a with
    | true => rw [if_pos ⟨hvalue, rfl⟩]; rfl
    | false => rw [if_neg fun h => Bool.false_ne_true h.2]; rfl

theorem actionExecution_settled (actions : List ChargingAction)
    (h : c.lastValue a = round.value a) :
    (actionExecution actions c round).told a = c.told a ∧
      (actionExecution actions c round).lastValue a = round.value a := by
  induction actions generalizing c with
  | nil => exact ⟨rfl, h⟩
  | cons b rest ih =>
    have hvalue : (c.executeInner round b).lastValue a = round.value a := by
      rw [executeInner_lastValue]
      by_cases hb : a = b
      · rw [hb, Function.update_self]
      · rw [Function.update_of_ne hb, h]
    have htold : (c.executeInner round b).told a = c.told a := by
      by_cases hb : b = a
      · subst hb
        rw [told_executeInner, if_neg fun hne => hne.1 h.symm, List.append_nil]
      · exact told_executeInner_of_ne hb
    rw [← htold]
    exact ih hvalue

theorem actionExecution_spec {actions : List ChargingAction} (hmem : a ∈ actions) :
    (actionExecution actions c round).told a =
        c.told a ++ (delivered (c.lastValue a) [round.decision a]).map UInt32.toInt32 ∧
      (actionExecution actions c round).lastValue a = round.value a := by
  induction actions generalizing c with
  | nil => exact absurd hmem List.not_mem_nil
  | cons b rest ih =>
    by_cases hb : b = a
    · subst hb
      rw [← told_executeInner_self]
      refine actionExecution_settled rest ?_
      rw [executeInner_lastValue, Function.update_self]
    · have hvalue : (c.executeInner round b).lastValue a = c.lastValue a := by
        rw [executeInner_lastValue, Function.update_of_ne (Ne.symm hb)]
      have htold : (c.executeInner round b).told a = c.told a := told_executeInner_of_ne hb
      rw [← htold, ← hvalue]
      exact ih ((List.mem_cons.mp hmem).resolve_left (Ne.symm hb))

theorem executeLimit_lastValue (type : ChargingLimitType) (round : ChargingRound)
    (c : ChargingControl) : (c.executeLimit type round).lastValue = c.lastValue := by
  rw [executeLimit]
  split; · rfl
  split; · rfl
  split <;> rfl

theorem policyDecision_spec {actions : List ChargingAction} (hmem : a ∈ actions) :
    (policyDecision actions c round).told a =
        c.told a ++ (delivered (c.lastValue a) [round.decision a]).map UInt32.toInt32 ∧
      (policyDecision actions c round).lastValue a = round.value a := by
  rw [policyDecision, executeVoltageLimit, executeCurrentLimit, told_executeLimit,
    told_executeLimit, executeLimit_lastValue, executeLimit_lastValue]
  exact actionExecution_spec hmem

theorem executeLimit_chargeLimitList (type : ChargingLimitType) (hworks : round.Works) :
    (c.executeLimit type round).chargeLimitList = Function.update c.chargeLimitList type [] := by
  rw [executeLimit, hworks.getInterface, hworks.setChargingLimit]
  split
  case isTrue hempty =>
    rw [← List.isEmpty_iff.mp hempty, Function.update_eq_self]
  case isFalse => rfl

theorem policyDecision_lists (actions : List ChargingAction) (hworks : round.Works)
    (type : ChargingLimitType) : (policyDecision actions c round).chargeLimitList type = [] := by
  rw [policyDecision, executeVoltageLimit, executeCurrentLimit,
    executeLimit_chargeLimitList _ hworks, executeLimit_chargeLimitList _ hworks]
  cases type <;> rfl

/-! ### Whole runs -/

def after (actions : List ChargingAction) (rounds : List ChargingRound) : ChargingControl :=
  rounds.foldl (policyDecision actions) {}

def EverLimited (rounds : List ChargingRound) (a : ChargingAction) : Prop :=
  ∃ round ∈ rounds, round.value a ≠ 0

theorem told_foldl {actions : List ChargingAction} (hmem : a ∈ actions)
    (rounds : List ChargingRound) (c : ChargingControl) :
    (rounds.foldl (policyDecision actions) c).told a =
      c.told a ++
        (delivered (c.lastValue a) (rounds.map fun r => r.decision a)).map UInt32.toInt32 := by
  induction rounds generalizing c with
  | nil => exact (List.append_nil _).symm
  | cons round rest ih =>
    obtain ⟨htold, hvalue⟩ := @policyDecision_spec c round a actions hmem
    rw [List.foldl_cons, ih, htold, hvalue, List.map_cons,
      delivered_cons _ (round.decision a) (rest.map _), List.map_append, List.append_assoc]
    rfl

theorem toInt32_inj {value other : UInt32} : value.toInt32 = other.toInt32 ↔ value = other :=
  ⟨congrArg Int32.toUInt32, congrArg UInt32.toInt32⟩

section LastRound

variable {actions : List ChargingAction} (rounds : List ChargingRound) {final : ChargingRound}

theorem after_lastValue (hmem : a ∈ actions) :
    (after actions (rounds ++ [final])).lastValue a = final.value a := by
  rw [after, List.foldl_append]
  exact (policyDecision_spec hmem).2

/-- Where the interface works in the last round, the limits that the action told are applied. -/
theorem lastApplied_eq (hworks : final.Works) (hmem : a ∈ actions) :
    (after actions (rounds ++ [final])).lastApplied a =
      (delivered 0 ((rounds ++ [final]).map fun r => r.decision a)).getLast?.map
        UInt32.toInt32 := by
  have hlists : (after actions (rounds ++ [final])).chargeLimitList a.type = [] := by
    rw [after, List.foldl_append]
    exact policyDecision_lists actions hworks a.type
  have htold : (after actions (rounds ++ [final])).told a = _ :=
    told_foldl hmem (rounds ++ [final]) {}
  rw [told, hlists, List.append_nil] at htold
  rw [lastApplied, htold, ← List.getLast?_map]
  rfl

theorem lastApplied_iff (hworks : final.Works) (hmem : a ∈ actions) :
    (after actions (rounds ++ [final])).lastApplied a =
        some ((after actions (rounds ++ [final])).lastValue a).toInt32 ↔
      (delivered 0 ((rounds ++ [final]).map fun r => r.decision a)).getLast? =
        some (final.value a) := by
  rw [lastApplied_eq rounds hworks hmem, after_lastValue rounds hmem, Option.map_eq_some_iff]
  constructor
  · rintro ⟨value, hvalue, hint⟩
    rw [hvalue, toInt32_inj.mp hint]
  · intro h
    exact ⟨_, h, rfl⟩

theorem current_delivered (htype : a.type = .typeCurrent)
    (hever : EverLimited (rounds ++ [final]) a) :
    (delivered 0 ((rounds ++ [final]).map fun r => r.decision a)).getLast? =
      some (final.value a) := by
  have hthrough : ∀ p ∈ (rounds ++ [final]).map fun r => r.decision a, p.2 = true := by
    intro p hp
    obtain ⟨round, -, rfl⟩ := List.mem_map.mp hp
    exact Bool.or_eq_true_iff.mpr (.inl (decide_eq_true htype))
  obtain ⟨round, hround, hvalue⟩ := hever
  rw [delivered_eq_edges 0 hthrough, List.map_map,
    edges_getLast? ⟨_, List.mem_map_of_mem hround, hvalue⟩, List.map_append,
    List.getLastD_eq_getLast?]
  simp [ChargingRound.decision]

end LastRound

/-- After a round in which the interface works, every action that ever decided on a limit has its
value applied, exactly if each such voltage action has its last value among those it changed to
while the interface was there, as the last of them. -/
theorem limits_applied_iff (actions : List ChargingAction) (rounds : List ChargingRound)
    (final : ChargingRound) (hworks : final.Works) :
    (∀ a ∈ actions, EverLimited (rounds ++ [final]) a →
      (after actions (rounds ++ [final])).lastApplied a =
        some ((after actions (rounds ++ [final])).lastValue a).toInt32) ↔
    ∀ a ∈ actions, a.type = .typeVoltage → EverLimited (rounds ++ [final]) a →
      (delivered 0 ((rounds ++ [final]).map fun r => (r.value a, r.available a))).getLast? =
        some (final.value a) := by
  have hvoltage {a : ChargingAction} (htype : a.type = .typeVoltage) :
      ((rounds ++ [final]).map fun r => r.decision a) =
        (rounds ++ [final]).map fun r => (r.value a, r.available a) := by
    refine List.map_congr_left fun r _ => ?_
    rw [ChargingRound.decision, ChargingRound.through, htype]
    rfl
  constructor
  · intro h a hmem htype hever
    rw [← hvoltage htype]
    exact (lastApplied_iff rounds hworks hmem).mp (h a hmem hever)
  · intro h a hmem hever
    refine (lastApplied_iff rounds hworks hmem).mpr ?_
    cases htype : a.type with
    | typeCurrent => exact current_delivered rounds htype hever
    | typeVoltage =>
      rw [hvoltage htype]
      exact h a hmem htype hever

/-- All actions decide on one value, and the interface is there or not: when the voltage actions
ask for it, and when the limits are applied. -/
def uniformRound (value : UInt32) (available works : Bool) : ChargingRound where
  value _ := value
  available _ := available
  getInterface _ := works
  setChargingLimit _ := works

def scActions : List ChargingAction := [⟨.typeCurrent, "sc"⟩, ⟨.typeVoltage, "sc"⟩]

/-- The voltage actions find the interface, but it is gone when the limits are applied. It is back
in the next round. -/
def waitingRounds : List ChargingRound :=
  [uniformRound 3000 true false] ++ [uniformRound 3000 true true]

theorem uniformRound_works (value : UInt32) : (uniformRound value true true).Works :=
  ⟨fun _ => rfl, fun _ => rfl, fun _ => rfl⟩

theorem waiting_limit_applied :
    (after scActions waitingRounds).lastApplied ⟨.typeVoltage, "sc"⟩ =
      some ((after scActions waitingRounds).lastValue ⟨.typeVoltage, "sc"⟩).toInt32 :=
  (limits_applied_iff scActions _ _ (uniformRound_works 3000)).mpr (fun _ _ _ _ => rfl) _
    (by decide) ⟨_, List.mem_cons_self, by decide⟩

/-- The voltage action finds no interface, and its value does not change again. -/
theorem voltage_limit_lost :
    ¬ ∀ (actions : List ChargingAction) (rounds : List ChargingRound) (final : ChargingRound),
      actions.Nodup → final.Works → ∀ a ∈ actions, EverLimited (rounds ++ [final]) a →
        (after actions (rounds ++ [final])).lastApplied a =
          some ((after actions (rounds ++ [final])).lastValue a).toInt32 := by
  intro h
  have hlost := h [⟨.typeVoltage, "sc"⟩] [uniformRound 3000 false false]
    (uniformRound 3000 true true) (by decide) (uniformRound_works 3000) _ List.mem_cons_self
    ⟨_, List.mem_cons_self, by decide⟩
  exact absurd hlost (by decide)

end ChargingControl

end ThermalManager
