import ThermalManager.Action.ActionSpec
import Mathlib.Data.List.Nodup

/-!
# Soc actions and the perf service

The classes of `action_soc`, each with the requests it makes to the perf service, and the part of
`ThermalService::OnAddSystemAbility` that makes them forget their last value when that service
starts. A fresh service holds no request, which is the state of every action's fallback value.
-/

namespace ThermalManager

/-! ### The classes -/

inductive SocRequest where
  | limitRequest (tag value : Int)
  | perfRequestEx (cmdId : Int) (enable : Bool)
  | setThermalLevel (level : Int)
  | setRequestStatus (status : Bool)
  deriving DecidableEq

/-- The classes with what `InitParams` leaves in them. -/
inductive SocClass where
  | cpuBig (multiCore : Bool)
  | cpuMed
  | cpuLit
  | gpu
  | cpuBoost
  | cpuIsolate
  | cpuNonVip
  | socPerf (cmdId : Int)
  | socPerfResource (resId fallbackValue : Int)
  deriving DecidableEq

def limCpuBigId : Int := 1005
def limCpuBig2Id : Int := 1102
def limCpuBig3Id : Int := 1104
def limCpuBig4Id : Int := 1106
def limCpuMedId : Int := 1003
def limCpuLitId : Int := 1001
def limGpuId : Int := 1021
def actionTypeCpuIsolateCmdId : Int := 12361
def actionTypeCpuNonVipCmdId : Int := 12362
def boostDisableValue : Int := 100

namespace SocClass

def actionClass : SocClass → ActionClass
  | cpuBig _ => actionCpuBig
  | cpuMed => actionCpuMed
  | cpuLit => actionCpuLit
  | gpu => actionGpu
  | cpuBoost => actionCpuBoost
  | cpuIsolate => actionCpuIsolate
  | cpuNonVip => actionCpuNonVip
  | socPerf _ => actionSocPerf
  | socPerfResource _ fallbackValue =>
      { parse := strToUintValue
        fallbackValue := fallbackValue }

def requests : SocClass → Int → List SocRequest
  | cpuBig multiCore, value =>
      (if multiCore then
        [.limitRequest limCpuBig2Id value, .limitRequest limCpuBig3Id value,
          .limitRequest limCpuBig4Id value]
      else []) ++ [.limitRequest limCpuBigId value]
  | cpuMed, value => [.limitRequest limCpuMedId value]
  | cpuLit, value => [.limitRequest limCpuLitId value]
  | gpu, value => [.limitRequest limGpuId value]
  | cpuBoost, value =>
      if value = boostDisableValue then [.setRequestStatus false]
      else [.setRequestStatus true, .setThermalLevel value]
  | cpuIsolate, value => [.perfRequestEx actionTypeCpuIsolateCmdId (decide (value > 0))]
  | cpuNonVip, value => [.perfRequestEx actionTypeCpuNonVipCmdId (decide (value > 0))]
  | socPerf cmdId, value => [.perfRequestEx cmdId (decide (value > 0))]
  | socPerfResource resId _, value => [.limitRequest resId value]

theorem requests_ne_nil (cls : SocClass) (value : Int) : cls.requests value ≠ [] := by
  cases cls with
  | cpuBig multiCore => simp [requests]
  | cpuBoost =>
    rw [requests]
    split <;> simp
  | _ => exact List.cons_ne_nil _ _

end SocClass

/-! ### The actions -/

structure SocAction where
  cls : SocClass
  lastValue : Int
  deriving DecidableEq

namespace SocAction

def init (cls : SocClass) : SocAction := ⟨cls, cls.actionClass.lastValueInit⟩

/-- The action after deciding on a value, and the requests it has made. -/
def executeInner (a : SocAction) (value : Int) : SocAction × List SocRequest :=
  if value ≠ a.lastValue then ({ a with lastValue := value }, a.cls.requests value) else (a, [])

def resetActionValue (a : SocAction) : SocAction :=
  { a with lastValue := a.cls.actionClass.lastValueReset }

theorem executeInner_cls (a : SocAction) (value : Int) : (a.executeInner value).1.cls = a.cls := by
  rw [executeInner]
  split <;> rfl

end SocAction

section Refinement

open Extremum

def Action.toSoc (cls : SocClass) (a : Action) : SocAction := ⟨cls, a.lastValue⟩

theorem toSoc_executeInner (cls : SocClass) (a : Action) : a.executeInner.toSoc cls =
    ((a.toSoc cls).executeInner (a.cls.toResult
      (decided a.isStrict a.cls.fallbackValue (a.valueList ++ a.completedValues)))).1 := by
  rw [Action.toSoc, Action.executeInner_lastValue, SocAction.executeInner]
  split
  case isTrue => rfl
  case isFalse heq =>
    rw [not_not.mp heq]
    rfl

theorem toSoc_resetActionValue {cls : SocClass} {a : Action} (h : a.cls = cls.actionClass) :
    a.resetActionValue.toSoc cls = (a.toSoc cls).resetActionValue :=
  congrArg (fun c : ActionClass => SocAction.mk cls c.lastValueReset) h

end Refinement

/-- The soc actions among the registered ones, the names in `SocSet`, and what each action has sent
since the perf service started. -/
structure SocActionManager where
  actionMap : List (String × SocAction) := []
  socSet : List String := []
  sent : List (String × SocRequest) := []
  distinct : (actionMap.map Prod.fst).Nodup := by simp
  inSocSet : ∀ name ∈ actionMap.map Prod.fst, name ∈ socSet := by simp

inductive SocEvent where
  | restart
  | round (decided : String → Int)

namespace SocActionManager

variable {m : SocActionManager} {p : String × SocAction}

/-- Changes to actions leave the names alone. -/
def mapActions (m : SocActionManager) (f : String → SocAction → SocAction) : SocActionManager :=
  { m with
    actionMap := m.actionMap.map fun p => (p.1, f p.1 p.2)
    distinct := by
      rw [List.map_map]
      exact m.distinct
    inSocSet := by
      rw [List.map_map]
      exact m.inSocSet }

/-- The constructor enters the name in `SocSet`. A name that is taken keeps its action. -/
def create (m : SocActionManager) (item : String × SocClass) : SocActionManager :=
  if h : item.1 ∈ m.actionMap.map Prod.fst then
    { m with
      socSet := item.1 :: m.socSet
      inSocSet := fun name hname => List.mem_cons_of_mem _ (m.inSocSet name hname) }
  else
    { m with
      actionMap := (item.1, .init item.2) :: m.actionMap
      socSet := item.1 :: m.socSet
      distinct := List.nodup_cons.mpr ⟨h, m.distinct⟩
      inSocSet := by
        intro name hname
        rcases List.mem_cons.mp hname with rfl | hname
        · exact List.mem_cons_self
        · exact List.mem_cons_of_mem _ (m.inSocSet name hname) }

def registered (items : List (String × SocClass)) : SocActionManager := items.foldl create {}

def resetActionValue (m : SocActionManager) (name : String) : SocActionManager :=
  m.mapActions fun other a => if other = name then a.resetActionValue else a

/-- `OnAddSystemAbility` for the perf service. -/
def onAddSystemAbility (m : SocActionManager) : SocActionManager :=
  m.socSet.foldl resetActionValue m

/-- The perf service starts with no request. -/
def restart (m : SocActionManager) : SocActionManager := onAddSystemAbility { m with sent := [] }

/-- All actions execute, each with the value it has decided on. -/
def round (m : SocActionManager) (decided : String → Int) : SocActionManager :=
  { m.mapActions fun name a => (a.executeInner (decided name)).1 with
    sent := m.sent ++ m.actionMap.flatMap fun p =>
      (p.2.executeInner (decided p.1)).2.map fun request => (p.1, request) }

def step (m : SocActionManager) : SocEvent → SocActionManager
  | .restart => m.restart
  | .round decided => m.round decided

def run (items : List (String × SocClass)) (events : List SocEvent) : SocActionManager :=
  events.foldl step (registered items)

/-! ### The restart -/

theorem mem_mapActions {f : String → SocAction → SocAction} :
    p ∈ (m.mapActions f).actionMap ↔ ∃ a, (p.1, a) ∈ m.actionMap ∧ p.2 = f p.1 a := by
  constructor
  · intro h
    obtain ⟨q, hq, rfl⟩ := List.mem_map.mp h
    exact ⟨q.2, hq, rfl⟩
  · rintro ⟨a, ha, hp⟩
    exact List.mem_map.mpr ⟨(p.1, a), ha, Prod.ext rfl hp.symm⟩

theorem foldl_reset (names : List String) (m : SocActionManager) :
    (names.foldl resetActionValue m).sent = m.sent ∧
      ∀ p ∈ (names.foldl resetActionValue m).actionMap, ∃ a, (p.1, a) ∈ m.actionMap ∧
        p.2 = if p.1 ∈ names then a.resetActionValue else a := by
  induction names generalizing m with
  | nil => exact ⟨rfl, fun p hp => ⟨p.2, hp, (if_neg List.not_mem_nil).symm⟩⟩
  | cons name rest ih =>
    obtain ⟨hsent, hactions⟩ := ih (m.resetActionValue name)
    refine ⟨hsent, fun p hp => ?_⟩
    obtain ⟨mid, hmid, hp2⟩ := hactions p hp
    obtain ⟨a, ha, rfl⟩ : ∃ a, (p.1, a) ∈ m.actionMap ∧
        mid = if p.1 = name then a.resetActionValue else a := mem_mapActions.mp hmid
    refine ⟨a, ha, ?_⟩
    rw [hp2]
    by_cases hname : p.1 = name
    · subst hname
      simp [SocAction.resetActionValue]
    · simp [hname]

/-- Every soc action is in `SocSet`, so none keeps its last value. -/
theorem restart_spec (m : SocActionManager) : m.restart.sent = [] ∧
    ∀ p ∈ m.restart.actionMap, p.2.lastValue = p.2.cls.actionClass.lastValueReset := by
  obtain ⟨hsent, hactions⟩ := foldl_reset m.socSet { m with sent := [] }
  refine ⟨hsent, fun p hp => ?_⟩
  obtain ⟨a, ha, hp2⟩ := hactions p hp
  rw [if_pos (m.inSocSet p.1 (List.mem_map.mpr ⟨(p.1, a), ha, rfl⟩))] at hp2
  rw [hp2]
  rfl

/-! ### The round -/

theorem mem_round {decided : String → Int} : p ∈ (m.round decided).actionMap ↔
    ∃ a, (p.1, a) ∈ m.actionMap ∧ p.2 = (a.executeInner (decided p.1)).1 :=
  mem_mapActions (f := fun name a => (a.executeInner (decided name)).1)

theorem mem_round_sent (hsent : m.sent = []) {name : String} {a : SocAction}
    (hmem : (name, a) ∈ m.actionMap) (decided : String → Int) (request : SocRequest) :
    (name, request) ∈ (m.round decided).sent ↔
      decided name ≠ a.lastValue ∧ request ∈ a.cls.requests (decided name) := by
  have hexec : request ∈ (a.executeInner (decided name)).2 ↔
      decided name ≠ a.lastValue ∧ request ∈ a.cls.requests (decided name) := by
    rw [SocAction.executeInner]
    split
    case isTrue hne => exact (and_iff_right hne).symm
    case isFalse heq => exact iff_of_false List.not_mem_nil fun h => heq h.1
  rw [← hexec, round, hsent, List.nil_append, List.mem_flatMap]
  constructor
  · rintro ⟨q, hq, hrequest⟩
    obtain ⟨other, hother, heq⟩ := List.mem_map.mp hrequest
    obtain ⟨rfl, rfl⟩ := Prod.mk.inj heq
    have hsame : q.2 = a := congrArg Prod.snd (List.inj_on_of_nodup_map m.distinct hq hmem rfl)
    exact hsame ▸ hother
  · intro hrequest
    exact ⟨(name, a), hmem, List.mem_map.mpr ⟨request, hrequest, rfl⟩⟩

/-- The request for the value has been sent since the restart, or a fresh service is as the value
asks. -/
def Restored (m : SocActionManager) (p : String × SocAction) (value : Int) : Prop :=
  (∀ request ∈ p.2.cls.requests value, (p.1, request) ∈ m.sent) ∨
    value = p.2.cls.actionClass.fallbackValue

end SocActionManager

/-- The value is not the one that a reset leaves, unless that is the fallback. -/
def SocClass.Survives : SocClass → Int → Prop
  | .cpuBig _, value => value ≠ 0
  | .cpuMed, value => value ≠ 0
  | .cpuLit, value => value ≠ 0
  | .gpu, value => value ≠ 0
  | .cpuBoost, value => value ≠ uintMax
  | .cpuIsolate, value => value ≠ uintMax
  | .cpuNonVip, value => value ≠ uintMax
  | .socPerf _, _ => True
  | .socPerfResource _ fallbackValue, value => value ≠ 0 ∨ fallbackValue = 0

theorem SocClass.survives_iff (cls : SocClass) (value : Int) : cls.Survives value ↔
    value ≠ cls.actionClass.lastValueReset ∨ value = cls.actionClass.fallbackValue := by
  cases cls with
  | cpuBig | cpuMed | cpuLit | gpu =>
    show value ≠ 0 ↔ value ≠ 0 ∨ value = intMax
    rw [intMax]
    omega
  | cpuBoost | cpuIsolate | cpuNonVip =>
    show value ≠ uintMax ↔ value ≠ uintMax ∨ value = 0
    rw [uintMax]
    omega
  | socPerf cmdId => exact (iff_true_intro (ne_or_eq value 0)).symm
  | socPerfResource resId fallbackValue =>
    show value ≠ 0 ∨ fallbackValue = 0 ↔ value ≠ 0 ∨ value = fallbackValue
    omega

namespace SocActionManager

theorem restored_round_iff {m : SocActionManager} (hsent : m.sent = [])
    (hreset : ∀ p ∈ m.actionMap, p.2.lastValue = p.2.cls.actionClass.lastValueReset)
    (decided : String → Int) {p : String × SocAction}
    (hmem : p ∈ (m.round decided).actionMap) :
    (m.round decided).Restored p (decided p.1) ↔ p.2.cls.Survives (decided p.1) := by
  obtain ⟨a, ha, hp⟩ := mem_round.mp hmem
  have hcls : p.2.cls = a.cls := by
    rw [hp]
    exact a.executeInner_cls _
  have hlast : a.lastValue = a.cls.actionClass.lastValueReset := hreset _ ha
  rw [Restored, SocClass.survives_iff, hcls, ← hlast]
  apply or_congr_left
  constructor
  · intro h
    obtain ⟨request, hrequest⟩ := List.exists_mem_of_ne_nil _ (a.cls.requests_ne_nil (decided p.1))
    exact ((mem_round_sent hsent ha decided request).mp (h request hrequest)).1
  · intro hne request hrequest
    exact (mem_round_sent hsent ha decided request).mpr ⟨hne, hrequest⟩

/-- In the first round after a restart an action's limit is restored exactly if the value it decides
on is not taken for the one it has. -/
theorem restored_iff (items : List (String × SocClass)) (events : List SocEvent)
    (decided : String → Int) :
    ∀ p ∈ (run items (events ++ [.restart, .round decided])).actionMap,
      (run items (events ++ [.restart, .round decided])).Restored p (decided p.1) ↔
        p.2.cls.Survives (decided p.1) := by
  intro p hp
  have hrun : run items (events ++ [.restart, .round decided]) =
      (run items events).restart.round decided := by
    rw [run, List.foldl_append]
    rfl
  rw [hrun] at hp ⊢
  obtain ⟨hsent, hreset⟩ := (run items events).restart_spec
  exact restored_round_iff hsent hreset decided hp

theorem gpu_800_restored :
    (run [("gpu", .gpu)] [.restart, .round fun _ => 800]).Restored ("gpu", ⟨.gpu, 800⟩) 800 :=
  (restored_iff [("gpu", .gpu)] [] (fun _ => 800) ("gpu", ⟨.gpu, 800⟩) List.mem_cons_self).mpr
    (show (800 : Int) ≠ 0 by decide)

/-- A resource that is not at zero by default is taken to have the limit zero already. -/
theorem resource_zero_not_restored :
    ¬ ∀ (items : List (String × SocClass)) (events : List SocEvent) (decided : String → Int),
      ∀ p ∈ (run items (events ++ [.restart, .round decided])).actionMap,
        (run items (events ++ [.restart, .round decided])).Restored p (decided p.1) := by
  intro h
  have hzero := h [("socperf_resource", .socPerfResource 4001 5)] [] (fun _ => 0)
    ("socperf_resource", ⟨.socPerfResource 4001 5, 0⟩) List.mem_cons_self
  rcases hzero with hsent | hvalue
  · exact absurd (hsent _ List.mem_cons_self) List.not_mem_nil
  · exact absurd hvalue (by decide)

end SocActionManager

end ThermalManager
