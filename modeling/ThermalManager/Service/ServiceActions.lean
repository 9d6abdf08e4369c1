import ThermalManager.Service.ServiceSafety

/-!
# Actions over the life of the service

From the reports to the actions: whenever the clusters have been evaluated, every registered action
executes the extreme of what the configuration says for the levels that the clusters reach alone.
-/

namespace ThermalManager

open Extremum Outcome

namespace ThermalService

open ThermalActionMap

variable {slope : List Int → Double} {build : ServiceBuild} {s s' : ThermalService}

/-- The configurations, with the levels that the clusters reach alone. -/
def policyAfter (config : ServiceConfig) (evaluated : List Report) : ThermalPolicy where
  clusterLevelMap := (config .sensorClusterMap).map fun _ c => c.levelAfter evaluated
  clusterPolicyMap := config .policyMap

section Served

variable {config : ServiceConfig} {started : Started}
  {registered : Map String (ActionClass × Bool)} {socSet : List String}
  {events : List ServiceEvent}

theorem LevelsAfter.policyAfter {evaluated : List Report}
    (h : LevelsAfter (config .sensorClusterMap) s evaluated) (hne : evaluated ≠ [])
    (hsorted : s.policy.clusterPolicyMap =
      (ReportingPolicy.initial config).clusterPolicyMap) :
    s.policy.toThermalPolicy = (policyAfter config evaluated).sortLevel := by
  have hlevels : s.policy.clusterLevelMap =
      (ThermalService.policyAfter config evaluated).clusterLevelMap := by
    apply Std.ExtTreeMap.ext_getElem?
    intro name
    have hmap : (ThermalService.policyAfter config evaluated).clusterLevelMap[name]? =
        ((config .sensorClusterMap)[name]?).map fun c => c.levelAfter evaluated :=
      Std.ExtTreeMap.getElem?_map
    rw [h.levels, if_neg hne, hmap]
  cases hpolicy : s.policy.toThermalPolicy with
  | mk clusterLevelMap clusterPolicyMap =>
    rw [hpolicy] at hlevels hsorted
    rw [ThermalPolicy.sortLevel, ← hlevels]
    exact congrArg (ThermalPolicy.mk clusterLevelMap) hsorted

theorem Served.kept (h : Served slope build config started registered socSet events s) :
    AtLevels s.policy.sensorClusterMap ∧
      s.policy.clusterPolicyMap = (ReportingPolicy.initial config).clusterPolicyMap ∧
      Idle registered s.actionMap := by
  refine invariant_of_run (fun s : ThermalService => AtLevels s.policy.sensorClusterMap ∧
    s.policy.clusterPolicyMap = (ReportingPolicy.initial config).clusterPolicyMap ∧
    Idle registered s.actionMap) ?step ?start h.run
  case start =>
    refine ⟨h.atLevels, ?_, idle_init registered⟩
    rw [h.start_policy]
  case step =>
    intro s s' e ⟨hlevels, hsorted, hidle⟩ hstep
    refine ⟨atLevels_step hlevels hstep, (clusterPolicyMap_step hlevels hstep).trans hsorted, ?_⟩
    exact (step_moved hlevels hstep).actionMap.invariant (Idle registered) hidle
      fun _ _ hidle hok => hidle.step hok

theorem delaysEnd_of_noDelay (h : (policyAfter config []).NoDelay) :
    DelaysEnd (config .policyMap) := by
  intro clusterName policyConfig hconfig levelAction hlevel action haction hendless
  rw [h clusterName policyConfig hconfig levelAction hlevel action haction] at hendless
  obtain ⟨_, hnone, -⟩ := hendless
  cases hnone

theorem Booted.serves_device (h : Booted config started) (hdevice : config .simulationXml = false)
    (hnodelay : (policyAfter config []).NoDelay) (events : List ServiceEvent) :
    ∃ s, Served slope build config started registered socSet events s := by
  apply h.serves (delaysEnd_of_noDelay hnodelay)
  intro hboth
  exact absurd (hdevice.symm.trans hboth.1) Bool.false_ne_true

/-- An evaluation ends with the round of the levels that the clusters reach alone. -/
theorem Served.decision (h : Served slope build config started registered socSet events s)
    {e : ServiceEvent}
    (h' : Served slope build config started registered socSet (events ++ [e]) s')
    (hdistinct : (policyAfter config []).DistinctLevels)
    (hnodelay : (policyAfter config []).NoDelay) {now : TypeTempMap × RoundEnv}
    (hnow : s.evaluation build e = some now) :
    policyDecision (ThermalPolicy.sortLevel (policyAfter config (evaluationsOf slope build
      (start config started registered socSet) (events ++ [e])))) now.2 s.actionMap =
        some s'.actionMap := by
  have hstep := h.last_step h'
  obtain ⟨hatLevels, -, hidle⟩ := h.kept
  have hmoved := step_moved hatLevels hstep
  have hactions := hmoved.actionMap
  rw [actionEvents, hnow, Option.elim_some] at hactions
  have hpolicy : s'.policy = s.decidedPolicy now := by
    rw [hmoved.policy, hnow, Option.elim_some]
  have hevaluated : evaluationsOf slope build (start config started registered socSet)
      (events ++ [e]) ≠ [] := by
    have htrace : evaluationsOf slope build _ _ = evaluationsOf slope build _ _ ++ _ :=
      trace_concat h.run hstep
    rw [htrace, evaluations, hnow]
    exact List.append_ne_nil_of_right_ne_nil _ (List.cons_ne_nil _ _)
  have hafter := h'.levelsAfter.policyAfter hevaluated h'.kept.2.1
  obtain ⟨actionMap', hdecision, -⟩ := @Idle.arbitration _ _ hidle
    (policyAfter config (evaluationsOf slope build (start config started registered socSet)
      (events ++ [e]))) now.2 hdistinct hnodelay
  have hexecuted : s'.actionMap = actionMap' := by
    rw [hactions.single_inv.2, roundOf, ThermalActionMap.step, ← hpolicy, hafter, hdecision]
    rfl
  rw [hexecuted]
  exact hdecision

/-! ### What an action keeps -/

variable {name : String} {cls : ActionClass} {isStrict : Bool}

/-- The states that the clusters were evaluated with last. -/
def lastStates (evaluated : List Report) : StateMachineMap :=
  (evaluated.getLast?.map Report.states).getD ∅

/-- What an action executes after the evaluations: the extreme of what the clusters contribute at
the levels they reach alone, or its fallback. -/
def Executes (config : ServiceConfig) (evaluated : List Report) (name : String) (cls : ActionClass)
    (isStrict : Bool) (v : Int) : Prop :=
  Decides isStrict cls.fallbackValue {v | ∃ clusterName,
    (policyAfter config evaluated).Contributes (lastStates evaluated) name cls clusterName v} v

/-- The action waits for no timer, and once the clusters were evaluated, it has executed what they
came to. -/
structure Settled (config : ServiceConfig) (evaluated : List Report) (name : String)
    (cls : ActionClass) (isStrict : Bool) (w : TimedAction) : Prop where
  undelayed : w.action.policyActionMap = ∅
  decided : evaluated ≠ [] → ∃ v,
    Executes config evaluated name cls isStrict v ∧ w.action.lastValue = cls.toResult v

theorem Served.concat_inv {e : ServiceEvent}
    (h : Served slope build config started registered socSet (events ++ [e]) s') :
    ∃ s, Served slope build config started registered socSet events s ∧
      s.step slope build e = .done s' := by
  obtain ⟨s, hrun, -⟩ := foldlM_append_eq_done_iff.mp h.run
  have hserved : Served slope build config started registered socSet events s := ⟨h.toBooted, hrun⟩
  exact ⟨s, hserved, hserved.last_step h⟩

/-- Without an evaluation an action that waits for no timer stays as it is, unless it is reset. -/
theorem step_keeps {e : ServiceEvent} (hlevels : AtLevels s.policy.sensorClusterMap)
    (hstep : s.step slope build e = .done s') (hnow : s.evaluation build e = none)
    (hsoc : name ∉ s.socSet) {w : TimedAction} (hw : s.actionMap[name]? = some w)
    (hundelayed : w.action.policyActionMap = ∅) : s'.actionMap[name]? = some w := by
  have hactions := (step_moved hlevels hstep).actionMap
  rw [actionEvents, hnow, Option.elim_none] at hactions
  apply hactions.invariant_of_mem (fun actionMap => actionMap[name]? = some w) hw
  intro actionMap event hmem hkept _
  have hmodify : ∀ (other : String) (f : TimedAction → TimedAction), (other = name → f w = w) →
      (actionMap.modify other f)[name]? = some w := by
    intro other f hf
    rw [Std.ExtTreeMap.getElem?_modify]
    split
    case isTrue heq =>
      obtain rfl := Std.compare_eq_iff_eq.mp heq
      rw [hkept]
      exact congrArg some (hf rfl)
    case isFalse => exact hkept
  cases e with
  | addSocPerfService =>
    obtain ⟨other, hother, rfl⟩ := List.mem_map.mp hmem
    apply hmodify
    intro heq
    exact absurd (heq ▸ hother) hsoc
  | delayTimer actionName timerId =>
    obtain rfl := List.mem_singleton.mp hmem
    apply hmodify
    intro _
    rw [TimedAction.timerCallback, hundelayed]
    split
    · rfl
    · simp
  | _ => cases hmem

theorem round_undelayed {policy : ThermalPolicy} (hdistinct : policy.DistinctLevels)
    (hnodelay : policy.NoDelay) {env : RoundEnv} {w : TimedAction}
    (hidle : w.action.actionIdList = []) :
    (w.round (policyCalls policy.sortLevel env name) (env.newId name)).action.policyActionMap =
      ∅ := by
  apply Std.ExtTreeMap.ext_getElem?
  intro id
  rw [Std.ExtTreeMap.getElem?_empty, Option.eq_none_iff_forall_not_mem]
  intro entry hentry
  have hrequested := TimedAction.requested_of_round_entry hidle hentry
  rw [ThermalPolicy.requestedIds_of_noDelay hdistinct hnodelay] at hrequested
  cases hrequested

theorem round_settles {policy : ThermalPolicy} {env : RoundEnv}
    {actionMap actionMap' : ThermalActionMap} (hidle : Idle registered actionMap)
    (hround : policyDecision policy.sortLevel env actionMap = some actionMap')
    (hdistinct : policy.DistinctLevels) (hnodelay : policy.NoDelay)
    (hregistered : registered[name]? = some (cls, isStrict)) :
    ∃ w, actionMap'[name]? = some w ∧ w.action.policyActionMap = ∅ ∧ ∃ v,
      Decides isStrict cls.fallbackValue
        {v | ∃ clusterName, policy.Contributes env.stateMachineMap name cls clusterName v} v ∧
      w.action.lastValue = cls.toResult v := by
  obtain ⟨actionMap₂, hdecision, hvalue⟩ :=
    @Idle.arbitration _ _ hidle policy env hdistinct hnodelay
  obtain rfl := Option.some.inj (hround.symm.trans hdecision)
  obtain ⟨w', v, hw', hdecides, hlast⟩ := hvalue name cls isStrict hregistered
  refine ⟨w', hw', ?_, v, hdecides, hlast⟩
  rw [policyDecision_lookup hround] at hw'
  obtain ⟨w, hw, rfl⟩ := Option.map_eq_some_iff.mp hw'
  exact round_undelayed hdistinct hnodelay (hidle.idle name w hw).2

theorem lastStates_concat (evaluated : List Report) (report : Report) :
    lastStates (evaluated ++ [report]) = report.states := by
  rw [lastStates, List.getLast?_concat]
  rfl

/-- What an event does to an action that waits for no timer: it executes what the clusters come to,
or it stays as it is. -/
theorem Served.step_executes {e : ServiceEvent} {w : TimedAction}
    (h : Served slope build config started registered socSet events s)
    (h' : Served slope build config started registered socSet (events ++ [e]) s')
    (hdistinct : (policyAfter config []).DistinctLevels)
    (hnodelay : (policyAfter config []).NoDelay)
    (hregistered : registered[name]? = some (cls, isStrict)) (hsoc : name ∉ s.socSet)
    (hw : s.actionMap[name]? = some w) (hundelayed : w.action.policyActionMap = ∅) :
    (evaluationsOf slope build (start config started registered socSet) (events ++ [e]) =
        evaluationsOf slope build (start config started registered socSet) events ∧
      s'.actionMap[name]? = some w) ∨
    ∃ report v w', evaluationsOf slope build (start config started registered socSet)
        (events ++ [e]) =
          evaluationsOf slope build (start config started registered socSet) events ++ [report] ∧
      s'.actionMap[name]? = some w' ∧ w'.action.policyActionMap = ∅ ∧
      Executes config (evaluationsOf slope build (start config started registered socSet)
        (events ++ [e])) name cls isStrict v ∧
      w'.action.lastValue = cls.toResult v := by
  have hstep := h.last_step h'
  have htrace : evaluationsOf slope build _ _ = evaluationsOf slope build _ _ ++ _ :=
    trace_concat h.run hstep
  cases hnow : s.evaluation build e with
  | none =>
    rw [evaluations, hnow, Option.map_none, Option.toList_none, List.append_nil] at htrace
    exact .inl ⟨htrace, step_keeps h.kept.1 hstep hnow hsoc hw hundelayed⟩
  | some now =>
    have hround := h.decision h' hdistinct hnodelay hnow
    obtain ⟨w', hw', hempty, v, hdecides, hlast⟩ :=
      round_settles h.kept.2.2 hround hdistinct hnodelay hregistered
    rw [evaluations, hnow, Option.map_some, Option.toList_some] at htrace
    have hstates := congrArg lastStates htrace
    rw [lastStates_concat] at hstates
    refine .inr ⟨_, v, w', htrace, hw', hempty, ?_, hlast⟩
    rw [Executes, hstates]
    exact hdecides

theorem init_lookup (hregistered : registered[name]? = some (cls, isStrict)) :
    (start config started registered socSet).actionMap[name]? =
      some (TimedAction.init cls isStrict) := by
  show (ThermalActionMap.init registered)[name]? = _
  rw [ThermalActionMap.init, Std.ExtTreeMap.getElem?_map, hregistered]
  rfl

/-- Over the life of the service an action that is no soc action executes what the last evaluation
came to. -/
theorem Served.settled (h : Served slope build config started registered socSet events s)
    (hdistinct : (policyAfter config []).DistinctLevels)
    (hnodelay : (policyAfter config []).NoDelay)
    (hregistered : registered[name]? = some (cls, isStrict)) (hsoc : name ∉ socSet) :
    s.socSet = socSet ∧ ∃ w, s.actionMap[name]? = some w ∧
      Settled config (evaluationsOf slope build (start config started registered socSet) events)
        name cls isStrict w := by
  induction events using List.reverseRecOn generalizing s with
  | nil =>
    obtain rfl : start config started registered socSet = s := Outcome.done.inj h.run
    exact ⟨rfl, _, init_lookup hregistered, rfl, fun hne => absurd rfl hne⟩
  | append_singleton events e ih =>
    obtain ⟨mid, hmid, hstep⟩ := h.concat_inv
    obtain ⟨hsocSet, w, hw, hundelayed, hdecided⟩ := ih hmid
    refine ⟨(step_moved hmid.kept.1 hstep).socSet.trans hsocSet, ?_⟩
    rw [← hsocSet] at hsoc
    rcases hmid.step_executes h hdistinct hnodelay hregistered hsoc hw hundelayed with
      ⟨htrace, hsame⟩ | ⟨report, v, w', htrace, hw', hempty, hexecutes, hlast⟩
    · rw [htrace]
      exact ⟨w, hsame, hundelayed, hdecided⟩
    · exact ⟨w', hw', hempty, fun _ => ⟨v, hexecutes, hlast⟩⟩

end Served

end ThermalService

end ThermalManager
