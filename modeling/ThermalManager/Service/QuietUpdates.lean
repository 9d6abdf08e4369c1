import ThermalManager.Policy.LevelStable
import ThermalManager.Service.ServiceLevels

/-!
# Updates without a report

Between two reports a client may have the policy decided any number of times. The clusters are then
evaluated again with the temperatures of the last report, and where nothing else has changed they
stay where they are.
-/

namespace ThermalManager

open Outcome

namespace ThermalService

variable {slope : List Int → Double} {build : ServiceBuild} {s s' : ThermalService}

theorem nextLevel_congr_states {c : ThermalConfigSensorCluster} {states states' : StateMachineMap}
    (hsame : c.checkState states = c.checkState states') (subscriber : ThermalServiceSubscriber)
    (typeTempInfo : TypeTempMap) :
    c.nextLevel states subscriber typeTempInfo = c.nextLevel states' subscriber typeTempInfo := by
  rw [ThermalConfigSensorCluster.nextLevel, ThermalConfigSensorCluster.nextLevel, hsame]

theorem levelAfter_unmoved {c : ThermalConfigSensorCluster} {n : Nat} (hlevels : c.HasLevels n)
    (hle : c.latestLevel ≤ n) (hrate : c.rateFlag = false)
    (hdistinct : (c.tempDiffInfoList.map TempDiffItem.level).Nodup) (hordered : c.Ordered)
    (before : List Report) {last : Report} {more : List Report}
    (hsame : ∀ r ∈ more, r.typeTempInfo = last.typeTempInfo ∧
      c.checkState r.states = c.checkState last.states) :
    c.levelAfter (before ++ [last] ++ more) = c.levelAfter (before ++ [last]) := by
  have hprev := ThermalConfigSensorCluster.levelAfter_le hlevels hle before
  have hlast : c.levelAfter (before ++ [last]) = (c.atLevel (c.levelAfter before)).nextLevel
      last.states last.subscriber last.typeTempInfo := levelAfter_append c before [last]
  generalize htop : c.levelAfter (before ++ [last]) = top at hlast
  rw [levelAfter_append, htop]
  induction more with
  | nil => rfl
  | cons r rest ih =>
    obtain ⟨htemps, hstates⟩ := hsame r List.mem_cons_self
    have hagain : (c.atLevel top).checkState r.states = (c.atLevel top).checkState last.states :=
      hstates
    have hstay : (c.atLevel top).nextLevel r.states r.subscriber r.typeTempInfo = top := by
      rw [htemps, nextLevel_congr_states hagain]
      exact (hlevels.atLevel (c.levelAfter before)).nextLevel_stable hrate hdistinct hordered hprev
        hlast.symm r.subscriber (List.Perm.refl c.tempDiffInfoList) (hlevels.atLevel top)
    rw [← List.singleton_append, levelAfter_append]
    change ((c.atLevel top).atLevel ((c.atLevel top).nextLevel r.states r.subscriber
      r.typeTempInfo)).levelAfter rest = top
    rw [hstay]
    exact ih fun r' hr' => hsame r' (List.mem_cons_of_mem _ hr')

theorem typeTempMap_last_evaluation {config : ServiceConfig} {started : Started}
    {registered : Map String (ActionClass × Bool)} {socSet : List String}
    {events : List ServiceEvent}
    (h : Served slope build config started registered socSet events s) {last : Report}
    (hlast : (evaluationsOf slope build (start config started registered socSet) events).getLast? =
      some last) : s.policy.typeTempMap = last.typeTempInfo := by
  have hstep : ∀ {s s' : ThermalService} {e : ServiceEvent} {before : List Report},
      (AtLevels s.policy.sensorClusterMap ∧
        ∀ last, before.getLast? = some last → s.policy.typeTempMap = last.typeTempInfo) →
      s.step slope build e = .done s' →
      AtLevels s'.policy.sensorClusterMap ∧
        ∀ last, (before ++ s.evaluations build e).getLast? = some last →
          s'.policy.typeTempMap = last.typeTempInfo := by
    intro s s' e before hbefore hstep
    refine ⟨atLevels_step hbefore.1 hstep, fun last hlast => ?_⟩
    rw [(step_moved hbefore.1 hstep).policy]
    rw [evaluations] at hlast
    cases hnow : s.evaluation build e with
    | none =>
      rw [hnow, Option.map_none, Option.toList_none, List.append_nil] at hlast
      exact hbefore.2 last hlast
    | some now =>
      rw [hnow, Option.map_some, Option.toList_some, List.getLast?_concat] at hlast
      cases hlast
      rfl
  have hrun := relation_of_run
    (fun (s : ThermalService) (evaluated : List Report) => AtLevels s.policy.sensorClusterMap ∧
      ∀ last, evaluated.getLast? = some last → s.policy.typeTempMap = last.typeTempInfo)
    hstep ⟨h.atLevels, fun _ hnone => by cases hnone⟩ h.run
  exact hrun.2 last hlast

/-- Where no report gets through, every evaluation is that of an update, with the temperatures that
the policy has. -/
theorem quiet_evaluations (hlevels : AtLevels s.policy.sensorClusterMap)
    {more : List ServiceEvent} (hrun : more.foldlM (step slope build) s = .done s')
    (hquiet : acceptedReports build s.isTempReport more = []) :
    ∀ r ∈ evaluationsOf slope build s more, r.typeTempInfo = s.policy.typeTempMap ∧
      ∃ e ∈ more, ∃ env, immediateOf e = some env ∧ r.states = env.stateMachineMap := by
  induction more generalizing s with
  | nil => exact fun r hr => absurd hr List.not_mem_nil
  | cons e rest ih =>
    obtain ⟨mid, hmid, hrest⟩ := foldlM_cons_eq_done_iff.mp hrun
    obtain ⟨hnow, hlater⟩ := List.append_eq_nil_iff.mp hquiet
    have hreport : reportOf build s.isTempReport e = none := by
      cases hreport : reportOf build s.isTempReport e with
      | none => rfl
      | some now =>
        rw [hreport] at hnow
        cases hnow
    rw [← (step_moved hlevels hmid).isTempReport] at hlater
    have htemps := typeTempMap_step hlevels hmid
    rw [hreport, Option.map_none, Option.getD_none] at htemps
    intro r hr
    rw [evaluationsOf, trace_cons hmid] at hr
    rcases List.mem_append.mp hr with hfirst | hlast
    · rw [evaluations, evaluation, hreport, Option.none_or] at hfirst
      cases himmediate : immediateOf e with
      | none =>
        rw [himmediate] at hfirst
        cases hfirst
      | some env =>
        rw [himmediate] at hfirst
        obtain rfl := List.mem_singleton.mp hfirst
        exact ⟨rfl, e, List.mem_cons_self, env, himmediate, rfl⟩
    · obtain ⟨hsame, e', he', hfound⟩ := ih (atLevels_step hlevels hmid) hrest hlater r hlast
      exact ⟨hsame.trans htemps, e', List.mem_cons_of_mem _ he', hfound⟩

/-- **Deciding again moves no level.** After an evaluation, as long as no report gets through and
the states that gate a cluster answer as they did then, the cluster stays at its level however often
a client has the policy decided. -/
theorem immediate_updates_keep_level {config : ServiceConfig} {started : Started}
    {registered : Map String (ActionClass × Bool)} {socSet : List String}
    {events more : List ServiceEvent}
    (h : Served slope build config started registered socSet events s) {last : Report}
    (hlast : (evaluationsOf slope build (start config started registered socSet) events).getLast? =
      some last)
    (hmore : more.foldlM (step slope build) s = .done s')
    (hquiet : acceptedReports build s.isTempReport more = []) {name : String}
    {c : ThermalConfigSensorCluster} (hcluster : (config .sensorClusterMap)[name]? = some c)
    (hrate : c.rateFlag = false)
    (hdistinct : (c.tempDiffInfoList.map TempDiffItem.level).Nodup) (hordered : c.Ordered)
    (hstates : ∀ e ∈ more, ∀ env, immediateOf e = some env →
      c.checkState env.stateMachineMap = c.checkState last.states) :
    s'.policy.clusterLevelMap[name]? = s.policy.clusterLevelMap[name]? ∧
      s'.policy.sensorClusterMap[name]? = s.policy.sensorClusterMap[name]? := by
  have hatLevels : AtLevels s.policy.sensorClusterMap :=
    invariant_of_run (fun s : ThermalService => AtLevels s.policy.sensorClusterMap)
      (fun hlevels hstep => atLevels_step hlevels hstep) h.atLevels h.run
  have hboth : Served slope build config started registered socSet (events ++ more) s' :=
    ⟨h.toBooted, foldlM_append_eq_done_iff.mpr ⟨s, h.run, hmore⟩⟩
  have hsplit : evaluationsOf slope build (start config started registered socSet)
      (events ++ more) =
        evaluationsOf slope build (start config started registered socSet) events ++
          evaluationsOf slope build s more := trace_append h.run more
  obtain ⟨conv, uninit, hstored⟩ := h.stored
  obtain ⟨n, hlevels, hle⟩ := hstored.atLevels name c hcluster
  obtain ⟨before, hbefore⟩ := List.getLast?_eq_some_iff.mp hlast
  have hsame : ∀ r ∈ evaluationsOf slope build s more, r.typeTempInfo = last.typeTempInfo ∧
      c.checkState r.states = c.checkState last.states := by
    intro r hr
    obtain ⟨htemps, e, he, env, himmediate, hanswers⟩ :=
      quiet_evaluations hatLevels hmore hquiet r hr
    rw [htemps, hanswers]
    exact ⟨typeTempMap_last_evaluation h hlast, hstates e he env himmediate⟩
  have hunmoved := levelAfter_unmoved hlevels hle hrate hdistinct hordered before hsame
  rw [hboth.levelsAfter.levels, h.levelsAfter.levels, hboth.levelsAfter.clusters,
    h.levelsAfter.clusters, hcluster, hsplit, hbefore, Option.map_some, Option.map_some,
    Option.map_some, Option.map_some, hunmoved, if_neg (by simp), if_neg (by simp)]
  exact ⟨rfl, rfl⟩

/-- A client has the policy decided twice, and a report is dropped. -/
def decidedTwice : List ServiceEvent :=
  [.updateThermalState true "scene" "call" true plainRound, .thermalCallback [] plainRound,
    .updateThermalState true "scene" "game" true plainRound]

theorem warmBattery_stays : ∃ config started s s',
    Served noSlope deviceBuild config started ∅ [] warmBattery s ∧
      decidedTwice.foldlM (step noSlope deviceBuild) s = .done s' ∧
      s.policy.clusterLevelMap["base"]? = some 1 ∧
      s'.policy.clusterLevelMap["base"]? = s.policy.clusterLevelMap["base"]? := by
  have hload : thermalSrvConfigInit decimalConversions unsetVariables simulatedFile initialConfig =
      some (true, _) := rfl
  have hserved : Served noSlope deviceBuild _ _ ∅ [] warmBattery _ :=
    ⟨⟨⟨_, _, .loaded .initial hload⟩, ⟨{}, rfl⟩⟩, rfl⟩
  refine ⟨_, _, _, _, hserved, rfl, rfl, ?_⟩
  exact (immediate_updates_keep_level hserved rfl (rfl : decidedTwice.foldlM _ _ = _) rfl rfl rfl
    (by decide) (forall_entries (by decide)) fun _ _ _ _ => rfl).1

end ThermalService

end ThermalManager
