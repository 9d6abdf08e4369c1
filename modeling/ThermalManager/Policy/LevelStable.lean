import Mathlib.Data.List.Nodup
import ThermalManager.Policy.LevelMonotone

/-!
# Stability of the level and the extra condition

Without a rate condition the extra condition of a level is one fact about the reported temperatures,
shared by all sensors and both modes. The reported sensors are then climbers on one staircase: a
second update under the same temperatures moves nobody, and a single climber comes to stand on a
level whose condition fails in one situation only.
-/

namespace ThermalManager

open Hysteresis

namespace ThermalConfigSensorCluster

variable {c : ThermalConfigSensorCluster} {n : Nat}

/-! ### The shared condition -/

/-- The extra condition of a level in a cluster without rate condition. -/
def conditionAt (c : ThermalConfigSensorCluster) (typeTempInfo : TypeTempMap) (level : Nat) :
    Bool :=
  (c.checkExtraCondition ⟨∅, 0⟩ typeTempInfo level "" [] false).getD false

theorem checkExtraCondition_of_noRate (hrate : c.rateFlag = false)
    (subscriber subscriber' : ThermalServiceSubscriber) (typeTempInfo : TypeTempMap) (level : Nat)
    (type type' : String) (levItems levItems' : List LevelItem) (isCritical isCritical' : Bool) :
    c.checkExtraCondition subscriber typeTempInfo level type levItems isCritical =
      c.checkExtraCondition subscriber' typeTempInfo level type' levItems' isCritical' := by
  rw [checkExtraCondition, checkExtraCondition, hrate]
  rfl

theorem HasLevels.checkExtraCondition_eq (h : c.HasLevels n) (hrate : c.rateFlag = false)
    (subscriber : ThermalServiceSubscriber) (typeTempInfo : TypeTempMap) {level : Nat}
    (hlevel : level ≤ n) {type : String} {levItems : List LevelItem}
    (hitems : levItems.length = n) (isCritical : Bool) :
    c.checkExtraCondition subscriber typeTempInfo level type levItems isCritical =
      some (c.conditionAt typeTempInfo level) := by
  obtain ⟨holds, hholds⟩ := Option.isSome_iff_exists.mp
    (checkExtraCondition_isSome h subscriber typeTempInfo type isCritical hlevel hitems)
  rw [conditionAt, ← checkExtraCondition_of_noRate hrate subscriber ⟨∅, 0⟩ typeTempInfo level
    type "" levItems [] isCritical false, hholds]
  rfl

theorem extraHolds_eq_conditionAt (hrate : c.rateFlag = false)
    (subscriber : ThermalServiceSubscriber) (typeTempInfo : TypeTempMap)
    (sensorInfo : String × List LevelItem) :
    c.extraHolds subscriber typeTempInfo sensorInfo =
      fun level _ => c.conditionAt typeTempInfo level := by
  funext level isCritical
  rw [extraHolds, conditionAt, checkExtraCondition_of_noRate hrate]

/-! ### The sensors as climbers -/

def climbers (c : ThermalConfigSensorCluster) (typeTempInfo : TypeTempMap) : List Climber :=
  c.sensorInfolist.toList.filterMap fun sensorInfo =>
    (typeTempInfo[sensorInfo.1]?).map (levelClimber c.descFlag sensorInfo.2)

theorem HasLevels.sensorLevels_eq (h : c.HasLevels n) (hrate : c.rateFlag = false)
    (subscriber : ThermalServiceSubscriber) (typeTempInfo : TypeTempMap) :
    c.sensorLevels subscriber typeTempInfo = (c.climbers typeTempInfo).map
      (fun climber => climber.move (c.conditionAt typeTempInfo) n c.latestLevel) := by
  rw [sensorLevels, climbers, List.map_filterMap]
  apply List.filterMap_congr
  intro sensorInfo hmem
  have hlength := h.length_eq (Std.ExtTreeMap.mem_toList_iff_getElem?_eq_some.mp hmem)
  rw [extraHolds_eq_conditionAt hrate, Option.map_map, ← hlength]
  rfl

/-- Every sensor's thresholds are ordered in the direction of the cluster. -/
def Ordered (c : ThermalConfigSensorCluster) : Prop :=
  ∀ (name : String) (items : List LevelItem), c.sensorInfolist[name]? = some items →
    OrderedThresholds c.descFlag items

theorem HasLevels.climbers_orderly (h : c.HasLevels n) (hordered : c.Ordered)
    (typeTempInfo : TypeTempMap) : ∀ climber ∈ c.climbers typeTempInfo, climber.Orderly n := by
  intro climber hclimber
  rw [climbers, List.mem_filterMap] at hclimber
  obtain ⟨sensorInfo, hmem, hclimber⟩ := hclimber
  obtain ⟨curTemp, -, rfl⟩ := Option.map_eq_some_iff.mp hclimber
  have hitems := Std.ExtTreeMap.mem_toList_iff_getElem?_eq_some.mp hmem
  exact h.length_eq hitems ▸ (hordered _ _ hitems).orderly curTemp

/-! ### The temp-diff list

The source sorts the list in place. With distinct levels every order of the list sorts to the same
one, so an update does not notice in which order the last one left it. -/

theorem sort_eq_of_perm {diffs sorted : List TempDiffItem} (hperm : diffs.Perm sorted)
    (hdistinct : (sorted.map TempDiffItem.level).Nodup) :
    diffs.mergeSort (fun t1 t2 => decide (t1.level ≤ t2.level)) =
      sorted.mergeSort (fun t1 t2 => decide (t1.level ≤ t2.level)) := by
  have hsorted : ∀ list : List TempDiffItem,
      (list.mergeSort (fun t1 t2 => decide (t1.level ≤ t2.level))).Pairwise
        (fun t1 t2 => decide (t1.level ≤ t2.level) = true) :=
    List.pairwise_mergeSort (by simp only [decide_eq_true_eq]; omega)
      (by simp only [Bool.or_eq_true, decide_eq_true_eq]; omega)
  refine List.Perm.eq_of_pairwise (fun t1 t2 h1 h2 hle hge => ?_) (hsorted diffs) (hsorted sorted)
    ((List.mergeSort_perm diffs _).trans (hperm.trans (List.mergeSort_perm sorted _).symm))
  simp only [decide_eq_true_eq] at hle hge
  exact List.inj_on_of_nodup_map hdistinct (hperm.mem_iff.mp (List.mem_mergeSort.mp h1))
    (List.mem_mergeSort.mp h2) (le_antisymm hle hge)

/-- The same cluster with its temp-diff list in another order. -/
def withTempDiffs (c : ThermalConfigSensorCluster) (diffs : TempDiffInfoList) :
    ThermalConfigSensorCluster := { c with tempDiffInfoList := diffs }

theorem conditionAt_withTempDiffs {diffs : TempDiffInfoList}
    (hperm : diffs.Perm c.tempDiffInfoList)
    (hdistinct : (c.tempDiffInfoList.map TempDiffItem.level).Nodup) (typeTempInfo : TypeTempMap) :
    (c.withTempDiffs diffs).conditionAt typeTempInfo = c.conditionAt typeTempInfo := by
  funext level
  have htrigger : (c.withTempDiffs diffs).isTempDiffTrigger typeTempInfo level =
      c.isTempDiffTrigger typeTempInfo level := by
    rw [isTempDiffTrigger, isTempDiffTrigger]
    simp only [withTempDiffs, hperm.length_eq, sort_eq_of_perm hperm hdistinct]
  rw [conditionAt, conditionAt, checkExtraCondition, checkExtraCondition, htrigger]
  rfl

/-! ### The second update -/

/-- The level of the first update is the level of the second one. -/
theorem HasLevels.nextLevel_stable (h : c.HasLevels n) (hrate : c.rateFlag = false)
    (hdistinct : (c.tempDiffInfoList.map TempDiffItem.level).Nodup) (hordered : c.Ordered)
    (hlevel : c.latestLevel ≤ n) {states : StateMachineMap}
    {subscriber : ThermalServiceSubscriber} {typeTempInfo : TypeTempMap} {top : Nat}
    (htop : c.nextLevel states subscriber typeTempInfo = top)
    (subscriber' : ThermalServiceSubscriber) {diffs : TempDiffInfoList}
    (hperm : diffs.Perm c.tempDiffInfoList)
    (hagain : ((c.atLevel top).withTempDiffs diffs).HasLevels n) :
    ((c.atLevel top).withTempDiffs diffs).nextLevel states subscriber' typeTempInfo = top := by
  rw [nextLevel] at htop ⊢
  have hstates : ((c.atLevel top).withTempDiffs diffs).checkState states = c.checkState states :=
    rfl
  rw [hstates]
  cases hstate : c.checkState states with
  | false => simpa [hstate] using htop
  | true =>
    rw [hstate, if_pos rfl, h.sensorLevels_eq hrate] at htop
    have hcondition : ((c.atLevel top).withTempDiffs diffs).conditionAt typeTempInfo =
        c.conditionAt typeTempInfo :=
      @conditionAt_withTempDiffs (c.atLevel top) diffs hperm hdistinct typeTempInfo
    rw [if_pos rfl, hagain.sensorLevels_eq hrate, hcondition]
    change (((c.climbers typeTempInfo).map (fun climber =>
      climber.move (c.conditionAt typeTempInfo) n top)).max?).getD top = top
    cases hmax : ((c.climbers typeTempInfo).map (fun climber =>
        climber.move (c.conditionAt typeTempInfo) n c.latestLevel)).max? with
    | none =>
      -- nothing of the cluster is reported
      rw [List.max?_eq_none_iff, List.map_eq_nil_iff] at hmax
      rw [hmax]
      rfl
    | some level =>
      rw [hmax, Option.getD_some] at htop
      subst htop
      rw [max_move_stable (h.climbers_orderly hordered typeTempInfo) hlevel hmax]
      rfl

/-- **The level decision is stable.** A second update with the same temperatures and the same state
answers leaves the level where the first one put it, in whichever order the first one left the
temp-diff list. -/
theorem updateThermalLevel_stable (h : c.Accepted) (hrate : c.rateFlag = false)
    (hdistinct : (c.tempDiffInfoList.map TempDiffItem.level).Nodup) (hordered : c.Ordered)
    (hlevel : c.latestLevel ≤ c.levelCount) (states : StateMachineMap)
    (subscriber subscriber' : ThermalServiceSubscriber) (typeTempInfo : TypeTempMap) :
    ∃ c', c.updateThermalLevel states subscriber typeTempInfo = some c' ∧
      ∀ diffs, diffs.Perm c'.tempDiffInfoList →
        (c'.withTempDiffs diffs).updateThermalLevel states subscriber' typeTempInfo =
          some (c'.withTempDiffs diffs) := by
  have hlevels := h.hasLevels
  refine ⟨_, updateThermalLevel_eq hlevels hlevel states subscriber typeTempInfo, ?_⟩
  intro diffs hperm
  have hbound := nextLevel_le hlevels hlevel states subscriber typeTempInfo
  generalize htop : c.nextLevel states subscriber typeTempInfo = top at hbound hperm ⊢
  have hagain : ((c.atLevel top).withTempDiffs diffs).HasLevels c.levelCount :=
    ⟨hlevels.pos, hlevels.sensors, hlevels.aux⟩
  rw [updateThermalLevel_eq hagain hbound,
    hlevels.nextLevel_stable hrate hdistinct hordered hlevel htop subscriber' hperm hagain]
  rfl

theorem twoLevelCluster_ordered : twoLevelCluster.Ordered := forall_entries (by decide)

/-- The shell is hot enough for level two, the ambient range of level two is left. -/
def mixedTemps : TypeTempMap :=
  (∅ : TypeTempMap) |>.insert "battery" 405 |>.insert "shell" 390 |>.insert "ambient" 250

theorem twoLevelCluster_stable :
    ∃ c', twoLevelCluster.updateThermalLevel ∅ ⟨∅, 0⟩ mixedTemps = some c' ∧
      ∀ diffs, diffs.Perm c'.tempDiffInfoList →
        (c'.withTempDiffs diffs).updateThermalLevel ∅ ⟨∅, 0⟩ mixedTemps =
          some (c'.withTempDiffs diffs) :=
  updateThermalLevel_stable twoLevelCluster_accepted rfl (by decide) twoLevelCluster_ordered
    (by decide) ∅ ⟨∅, 0⟩ ⟨∅, 0⟩ mixedTemps

/-! ### A single reported sensor -/

theorem mem_climbers_of_single {typeTempInfo : TypeTempMap} {name : String}
    {items : List LevelItem} {curTemp : Int} (hsensor : c.sensorInfolist[name]? = some items)
    (htemp : typeTempInfo[name]? = some curTemp)
    (honly : ∀ (other : String), other ∈ c.sensorInfolist → other ≠ name →
      typeTempInfo[other]? = none) {climber : Climber} :
    climber ∈ c.climbers typeTempInfo ↔ climber = levelClimber c.descFlag items curTemp := by
  rw [climbers, List.mem_filterMap]
  refine ⟨fun hclimber => ?_, fun hclimber => ?_⟩
  · obtain ⟨⟨other, otherItems⟩, hother, hclimber⟩ := hclimber
    have hitems := Std.ExtTreeMap.mem_toList_iff_getElem?_eq_some.mp hother
    have hmem : other ∈ c.sensorInfolist :=
      Std.ExtTreeMap.mem_iff_isSome_getElem?.mpr (hitems ▸ rfl)
    by_cases hname : other = name
    · subst hname
      obtain rfl := Option.some.inj (hsensor.symm.trans hitems)
      rw [htemp] at hclimber
      exact (Option.some.inj hclimber).symm
    · rw [honly other hmem hname] at hclimber
      cases hclimber
  · subst hclimber
    exact ⟨(name, items), Std.ExtTreeMap.mem_toList_iff_getElem?_eq_some.mpr hsensor,
      by rw [htemp]; rfl⟩

theorem HasLevels.nextLevel_of_single (h : c.HasLevels n) (hrate : c.rateFlag = false)
    {states : StateMachineMap} (hstates : c.checkState states = true)
    (subscriber : ThermalServiceSubscriber) {typeTempInfo : TypeTempMap} {name : String}
    {items : List LevelItem} {curTemp : Int} (hsensor : c.sensorInfolist[name]? = some items)
    (htemp : typeTempInfo[name]? = some curTemp)
    (honly : ∀ (other : String), other ∈ c.sensorInfolist → other ≠ name →
      typeTempInfo[other]? = none) :
    c.nextLevel states subscriber typeTempInfo =
      (levelClimber c.descFlag items curTemp).move (c.conditionAt typeTempInfo) n
        c.latestLevel := by
  have hmax : ((c.climbers typeTempInfo).map fun climber =>
      climber.move (c.conditionAt typeTempInfo) n c.latestLevel).max? =
      some ((levelClimber c.descFlag items curTemp).move (c.conditionAt typeTempInfo) n
        c.latestLevel) := by
    rw [List.max?_eq_some_iff]
    refine ⟨List.mem_map_of_mem ((mem_climbers_of_single hsensor htemp honly).mpr rfl), ?_⟩
    intro level hmem
    obtain ⟨climber, hclimber, rfl⟩ := List.mem_map.mp hmem
    rw [(mem_climbers_of_single hsensor htemp honly).mp hclimber]
  rw [nextLevel, hstates, if_pos rfl, h.sensorLevels_eq hrate, hmax]
  rfl

/-- **When a single sensor falls back.** The level reached is zero or satisfies the extra condition,
unless the cluster stands on a level strictly between the floor and the top, the temperature already
reaches the next threshold, and the conditions of both this level and the next one fail. -/
theorem fallback_iff (h : c.Accepted) (hrate : c.rateFlag = false)
    (hlevel : c.latestLevel ≤ c.levelCount) {states : StateMachineMap}
    (hstates : c.checkState states = true) (subscriber : ThermalServiceSubscriber)
    (isCritical : Bool) {typeTempInfo : TypeTempMap} {name : String} {items : List LevelItem}
    {curTemp : Int}
    (hsensor : c.sensorInfolist[name]? = some items) (htemp : typeTempInfo[name]? = some curTemp)
    (honly : ∀ (other : String), other ∈ c.sensorInfolist → other ≠ name →
      typeTempInfo[other]? = none) :
    ∃ c', c.updateThermalLevel states subscriber typeTempInfo = some c' ∧
      ((c'.latestLevel = 0 ∨ c'.checkExtraCondition subscriber typeTempInfo c'.latestLevel name
          items isCritical = some true) ↔
        ¬ (0 < c.latestLevel ∧ c.latestLevel < c.levelCount ∧
          meets c.descFlag curTemp (thresholdAt items (c.latestLevel + 1)) = true ∧
          c.checkExtraCondition subscriber typeTempInfo c.latestLevel name items isCritical =
            some false ∧
          c.checkExtraCondition subscriber typeTempInfo (c.latestLevel + 1) name items isCritical =
            some false)) := by
  have hlevels := h.hasLevels
  have hlength := hlevels.length_eq hsensor
  refine ⟨_, updateThermalLevel_eq hlevels hlevel states subscriber typeTempInfo, ?_⟩
  have hmove := hlevels.nextLevel_of_single hrate hstates subscriber hsensor htemp honly
  have hcheck : ∀ {level : Nat}, level ≤ c.levelCount →
      c.checkExtraCondition subscriber typeTempInfo level name items isCritical =
        some (c.conditionAt typeTempInfo level) :=
    fun hle => hlevels.checkExtraCondition_eq hrate subscriber typeTempInfo hle hlength isCritical
  have hcheck' : (c.atLevel (c.nextLevel states subscriber typeTempInfo)).checkExtraCondition
      subscriber typeTempInfo (c.nextLevel states subscriber typeTempInfo) name items isCritical =
        some (c.conditionAt typeTempInfo (c.nextLevel states subscriber typeTempInfo)) :=
    hcheck (nextLevel_le hlevels hlevel states subscriber typeTempInfo)
  have hiff := (levelClimber c.descFlag items curTemp).move_eq_zero_or_extra_iff
    (c.conditionAt typeTempInfo) c.levelCount c.latestLevel
  rw [← hmove] at hiff
  change (c.nextLevel states subscriber typeTempInfo = 0 ∨
    (c.atLevel (c.nextLevel states subscriber typeTempInfo)).checkExtraCondition subscriber
      typeTempInfo (c.nextLevel states subscriber typeTempInfo) name items isCritical =
        some true) ↔ _
  rw [hcheck', Option.some.injEq, hiff, hcheck hlevel, Option.some.injEq]
  refine not_congr (and_congr_right fun _ => and_congr_right fun hlt => and_congr_right fun _ => ?_)
  rw [hcheck hlt, Option.some.injEq]

/-- Level one of the two, entered some time ago. -/
def stuckCluster : ThermalConfigSensorCluster := twoLevelCluster.atLevel 1

/-- The battery is hot enough for level two, the ambient range of both levels is left. -/
def hotTemps : TypeTempMap := (∅ : TypeTempMap) |>.insert "battery" 440 |>.insert "ambient" 500

theorem stuckCluster_accepted : stuckCluster.Accepted :=
  ⟨twoLevelCluster_accepted.standard, twoLevelCluster_accepted.sensor_ne_nil,
    twoLevelCluster_accepted.aux_ne_nil⟩

theorem hotTemps_eq_none {other : String} (hmem : other ∈ stuckCluster.sensorInfolist)
    (hname : other ≠ "battery") : hotTemps[other]? = none := by
  have hambient : other ≠ "ambient" := by
    intro heq
    subst heq
    exact absurd hmem (by decide)
  simp [hotTemps, hname.symm, hambient.symm]

/-- The level stays although its condition has failed. -/
theorem stuckCluster_keeps_failed_level :
    stuckCluster.Accepted ∧ stuckCluster.auxFlag = true ∧ stuckCluster.rateFlag = false ∧
      stuckCluster.descFlag = false ∧ stuckCluster.Ordered ∧
      stuckCluster.checkState ∅ = true ∧ hotTemps["battery"]? = some 440 ∧
      (∀ (other : String), other ∈ stuckCluster.sensorInfolist → other ≠ "battery" →
        hotTemps[other]? = none) ∧
      ∃ c', stuckCluster.updateThermalLevel ∅ ⟨∅, 0⟩ hotTemps = some c' ∧
        ¬ (c'.latestLevel = 0 ∨ c'.checkExtraCondition ⟨∅, 0⟩ hotTemps c'.latestLevel "battery"
          batteryItems false = some true) :=
  ⟨stuckCluster_accepted, by decide, by decide, by decide, twoLevelCluster_ordered, by decide,
    by decide, fun _ => hotTemps_eq_none, _,
    updateThermalLevel_eq stuckCluster_accepted.hasLevels (by decide) ∅ ⟨∅, 0⟩ hotTemps, by decide⟩

theorem stuckCluster_fallback_iff :
    ∃ c', stuckCluster.updateThermalLevel ∅ ⟨∅, 0⟩ hotTemps = some c' ∧
      ((c'.latestLevel = 0 ∨ c'.checkExtraCondition ⟨∅, 0⟩ hotTemps c'.latestLevel "battery"
          batteryItems false = some true) ↔
        ¬ (0 < stuckCluster.latestLevel ∧ stuckCluster.latestLevel < stuckCluster.levelCount ∧
          meets stuckCluster.descFlag 440
            (thresholdAt batteryItems (stuckCluster.latestLevel + 1)) = true ∧
          stuckCluster.checkExtraCondition ⟨∅, 0⟩ hotTemps stuckCluster.latestLevel "battery"
            batteryItems false = some false ∧
          stuckCluster.checkExtraCondition ⟨∅, 0⟩ hotTemps (stuckCluster.latestLevel + 1) "battery"
            batteryItems false = some false)) :=
  fallback_iff stuckCluster_accepted rfl (by decide) (by decide) ⟨∅, 0⟩ false (by decide)
    (by decide) (fun _ => hotTemps_eq_none)

end ThermalConfigSensorCluster

end ThermalManager
