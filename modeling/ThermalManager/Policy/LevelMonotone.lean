import Mathlib.Data.List.Forall2
import ThermalManager.Policy.LevelSafety

/-!
# Hotter never means a lower level

With ordered thresholds and no extra condition the step of a sensor is a clamp of the previous
level between two counts, those of the thresholds and of the clear thresholds that the temperature
reaches. The clamp is monotone in the temperature and in the level, so two runs that start in order
and are fed in order stay in order.
-/

namespace ThermalManager

open Hysteresis

/-! ### Ordered thresholds -/

/-- The bound `a` is reached no later than `b`. -/
def notAfter (descFlag : Bool) (a b : Int) : Prop := if descFlag then b ≤ a else a ≤ b

instance (descFlag : Bool) (a b : Int) : Decidable (notAfter descFlag a b) :=
  inferInstanceAs (Decidable (if descFlag then b ≤ a else a ≤ b))

/-- Thresholds get harder to reach with the level, clear thresholds are easier than them. -/
structure OrderedThresholds (descFlag : Bool) (levItems : List LevelItem) : Prop where
  threshold : (levItems.map LevelItem.threshold).Pairwise (notAfter descFlag)
  clr : ∀ item ∈ levItems, notAfter descFlag item.thresholdClr item.threshold

instance (descFlag : Bool) (levItems : List LevelItem) :
    Decidable (OrderedThresholds descFlag levItems) :=
  decidable_of_iff ((levItems.map LevelItem.threshold).Pairwise (notAfter descFlag) ∧
      ∀ item ∈ levItems, notAfter descFlag item.thresholdClr item.threshold)
    ⟨fun h => ⟨h.1, h.2⟩, fun h => ⟨h.1, h.2⟩⟩

theorem meets_of_notAfter {descFlag : Bool} {curTemp a b : Int} (hab : notAfter descFlag a b)
    (hmeets : meets descFlag curTemp b = true) : meets descFlag curTemp a = true := by
  cases descFlag <;> simp only [notAfter, meets, Bool.false_eq_true, if_true, if_false,
    decide_eq_true_eq] at hab hmeets ⊢ <;> omega

private theorem downClosed_of_pairwise {descFlag : Bool} {levItems : List LevelItem}
    {bound : LevelItem → Int} {boundAt : Nat → Int} (curTemp : Int)
    (hat : ∀ i item, levItems[i]? = some item → boundAt (i + 1) = bound item)
    (hsorted : (levItems.map bound).Pairwise (notAfter descFlag)) :
    DownClosed levItems.length (fun level => meets descFlag curTemp (boundAt level)) := by
  intro i hpos hi hmeets
  obtain ⟨k, rfl⟩ : ∃ k, i = k + 1 := ⟨i - 1, by omega⟩
  have hk : k < levItems.length := by omega
  have hlower := hat k _ (List.getElem?_eq_getElem hk)
  have hupper := hat (k + 1) _ (List.getElem?_eq_getElem hi)
  have hpair := List.pairwise_iff_getElem.mp hsorted k (k + 1) (by simpa using hk)
    (by rw [List.length_map]; exact hi) (Nat.lt_succ_self k)
  rw [List.getElem_map, List.getElem_map, ← hlower, ← hupper] at hpair
  exact meets_of_notAfter hpair hmeets

theorem thresholdAt_succ {levItems : List LevelItem} {i : Nat} {item : LevelItem}
    (hitem : levItems[i]? = some item) : thresholdAt levItems (i + 1) = item.threshold := by
  simp [thresholdAt, hitem]

theorem thresholdClrAt_succ {levItems : List LevelItem} {i : Nat} {item : LevelItem}
    (hitem : levItems[i]? = some item) : thresholdClrAt levItems (i + 1) = item.thresholdClr := by
  simp [thresholdClrAt, hitem]

theorem OrderedThresholds.orderly {descFlag : Bool} {levItems : List LevelItem}
    (h : OrderedThresholds descFlag levItems) (curTemp : Int) :
    (levelClimber descFlag levItems curTemp).Orderly levItems.length where
  downClosed := downClosed_of_pairwise curTemp (fun _ _ => thresholdAt_succ) h.threshold
  hold_of_rise := by
    intro i hpos hi hrise
    obtain ⟨item, hitem, hthreshold, hclr⟩ := exists_item (show i - 1 < levItems.length by omega)
    rw [Nat.sub_add_cancel hpos] at hthreshold hclr
    have hbound := h.clr item (List.mem_of_getElem? hitem)
    rw [← hthreshold, ← hclr] at hbound
    exact meets_of_notAfter hbound hrise

/-! ### The step of a sensor in closed form -/

/-- How many of the bounds the temperature reaches. -/
def reached (levItems : List LevelItem) (bound : LevelItem → Int) (curTemp : Int) : Nat :=
  levItems.countP fun item => decide (curTemp ≥ bound item)

theorem reached_mono (levItems : List LevelItem) (bound : LevelItem → Int) {cooler hotter : Int}
    (hle : cooler ≤ hotter) : reached levItems bound cooler ≤ reached levItems bound hotter := by
  rw [reached, reached]
  refine List.countP_mono_left (fun item _ hreach => ?_)
  simp only [decide_eq_true_eq] at hreach ⊢
  omega

private theorem reach_eq_reached {levItems : List LevelItem} {bound : LevelItem → Int}
    {boundAt : Nat → Int} (curTemp : Int)
    (hat : ∀ i item, levItems[i]? = some item → boundAt (i + 1) = bound item)
    (hsorted : (levItems.map bound).Pairwise (notAfter false)) :
    reach (fun level => meets false curTemp (boundAt level)) levItems.length =
      reached levItems bound curTemp := by
  rw [reach_eq_countP (downClosed_of_pairwise curTemp hat hsorted), reached]
  have hlist : levItems.map (fun item => decide (curTemp ≥ bound item)) =
      (List.range levItems.length).map (fun i => meets false curTemp (boundAt (i + 1))) := by
    refine List.ext_getElem (by simp) (fun i hi _ => ?_)
    have hlt : i < levItems.length := by simpa using hi
    simp [meets, hat i _ (List.getElem?_eq_getElem hlt)]
  have hcount := congrArg (List.countP id) hlist
  simpa [List.countP_map, Function.comp_def] using hcount.symm

/-- Ascending thresholds, ascending clear thresholds, each clear threshold at most its threshold. -/
structure AscendingThresholds (levItems : List LevelItem) : Prop
    extends OrderedThresholds false levItems where
  clrSorted : (levItems.map LevelItem.thresholdClr).Pairwise (notAfter false)

instance (levItems : List LevelItem) : Decidable (AscendingThresholds levItems) :=
  decidable_of_iff (OrderedThresholds false levItems ∧
      (levItems.map LevelItem.thresholdClr).Pairwise (notAfter false))
    ⟨fun h => ⟨h.1, h.2⟩, fun h => ⟨h.1, h.2⟩⟩

theorem AscendingThresholds.levelMove_eq_clamp {levItems : List LevelItem}
    (h : AscendingThresholds levItems) (curTemp : Int) {level : Nat}
    (hlevel : level ≤ levItems.length) :
    levelMove false levItems (fun _ _ => true) curTemp level =
      max (reached levItems LevelItem.threshold curTemp)
        (min level (reached levItems LevelItem.thresholdClr curTemp)) := by
  have horderly := h.orderly curTemp
  have hclr : DownClosed levItems.length (levelClimber false levItems curTemp).hold :=
    downClosed_of_pairwise curTemp (fun _ _ => thresholdClrAt_succ) h.clrSorted
  rw [← reach_eq_reached curTemp (fun _ _ => thresholdAt_succ) h.threshold,
    ← reach_eq_reached curTemp (fun _ _ => thresholdClrAt_succ) h.clrSorted, levelMove]
  simp only [Bool.and_true]
  exact move_eq_clamp horderly.downClosed hclr horderly.hold_of_rise hlevel

/-! ### Two runs -/

namespace ThermalConfigSensorCluster

/-- An ascending cluster with levels `1, ..., n` and no condition besides the temperatures. -/
structure PlainAscending (c : ThermalConfigSensorCluster) (n : Nat) : Prop
    extends c.HasLevels n where
  asc : c.descFlag = false
  noAux : c.auxFlag = false
  noRate : c.rateFlag = false
  noTempDiff : c.tempDiffFlag = false
  thresholds : ∀ (name : String) (items : List LevelItem), c.sensorInfolist[name]? = some items →
    AscendingThresholds items

/-- The second report shows the same states and sensors, each at least as hot. -/
structure Hotter (c : ThermalConfigSensorCluster) (r₁ r₂ : Report) : Prop where
  states : c.checkState r₁.states = c.checkState r₂.states
  temps : ∀ (name : String), name ∈ c.sensorInfolist →
    Option.Rel (· ≤ ·) r₁.typeTempInfo[name]? r₂.typeTempInfo[name]?

variable {c : ThermalConfigSensorCluster} {n : Nat}

theorem PlainAscending.atLevel (h : c.PlainAscending n) (level : Nat) :
    (c.atLevel level).PlainAscending n :=
  ⟨h.toHasLevels.atLevel level, h.asc, h.noAux, h.noRate, h.noTempDiff, h.thresholds⟩

theorem PlainAscending.extraHolds_eq (h : c.PlainAscending n)
    (subscriber : ThermalServiceSubscriber) (typeTempInfo : TypeTempMap)
    (sensorInfo : String × List LevelItem) :
    c.extraHolds subscriber typeTempInfo sensorInfo = fun _ _ => true := by
  funext level isCritical
  rw [extraHolds, checkExtraCondition, h.noAux, h.noRate, h.noTempDiff]
  rfl

theorem PlainAscending.judgment_eq_clamp (h : c.PlainAscending n) (hlevel : c.latestLevel ≤ n)
    (subscriber : ThermalServiceSubscriber) (typeTempInfo : TypeTempMap)
    {sensorInfo : String × List LevelItem}
    (hmem : c.sensorInfolist[sensorInfo.1]? = some sensorInfo.2) (curTemp : Int) :
    c.judgment subscriber typeTempInfo sensorInfo curTemp =
      some (max (reached sensorInfo.2 LevelItem.threshold curTemp)
        (min c.latestLevel (reached sensorInfo.2 LevelItem.thresholdClr curTemp))) := by
  have hlength := h.length_eq hmem
  rw [judgment_eq_move h.toHasLevels hlevel subscriber typeTempInfo hmem, h.asc,
    h.extraHolds_eq subscriber typeTempInfo sensorInfo,
    (h.thresholds _ _ hmem).levelMove_eq_clamp curTemp (hlength ▸ hlevel)]

private theorem max?_getD_le {xs ys : List Nat} {a b : Nat} (hlists : List.Forall₂ (· ≤ ·) xs ys)
    (hab : a ≤ b) : (xs.max?).getD a ≤ (ys.max?).getD b := by
  cases hx : xs.max? with
  | none =>
    rw [List.max?_eq_none_iff] at hx
    subst hx
    rw [List.forall₂_nil_left_iff.mp hlists]
    exact hab
  | some x =>
    obtain ⟨i, hi, hget⟩ := List.getElem_of_mem (List.max?_eq_some_iff.mp hx).1
    have hlength := hlists.length_eq
    have hle : xs[i] ≤ ys[i] := List.Forall₂.get hlists hi (hlength ▸ hi)
    cases hy : ys.max? with
    | none =>
      rw [List.max?_eq_none_iff] at hy
      simp [hy] at hlength
      simp [hlength] at hi
    | some y =>
      have hmax := (List.max?_eq_some_iff.mp hy).2 _ (List.getElem_mem (hlength ▸ hi))
      rw [Option.getD_some, Option.getD_some, ← hget]
      exact le_trans hle hmax

theorem PlainAscending.sensorLevels_mono (h : c.PlainAscending n) {cooler hotter : Nat}
    (hle : cooler ≤ hotter) (hn : hotter ≤ n) {r₁ r₂ : Report} (hhotter : c.Hotter r₁ r₂) :
    List.Forall₂ (· ≤ ·)
      ((c.atLevel cooler).sensorLevels r₁.subscriber r₁.typeTempInfo)
      ((c.atLevel hotter).sensorLevels r₂.subscriber r₂.typeTempInfo) := by
  rw [sensorLevels, sensorLevels]
  have hsame : List.Forall₂ (fun a b => a = b ∧ c.sensorInfolist[a.1]? = some a.2)
      c.sensorInfolist.toList c.sensorInfolist.toList :=
    List.forall₂_same.mpr
      (fun s hs => ⟨rfl, Std.ExtTreeMap.mem_toList_iff_getElem?_eq_some.mp hs⟩)
  refine List.rel_filterMap ?_ hsame
  intro sensorInfo sensorInfo' hsensor
  obtain ⟨rfl, hmem⟩ := hsensor
  change Option.Rel (· ≤ ·) (Option.map _ _) (Option.map _ _)
  have htemps := hhotter.temps sensorInfo.1
    (Std.ExtTreeMap.mem_iff_isSome_getElem?.mpr (hmem ▸ rfl))
  revert htemps
  generalize r₁.typeTempInfo[sensorInfo.1]? = t₁, r₂.typeTempInfo[sensorInfo.1]? = t₂
  intro htemps
  rcases htemps with hlt | -
  · rename_i temp₁ temp₂
    have hlength := h.length_eq hmem
    apply Option.Rel.some
    rw [(h.atLevel cooler).extraHolds_eq, (h.atLevel hotter).extraHolds_eq,
      (h.atLevel cooler).asc, (h.atLevel hotter).asc]
    change levelMove false sensorInfo.2 (fun _ _ => true) temp₁ cooler ≤
      levelMove false sensorInfo.2 (fun _ _ => true) temp₂ hotter
    rw [(h.thresholds _ _ hmem).levelMove_eq_clamp temp₁ (show cooler ≤ _ by omega),
      (h.thresholds _ _ hmem).levelMove_eq_clamp temp₂ (show hotter ≤ _ by omega)]
    have hthreshold := reached_mono sensorInfo.2 LevelItem.threshold hlt
    have hclr := reached_mono sensorInfo.2 LevelItem.thresholdClr hlt
    omega
  · exact Option.Rel.none

theorem PlainAscending.nextLevel_mono (h : c.PlainAscending n) {cooler hotter : Nat}
    (hle : cooler ≤ hotter) (hn : hotter ≤ n) {r₁ r₂ : Report} (hhotter : c.Hotter r₁ r₂) :
    (c.atLevel cooler).nextLevel r₁.states r₁.subscriber r₁.typeTempInfo ≤
      (c.atLevel hotter).nextLevel r₂.states r₂.subscriber r₂.typeTempInfo := by
  have hstates : (c.atLevel cooler).checkState r₁.states =
      (c.atLevel hotter).checkState r₂.states := hhotter.states
  rw [nextLevel, nextLevel, hstates]
  split
  · exact max?_getD_le (h.sensorLevels_mono hle hn hhotter) hle
  · exact le_rfl

theorem PlainAscending.levelAfter_mono (h : c.PlainAscending n) {cooler hotter : Nat}
    (hle : cooler ≤ hotter) (hn : hotter ≤ n) {reports₁ reports₂ : List Report}
    (hhotter : List.Forall₂ c.Hotter reports₁ reports₂) :
    (c.atLevel cooler).levelAfter reports₁ ≤
      (c.atLevel hotter).levelAfter reports₂ := by
  induction hhotter generalizing cooler hotter with
  | nil => exact hle
  | @cons r₁ r₂ rest₁ rest₂ hstep _ ih =>
    exact ih (h.nextLevel_mono hle hn hstep)
      (nextLevel_le (h.toHasLevels.atLevel hotter) hn r₂.states r₂.subscriber r₂.typeTempInfo)

/-- **Hotter never means a lower level.** Two runs from ordered levels under ordered reports are
ordered after every step, and the step of each sensor is a clamp of the previous level between the
number of thresholds and the number of clear thresholds that its temperature reaches. -/
theorem PlainAscending.level_mono (h : c.PlainAscending n) {cooler hotter : Nat}
    (hle : cooler ≤ hotter) (hn : hotter ≤ n) {reports₁ reports₂ : List Report}
    (hhotter : List.Forall₂ c.Hotter reports₁ reports₂) :
    (∀ steps, ∃ c₁ c₂, (c.atLevel cooler).runUpdates (reports₁.take steps) = some c₁ ∧
      (c.atLevel hotter).runUpdates (reports₂.take steps) = some c₂ ∧
      c₁.latestLevel ≤ c₂.latestLevel) ∧
    (∀ (level : Nat) (subscriber : ThermalServiceSubscriber) (typeTempInfo : TypeTempMap)
      (name : String) (items : List LevelItem) (curTemp : Int), level ≤ n →
      c.sensorInfolist[name]? = some items →
      (c.atLevel level).judgment subscriber typeTempInfo (name, items) curTemp =
        some (max (reached items LevelItem.threshold curTemp)
          (min level (reached items LevelItem.thresholdClr curTemp)))) := by
  refine ⟨fun steps => ?_, fun level subscriber typeTempInfo name items curTemp hlevel hmem => ?_⟩
  · refine ⟨_, _, runUpdates_eq (h.toHasLevels.atLevel cooler) (le_trans hle hn) _,
      runUpdates_eq (h.toHasLevels.atLevel hotter) hn _, ?_⟩
    exact h.levelAfter_mono hle hn (List.forall₂_take steps hhotter)
  · have hsensor : (c.atLevel level).sensorInfolist[(name, items).1]? = some (name, items).2 := hmem
    exact (h.atLevel level).judgment_eq_clamp hlevel subscriber typeTempInfo hsensor curTemp

/-- Two sensors without any condition besides the temperatures. -/
def plainCluster : ThermalConfigSensorCluster := { twoLevelCluster with auxFlag := false }

theorem plainCluster_plainAscending : plainCluster.PlainAscending 2 where
  pos := by decide
  sensors := by
    have hcount : twoLevelCluster.levelCount = 2 := by decide
    exact hcount ▸ twoLevelCluster_accepted.hasLevels.sensors
  aux hflag := absurd hflag (by decide)
  asc := rfl
  noAux := rfl
  noRate := rfl
  noTempDiff := rfl
  thresholds := forall_entries (by decide)

/-- A report of one battery temperature. -/
def batteryReport (temp : Int) : Report :=
  ⟨∅, ⟨∅, 0⟩, (∅ : TypeTempMap).insert "battery" temp⟩

theorem batteryReport_hotter {cooler hotter : Int} (hle : cooler ≤ hotter) :
    plainCluster.Hotter (batteryReport cooler) (batteryReport hotter) where
  states := rfl
  temps := by
    intro name _
    simp only [batteryReport, Std.ExtTreeMap.getElem?_insert]
    split
    · exact Option.Rel.some hle
    · simp

theorem plainCluster_level_mono :
    (∀ steps, ∃ c₁ c₂,
      (plainCluster.atLevel 0).runUpdates ([batteryReport 410, batteryReport 370].take steps) =
        some c₁ ∧
      (plainCluster.atLevel 1).runUpdates ([batteryReport 440, batteryReport 390].take steps) =
        some c₂ ∧
      c₁.latestLevel ≤ c₂.latestLevel) ∧
    (∀ (level : Nat) (subscriber : ThermalServiceSubscriber) (typeTempInfo : TypeTempMap)
      (name : String) (items : List LevelItem) (curTemp : Int), level ≤ 2 →
      plainCluster.sensorInfolist[name]? = some items →
      (plainCluster.atLevel level).judgment subscriber typeTempInfo (name, items) curTemp =
        some (max (reached items LevelItem.threshold curTemp)
          (min level (reached items LevelItem.thresholdClr curTemp)))) :=
  plainCluster_plainAscending.level_mono (by decide) (by decide)
    (.cons (batteryReport_hotter (by decide)) (.cons (batteryReport_hotter (by decide)) .nil))

end ThermalConfigSensorCluster

end ThermalManager
