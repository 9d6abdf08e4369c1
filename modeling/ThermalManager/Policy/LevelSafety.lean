import ThermalManager.Policy.SensorCluster
import ThermalManager.Lib.Hysteresis

/-!
# Level range and index safety

What the parser checks makes every vector access of a level update fall into range. With the
accesses out of the way a judgment is one move on a staircase: the steps are the levels of the
cluster, a threshold calls for climbing, and a clear threshold with the extra condition keeps a
level. The rest of the development reaches the judgments only through `judgment_eq_move` and the
update only through `updateThermalLevel_eq`.
-/

namespace ThermalManager

open Hysteresis

/-! ### Judgments as moves -/

def thresholdAt (levItems : List LevelItem) (level : Nat) : Int :=
  (levItems[level - 1]?).elim 0 LevelItem.threshold

def thresholdClrAt (levItems : List LevelItem) (level : Nat) : Int :=
  (levItems[level - 1]?).elim 0 LevelItem.thresholdClr

/-- The temperature reaches the bound, upwards or, in a descending cluster, downwards. -/
def meets (descFlag : Bool) (curTemp bound : Int) : Bool :=
  if descFlag then decide (curTemp ≤ bound) else decide (curTemp ≥ bound)

/-- The levels of a sensor as seen at one temperature. -/
def levelClimber (descFlag : Bool) (levItems : List LevelItem) (curTemp : Int) : Climber where
  rise level := meets descFlag curTemp (thresholdAt levItems level)
  hold level := meets descFlag curTemp (thresholdClrAt levItems level)

/-- One move over the levels, with the extra condition of a level in its two modes. -/
def levelMove (descFlag : Bool) (levItems : List LevelItem) (extra : Nat → Bool → Bool)
    (curTemp : Int) (level : Nat) : Nat :=
  let climber := levelClimber descFlag levItems curTemp
  move climber.rise (fun i => climber.rise i && extra i true)
    (fun i => climber.hold i && extra i false) levItems.length level

def Numbered (levItems : List LevelItem) : Prop :=
  ∀ i item, levItems[i]? = some item → item.level = i + 1

theorem numbered_iff (levItems : List LevelItem) :
    numbered levItems = true ↔ Numbered levItems := by
  simp only [numbered, List.all_eq_true, List.mem_range, Option.any_eq_true, beq_iff_eq, Numbered]
  refine ⟨fun h => ?_, fun h => ?_⟩
  · intro i item hitem
    obtain ⟨hi, -⟩ := List.getElem?_eq_some_iff.mp hitem
    obtain ⟨item', hitem', hlevel⟩ := h i hi
    rw [hitem] at hitem'
    exact Option.some.inj hitem' ▸ hlevel
  · intro i hi
    exact ⟨levItems[i], List.getElem?_eq_getElem hi, h i _ (List.getElem?_eq_getElem hi)⟩

section Judgment

variable {levItems : List LevelItem} {extra : Nat → Bool → Option Bool}
  {holds : Nat → Bool → Bool} {test : Int → Bool}

theorem exists_item {i : Nat} (hi : i < levItems.length) :
    ∃ item, levItems[i]? = some item ∧ thresholdAt levItems (i + 1) = item.threshold ∧
      thresholdClrAt levItems (i + 1) = item.thresholdClr := by
  refine ⟨levItems[i], List.getElem?_eq_getElem hi, ?_, ?_⟩ <;>
    simp [thresholdAt, thresholdClrAt, List.getElem?_eq_getElem hi]

theorem upwardsSearch_eq_climb (hnum : Numbered levItems)
    (hextra : ∀ level, 1 ≤ level → level ≤ levItems.length →
      extra level true = some (holds level true)) {rounds i : Nat}
    (hbound : i + rounds ≤ levItems.length) :
    upwardsSearch levItems extra test rounds i i = some (climb
      (fun level => test (thresholdAt levItems level) && holds level true) rounds i) := by
  induction rounds generalizing i with
  | zero => rfl
  | succ rounds ih =>
    obtain ⟨item, hitem, hthreshold, -⟩ := exists_item (show i < levItems.length by omega)
    have hlevel := hnum i item hitem
    have hholds := hextra (i + 1) (by omega) (by omega)
    rw [upwardsSearch, climb, hitem, hthreshold]
    simp only [Option.bind_eq_bind, Option.bind_some, hlevel, hholds]
    cases htest : test item.threshold with
    | false => simp
    | true =>
      cases hcond : holds (i + 1) true with
      | false => simp
      | true => simpa using ih (by omega)

theorem downwardsSearch_eq_descend (hnum : Numbered levItems)
    (hextra : ∀ level, 1 ≤ level → level ≤ levItems.length →
      extra level false = some (holds level false)) {i : Nat} (hbound : i ≤ levItems.length) :
    downwardsSearch levItems extra test i i = some (descend
      (fun level => test (thresholdClrAt levItems level) && holds level false) i) := by
  induction i with
  | zero => rfl
  | succ i ih =>
    obtain ⟨item, hitem, -, hclr⟩ := exists_item (show i < levItems.length by omega)
    have hlevel := hnum i item hitem
    have hholds := hextra (i + 1) (by omega) (by omega)
    rw [downwardsSearch, descend, hitem, hclr]
    simp only [Option.bind_eq_bind, Option.bind_some, hlevel, hholds]
    cases htest : test item.thresholdClr with
    | false => simpa using ih (by omega)
    | true =>
      cases hcond : holds (i + 1) false with
      | false => simpa using ih (by omega)
      | true => simp

end Judgment

section Move

variable (levItems : List LevelItem) (extra : Nat → Bool → Option Bool)

/-- Both judgments at once: they differ in the test of a temperature against a bound only. -/
def judgmentBy (test : Int → Bool) (level : Nat) : Option Nat :=
  if level > 0 ∧ level < levItems.length then do
    let cur ← levItems[level - 1]?
    let next ← levItems[level]?
    if test next.threshold then
      upwardsSearch levItems extra test (levItems.length - level) level level
    else if ← (if test cur.thresholdClr then (! ·) <$> extra level false else some true) then
      downwardsSearch levItems extra test level level
    else some level
  else if level = levItems.length then do
    let cur ← levItems[level - 1]?
    if ← (if test cur.thresholdClr then (! ·) <$> extra level false else some true) then
      downwardsSearch levItems extra test level level
    else some level
  else do
    let next ← levItems[level]?
    if test next.threshold then
      upwardsSearch levItems extra test (levItems.length - level) level level
    else some level

theorem ascJudgment_eq_judgmentBy (curTemp : Int) (level : Nat) :
    ascJudgment levItems extra curTemp level =
      judgmentBy levItems extra (fun bound => decide (curTemp ≥ bound)) level := by
  simp only [ascJudgment, judgmentBy, ascendLevelToThreshold_eq, descendLevelToThreshold_eq,
    ascendLevelToThresholdClr, descendLevelToThresholdClr, decide_eq_true_eq, ge_iff_le,
    ← not_le, ite_not]

theorem descJudgment_eq_judgmentBy (curTemp : Int) (level : Nat) :
    descJudgment levItems extra curTemp level =
      judgmentBy levItems extra (fun bound => decide (curTemp ≤ bound)) level := by
  simp only [descJudgment, judgmentBy, levelUpwardsSearch_eq, levelUpwardsSearchWithThreshold,
    levelDownwardsSearch, levelDownwardsSearchWithThreshold_eq, decide_eq_true_eq, gt_iff_lt,
    ← not_le, ite_not, ne_eq, Nat.le_zero_eq]

variable {levItems extra} {holds : Nat → Bool → Bool} {test : Int → Bool}

/-- The move that a judgment makes. -/
private def moveBy (levItems : List LevelItem) (holds : Nat → Bool → Bool) (test : Int → Bool)
    (level : Nat) : Nat :=
  move (fun i => test (thresholdAt levItems i))
    (fun i => test (thresholdAt levItems i) && holds i true)
    (fun i => test (thresholdClrAt levItems i) && holds i false) levItems.length level

/-- A level that is kept is where the walk down would end as well. -/
private theorem descend_of_kept {cur : LevelItem} {level : Nat}
    (hclr : thresholdClrAt levItems level = cur.thresholdClr)
    (hwarm : test cur.thresholdClr = true) (hcond : holds level false = true) :
    descend (fun i => test (thresholdClrAt levItems i) && holds i false) level = level := by
  apply descend_eq_self
  rw [hclr, hwarm, hcond]
  rfl

variable (hnum : Numbered levItems)
  (hextra : ∀ level isCritical, 1 ≤ level → level ≤ levItems.length →
    extra level isCritical = some (holds level isCritical))
include hnum hextra

private theorem judgmentBy_zero (hne : levItems ≠ []) :
    judgmentBy levItems extra test 0 = some (moveBy levItems holds test 0) := by
  have hpos : 0 < levItems.length := List.length_pos_iff.mpr hne
  have hup : upwardsSearch levItems extra test (levItems.length - 0) 0 0 = some _ :=
    upwardsSearch_eq_climb hnum (fun l h1 hn => hextra l true h1 hn) (by omega)
  obtain ⟨next, hnext, hthreshold, -⟩ := exists_item hpos
  rw [judgmentBy, if_neg (by omega), if_neg (by omega), hup, hnext, moveBy, move, hthreshold]
  by_cases htest : test next.threshold = true
  · simp [htest, hpos]
  · simp [htest, descend]

private theorem judgmentBy_between {level : Nat} (hpos : 0 < level)
    (hlt : level < levItems.length) :
    judgmentBy levItems extra test level = some (moveBy levItems holds test level) := by
  have hup : upwardsSearch levItems extra test (levItems.length - level) level level = some _ :=
    upwardsSearch_eq_climb hnum (fun l h1 hn => hextra l true h1 hn) (by omega)
  have hdown : downwardsSearch levItems extra test level level = some _ :=
    downwardsSearch_eq_descend hnum (fun l h1 hn => hextra l false h1 hn) hlt.le
  obtain ⟨cur, hcur, -, hclr⟩ := exists_item (show level - 1 < levItems.length by omega)
  obtain ⟨next, hnext, hthreshold, -⟩ := exists_item hlt
  rw [Nat.sub_add_cancel hpos] at hclr
  rw [judgmentBy, hup, hdown, hcur, hextra level false hpos hlt.le, moveBy, move,
    if_pos ⟨hpos, hlt⟩, hnext, hthreshold]
  by_cases htest : test next.threshold = true
  · simp [htest, hlt]
  · by_cases hwarm : test cur.thresholdClr = true
    · cases hcond : holds level false with
      | false => simp [htest]
      | true => simp [htest, hwarm, descend_of_kept hclr hwarm hcond]
    · simp [htest, hwarm]

private theorem judgmentBy_top {level : Nat} (hpos : 0 < level) (heq : level = levItems.length) :
    judgmentBy levItems extra test level = some (moveBy levItems holds test level) := by
  have hdown : downwardsSearch levItems extra test level level = some _ :=
    downwardsSearch_eq_descend hnum (fun l h1 hn => hextra l false h1 hn) heq.le
  obtain ⟨cur, hcur, -, hclr⟩ := exists_item (show level - 1 < levItems.length by omega)
  rw [Nat.sub_add_cancel hpos] at hclr
  rw [judgmentBy, hdown, hcur, hextra level false hpos heq.le, moveBy, move, if_neg (by omega),
    if_pos heq, if_neg (by omega)]
  by_cases hwarm : test cur.thresholdClr = true
  · cases hcond : holds level false with
    | false => simp
    | true => simp [hwarm, descend_of_kept hclr hwarm hcond]
  · simp [hwarm]

private theorem judgmentBy_eq_move (hne : levItems ≠ []) {level : Nat}
    (hlevel : level ≤ levItems.length) :
    judgmentBy levItems extra test level = some (moveBy levItems holds test level) := by
  rcases Nat.eq_zero_or_pos level with rfl | hpos
  · exact judgmentBy_zero hnum hextra hne
  · rcases Nat.lt_or_eq_of_le hlevel with hlt | heq
    · exact judgmentBy_between hnum hextra hpos hlt
    · exact judgmentBy_top hnum hextra hpos heq

theorem ascJudgment_eq_move (hne : levItems ≠ []) {curTemp : Int} {level : Nat}
    (hlevel : level ≤ levItems.length) :
    ascJudgment levItems extra curTemp level =
      some (levelMove false levItems holds curTemp level) := by
  rw [ascJudgment_eq_judgmentBy, judgmentBy_eq_move hnum hextra hne hlevel]
  rfl

theorem descJudgment_eq_move (hne : levItems ≠ []) {curTemp : Int} {level : Nat}
    (hlevel : level ≤ levItems.length) :
    descJudgment levItems extra curTemp level =
      some (levelMove true levItems holds curTemp level) := by
  rw [descJudgment_eq_judgmentBy, judgmentBy_eq_move hnum hextra hne hlevel]
  rfl

end Move

/-! ### What the parser promises -/

namespace ThermalConfigSensorCluster

variable (c : ThermalConfigSensorCluster)

/-- The number of levels: the length of the first level list. -/
def levelCount : Nat := (c.sensorInfolist.toList.head?).elim 0 fun sensorInfo => sensorInfo.2.length

def atLevel (level : Nat) : ThermalConfigSensorCluster := { c with latestLevel := level }

/-- A cluster as the parser hands it to the policy. -/
structure Accepted : Prop where
  standard : c.checkStandard = true
  sensor_ne_nil : ∀ (name : String) (items : List LevelItem),
    c.sensorInfolist[name]? = some items → items ≠ []
  aux_ne_nil : ∀ (name : String) (items : List AuxLevelItem),
    c.auxSensorInfolist[name]? = some items → items ≠ []

variable {c}

theorem Accepted.checks (h : c.Accepted) :
    (∀ (name : String) (items : List LevelItem), c.sensorInfolist[name]? = some items →
        items.length = c.levelCount ∧ Numbered items) ∧
      (∀ (name : String) (items : List AuxLevelItem), c.auxSensorInfolist[name]? = some items →
        items.length = c.levelCount) ∧
      (c.tempDiffFlag = true → c.tempDiffInfoList.length = c.levelCount) := by
  have hstandard := h.standard
  rw [checkStandard] at hstandard
  rw [levelCount]
  split at hstandard
  · exact absurd hstandard (by simp)
  · rename_i name first rest heq
    rw [heq]
    simp only [Bool.and_eq_true, List.all_eq_true, beq_iff_eq, Bool.or_eq_true,
      Bool.not_eq_true', Bool.and_eq_false_iff, bne_eq_false_iff_eq, List.head?_cons,
      Option.elim_some] at hstandard ⊢
    obtain ⟨⟨hsensors, haux⟩, hdiff⟩ := hstandard
    refine ⟨fun name items hitems => ?_, fun name items hitems => ?_, fun hflag => ?_⟩
    · have hcheck := hsensors (name, items)
        (heq ▸ Std.ExtTreeMap.mem_toList_iff_getElem?_eq_some.mpr hitems)
      exact ⟨hcheck.1, (numbered_iff items).mp hcheck.2⟩
    · have hcheck := haux (name, items) (Std.ExtTreeMap.mem_toList_iff_getElem?_eq_some.mpr hitems)
      exact hcheck.resolve_left
        (fun hzero => h.aux_ne_nil name items hitems (List.length_eq_zero_iff.mp hzero))
    · rw [hflag] at hdiff
      exact hdiff.resolve_left (by simp)

theorem Accepted.of_toList (hstandard : c.checkStandard = true)
    (hsensors : ∀ sensorInfo ∈ c.sensorInfolist.toList, sensorInfo.2 ≠ [])
    (haux : ∀ sensorInfo ∈ c.auxSensorInfolist.toList, sensorInfo.2 ≠ []) : c.Accepted :=
  ⟨hstandard, forall_entries hsensors, forall_entries haux⟩

/-- The levels of the cluster are `1, ..., n`: what the index computations rely on. -/
structure HasLevels (c : ThermalConfigSensorCluster) (n : Nat) : Prop where
  pos : 0 < n
  sensors : ∀ (name : String) (items : List LevelItem), c.sensorInfolist[name]? = some items →
    items.length = n ∧ Numbered items
  aux : c.auxFlag = true → ∀ (name : String) (items : List AuxLevelItem),
    c.auxSensorInfolist[name]? = some items → items.length = n

theorem Accepted.hasLevels (h : c.Accepted) : c.HasLevels c.levelCount where
  pos := by
    have hstandard := h.standard
    rw [checkStandard] at hstandard
    rw [levelCount]
    cases hlist : c.sensorInfolist.toList with
    | nil => simp [hlist] at hstandard
    | cons first rest =>
      have hmem : first ∈ c.sensorInfolist.toList := hlist ▸ List.mem_cons_self
      exact List.length_pos_iff.mpr
        (h.sensor_ne_nil _ _ (Std.ExtTreeMap.mem_toList_iff_getElem?_eq_some.mp hmem))
  sensors := h.checks.1
  aux _ := h.checks.2.1

variable {n : Nat}

theorem HasLevels.length_eq (h : c.HasLevels n) {name : String} {items : List LevelItem}
    (hitems : c.sensorInfolist[name]? = some items) : items.length = n :=
  (h.sensors name items hitems).1

theorem HasLevels.ne_nil (h : c.HasLevels n) {name : String} {items : List LevelItem}
    (hitems : c.sensorInfolist[name]? = some items) : items ≠ [] :=
  List.length_pos_iff.mp (h.length_eq hitems ▸ h.pos)

theorem HasLevels.atLevel (h : c.HasLevels n) (level : Nat) : (c.atLevel level).HasLevels n :=
  ⟨h.pos, h.sensors, h.aux⟩

/-! ### The extra condition never reads out of range -/

theorem auxLoop_isSome {typeTempInfo : TypeTempMap} {level : Nat} (hpos : 1 ≤ level)
    (sensors : List (String × List AuxLevelItem))
    (hlength : ∀ sensorInfo ∈ sensors, level ≤ sensorInfo.2.length) :
    (auxLoop typeTempInfo level sensors).isSome := by
  induction sensors with
  | nil => rfl
  | cons sensorInfo rest ih =>
    rw [auxLoop]
    cases typeTempInfo[sensorInfo.1]? with
    | none => rfl
    | some temp =>
      have hlevel := hlength sensorInfo (by simp)
      have hindex : level - 1 < sensorInfo.2.length := by omega
      simp only [List.getElem?_eq_getElem hindex, Option.bind_eq_bind, Option.bind_some]
      split
      · exact ih (fun s hs => hlength s (List.mem_cons_of_mem _ hs))
      · rfl

theorem isAuxSensorTrigger_isSome (h : c.HasLevels n) (hflag : c.auxFlag = true)
    (typeTempInfo : TypeTempMap) {level : Nat} (hlevel : level ≤ n) :
    (c.isAuxSensorTrigger typeTempInfo level).isSome := by
  rw [isAuxSensorTrigger]
  split
  · rfl
  · apply auxLoop_isSome (by omega)
    intro sensorInfo hmem
    have hitems := Std.ExtTreeMap.mem_toList_iff_getElem?_eq_some.mp hmem
    rw [h.aux hflag _ _ hitems]
    exact hlevel

theorem isTempRateTrigger_isSome (subscriber : ThermalServiceSubscriber) {level : Nat}
    (type : String) {levItems : List LevelItem} (isCritical : Bool)
    (hlevel : level ≤ levItems.length) :
    (isTempRateTrigger subscriber level type levItems isCritical).isSome := by
  rw [isTempRateTrigger]
  split
  · rfl
  · cases subscriber.sensorsRate[type]? with
    | none => rfl
    | some rateList =>
      have hindex : level - 1 < levItems.length := by omega
      simp [List.getElem?_eq_getElem hindex]

theorem isTempDiffTrigger_isSome (typeTempInfo : TypeTempMap) (level : Nat) :
    (c.isTempDiffTrigger typeTempInfo level).isSome := by
  rw [isTempDiffTrigger]
  split
  · rfl
  · split
    · rfl
    · -- sorting keeps the length, which the guard has just compared with the level
      have hindex : level - 1 <
          (c.tempDiffInfoList.mergeSort (fun t1 t2 => decide (t1.level ≤ t2.level))).length := by
        rw [List.length_mergeSort]
        omega
      simp only [List.getElem?_eq_getElem hindex, Option.bind_eq_bind, Option.bind_some]
      split <;> rfl

theorem checkExtraCondition_isSome (h : c.HasLevels n) (subscriber : ThermalServiceSubscriber)
    (typeTempInfo : TypeTempMap) {level : Nat} (type : String) {levItems : List LevelItem}
    (isCritical : Bool) (hlevel : level ≤ n) (hitems : levItems.length = n) :
    (c.checkExtraCondition subscriber typeTempInfo level type levItems isCritical).isSome := by
  have haux : c.auxFlag = true → ∃ aux, c.isAuxSensorTrigger typeTempInfo level = some aux :=
    fun hflag => Option.isSome_iff_exists.mp (isAuxSensorTrigger_isSome h hflag typeTempInfo hlevel)
  obtain ⟨rate, hrate⟩ := Option.isSome_iff_exists.mp
    (isTempRateTrigger_isSome subscriber type isCritical (hitems ▸ hlevel))
  obtain ⟨tempDiff, htempDiff⟩ := Option.isSome_iff_exists.mp
    (isTempDiffTrigger_isSome (c := c) typeTempInfo level)
  rw [checkExtraCondition, hrate, htempDiff]
  cases hflag : c.auxFlag with
  | false => cases c.rateFlag <;> cases c.tempDiffFlag <;> cases rate <;> cases tempDiff <;> rfl
  | true =>
    obtain ⟨aux, haux⟩ := haux hflag
    rw [haux]
    cases aux <;> cases c.rateFlag <;> cases c.tempDiffFlag <;> cases rate <;>
      cases tempDiff <;> rfl

/-! ### The update as a function -/

/-- The extra condition of a level, where it can be evaluated. -/
def extraHolds (c : ThermalConfigSensorCluster) (subscriber : ThermalServiceSubscriber)
    (typeTempInfo : TypeTempMap) (sensorInfo : String × List LevelItem) (level : Nat)
    (isCritical : Bool) : Bool :=
  (c.checkExtraCondition subscriber typeTempInfo level sensorInfo.1 sensorInfo.2 isCritical).getD
    false

def sensorLevels (c : ThermalConfigSensorCluster) (subscriber : ThermalServiceSubscriber)
    (typeTempInfo : TypeTempMap) : List Nat :=
  c.sensorInfolist.toList.filterMap fun sensorInfo =>
    (typeTempInfo[sensorInfo.1]?).map fun curTemp =>
      levelMove c.descFlag sensorInfo.2 (c.extraHolds subscriber typeTempInfo sensorInfo) curTemp
        c.latestLevel

def nextLevel (c : ThermalConfigSensorCluster) (states : StateMachineMap)
    (subscriber : ThermalServiceSubscriber) (typeTempInfo : TypeTempMap) : Nat :=
  if c.checkState states then
    ((c.sensorLevels subscriber typeTempInfo).max?).getD c.latestLevel
  else 0

theorem judgment_eq_move (h : c.HasLevels n) (hlevel : c.latestLevel ≤ n)
    (subscriber : ThermalServiceSubscriber) (typeTempInfo : TypeTempMap)
    {sensorInfo : String × List LevelItem}
    (hmem : c.sensorInfolist[sensorInfo.1]? = some sensorInfo.2) (curTemp : Int) :
    c.judgment subscriber typeTempInfo sensorInfo curTemp =
      some (levelMove c.descFlag sensorInfo.2 (c.extraHolds subscriber typeTempInfo sensorInfo)
        curTemp c.latestLevel) := by
  have hlength := h.length_eq hmem
  have hextra : ∀ level isCritical, 1 ≤ level → level ≤ sensorInfo.2.length →
      c.checkExtraCondition subscriber typeTempInfo level sensorInfo.1 sensorInfo.2 isCritical =
        some (c.extraHolds subscriber typeTempInfo sensorInfo level isCritical) := by
    intro level isCritical _ hle
    obtain ⟨b, hb⟩ := Option.isSome_iff_exists.mp (checkExtraCondition_isSome h subscriber
      typeTempInfo sensorInfo.1 isCritical (hlength ▸ hle) hlength)
    rw [extraHolds, hb]
    rfl
  rw [judgment]
  cases hdesc : c.descFlag with
  | false =>
    exact ascJudgment_eq_move (h.sensors _ _ hmem).2 hextra (h.ne_nil hmem)
      (hlength ▸ hlevel)
  | true =>
    exact descJudgment_eq_move (h.sensors _ _ hmem).2 hextra (h.ne_nil hmem)
      (hlength ▸ hlevel)

theorem calculateSensorLevel_eq (h : c.HasLevels n) (hlevel : c.latestLevel ≤ n)
    (subscriber : ThermalServiceSubscriber) (typeTempInfo : TypeTempMap) :
    c.calculateSensorLevel subscriber typeTempInfo =
      some (c.sensorLevels subscriber typeTempInfo) := by
  have hloop : ∀ sensors : List (String × List LevelItem),
      (∀ s ∈ sensors, c.sensorInfolist[s.1]? = some s.2) →
      c.sensorLoop subscriber typeTempInfo sensors =
        some (sensors.filterMap fun sensorInfo =>
          (typeTempInfo[sensorInfo.1]?).map fun curTemp =>
            levelMove c.descFlag sensorInfo.2
              (c.extraHolds subscriber typeTempInfo sensorInfo) curTemp c.latestLevel) := by
    intro sensors
    induction sensors with
    | nil => intro _; rfl
    | cons sensorInfo rest ih =>
      intro hmem
      have hrest := ih (fun s hs => hmem s (List.mem_cons_of_mem _ hs))
      rw [sensorLoop, hrest]
      cases htemp : typeTempInfo[sensorInfo.1]? with
      | none => simp [htemp]
      | some curTemp =>
        have hjudge := judgment_eq_move h hlevel subscriber typeTempInfo
          (hmem sensorInfo (by simp)) curTemp
        simp [htemp, hjudge]
  exact hloop _ (fun s hs => Std.ExtTreeMap.mem_toList_iff_getElem?_eq_some.mp hs)

/-- **The update of an accepted cluster.** It reads nothing out of range and changes the level
only. -/
theorem updateThermalLevel_eq (h : c.HasLevels n) (hlevel : c.latestLevel ≤ n)
    (states : StateMachineMap) (subscriber : ThermalServiceSubscriber)
    (typeTempInfo : TypeTempMap) :
    c.updateThermalLevel states subscriber typeTempInfo =
      some (c.atLevel (c.nextLevel states subscriber typeTempInfo)) := by
  rw [updateThermalLevel, nextLevel]
  cases hstate : c.checkState states with
  | false => rfl
  | true =>
    rw [calculateSensorLevel_eq h hlevel]
    cases hmax : (c.sensorLevels subscriber typeTempInfo).max? with
    | none => simp [hmax, atLevel]
    | some level => simp [hmax, atLevel]

theorem nextLevel_le (h : c.HasLevels n) (hlevel : c.latestLevel ≤ n)
    (states : StateMachineMap) (subscriber : ThermalServiceSubscriber)
    (typeTempInfo : TypeTempMap) :
    c.nextLevel states subscriber typeTempInfo ≤ n := by
  rw [nextLevel]
  split
  · cases hmax : (c.sensorLevels subscriber typeTempInfo).max? with
    | none => exact hlevel
    | some level =>
      have hmem := (List.max?_eq_some_iff.mp hmax).1
      rw [sensorLevels, List.mem_filterMap] at hmem
      obtain ⟨sensorInfo, hsensor, hmove⟩ := hmem
      rw [Option.map_eq_some_iff] at hmove
      obtain ⟨curTemp, -, rfl⟩ := hmove
      have hlength := h.length_eq (Std.ExtTreeMap.mem_toList_iff_getElem?_eq_some.mp hsensor)
      rw [Option.getD_some, ← hlength]
      exact move_le (hlength ▸ hlevel)
  · exact Nat.zero_le _

/-! ### Whole runs -/

end ThermalConfigSensorCluster

/-- What one call of `UpdateThermalLevel` sees. -/
structure Report where
  states : StateMachineMap
  subscriber : ThermalServiceSubscriber
  typeTempInfo : TypeTempMap

namespace ThermalConfigSensorCluster

/-- A sequence of `UpdateThermalLevel` calls; nothing when one of them reads out of range. -/
def runUpdates (c : ThermalConfigSensorCluster) (reports : List Report) :
    Option ThermalConfigSensorCluster :=
  reports.foldlM (fun cluster r => cluster.updateThermalLevel r.states r.subscriber r.typeTempInfo)
    c

def levelAfter (c : ThermalConfigSensorCluster) (reports : List Report) : Nat :=
  reports.foldl (fun level r =>
    (c.atLevel level).nextLevel r.states r.subscriber r.typeTempInfo) c.latestLevel

variable {c : ThermalConfigSensorCluster} {n : Nat}

theorem levelAfter_le (h : c.HasLevels n) (hlevel : c.latestLevel ≤ n)
    (reports : List Report) : c.levelAfter reports ≤ n := by
  rw [levelAfter]
  generalize c.latestLevel = level at hlevel ⊢
  induction reports generalizing level with
  | nil => exact hlevel
  | cons r rest ih =>
    exact ih _ (nextLevel_le (h.atLevel level) hlevel r.states r.subscriber r.typeTempInfo)

theorem runUpdates_eq (h : c.HasLevels n) (hlevel : c.latestLevel ≤ n)
    (reports : List Report) :
    c.runUpdates reports = some (c.atLevel (c.levelAfter reports)) := by
  induction reports generalizing c with
  | nil => rfl
  | cons r rest ih =>
    rw [runUpdates, List.foldlM_cons, updateThermalLevel_eq h hlevel]
    exact ih (h.atLevel _) (nextLevel_le h hlevel r.states r.subscriber r.typeTempInfo)

/-- **Level range and index safety.** From level zero, every sequence of updates of an accepted
cluster completes without an out-of-range access and ends at a level of the cluster. -/
theorem updates_in_range (h : c.Accepted) (hstart : c.latestLevel = 0) (reports : List Report) :
    ∃ c', c.runUpdates reports = some c' ∧ c'.latestLevel ≤ c.levelCount :=
  ⟨_, runUpdates_eq h.hasLevels (by omega) reports, levelAfter_le h.hasLevels (by omega) reports⟩

def batteryItems : List LevelItem :=
  [⟨400, 380, .finite (-1000000), 1⟩, ⟨430, 410, .finite (-1000000), 2⟩]

def shellItems : List LevelItem :=
  [⟨350, 330, .finite (-1000000), 1⟩, ⟨380, 360, .finite (-1000000), 2⟩]

/-- Two main sensors, one auxiliary sensor, two levels. -/
def twoLevelCluster : ThermalConfigSensorCluster where
  auxFlag := true
  sensorInfolist := (∅ : SensorInfoMap)
    |>.insert "battery" batteryItems |>.insert "shell" shellItems
  auxSensorInfolist := (∅ : AuxSensorInfoMap)
    |>.insert "ambient" [⟨0, 300, 1⟩, ⟨0, 200, 2⟩]

theorem twoLevelCluster_accepted : twoLevelCluster.Accepted :=
  .of_toList (by decide) (by decide) (by decide)

/-- The battery is hot and the ambient range of level two is left; then nothing is reported. -/
def twoLevelReports : List Report :=
  [⟨∅, ⟨∅, 0⟩, (∅ : TypeTempMap) |>.insert "battery" 440 |>.insert "ambient" 250⟩,
    ⟨∅, ⟨∅, 0⟩, ∅⟩]

theorem twoLevelCluster_updates_in_range :
    ∃ c', twoLevelCluster.runUpdates twoLevelReports = some c' ∧
      c'.latestLevel ≤ twoLevelCluster.levelCount :=
  updates_in_range twoLevelCluster_accepted rfl twoLevelReports

end ThermalConfigSensorCluster

end ThermalManager
