import ThermalManager.Policy.LevelSafety

/-!
# The thermal zones of the protector

`protector_thermal_zone_info.cpp`: the protector process decides the level of a thermal zone by a
second implementation of the hysteresis rule. Without extra conditions it is the rule of the sensor
cluster, for thresholds in any order. As there, an access `v.at(i)` is `v[i]?`.
-/

namespace ThermalManager

structure ThermalZoneInfoItem where
  level : Nat
  threshold : Int
  thresholdClr : Int
  deriving DecidableEq

structure ProtectorThermalZoneInfo where
  desc : Bool := false
  path : String := ""
  latestLevel : Nat := 0
  interval : Int
  multiple : Int
  tzItemList : List ThermalZoneInfoItem
  deriving DecidableEq

namespace ProtectorThermalZoneInfo

/-! ### The handlers -/

section Handlers

variable (tzItemList : List ThermalZoneInfoItem) (curTemp : Int) (level : Nat)

/-- `for (i = level; i < size; i++)`: take the level of the item while its threshold is reached. The
first number counts the rounds left. -/
def upLoop (reached : Int → Bool) : Nat → Nat → Nat → Option Nat
  | 0, _, level => some level
  | rounds + 1, i, level => do
      let item ← tzItemList[i]?
      if reached item.threshold then upLoop reached rounds (i + 1) item.level else some level

/-- `for (i = level; i >= 1; i--)`: leave the level of the item while its clear threshold is
passed. -/
def downLoop (passed : Int → Bool) : Nat → Nat → Option Nat
  | 0, level => some level
  | i + 1, level => do
      let item ← tzItemList[i]?
      if passed item.thresholdClr then
        downLoop passed i (if item.level > 0 then item.level - 1 else 0)
      else some level

def handleAscNextUpTemp : Option Nat :=
  upLoop tzItemList (fun bound => decide (curTemp ≥ bound)) (tzItemList.length - level) level level

def handleAscCurDownTemp : Option Nat :=
  downLoop tzItemList (fun bound => decide (curTemp < bound)) level level

def handleAscMaxSizeTemp : Option Nat := do
  let curDownTemp := (← tzItemList[level - 1]?).thresholdClr
  if curTemp < curDownTemp then
    downLoop tzItemList (fun bound => decide (curTemp < bound)) level level
  else some level

def handleAscMinSizeTemp : Option Nat := do
  let nextUptemp := (← tzItemList[level]?).threshold
  if curTemp ≥ nextUptemp then
    upLoop tzItemList (fun bound => decide (curTemp ≥ bound)) (tzItemList.length - level) level
      level
  else some 0

def handleDescNextUpTemp : Option Nat :=
  upLoop tzItemList (fun bound => decide (curTemp ≤ bound)) (tzItemList.length - level) level level

def handleDescCurDownTemp : Option Nat :=
  downLoop tzItemList (fun bound => decide (curTemp > bound)) level level

def handleDescMaxSizeTemp : Option Nat := do
  let curDownTemp := (← tzItemList[level - 1]?).thresholdClr
  if curTemp > curDownTemp then
    downLoop tzItemList (fun bound => decide (curTemp > bound)) level level
  else some level

def handleDescMinSizeTemp : Option Nat := do
  let nextUptemp := (← tzItemList[level]?).threshold
  if curTemp ≤ nextUptemp then
    upLoop tzItemList (fun bound => decide (curTemp ≤ bound)) (tzItemList.length - level) level
      level
  else some 0

/-- A level above the size is left as it is. -/
def ascJudgment : Option Nat :=
  if level > 0 ∧ level < tzItemList.length then do
    let curDownTemp := (← tzItemList[level - 1]?).thresholdClr
    let nextUptemp := (← tzItemList[level]?).threshold
    if curTemp ≥ nextUptemp then handleAscNextUpTemp tzItemList curTemp level
    else if curTemp < curDownTemp then handleAscCurDownTemp tzItemList curTemp level
    else (tzItemList[level - 1]?).map ThermalZoneInfoItem.level
  else if level = tzItemList.length then handleAscMaxSizeTemp tzItemList curTemp level
  else if level = 0 then handleAscMinSizeTemp tzItemList curTemp level
  else some level

def descJudgment : Option Nat :=
  if level > 0 ∧ level < tzItemList.length then do
    let curDownTemp := (← tzItemList[level - 1]?).thresholdClr
    let nextUptemp := (← tzItemList[level]?).threshold
    if curTemp ≤ nextUptemp then handleDescNextUpTemp tzItemList curTemp level
    else if curTemp > curDownTemp then handleDescCurDownTemp tzItemList curTemp level
    else (tzItemList[level - 1]?).map ThermalZoneInfoItem.level
  else if level = tzItemList.length then handleDescMaxSizeTemp tzItemList curTemp level
  else if level = 0 then handleDescMinSizeTemp tzItemList curTemp level
  else some level

end Handlers

def updateThermalLevel (z : ProtectorThermalZoneInfo) (curTemp : Int) :
    Option ProtectorThermalZoneInfo :=
  (if z.desc then descJudgment z.tzItemList curTemp z.latestLevel
    else ascJudgment z.tzItemList curTemp z.latestLevel).map
    fun level => { z with latestLevel := level }

def getThermalLevel (z : ProtectorThermalZoneInfo) : Nat := z.latestLevel

/-! ### The same loops -/

def toLevelItem (item : ThermalZoneInfoItem) : LevelItem where
  threshold := item.threshold
  thresholdClr := item.thresholdClr
  level := item.level

/-- No extra condition. -/
def unconditional (_ : Nat) (_ : Bool) : Option Bool := some true

variable {tzItemList : List ThermalZoneInfoItem} {curTemp : Int} {level : Nat}

theorem upLoop_eq (reached : Int → Bool) (rounds i level : Nat) :
    upLoop tzItemList reached rounds i level =
      upwardsSearch (tzItemList.map toLevelItem) unconditional reached rounds i level := by
  induction rounds generalizing i level with
  | zero => rfl
  | succ rounds ih =>
    rw [upLoop, upwardsSearch, List.getElem?_map]
    cases tzItemList[i]? with
    | none => rfl
    | some item =>
      show (if reached item.threshold then _ else _) = _
      cases hreached : reached item.threshold with
      | true => simpa [toLevelItem, unconditional, hreached] using ih (i + 1) item.level
      | false => simp [toLevelItem, hreached]

/-- The service stops where a clear threshold is met, the protector where it is not passed. -/
theorem downLoop_eq (meets : Int → Bool) (i level : Nat) :
    downLoop tzItemList (fun bound => !meets bound) i level =
      downwardsSearch (tzItemList.map toLevelItem) unconditional meets i level := by
  induction i generalizing level with
  | zero => rfl
  | succ i ih =>
    rw [downLoop, downwardsSearch, List.getElem?_map]
    cases tzItemList[i]? with
    | none => rfl
    | some item =>
      cases hmeets : meets item.thresholdClr with
      | true => simp [toLevelItem, unconditional, hmeets]
      | false => simp [toLevelItem, hmeets, ih]

/-! ### The same judgments -/

/-- Both judgments of the protector at once, in terms of the test of a temperature against a
bound. -/
def zoneJudgment (tzItemList : List ThermalZoneInfoItem) (test : Int → Bool) (level : Nat) :
    Option Nat :=
  if level > 0 ∧ level < tzItemList.length then do
    let cur ← tzItemList[level - 1]?
    let next ← tzItemList[level]?
    if test next.threshold then
      upLoop tzItemList test (tzItemList.length - level) level level
    else if !test cur.thresholdClr then
      downLoop tzItemList (fun bound => !test bound) level level
    else (tzItemList[level - 1]?).map ThermalZoneInfoItem.level
  else if level = tzItemList.length then do
    let cur ← tzItemList[level - 1]?
    if !test cur.thresholdClr then
      downLoop tzItemList (fun bound => !test bound) level level
    else some level
  else if level = 0 then do
    let next ← tzItemList[level]?
    if test next.threshold then
      upLoop tzItemList test (tzItemList.length - level) level level
    else some 0
  else some level

theorem ascJudgment_eq_zoneJudgment : ascJudgment tzItemList curTemp level =
    zoneJudgment tzItemList (fun bound => decide (curTemp ≥ bound)) level := by
  simp only [ascJudgment, zoneJudgment, handleAscNextUpTemp, handleAscCurDownTemp,
    handleAscMaxSizeTemp, handleAscMinSizeTemp, decide_eq_true_eq, ge_iff_le, ← not_le,
    decide_not, Bool.not_eq_true', decide_eq_false_iff_not]

theorem descJudgment_eq_zoneJudgment : descJudgment tzItemList curTemp level =
    zoneJudgment tzItemList (fun bound => decide (curTemp ≤ bound)) level := by
  simp only [descJudgment, zoneJudgment, handleDescNextUpTemp, handleDescCurDownTemp,
    handleDescMaxSizeTemp, handleDescMinSizeTemp, decide_eq_true_eq, gt_iff_lt, ← not_le,
    decide_not, Bool.not_eq_true', decide_eq_false_iff_not]

def NumberedItems (tzItemList : List ThermalZoneInfoItem) : Prop :=
  ∀ (i : Nat) (item : ThermalZoneInfoItem), tzItemList[i]? = some item → item.level = i + 1

theorem numberedItems_iff : NumberedItems tzItemList ↔ Numbered (tzItemList.map toLevelItem) := by
  constructor
  · intro hnum i levelItem hitem
    rw [List.getElem?_map, Option.map_eq_some_iff] at hitem
    obtain ⟨item, hitem, rfl⟩ := hitem
    exact hnum i item hitem
  · intro hnum i item hitem
    refine hnum i (toLevelItem item) ?_
    rw [List.getElem?_map, hitem]
    rfl

theorem level_at (hnum : NumberedItems tzItemList) (hpos : 0 < level)
    (hlevel : level ≤ tzItemList.length) :
    (tzItemList[level - 1]?).map ThermalZoneInfoItem.level = some level := by
  have hindex : level - 1 < tzItemList.length := by omega
  rw [List.getElem?_eq_getElem hindex, Option.map_some,
    hnum _ _ (List.getElem?_eq_getElem hindex), Nat.sub_add_cancel hpos]

theorem zoneJudgment_eq_judgmentBy (hnum : NumberedItems tzItemList)
    (hlevel : level ≤ tzItemList.length) (test : Int → Bool) :
    zoneJudgment tzItemList test level =
      judgmentBy (tzItemList.map toLevelItem) unconditional test level := by
  rw [zoneJudgment, judgmentBy, List.length_map, List.getElem?_map, List.getElem?_map]
  simp only [upLoop_eq, downLoop_eq]
  split
  case isTrue hmid =>
    rw [level_at hnum hmid.1 hlevel]
    cases tzItemList[level - 1]? with
    | none => rfl
    | some cur =>
      cases tzItemList[level]? with
      | none => rfl
      | some next =>
        show (if test next.threshold = true then _ else _) =
          if test next.threshold = true then _ else _
        split
        · rfl
        · cases hdown : test cur.thresholdClr <;> simp [hdown, toLevelItem, unconditional]
  case isFalse hmid =>
    split
    case isTrue hmax =>
      cases tzItemList[level - 1]? with
      | none => rfl
      | some cur =>
        cases hdown : test cur.thresholdClr <;> simp [hdown, toLevelItem, unconditional]
    case isFalse hmax =>
      obtain rfl : level = 0 := by omega
      rw [if_pos rfl]
      cases tzItemList[0]? with
      | none => rfl
      | some next => rfl

/-! ### The same levels -/

theorem toList_insert_empty {β : Type} (name : String) (value : β) :
    ((∅ : Map String β).insert name value).toList = [(name, value)] := by
  have hlength : ((∅ : Map String β).insert name value).toList.length = 1 := by
    rw [Std.ExtTreeMap.length_toList, Std.ExtTreeMap.size_insert, Std.ExtTreeMap.size_empty]
    exact if_neg Std.ExtTreeMap.not_mem_empty
  have hmem : (name, value) ∈ ((∅ : Map String β).insert name value).toList :=
    Std.ExtTreeMap.mem_toList_iff_getElem?_eq_some.mpr Std.ExtTreeMap.getElem?_insert_self
  obtain ⟨entry, hentry⟩ := List.length_eq_one_iff.mp hlength
  rw [hentry] at hmem ⊢
  rw [List.mem_singleton.mp hmem]

/-- A cluster of the service with the zone as its only sensor, and no other condition. -/
def toCluster (name : String) (z : ProtectorThermalZoneInfo) : ThermalConfigSensorCluster where
  descFlag := z.desc
  latestLevel := z.latestLevel
  sensorInfolist := (∅ : SensorInfoMap).insert name (z.tzItemList.map toLevelItem)

def toReport (name : String) (states : StateMachineMap) (subscriber : ThermalServiceSubscriber)
    (curTemp : Int) : Report :=
  ⟨states, subscriber, (∅ : TypeTempMap).insert name curTemp⟩

/-- The levels of the zone are `0, ..., n` with `n ≥ 1`, and it stands on one of them. -/
structure WellFormed (z : ProtectorThermalZoneInfo) : Prop where
  numbered : NumberedItems z.tzItemList
  pos : 0 < z.tzItemList.length
  level_le : z.latestLevel ≤ z.tzItemList.length

variable {z : ProtectorThermalZoneInfo}

/-- The update of the service, seen from the zone, is that of the protector. -/
theorem toCluster_updateThermalLevel (hz : z.WellFormed) (name : String) (states : StateMachineMap)
    (subscriber : ThermalServiceSubscriber) (curTemp : Int) :
    (z.toCluster name).updateThermalLevel states subscriber
        ((∅ : TypeTempMap).insert name curTemp) =
      (z.updateThermalLevel curTemp).map (toCluster name) := by
  have hstate : (z.toCluster name).checkState states = true := rfl
  have hjudge : (z.toCluster name).judgment subscriber ((∅ : TypeTempMap).insert name curTemp)
      (name, z.tzItemList.map toLevelItem) curTemp =
        if z.desc then descJudgment z.tzItemList curTemp z.latestLevel
        else ascJudgment z.tzItemList curTemp z.latestLevel := by
    rw [descJudgment_eq_zoneJudgment, ascJudgment_eq_zoneJudgment,
      zoneJudgment_eq_judgmentBy hz.numbered hz.level_le,
      zoneJudgment_eq_judgmentBy hz.numbered hz.level_le, ← ascJudgment_eq_judgmentBy,
      ← descJudgment_eq_judgmentBy]
    rfl
  have hlevels : (z.toCluster name).calculateSensorLevel subscriber
      ((∅ : TypeTempMap).insert name curTemp) =
        (if z.desc then descJudgment z.tzItemList curTemp z.latestLevel
          else ascJudgment z.tzItemList curTemp z.latestLevel).map ([·]) := by
    rw [ThermalConfigSensorCluster.calculateSensorLevel,
      show (z.toCluster name).sensorInfolist.toList = _ from toList_insert_empty name _,
      ThermalConfigSensorCluster.sensorLoop, Std.ExtTreeMap.getElem?_insert_self, ← hjudge]
    exact bind_pure_comp _ _
  rw [ThermalConfigSensorCluster.updateThermalLevel, hstate, hlevels, updateThermalLevel]
  cases (if z.desc = true then descJudgment z.tzItemList curTemp z.latestLevel
    else ascJudgment z.tzItemList curTemp z.latestLevel) with
  | none => rfl
  | some level => rfl

theorem WellFormed.hasLevels (hz : z.WellFormed) (name : String) :
    (z.toCluster name).HasLevels z.tzItemList.length where
  pos := hz.pos
  sensors other items hitems := by
    change ((∅ : SensorInfoMap).insert name (z.tzItemList.map toLevelItem))[other]? = _ at hitems
    rw [Std.ExtTreeMap.getElem?_insert] at hitems
    split at hitems
    case isTrue =>
      obtain rfl := Option.some.inj hitems
      exact ⟨List.length_map _, numberedItems_iff.mp hz.numbered⟩
    case isFalse =>
      rw [Std.ExtTreeMap.getElem?_empty] at hitems
      cases hitems
  aux hflag := absurd hflag Bool.false_ne_true

theorem WellFormed.updateThermalLevel (hz : z.WellFormed) (curTemp : Int) :
    ∃ z', z.updateThermalLevel curTemp = some z' ∧ z'.WellFormed := by
  have hlevels := hz.hasLevels ""
  have hstep := toCluster_updateThermalLevel hz "" ∅ ⟨∅, 0⟩ curTemp
  have hle := ThermalConfigSensorCluster.nextLevel_le hlevels hz.level_le ∅ ⟨∅, 0⟩
    ((∅ : TypeTempMap).insert "" curTemp)
  rw [ThermalConfigSensorCluster.updateThermalLevel_eq hlevels hz.level_le] at hstep
  obtain ⟨z', hz', hcluster⟩ := Option.map_eq_some_iff.mp hstep.symm
  have hlevel : z'.latestLevel = _ := congrArg ThermalConfigSensorCluster.latestLevel hcluster
  refine ⟨z', hz', ?_⟩
  obtain ⟨level, -, rfl⟩ := Option.map_eq_some_iff.mp hz'
  exact ⟨hz.numbered, hz.pos, hlevel.trans_le hle⟩

def runUpdates (z : ProtectorThermalZoneInfo) (temps : List Int) :
    Option ProtectorThermalZoneInfo :=
  temps.foldlM updateThermalLevel z

/-- The two processes decide the same levels: after every sequence of temperatures the zone of the
protector and the cluster of the service are on the same level, and neither has read out of
range. -/
theorem engines_agree (hz : z.WellFormed) (name : String) (states : StateMachineMap)
    (subscriber : ThermalServiceSubscriber) (temps : List Int) :
    ∃ z' c', z.runUpdates temps = some z' ∧
      (z.toCluster name).runUpdates (temps.map (toReport name states subscriber)) = some c' ∧
      z'.getThermalLevel = c'.latestLevel := by
  induction temps generalizing z with
  | nil => exact ⟨z, z.toCluster name, rfl, rfl, rfl⟩
  | cons curTemp rest ih =>
    obtain ⟨z₁, hz₁, hwell⟩ := hz.updateThermalLevel curTemp
    have hstep := toCluster_updateThermalLevel hz name states subscriber curTemp
    rw [hz₁] at hstep
    obtain ⟨z', c', hrun, hrun', hlevel⟩ := ih hwell
    refine ⟨z', c', ?_, ?_, hlevel⟩
    · rw [runUpdates, List.foldlM_cons, hz₁]
      exact hrun
    · rw [List.map_cons, ThermalConfigSensorCluster.runUpdates, List.foldlM_cons]
      show (ThermalConfigSensorCluster.updateThermalLevel _ _ _ _).bind _ = _
      rw [toReport, hstep]
      exact hrun'

/-- A descending zone whose thresholds are in no order. -/
def unorderedZone : ProtectorThermalZoneInfo where
  desc := true
  latestLevel := 1
  interval := 10000
  multiple := 1
  tzItemList := [⟨1, 100, 300⟩, ⟨2, 200, -50⟩]

theorem unorderedZone_engines_agree :
    ∃ z' c', unorderedZone.runUpdates [150, -100, 400] = some z' ∧
      (unorderedZone.toCluster "battery").runUpdates
        ([150, -100, 400].map (toReport "battery" ∅ ⟨∅, 0⟩)) = some c' ∧
      z'.getThermalLevel = c'.latestLevel :=
  engines_agree ⟨numberedItems_iff.mpr ((numbered_iff _).mp (by decide)), by decide, by decide⟩
    "battery" ∅ ⟨∅, 0⟩ [150, -100, 400]

end ProtectorThermalZoneInfo

end ThermalManager
