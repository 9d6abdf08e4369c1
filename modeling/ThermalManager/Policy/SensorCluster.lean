import Mathlib.Algebra.Group.Nat.Defs
import Mathlib.Algebra.Group.Int.Defs
import Mathlib.Data.Rat.Defs
import Mathlib.Algebra.Order.Ring.Unbundled.Rat
import Std.Data.ExtTreeMap

/-!
# The sensor cluster

`thermal_config_sensor_cluster.cpp`: the level lists of a cluster, the search loops over them, the
extra conditions and the level update. A `std::map` is an `ExtTreeMap`, iterated in key order. An
access `v.at(i)` is `v[i]?`, so a function that can read out of range returns an `Option` and
returns `none` exactly when the source throws.
-/

namespace ThermalManager

/-- `std::map` -/
abbrev Map (κ β : Type) [Ord κ] := Std.ExtTreeMap κ β compare

theorem forall_entries {β : Type} {entries : Map String β} {p : β → Prop}
    (h : ∀ entry ∈ entries.toList, p entry.2) (name : String) (value : β)
    (hvalue : entries[name]? = some value) : p value :=
  h (name, value) (Std.ExtTreeMap.mem_toList_iff_getElem?_eq_some.mpr hvalue)

/-! ### Data -/

/-- A `double` as its comparisons see it. -/
inductive Double where
  | nan
  | negInf
  | finite (value : ℚ)
  | posInf
  deriving DecidableEq

/-- `a < b` -/
def Double.lt : Double → Double → Bool
  | .nan, _ => false
  | _, .nan => false
  | .negInf, .negInf => false
  | .negInf, _ => true
  | .finite a, .finite b => decide (a < b)
  | .finite _, .posInf => true
  | _, _ => false

/-- `a >= b` -/
def Double.ge (a b : Double) : Bool := Double.lt b a || (decide (a = b) && decide (a ≠ .nan))

inductive ThermalStatus where
  | statusIdeal
  | statusStable
  | statusCritical
  deriving DecidableEq, Repr

structure LevelItem where
  threshold : Int
  thresholdClr : Int
  tempRiseRate : Double := .finite (-1000000)
  level : Nat
  deriving DecidableEq

structure AuxLevelItem where
  lowerTemp : Int
  upperTemp : Int
  level : Int
  deriving DecidableEq, Repr

structure TempDiffItem where
  sensor1 : String
  sensor2 : String
  tempDiff : Int
  level : Int
  deriving DecidableEq, Repr

abbrev TypeTempMap := Map String Int
abbrev SensorInfoMap := Map String (List LevelItem)
abbrev AuxSensorInfoMap := Map String (List AuxLevelItem)
abbrev TempDiffInfoList := List TempDiffItem

/-- The state collections by name, each as the answers of its `DecideState`. -/
abbrev StateMachineMap := Map String (String → Bool)

/-- What the service subscriber tells about temperature rates. -/
structure ThermalServiceSubscriber where
  sensorsRate : Map String (List Double)
  rateCount : Nat

structure ThermalConfigSensorCluster where
  descFlag : Bool := false
  auxFlag : Bool := false
  rateFlag : Bool := false
  tempDiffFlag : Bool := false
  latestLevel : Nat := 0
  sensorInfolist : SensorInfoMap := ∅
  auxSensorInfolist : AuxSensorInfoMap := ∅
  tempDiffInfoList : TempDiffInfoList := []
  stateMap : Map String String := ∅

/-! ### The check made by the parser -/

/-- The items are numbered from one. -/
def numbered (items : List LevelItem) : Bool :=
  (List.range items.length).all fun i => (items[i]?).any fun item => item.level == i + 1

def ThermalConfigSensorCluster.checkStandard (c : ThermalConfigSensorCluster) : Bool :=
  match c.sensorInfolist.toList with
  | [] => false
  | (_, first) :: _ =>
      let expectedLevSize := first.length
      (c.sensorInfolist.toList.all fun sensorInfo =>
          sensorInfo.2.length == expectedLevSize && numbered sensorInfo.2) &&
        (c.auxSensorInfolist.toList.all fun sensorInfo =>
          sensorInfo.2.length == 0 || sensorInfo.2.length == expectedLevSize) &&
        !(c.tempDiffFlag && c.tempDiffInfoList.length != expectedLevSize)

/-! ### The search loops

The condition of a level in one of the two modes is a parameter here: `extra level isCritical`. -/

section Search

variable (levItems : List LevelItem) (extra : Nat → Bool → Option Bool)

/-- `for (i = level; i < size; i++)`: take the level of the item while its threshold is met and its
extra condition holds. The first argument counts the rounds left. -/
def upwardsSearch (meets : Int → Bool) : Nat → Nat → Nat → Option Nat
  | 0, _, level => some level
  | rounds + 1, i, level => do
      let item ← levItems[i]?
      let holds ← if meets item.threshold then extra item.level true else some false
      if holds then upwardsSearch meets rounds (i + 1) item.level else some level

/-- The same loop as written with `if (.. || ..) break` before the assignment. -/
def upwardsSearchUntil (misses : Int → Bool) : Nat → Nat → Nat → Option Nat
  | 0, _, level => some level
  | rounds + 1, i, level => do
      let item ← levItems[i]?
      let fails ← if misses item.threshold then some true else (! ·) <$> extra item.level true
      if fails then some level else upwardsSearchUntil misses rounds (i + 1) item.level

/-- `for (i = level; i >= 1; i--)`: leave the level of the item unless its clear threshold is met
and its extra condition holds. -/
def downwardsSearch (meets : Int → Bool) : Nat → Nat → Option Nat
  | 0, level => some level
  | i + 1, level => do
      let item ← levItems[i]?
      let holds ← if meets item.thresholdClr then extra item.level false else some false
      if holds then some level
      else downwardsSearch meets i (if item.level > 0 then item.level - 1 else 0)

/-- The same loop as written with the assignment under `if (.. || ..)` and `break` in its `else`. -/
def downwardsSearchWhile (misses : Int → Bool) : Nat → Nat → Option Nat
  | 0, level => some level
  | i + 1, level => do
      let item ← levItems[i]?
      let fails ← if misses item.thresholdClr then some true else (! ·) <$> extra item.level false
      if fails then downwardsSearchWhile misses i (if item.level > 0 then item.level - 1 else 0)
      else some level

def ascendLevelToThreshold (curTemp : Int) (level : Nat) : Option Nat :=
  upwardsSearchUntil levItems extra (fun bound => decide (curTemp < bound))
    (levItems.length - level) level level

def descendLevelToThresholdClr (curTemp : Int) (level : Nat) : Option Nat :=
  downwardsSearch levItems extra (fun bound => decide (curTemp ≥ bound)) level level

def descendLevelToThreshold (curTemp : Int) (level : Nat) : Option Nat :=
  downwardsSearchWhile levItems extra (fun bound => decide (curTemp < bound)) level level

def ascendLevelToThresholdClr (curTemp : Int) (level : Nat) : Option Nat :=
  upwardsSearch levItems extra (fun bound => decide (curTemp ≥ bound))
    (levItems.length - level) level level

def levelUpwardsSearch (curTemp : Int) (level : Nat) : Option Nat :=
  upwardsSearchUntil levItems extra (fun bound => decide (curTemp > bound))
    (levItems.length - level) level level

def levelDownwardsSearch (curTemp : Int) (level : Nat) : Option Nat :=
  downwardsSearch levItems extra (fun bound => decide (curTemp ≤ bound)) level level

def levelDownwardsSearchWithThreshold (curTemp : Int) (level : Nat) : Option Nat :=
  downwardsSearchWhile levItems extra (fun bound => decide (curTemp > bound)) level level

def levelUpwardsSearchWithThreshold (curTemp : Int) (level : Nat) : Option Nat :=
  upwardsSearch levItems extra (fun bound => decide (curTemp ≤ bound))
    (levItems.length - level) level level

def ascJudgment (curTemp : Int) (level : Nat) : Option Nat :=
  if level > 0 ∧ level < levItems.length then do
    let curDownTemp := (← levItems[level - 1]?).thresholdClr
    let nextUptemp := (← levItems[level]?).threshold
    if curTemp ≥ nextUptemp then
      ascendLevelToThreshold levItems extra curTemp level
    else if ← (if curTemp < curDownTemp then some true else (! ·) <$> extra level false) then
      descendLevelToThresholdClr levItems extra curTemp level
    else some level
  else if level = levItems.length then do
    let curDownTemp := (← levItems[level - 1]?).thresholdClr
    if ← (if curTemp < curDownTemp then some true else (! ·) <$> extra level false) then
      descendLevelToThreshold levItems extra curTemp level
    else some level
  else do
    let nextUptemp := (← levItems[level]?).threshold
    if curTemp ≥ nextUptemp then
      ascendLevelToThresholdClr levItems extra curTemp level
    else some level

def descJudgment (curTemp : Int) (level : Nat) : Option Nat :=
  if level ≠ 0 ∧ level < levItems.length then do
    let curDownTemp := (← levItems[level - 1]?).thresholdClr
    let nextUptemp := (← levItems[level]?).threshold
    if curTemp ≤ nextUptemp then
      levelUpwardsSearch levItems extra curTemp level
    else if ← (if curTemp > curDownTemp then some true else (! ·) <$> extra level false) then
      levelDownwardsSearch levItems extra curTemp level
    else some level
  else if level = levItems.length then do
    let curDownTemp := (← levItems[level - 1]?).thresholdClr
    if ← (if curTemp > curDownTemp then some true else (! ·) <$> extra level false) then
      levelDownwardsSearchWithThreshold levItems extra curTemp level
    else some level
  else do
    let nextUptemp := (← levItems[level]?).threshold
    if curTemp ≤ nextUptemp then
      levelUpwardsSearchWithThreshold levItems extra curTemp level
    else some level

variable {levItems extra}

/-- Where a loop has its exit makes no difference. -/
theorem upwardsSearchUntil_eq {misses meets : Int → Bool}
    (hmisses : ∀ bound, misses bound = !meets bound) (rounds i level : Nat) :
    upwardsSearchUntil levItems extra misses rounds i level =
      upwardsSearch levItems extra meets rounds i level := by
  induction rounds generalizing i level with
  | zero => rfl
  | succ rounds ih =>
    rw [upwardsSearchUntil, upwardsSearch]
    cases levItems[i]? with
    | none => rfl
    | some item =>
      simp only [Option.bind_eq_bind, Option.bind_some, hmisses]
      cases meets item.threshold with
      | false => rfl
      | true =>
        cases extra item.level true with
        | none => simp
        | some holds => cases holds <;> simp [ih]

theorem downwardsSearchWhile_eq {misses meets : Int → Bool}
    (hmisses : ∀ bound, misses bound = !meets bound) (i level : Nat) :
    downwardsSearchWhile levItems extra misses i level =
      downwardsSearch levItems extra meets i level := by
  induction i generalizing level with
  | zero => rfl
  | succ i ih =>
    rw [downwardsSearchWhile, downwardsSearch]
    cases levItems[i]? with
    | none => rfl
    | some item =>
      simp only [Option.bind_eq_bind, Option.bind_some, hmisses]
      cases meets item.thresholdClr with
      | false => exact ih _
      | true =>
        cases extra item.level false with
        | none => simp
        | some holds => cases holds <;> simp [ih]

theorem ascendLevelToThreshold_eq (curTemp : Int) (level : Nat) :
    ascendLevelToThreshold levItems extra curTemp level =
      ascendLevelToThresholdClr levItems extra curTemp level :=
  upwardsSearchUntil_eq (fun _ => by grind) _ level level

theorem descendLevelToThreshold_eq (curTemp : Int) (level : Nat) :
    descendLevelToThreshold levItems extra curTemp level =
      descendLevelToThresholdClr levItems extra curTemp level :=
  downwardsSearchWhile_eq (fun _ => by grind) level level

theorem levelUpwardsSearch_eq (curTemp : Int) (level : Nat) :
    levelUpwardsSearch levItems extra curTemp level =
      levelUpwardsSearchWithThreshold levItems extra curTemp level :=
  upwardsSearchUntil_eq (fun _ => by grind) _ level level

theorem levelDownwardsSearchWithThreshold_eq (curTemp : Int) (level : Nat) :
    levelDownwardsSearchWithThreshold levItems extra curTemp level =
      levelDownwardsSearch levItems extra curTemp level :=
  downwardsSearchWhile_eq (fun _ => by grind) level level

end Search

/-! ### The extra conditions -/

def getRateTrend (targetRate : Double) (rateList : List Double) (maxRateCount : Nat) :
    ThermalStatus :=
  if rateList.length < maxRateCount then .statusStable
  else
    let zero := Double.finite 0
    let r1 := if targetRate.ge zero then targetRate else zero
    let r2 := if targetRate.ge zero then zero else targetRate
    let isIdeal := rateList.all fun rate => !rate.ge r2
    let isCritical := rateList.all fun rate => !rate.lt r1
    if isCritical then .statusCritical
    else if isIdeal then .statusIdeal
    else .statusStable

namespace ThermalConfigSensorCluster

variable (c : ThermalConfigSensorCluster)

def isTempRateTrigger (subscriber : ThermalServiceSubscriber) (level : Nat) (type : String)
    (levItems : List LevelItem) (isCritical : Bool) : Option Bool :=
  if level = 0 then some true
  else
    match subscriber.sensorsRate[type]? with
    | none => some false
    | some rateList => do
        let item ← levItems[level - 1]?
        let trend := getRateTrend item.tempRiseRate rateList subscriber.rateCount
        some (if isCritical then trend == .statusCritical else trend != .statusIdeal)

/-- The loop over the auxiliary sensors. -/
def auxLoop (typeTempInfo : TypeTempMap) (level : Nat) :
    List (String × List AuxLevelItem) → Option Bool
  | [] => some true
  | sensorInfo :: rest =>
      match typeTempInfo[sensorInfo.1]? with
      | none => some false
      | some temp => do
          let item ← sensorInfo.2[level - 1]?
          if temp ≥ item.lowerTemp ∧ temp ≤ item.upperTemp then auxLoop typeTempInfo level rest
          else some false

def isAuxSensorTrigger (typeTempInfo : TypeTempMap) (level : Nat) : Option Bool :=
  if level = 0 then some true
  else auxLoop typeTempInfo level c.auxSensorInfolist.toList

/-- The list is sorted in place by the source. The order it leaves is seen by the next sort only,
so the model sorts a copy. The difference of two `int32_t` temperatures wraps. -/
def isTempDiffTrigger (typeTempInfo : TypeTempMap) (level : Nat) : Option Bool :=
  if level = 0 then some true
  else if level > c.tempDiffInfoList.length then some false
  else do
    let sorted := c.tempDiffInfoList.mergeSort (fun t1 t2 => decide (t1.level ≤ t2.level))
    let tempDiffInfo ← sorted[level - 1]?
    match typeTempInfo[tempDiffInfo.sensor1]?, typeTempInfo[tempDiffInfo.sensor2]? with
    | some tempSensor1, some tempSensor2 =>
        some !decide (Int.bmod (tempSensor1 - tempSensor2) (2 ^ 32) > tempDiffInfo.tempDiff)
    | _, _ => some false

def checkExtraCondition (subscriber : ThermalServiceSubscriber) (typeTempInfo : TypeTempMap)
    (level : Nat) (type : String) (levItems : List LevelItem) (isCritical : Bool) :
    Option Bool := do
  let aux ← if c.auxFlag then c.isAuxSensorTrigger typeTempInfo level else some true
  if !aux then return false
  let rate ←
    if c.rateFlag then isTempRateTrigger subscriber level type levItems isCritical else some true
  if !rate then return false
  let tempDiff ← if c.tempDiffFlag then c.isTempDiffTrigger typeTempInfo level else some true
  if !tempDiff then return false
  return true

/-! ### The level update -/

def checkState (states : StateMachineMap) : Bool :=
  c.stateMap.toList.all fun prop =>
    match states[prop.1]? with
    | none => false
    | some decideState => decideState prop.2

/-- The new level of one reported sensor. -/
def judgment (subscriber : ThermalServiceSubscriber) (typeTempInfo : TypeTempMap)
    (sensorInfo : String × List LevelItem) (curTemp : Int) : Option Nat :=
  let extra := fun level isCritical =>
    c.checkExtraCondition subscriber typeTempInfo level sensorInfo.1 sensorInfo.2 isCritical
  if c.descFlag then descJudgment sensorInfo.2 extra curTemp c.latestLevel
  else ascJudgment sensorInfo.2 extra curTemp c.latestLevel

/-- The loop over the sensors of the cluster; a sensor that is not reported adds no level. -/
def sensorLoop (subscriber : ThermalServiceSubscriber) (typeTempInfo : TypeTempMap) :
    List (String × List LevelItem) → Option (List Nat)
  | [] => some []
  | sensorInfo :: rest =>
      match typeTempInfo[sensorInfo.1]? with
      | none => sensorLoop subscriber typeTempInfo rest
      | some curTemp => do
          let level ← c.judgment subscriber typeTempInfo sensorInfo curTemp
          let levels ← sensorLoop subscriber typeTempInfo rest
          some (level :: levels)

def calculateSensorLevel (subscriber : ThermalServiceSubscriber) (typeTempInfo : TypeTempMap) :
    Option (List Nat) :=
  c.sensorLoop subscriber typeTempInfo c.sensorInfolist.toList

def updateThermalLevel (states : StateMachineMap) (subscriber : ThermalServiceSubscriber)
    (typeTempInfo : TypeTempMap) : Option ThermalConfigSensorCluster :=
  if !c.checkState states then some { c with latestLevel := 0 }
  else do
    let levelList ← c.calculateSensorLevel subscriber typeTempInfo
    match levelList.max? with
    | none => some c
    | some level => some { c with latestLevel := level }

end ThermalConfigSensorCluster

end ThermalManager
