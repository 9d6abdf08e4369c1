import ThermalManager.Protector.KernelConfig

/-!
# The levels of the protector as indices

The level that an update takes from an item is an index into the items at the next update. The
protector does not check the items, so a level may exceed their number, and a zone without items is
read out of range at its first temperature. An update is safe if the item that decides it has a
level that is not too large.
-/

namespace ThermalManager

open Hysteresis StepSystem

namespace ProtectorThermalZoneInfo

/-! ### Where the loops stop -/

section Loops

variable (tzItemList : List ThermalZoneInfoItem) (test : Int → Bool)

def reachesLevel (level : Nat) : Bool :=
  (tzItemList[level - 1]?).any fun item => test item.threshold

/-- The temperature is not below the clear threshold of a level. -/
def keepsLevel (level : Nat) : Bool :=
  (tzItemList[level - 1]?).any fun item => test item.thresholdClr

variable {tzItemList test}

theorem upLoop_eq_climb {rounds i : Nat} (hrounds : i + rounds = tzItemList.length)
    (level : Nat) : ∃ newLevel, upLoop tzItemList test rounds i level = some newLevel ∧
      (climb (reachesLevel tzItemList test) rounds i = i → newLevel = level) ∧
      (i < climb (reachesLevel tzItemList test) rounds i →
        ∃ item, tzItemList[climb (reachesLevel tzItemList test) rounds i - 1]? = some item ∧
          newLevel = item.level) := by
  induction rounds generalizing i level with
  | zero => exact ⟨level, rfl, fun _ => rfl, fun h => absurd h (lt_irrefl i)⟩
  | succ rounds ih =>
    have hi : i < tzItemList.length := by omega
    have hitem : tzItemList[i]? = some tzItemList[i] := List.getElem?_eq_getElem hi
    have hreaches : reachesLevel tzItemList test (i + 1) = test tzItemList[i].threshold := by
      rw [reachesLevel, Nat.add_sub_cancel, hitem]
      rfl
    rw [upLoop, climb, hreaches, hitem]
    cases htest : test tzItemList[i].threshold with
    | false => exact ⟨level, by simp [htest], fun _ => rfl, fun h => absurd h (lt_irrefl i)⟩
    | true =>
      obtain ⟨newLevel, hrun, hstop, hclimb⟩ := ih (i := i + 1) (by omega) tzItemList[i].level
      have hle := le_climb (reachesLevel tzItemList test) rounds (i + 1)
      refine ⟨newLevel, by simpa [htest] using hrun, fun h => ?_, fun _ => ?_⟩
      · rw [if_pos rfl] at h
        omega
      · rw [if_pos rfl]
        rcases Nat.eq_or_lt_of_le hle with heq | hlt
        · rw [← heq, Nat.add_sub_cancel]
          exact ⟨_, hitem, hstop heq.symm⟩
        · exact hclimb hlt

theorem downLoop_eq_descend {i : Nat} (hi : i ≤ tzItemList.length) (level : Nat) :
    ∃ newLevel, downLoop tzItemList (fun bound => !test bound) i level = some newLevel ∧
      (descend (keepsLevel tzItemList test) i = i → newLevel = level) ∧
      (descend (keepsLevel tzItemList test) i < i →
        ∃ item, tzItemList[descend (keepsLevel tzItemList test) i]? = some item ∧
          newLevel = item.level - 1) := by
  induction i generalizing level with
  | zero => exact ⟨level, rfl, fun _ => rfl, fun h => absurd h (lt_irrefl 0)⟩
  | succ i ih =>
    have hitem : tzItemList[i]? = some tzItemList[i] := List.getElem?_eq_getElem hi
    have hkeeps : keepsLevel tzItemList test (i + 1) = test tzItemList[i].thresholdClr := by
      rw [keepsLevel, Nat.add_sub_cancel, hitem]
      rfl
    have hpred : (if tzItemList[i].level > 0 then tzItemList[i].level - 1 else 0) =
        tzItemList[i].level - 1 := by
      split <;> omega
    rw [downLoop, descend, hkeeps, hitem]
    cases htest : test tzItemList[i].thresholdClr with
    | true => exact ⟨level, by simp [htest], fun _ => rfl, fun h => absurd h (lt_irrefl _)⟩
    | false =>
      obtain ⟨newLevel, hrun, hstop, hdescend⟩ := ih (by omega) (tzItemList[i].level - 1)
      have hle := descend_le (keepsLevel tzItemList test) i
      refine ⟨newLevel, by simpa [htest, hpred] using hrun, fun h => ?_, fun _ => ?_⟩
      · rw [if_neg Bool.false_ne_true] at h
        omega
      · rw [if_neg Bool.false_ne_true]
        rcases Nat.eq_or_lt_of_le hle with heq | hlt
        · rw [heq]
          exact ⟨_, hitem, hstop heq⟩
        · exact hdescend hlt

/-! ### What a judgment returns -/

/-- The level up to which the thresholds are reached. -/
def topFrom (tzItemList : List ThermalZoneInfoItem) (test : Int → Bool) (level : Nat) : Nat :=
  climb (reachesLevel tzItemList test) (tzItemList.length - level) level

/-- The level down to which the clear thresholds are passed. -/
def bottomFrom (tzItemList : List ThermalZoneInfoItem) (test : Int → Bool) (level : Nat) : Nat :=
  descend (keepsLevel tzItemList test) level

/-- The new level is that of the last item passed upwards, or one less than that of the last item
passed downwards. If neither loop passes an item, it is that of the item of the level, read again
between the ends. -/
structure Decided (tzItemList : List ThermalZoneInfoItem) (test : Int → Bool)
    (level newLevel : Nat) : Prop where
  climbs : level < topFrom tzItemList test level →
    ∃ item, tzItemList[topFrom tzItemList test level - 1]? = some item ∧ newLevel = item.level
  descends : ¬ level < topFrom tzItemList test level →
    bottomFrom tzItemList test level < level →
    ∃ item, tzItemList[bottomFrom tzItemList test level]? = some item ∧ newLevel = item.level - 1
  rests : ¬ level < topFrom tzItemList test level →
    ¬ bottomFrom tzItemList test level < level →
    if 0 < level ∧ level < tzItemList.length then
      ∃ item, tzItemList[level - 1]? = some item ∧ newLevel = item.level
    else newLevel = level

variable {level : Nat}

theorem decided_upLoop
    (hup : level < topFrom tzItemList test level) :
    ∃ newLevel, upLoop tzItemList test (tzItemList.length - level) level level = some newLevel ∧
      Decided tzItemList test level newLevel := by
  have hrounds : level + (tzItemList.length - level) = tzItemList.length := by
    have hpos := (lt_climb_iff.mp hup).1
    omega
  obtain ⟨newLevel, hrun, -, hclimbs⟩ := @upLoop_eq_climb tzItemList test _ level hrounds level
  exact ⟨newLevel, hrun, hclimbs, fun h => absurd hup h, fun h => absurd hup h⟩

theorem decided_downLoop (hlevel : level ≤ tzItemList.length)
    (hup : ¬ level < topFrom tzItemList test level)
    (hdown : bottomFrom tzItemList test level < level) :
    ∃ newLevel, downLoop tzItemList (fun bound => !test bound) level level = some newLevel ∧
      Decided tzItemList test level newLevel := by
  obtain ⟨newLevel, hrun, -, hdescends⟩ := @downLoop_eq_descend tzItemList test level hlevel level
  exact ⟨newLevel, hrun, fun h => absurd h hup, fun _ => hdescends, fun _ h => absurd hdown h⟩

theorem climbs_iff {next : ThermalZoneInfoItem} (hnext : tzItemList[level]? = some next) :
    level < topFrom tzItemList test level ↔
      test next.threshold = true := by
  have hlevel := (List.getElem?_eq_some_iff.mp hnext).1
  have hreaches : reachesLevel tzItemList test (level + 1) = test next.threshold := by
    rw [reachesLevel, Nat.add_sub_cancel, hnext]
    rfl
  rw [topFrom, lt_climb_iff, hreaches]
  exact and_iff_right (by omega)

theorem descends_iff {cur : ThermalZoneInfoItem} (hpos : 0 < level)
    (hcur : tzItemList[level - 1]? = some cur) :
    bottomFrom tzItemList test level < level ↔ test cur.thresholdClr = false := by
  have hkeeps : keepsLevel tzItemList test level = test cur.thresholdClr := by
    rw [keepsLevel, hcur]
    rfl
  rw [bottomFrom, descend_lt_iff, hkeeps]
  exact and_iff_right hpos

theorem decided_between (hpos : 0 < level) (hlevel : level < tzItemList.length) :
    ∃ newLevel, zoneJudgment tzItemList test level = some newLevel ∧
      Decided tzItemList test level newLevel := by
  have hnext := List.getElem?_eq_getElem hlevel
  have hcur : tzItemList[level - 1]? = some tzItemList[level - 1] :=
    List.getElem?_eq_getElem (by omega)
  rw [zoneJudgment, if_pos ⟨hpos, hlevel⟩, hcur, hnext]
  show ∃ newLevel, (if test tzItemList[level].threshold = true then _ else
    if (!test tzItemList[level - 1].thresholdClr) = true then _ else _) = some newLevel ∧ _
  cases htest : test tzItemList[level].threshold with
  | true => exact decided_upLoop ((climbs_iff hnext).mpr htest)
  | false =>
    have hup := mt (climbs_iff hnext).mp (ne_true_of_eq_false htest)
    cases hkeep : test tzItemList[level - 1].thresholdClr with
    | false => exact decided_downLoop hlevel.le hup ((descends_iff hpos hcur).mpr hkeep)
    | true =>
      have hdown := mt (descends_iff hpos hcur).mp (ne_false_of_eq_true hkeep)
      refine ⟨_, rfl, fun h => absurd h hup, fun _ h => absurd h hdown, fun _ _ => ?_⟩
      rw [if_pos ⟨hpos, hlevel⟩]
      exact ⟨_, hcur, rfl⟩

theorem decided_top (hne : tzItemList ≠ []) (hlevel : level = tzItemList.length) :
    ∃ newLevel, zoneJudgment tzItemList test level = some newLevel ∧
      Decided tzItemList test level newLevel := by
  have hpos : 0 < level := hlevel ▸ List.length_pos_iff.mpr hne
  have hmid : ¬ (0 < level ∧ level < tzItemList.length) := by omega
  have hcur : tzItemList[level - 1]? = some tzItemList[level - 1] :=
    List.getElem?_eq_getElem (by omega)
  have hup : ¬ level < topFrom tzItemList test level := by
    rw [topFrom, lt_climb_iff]
    omega
  rw [zoneJudgment, if_neg hmid, if_pos hlevel, hcur]
  show ∃ newLevel, (if (!test tzItemList[level - 1].thresholdClr) = true then _ else _) =
    some newLevel ∧ _
  cases hkeep : test tzItemList[level - 1].thresholdClr with
  | false => exact decided_downLoop hlevel.le hup ((descends_iff hpos hcur).mpr hkeep)
  | true =>
    have hdown := mt (descends_iff hpos hcur).mp (ne_false_of_eq_true hkeep)
    refine ⟨level, rfl, fun h => absurd h hup, fun _ h => absurd h hdown, fun _ _ => ?_⟩
    rw [if_neg hmid]

theorem decided_bottom (hne : tzItemList ≠ []) :
    ∃ newLevel, zoneJudgment tzItemList test 0 = some newLevel ∧
      Decided tzItemList test 0 newLevel := by
  have hlength : 0 < tzItemList.length := List.length_pos_iff.mpr hne
  have hmid : ¬ (0 < 0 ∧ 0 < tzItemList.length) := by omega
  have hnext := List.getElem?_eq_getElem hlength
  rw [zoneJudgment, if_neg hmid, if_neg hlength.ne, if_pos rfl, hnext]
  show ∃ newLevel, (if test tzItemList[0].threshold = true then _ else _) = some newLevel ∧ _
  cases htest : test tzItemList[0].threshold with
  | true => exact decided_upLoop ((climbs_iff hnext).mpr htest)
  | false =>
    have hup := mt (climbs_iff hnext).mp (ne_true_of_eq_false htest)
    refine ⟨0, rfl, fun h => absurd h hup, fun _ h => absurd h (Nat.not_lt_zero _), fun _ _ => ?_⟩
    rw [if_neg hmid]

theorem zoneJudgment_decided (hne : tzItemList ≠ []) (hlevel : level ≤ tzItemList.length) :
    ∃ newLevel, zoneJudgment tzItemList test level = some newLevel ∧
      Decided tzItemList test level newLevel := by
  rcases Nat.eq_zero_or_pos level with rfl | hpos
  · exact decided_bottom hne
  · rcases Nat.lt_or_eq_of_le hlevel with hlt | heq
    · exact decided_between hpos hlt
    · exact decided_top hne heq

theorem zoneJudgment_nil : zoneJudgment [] test 0 = none := rfl

end Loops

/-! ### Safe updates -/

variable {z : ProtectorThermalZoneInfo} {temp : Int}

/-- The temperature is as hot as the bound, or as cold for a descending zone. -/
def reaches (z : ProtectorThermalZoneInfo) (temp bound : Int) : Bool :=
  if z.desc then decide (temp ≤ bound) else decide (temp ≥ bound)

/-- The levels up to which all thresholds are reached from the level of the zone on. -/
def climbable (z : ProtectorThermalZoneInfo) (temp : Int) : Set Nat :=
  {k | z.latestLevel ≤ k ∧ k ≤ z.tzItemList.length ∧ ∀ i, z.latestLevel < i → i ≤ k →
    ∃ item, z.tzItemList[i - 1]? = some item ∧ z.reaches temp item.threshold = true}

/-- The levels up to that of the zone that their clear threshold does not end, and the lowest. -/
def keepable (z : ProtectorThermalZoneInfo) (temp : Int) : Set Nat :=
  {k | k ≤ z.latestLevel ∧ (k = 0 ∨
    ∃ item, z.tzItemList[k - 1]? = some item ∧ z.reaches temp item.thresholdClr = true)}

/-- The zone has items, and the one that decides the update has a level that is not too large: the
last one climbed, the last one left on the way down, or the one of the level between the ends. -/
structure SafeUpdate (z : ProtectorThermalZoneInfo) (temp : Int) : Prop where
  items : z.tzItemList ≠ []
  climbed : ∀ (k : Nat) (item : ThermalZoneInfoItem), IsGreatest (z.climbable temp) k →
    z.latestLevel < k → z.tzItemList[k - 1]? = some item → item.level ≤ z.tzItemList.length
  left : ∀ (k : Nat) (item : ThermalZoneInfoItem), IsGreatest (z.climbable temp) z.latestLevel →
    IsGreatest (z.keepable temp) k → k < z.latestLevel → z.tzItemList[k]? = some item →
    item.level ≤ z.tzItemList.length + 1
  kept : ∀ item : ThermalZoneInfoItem, IsGreatest (z.climbable temp) z.latestLevel →
    IsGreatest (z.keepable temp) z.latestLevel → 0 < z.latestLevel →
    z.latestLevel < z.tzItemList.length → z.tzItemList[z.latestLevel - 1]? = some item →
    item.level ≤ z.tzItemList.length

theorem updateThermalLevel_eq (z : ProtectorThermalZoneInfo) (temp : Int) :
    z.updateThermalLevel temp =
      (zoneJudgment z.tzItemList (z.reaches temp) z.latestLevel).map
        fun level => { z with latestLevel := level } := by
  rw [ProtectorThermalZoneInfo.updateThermalLevel, descJudgment_eq_zoneJudgment,
    ascJudgment_eq_zoneJudgment]
  by_cases hdesc : z.desc = true
  · have hreaches : z.reaches temp = fun bound => decide (temp ≤ bound) := by
      funext bound
      exact if_pos hdesc
    rw [if_pos hdesc, hreaches]
  · have hreaches : z.reaches temp = fun bound => decide (temp ≥ bound) := by
      funext bound
      exact if_neg hdesc
    rw [if_neg hdesc, hreaches]

theorem isGreatest_climbable_iff (hlevel : z.latestLevel ≤ z.tzItemList.length) {k : Nat} :
    IsGreatest (z.climbable temp) k ↔
      k = topFrom z.tzItemList (z.reaches temp) z.latestLevel := by
  have hset : z.climbable temp = {k | z.latestLevel ≤ k ∧
      k ≤ z.latestLevel + (z.tzItemList.length - z.latestLevel) ∧
      ∀ i, z.latestLevel < i → i ≤ k →
        reachesLevel z.tzItemList (z.reaches temp) i = true} := by
    ext k
    simp only [climbable, reachesLevel, Option.any_eq_true, Set.mem_ofPred_eq,
      Nat.add_sub_cancel' hlevel]
  have htop : IsGreatest (z.climbable temp)
      (topFrom z.tzItemList (z.reaches temp) z.latestLevel) := hset ▸ isGreatest_climb _ _ _
  exact ⟨fun h => h.unique htop, fun h => h ▸ htop⟩

theorem isGreatest_keepable_iff {k : Nat} :
    IsGreatest (z.keepable temp) k ↔
      k = bottomFrom z.tzItemList (z.reaches temp) z.latestLevel := by
  have hset : z.keepable temp = {k | k ≤ z.latestLevel ∧
      (k = 0 ∨ keepsLevel z.tzItemList (z.reaches temp) k = true)} := by
    ext k
    simp only [keepable, keepsLevel, Option.any_eq_true, Set.mem_ofPred_eq]
  have hbottom : IsGreatest (z.keepable temp)
      (bottomFrom z.tzItemList (z.reaches temp) z.latestLevel) := hset ▸ isGreatest_descend _ _
  exact ⟨fun h => h.unique hbottom, fun h => h ▸ hbottom⟩

/-! ### Runs -/

/-- A temperature reaches the zone, if the process still runs. -/
def receiveTemp (s : Option ProtectorThermalZoneInfo) (temp : Int) :
    Option ProtectorThermalZoneInfo :=
  s.bind fun z => z.updateThermalLevel temp

/-- No access was out of range, and the level does not exceed the number of items. -/
def IndexSafe (s : Option ProtectorThermalZoneInfo) : Prop :=
  ∃ z, s = some z ∧ z.getThermalLevel ≤ z.tzItemList.length

def SafeNext (s : Option ProtectorThermalZoneInfo) (temp : Int) : Prop :=
  ∀ z, s = some z → z.SafeUpdate temp

theorem SafeUpdate.le {newLevel : Nat} (h : z.SafeUpdate temp)
    (hlevel : z.latestLevel ≤ z.tzItemList.length)
    (hdecided : Decided z.tzItemList (z.reaches temp) z.latestLevel newLevel) :
    newLevel ≤ z.tzItemList.length := by
  have hle : z.latestLevel ≤ topFrom z.tzItemList (z.reaches temp) z.latestLevel := le_climb _ _ _
  have hge : bottomFrom z.tzItemList (z.reaches temp) z.latestLevel ≤ z.latestLevel :=
    descend_le _ _
  by_cases hup : z.latestLevel < topFrom z.tzItemList (z.reaches temp) z.latestLevel
  · obtain ⟨item, hitem, rfl⟩ := hdecided.climbs hup
    exact h.climbed _ item ((isGreatest_climbable_iff hlevel).mpr rfl) hup hitem
  · have htop := (isGreatest_climbable_iff hlevel).mpr (hle.antisymm (not_lt.mp hup))
    by_cases hdown : bottomFrom z.tzItemList (z.reaches temp) z.latestLevel < z.latestLevel
    · obtain ⟨item, hitem, rfl⟩ := hdecided.descends hup hdown
      exact Nat.sub_le_iff_le_add.mpr
        (h.left _ item htop (isGreatest_keepable_iff.mpr rfl) hdown hitem)
    · have hbottom := isGreatest_keepable_iff.mpr ((not_lt.mp hdown).antisymm hge)
      have hrest := hdecided.rests hup hdown
      split at hrest
      case isTrue hmid =>
        obtain ⟨item, hitem, rfl⟩ := hrest
        exact h.kept item htop hbottom hmid.1 hmid.2 hitem
      case isFalse => exact hrest ▸ hlevel

theorem SafeUpdate.of_le {newLevel : Nat} (hne : z.tzItemList ≠ [])
    (hlevel : z.latestLevel ≤ z.tzItemList.length)
    (hdecided : Decided z.tzItemList (z.reaches temp) z.latestLevel newLevel)
    (hnew : newLevel ≤ z.tzItemList.length) : z.SafeUpdate temp := by
  refine { items := hne, climbed := ?climbed, left := ?left, kept := ?kept }
  case climbed =>
    intro k item htop hlt hitem
    obtain rfl := (isGreatest_climbable_iff hlevel).mp htop
    obtain ⟨found, hfound, rfl⟩ := hdecided.climbs hlt
    exact Option.some.inj (hfound.symm.trans hitem) ▸ hnew
  case left =>
    intro k item htop hbottom hlt hitem
    have hup := ((isGreatest_climbable_iff hlevel).mp htop).not_lt
    obtain rfl := isGreatest_keepable_iff.mp hbottom
    obtain ⟨found, hfound, rfl⟩ := hdecided.descends hup hlt
    obtain rfl := Option.some.inj (hfound.symm.trans hitem)
    exact Nat.sub_le_iff_le_add.mp hnew
  case kept =>
    intro item htop hbottom hpos hlt hitem
    have hup := ((isGreatest_climbable_iff hlevel).mp htop).not_lt
    have hdown := (isGreatest_keepable_iff.mp hbottom).not_gt
    have hrest := hdecided.rests hup hdown
    rw [if_pos ⟨hpos, hlt⟩] at hrest
    obtain ⟨found, hfound, rfl⟩ := hrest
    exact Option.some.inj (hfound.symm.trans hitem) ▸ hnew

/-- An update leaves a level in range behind exactly if it is safe. -/
theorem indexSafe_update_iff (hlevel : z.latestLevel ≤ z.tzItemList.length) :
    IndexSafe (z.updateThermalLevel temp) ↔ z.SafeUpdate temp := by
  by_cases hne : z.tzItemList = []
  · have hzero : z.latestLevel = 0 := by
      rw [hne] at hlevel
      exact Nat.le_zero.mp hlevel
    refine iff_of_false (fun h => ?_) fun h => h.items hne
    obtain ⟨z', hz', -⟩ := h
    rw [updateThermalLevel_eq, hne, hzero, zoneJudgment_nil] at hz'
    cases hz'
  · obtain ⟨newLevel, hrun, hdecided⟩ :=
      @zoneJudgment_decided z.tzItemList (z.reaches temp) z.latestLevel hne hlevel
    rw [updateThermalLevel_eq, hrun]
    constructor
    · intro h
      obtain ⟨z', hz', hle⟩ := h
      obtain rfl := Option.some.inj hz'
      exact SafeUpdate.of_le hne hlevel hdecided hle
    · intro h
      exact ⟨_, rfl, h.le hlevel hdecided⟩

/-- Levels that do not exceed the number of items are safe at every temperature. -/
theorem SafeUpdate.of_levels (hne : z.tzItemList ≠ [])
    (hlevels : ∀ item ∈ z.tzItemList, item.level ≤ z.tzItemList.length) (temp : Int) :
    z.SafeUpdate temp where
  items := hne
  climbed _ item _ _ hitem := hlevels item (List.mem_of_getElem? hitem)
  left _ item _ _ _ hitem := (hlevels item (List.mem_of_getElem? hitem)).trans (Nat.le_succ _)
  kept item _ _ _ _ hitem := hlevels item (List.mem_of_getElem? hitem)

theorem enabled_of_levels (hlevel : z.latestLevel ≤ z.tzItemList.length)
    (hne : z.tzItemList ≠ [])
    (hlevels : ∀ item ∈ z.tzItemList, item.level ≤ z.tzItemList.length) (temps : List Int) :
    Enabled SafeNext receiveTemp (some z) temps := by
  induction temps generalizing z with
  | nil => trivial
  | cons temp temps ih =>
    have hsafe := SafeUpdate.of_levels hne hlevels temp
    obtain ⟨z', hz', hlevel'⟩ := (indexSafe_update_iff hlevel).mpr hsafe
    have hitems : z'.tzItemList = z.tzItemList := by
      rw [updateThermalLevel_eq] at hz'
      obtain ⟨newLevel, -, rfl⟩ := Option.map_eq_some_iff.mp hz'
      rfl
    refine ⟨fun z₁ hz₁ => Option.some.inj hz₁ ▸ hsafe, ?_⟩
    show Enabled SafeNext receiveTemp (z.updateThermalLevel temp) temps
    rw [hz']
    exact ih hlevel' (hitems ▸ hne) (hitems ▸ hlevels)

end ProtectorThermalZoneInfo

namespace ThermalKernelConfigFile

variable {conv : Conversions} {uninit : KernelUninit} {name : String}
  {zone : ProtectorThermalZoneInfo}

theorem foldl_parseZoneNode_latestLevel (zones : List XmlNode)
    (read : ThermalZoneMap × List LevelAction)
    (hread : ∀ (name : String) (zone : ProtectorThermalZoneInfo), read.1[name]? = some zone →
      zone.latestLevel = 0)
    (hzone : (zones.foldl (parseZoneNode conv uninit) read).1[name]? = some zone) :
    zone.latestLevel = 0 := by
  induction zones generalizing read with
  | nil => exact hread name zone hzone
  | cons cur zones ih =>
    refine ih (parseZoneNode conv uninit read cur) (fun other zone hother => ?_) hzone
    rw [parseZoneNode, Std.ExtTreeMap.getElem?_insertIfNew] at hother
    split at hother
    · obtain rfl := Option.some.inj hother
      rfl
    · exact hread other zone hother

theorem latestLevel_of_parsed {p : ThermalKernelPolicy} {levelActionList : List LevelAction}
    {node : XmlNode}
    (hzone : (parseControlNode conv uninit p levelActionList node).1.tzInfoMap[name]? =
      some zone) : zone.latestLevel = 0 := by
  refine foldl_parseZoneNode_latestLevel node.xmlChildrenNode (∅, levelActionList)
    (fun other zone hother => ?_) hzone
  rw [Std.ExtTreeMap.getElem?_empty] at hother
  cases hother

end ThermalKernelConfigFile

namespace ProtectorThermalZoneInfo

open ThermalKernelConfigFile

/-- The accesses and the level of a parsed zone stay in range exactly as long as all updates are
safe. -/
theorem index_safe_iff {conv : Conversions} {uninit : KernelUninit} {p : ThermalKernelPolicy}
    {levelActionList : List LevelAction} {node : XmlNode} {name : String}
    {zone : ProtectorThermalZoneInfo}
    (hzone : (parseControlNode conv uninit p levelActionList node).1.tzInfoMap[name]? = some zone)
    (temps : List Int) :
    Always receiveTemp IndexSafe (some zone) temps ↔ Enabled SafeNext receiveTemp (some zone)
      temps := by
  have hstart : IndexSafe (some zone) :=
    ⟨zone, rfl, (latestLevel_of_parsed hzone).trans_le (Nat.zero_le _)⟩
  refine always_iff_enabled_of_step IndexSafe (fun s temp hs => ?_) hstart temps
  obtain ⟨z, rfl, hlevel⟩ := hs
  refine (indexSafe_update_iff hlevel).trans ⟨fun h z' hz' => ?_, fun h => h z rfl⟩
  exact Option.some.inj hz' ▸ h

/-- The zone that the parser makes of two numbered levels. -/
def twoLevelZone : ProtectorThermalZoneInfo where
  interval := 2000
  multiple := 0
  tzItemList := [⟨1, 35000, 32000⟩, ⟨2, 40000, 37000⟩]

theorem twoLevelZone_index_safe :
    Always receiveTemp IndexSafe (some twoLevelZone) [36000, 41000, 30000] :=
  (index_safe_iff (show (parseControlNode decimalConversions unsetItem ⟨∅, ∅, ∅, [], []⟩ []
      twoLevels).1.tzInfoMap["soc-thermal"]? = some twoLevelZone by decide) _).mpr
    (enabled_of_levels (by decide) (by decide) (by decide) _)

/-- A zone without items. -/
def emptyZoneControl : XmlNode where
  name := "control"
  xmlChildrenNode := [{ name := "thermal_zone", properties := [("type", "battery")] }]

/-- The first temperature of a zone without items is an access out of range. -/
theorem emptyZone_out_of_range :
    ¬ ∀ (conv : Conversions) (uninit : KernelUninit) (p : ThermalKernelPolicy) (node : XmlNode)
        (name : String) (zone : ProtectorThermalZoneInfo),
      (parseControlNode conv uninit p [] node).1.tzInfoMap[name]? = some zone →
        ∀ temps : List Int, Always receiveTemp IndexSafe (some zone) temps := by
  intro h
  have hzone : (parseControlNode decimalConversions unsetItem ⟨∅, ∅, ∅, [], []⟩ []
      emptyZoneControl).1.tzInfoMap["battery"]? =
        some { interval := 0, multiple := 0, tzItemList := [] } := by decide
  obtain ⟨z, hz, -⟩ := h _ _ _ _ _ _ hzone [30000] [30000] (List.prefix_refl _)
  cases hz

end ProtectorThermalZoneInfo

end ThermalManager
