import ThermalManager.Lib.Run
import ThermalManager.Protector.SamplingSchedule

/-!
# The policy of the protector

`thermal_kernel_policy.cpp`. A report updates the zones it names, and `levelMap_` takes the level of
a zone the first time only, because `emplace` leaves an entry that is there. An exception of a zone
ends the process, and so does the model.
-/

namespace ThermalManager

open StepSystem

structure ProtectorActionItem where
  name : String
  value : Nat
  deriving DecidableEq

structure LevelAction where
  name : String
  level : Nat
  vAction : List ProtectorActionItem
  deriving DecidableEq

structure ThermalKernelPolicy where
  typeTempMap : SensorsMap := ∅
  tzInfoMap : ThermalZoneMap
  levelMap : Map String Nat := ∅
  levelAction : List LevelAction
  executeActionList : List String := []

namespace ThermalKernelPolicy

/-- One zone of the loop, under a report. -/
def levelZone (typeTempMap : SensorsMap) (p : ThermalKernelPolicy)
    (tzIter : String × ProtectorThermalZoneInfo) : Option ThermalKernelPolicy :=
  match typeTempMap[tzIter.1]? with
  | none => some p
  | some temp =>
      (tzIter.2.updateThermalLevel temp).map fun zone =>
        { p with
          tzInfoMap := p.tzInfoMap.insert tzIter.1 zone
          levelMap := p.levelMap.insertIfNew tzIter.1 zone.getThermalLevel }

def levelDecision (p : ThermalKernelPolicy) : Option ThermalKernelPolicy :=
  p.tzInfoMap.toList.foldlM (levelZone p.typeTempMap) p

/-- `registered` says which actions the device control has. The second component is the values that
the actions are given. -/
def actionDecision (registered : String → Bool)
    (decided : ThermalKernelPolicy × List ProtectorActionItem)
    (vAction : List ProtectorActionItem) : ThermalKernelPolicy × List ProtectorActionItem :=
  let known := vAction.filter fun actionIter => registered actionIter.name
  ({ decided.1 with
      executeActionList := decided.1.executeActionList ++ known.map ProtectorActionItem.name },
    decided.2 ++ known)

/-- The entries of the configuration whose level is the one in `levelMap`. -/
def selected (p : ThermalKernelPolicy) : List LevelAction :=
  p.levelAction.filter fun policy => p.levelMap[policy.name]? == some policy.level

/-- The third component is the actions that are executed; the list of their names is never
cleared. -/
def policyDecision (registered : String → Bool) (p : ThermalKernelPolicy) :
    ThermalKernelPolicy × List ProtectorActionItem × List String :=
  let decided := (p.selected.map LevelAction.vAction).foldl (actionDecision registered) (p, [])
  (decided.1, decided.2, decided.1.executeActionList.filter registered)

def onReceivedSensorsInfo (registered : String → Bool) (p : ThermalKernelPolicy)
    (typeTempMap : SensorsMap) :
    Option (ThermalKernelPolicy × List ProtectorActionItem × List String) :=
  (levelDecision { p with typeTempMap := typeTempMap }).map (policyDecision registered)

/-! ### What a report does to a zone -/

variable {typeTempMap : SensorsMap} {p p' : ThermalKernelPolicy} {name : String}

def SameZone (name : String) (p p' : ThermalKernelPolicy) : Prop :=
  p'.tzInfoMap[name]? = p.tzInfoMap[name]? ∧ p'.levelMap[name]? = p.levelMap[name]?

/-- The zone has been updated if it was reported; an entry that was there has been kept. -/
def Levelled (typeTempMap : SensorsMap) (name : String) (p p' : ThermalKernelPolicy) : Prop :=
  match p.tzInfoMap[name]?, typeTempMap[name]? with
  | some zone, some temp => ∃ zone', zone.updateThermalLevel temp = some zone' ∧
      p'.tzInfoMap[name]? = some zone' ∧
      p'.levelMap[name]? = some ((p.levelMap[name]?).getD zone'.getThermalLevel)
  | _, _ => SameZone name p p'

theorem SameZone.trans {p'' : ThermalKernelPolicy} (h : SameZone name p p')
    (h' : SameZone name p' p'') : SameZone name p p'' :=
  ⟨h'.1.trans h.1, h'.2.trans h.2⟩

theorem SameZone.levelled_iff {q : ThermalKernelPolicy} (h : SameZone name p q) :
    Levelled typeTempMap name q p' ↔ Levelled typeTempMap name p p' := by
  rw [Levelled, Levelled, h.1, h.2, SameZone, SameZone, h.1, h.2]

theorem Levelled.sameZone {p'' : ThermalKernelPolicy} (h : Levelled typeTempMap name p p')
    (h' : SameZone name p' p'') : Levelled typeTempMap name p p'' := by
  rw [Levelled] at h ⊢
  split at h
  · obtain ⟨zone', hzone', htz, hlevel⟩ := h
    exact ⟨zone', hzone', h'.1.trans htz, h'.2.trans hlevel⟩
  · exact h.trans h'

theorem levelZone_levelled {tzIter : String × ProtectorThermalZoneInfo}
    (hzone : p.tzInfoMap[tzIter.1]? = some tzIter.2)
    (h : levelZone typeTempMap p tzIter = some p') : Levelled typeTempMap tzIter.1 p p' := by
  rw [levelZone] at h
  rw [Levelled, hzone]
  cases htemp : typeTempMap[tzIter.1]? with
  | none =>
    rw [htemp] at h
    obtain rfl := Option.some.inj h
    exact ⟨rfl, rfl⟩
  | some temp =>
    rw [htemp] at h
    obtain ⟨zone', hzone', rfl⟩ := Option.map_eq_some_iff.mp h
    refine ⟨zone', hzone', Std.ExtTreeMap.getElem?_insert_self, ?_⟩
    show (p.levelMap.insertIfNew tzIter.1 zone'.getThermalLevel)[tzIter.1]? = _
    have hmem : tzIter.1 ∈ p.levelMap ↔ (p.levelMap[tzIter.1]?).isSome :=
      Std.ExtTreeMap.mem_iff_isSome_getElem?
    rw [Std.ExtTreeMap.getElem?_insertIfNew]
    cases hlevel : p.levelMap[tzIter.1]? with
    | none =>
      rw [hlevel] at hmem
      exact if_pos ⟨Std.ReflCmp.compare_self, mt hmem.mp Bool.false_ne_true⟩
    | some level =>
      rw [hlevel] at hmem
      exact if_neg fun hnew => hnew.2 (hmem.mpr rfl)

theorem levelZone_other {tzIter : String × ProtectorThermalZoneInfo} (hne : tzIter.1 ≠ name)
    (h : levelZone typeTempMap p tzIter = some p') : SameZone name p p' := by
  rw [levelZone] at h
  split at h
  · obtain rfl := Option.some.inj h
    exact ⟨rfl, rfl⟩
  · obtain ⟨zone', -, rfl⟩ := Option.map_eq_some_iff.mp h
    have hcompare : ¬ compare tzIter.1 name = .eq := fun h => hne (Std.LawfulEqOrd.eq_of_compare h)
    refine ⟨?_, ?_⟩
    · exact (Std.ExtTreeMap.getElem?_insert ..).trans (if_neg hcompare)
    · exact (Std.ExtTreeMap.getElem?_insertIfNew ..).trans (if_neg fun h => hcompare h.1)

theorem foldlM_levelZone {sensors : List (String × ProtectorThermalZoneInfo)}
    (hdistinct : sensors.Pairwise fun a b => ¬ compare a.1 b.1 = .eq)
    (hzones : ∀ tzIter ∈ sensors, p.tzInfoMap[tzIter.1]? = some tzIter.2)
    (h : sensors.foldlM (levelZone typeTempMap) p = some p') :
    (∀ tzIter ∈ sensors, Levelled typeTempMap tzIter.1 p p') ∧
      ∀ name, name ∉ sensors.map Prod.fst → SameZone name p p' := by
  induction sensors generalizing p with
  | nil =>
    obtain rfl := Option.some.inj h
    exact ⟨by simp, fun _ _ => ⟨rfl, rfl⟩⟩
  | cons tzIter rest ih =>
    obtain ⟨q, hq, hrest⟩ := Option.bind_eq_some_iff.mp ((List.foldlM_cons ..).symm.trans h)
    obtain ⟨hhead, htail⟩ := List.pairwise_cons.mp hdistinct
    have hne : ∀ other ∈ rest, tzIter.1 ≠ other.1 := fun other hother heq =>
      hhead other hother (heq ▸ Std.ReflCmp.compare_self)
    obtain ⟨hlevelled, hsame⟩ := ih htail (fun other hother =>
      ((levelZone_other (hne other hother) hq).1).trans
        (hzones other (List.mem_cons_of_mem _ hother))) hrest
    refine ⟨fun other hother => ?_, fun name hname => ?_⟩
    · rcases List.mem_cons.mp hother with rfl | hother
      · refine (levelZone_levelled (hzones other List.mem_cons_self) hq).sameZone (hsame _ ?_)
        intro hmem
        obtain ⟨other', hother', heq⟩ := List.mem_map.mp hmem
        exact hne other' hother' heq.symm
      · exact (levelZone_other (hne other hother) hq).levelled_iff.mp (hlevelled other hother)
    · rw [List.map_cons, List.mem_cons, not_or] at hname
      exact (levelZone_other (Ne.symm hname.1) hq).trans (hsame name hname.2)

theorem levelDecision_levelled (h : p.levelDecision = some p') (name : String) :
    Levelled p.typeTempMap name p p' := by
  obtain ⟨hlevelled, hsame⟩ := foldlM_levelZone Std.ExtTreeMap.distinct_keys_toList
    (fun tzIter hmem => Std.ExtTreeMap.mem_toList_iff_getElem?_eq_some.mp hmem) h
  cases hzone : p.tzInfoMap[name]? with
  | some zone =>
    exact hlevelled (name, zone) (Std.ExtTreeMap.mem_toList_iff_getElem?_eq_some.mpr hzone)
  | none =>
    rw [Levelled, hzone]
    refine hsame name fun hmem => ?_
    obtain ⟨⟨name, zone⟩, hentry, rfl⟩ := List.mem_map.mp hmem
    rw [Std.ExtTreeMap.mem_toList_iff_getElem?_eq_some.mp hentry] at hzone
    exact Option.some_ne_none _ hzone

theorem levelDecision_isSome_iff : p.levelDecision.isSome ↔
    ∀ (name : String) (zone : ProtectorThermalZoneInfo) (temp : Int),
      p.tzInfoMap[name]? = some zone → p.typeTempMap[name]? = some temp →
        (zone.updateThermalLevel temp).isSome := by
  constructor
  · intro h name zone temp hzone htemp
    obtain ⟨p', hp'⟩ := Option.isSome_iff_exists.mp h
    have hlevelled := levelDecision_levelled hp' name
    rw [Levelled, hzone, htemp] at hlevelled
    obtain ⟨zone', hzone', -⟩ := hlevelled
    exact Option.isSome_iff_exists.mpr ⟨zone', hzone'⟩
  · intro h
    refine foldlM_isSome (fun q tzIter hmem => ?_) p
    rw [levelZone]
    split
    · rfl
    case h_2 temp htemp =>
      rw [Option.isSome_map]
      exact h tzIter.1 tzIter.2 temp (Std.ExtTreeMap.mem_toList_iff_getElem?_eq_some.mp hmem) htemp

/-! ### What the actions are given -/

theorem foldl_actionDecision (registered : String → Bool)
    (selected : List (List ProtectorActionItem))
    (decided : ThermalKernelPolicy × List ProtectorActionItem) :
    selected.foldl (actionDecision registered) decided =
      ({ decided.1 with
          executeActionList := decided.1.executeActionList ++
            (selected.flatten.filter fun item => registered item.name).map
              ProtectorActionItem.name },
        decided.2 ++ selected.flatten.filter fun item => registered item.name) := by
  induction selected generalizing decided with
  | nil => simp
  | cons vAction rest ih =>
    rw [List.foldl_cons, ih, actionDecision]
    simp only [List.flatten_cons, List.filter_append, List.map_append, List.append_assoc]

theorem policyDecision_values (registered : String → Bool) (p : ThermalKernelPolicy) :
    (policyDecision registered p).2.1 =
      (p.selected.flatMap LevelAction.vAction).filter fun item => registered item.name := by
  rw [policyDecision, foldl_actionDecision, List.flatMap_def]
  rfl

/-- A policy decision adds to the list of actions to execute and changes nothing else. -/
theorem policyDecision_fst (registered : String → Bool) (p : ThermalKernelPolicy) :
    ∃ executed, (policyDecision registered p).1 = { p with executeActionList := executed } := by
  rw [policyDecision, foldl_actionDecision]
  exact ⟨_, rfl⟩

/-! ### Runs -/

/-- A report reaches the process, if it still runs. -/
def receive (registered : String → Bool) (s : Option ThermalKernelPolicy)
    (typeTempMap : SensorsMap) : Option ThermalKernelPolicy :=
  s.bind fun p => (p.onReceivedSensorsInfo registered typeTempMap).map Prod.fst

variable {registered : String → Bool} {report : SensorsMap}

theorem receive_eq_some_iff : receive registered (some p) report = some p' ↔
    ∃ q, levelDecision { p with typeTempMap := report } = some q ∧
      (policyDecision registered q).1 = p' := by
  rw [receive, Option.bind_some, onReceivedSensorsInfo, Option.map_map, Option.map_eq_some_iff]
  rfl

theorem receive_levelled (h : receive registered (some p) report = some p') (name : String) :
    Levelled report name p p' := by
  obtain ⟨q, hq, rfl⟩ := receive_eq_some_iff.mp h
  obtain ⟨executed, heq⟩ := policyDecision_fst registered q
  rw [heq]
  exact levelDecision_levelled hq name

theorem Levelled.cases (h : Levelled report name p p') :
    (∃ zone temp zone', p.tzInfoMap[name]? = some zone ∧ report[name]? = some temp ∧
      zone.updateThermalLevel temp = some zone' ∧ p'.tzInfoMap[name]? = some zone' ∧
      p'.levelMap[name]? = some ((p.levelMap[name]?).getD zone'.getThermalLevel)) ∨
    ((p.tzInfoMap[name]? = none ∨ report[name]? = none) ∧ SameZone name p p') := by
  rw [Levelled] at h
  split at h
  case h_1 zone temp hzone htemp =>
    obtain ⟨zone', hzone', htz, hlevel⟩ := h
    exact .inl ⟨zone, temp, zone', hzone, htemp, hzone', htz, hlevel⟩
  case h_2 hnone =>
    refine .inr ⟨?_, h⟩
    cases hzone : p.tzInfoMap[name]? with
    | none => exact .inl rfl
    | some zone =>
      refine .inr ?_
      cases htemp : report[name]? with
      | none => rfl
      | some temp => exact (hnone zone temp hzone htemp).elim

/-- Every level in the map is the present level of its zone. -/
def UpToDate (p : ThermalKernelPolicy) : Prop :=
  ∀ (name : String) (zone : ProtectorThermalZoneInfo) (level : Nat),
    p.tzInfoMap[name]? = some zone → p.levelMap[name]? = some level →
      level = zone.getThermalLevel

/-- Either the report ends the process or no zone that has been reported before changes its
level. -/
def Keeps (p : ThermalKernelPolicy) (report : SensorsMap) : Prop :=
  (∃ (name : String) (zone : ProtectorThermalZoneInfo) (temp : Int),
    p.tzInfoMap[name]? = some zone ∧ report[name]? = some temp ∧
      zone.updateThermalLevel temp = none) ∨
  ∀ (name : String) (zone zone' : ProtectorThermalZoneInfo) (temp : Int),
    p.tzInfoMap[name]? = some zone → report[name]? = some temp → name ∈ p.levelMap →
      zone.updateThermalLevel temp = some zone' → zone'.getThermalLevel = zone.getThermalLevel

theorem receive_eq_none_iff : receive registered (some p) report = none ↔
    ∃ (name : String) (zone : ProtectorThermalZoneInfo) (temp : Int),
      p.tzInfoMap[name]? = some zone ∧ report[name]? = some temp ∧
        zone.updateThermalLevel temp = none := by
  rw [receive, Option.bind_some, onReceivedSensorsInfo, Option.map_map, Option.map_eq_none_iff,
    ← Option.not_isSome_iff_eq_none, levelDecision_isSome_iff]
  simp only [not_forall, exists_prop, Bool.not_eq_true, Option.isSome_eq_false_iff,
    Option.isNone_iff_eq_none]

theorem receive_upToDate_iff (h : p.UpToDate)
    (hreceive : receive registered (some p) report = some p') :
    p'.UpToDate ↔ p.Keeps report := by
  have hcompletes : ¬ ∃ (name : String) (zone : ProtectorThermalZoneInfo) (temp : Int),
      p.tzInfoMap[name]? = some zone ∧ report[name]? = some temp ∧
        zone.updateThermalLevel temp = none := by
    rw [← receive_eq_none_iff, hreceive]
    exact Option.some_ne_none p'
  rw [Keeps, or_iff_right hcompletes]
  constructor
  · intro hnext name zone zone' temp hzone htemp hmem hzone'
    rcases (receive_levelled hreceive name).cases with
      ⟨zone₁, temp₁, zone₁', h₁, h₂, h₃, htz, hlevel⟩ | ⟨hnone, -⟩
    · obtain rfl := Option.some.inj (h₁.symm.trans hzone)
      obtain rfl := Option.some.inj (h₂.symm.trans htemp)
      obtain rfl := Option.some.inj (h₃.symm.trans hzone')
      obtain ⟨level, hold⟩ := Option.isSome_iff_exists.mp
        (Std.ExtTreeMap.mem_iff_isSome_getElem?.mp hmem)
      rw [hold, Option.getD_some] at hlevel
      rw [← hnext name _ level htz hlevel, h name _ level hzone hold]
    · rw [hzone, htemp] at hnone
      exact hnone.elim (absurd · (Option.some_ne_none _)) (absurd · (Option.some_ne_none _))
  · intro hkeeps name zone level hzone hlevel
    rcases (receive_levelled hreceive name).cases with
      ⟨zone₁, temp₁, zone₁', h₁, h₂, h₃, htz, hmap⟩ | ⟨-, htz, hmap⟩
    · obtain rfl := Option.some.inj (htz.symm.trans hzone)
      rw [hmap] at hlevel
      obtain rfl := Option.some.inj hlevel
      cases hold : p.levelMap[name]? with
      | none => rfl
      | some level =>
        have hmem : name ∈ p.levelMap :=
          Std.ExtTreeMap.mem_iff_isSome_getElem?.mpr (hold ▸ rfl)
        rw [Option.getD_some, h name _ level h₁ hold, hkeeps name _ _ _ h₁ h₂ hmem h₃]
    · exact h name zone level (htz.symm.trans hzone) (hmap.symm.trans hlevel)

/-! ### What has been reported -/

def Reported (reports : List SensorsMap) (name : String) : Prop := ∃ report ∈ reports, name ∈ report

/-- The map has the present level of every zone that was ever reported. -/
def Current (reports : List SensorsMap) (p : ThermalKernelPolicy) : Prop :=
  ∀ (name : String) (zone : ProtectorThermalZoneInfo), p.tzInfoMap[name]? = some zone →
    Reported reports name → p.levelMap[name]? = some zone.getThermalLevel

/-- The entries selected are those configured for the present levels of reported zones. -/
def SelectsPresent (reports : List SensorsMap) (p : ThermalKernelPolicy) : Prop :=
  ∀ policy, policy ∈ p.selected ↔ policy ∈ p.levelAction ∧
    ∃ zone, p.tzInfoMap[policy.name]? = some zone ∧ Reported reports policy.name ∧
      zone.getThermalLevel = policy.level

/-- The map has entries for the zones that have been reported, and no others. -/
structure Tracked (reports : List SensorsMap) (p : ThermalKernelPolicy) : Prop where
  reported : ∀ (name : String) (zone : ProtectorThermalZoneInfo), p.tzInfoMap[name]? = some zone →
    ((p.levelMap[name]?).isSome ↔ Reported reports name)
  zones : ∀ name : String, (p.levelMap[name]?).isSome → (p.tzInfoMap[name]?).isSome

theorem reported_append {reports : List SensorsMap} :
    Reported (reports ++ [report]) name ↔ Reported reports name ∨ name ∈ report := by
  simp only [Reported, List.mem_append, List.mem_singleton, or_and_right, exists_or,
    exists_eq_left]

theorem Tracked.receive {reports : List SensorsMap} (h : p.Tracked reports)
    (hreceive : receive registered (some p) report = some p') :
    p'.Tracked (reports ++ [report]) := by
  refine ⟨fun name zone hzone => ?_, fun name hlevel => ?_⟩
  · rw [reported_append]
    rcases (receive_levelled hreceive name).cases with
      ⟨zone₁, temp₁, zone₁', h₁, h₂, h₃, htz, hmap⟩ | ⟨hnone, htz, hmap⟩
    · rw [hmap]
      exact iff_of_true rfl
        (.inr (Std.ExtTreeMap.mem_iff_isSome_getElem?.mpr (h₂ ▸ rfl)))
    · rw [htz] at hzone
      have hreport : name ∉ report := by
        rw [hzone] at hnone
        rw [Std.ExtTreeMap.mem_iff_isSome_getElem?,
          hnone.resolve_left (Option.some_ne_none zone)]
        exact Bool.false_ne_true
      rw [hmap, h.reported name zone hzone]
      exact (or_iff_left hreport).symm
  · rcases (receive_levelled hreceive name).cases with
      ⟨zone₁, temp₁, zone₁', h₁, h₂, h₃, htz, hmap⟩ | ⟨-, htz, hmap⟩
    · exact Option.isSome_iff_exists.mpr ⟨zone₁', htz⟩
    · rw [htz]
      rw [hmap] at hlevel
      exact h.zones name hlevel

/-- The policy before the first report. -/
def start (tzInfoMap : ThermalZoneMap) (levelAction : List LevelAction) : ThermalKernelPolicy :=
  { tzInfoMap, levelAction }

theorem start_tracked (tzInfoMap : ThermalZoneMap) (levelAction : List LevelAction) :
    (start tzInfoMap levelAction).Tracked [] where
  reported name zone _ := iff_of_false Bool.false_ne_true (by simp [Reported])
  zones name hlevel := absurd hlevel Bool.false_ne_true

theorem run_tracked {tzInfoMap : ThermalZoneMap} {levelAction : List LevelAction}
    {reports : List SensorsMap}
    (h : reports.foldl (ThermalKernelPolicy.receive registered)
      (some (start tzInfoMap levelAction)) = some p) : p.Tracked reports := by
  induction reports using List.reverseRecOn generalizing p with
  | nil =>
    obtain rfl := Option.some.inj h
    exact start_tracked tzInfoMap levelAction
  | append_singleton before report ih =>
    rw [List.foldl_append] at h
    cases hbefore : before.foldl (ThermalKernelPolicy.receive registered)
        (some (start tzInfoMap levelAction)) with
    | none =>
      rw [hbefore] at h
      exact absurd h.symm (Option.some_ne_none p)
    | some q =>
      rw [hbefore] at h
      exact (ih hbefore).receive h

theorem Tracked.current_iff {reports : List SensorsMap} (h : p.Tracked reports) :
    p.Current reports ∧ p.SelectsPresent reports ↔ p.UpToDate := by
  constructor
  · rintro ⟨hcurrent, -⟩ name zone level hzone hlevel
    have hreported := (h.reported name zone hzone).mp (hlevel ▸ rfl)
    exact Option.some.inj (hlevel.symm.trans (hcurrent name zone hzone hreported))
  · intro hup
    have hcurrent : p.Current reports := by
      intro name zone hzone hreported
      obtain ⟨level, hlevel⟩ :=
        Option.isSome_iff_exists.mp ((h.reported name zone hzone).mpr hreported)
      rw [hlevel, hup name zone level hzone hlevel]
    refine ⟨hcurrent, fun policy => ?_⟩
    rw [selected, List.mem_filter, beq_iff_eq]
    refine and_congr_right fun _ => ⟨fun hlevel => ?_, ?_⟩
    · obtain ⟨zone, hzone⟩ := Option.isSome_iff_exists.mp (h.zones policy.name (hlevel ▸ rfl))
      exact ⟨zone, hzone, (h.reported _ zone hzone).mp (hlevel ▸ rfl),
        (hup _ zone _ hzone hlevel).symm⟩
    · rintro ⟨zone, hzone, hreported, hlevel⟩
      rw [hcurrent _ zone hzone hreported, hlevel]

/-! ### Current levels -/

/-- A process that has ended has no levels to keep. -/
def KeepsLevels : Option ThermalKernelPolicy → SensorsMap → Prop
  | none, _ => True
  | some p, report => p.Keeps report

/-- After every level decision the map has the present levels and exactly the actions configured for
them are selected, for as long as no zone that has been reported before changes its level. -/
theorem current_levels_iff (registered : String → Bool) (tzInfoMap : ThermalZoneMap)
    (levelAction : List LevelAction) (reports : List SensorsMap) :
    (∀ before, before <+: reports → ∀ p,
      before.foldl (receive registered) (some (start tzInfoMap levelAction)) = some p →
        p.Current before ∧ p.SelectsPresent before) ↔
      Enabled KeepsLevels (receive registered) (some (start tzInfoMap levelAction)) reports := by
  have hgood : Always (receive registered) (fun s => ∀ p, s = some p → p.UpToDate)
      (some (start tzInfoMap levelAction)) reports ↔
        Enabled KeepsLevels (receive registered) (some (start tzInfoMap levelAction)) reports := by
    refine always_iff_enabled_of_step _ (fun s report hs => ?_) ?_ reports
    · cases s with
      | none => exact iff_of_true (fun p hp => absurd hp.symm (Option.some_ne_none p)) trivial
      | some p =>
        cases hreceive : receive registered (some p) report with
        | none =>
          exact iff_of_true (fun p' hp => absurd hp.symm (Option.some_ne_none p'))
            (.inl (receive_eq_none_iff.mp hreceive))
        | some p' =>
          rw [KeepsLevels, ← receive_upToDate_iff (hs p rfl) hreceive]
          exact ⟨fun h => h p' rfl, fun h q hq => Option.some.inj hq ▸ h⟩
    · rintro p hp name zone level - hlevel
      obtain rfl := Option.some.inj hp
      exact absurd hlevel.symm (Option.some_ne_none level)
  rw [← hgood]
  refine forall₂_congr fun before _ => forall₂_congr fun p hp => ?_
  exact (run_tracked hp).current_iff

/-- A zone that warms up between two reports. -/
def warmingZone : ThermalZoneMap :=
  (∅ : ThermalZoneMap).insert "soc-thermal"
    { path := "tz0", interval := 2000, multiple := 1, tzItemList := [⟨1, 35000, 32000⟩] }

def warmingReports : List SensorsMap :=
  [(∅ : SensorsMap).insert "soc-thermal" 30000, (∅ : SensorsMap).insert "soc-thermal" 36000]

/-- The zone is on level one and the map still says zero. -/
theorem warmingZone_level_outdated :
    ¬ ∀ (registered : String → Bool) (tzInfoMap : ThermalZoneMap) (levelAction : List LevelAction)
      (reports before : List SensorsMap), before <+: reports → ∀ p,
      before.foldl (receive registered) (some (start tzInfoMap levelAction)) = some p →
        p.Current before ∧ p.SelectsPresent before := by
  intro h
  let run := warmingReports.foldl (receive fun _ => true) (some (start warmingZone []))
  have hzone : (run.bind fun p => p.tzInfoMap["soc-thermal"]?) =
      some ⟨false, "tz0", 1, 2000, 1, [⟨1, 35000, 32000⟩]⟩ := by decide
  have hlevel : (run.bind fun p => p.levelMap["soc-thermal"]?) = some 0 := by decide
  obtain ⟨p, hp, hzone⟩ := Option.bind_eq_some_iff.mp hzone
  rw [hp] at hlevel
  have hcurrent := (h _ warmingZone [] warmingReports _ (List.prefix_refl _) p hp).1
    "soc-thermal" _ hzone ⟨_, List.mem_cons_self, Std.ExtTreeMap.mem_insert_self⟩
  exact absurd (Option.some.inj (hlevel.symm.trans hcurrent)) (by decide)

end ThermalKernelPolicy

end ThermalManager
