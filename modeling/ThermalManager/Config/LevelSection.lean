import ThermalManager.Config.SectionParser
import ThermalManager.Policy.LevelSafety

/-!
# The clusters of an accepted level section

What the level engine relies on is what the parser checks: a cluster that comes out of an accepted
level section is an accepted cluster at level zero.
-/

namespace ThermalManager

/-- No sensor is without items, and no update was made. -/
structure Filled (sc : ThermalConfigSensorCluster) : Prop where
  sensors : ∀ (name : String) (items : List LevelItem), sc.sensorInfolist[name]? = some items →
    items ≠ []
  aux : ∀ (name : String) (items : List AuxLevelItem), sc.auxSensorInfolist[name]? = some items →
    items ≠ []
  level : sc.latestLevel = 0

variable {conv : Conversions} {uninit : Uninit} {cur : XmlNode}
  {sc sc' : ThermalConfigSensorCluster}

theorem filled_empty : Filled {} := ⟨by simp, by simp, rfl⟩

theorem Filled.parseLevelState (h : Filled sc) (hread : parseLevelState cur sc = .ok sc') :
    Filled sc' := by
  refine Parsed.foldlM_invariant Filled ?_ h hread
  intro sc sc' subNode h hstep
  split at hstep
  · cases hstep
    exact h
  · refine Parsed.foldlM_invariant Filled ?_ h hstep
    intro sc sc' levStateProp h hstep
    obtain ⟨propValue, -, hstep⟩ := Parsed.bind_eq_ok.mp hstep
    cases hstep
    exact ⟨h.sensors, h.aux, h.level⟩

theorem ne_nil_insertIfNew {β : Type} {entries : Map String (List β)} {items : List β}
    (h : ∀ (name : String) (items : List β), entries[name]? = some items → items ≠ [])
    (hitems : ¬ items.isEmpty = true) (name : String) :
    ∀ (name' : String) (items' : List β),
      (entries.insertIfNew name items)[name']? = some items' → items' ≠ [] := by
  intro name' items' hlookup
  rw [Std.ExtTreeMap.getElem?_insertIfNew] at hlookup
  split at hlookup
  · cases hlookup
    exact fun hnil => hitems (List.isEmpty_iff.mpr hnil)
  · exact h name' items' hlookup

theorem Filled.parseAuxSensorInfo (h : Filled sc)
    (hread : parseAuxSensorInfo conv uninit cur sc = .ok sc') : Filled sc' := by
  rw [ThermalManager.parseAuxSensorInfo] at hread
  split at hread
  · cases hread
    exact h
  · obtain ⟨auxsensors, -, hread⟩ := Parsed.bind_eq_ok.mp hread
    obtain ⟨auxSensorLevelInfo, hloop, hread⟩ := Parsed.bind_eq_ok.mp hread
    cases hread
    refine ⟨h.sensors, ?_, h.level⟩
    refine Parsed.foldlM_invariant (fun entries : AuxSensorInfoMap =>
      ∀ (name : String) (items : List AuxLevelItem), entries[name]? = some items → items ≠ [])
      ?_ (by simp) hloop
    intro entries entries' sensor hentries hstep
    split at hstep
    · cases hstep
    · obtain ⟨auxLevelItems, -, hstep⟩ := Parsed.bind_eq_ok.mp hstep
      split at hstep
      · cases hstep
      · rename_i hitems
        cases hstep
        exact ne_nil_insertIfNew hentries hitems sensor.1

theorem Filled.parseSensorInfo (h : Filled sc)
    (hread : parseSensorInfo conv uninit cur sc = .ok sc') : Filled sc' := by
  rw [ThermalManager.parseSensorInfo] at hread
  obtain ⟨xmlSensor, -, hread⟩ := Parsed.bind_eq_ok.mp hread
  obtain ⟨sensors, -, hread⟩ := Parsed.bind_eq_ok.mp hread
  split at hread
  · cases hread
  · obtain ⟨read, hloop, hread⟩ := Parsed.bind_eq_ok.mp hread
    cases hread
    refine ⟨?_, h.aux, h.level⟩
    refine Parsed.foldlM_invariant (fun read : SensorInfoMap × Bool =>
      ∀ (name : String) (items : List LevelItem), read.1[name]? = some items → items ≠ [])
      ?_ (by simp) hloop
    intro read read' sensor hentries hstep
    obtain ⟨levelInfo, -, hstep⟩ := Parsed.bind_eq_ok.mp hstep
    split at hstep
    · cases hstep
    · rename_i hitems
      cases hstep
      exact ne_nil_insertIfNew hentries hitems sensor.1

theorem Filled.parseTempDiffInfo (h : Filled sc)
    (hread : parseTempDiffInfo conv cur sc = .ok sc') : Filled sc' := by
  rw [ThermalManager.parseTempDiffInfo] at hread
  split at hread
  · cases hread
    exact h
  · obtain ⟨sensors, -, hread⟩ := Parsed.bind_eq_ok.mp hread
    split at hread
    · obtain ⟨infoList, -, hread⟩ := Parsed.bind_eq_ok.mp hread
      cases hread
      exact ⟨h.sensors, h.aux, h.level⟩
    · cases hread

theorem parseSensorCluster_accepted (hread : parseSensorCluster conv uninit cur = .ok sc) :
    sc.Accepted ∧ sc.latestLevel = 0 := by
  rw [parseSensorCluster] at hread
  obtain ⟨sc₁, hstate, hread⟩ := Parsed.bind_eq_ok.mp hread
  obtain ⟨sc₂, haux, hread⟩ := Parsed.bind_eq_ok.mp hread
  obtain ⟨sc₃, hsensor, hread⟩ := Parsed.bind_eq_ok.mp hread
  obtain ⟨sc₄, htempDiff, hread⟩ := Parsed.bind_eq_ok.mp hread
  have h : Filled sc₄ := (((filled_empty.parseLevelState hstate).parseAuxSensorInfo
    haux).parseSensorInfo hsensor).parseTempDiffInfo htempDiff
  dsimp only at hread
  split at hread
  · rename_i hstandard
    cases hread
    exact ⟨⟨hstandard, h.sensors, h.aux⟩, h.level⟩
  · cases hread

/-- The clusters of an accepted level section are accepted, and at level zero. -/
theorem parseLevelNode_accepted {node : XmlNode} {msc : SensorClusterMap}
    (hread : parseLevelNode conv uninit node = .ok msc) :
    ∀ (name : String) (sc : ThermalConfigSensorCluster), msc[name]? = some sc →
      sc.Accepted ∧ sc.latestLevel = 0 := by
  refine Parsed.foldlM_invariant (fun msc : SensorClusterMap =>
    ∀ (name : String) (sc : ThermalConfigSensorCluster), msc[name]? = some sc →
      sc.Accepted ∧ sc.latestLevel = 0) ?_ (by simp) hread
  intro msc msc' cur h hstep
  split at hstep
  · cases hstep
    exact h
  · obtain ⟨name, -, hstep⟩ := Parsed.bind_eq_ok.mp hstep
    obtain ⟨sc, hcluster, hstep⟩ := Parsed.bind_eq_ok.mp hstep
    cases hstep
    intro name' sc' hlookup
    rw [Std.ExtTreeMap.getElem?_insertIfNew] at hlookup
    split at hlookup
    · cases hlookup
      exact parseSensorCluster_accepted hcluster
    · exact h name' sc' hlookup

end ThermalManager
