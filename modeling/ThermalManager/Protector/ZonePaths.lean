import ThermalManager.Protector.KernelConfig

/-!
# The files of the thermal zones

`thermal_sensor_provision.cpp` and the sections that `thermal_kernel_config_file.cpp` reads: the
provision goes through the directory of the thermal zones, reads the type of each and gives every
configured zone the temperature file of the first zone with its name as the type. What is reported
for a zone was read from that file.
-/

namespace ThermalManager

/-! ### The directory of the zones -/

/-- `isDirectory` holds for links as well. -/
structure DirEntry where
  name : String
  isDirectory : Bool
  deriving DecidableEq

/-- What the process finds under `/sys`: the entries of the directory if it can be opened, what
scanning a name for the number of a zone returns, and what reading a file gives. -/
structure ThermalSysfs where
  dir : Option (List DirEntry)
  scan : String → Int
  readSysfsFile : String → Option String

namespace ThermalSensorProvision

def maxSysfsSize : Nat := 128

def thermalTemperaturePath (name : String) : String := "/sys/class/thermal/" ++ name ++ "/temp"

def thermalTypePath (name : String) : String := "/sys/class/thermal/" ++ name ++ "/type"

def isZoneEntry (entry : DirEntry) : Bool :=
  !(entry.name == "." || entry.name == "..") &&
    !("cooling_device".toList.isPrefixOf entry.name.toList) && entry.isDirectory

/-- The loop over the entries with `index` zones found. A name that ends where the scan expects a
number ends the loop with an error, too many zones end it without. -/
def collectZones (scan : String → Int) : Nat → List DirEntry → Option (List String)
  | _, [] => some []
  | index, entry :: entries =>
      if isZoneEntry entry then
        if scan entry.name < 0 then none
        else if index > maxSysfsSize then some []
        else (collectZones scan (index + 1) entries).map (entry.name :: ·)
      else collectZones scan index entries

def initThermalZoneSysfs (sysfs : ThermalSysfs) : Option (List String) :=
  sysfs.dir.bind (collectZones sysfs.scan 0)

/-- One zone of the loop over the types; a type that is there already keeps its first path. -/
def readType (readSysfsFile : String → Option String) (tzPathMap : Map String String)
    (name : String) : Option (Map String String) :=
  (readSysfsFile (thermalTypePath name)).map fun tzType =>
    tzPathMap.insertIfNew tzType (thermalTemperaturePath name)

def tzPathMap (sysfs : ThermalSysfs) : Option (Map String String) :=
  (initThermalZoneSysfs sysfs).bind fun names => names.foldlM (readType sysfs.readSysfsFile) ∅

def setPath (tzPathMap : Map String String) (name : String) (zone : ProtectorThermalZoneInfo) :
    ProtectorThermalZoneInfo :=
  match tzPathMap[name]? with
  | none => zone
  | some path => { zone with path }

/-- The zones with their paths. Where a step before fails, no zone gets one. -/
def parseThermalZoneInfo (sysfs : ThermalSysfs) (tzInfoMap : ThermalZoneMap) : ThermalZoneMap :=
  match tzPathMap sysfs with
  | none => tzInfoMap
  | some tzPathMap => tzInfoMap.map (setPath tzPathMap)

end ThermalSensorProvision

namespace ThermalKernelConfigFile

variable (conv : Conversions) (uninit : KernelUninit)

/-- One section of the file; the base section is not read by the policy. -/
def parseSection (read : ThermalKernelPolicy × List LevelAction) (node : XmlNode) :
    ThermalKernelPolicy × List LevelAction :=
  if node.name == "base" then read
  else if node.name == "control" then parseControlNode conv uninit read.1 read.2 node
  else read

def parseThermalKernelXML (root : XmlNode) : ThermalKernelPolicy :=
  (root.xmlChildrenNode.foldl (parseSection conv uninit)
    ({ tzInfoMap := ∅, levelAction := [] }, [])).1

end ThermalKernelConfigFile

/-! ### Where a temperature comes from -/

section Report

variable {read : String → Option String} {reportTime : Int} {name : String} {temp : Int}

/-- The temperature was read from the file of the zone, which was due. -/
def SampledFrom (read : String → Option String) (reportTime : Int)
    (zone : ProtectorThermalZoneInfo) (temp : Int) : Prop :=
  zone.multiple ∣ reportTime ∧ zone.path ≠ "" ∧ (read zone.path).bind stoi = some temp

theorem reportZone_sampled {report report' : SensorsMap × List Int}
    {sensorIter : String × ProtectorThermalZoneInfo}
    (hzone : reportZone read reportTime report sensorIter = some report')
    (h : report'.1[name]? = some temp) :
    report.1[name]? = some temp ∨
      sensorIter.1 = name ∧ SampledFrom read reportTime sensorIter.2 temp := by
  dsimp only [reportZone] at hzone
  split_ifs at hzone with hzero hdue hpath
  · obtain rfl := Option.some.inj hzone
    exact .inl h
  · obtain rfl := Option.some.inj hzone
    exact .inl h
  · cases hread : read sensorIter.2.path with
    | none =>
      rw [hread] at hzone
      obtain rfl := Option.some.inj hzone
      exact .inl h
    | some tempBuf =>
      rw [hread] at hzone
      obtain ⟨sampled, hstoi, rfl⟩ := Option.map_eq_some_iff.mp hzone
      replace h : (report.1.insertIfNew sensorIter.1 sampled)[name]? = some temp := h
      rw [Std.ExtTreeMap.getElem?_insertIfNew] at h
      split at h
      case isTrue hnew =>
        obtain rfl := Option.some.inj h
        exact .inr ⟨Std.LawfulEqOrd.eq_of_compare hnew.1, Int.dvd_iff_tmod_eq_zero.mpr hdue,
          hpath, Option.bind_eq_some_iff.mpr ⟨tempBuf, hread, hstoi⟩⟩
      case isFalse => exact .inl h
  · obtain rfl := Option.some.inj hzone
    exact .inl h

theorem foldlM_reportZone_sampled {sensors : List (String × ProtectorThermalZoneInfo)}
    {report report' : SensorsMap × List Int}
    (hpass : sensors.foldlM (reportZone read reportTime) report = some report')
    (h : report'.1[name]? = some temp) :
    report.1[name]? = some temp ∨
      ∃ zone, (name, zone) ∈ sensors ∧ SampledFrom read reportTime zone temp := by
  induction sensors generalizing report with
  | nil =>
    obtain rfl := Option.some.inj hpass
    exact .inl h
  | cons sensorIter rest ih =>
    rw [List.foldlM_cons] at hpass
    obtain ⟨first, hfirst, hrest⟩ := Option.bind_eq_some_iff.mp hpass
    rcases ih hrest with hbefore | ⟨zone, hmem, hsampled⟩
    · rcases reportZone_sampled hfirst hbefore with hbefore | ⟨rfl, hsampled⟩
      · exact .inl hbefore
      · exact .inr ⟨sensorIter.2, List.mem_cons_self, hsampled⟩
    · exact .inr ⟨zone, List.mem_cons_of_mem _ hmem, hsampled⟩

theorem reportThermalZoneData_sampled {tzInfoMap : ThermalZoneMap}
    {report : SensorsMap × List Int}
    (hpass : reportThermalZoneData read tzInfoMap reportTime = some report)
    (h : report.1[name]? = some temp) :
    ∃ zone, tzInfoMap[name]? = some zone ∧ SampledFrom read reportTime zone temp := by
  rcases foldlM_reportZone_sampled hpass h with hempty | ⟨zone, hmem, hsampled⟩
  · rw [Std.ExtTreeMap.getElem?_empty] at hempty
    cases hempty
  · exact ⟨zone, Std.ExtTreeMap.mem_toList_iff_getElem?_eq_some.mp hmem, hsampled⟩

end Report

namespace ThermalSensorProvision

variable {sysfs : ThermalSysfs} {name path : String}

/-- The file is the temperature of a directory entry whose type is the name. -/
def OwnFile (sysfs : ThermalSysfs) (name path : String) : Prop :=
  ∃ entries entry, sysfs.dir = some entries ∧ entry ∈ entries ∧ isZoneEntry entry ∧
    sysfs.readSysfsFile (thermalTypePath entry.name) = some name ∧
    path = thermalTemperaturePath entry.name

theorem collectZones_mem {scan : String → Int} {index : Nat} {entries : List DirEntry}
    {names : List String} (h : collectZones scan index entries = some names)
    (hname : name ∈ names) : ∃ entry ∈ entries, isZoneEntry entry ∧ entry.name = name := by
  induction entries generalizing index names with
  | nil =>
    obtain rfl := Option.some.inj h
    cases hname
  | cons entry entries ih =>
    rw [collectZones] at h
    split_ifs at h with hzone hscan hmany
    · obtain rfl := Option.some.inj h
      cases hname
    · obtain ⟨others, hothers, rfl⟩ := Option.map_eq_some_iff.mp h
      rcases List.mem_cons.mp hname with rfl | hname
      · exact ⟨entry, List.mem_cons_self, hzone, rfl⟩
      · obtain ⟨other, hmem, hother⟩ := ih hothers hname
        exact ⟨other, List.mem_cons_of_mem _ hmem, hother⟩
    · obtain ⟨other, hmem, hother⟩ := ih h hname
      exact ⟨other, List.mem_cons_of_mem _ hmem, hother⟩

theorem foldlM_readType {readSysfsFile : String → Option String} {names : List String}
    {before after : Map String String}
    (h : names.foldlM (readType readSysfsFile) before = some after)
    (hpath : after[name]? = some path) : before[name]? = some path ∨
      ∃ zone ∈ names, readSysfsFile (thermalTypePath zone) = some name ∧
        path = thermalTemperaturePath zone := by
  induction names generalizing before with
  | nil =>
    obtain rfl := Option.some.inj h
    exact .inl hpath
  | cons zone names ih =>
    obtain ⟨mid, hmid, hrest⟩ := Option.bind_eq_some_iff.mp ((List.foldlM_cons ..).symm.trans h)
    rcases ih hrest with hbefore | ⟨other, hmem, hother⟩
    · obtain ⟨tzType, htype, rfl⟩ := Option.map_eq_some_iff.mp hmid
      rw [Std.ExtTreeMap.getElem?_insertIfNew] at hbefore
      split at hbefore
      case isTrue hnew =>
        obtain rfl := Option.some.inj hbefore
        obtain rfl := Std.LawfulEqOrd.eq_of_compare hnew.1
        exact .inr ⟨zone, List.mem_cons_self, htype, rfl⟩
      case isFalse => exact .inl hbefore
    · exact .inr ⟨other, List.mem_cons_of_mem _ hmem, hother⟩

theorem tzPathMap_own {paths : Map String String} (h : tzPathMap sysfs = some paths)
    (hpath : paths[name]? = some path) : OwnFile sysfs name path := by
  obtain ⟨names, hnames, hread⟩ := Option.bind_eq_some_iff.mp h
  obtain ⟨entries, hdir, hcollect⟩ := Option.bind_eq_some_iff.mp hnames
  rcases foldlM_readType hread hpath with hempty | ⟨zone, hmem, htype, hfile⟩
  · rw [Std.ExtTreeMap.getElem?_empty] at hempty
    cases hempty
  · obtain ⟨entry, hentry, hzone, rfl⟩ := collectZones_mem hcollect hmem
    exact ⟨entries, entry, hdir, hentry, hzone, htype, hfile⟩

theorem parseThermalZoneInfo_path {tzInfoMap : ThermalZoneMap} {zone : ProtectorThermalZoneInfo}
    (hpaths : ∀ (name : String) (zone : ProtectorThermalZoneInfo),
      tzInfoMap[name]? = some zone → zone.path = "")
    (hzone : (parseThermalZoneInfo sysfs tzInfoMap)[name]? = some zone) (hne : zone.path ≠ "") :
    OwnFile sysfs name zone.path := by
  rw [parseThermalZoneInfo] at hzone
  cases hmap : tzPathMap sysfs with
  | none =>
    rw [hmap] at hzone
    exact absurd (hpaths name zone hzone) hne
  | some paths =>
    rw [hmap] at hzone
    replace hzone : (tzInfoMap.map (setPath paths))[name]? = some zone := hzone
    rw [Std.ExtTreeMap.getElem?_map] at hzone
    obtain ⟨configured, hconfigured, rfl⟩ := Option.map_eq_some_iff.mp hzone
    cases hpath : paths[name]? with
    | none =>
      rw [setPath, hpath] at hne
      exact absurd (hpaths name configured hconfigured) hne
    | some path =>
      rw [setPath, hpath]
      exact tzPathMap_own hmap hpath

end ThermalSensorProvision

namespace ThermalKernelConfigFile

variable {conv : Conversions} {uninit : KernelUninit}

/-- The zone is as the parser leaves it. -/
def Fresh (zone : ProtectorThermalZoneInfo) : Prop := zone.latestLevel = 0 ∧ zone.path = ""

theorem foldl_parseZoneNode_fresh (zones : List XmlNode) (read : ThermalZoneMap × List LevelAction)
    (hread : ∀ (name : String) (zone : ProtectorThermalZoneInfo), read.1[name]? = some zone →
      Fresh zone) (name : String) (zone : ProtectorThermalZoneInfo)
    (hzone : (zones.foldl (parseZoneNode conv uninit) read).1[name]? = some zone) :
    Fresh zone := by
  induction zones generalizing read with
  | nil => exact hread name zone hzone
  | cons cur zones ih =>
    refine ih (parseZoneNode conv uninit read cur) (fun other zone hother => ?_) hzone
    rw [parseZoneNode, Std.ExtTreeMap.getElem?_insertIfNew] at hother
    split at hother
    · obtain rfl := Option.some.inj hother
      exact ⟨rfl, rfl⟩
    · exact hread other zone hother

theorem not_fresh_empty {name : String} {zone : ProtectorThermalZoneInfo}
    (h : (∅ : ThermalZoneMap)[name]? = some zone) : Fresh zone := by
  rw [Std.ExtTreeMap.getElem?_empty] at h
  cases h

theorem foldl_parseSection_fresh (nodes : List XmlNode)
    (read : ThermalKernelPolicy × List LevelAction)
    (hread : ∀ (name : String) (zone : ProtectorThermalZoneInfo),
      read.1.tzInfoMap[name]? = some zone → Fresh zone) (name : String)
    (zone : ProtectorThermalZoneInfo)
    (hzone : (nodes.foldl (parseSection conv uninit) read).1.tzInfoMap[name]? = some zone) :
    Fresh zone := by
  induction nodes generalizing read with
  | nil => exact hread name zone hzone
  | cons node nodes ih =>
    refine ih (parseSection conv uninit read node) (fun other zone hother => ?_) hzone
    rw [parseSection] at hother
    split_ifs at hother
    · exact hread other zone hother
    · exact foldl_parseZoneNode_fresh node.xmlChildrenNode (∅, read.2)
        (fun _ _ => not_fresh_empty) other zone hother
    · exact hread other zone hother

theorem parseThermalKernelXML_fresh (root : XmlNode) (name : String)
    (zone : ProtectorThermalZoneInfo)
    (hzone : (parseThermalKernelXML conv uninit root).tzInfoMap[name]? = some zone) :
    Fresh zone :=
  foldl_parseSection_fresh root.xmlChildrenNode _ (fun _ _ => not_fresh_empty) name zone hzone

/-- The file gives the zones and the entries; the rest of the policy is as it was made. -/
theorem parseThermalKernelXML_eq (root : XmlNode) : ∃ tzInfoMap levelAction,
    parseThermalKernelXML conv uninit root = { tzInfoMap, levelAction } := by
  suffices h : ∀ (nodes : List XmlNode) (read : ThermalKernelPolicy × List LevelAction),
      ∃ tzInfoMap levelAction, (nodes.foldl (parseSection conv uninit) read).1 =
        { read.1 with tzInfoMap, levelAction } from
    h root.xmlChildrenNode ({ tzInfoMap := ∅, levelAction := [] }, [])
  intro nodes
  induction nodes with
  | nil => exact fun read => ⟨_, _, rfl⟩
  | cons node nodes ih =>
    intro read
    rw [List.foldl_cons]
    obtain ⟨tzInfoMap, levelAction, heq⟩ := ih (parseSection conv uninit read node)
    refine ⟨tzInfoMap, levelAction, heq.trans ?_⟩
    rw [parseSection]
    split_ifs <;> rfl

end ThermalKernelConfigFile

theorem setMultiples_zone {tzInfoMap : ThermalZoneMap} {name : String}
    {zone : ProtectorThermalZoneInfo} (hzone : (setMultiples tzInfoMap)[name]? = some zone) :
    ∃ configured multiple, tzInfoMap[name]? = some configured ∧
      zone = { configured with multiple } := by
  by_cases hcd : calculateMaxCd tzInfoMap = 0
  · rw [setMultiples, hcd, if_pos rfl] at hzone
    exact ⟨zone, zone.multiple, hzone, rfl⟩
  · rw [ThermalProtectorTimer.setMultiples_eq hcd, Std.ExtTreeMap.getElem?_map] at hzone
    obtain ⟨configured, hconfigured, rfl⟩ := Option.map_eq_some_iff.mp hzone
    exact ⟨configured, _, hconfigured, rfl⟩

end ThermalManager
