import ThermalManager.Protector.DeviceControl
import ThermalManager.Protector.ZonePaths

/-!
# The life of the protector process

`thermal_kernel_service.cpp` and the loop of `thermal_protector_timer.cpp`. The process reads its
configuration, gives every zone the file of its temperature and then waits for its timer. The loop
returns when it has been woken twice, so a zone that is not due at one of the first two ticks is
never sampled.
-/

namespace ThermalManager

open StepSystem

namespace ThermalKernelService

def onReceivedSensorsInfo (s : ThermalKernelService) (typeTempMap : SensorsMap) :
    Option ThermalKernelService :=
  (ThermalKernelPolicy.levelDecision { s.policy with typeTempMap }).map fun policy =>
    { s with policy }.policyDecision

end ThermalKernelService

/-! ### The process -/

structure ProtectorProcess where
  timer : ThermalProtectorTimer := {}
  timeCount : Nat := 0
  service : ThermalKernelService

/-- What `epoll_wait` returns with: an error, or the timer, whose descriptor can be read or not.
`read` is the text of the file at a path, if it can be read. -/
inductive Wake
  | interrupted
  | fired (readable : Bool) (read : String → Option String)

namespace Wake

def isFired : Wake → Bool
  | interrupted => false
  | fired .. => true

end Wake

namespace ProtectorProcess

def endTime : Nat := 2

def vendorThermalKernelConfigPath : String :=
  "/vendor/etc/thermal_config/thermal_kernel_config.xml"

def systemThermalKernelConfigPath : String :=
  "/system/etc/thermal_config/thermal_kernel_config.xml"

/-- The file that is read; `oneCfgFile` is the path that the configuration policy gives, which has
to be readable if there is one. -/
def configFile (oneCfgFile : Option String) (files : String → XmlFile) : XmlFile :=
  match oneCfgFile.filter fun path => path ≠ "" with
  | some path => files path
  | none => (files vendorThermalKernelConfigPath).or (files systemThermalKernelConfigPath)

/-- The process when `Init` starts the timer. There is none if no configuration can be read, and
none if it has no level with actions, where `Init` of the device control fails. -/
def init (conv : Conversions) (uninit : KernelUninit) (oneCfgFile : Option String)
    (files : String → XmlFile) (sysfs : ThermalSysfs) : Option ProtectorProcess :=
  (configFile oneCfgFile files).bind fun root =>
    let policy := ThermalKernelConfigFile.parseThermalKernelXML conv uninit root
    let tzInfoMap := setMultiples policy.tzInfoMap
    if policy.levelAction.isEmpty then none
    else some
      { service :=
          { policy := { policy with
              tzInfoMap := ThermalSensorProvision.parseThermalZoneInfo sysfs tzInfoMap }
            control := ThermalDeviceControl.init policy.levelAction } }

def tzInfoMap (s : ProtectorProcess) : ThermalZoneMap := s.service.policy.tzInfoMap

/-- The timer samples and the policy is notified. A file without a number ends the process, and so
does a zone that fails. -/
def timerProvisionCallback (s : ProtectorProcess) (read : String → Option String) :
    Option ProtectorProcess := do
  let timer ← s.timer.timerProvisionCallback read s.tzInfoMap
  let service ← s.service.onReceivedSensorsInfo timer.typeTempMap
  some { s with timer, service }

def wake (s : ProtectorProcess) : Wake → Option ProtectorProcess
  | .interrupted => some s
  | .fired readable read =>
      (if readable then s.timerProvisionCallback read else some s).map fun s =>
        { s with timeCount := s.timeCount + 1 }

/-- One turn of the loop; a loop that has returned is not woken any more. -/
def turn (s : ProtectorProcess) (w : Wake) : Option ProtectorProcess :=
  if s.timeCount = endTime then some s else s.wake w

def loopingThreadEntry (s : ProtectorProcess) (wakes : List Wake) : Option ProtectorProcess :=
  wakes.foldlM turn s

end ProtectorProcess

/-! ### What a tick changes -/

namespace ThermalKernelPolicy

variable {p p' : ThermalKernelPolicy} {name : String}

theorem levelDecision_frame (h : p.levelDecision = some p') :
    p'.typeTempMap = p.typeTempMap ∧ p'.levelAction = p.levelAction ∧
      p'.executeActionList = p.executeActionList := by
  refine foldlM_invariant (fun q : ThermalKernelPolicy => q.typeTempMap = p.typeTempMap ∧
    q.levelAction = p.levelAction ∧ q.executeActionList = p.executeActionList)
    (fun q tzIter q' _ hq hturn => ?_) ⟨rfl, rfl, rfl⟩ h
  rw [levelZone] at hturn
  split at hturn
  · obtain rfl := Option.some.inj hturn
    exact hq
  · obtain ⟨zone, -, rfl⟩ := Option.map_eq_some_iff.mp hturn
    exact hq

theorem levelDecision_unreported (h : p.levelDecision = some p')
    (hname : p.typeTempMap[name]? = none) : SameZone name p p' := by
  rcases (levelDecision_levelled h name).cases with ⟨_, temp, _, _, htemp, -⟩ | ⟨-, hsame⟩
  · rw [hname] at htemp
    cases htemp
  · exact hsame

theorem levelDecision_zone (h : p.levelDecision = some p') {zone' : ProtectorThermalZoneInfo}
    (hzone' : p'.tzInfoMap[name]? = some zone') : ∃ zone, p.tzInfoMap[name]? = some zone ∧
      zone' = { zone with latestLevel := zone'.latestLevel } := by
  rcases (levelDecision_levelled h name).cases with
    ⟨zone, temp, next, hzone, -, hnext, htz, -⟩ | ⟨-, htz, -⟩
  · obtain rfl := Option.some.inj (htz.symm.trans hzone')
    obtain ⟨level, -, rfl⟩ := Option.map_eq_some_iff.mp hnext
    exact ⟨zone, hzone, rfl⟩
  · exact ⟨zone', htz.symm.trans hzone', rfl⟩

theorem given_eq_nil (h : ∀ policy ∈ p.levelAction,
    (∃ item ∈ policy.vAction, item.name = name) → p.levelMap[policy.name]? = none) :
    p.given name = [] := by
  rw [given, List.map_eq_nil_iff, List.filter_eq_nil_iff]
  intro item hitem hname
  obtain ⟨policy, hpolicy, hmem⟩ := List.mem_flatMap.mp hitem
  obtain ⟨hconfigured, hlevel⟩ := List.mem_filter.mp hpolicy
  rw [h policy hconfigured ⟨item, hmem, of_decide_eq_true hname⟩] at hlevel
  cases hlevel

end ThermalKernelPolicy

namespace ThermalKernelService

variable {s s' : ThermalKernelService} {report : SensorsMap} {name : String}

theorem onReceivedSensorsInfo_cases (h : s.onReceivedSensorsInfo report = some s') :
    ∃ policy, ThermalKernelPolicy.levelDecision { s.policy with typeTempMap := report } =
      some policy ∧ s' = { s with policy }.policyDecision := by
  obtain ⟨policy, hpolicy, rfl⟩ := Option.map_eq_some_iff.mp h
  exact ⟨policy, hpolicy, rfl⟩

theorem onReceivedSensorsInfo_policy (h : s.onReceivedSensorsInfo report = some s') :
    ∃ policy executed,
      ThermalKernelPolicy.levelDecision { s.policy with typeTempMap := report } = some policy ∧
      s'.policy = { policy with executeActionList := executed } := by
  obtain ⟨policy, hpolicy, rfl⟩ := onReceivedSensorsInfo_cases h
  obtain ⟨executed, hexecuted⟩ :=
    ThermalKernelPolicy.policyDecision_fst ({ s with policy } : ThermalKernelService).registered
      policy
  exact ⟨policy, executed, hpolicy, hexecuted⟩

theorem onReceivedSensorsInfo_typeTempMap (h : s.onReceivedSensorsInfo report = some s') :
    s'.policy.typeTempMap = report := by
  obtain ⟨policy, executed, hpolicy, heq⟩ := onReceivedSensorsInfo_policy h
  rw [heq]
  exact (ThermalKernelPolicy.levelDecision_frame hpolicy).1

theorem onReceivedSensorsInfo_levelAction (h : s.onReceivedSensorsInfo report = some s') :
    s'.policy.levelAction = s.policy.levelAction := by
  obtain ⟨policy, executed, hpolicy, heq⟩ := onReceivedSensorsInfo_policy h
  rw [heq]
  exact (ThermalKernelPolicy.levelDecision_frame hpolicy).2.1

theorem onReceivedSensorsInfo_unreported (h : s.onReceivedSensorsInfo report = some s')
    (hname : report[name]? = none) : ThermalKernelPolicy.SameZone name s.policy s'.policy := by
  obtain ⟨policy, executed, hpolicy, heq⟩ := onReceivedSensorsInfo_policy h
  have hsame := ThermalKernelPolicy.levelDecision_unreported hpolicy hname
  rw [heq]
  exact hsame

theorem onReceivedSensorsInfo_zone (h : s.onReceivedSensorsInfo report = some s')
    {zone' : ProtectorThermalZoneInfo} (hzone' : s'.policy.tzInfoMap[name]? = some zone') :
    ∃ zone, s.policy.tzInfoMap[name]? = some zone ∧
      zone' = { zone with latestLevel := zone'.latestLevel } := by
  obtain ⟨policy, executed, hpolicy, heq⟩ := onReceivedSensorsInfo_policy h
  rw [heq] at hzone'
  exact ThermalKernelPolicy.levelDecision_zone hpolicy hzone'

/-- An action that no entry selected by the new levels names stays as it is, if it has never been
listed. -/
theorem onReceivedSensorsInfo_idle (h : s.onReceivedSensorsInfo report = some s')
    (hentries : ∀ policy ∈ s.policy.levelAction,
      (∃ item ∈ policy.vAction, item.name = name) → s'.policy.levelMap[policy.name]? = none)
    (hlisted : name ∉ s.policy.executeActionList) :
    s'.control name = s.control name ∧ name ∉ s'.policy.executeActionList := by
  obtain ⟨policy, hpolicy, rfl⟩ := onReceivedSensorsInfo_cases h
  obtain ⟨-, haction, hexecuted⟩ := ThermalKernelPolicy.levelDecision_frame hpolicy
  have hmap : ({ s with policy } : ThermalKernelService).policyDecision.policy.levelMap =
      policy.levelMap := by
    obtain ⟨executed, heq⟩ := ThermalKernelPolicy.policyDecision_fst
      ({ s with policy } : ThermalKernelService).registered policy
    show (ThermalKernelPolicy.policyDecision _ policy).1.levelMap = policy.levelMap
    rw [heq]
  rw [hmap] at hentries
  have hgiven : policy.given name = [] := by
    apply ThermalKernelPolicy.given_eq_nil
    rw [haction]
    exact hentries
  have hcount : policy.executeActionList.count name = 0 := by
    rw [hexecuted]
    exact List.count_eq_zero.mpr hlisted
  constructor
  · rw [control_policyDecision]
    show (s.control name).map (fun a => a.afterPass (policy.given name)
      (policy.executeActionList.count name + (policy.given name).length)) = s.control name
    rw [hgiven, hcount]
    exact Option.map_id'
  · show name ∉ (ThermalKernelPolicy.policyDecision _ policy).1.executeActionList
    rw [ThermalKernelPolicy.policyDecision_executeActionList,
      ThermalKernelPolicy.policyDecision_values, List.mem_append, not_or, List.mem_map]
    refine ⟨List.count_eq_zero.mp hcount, fun ⟨item, hitem, hname⟩ => ?_⟩
    rw [ThermalKernelPolicy.given, List.map_eq_nil_iff] at hgiven
    exact List.filter_eq_nil_iff.mp hgiven item (List.mem_filter.mp hitem).1
      (decide_eq_true hname)

end ThermalKernelService

/-! ### The loop -/

namespace ProtectorProcess

variable {s s' : ProtectorProcess} {w : Wake}

theorem turn_ended (h : s.timeCount = endTime) (w : Wake) : s.turn w = some s := if_pos h

theorem turn_interrupted (s : ProtectorProcess) : s.turn .interrupted = some s := ite_self _

/-- A wake either leaves the process as it is, or is counted and maybe sampled. -/
theorem turn_cases (h : s.turn w = some s') :
    s' = s ∧ (s.timeCount = endTime ∨ w.isFired = false) ∨
      s.timeCount ≠ endTime ∧ ∃ readable read mid, w = .fired readable read ∧
        (if readable then s.timerProvisionCallback read else some s) = some mid ∧
        s' = { mid with timeCount := mid.timeCount + 1 } := by
  by_cases hended : s.timeCount = endTime
  · rw [turn_ended hended] at h
    exact .inl ⟨(Option.some.inj h).symm, .inl hended⟩
  · cases w with
    | interrupted =>
      rw [turn_interrupted] at h
      exact .inl ⟨(Option.some.inj h).symm, .inr rfl⟩
    | fired readable read =>
      rw [turn, if_neg hended] at h
      obtain ⟨mid, hmid, rfl⟩ := Option.map_eq_some_iff.mp h
      exact .inr ⟨hended, readable, read, mid, rfl, hmid, rfl⟩

theorem timerProvisionCallback_cases {read : String → Option String}
    (h : s.timerProvisionCallback read = some s') :
    s.timer.timerProvisionCallback read s.tzInfoMap = some s'.timer ∧
      s.service.onReceivedSensorsInfo s'.timer.typeTempMap = some s'.service ∧
      s'.timeCount = s.timeCount := by
  obtain ⟨timer, htimer, h⟩ := Option.bind_eq_some_iff.mp h
  obtain ⟨service, hservice, h⟩ := Option.bind_eq_some_iff.mp h
  cases h
  exact ⟨htimer, hservice, rfl⟩

theorem turn_timeCount (h : s.turn w = some s') (hle : s.timeCount ≤ endTime) :
    s'.timeCount = min endTime (s.timeCount + if w.isFired then 1 else 0) := by
  rcases turn_cases h with
    ⟨rfl, hended | hinterrupted⟩ | ⟨hended, readable, read, mid, rfl, hmid, rfl⟩
  · rw [hended]
    simp
  · rw [hinterrupted]
    exact (Nat.min_eq_right hle).symm
  · have hcount : mid.timeCount = s.timeCount := by
      cases readable with
      | false => rw [Option.some.inj hmid]
      | true => exact (timerProvisionCallback_cases hmid).2.2
    show mid.timeCount + 1 = min endTime (s.timeCount + 1)
    omega

theorem loopingThreadEntry_cons (s : ProtectorProcess) (w : Wake) (wakes : List Wake) :
    s.loopingThreadEntry (w :: wakes) = (s.turn w).bind (loopingThreadEntry · wakes) :=
  List.foldlM_cons ..

/-- The wakes that the loop counts before it returns. -/
def counted (s : ProtectorProcess) (wakes : List Wake) : List Wake :=
  (wakes.filter Wake.isFired).take (endTime - s.timeCount)

theorem counted_ended (h : s.timeCount = endTime) (wakes : List Wake) : s.counted wakes = [] := by
  rw [counted, h, Nat.sub_self, List.take_zero]

theorem counted_fired (hle : s.timeCount < endTime) {w : Wake} (hw : w.isFired)
    (wakes : List Wake) :
    s.counted (w :: wakes) = w :: counted { s with timeCount := s.timeCount + 1 } wakes := by
  have hleft : endTime - s.timeCount = endTime - (s.timeCount + 1) + 1 := by omega
  rw [counted, List.filter_cons_of_pos hw, hleft, List.take_succ_cons]
  rfl

theorem counted_congr (h : s.timeCount = s'.timeCount) (wakes : List Wake) :
    s.counted wakes = s'.counted wakes := by
  rw [counted, counted, h]

theorem loopingThreadEntry_counted (hle : s.timeCount ≤ endTime) (wakes : List Wake) :
    s.loopingThreadEntry wakes = s.loopingThreadEntry (s.counted wakes) := by
  induction wakes generalizing s with
  | nil => rw [counted, List.filter_nil, List.take_nil]
  | cons w wakes ih =>
    rw [loopingThreadEntry_cons]
    by_cases hended : s.timeCount = endTime
    · rw [turn_ended hended, Option.bind_some, ih hle, counted_ended hended, counted_ended hended]
    cases w with
    | interrupted =>
      rw [turn_interrupted, Option.bind_some, ih hle]
      rfl
    | fired readable read =>
      have hlt : s.timeCount < endTime := lt_of_le_of_ne hle hended
      rw [counted_fired hlt (by rfl), loopingThreadEntry_cons]
      cases hturn : s.turn (.fired readable read) with
      | none => rfl
      | some mid =>
        have hcount : mid.timeCount = s.timeCount + 1 :=
          (turn_timeCount hturn hle).trans (Nat.min_eq_right hlt)
        have hmid : mid.timeCount ≤ endTime := hcount.trans_le hlt
        have hrest : mid.counted wakes = counted { s with timeCount := s.timeCount + 1 } wakes :=
          counted_congr hcount wakes
        rw [Option.bind_some, Option.bind_some, ih hmid, hrest]

theorem loopingThreadEntry_timeCount {wakes : List Wake} (hle : s.timeCount ≤ endTime)
    (h : s.loopingThreadEntry wakes = some s') :
    s'.timeCount = min endTime (s.timeCount + (wakes.filter Wake.isFired).length) := by
  induction wakes generalizing s with
  | nil =>
    obtain rfl := Option.some.inj h
    exact (Nat.min_eq_right hle).symm
  | cons w wakes ih =>
    rw [loopingThreadEntry_cons] at h
    obtain ⟨mid, hturn, hrest⟩ := Option.bind_eq_some_iff.mp h
    have hmid := turn_timeCount hturn hle
    rw [ih (hmid.trans_le (Nat.min_le_left ..)) hrest, hmid]
    cases hw : w.isFired with
    | false =>
      rw [List.filter_cons_of_neg (by simp [hw]), if_neg Bool.false_ne_true]
      omega
    | true =>
      rw [List.filter_cons_of_pos hw, if_pos rfl, List.length_cons]
      omega

/-! ### What holds for the whole life -/

/-- No tick that the loop lives to see is one at which the zone is due. -/
def Unsampled (first : ProtectorProcess) (name : String) : Prop :=
  ∀ zone, first.tzInfoMap[name]? = some zone → ¬ zone.multiple ∣ (endTime : Int)

/-- The action is configured for levels of such zones only. -/
def Idle (first : ProtectorProcess) (name : String) : Prop :=
  ∀ policy ∈ first.service.policy.levelAction,
    (∃ item ∈ policy.vAction, item.name = name) → first.Unsampled policy.name

/-- The temperature of a zone was read from its file at a tick at which the zone is due. -/
def ReadAt (first : ProtectorProcess) (wakes : List Wake) (name : String) (temp : Int) : Prop :=
  ∃ read zone, .fired true read ∈ wakes ∧ first.tzInfoMap[name]? = some zone ∧
    zone.multiple ∣ (endTime : Int) ∧ zone.path ≠ "" ∧ (read zone.path).bind stoi = some temp

/-- What the process keeps of how it was started. -/
structure Living (first : ProtectorProcess) (wakes : List Wake) (s : ProtectorProcess) : Prop where
  counted : s.timeCount ≤ endTime
  clock : 0 ≤ s.timer.reportTime ∧ s.timer.reportTime ≤ s.timeCount
  levelAction : s.service.policy.levelAction = first.service.policy.levelAction
  notified : s.service.policy.typeTempMap = s.timer.typeTempMap
  configured : ∀ (name : String) (zone : ProtectorThermalZoneInfo),
    s.tzInfoMap[name]? = some zone → ∃ zone₀, first.tzInfoMap[name]? = some zone₀ ∧
      zone = { zone₀ with latestLevel := zone.latestLevel }
  reported : ∀ (name : String) (temp : Int), s.timer.typeTempMap[name]? = some temp →
    first.ReadAt wakes name temp
  unsampled : ∀ name, first.Unsampled name →
    ThermalKernelPolicy.SameZone name first.service.policy s.service.policy
  idle : ∀ name, first.Idle name →
    s.service.control name = first.service.control name ∧
      name ∉ s.service.policy.executeActionList

/-- The process when its loop starts. -/
structure Started (s : ProtectorProcess) : Prop where
  timer : s.timer = {}
  timeCount : s.timeCount = 0
  typeTempMap : s.service.policy.typeTempMap = ∅
  levelMap : s.service.policy.levelMap = ∅
  executeActionList : s.service.policy.executeActionList = []

theorem Started.living {first : ProtectorProcess} (h : first.Started) (wakes : List Wake) :
    first.Living wakes first where
  counted := by
    rw [h.timeCount]
    exact Nat.zero_le _
  clock := by
    rw [h.timer]
    exact ⟨le_rfl, Int.natCast_nonneg _⟩
  levelAction := rfl
  notified := by
    rw [h.typeTempMap, h.timer]
  configured name zone hzone := ⟨zone, hzone, rfl⟩
  reported name temp htemp := by
    rw [h.timer] at htemp
    rw [show ({} : ThermalProtectorTimer).typeTempMap = ∅ from rfl,
      Std.ExtTreeMap.getElem?_empty] at htemp
    cases htemp
  unsampled name _ := ⟨rfl, rfl⟩
  idle name _ := by
    rw [h.executeActionList]
    exact ⟨rfl, List.not_mem_nil⟩

section Tick

variable {first : ProtectorProcess} {wakes : List Wake} {read : String → Option String}

theorem Living.clock_tick (h : first.Living wakes s)
    (hs : s.timerProvisionCallback read = some s') :
    0 ≤ s'.timer.reportTime ∧ s'.timer.reportTime ≤ (s.timeCount + 1 : Nat) := by
  obtain ⟨hlow, hhigh⟩ := h.clock
  obtain ⟨report, -, -, hclock⟩ :=
    ThermalProtectorTimer.timerProvisionCallback_eq (timerProvisionCallback_cases hs).1
  rw [hclock]
  split <;> omega

theorem Living.reported_tick (h : first.Living wakes s) (hended : s.timeCount ≠ endTime)
    (hmem : .fired true read ∈ wakes) (hs : s.timerProvisionCallback read = some s')
    {name : String} {temp : Int} (htemp : s'.timer.typeTempMap[name]? = some temp) :
    first.ReadAt wakes name temp := by
  obtain ⟨report, hpass, hsampled, -⟩ :=
    ThermalProtectorTimer.timerProvisionCallback_eq (timerProvisionCallback_cases hs).1
  rw [hsampled] at htemp
  obtain ⟨zone, hzone, hdvd, hpath, hread⟩ := reportThermalZoneData_sampled hpass htemp
  obtain ⟨zone₀, hzone₀, heq⟩ := h.configured name zone hzone
  rw [heq] at hdvd hpath hread
  refine ⟨read, zone₀, hmem, hzone₀, ?_, hpath, hread⟩
  obtain ⟨hlow, hhigh⟩ := h.clock
  have hlt : s.timeCount < endTime := lt_of_le_of_ne h.counted hended
  have htick : s.timer.reportTime + 1 = 1 ∨ s.timer.reportTime + 1 = 2 := by
    rw [endTime] at hlt
    omega
  replace hdvd : zone₀.multiple ∣ s.timer.reportTime + 1 := hdvd
  rcases htick with hone | htwo
  · rw [hone] at hdvd
    exact hdvd.trans (one_dvd _)
  · rw [htwo] at hdvd
    exact hdvd

theorem ReadAt.sampled {name : String} {temp : Int} (h : first.ReadAt wakes name temp) :
    ¬ first.Unsampled name := by
  obtain ⟨read, zone, -, hzone, hdvd, -⟩ := h
  exact fun hunsampled => hunsampled zone hzone hdvd

theorem Living.tick (hfirst : first.Started) (h : first.Living wakes s)
    (hended : s.timeCount ≠ endTime) (hmem : .fired true read ∈ wakes)
    (hs : s.timerProvisionCallback read = some s') :
    first.Living wakes { s' with timeCount := s'.timeCount + 1 } := by
  obtain ⟨-, hreceived, hcount⟩ := timerProvisionCallback_cases hs
  have hreported : ∀ (name : String) (temp : Int), s'.timer.typeTempMap[name]? = some temp →
      first.ReadAt wakes name temp := fun name temp => h.reported_tick hended hmem hs
  have hunsampled : ∀ name, first.Unsampled name →
      ThermalKernelPolicy.SameZone name first.service.policy s'.service.policy := by
    intro name hname
    have hnone : s'.timer.typeTempMap[name]? = none := by
      by_contra hsome
      obtain ⟨temp, htemp⟩ := Option.ne_none_iff_exists'.mp hsome
      exact (hreported name temp htemp).sampled hname
    exact (h.unsampled name hname).trans
      (ThermalKernelService.onReceivedSensorsInfo_unreported hreceived hnone)
  refine ⟨?_, ?_, ?_, ?_, ?_, hreported, hunsampled, ?_⟩
  · show s'.timeCount + 1 ≤ endTime
    rw [hcount]
    exact lt_of_le_of_ne h.counted hended
  · show 0 ≤ s'.timer.reportTime ∧ s'.timer.reportTime ≤ (s'.timeCount + 1 : Nat)
    rw [hcount]
    exact h.clock_tick hs
  · exact (ThermalKernelService.onReceivedSensorsInfo_levelAction hreceived).trans h.levelAction
  · exact ThermalKernelService.onReceivedSensorsInfo_typeTempMap hreceived
  · intro name zone hzone
    obtain ⟨before, hbefore, heq⟩ :=
      ThermalKernelService.onReceivedSensorsInfo_zone hreceived hzone
    obtain ⟨zone₀, hzone₀, heq₀⟩ := h.configured name before hbefore
    refine ⟨zone₀, hzone₀, ?_⟩
    rw [heq, heq₀]
  · intro name hname
    obtain ⟨hcontrol, hlisted⟩ := h.idle name hname
    have hentries : ∀ policy ∈ s.service.policy.levelAction,
        (∃ item ∈ policy.vAction, item.name = name) →
          s'.service.policy.levelMap[policy.name]? = none := by
      intro policy hpolicy hitem
      rw [h.levelAction] at hpolicy
      rw [(hunsampled policy.name (hname policy hpolicy hitem)).2, hfirst.levelMap]
      exact Std.ExtTreeMap.getElem?_empty
    obtain ⟨hsame, hlisted'⟩ :=
      ThermalKernelService.onReceivedSensorsInfo_idle hreceived hentries hlisted
    exact ⟨hsame.trans hcontrol, hlisted'⟩

theorem Living.turn (hfirst : first.Started) (h : first.Living wakes s) (hmem : w ∈ wakes)
    (hs : s.turn w = some s') : first.Living wakes s' := by
  rcases turn_cases hs with ⟨rfl, -⟩ | ⟨hended, readable, read, mid, rfl, hmid, rfl⟩
  · exact h
  · cases readable with
    | true => exact h.tick hfirst hended hmem hmid
    | false =>
      obtain rfl := Option.some.inj hmid
      obtain ⟨hlow, hhigh⟩ := h.clock
      have hlt : s.timeCount < endTime := lt_of_le_of_ne h.counted hended
      have hclock : s.timer.reportTime ≤ (s.timeCount + 1 : Nat) := by omega
      exact { h with
        counted := hlt
        clock := ⟨hlow, hclock⟩ }

theorem Started.run (hfirst : first.Started) (h : first.loopingThreadEntry wakes = some s) :
    first.Living wakes s :=
  foldlM_invariant (first.Living wakes) (fun _ _ _ hmem hliving => hliving.turn hfirst hmem)
    (hfirst.living wakes) h

end Tick

end ProtectorProcess

namespace ProtectorProcess

variable {conv : Conversions} {uninit : KernelUninit} {oneCfgFile : Option String}
  {files : String → XmlFile} {sysfs : ThermalSysfs} {first s : ProtectorProcess}
  {wakes : List Wake}

theorem init_eq (h : init conv uninit oneCfgFile files sysfs = some first) :
    ∃ root, configFile oneCfgFile files = some root ∧
      (ThermalKernelConfigFile.parseThermalKernelXML conv uninit root).levelAction ≠ [] ∧
      first = { service :=
        { policy := { ThermalKernelConfigFile.parseThermalKernelXML conv uninit root with
            tzInfoMap := ThermalSensorProvision.parseThermalZoneInfo sysfs (setMultiples
              (ThermalKernelConfigFile.parseThermalKernelXML conv uninit root).tzInfoMap) }
          control := ThermalDeviceControl.init
            (ThermalKernelConfigFile.parseThermalKernelXML conv uninit root).levelAction } } := by
  obtain ⟨root, hroot, h⟩ := Option.bind_eq_some_iff.mp h
  dsimp only at h
  rw [Option.ite_none_left_eq_some, List.isEmpty_iff] at h
  exact ⟨root, hroot, h.1, (Option.some.inj h.2).symm⟩

theorem init_started (h : init conv uninit oneCfgFile files sysfs = some first) :
    first.Started := by
  obtain ⟨root, -, -, rfl⟩ := init_eq h
  obtain ⟨tzInfoMap, levelAction, heq⟩ :=
    @ThermalKernelConfigFile.parseThermalKernelXML_eq conv uninit root
  constructor
  · rfl
  · rfl
  · rw [heq]
  · rw [heq]
  · rw [heq]

theorem init_path (h : init conv uninit oneCfgFile files sysfs = some first) {name : String}
    {zone : ProtectorThermalZoneInfo} (hzone : first.tzInfoMap[name]? = some zone)
    (hne : zone.path ≠ "") : ThermalSensorProvision.OwnFile sysfs name zone.path := by
  obtain ⟨root, -, -, rfl⟩ := init_eq h
  refine ThermalSensorProvision.parseThermalZoneInfo_path (fun name zone hzone => ?_) hzone hne
  obtain ⟨configured, multiple, hconfigured, rfl⟩ := setMultiples_zone hzone
  exact (ThermalKernelConfigFile.parseThermalKernelXML_fresh root name configured hconfigured).2

/-- The process does what its first two wakes by the timer do. A zone that is due at neither of the
two ticks is never sampled, keeps its level and gets no entry in the map of levels, and an action
configured for such zones only is never touched. -/
theorem life_of_two_ticks (hfirst : init conv uninit oneCfgFile files sysfs = some first)
    (wakes : List Wake) :
    first.loopingThreadEntry wakes =
        first.loopingThreadEntry ((wakes.filter Wake.isFired).take endTime) ∧
      ∀ s, first.loopingThreadEntry wakes = some s →
        s.timeCount = min endTime (wakes.filter Wake.isFired).length ∧
        (∀ name, first.Unsampled name →
          name ∉ s.timer.typeTempMap ∧ name ∉ s.service.policy.levelMap ∧
            s.tzInfoMap[name]? = first.tzInfoMap[name]?) ∧
        ∀ name, first.Idle name → s.service.control name = first.service.control name := by
  have hstarted := init_started hfirst
  have hle : first.timeCount ≤ endTime := hstarted.timeCount.trans_le (Nat.zero_le _)
  constructor
  · rw [loopingThreadEntry_counted hle, counted, hstarted.timeCount, Nat.sub_zero]
  · intro s hs
    have hliving := hstarted.run hs
    refine ⟨?_, fun name hname => ⟨?_, ?_, ?_⟩, fun name hname => (hliving.idle name hname).1⟩
    · rw [loopingThreadEntry_timeCount hle hs, hstarted.timeCount, Nat.zero_add]
    · intro hmem
      obtain ⟨temp, htemp⟩ :=
        Option.isSome_iff_exists.mp (Std.ExtTreeMap.mem_iff_isSome_getElem?.mp hmem)
      exact (hliving.reported name temp htemp).sampled hname
    · have hlevel := (hliving.unsampled name hname).2
      rw [hstarted.levelMap, Std.ExtTreeMap.getElem?_empty] at hlevel
      rw [Std.ExtTreeMap.mem_iff_isSome_getElem?, hlevel]
      exact Bool.false_ne_true
    · exact (hliving.unsampled name hname).1

/-- A battery zone, whose first level limits the current. -/
def batteryRoot (timing : List (String × String)) : XmlNode where
  name := "thermal"
  xmlChildrenNode := [
    { name := "control"
      xmlChildrenNode := [
        { name := "thermal_zone"
          properties := ("type", "battery") :: timing
          xmlChildrenNode := [
            { name := "item"
              properties := [("level", "1"), ("threshold", "35000"), ("threshold_clr", "32000")]
              xmlChildrenNode := [{ name := "current", content := some "1500" }] }] }] }]

/-- The battery is the first of two thermal zones. -/
def batterySysfs : ThermalSysfs where
  dir := some [⟨"cooling_device0", true⟩, ⟨"thermal_zone0", true⟩, ⟨"thermal_zone1", true⟩]
  scan _ := 1
  readSysfsFile path :=
    some (if path = ThermalSensorProvision.thermalTypePath "thermal_zone0" then "battery"
      else "soc-thermal")

def warmWakes : List Wake :=
  [.fired true fun _ => some "36000", .interrupted, .fired true fun _ => some "37000",
    .fired true fun _ => some "50000"]

def batteryInit (timing : List (String × String)) : Option ProtectorProcess :=
  init decimalConversions ThermalKernelConfigFile.unsetItem none
    (fun _ => some (batteryRoot timing)) batterySysfs

/-- A zone without an interval is not sampled, however warm it is. -/
theorem batteryRoot_untimed : ∃ first s, batteryInit [] = some first ∧
    first.loopingThreadEntry warmWakes = some s ∧ s.timeCount = endTime ∧
    "battery" ∉ s.timer.typeTempMap ∧
    s.service.control "current" = first.service.control "current" := by
  have hruns : ((batteryInit []).bind (loopingThreadEntry · warmWakes)).isSome := by decide
  obtain ⟨s, hs⟩ := Option.isSome_iff_exists.mp hruns
  obtain ⟨first, hfirst, hloop⟩ := Option.bind_eq_some_iff.mp hs
  have hlife := (life_of_two_ticks hfirst warmWakes).2 s hloop
  have hzone : ((batteryInit []).bind fun first => first.tzInfoMap["battery"]?) =
      some ⟨false, "/sys/class/thermal/thermal_zone0/temp", 0, 0, 0, [⟨1, 35000, 32000⟩]⟩ := by
    decide
  have hentries : ((batteryInit []).map fun first => first.service.policy.levelAction) =
      some [⟨"battery", 1, [⟨"current", 1500⟩]⟩] := by
    decide
  rw [hfirst] at hzone hentries
  replace hentries : first.service.policy.levelAction = _ := Option.some.inj hentries
  have hbattery : first.Unsampled "battery" := by
    intro zone hmem
    obtain rfl := Option.some.inj (hmem.symm.trans hzone)
    decide
  have hidle : first.Idle "current" := by
    intro policy hpolicy _
    rw [hentries] at hpolicy
    obtain rfl := List.mem_singleton.mp hpolicy
    exact hbattery
  exact ⟨first, s, hfirst, hloop, hlife.1, (hlife.2.1 _ hbattery).1, hlife.2.2 _ hidle⟩

/-- Every temperature that the policy holds for a zone was read, at a wake of this life, from the
file of the directory whose type is the name of the zone. -/
theorem temperatures_from_own_file (hfirst : init conv uninit oneCfgFile files sysfs = some first)
    (hs : first.loopingThreadEntry wakes = some s) {name : String} {temp : Int}
    (htemp : s.service.policy.typeTempMap[name]? = some temp) :
    ∃ read path, .fired true read ∈ wakes ∧ ThermalSensorProvision.OwnFile sysfs name path ∧
      (read path).bind stoi = some temp := by
  have hliving := (init_started hfirst).run hs
  rw [hliving.notified] at htemp
  obtain ⟨read, zone, hmem, hzone, -, hpath, hread⟩ := hliving.reported name temp htemp
  exact ⟨read, zone.path, hmem, init_path hfirst hzone hpath, hread⟩

/-- The battery is read from the first thermal zone. -/
theorem batteryRoot_own_file : ∃ read path, .fired true read ∈ warmWakes ∧
    ThermalSensorProvision.OwnFile batterySysfs "battery" path ∧
    (read path).bind stoi = some 37000 := by
  have hruns : (((batteryInit [("interval", "2000")]).bind (loopingThreadEntry · warmWakes)).bind
      fun s => s.service.policy.typeTempMap["battery"]?) = some 37000 := by decide
  obtain ⟨s, hs, htemp⟩ := Option.bind_eq_some_iff.mp hruns
  obtain ⟨first, hfirst, hloop⟩ := Option.bind_eq_some_iff.mp hs
  exact temperatures_from_own_file hfirst hloop htemp

end ProtectorProcess

end ThermalManager
