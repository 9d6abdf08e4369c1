import ThermalManager.Protector.Process

/-!
# The ticks that the loop makes

The multiples of the zones count ticks, and the counter of the ticks starts again at the largest
multiple. The loop returns after two wakes, and up to there a zone is sampled at exactly the ticks
that its multiple divides: the counter can start again before the second tick only where every zone
is due at every tick.
-/

namespace ThermalManager

/-- A zone without its level. -/
def ProtectorThermalZoneInfo.unlevelled (zone : ProtectorThermalZoneInfo) :
    ProtectorThermalZoneInfo :=
  { zone with latestLevel := 0 }

namespace ThermalKernelPolicy

variable {p p' : ThermalKernelPolicy}

theorem levelDecision_unlevelled (h : p.levelDecision = some p') (name : String) :
    (p'.tzInfoMap[name]?).map ProtectorThermalZoneInfo.unlevelled =
      (p.tzInfoMap[name]?).map ProtectorThermalZoneInfo.unlevelled := by
  rcases (levelDecision_levelled h name).cases with
    ⟨zone, temp, next, hzone, -, hnext, htz, -⟩ | ⟨-, htz, -⟩
  · obtain ⟨level, -, rfl⟩ := Option.map_eq_some_iff.mp hnext
    rw [hzone, htz]
    rfl
  · rw [htz]

end ThermalKernelPolicy

/-- The descriptor of the timer can be read, so that the callback samples. -/
def Wake.isTick : Wake → Bool
  | .fired readable _ => readable
  | .interrupted => false

namespace ProtectorProcess

variable {first s s' : ProtectorProcess} {wakes : List Wake} {read : String → Option String}

/-- Every zone has a path, and its file has a number at every wake. -/
def AllReadable (first : ProtectorProcess) (wakes : List Wake) : Prop :=
  ∀ (name : String) (zone : ProtectorThermalZoneInfo), first.tzInfoMap[name]? = some zone →
    ∀ read, .fired true read ∈ wakes → Readable read zone

/-- At each tick that comes to the waiting loop exactly the zones are sampled whose multiple divides
the number of the tick. -/
def OnSchedule (first : ProtectorProcess) : Prop :=
  ∀ (wakes : List Wake) (read : String → Option String) (s : ProtectorProcess),
    first.AllReadable (wakes ++ [.fired true read]) →
    first.loopingThreadEntry wakes = some s → s.timeCount ≠ endTime →
    ∃ timer, s.timer.timerProvisionCallback read s.tzInfoMap = some timer ∧
      ∀ (name : String) (zone : ProtectorThermalZoneInfo), first.tzInfoMap[name]? = some zone →
        (name ∈ timer.typeTempMap ↔ zone.multiple ∣ ((wakes.countP Wake.isTick + 1 : Nat) : Int))

def Bounded (first : ProtectorProcess) : Prop :=
  ∃ bound, ∀ wakes s, first.loopingThreadEntry wakes = some s → s.timer.reportTime ≤ bound

/-- The zones are those of the start but for their levels. -/
def SameZones (first s : ProtectorProcess) : Prop :=
  ∀ name : String, (s.tzInfoMap[name]?).map ProtectorThermalZoneInfo.unlevelled =
    (first.tzInfoMap[name]?).map ProtectorThermalZoneInfo.unlevelled

theorem SameZones.symm (h : first.SameZones s) : s.SameZones first := fun name => (h name).symm

theorem SameZones.zone (h : first.SameZones s) {name : String} {zone : ProtectorThermalZoneInfo}
    (hzone : s.tzInfoMap[name]? = some zone) : ∃ zone₀, first.tzInfoMap[name]? = some zone₀ ∧
      zone.multiple = zone₀.multiple ∧ zone.path = zone₀.path := by
  have hname := h name
  rw [hzone, Option.map_some] at hname
  obtain ⟨zone₀, hzone₀, hsame⟩ := Option.map_eq_some_iff.mp hname.symm
  refine ⟨zone₀, hzone₀, ?_, ?_⟩
  · exact (congrArg ProtectorThermalZoneInfo.multiple hsame).symm
  · exact (congrArg ProtectorThermalZoneInfo.path hsame).symm

theorem SameZones.tick (h : first.SameZones s) (hs : s.timerProvisionCallback read = some s') :
    first.SameZones s' := by
  intro name
  rw [← h name]
  obtain ⟨policy, executed, hpolicy, heq⟩ :=
    ThermalKernelService.onReceivedSensorsInfo_policy (timerProvisionCallback_cases hs).2.1
  rw [tzInfoMap, heq]
  exact ThermalKernelPolicy.levelDecision_unlevelled hpolicy name

/-! ### One tick -/

/-- The zones that are due next are those due at the next of all ticks. -/
def DueNext (first : ProtectorProcess) (ticks : Nat) (s : ProtectorProcess) : Prop :=
  ∀ (name : String) (zone : ProtectorThermalZoneInfo), first.tzInfoMap[name]? = some zone →
    (zone.multiple ∣ s.timer.reportTime + 1 ↔ zone.multiple ∣ ((ticks + 1 : Nat) : Int))

theorem SameZones.report (h : first.SameZones s)
    (hpos : ∀ (name : String) (zone : ProtectorThermalZoneInfo),
      first.tzInfoMap[name]? = some zone → 0 < zone.multiple)
    (hread : first.AllReadable (wakes ++ [.fired true read])) (reportTime : Int) :
    ∃ sampled, reportThermalZoneData read s.tzInfoMap reportTime =
        some (sampled, multiples s.tzInfoMap) ∧
      ∀ (name : String) (zone : ProtectorThermalZoneInfo), first.tzInfoMap[name]? = some zone →
        (name ∈ sampled ↔ zone.multiple ∣ reportTime) := by
  have hzones : ∀ (name : String) (zone : ProtectorThermalZoneInfo),
      s.tzInfoMap[name]? = some zone → zone.multiple ≠ 0 ∧ Readable read zone := by
    intro name zone hzone
    obtain ⟨zone₀, hzone₀, hmultiple, hpath⟩ := h.zone hzone
    rw [hmultiple, Readable, hpath]
    exact ⟨(hpos name zone₀ hzone₀).ne', hread name zone₀ hzone₀ read (by simp)⟩
  obtain ⟨sampled, hreport, hsampled⟩ := reportThermalZoneData_readable hzones reportTime
  refine ⟨sampled, hreport, fun name zone₀ hzone₀ => ?_⟩
  obtain ⟨zone, hzone, hmultiple, -⟩ := h.symm.zone hzone₀
  rw [hmultiple]
  exact hsampled name zone hzone

/-- Where the counter starts again after the first tick, every zone is due at every tick. -/
theorem SameZones.first_reset (h : first.SameZones s)
    (hpos : ∀ (name : String) (zone : ProtectorThermalZoneInfo),
      first.tzInfoMap[name]? = some zone → 0 < zone.multiple)
    (hreset : (multiples s.tzInfoMap).max? = some 1) {name : String}
    {zone : ProtectorThermalZoneInfo} (hzone : first.tzInfoMap[name]? = some zone) :
    zone.multiple = 1 := by
  obtain ⟨zone', hzone', hmultiple, -⟩ := h.symm.zone hzone
  have hle := (List.max?_eq_some_iff.mp hreset).2 _ (mem_multiples.mpr ⟨name, zone', hzone', rfl⟩)
  have hlow := hpos name zone hzone
  omega

/-! ### The loop -/

/-- The counter of a process whose loop was woken so often. -/
structure Counting (first : ProtectorProcess) (wakes : List Wake) (s : ProtectorProcess) :
    Prop where
  zones : first.SameZones s
  timeCount : s.timeCount ≤ endTime
  ticks : s.timeCount ≠ endTime → wakes.countP Wake.isTick ≤ s.timeCount
  reportTime : 0 ≤ s.timer.reportTime ∧ s.timer.reportTime ≤ s.timeCount ∧
    s.timer.reportTime ≤ wakes.countP Wake.isTick
  due : s.timeCount ≠ endTime → first.AllReadable wakes →
    first.DueNext (wakes.countP Wake.isTick) s

theorem counting_start (htimer : first.timer = {}) (hcount : first.timeCount = 0) :
    first.Counting [] first where
  zones _ := rfl
  timeCount := hcount.trans_le (Nat.zero_le _)
  ticks _ := Nat.zero_le _
  reportTime := by
    rw [htimer]
    exact ⟨le_rfl, Int.natCast_nonneg _, le_rfl⟩
  due _ _ name zone _ := by
    rw [htimer]
    exact Iff.rfl

theorem AllReadable.of_append {w : Wake} (h : first.AllReadable (wakes ++ [w])) :
    first.AllReadable wakes :=
  fun name zone hzone read hmem => h name zone hzone read (List.mem_append_left _ hmem)

/-- After the first tick the counter has come to one, or it has started again and every zone is due
at every tick. -/
theorem Counting.due_tick (h : first.Counting wakes s)
    (hpos : ∀ (name : String) (zone : ProtectorThermalZoneInfo),
      first.tzInfoMap[name]? = some zone → 0 < zone.multiple)
    (hticks : wakes.countP Wake.isTick = 0)
    (hread : first.AllReadable (wakes ++ [.fired true read]))
    (hs : s.timerProvisionCallback read = some s') : first.DueNext 1 s' := by
  have hzero : s.timer.reportTime = 0 := by
    obtain ⟨hlow, -, hhigh⟩ := h.reportTime
    rw [hticks] at hhigh
    exact le_antisymm hhigh hlow
  obtain ⟨report, hreport, -, hclock⟩ :=
    ThermalProtectorTimer.timerProvisionCallback_eq (timerProvisionCallback_cases hs).1
  obtain ⟨sampled, hsame, -⟩ := h.zones.report hpos hread (s.timer.reportTime + 1)
  obtain rfl := Option.some.inj (hsame.symm.trans hreport)
  intro name zone hzone
  rw [hclock, hzero, Int.zero_add]
  by_cases hreset : (multiples s.tzInfoMap).max? = some 1
  · rw [if_pos hreset, h.zones.first_reset hpos hreset hzone]
    exact iff_of_true (one_dvd _) (one_dvd _)
  · rw [if_neg hreset]
    exact Iff.rfl

theorem Counting.turn (h : first.Counting wakes s)
    (hpos : ∀ (name : String) (zone : ProtectorThermalZoneInfo),
      first.tzInfoMap[name]? = some zone → 0 < zone.multiple) {w : Wake}
    (hs : s.turn w = some s') : first.Counting (wakes ++ [w]) s' := by
  have hcountP : (wakes ++ [w]).countP Wake.isTick =
      wakes.countP Wake.isTick + if w.isTick then 1 else 0 := by
    rw [List.countP_append, List.countP_singleton]
  obtain ⟨hlow, hcounted, hhigh⟩ := h.reportTime
  rcases turn_cases hs with
    ⟨rfl, hended | hinterrupted⟩ | ⟨hwaits, readable, read, mid, rfl, hmid, rfl⟩
  · have hmore : s'.timer.reportTime ≤ (wakes ++ [w]).countP Wake.isTick := by omega
    exact ⟨h.zones, h.timeCount, fun hwaits => absurd hended hwaits, ⟨hlow, hcounted, hmore⟩,
      fun hwaits => absurd hended hwaits⟩
  · have hsame : (wakes ++ [w]).countP Wake.isTick = wakes.countP Wake.isTick := by
      cases w with
      | interrupted => exact hcountP
      | fired readable read => cases hinterrupted
    refine ⟨h.zones, h.timeCount, ?_, ?_, fun hwaits hread => ?_⟩
    · rw [hsame]
      exact h.ticks
    · rw [hsame]
      exact h.reportTime
    · rw [hsame]
      exact h.due hwaits hread.of_append
  · have hlt : s.timeCount < endTime := lt_of_le_of_ne h.timeCount hwaits
    have hticks := h.ticks hwaits
    cases readable with
    | false =>
      obtain rfl := Option.some.inj hmid
      have hsame : (wakes ++ [Wake.fired false read]).countP Wake.isTick =
          wakes.countP Wake.isTick := hcountP
      refine ⟨h.zones, hlt, fun _ => ?_, ⟨hlow, ?_, ?_⟩, fun _ hread => ?_⟩
      · rw [hsame]
        exact Nat.le_succ_of_le hticks
      · show s.timer.reportTime ≤ ((s.timeCount + 1 : Nat) : Int)
        omega
      · rw [hsame]
        exact hhigh
      · rw [hsame]
        exact h.due hwaits hread.of_append
    | true =>
      have hcount : mid.timeCount = s.timeCount := (timerProvisionCallback_cases hmid).2.2
      have hnext : (wakes ++ [Wake.fired true read]).countP Wake.isTick =
          wakes.countP Wake.isTick + 1 := hcountP
      obtain ⟨report, -, -, hclock⟩ :=
        ThermalProtectorTimer.timerProvisionCallback_eq (timerProvisionCallback_cases hmid).1
      have hreportTime : 0 ≤ mid.timer.reportTime ∧
          mid.timer.reportTime ≤ s.timer.reportTime + 1 := by
        rw [hclock]
        split <;> omega
      have hzones : first.SameZones mid := h.zones.tick hmid
      refine ⟨hzones, ?_, fun _ => ?_, ⟨hreportTime.1, ?_, ?_⟩, fun hwaits' hread => ?_⟩
      · show mid.timeCount + 1 ≤ endTime
        omega
      · show _ ≤ mid.timeCount + 1
        omega
      · show mid.timer.reportTime ≤ ((mid.timeCount + 1 : Nat) : Int)
        omega
      · show mid.timer.reportTime ≤ _
        omega
      · -- a loop that still waits has made no tick before this one
        have hfirst : wakes.countP Wake.isTick = 0 := by
          have hleft : mid.timeCount + 1 ≠ 2 := hwaits'
          have hbelow : s.timeCount < 2 := hlt
          omega
        have hdue : first.DueNext 1 mid := h.due_tick hpos hfirst hread hmid
        rw [hnext, hfirst]
        exact hdue

theorem loopingThreadEntry_counting (htimer : first.timer = {}) (hcount : first.timeCount = 0)
    (hpos : ∀ (name : String) (zone : ProtectorThermalZoneInfo),
      first.tzInfoMap[name]? = some zone → 0 < zone.multiple)
    (h : first.loopingThreadEntry wakes = some s) : first.Counting wakes s := by
  induction wakes using List.reverseRecOn generalizing s with
  | nil =>
    obtain rfl := Option.some.inj h
    exact counting_start htimer hcount
  | append_singleton wakes w ih =>
    rw [loopingThreadEntry, List.foldlM_append] at h
    obtain ⟨mid, hmid, hlast⟩ := Option.bind_eq_some_iff.mp h
    rw [List.foldlM_cons] at hlast
    obtain ⟨last, hturn, hend⟩ := Option.bind_eq_some_iff.mp hlast
    obtain rfl := Option.some.inj hend
    exact (ih hmid).turn hpos hturn

/-- **The sampling schedule.** For any zones with positive multiples, at each tick that the loop
makes exactly the zones are sampled whose multiple divides the number of the tick, and the counter
stays bounded. -/
theorem sampled_on_schedule (htimer : first.timer = {}) (hcount : first.timeCount = 0)
    (hpos : ∀ (name : String) (zone : ProtectorThermalZoneInfo),
      first.tzInfoMap[name]? = some zone → 0 < zone.multiple) :
    first.OnSchedule ∧ first.Bounded := by
  constructor
  · intro wakes read s hread hs hwaits
    have hcounting := loopingThreadEntry_counting htimer hcount hpos hs
    obtain ⟨sampled, hreport, hsampled⟩ :=
      hcounting.zones.report hpos hread (s.timer.reportTime + 1)
    have hreturns : (s.timer.timerProvisionCallback read s.tzInfoMap).isSome := by
      rw [ThermalProtectorTimer.timerProvisionCallback, ThermalProtectorTimer.notifyPolicy, hreport]
      rfl
    obtain ⟨timer, htick⟩ := Option.isSome_iff_exists.mp hreturns
    obtain ⟨report, hsame, hmap, -⟩ := ThermalProtectorTimer.timerProvisionCallback_eq htick
    obtain rfl := Option.some.inj (hreport.symm.trans hsame)
    refine ⟨timer, htick, fun name zone hzone => ?_⟩
    rw [hmap, hsampled name zone hzone]
    exact hcounting.due hwaits hread.of_append name zone hzone
  · refine ⟨endTime, fun wakes s hs => ?_⟩
    have hcounting := loopingThreadEntry_counting htimer hcount hpos hs
    have hle := hcounting.timeCount
    obtain ⟨-, hreportTime, -⟩ := hcounting.reportTime
    omega

def warnedZone (path : String) (interval multiple : Int) : ProtectorThermalZoneInfo where
  path := path
  interval := interval
  multiple := multiple
  tzItemList := [⟨1, 90000, 80000⟩]

/-- The zones of the shipped profile, which have the multiples one, two and three. -/
def shippedZones : ThermalZoneMap :=
  (∅ : ThermalZoneMap)
    |>.insert "soc-thermal" (warnedZone "tz0" 2000 1)
    |>.insert "gpu-thermal" (warnedZone "tz1" 4000 2)
    |>.insert "battery" (warnedZone "tz2" 6000 3)

def shippedProcess : ProtectorProcess where
  service := { policy := { tzInfoMap := shippedZones, levelAction := [] }, control := fun _ => none }

/-- The second tick samples the graphics zone and not the battery. -/
theorem shippedZones_on_schedule : ∃ s timer,
    shippedProcess.loopingThreadEntry [.fired true fun _ => some "30000"] = some s ∧
    s.timer.timerProvisionCallback (fun _ => some "30000") s.tzInfoMap = some timer ∧
    "gpu-thermal" ∈ timer.typeTempMap ∧ "battery" ∉ timer.typeTempMap := by
  have hpos : ∀ (name : String) (zone : ProtectorThermalZoneInfo),
      shippedProcess.tzInfoMap[name]? = some zone → 0 < zone.multiple :=
    forall_entries (p := fun zone : ProtectorThermalZoneInfo => 0 < zone.multiple) (by decide)
  have hpaths : ∀ (name : String) (zone : ProtectorThermalZoneInfo),
      shippedProcess.tzInfoMap[name]? = some zone → zone.path ≠ "" :=
    forall_entries (p := fun zone : ProtectorThermalZoneInfo => zone.path ≠ "") (by decide)
  have hread : shippedProcess.AllReadable
      ([.fired true fun _ => some "30000"] ++ [.fired true fun _ => some "30000"]) := by
    intro name zone hzone read hmem
    have hsome : read = fun _ => some "30000" := by simpa using hmem
    rw [Readable, hsome]
    exact ⟨hpaths name zone hzone, rfl⟩
  obtain ⟨s, hs⟩ : ∃ s,
      shippedProcess.loopingThreadEntry [.fired true fun _ => some "30000"] = some s :=
    Option.isSome_iff_exists.mp (by decide)
  have hwaits : s.timeCount ≠ endTime := by
    rw [loopingThreadEntry_timeCount (Nat.zero_le _) hs]
    decide
  obtain ⟨timer, htimer, hsampled⟩ :=
    (sampled_on_schedule rfl rfl hpos).1 _ _ s hread hs hwaits
  refine ⟨s, timer, hs, htimer, ?_, ?_⟩
  · exact (hsampled "gpu-thermal" (warnedZone "tz1" 4000 2) (by decide)).mpr (by decide)
  · rw [hsampled "battery" (warnedZone "tz2" 6000 3) (by decide)]
    decide

end ProtectorProcess

end ThermalManager
