import ThermalManager.Service.ServiceActions
import ThermalManager.Service.ActionManager
import ThermalManager.Client.NapiCallback

/-!
# From the reports to the script

The service with a client that is a script, on a device with one thermal level. The clusters follow
the reports, the thermal level follows the clusters, and while a level change and the subscriptions
call the listeners one after the other, the levels are merged on their way to the function of the
script.
-/

namespace ThermalManager

open StepSystem Extremum Outcome

/-! ### The level that is decided -/

namespace LevelSystem

variable {s : LevelSystem}

/-- A new level is stored, and its change begins. -/
def decided (s : LevelSystem) (level : Int) : LevelSystem :=
  if level ≠ s.lastValue then
    { s with service := setLastValue s.service level, notifier := .stored level }
  else s

theorem decided_lastValue (s : LevelSystem) (level : Int) :
    (s.decided level).lastValue = level := by
  rw [decided]
  split
  case isTrue => rfl
  case isFalse hsame => exact (not_not.mp hsame).symm

theorem decided_eq_step {level : Int} (hlevel : InLevels level)
    (hidle : level ≠ s.lastValue → s.notifier = .idle) :
    s.decided level = s ∨ ∃ value, s.decided level = s.step (.store value) := by
  by_cases hnew : level ≠ s.lastValue
  · obtain ⟨value, rfl⟩ : ∃ value : ThermalLevel, value.value = level := by
      obtain ⟨hmin, hmax⟩ := hlevel
      change 0 ≤ level at hmin
      change level ≤ 7 at hmax
      obtain rfl | rfl | rfl | rfl | rfl | rfl | rfl | rfl : level = 0 ∨ level = 1 ∨ level = 2 ∨
        level = 3 ∨ level = 4 ∨ level = 5 ∨ level = 6 ∨ level = 7 := by omega
      exacts [⟨.cool, rfl⟩, ⟨.normal, rfl⟩, ⟨.warm, rfl⟩, ⟨.hot, rfl⟩, ⟨.overheated, rfl⟩,
        ⟨.warning, rfl⟩, ⟨.emergency, rfl⟩, ⟨.escape, rfl⟩]
    refine .inr ⟨value, ?_⟩
    rw [decided, if_pos hnew, step_store (hidle hnew) hnew]
  · exact .inl (if_neg hnew)

theorem lastValue_step {e : ListenerEvent} (hstore : ∀ level, e ≠ .store level) :
    (s.step e).lastValue = s.lastValue := by
  cases e with
  | store level => exact absurd rfl (hstore level)
  | notify =>
    show s.notify.lastValue = s.lastValue
    have hstep := notifyStep s
    generalize s.notify = next at hstep ⊢
    cases hstep <;> rfl
  | insert callback isSync =>
    cases callback with
    | none => rfl
    | some callback => exact lastValue_step_insert
  | read i => rfl
  | deliver i =>
    by_cases h : ∃ listener level, s.subscriptions[i]? = some ⟨listener, some level⟩
    · obtain ⟨listener, level, hread⟩ := h
      rw [step_deliver hread]
      rfl
    · rw [step_deliver_of_not fun listener level heq => h ⟨listener, level, heq⟩]
  | unSubscribe callback => cases callback <;> rfl

end LevelSystem

namespace NapiClient

variable {object : RemoteObject} {s : NapiClient} {isStrict : Bool} {events : List NapiEvent}

/-- A level that is decided comes to the client as an event, or not at all. -/
theorem run_decided (hrun : Run (Timely object) (step object) (start isStrict) events s)
    {level : Int} (hlevel : level = s.levels.lastValue ∨ InLevels level)
    (hidle : level ≠ s.levels.lastValue → s.levels.notifier = .idle) :
    ∃ events', Run (Timely object) (step object) (start isStrict) events'
      { s with levels := s.levels.decided level } := by
  have hcases : s.levels.decided level = s.levels ∨
      ∃ value, s.levels.decided level = s.levels.step (.store value) := by
    rcases hlevel with hsame | hinLevels
    · exact .inl (if_neg (not_not.mpr hsame))
    · exact LevelSystem.decided_eq_step hinLevels hidle
  rcases hcases with hsame | ⟨value, hstored⟩
  · rw [hsame]
    exact ⟨events, hrun⟩
  · have hstep : s.step object (.atService (.store value)) =
        { s with levels := s.levels.decided level } := by
      simp [step, atService, LevelSystem.called, hstored]
    rw [← hstep]
    exact ⟨_, hrun.snoc (timely_atService.mpr ⟨trivial, trivial⟩)⟩

theorem lastValue_step {e : NapiEvent} (hstore : ∀ level, e ≠ .atService (.store level)) :
    (s.step object e).levels.lastValue = s.levels.lastValue := by
  rcases step_levels object s e with hsame | ⟨listenerEvent, hstep, hcase⟩
  · rw [hsame]
  · rw [hstep, LevelSystem.lastValue_step]
    rintro level rfl
    rcases hcase with rfl | hinsert | hunSubscribe
    · exact hstore level rfl
    · cases hinsert
    · cases hunSubscribe

end NapiClient

/-! ### The whole way -/

structure ScriptedService where
  service : ThermalService
  client : NapiClient

inductive ScriptedEvent
  | service (e : ServiceEvent)
  | client (e : NapiEvent)

def ScriptedEvent.service? : ScriptedEvent → Option ServiceEvent
  | .service e => some e
  | .client _ => none

namespace ScriptedService

open ThermalService

variable (slope : List Int → Double) (build : ServiceBuild) (object : RemoteObject)
  (s : ScriptedService)

/-- The level action may have decided a level. -/
def atService (service : ThermalService) : ScriptedService where
  service
  client := { s.client with
    levels := (service.actionMap[thermalLevelName]?).elim s.client.levels fun timed =>
      s.client.levels.decided timed.action.lastValue }

def step : ScriptedEvent → ScriptedService
  | .service e =>
      match s.service.step slope build e with
      | .done service => s.atService service
      | _ => s
  | .client e => { s with client := s.client.step object e }

/-- The service decides a new level when the change to the one before is over, and no one else
does. -/
def Timely : ScriptedEvent → Prop
  | .service e => ∃ service, s.service.step slope build e = .done service ∧
      ∀ timed, service.actionMap[thermalLevelName]? = some timed →
        timed.action.lastValue ≠ s.client.levels.lastValue → s.client.levels.notifier = .idle
  | .client e => s.client.Timely object e ∧ ∀ level, e ≠ .atService (.store level)

/-- The service with its modules, and the script as it is started. -/
def start (config : ServiceConfig) (started : Started) (manager : ThermalActionManager)
    (isStrict : Bool) : ScriptedService where
  service := .start config started manager.registered manager.socSet
  client := .start isStrict

/-- What the clusters are evaluated with in a run. -/
def evaluated (config : ServiceConfig) (started : Started) (manager : ThermalActionManager)
    (events : List ScriptedEvent) : List Report :=
  evaluationsOf slope build (.start config started manager.registered manager.socSet)
    (events.filterMap ScriptedEvent.service?)

/-- The policies ask for nothing but thermal levels. -/
def LevelsOnly (config : ServiceConfig) : Prop :=
  ∀ (clusterName : String) (policyConfig : List PolicyConfig),
    (config .policyMap)[clusterName]? = some policyConfig →
    ∀ levelAction ∈ policyConfig, ∀ action ∈ levelAction.policyActionList,
      action.actionName = thermalLevelName →
        ∀ v ∈ actionThermalLevel.parse action.actionValue, InLevels v

variable {slope build object s} {config : ServiceConfig} {started : Started}
  {manager : ThermalActionManager} {isStrict : Bool} {events : List ScriptedEvent}

theorem run_served (hbooted : Booted config started)
    (hrun : Run (Timely slope build object) (step slope build object)
      (start config started manager isStrict) events s) :
    Served slope build config started manager.registered manager.socSet
      (events.filterMap ScriptedEvent.service?) s.service := by
  induction hrun with
  | nil => exact ⟨hbooted, rfl⟩
  | @snoc mid events e hbefore htimely ih =>
    rw [List.filterMap_append]
    cases e with
    | client e =>
      rw [show [ScriptedEvent.client e].filterMap ScriptedEvent.service? = [] from rfl,
        List.append_nil]
      exact ih
    | service e =>
      obtain ⟨service, hstep, -⟩ := htimely
      refine ⟨hbooted, ?_⟩
      rw [step, hstep]
      apply foldlM_append_eq_done_iff.mpr
      refine ⟨mid.service, ih.run, foldlM_cons_eq_done_iff.mpr ⟨service, hstep, rfl⟩⟩

theorem LevelsOnly.executes (h : LevelsOnly config) {evaluated : List Report} {v : Int}
    (hexecutes : Executes config evaluated thermalLevelName actionThermalLevel isStrict v) :
    InLevels v := by
  rcases hexecutes with ⟨-, rfl⟩ | hpick
  · decide
  · obtain ⟨clusterName, _, policyConfig, levelAction, action, -, -, hconfig, hgoverns, hadmitted,
      hparse⟩ := hpick.mem
    obtain ⟨before, after, hlist, hname, -⟩ := hadmitted
    have haction : action ∈ levelAction.policyActionList := by
      rw [hlist]
      exact List.mem_append_right _ List.mem_cons_self
    exact h clusterName policyConfig hconfig levelAction hgoverns.mem action haction hname v hparse

theorem toInt32_inLevels {level : Int} (h : InLevels level) : toInt32 level = level := by
  obtain ⟨hmin, hmax⟩ := h
  change 0 ≤ level at hmin
  change level ≤ 7 at hmax
  rw [toInt32, Int.bmod_eq_of_le] <;> omega

/-- For the client a step of the service decides a thermal level or nothing. -/
theorem step_client {serviceEvents : List ServiceEvent} {e : ServiceEvent}
    {service service' : ThermalService} {client : NapiClient}
    (h : Served slope build config started manager.registered manager.socSet serviceEvents service)
    (h' : Served slope build config started manager.registered manager.socSet
      (serviceEvents ++ [e]) service')
    (hdistinct : (policyAfter config []).DistinctLevels)
    (hnodelay : (policyAfter config []).NoDelay) (honly : LevelsOnly config)
    (hregistered : manager.registered[thermalLevelName]? = some (actionThermalLevel, isStrict))
    (hsoc : thermalLevelName ∉ manager.socSet)
    (hlevel : (service.actionMap[thermalLevelName]?).map (fun timed => timed.action.lastValue) =
      some client.levels.lastValue) :
    ∃ timed, service'.actionMap[thermalLevelName]? = some timed ∧
      (timed.action.lastValue = client.levels.lastValue ∨ InLevels timed.action.lastValue) := by
  obtain ⟨hsocSet, w, hw, hundelayed, -⟩ := h.settled hdistinct hnodelay hregistered hsoc
  rw [hw, Option.map_some] at hlevel
  rw [← hsocSet] at hsoc
  rcases h.step_executes h' hdistinct hnodelay hregistered hsoc hw hundelayed with
    ⟨-, hsame⟩ | ⟨_, v, w', -, hw', -, hexecutes, hlast⟩
  · exact ⟨w, hsame, .inl (Option.some.inj hlevel)⟩
  · have hv := honly.executes hexecutes
    have hresult : actionThermalLevel.toResult v = v := toInt32_inLevels hv
    refine ⟨w', hw', .inr ?_⟩
    rw [hlast, hresult]
    exact hv

/-- The client of the whole device behaves as the client alone. -/
theorem run_client (hbooted : Booted config started)
    (hdistinct : (policyAfter config []).DistinctLevels)
    (hnodelay : (policyAfter config []).NoDelay) (honly : LevelsOnly config)
    (hregistered : manager.registered[thermalLevelName]? = some (actionThermalLevel, isStrict))
    (hsoc : thermalLevelName ∉ manager.socSet)
    (hrun : Run (Timely slope build object) (step slope build object)
      (start config started manager isStrict) events s) :
    (∃ napiEvents, Run (NapiClient.Timely object) (NapiClient.step object)
      (NapiClient.start isStrict) napiEvents s.client) ∧
    (s.service.actionMap[thermalLevelName]?).map (fun timed => timed.action.lastValue) =
      some s.client.levels.lastValue := by
  induction hrun with
  | nil =>
    refine ⟨⟨[], .nil _⟩, ?_⟩
    rw [show (start config started manager isStrict).service.actionMap[thermalLevelName]? = _ from
      init_lookup hregistered]
    rfl
  | @snoc mid events e hbefore htimely ih =>
    obtain ⟨⟨napiEvents, hclient⟩, hlevel⟩ := ih
    cases e with
    | client e =>
      obtain ⟨htimely, hstore⟩ := htimely
      refine ⟨⟨_, hclient.snoc htimely⟩, hlevel.trans (congrArg some ?_)⟩
      exact (NapiClient.lastValue_step hstore).symm
    | service e =>
      have hserved := run_served hbooted (hbefore.snoc htimely)
      obtain ⟨service, hstep, hidle⟩ := htimely
      rw [step, hstep] at hserved ⊢
      rw [List.filterMap_append] at hserved
      obtain ⟨timed, htimed, hcase⟩ := step_client (run_served hbooted hbefore) hserved hdistinct
        hnodelay honly hregistered hsoc hlevel
      change service.actionMap[thermalLevelName]? = some timed at htimed
      have hstored : (mid.atService service).client =
          { mid.client with levels := mid.client.levels.decided timed.action.lastValue } := by
        simp only [atService, htimed, Option.elim_some]
      change (∃ napiEvents, Run _ _ _ napiEvents (mid.atService service).client) ∧
        (service.actionMap[thermalLevelName]?).map _ =
          some (mid.atService service).client.levels.lastValue
      rw [hstored, htimed]
      exact ⟨NapiClient.run_decided hclient hcase (hidle timed htimed),
        congrArg some (LevelSystem.decided_lastValue _ _).symm⟩

/-- **From the reports to the script.** Take any run of a device with one thermal level, whose
policies ask for thermal levels without delays, in which the clusters were evaluated and no
subscription hands over an outdated level. Once all calls at the service have returned and nothing
is on its way to the script, its function was told last what the clusters contribute at most, or
least, at the levels they reach alone, or nothing at all; and it was told if the service did not
have its object before. -/
theorem script_told_extreme {item : ActionItem} (hbooted : Booted config started)
    (hinit : ThermalActionManager.init (config .actionItem) = some manager)
    (hone : ThermalActionManager.OneThermalLevel (config .actionItem) item)
    (hdistinct : (policyAfter config []).DistinctLevels)
    (hnodelay : (policyAfter config []).NoDelay) (honly : LevelsOnly config)
    (hrun : Run (Timely slope build object) (step slope build object)
      (start config started manager item.strict) events s)
    (hevaluated : evaluated slope build config started manager events ≠ [])
    (hfinished : s.client.levels.Finished) (hquiet : s.client.inFlight = [] ∧ s.client.events = 0)
    (hlistening : s.client.listening object) :
    ∃ v, Executes config (evaluated slope build config started manager events) thermalLevelName
        actionThermalLevel item.strict v ∧
      (∀ level, s.client.told = some level → level = v) ∧
      (s.client.anew → s.client.callback.callbackRef.isSome → s.client.told = some v) := by
  have hregistered := hone.registered hinit
  have hsoc := hone.not_mem_socSet hinit
  obtain ⟨⟨napiEvents, hclient⟩, hlevel⟩ :=
    run_client hbooted hdistinct hnodelay honly hregistered hsoc hrun
  obtain ⟨-, w, hw, -, hdecided⟩ :=
    (run_served hbooted hrun).settled hdistinct hnodelay hregistered hsoc
  obtain ⟨v, hexecutes, hlast⟩ := hdecided hevaluated
  have hresult : actionThermalLevel.toResult v = v := toInt32_inLevels (honly.executes hexecutes)
  rw [hw, Option.map_some, hlast, hresult] at hlevel
  obtain ⟨hcurrent, htold⟩ := NapiClient.told_lastValue hclient hfinished hquiet hlistening
  rw [← Option.some.inj hlevel] at hcurrent htold
  exact ⟨v, hexecutes, hcurrent, htold⟩

theorem notifier_idle_iff {phase : NotifierPhase} : phase = .idle ↔ phase.level? = none := by
  cases phase <;> simp [NotifierPhase.level?]

theorem timely_service {s : ScriptedService} {e : ServiceEvent}
    (hdone : (s.service.step slope build e).isDone) (hidle : s.client.levels.notifier = .idle) :
    s.Timely slope build object (.service e) := by
  obtain ⟨service, hstep⟩ := isDone_iff.mp hdone
  exact ⟨service, hstep, fun _ _ _ => hidle⟩

theorem timely_notify : s.Timely slope build object (.client (.atService .notify)) :=
  ⟨NapiClient.timely_atService.mpr ⟨trivial, trivial⟩, nofun⟩

theorem timely_read {i : Nat} : s.Timely slope build object (.client (.atService (.read i))) :=
  ⟨NapiClient.timely_atService.mpr ⟨trivial, trivial⟩, nofun⟩

/-- A service whose only action is the thermal level. -/
def levelFile : XmlFile :=
  thermalFile [twoSensorSection "40,38",
    { name := "action", xmlChildrenNode := [
      { name := "item", properties := [("name", "thermallevel")] }] },
    { name := "policy", xmlChildrenNode := [
      { name := "config", properties := [("name", "base"), ("level", "1")],
        xmlChildrenNode := [{ name := "thermallevel", content := some "3" }] }] }]

/-- A script subscribes, and the battery gets warm before anything is told. -/
def scriptedBattery : List ScriptedEvent :=
  [.client (.subscribeThermalLevel 0 true true), .client (.atService (.read 0)),
    .client (.atService (.deliver 0)), .service (.thermalCallback [("battery", 41)] plainRound),
    .client (.atService .notify), .client (.atService .notify), .client (.atService .notify),
    .client (.atService .notify), .client (.atService .notify),
    .client (.onAsyncThermalLevelChanged true), .client (.onAsyncThermalLevelChanged true),
    .client (.onThermalLevel true), .client (.onThermalLevel true)]

theorem scriptedBattery_told : ∃ config started manager s v,
    Run (Timely noSlope deviceBuild 1) (step noSlope deviceBuild 1)
      (start config started manager false) scriptedBattery s ∧
    Executes config (evaluated noSlope deviceBuild config started manager scriptedBattery)
      thermalLevelName actionThermalLevel false v ∧
    s.client.told = some v := by
  obtain ⟨config, started, manager, hload, hstart, hinit, hone, hdistinct, hnodelay, honly, hrun,
      hevaluated, hfinished, hquiet, hlistening, hanew, hset⟩ : ∃ config started manager,
      thermalSrvConfigInit decimalConversions unsetVariables levelFile initialConfig =
        some (true, config) ∧
      startUp config {} = .done started ∧
      ThermalActionManager.init (config .actionItem) = some manager ∧
      ThermalActionManager.OneThermalLevel (config .actionItem) { name := "thermallevel" } ∧
      (policyAfter config []).DistinctLevels ∧ (policyAfter config []).NoDelay ∧
      LevelsOnly config ∧
      Enabled (Timely noSlope deviceBuild 1) (step noSlope deviceBuild 1)
        (start config started manager false) scriptedBattery ∧
      evaluated noSlope deviceBuild config started manager scriptedBattery ≠ [] ∧
      (scriptedBattery.foldl (step noSlope deviceBuild 1)
        (start config started manager false)).client.levels.Finished ∧
      ((scriptedBattery.foldl (step noSlope deviceBuild 1)
        (start config started manager false)).client.inFlight = [] ∧
      (scriptedBattery.foldl (step noSlope deviceBuild 1)
        (start config started manager false)).client.events = 0) ∧
      (scriptedBattery.foldl (step noSlope deviceBuild 1)
        (start config started manager false)).client.listening 1 ∧
      (scriptedBattery.foldl (step noSlope deviceBuild 1)
        (start config started manager false)).client.anew ∧
      (scriptedBattery.foldl (step noSlope deviceBuild 1)
        (start config started manager false)).client.callback.callbackRef.isSome := by
    refine ⟨_, _, _, rfl, rfl, rfl, ⟨rfl, rfl⟩, forall_entries (by decide),
      forall_entries (by decide), forall_entries (by decide), ?run, ?evaluated, ⟨?idle, ?none⟩,
      ?quiet, ?listening, ?anew, ?set⟩
    case run =>
      refine ⟨⟨⟨trivial, nofun⟩, nofun⟩, timely_read,
        ⟨NapiClient.timely_atService.mpr ⟨trivial, ?current⟩, nofun⟩, timely_service ?served rfl,
        timely_notify, timely_notify, timely_notify, timely_notify, timely_notify,
        ⟨⟨⟨?_, rfl⟩, nofun⟩, nofun⟩, ⟨⟨⟨?_, rfl⟩, nofun⟩, nofun⟩, ⟨⟨⟨?_, rfl⟩, nofun⟩, nofun⟩,
        ⟨⟨⟨?_, rfl⟩, nofun⟩, nofun⟩, trivial⟩
      case current =>
        intro listener level hread _ hother
        cases hread
        exact absurd rfl hother
      all_goals decide +kernel
    case evaluated => exact List.ne_nil_of_length_pos (by decide +kernel)
    case idle => exact notifier_idle_iff.mpr (by decide +kernel)
    case none => exact List.eq_nil_of_length_eq_zero (by decide +kernel)
    all_goals decide +kernel
  have hbooted : Booted config started := ⟨⟨_, _, .loaded .initial hload⟩, ⟨{}, hstart⟩⟩
  obtain ⟨v, hexecutes, -, htold⟩ := script_told_extreme hbooted hinit hone hdistinct hnodelay honly
    hrun.run hevaluated hfinished hquiet hlistening
  exact ⟨config, started, manager, _, v, hrun.run, hexecutes, htold hanew hset⟩

end ScriptedService

end ThermalManager
