import ThermalManager.Service.ServiceLevels

/-!
# Client states over the life of the service

Clients set states and the scene, and the machine is initialised whenever the common event service
is added. What a client state answers depends on the accepted calls of the clients only.
-/

namespace ThermalManager

open Outcome

namespace ThermalService

variable {slope : List Int → Double} {build : ServiceBuild} {s s' : ThermalService}

def lastScene (events : List ServiceEvent) : String := (events.filterMap sceneOf).getLastD ""

/-! ### Steps -/

theorem onTemperatureChanged_states {typeTempMap : TypeTempMap} {env : RoundEnv}
    (hdone : s.onTemperatureChanged slope typeTempMap env = .done s') :
    s'.state = s.state ∧ s'.scene = s.scene := by
  rw [onTemperatureChanged] at hdone
  split at hdone
  case isTrue =>
    cases hdone
    exact ⟨rfl, rfl⟩
  case isFalse =>
    obtain ⟨received, hreceived, hdone⟩ := bind_eq_done_iff.mp hdone
    cases hdone
    rw [onReceivedSensorInfo] at hreceived
    obtain ⟨reported, -, hreceived⟩ := bind_eq_done_iff.mp hreceived
    cases hreceived
    exact ⟨rfl, rfl⟩

theorem executePolicy_states {env : RoundEnv} (hdone : s.executePolicy env = .done s') :
    s'.state = s.state ∧ s'.scene = s.scene := by
  rw [executePolicy] at hdone
  obtain ⟨policy, -, hdone⟩ := bind_eq_done_iff.mp hdone
  obtain ⟨actionMap, -, hdone⟩ := bind_eq_done_iff.mp hdone
  cases hdone
  exact ⟨rfl, rfl⟩

theorem step_states {e : ServiceEvent} (hstep : s.step slope build e = .done s') :
    s'.state = s.stateAfter build e ∧ s'.scene = (sceneOf e).getD s.scene := by
  have hcase : StepCase slope build s e _ := s.step_cases e
  rw [hstep] at hcase
  generalize houtcome : Outcome.done s' = outcome at hcase
  cases hcase with
  | report hreport honly =>
    rw [stateAfter, honly.state, honly.scene]
    exact onTemperatureChanged_states houtcome.symm
  | immediate hreport hswitch himmediate hscene =>
    rw [hscene]
    exact executePolicy_states houtcome.symm
  | other hreport himmediate observer =>
    cases houtcome
    exact ⟨rfl, rfl⟩

/-! ### Runs -/

theorem run_states {events : List ServiceEvent}
    (hrun : events.foldlM (step slope build) s = .done s') :
    s'.state = (events.flatMap stateOps).foldl (StateMachine.apply build.batteryManagerEnable)
        s.state ∧
      s'.scene = (events.filterMap sceneOf).getLastD s.scene := by
  induction events generalizing s with
  | nil =>
    cases hrun
    exact ⟨rfl, rfl⟩
  | cons e rest ih =>
    obtain ⟨mid, hmid, hrest⟩ := foldlM_cons_eq_done_iff.mp hrun
    obtain ⟨hstate, hscene⟩ := step_states hmid
    obtain ⟨hstates, hscenes⟩ := ih hrest
    rw [List.flatMap_cons, List.foldl_append, hstates, hstate, hscenes, hscene]
    refine ⟨rfl, ?_⟩
    cases hset : sceneOf e with
    | none => rw [List.filterMap_cons_none hset, Option.getD_none]
    | some scene => rw [List.filterMap_cons_some hset, List.getLastD_cons, Option.getD_some]

section Served

variable {config : ServiceConfig} {started : Started}
  {registered : Map String (ActionClass × Bool)} {socSet : List String}
  {events : List ServiceEvent}

/-- **What a client state answers.** A state that only clients set answers from the last accepted
value of its own updates, or from the last scene; no report, no decision and no other state changes
the answer, nor does the order of updates and initialisation. A state that was never updated holds
nothing before the initialisation, and after it only if it is configured. -/
theorem service_state_answers
    (h : Served slope build config started registered socSet events s) {name : String}
    {cls : ClientClass} (hclass : CollectionClass.ofName name = cls.collectionClass)
    (eventAnswer : CollectionRef → String → Outcome Bool) (value : String) :
    (StateMachine.Offered (config .stateItem) (events.flatMap stateOps) name →
      s.state.decideState eventAnswer s.scene name value = StateMachine.clientAnswer
        (StateMachine.updatesOf name (events.flatMap stateOps)) (lastScene events) value cls) ∧
    (¬ StateMachine.Offered (config .stateItem) (events.flatMap stateOps) name →
      s.state.decideState eventAnswer s.scene name value = .done false) := by
  obtain ⟨hstate, hscene⟩ := run_states h.run
  have hfollows : StateMachine.Follows (config .stateItem) (events.flatMap stateOps) s.state := by
    rw [hstate]
    exact StateMachine.follows_run _ _ _
  rw [show s.scene = lastScene events from hscene]
  exact hfollows.decideState hclass eventAnswer _ value

end Served

/-- An update from an application that is not a system one, and one before the initialisation. -/
def modeUpdates : List ServiceEvent :=
  [.updateThermalState true "mode" "game" false plainRound, .addCommonEventService,
    .updateThermalState false "mode" "video" true plainRound, .setScene true "call"]

def holdsAlways : CollectionRef → String → Outcome Bool := fun _ _ => .done true

theorem modeUpdates_answers :
    ∃ config started s, Served noSlope deviceBuild config started ∅ [] modeUpdates s ∧
      s.state.decideState holdsAlways s.scene "mode" "video,game" = .done true ∧
      s.state.decideState holdsAlways s.scene "scene" "call" = .done false := by
  have hload : thermalSrvConfigInit decimalConversions unsetVariables simulatedFile initialConfig =
      some (true, _) := rfl
  have hserved : Served noSlope deviceBuild _ _ ∅ [] modeUpdates _ :=
    ⟨⟨⟨_, _, .loaded .initial hload⟩, ⟨{}, rfl⟩⟩, rfl⟩
  have hmode : CollectionClass.ofName "mode" = ClientClass.extend.collectionClass := by decide
  have hscene : CollectionClass.ofName "scene" = ClientClass.scene.collectionClass := by decide
  refine ⟨_, _, _, hserved, ?_, ?_⟩
  · refine (service_state_answers hserved hmode holdsAlways "video,game").1 (.inl ?_)
    exact List.cons_ne_nil _ _
  · refine (service_state_answers hserved hscene holdsAlways "call").2 ?_
    rintro (hupdated | ⟨-, item, hitem, -⟩)
    · exact hupdated rfl
    · cases hitem

end ThermalService

end ThermalManager
