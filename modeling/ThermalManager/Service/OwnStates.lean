import ThermalManager.Policy.AskedStates
import ThermalManager.Service.ServiceActions

/-!
# The service and its own states

The rounds of the service ask the collections of its own state machine. Those that only clients set
are known from the machine; what the others answer comes with the event. A step here is the step of
the service under the answers that its machine gives at that moment, or does not return, because
the value that an extended state is compared with sends `SplitString` into a call without end.
-/

namespace ThermalManager

open Outcome

/-! ### The source -/

/-- An event, with what the collections answer that common events change. The answers in the event
itself are not looked at. -/
structure AskedEvent where
  event : ServiceEvent
  eventAnswer : CollectionRef → String → Bool

/-- `DecideState` of the collection that the state machine has under a name. -/
def ThermalService.decideState (s : ThermalService) (eventAnswer : CollectionRef → String → Bool)
    (name value : String) : Outcome Bool :=
  s.state.decideState (fun ref value => .done (eventAnswer ref value)) s.scene name value

namespace Asked

variable (eventAnswer : CollectionRef → String → Bool)

def onReceivedSensorInfo (s : ThermalService) (info : TypeTempMap) (env : RoundEnv) :
    Outcome ThermalService := do
  let reported ← onSensorInfoReported (s.decideState eventAnswer) s.simulationXml s.policy
    { info
      subscriber := s.subscriber.toThermalServiceSubscriber
      env
      actionMap := s.actionMap }
  .done { s with
    policy := reported.1
    actionMap := reported.2.2
    observer := (s.observer.onReceivedSensorInfo info).1 }

def onTemperatureChanged (slope : List Int → Double) (s : ThermalService)
    (typeTempMap : TypeTempMap) (env : RoundEnv) : Outcome ThermalService :=
  if typeTempMap.isEmpty then .done s
  else do
    let s := { s with subscriber := s.subscriber.receive typeTempMap }
    let s ← onReceivedSensorInfo eventAnswer s s.subscriber.typeTempMap env
    .done { s with
      subscriber := s.subscriber.setHistoryTypeTempMap slope s.subscriber.typeTempMap }

def executePolicy (s : ThermalService) (env : RoundEnv) : Outcome ThermalService := do
  let policy ← levelDecision (s.decideState eventAnswer) s.policy
    s.subscriber.toThermalServiceSubscriber
  let actionMap ←
    policyDecision (s.decideState eventAnswer) policy.toThermalPolicy env s.actionMap
  .done { s with policy, actionMap }

end Asked

/-- The event with these answers of the states. -/
def ServiceEvent.answered (states : StateMachineMap) : ServiceEvent → ServiceEvent
  | .thermalCallback event env => .thermalCallback event { env with stateMachineMap := states }
  | .getThermalInfo thermalInterface env =>
      .getThermalInfo thermalInterface { env with stateMachineMap := states }
  | .updateThermalState isSystem tag val isImmed env =>
      .updateThermalState isSystem tag val isImmed { env with stateMachineMap := states }
  | .shellDump isSystem isBootCompleted shown args env =>
      .shellDump isSystem isBootCompleted shown args { env with stateMachineMap := states }
  | e => e

namespace ThermalService

/-- What the collections answer where they return. -/
def ownStates (s : ThermalService) (eventAnswer : CollectionRef → String → Bool) :
    StateMachineMap :=
  s.state.stateCollectionMap.map fun name _ value =>
    match s.decideState eventAnswer name value with
    | .done holds => holds
    | _ => false

variable (slope : List Int → Double) (build : ServiceBuild)

/-- The machine as a round of the event finds it. -/
def atRound (s : ThermalService) (e : ServiceEvent) : ThermalService :=
  { s with state := s.stateAfter build e }

/-- The event with the answers of the service's own states. -/
def resolved (s : ThermalService) (e : AskedEvent) : ServiceEvent :=
  e.event.answered ((s.atRound build e.event).ownStates e.eventAnswer)

/-- The step of an event: a report and a decision at once ask for states, the rest of the handlers
ask for none. -/
def askedStep (s : ThermalService) (e : AskedEvent) : Outcome ThermalService :=
  match reportOf build s.isTempReport e.event with
  | some (typeTempMap, env) => Asked.onTemperatureChanged e.eventAnswer slope s typeTempMap env
  | none =>
      match immediateOf e.event with
      | some env => Asked.executePolicy e.eventAnswer (s.atRound build e.event) env
      | none => s.step slope build (s.resolved build e)

/-- The events of a run with the answers that each of them finds. -/
def resolvedRun : ThermalService → List AskedEvent → List ServiceEvent
  | _, [] => []
  | s, e :: rest =>
      s.resolved build e ::
        match s.step slope build (s.resolved build e) with
        | .done s' => resolvedRun s' rest
        | _ => rest.map AskedEvent.event

/-! ### Events under answers -/

variable {slope build} {s s' : ThermalService}

theorem kept_answered (states : StateMachineMap) (typeTempMap : TypeTempMap) (env : RoundEnv) :
    kept typeTempMap { env with stateMachineMap := states } =
      (kept typeTempMap env).map fun now => (now.1, { now.2 with stateMachineMap := states }) := by
  rw [kept, kept]
  split <;> rfl

theorem reportOf_answered (states : StateMachineMap) (isTempReport : Bool) (e : ServiceEvent) :
    reportOf build isTempReport (e.answered states) = (reportOf build isTempReport e).map
      fun now => (now.1, { now.2 with stateMachineMap := states }) := by
  cases e with
  | thermalCallback event env =>
    rw [ServiceEvent.answered, reportOf, reportOf, kept_answered]
    split <;> rfl
  | getThermalInfo thermalInterface env =>
    cases thermalInterface with
    | none => rfl
    | some answer =>
      rw [ServiceEvent.answered, reportOf, reportOf, kept_answered]
      split <;> rfl
  | shellDump isSystem isBootCompleted shown args env =>
    cases isSystem <;> cases isBootCompleted <;> cases args <;> try rfl
    rw [ServiceEvent.answered, reportOf, reportOf, emulated, emulated, kept_answered]
    split
    · split <;> rfl
    · rfl
  | _ => rfl

theorem immediateOf_answered (states : StateMachineMap) (e : ServiceEvent) :
    immediateOf (e.answered states) =
      (immediateOf e).map fun env => { env with stateMachineMap := states } := by
  cases e with
  | updateThermalState isSystem tag val isImmed env =>
    cases isSystem <;> cases isImmed <;> rfl
  | _ => rfl

theorem switchOf_answered (states : StateMachineMap) (e : ServiceEvent) :
    switchOf build (e.answered states) = switchOf build e := by
  cases e with
  | shellDump isSystem isBootCompleted shown args env =>
    cases isSystem <;> cases isBootCompleted <;> cases args <;> rfl
  | _ => rfl

theorem stateOps_answered (states : StateMachineMap) (e : ServiceEvent) :
    stateOps (e.answered states) = stateOps e := by
  cases e with
  | updateThermalState isSystem => cases isSystem <;> rfl
  | _ => rfl

theorem sceneOf_answered (states : StateMachineMap) (e : ServiceEvent) :
    sceneOf (e.answered states) = sceneOf e := by
  cases e with
  | setScene isSystem => cases isSystem <;> rfl
  | _ => rfl

/-- The answers decide neither which reports get through nor when. -/
theorem acceptedReports_resolvedRun (events : List AskedEvent) (isTempReport : Bool) :
    acceptedReports build isTempReport (resolvedRun slope build s events) =
      acceptedReports build isTempReport (events.map AskedEvent.event) := by
  induction events generalizing s isTempReport with
  | nil => rfl
  | cons e rest ih =>
    rw [resolvedRun, List.map_cons, acceptedReports, acceptedReports, resolved, reportOf_answered,
      switchOf_answered, Option.map_map]
    congr 1
    split
    · exact ih _
    · rfl

/-! ### A step under the answers -/

/-- The value sends the collection of an extended state into a call that does not return. -/
def Unending (name value : String) : Prop :=
  CollectionClass.ofName name = .extend ∧ ' ' ∈ value.toList

instance (name value : String) : Decidable (Unending name value) :=
  inferInstanceAs (Decidable (_ ∧ _))

theorem decideState_returns (eventAnswer : CollectionRef → String → Bool) {name value : String}
    (h : ¬ Unending name value) : ∃ holds, s.decideState eventAnswer name value = .done holds := by
  rw [decideState, StateMachine.decideState]
  split
  · exact ⟨_, rfl⟩
  · split
    case h_1 hclass =>
      have hsplit : splitString value ',' ≠ none := by
        intro hnone
        obtain ⟨str, hstr, hspace⟩ := splitString_eq_none_iff.mp hnone
        obtain rfl := Option.some.inj hstr
        exact h ⟨hclass, hspace⟩
      obtain ⟨valList, hvalList⟩ := Option.ne_none_iff_exists'.mp hsplit
      rw [ExtendStateCollection.decideState, hvalList]
      exact ⟨_, rfl⟩
    all_goals exact ⟨_, rfl⟩

theorem ownStates_holds (eventAnswer : CollectionRef → String → Bool) (name value : String) :
    (s.decideState eventAnswer name value).EndsAs True
      (.done ((s.ownStates eventAnswer).holds name value)) := by
  rw [StateMachineMap.holds, ownStates, Std.ExtTreeMap.getElem?_map]
  cases hstored : s.state.stateCollectionMap[name]? with
  | none =>
    rw [decideState, StateMachine.decideState, hstored]
    exact .refl _
  | some ref =>
    rw [Option.map_some, Option.any_some]
    dsimp only
    cases hdecide : s.decideState eventAnswer name value with
    | done holds => exact .refl _
    | diverges => exact .inr ⟨trivial, rfl⟩
    | faults =>
      rw [decideState, StateMachine.decideState, hstored] at hdecide
      dsimp only at hdecide
      split at hdecide
      case h_1 =>
        rw [ExtendStateCollection.decideState] at hdecide
        cases hsplit : splitString value ',' with
        | none =>
          rw [hsplit] at hdecide
          cases hdecide
        | some valList =>
          rw [hsplit] at hdecide
          cases hdecide
      all_goals cases hdecide

/-- What is asked for is answered by the own states; where no value is without end, it is answered
at all. -/
theorem answers_ownStates {mayDiverge : Prop} {asked : String → String → Prop}
    (hends : ∀ name value, asked name value → mayDiverge ∨ ¬ Unending name value)
    (s : ThermalService) (eventAnswer : CollectionRef → String → Bool) :
    Asked.Answers mayDiverge asked (s.decideState eventAnswer) (s.ownStates eventAnswer) := by
  intro name value hasked
  have hown := s.ownStates_holds eventAnswer name value
  rcases hends name value hasked with hmay | hends
  · rcases hown with heq | ⟨-, hdiverges⟩
    · exact .inl heq
    · exact .inr ⟨hmay, hdiverges⟩
  · obtain ⟨holds, hdone⟩ := @decideState_returns s eventAnswer name value hends
    exact .inl (hown.eq_of_ne fun hdiverges => by rw [hdone] at hdiverges; cases hdiverges)

/-- The states that an evaluation may ask for. -/
structure MayAsk (asked : String → String → Prop) (s : ThermalService) : Prop where
  clusters : Asked.AskedByClusters asked s.policy.sensorClusterMap
  entries : ∀ (typeTempMap : TypeTempMap) (states : StateMachineMap)
    (subscriber : ThermalServiceSubscriber) (decided : ReportingPolicy),
    { s.policy with typeTempMap }.levelDecision states subscriber = .done decided →
    Asked.AskedByEntries asked decided.toThermalPolicy

section Step

variable {mayDiverge : Prop} {asked : String → String → Prop}

theorem onTemperatureChanged_endsAs (hasks : MayAsk asked s)
    {eventAnswer : CollectionRef → String → Bool}
    (h : Asked.Answers mayDiverge asked (s.decideState eventAnswer) (s.ownStates eventAnswer))
    (typeTempMap : TypeTempMap) (env : RoundEnv) :
    (Asked.onTemperatureChanged eventAnswer slope s typeTempMap env).EndsAs mayDiverge
      (s.onTemperatureChanged slope typeTempMap
        { env with stateMachineMap := s.ownStates eventAnswer }) := by
  rw [Asked.onTemperatureChanged, onTemperatureChanged]
  split
  case isTrue => exact .refl _
  case isFalse =>
    have hreported (report : SensorReport) :
        (Asked.onSensorInfoReported _ s.simulationXml s.policy report).EndsAs mayDiverge _ :=
      Asked.onSensorInfoReported_endsAs h hasks.clusters
        (fun decided hdecided => hasks.entries _ _ _ decided hdecided) s.simulationXml
    exact EndsAs.bind (EndsAs.bind (hreported _) fun _ _ => .refl _) fun _ _ => .refl _

theorem executePolicy_endsAs (hasks : MayAsk asked s)
    {eventAnswer : CollectionRef → String → Bool}
    (h : Asked.Answers mayDiverge asked (s.decideState eventAnswer) (s.ownStates eventAnswer))
    (env : RoundEnv) :
    (Asked.executePolicy eventAnswer s env).EndsAs mayDiverge
      (s.executePolicy { env with stateMachineMap := s.ownStates eventAnswer }) := by
  refine (Asked.levelDecision_endsAs h hasks.clusters _).bind fun decided hdecided => ?_
  have hentries := hasks.entries s.policy.typeTempMap _ _ decided hdecided
  exact (Asked.policyDecision_endsAs h env hentries s.actionMap).bind fun _ _ => .refl _

/-- **A step is a step under the own answers**, if it returns, and it does where no value that may
be asked for is without end. -/
theorem askedStep_endsAs (hasks : MayAsk asked s)
    (hends : ∀ name value, asked name value → mayDiverge ∨ ¬ Unending name value)
    (e : AskedEvent) :
    (s.askedStep slope build e).EndsAs mayDiverge (s.step slope build (s.resolved build e)) := by
  have hcase : StepCase slope build s (s.resolved build e) _ := s.step_cases (s.resolved build e)
  have hreportOf : reportOf build s.isTempReport (s.resolved build e) = _ :=
    reportOf_answered ((s.atRound build e.event).ownStates e.eventAnswer) s.isTempReport e.event
  have himmediateOf :=
    immediateOf_answered ((s.atRound build e.event).ownStates e.eventAnswer) e.event
  rw [askedStep]
  cases hreport : reportOf build s.isTempReport e.event with
  | some now =>
    rw [hreport, Option.map_some] at hreportOf
    generalize s.step slope build (s.resolved build e) = outcome at hcase
    cases hcase with
    | report hnow honly =>
      cases hreportOf.symm.trans hnow
      have hstate : s.stateAfter build e.event = s.state := by
        rw [stateAfter, ← stateOps_answered
          ((s.atRound build e.event).ownStates e.eventAnswer) e.event]
        exact congrArg (List.foldl _ s.state) honly.state
      have hround : s.atRound build e.event = s := by
        rw [atRound, hstate]
      rw [hround]
      exact onTemperatureChanged_endsAs hasks (answers_ownStates hends s e.eventAnswer) now.1 now.2
    | immediate hnone => cases hreportOf.symm.trans hnone
    | other hnone => cases hreportOf.symm.trans hnone
  | none =>
    rw [hreport, Option.map_none] at hreportOf
    cases himmediate : immediateOf e.event with
    | none => exact .refl _
    | some env =>
      rw [himmediate, Option.map_some] at himmediateOf
      generalize s.step slope build (s.resolved build e) = outcome at hcase
      cases hcase with
      | report hnow => cases hreportOf.symm.trans hnow
      | immediate _ _ hnow =>
        cases himmediateOf.symm.trans hnow
        have hstate : s.stateAfter build (s.resolved build e) = s.stateAfter build e.event := by
          rw [stateAfter, stateAfter, resolved, stateOps_answered]
        rw [hstate]
        have hround : MayAsk asked (s.atRound build e.event) := ⟨hasks.clusters, hasks.entries⟩
        exact executePolicy_endsAs hround (answers_ownStates hends _ e.eventAnswer) env
      | other _ hnone => cases himmediateOf.symm.trans hnone

/-! ### Runs -/

theorem run_endsAs {inv : ThermalService → Prop} (hasks : ∀ s, inv s → MayAsk asked s)
    (hends : ∀ name value, asked name value → mayDiverge ∨ ¬ Unending name value)
    (hstep : ∀ s e s', inv s → s.step slope build e = .done s' → inv s') (hs : inv s)
    (events : List AskedEvent) :
    (events.foldlM (askedStep slope build) s).EndsAs mayDiverge
      ((resolvedRun slope build s events).foldlM (step slope build) s) := by
  induction events generalizing s with
  | nil => exact .refl _
  | cons e rest ih =>
    rw [resolvedRun, List.foldlM_cons, List.foldlM_cons]
    refine (askedStep_endsAs (hasks s hs) hends e).bind fun mid hmid => ?_
    rw [hmid]
    exact ih (hstep s _ mid hs hmid)

theorem mayAsk_anything (s : ThermalService) : MayAsk (fun _ _ => True) s where
  clusters _ _ _ _ _ := trivial
  entries _ _ _ _ _ _ _ _ _ _ _ _ _ _ _ _ := trivial

theorem step_resolved {e : AskedEvent} (hstep : s.askedStep slope build e = .done s') :
    s.step slope build (s.resolved build e) = .done s' := by
  have hends : (s.askedStep slope build e).EndsAs True _ :=
    askedStep_endsAs (mayAsk_anything s) (fun _ _ _ => .inl trivial) e
  rw [← hends.eq_of_ne (by rw [hstep]; exact nofun)]
  exact hstep

theorem run_resolved {events : List AskedEvent}
    (hreturns : events.foldlM (askedStep slope build) s ≠ .diverges) :
    events.foldlM (askedStep slope build) s =
      (resolvedRun slope build s events).foldlM (step slope build) s := by
  have hends : (events.foldlM (askedStep slope build) s).EndsAs True _ :=
    @run_endsAs slope build s True (fun _ _ => True) (fun _ => True)
      (fun s _ => mayAsk_anything s) (fun _ _ _ => .inl trivial) (fun _ _ _ _ _ => trivial) trivial
      events
  exact hends.eq_of_ne hreturns

theorem resolvedRun_append {events : List AskedEvent}
    (hrun : (resolvedRun slope build s events).foldlM (step slope build) s = .done s')
    (more : List AskedEvent) : resolvedRun slope build s (events ++ more) =
      resolvedRun slope build s events ++ resolvedRun slope build s' more := by
  induction events generalizing s with
  | nil =>
    cases hrun
    rfl
  | cons e rest ih =>
    rw [resolvedRun] at hrun
    obtain ⟨mid, hmid, hrest⟩ := foldlM_cons_eq_done_iff.mp hrun
    rw [hmid] at hrest
    rw [List.cons_append, resolvedRun, resolvedRun, hmid, List.cons_append]
    exact congrArg _ (ih hrest)

end Step

end ThermalService

end ThermalManager
