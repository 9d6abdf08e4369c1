import ThermalManager.Lib.Outcome
import ThermalManager.State.LiveStates

/-!
# States that clients set

`extend_state_collection.cpp`, `cust_state_collection.cpp` and `scene_state_collection.cpp`: states
that no common event changes. Whatever the order of the updates and the initialisation, and however
often a state is configured, the collection that the policy finds has received exactly the updates
of its state.
-/

namespace ThermalManager

/-! ### The source -/

/-- `StringOperation::ParseStrtoulResult`; a conversion that stops early is kept. -/
def parseStrtoulResult (str : String) : Option Nat :=
  match scanDecimal (cStr str) with
  | none => none
  | some scanned => if ulongMax < scanned.value then none else some (strtoul scanned)

structure ExtendStateCollection where
  stateValue : String := "-1"

namespace ExtendStateCollection

def setState (c : ExtendStateCollection) (stateValue : String) : ExtendStateCollection :=
  { c with stateValue }

/-- Nothing when `SplitString` does not return. -/
def decideState (c : ExtendStateCollection) (value : String) : Option Bool :=
  (splitString value ',').map fun valList => valList.any fun val => c.stateValue == val

end ExtendStateCollection

structure CustStateCollection where
  state : Nat := 0

namespace CustStateCollection

def setState (c : CustStateCollection) (stateValue : String) : CustStateCollection :=
  match parseStrtoulResult stateValue with
  | none => c
  | some result => { c with state := result }

def decideState (c : CustStateCollection) (value : String) : Bool :=
  match parseStrtoulResult value with
  | none => false
  | some result => c.state &&& result != 0

end CustStateCollection

/-- `SceneStateCollection::DecideState`: the scene is that of the service, and an update of the
state does nothing. -/
def sceneDecideState (scene value : String) : Bool := !scene.isEmpty && scene == value

def setValues (calls : List CollectionCall) : List String :=
  calls.filterMap fun call =>
    match call with
    | .setState stateValue => some stateValue
    | _ => none

/-- The answer of the collection that the policy finds under a name; a state without a collection
does not hold. `eventAnswer` is what the collections answer that common events change. -/
def StateMachine.decideState (eventAnswer : CollectionRef → String → Outcome Bool)
    (s : StateMachine) (scene name value : String) : Outcome Bool :=
  match s.stateCollectionMap[name]? with
  | none => .done false
  | some ref =>
      match CollectionClass.ofName name with
      | .extend => .orDiverges <|
          ((setValues (s.calls ref)).foldl ExtendStateCollection.setState {}).decideState value
      | .cust => .done <|
          ((setValues (s.calls ref)).foldl CustStateCollection.setState {}).decideState value
      | .scene => .done (sceneDecideState scene value)
      | _ => eventAnswer ref value

/-- The classes whose states only clients set. -/
inductive ClientClass where
  | scene | cust | extend

def ClientClass.collectionClass : ClientClass → CollectionClass
  | .scene => .scene
  | .cust => .cust
  | .extend => .extend

/-- What happens to the state machine. -/
inductive StateOp where
  | init
  | updateState (name value : String)
  deriving DecidableEq

namespace StateMachine

def apply (batteryManagerEnable : Bool) (s : StateMachine) : StateOp → StateMachine
  | .init => s.init batteryManagerEnable
  | .updateState name value => s.updateState (name, value)

def updatesOf (name : String) (ops : List StateOp) : List String :=
  ops.filterMap fun op =>
    match op with
    | .updateState other value => if other = name then some value else none
    | .init => none

variable {batteryManagerEnable : Bool}
variable {s : StateMachine} {name : String} {ref : CollectionRef}

/-! ### What the collections have received -/

theorem setValues_append (calls calls' : List CollectionCall) :
    setValues (calls ++ calls') = setValues calls ++ setValues calls' :=
  List.filterMap_append

theorem setValues_setupCalls (state : StateItem) : setValues (setupCalls state) = [] := by
  rw [setupCalls]
  cases state.isExistParam <;> rfl

/-- The collections have received the updates of their states, and a state without a collection has
had none. -/
structure Received (updates : String → List String) (s : StateMachine) : Prop where
  wellFormed : s.WellFormed
  charger : setValues (s.calls .charger) = updates stateCharger
  stored : ∀ (name : String) (ref : CollectionRef), s.stateCollectionMap[name]? = some ref →
    setValues (s.calls ref) = updates name
  absent : ∀ name : String, s.stateCollectionMap[name]? = none → updates name = []

variable {updates : String → List String}

theorem Received.createdRef (h : s.Received updates)
    (hnone : s.stateCollectionMap[name]? = none) :
    setValues (s.calls (s.createdRef name)) = updates name := by
  by_cases hcharger : name = stateCharger
  · rw [StateMachine.createdRef, if_pos hcharger, h.charger, hcharger]
  · rw [h.wellFormed.calls_createdRef hcharger, h.absent name hnone]
    rfl

theorem Received.initState (h : s.Received updates) (state : StateItem) :
    (s.initState batteryManagerEnable state).Received updates := by
  have hcalls (other : CollectionRef) :
      setValues ((s.initState batteryManagerEnable state).calls other) =
        setValues (s.calls other) := by
    rw [initState_eq]
    dsimp only
    split
    · rw [setValues_append, setValues_setupCalls, List.append_nil]
    · rfl
  refine { wellFormed := h.wellFormed.initState state, charger := ?charger, stored := ?stored,
           absent := ?absent }
  case charger => rw [hcalls, h.charger]
  case stored =>
    intro name ref hstored
    rw [hcalls]
    rw [initState_eq] at hstored
    change (s.stateCollectionMap.insertIfNew _ _)[name]? = _ at hstored
    rw [Fanout.getElem?_insertIfNew_or, Option.or_eq_some_iff] at hstored
    rcases hstored with hold | ⟨hnone, hnew⟩
    · exact h.stored name ref hold
    · obtain ⟨rfl, href⟩ := Option.ite_none_right_eq_some.mp hnew
      obtain rfl := Option.some.inj href
      exact h.createdRef hnone
  case absent =>
    intro name hnone
    rw [initState_eq] at hnone
    change (s.stateCollectionMap.insertIfNew _ _)[name]? = _ at hnone
    rw [Fanout.getElem?_insertIfNew_or, Option.or_eq_none_iff] at hnone
    exact h.absent name hnone.1

def withUpdate (updates : String → List String) (state : String × String) :
    String → List String :=
  fun name => if name = state.1 then updates name ++ [state.2] else updates name

theorem Received.reached (h : s.Received updates) (state : String × String) :
    ∃ ref, ref.stateName = state.1 ∧ (state.1 = stateCharger → ref = .charger) ∧
      setValues (s.calls ref) = updates state.1 ∧
      (s.updateState state).stateCollectionMap[state.1]? = some ref ∧
      (∀ other, (s.updateState state).calls other =
        if other = ref then s.calls other ++ [.setState state.2] else s.calls other) ∧
      ∀ name : String, name ≠ state.1 →
        (s.updateState state).stateCollectionMap[name]? = s.stateCollectionMap[name]? := by
  cases hstored : s.stateCollectionMap[state.1]? with
  | some ref =>
    obtain ⟨hname, hknown⟩ := h.wellFormed.stored state.1 ref hstored
    rw [updateState_of_some hstored]
    exact ⟨ref, hname, fun hcharger => hknown.eq_charger (hname.trans hcharger),
      h.stored state.1 ref hstored, hstored, fun _ => rfl, fun _ _ => rfl⟩
  | none =>
    rw [updateState_of_none hstored]
    refine ⟨s.createdRef state.1, s.createdRef_stateName state.1, fun hcharger => ?_,
      h.createdRef hstored, ?_, fun _ => rfl, fun name hne => ?_⟩
    · rw [StateMachine.createdRef, if_pos hcharger]
    · show (s.stateCollectionMap.insertIfNew _ _)[state.1]? = _
      rw [Fanout.getElem?_insertIfNew_or, hstored, if_pos rfl]
      rfl
    · show (s.stateCollectionMap.insertIfNew _ _)[name]? = _
      rw [Fanout.getElem?_insertIfNew_or, if_neg hne.symm, Option.or_none]

theorem Received.updateState (h : s.Received updates) (state : String × String) :
    (s.updateState state).Received (withUpdate updates state) := by
  obtain ⟨ref, hname, hcharger, hvalues, hfound, hcalls, hothers⟩ := h.reached state
  have happended : setValues ((s.updateState state).calls ref) =
      withUpdate updates state state.1 := by
    rw [hcalls, if_pos rfl, setValues_append, hvalues, withUpdate, if_pos rfl]
    rfl
  have hkept {other : CollectionRef} (hne : other.stateName ≠ state.1) :
      (s.updateState state).calls other = s.calls other := by
    rw [hcalls, if_neg]
    rintro rfl
    exact hne hname
  refine { wellFormed := h.wellFormed.updateState state, charger := ?charger, stored := ?stored,
           absent := ?absent }
  case charger =>
    by_cases hstate : state.1 = stateCharger
    · rw [← hcharger hstate, happended, hstate]
    · have hother : CollectionRef.charger.stateName ≠ state.1 := Ne.symm hstate
      rw [hkept hother, h.charger, withUpdate, if_neg (Ne.symm hstate)]
  case stored =>
    intro name other hother
    by_cases hstate : name = state.1
    · subst hstate
      obtain rfl := Option.some.inj (hfound.symm.trans hother)
      exact happended
    · rw [hothers name hstate] at hother
      have hstored := (h.wellFormed.stored name other hother).1
      rw [hkept (hstored ▸ hstate), h.stored name other hother, withUpdate, if_neg hstate]
  case absent =>
    intro name hnone
    have hstate : name ≠ state.1 := by
      rintro rfl
      exact Option.some_ne_none ref (hfound.symm.trans hnone)
    rw [hothers name hstate] at hnone
    rw [withUpdate, if_neg hstate, h.absent name hnone]

/-! ### Runs -/

/-- The machine after the operations so far: it is initialised if it has been told to be, its states
are the configured ones and updated ones, and a state has a collection when it was updated, or is
configured and the machine is initialised. -/
structure Follows (items : List StateItem) (ops : List StateOp) (s : StateMachine) : Prop where
  received : s.Received fun name => updatesOf name ops
  initFlag : s.initFlag = true ↔ .init ∈ ops
  vState : ∃ added, s.vState = items ++ added ∧ ∀ item ∈ added, updatesOf item.name ops ≠ []
  present : ∀ name : String, s.stateCollectionMap[name]? = none ↔
    updatesOf name ops = [] ∧ (.init ∈ ops → ∀ item ∈ items, item.name ≠ name)

variable {items : List StateItem} {ops : List StateOp}

theorem follows_start (items : List StateItem) : Follows items [] { vState := items } where
  received :=
    { wellFormed := wellFormed_start items
      charger := rfl
      stored := fun _ _ h => by simp at h
      absent := fun _ _ => rfl }
  initFlag := by simp
  vState := ⟨[], (List.append_nil items).symm, by simp⟩
  present := fun _ => by simp [updatesOf]

theorem updatesOf_append (name : String) (ops ops' : List StateOp) :
    updatesOf name (ops ++ ops') = updatesOf name ops ++ updatesOf name ops' :=
  List.filterMap_append

theorem updatesOf_concat_update (state : String × String) (ops : List StateOp) :
    (fun name => updatesOf name (ops ++ [.updateState state.1 state.2])) =
      withUpdate (fun name => updatesOf name ops) state := by
  funext name
  rw [updatesOf_append, withUpdate]
  by_cases hname : name = state.1
  · subst hname
    simp [updatesOf]
  · rw [if_neg hname]
    simp [updatesOf, Ne.symm hname]

theorem updatesOf_concat_init (name : String) (ops : List StateOp) :
    updatesOf name (ops ++ [.init]) = updatesOf name ops := by
  rw [updatesOf_append]
  exact List.append_nil _

theorem updateState_initFlag (s : StateMachine) (state : String × String) :
    (s.updateState state).initFlag = s.initFlag := by
  cases hstored : s.stateCollectionMap[state.1]? with
  | none => rw [updateState_of_none hstored]
  | some ref =>
    rw [updateState_of_some hstored]
    rfl

theorem Follows.updateState (h : Follows items ops s) (state : String × String) :
    Follows items (ops ++ [.updateState state.1 state.2]) (s.updateState state) := by
  have hinit : StateOp.init ∈ ops ++ [.updateState state.1 state.2] ↔ .init ∈ ops := by simp
  have hupdates := updatesOf_concat_update state ops
  refine { received := ?received, initFlag := ?initFlag, vState := ?vState, present := ?present }
  case received =>
    rw [hupdates]
    exact h.received.updateState state
  case initFlag => rw [updateState_initFlag, h.initFlag, hinit]
  case vState =>
    obtain ⟨added, hadded, hupdated⟩ := h.vState
    have hmore : ∀ item ∈ added,
        updatesOf item.name (ops ++ [.updateState state.1 state.2]) ≠ [] := by
      intro item hitem
      rw [updatesOf_append]
      exact List.append_ne_nil_of_left_ne_nil (hupdated item hitem) _
    cases hstored : s.stateCollectionMap[state.1]? with
    | some ref =>
      rw [updateState_of_some hstored]
      exact ⟨added, hadded, hmore⟩
    | none =>
      rw [updateState_of_none hstored]
      refine ⟨added ++ [{ name := state.1 }], by simp [hadded], fun item hitem => ?_⟩
      rcases List.mem_append.mp hitem with hold | hnew
      · exact hmore item hold
      · rw [List.mem_singleton.mp hnew, updatesOf_append]
        simp [updatesOf]
  case present =>
    intro name
    rw [stored_updateState_eq_none_iff, h.present name, hinit, congrFun hupdates name, withUpdate]
    by_cases hname : name = state.1
    · rw [if_pos hname]
      exact iff_of_false (fun hboth => hboth.2 hname.symm)
        fun hboth => List.append_ne_nil_of_right_ne_nil _ (List.cons_ne_nil _ _) hboth.1
    · rw [if_neg hname]
      exact and_iff_left (Ne.symm hname)

theorem foldl_initState (batteryManagerEnable : Bool) (states : List StateItem)
    (s : StateMachine) :
    (states.foldl (initState batteryManagerEnable) s).initFlag = s.initFlag ∧
      (states.foldl (initState batteryManagerEnable) s).vState = s.vState ∧
      (∀ updates, s.Received updates →
        (states.foldl (initState batteryManagerEnable) s).Received updates) ∧
      ∀ name : String,
        (states.foldl (initState batteryManagerEnable) s).stateCollectionMap[name]? = none ↔
          s.stateCollectionMap[name]? = none ∧ ∀ item ∈ states, item.name ≠ name := by
  induction states generalizing s with
  | nil => exact ⟨rfl, rfl, fun _ h => h, fun name => by simp⟩
  | cons state rest ih =>
    obtain ⟨hflag, hstates, hreceived, hpresent⟩ := ih (s.initState batteryManagerEnable state)
    rw [List.foldl_cons]
    refine ⟨hflag.trans ?_, hstates.trans ?_,
      fun updates h => hreceived updates (h.initState state), fun name => ?_⟩
    · rw [initState_eq]
    · rw [initState_eq]
    · rw [hpresent name, initState_eq]
      show (s.stateCollectionMap.insertIfNew _ _)[name]? = none ∧ _ ↔ _
      rw [Fanout.getElem?_insertIfNew_or, Option.or_eq_none_iff]
      simp [and_assoc]

theorem Follows.init (h : Follows items ops s) :
    Follows items (ops ++ [.init]) (s.init batteryManagerEnable) := by
  have hupdates : (fun name => updatesOf name (ops ++ [.init])) = fun name => updatesOf name ops :=
    funext fun name => updatesOf_concat_init name ops
  have hinit : StateOp.init ∈ ops ++ [.init] := by simp
  obtain ⟨added, hadded, hupdated⟩ := h.vState
  rw [StateMachine.init]
  split
  case isTrue hflag =>
    refine { received := ?received, initFlag := ?initFlag, vState := ?vState, present := ?present }
    case received =>
      rw [hupdates]
      exact h.received
    case initFlag => exact iff_of_true hflag hinit
    case vState =>
      refine ⟨added, hadded, fun item hitem => ?_⟩
      rw [updatesOf_concat_init]
      exact hupdated item hitem
    case present =>
      intro name
      rw [h.present name, updatesOf_concat_init, imp_iff_right (h.initFlag.mp hflag),
        imp_iff_right hinit]
  case isFalse hflag =>
    obtain ⟨hflag', hstates, hreceived, hpresent⟩ :=
      foldl_initState batteryManagerEnable s.vState { s with initFlag := true }
    refine { received := ?received, initFlag := ?initFlag, vState := ?vState, present := ?present }
    case received =>
      rw [hupdates]
      obtain ⟨hwellFormed, hcharger, hstored, habsent⟩ := h.received
      exact hreceived _
        ⟨⟨hwellFormed.fresh, hwellFormed.stored, hwellFormed.owners⟩, hcharger, hstored, habsent⟩
    case initFlag => exact iff_of_true hflag' hinit
    case vState =>
      refine ⟨added, hstates.trans hadded, fun item hitem => ?_⟩
      rw [updatesOf_concat_init]
      exact hupdated item hitem
    case present =>
      intro name
      have hnot : StateOp.init ∉ ops := mt h.initFlag.mpr hflag
      rw [hpresent name, updatesOf_concat_init, imp_iff_right hinit]
      change s.stateCollectionMap[name]? = none ∧ _ ↔ _
      rw [h.present name, hadded, and_iff_left (fun hmem => absurd hmem hnot)]
      refine and_congr_right fun hnone => ⟨fun hall item hitem => ?_, fun hall item hitem => ?_⟩
      · exact hall item (List.mem_append_left added hitem)
      · rcases List.mem_append.mp hitem with hconfigured | hlater
        · exact hall item hconfigured
        · rintro rfl
          exact hupdated item hlater hnone

theorem Follows.foldl (h : Follows items ops s) (more : List StateOp) :
    Follows items (ops ++ more) (more.foldl (apply batteryManagerEnable) s) := by
  induction more using List.reverseRecOn with
  | nil =>
    rw [List.append_nil]
    exact h
  | append_singleton before op ih =>
    rw [← List.append_assoc, List.foldl_append]
    cases op with
    | init => exact ih.init
    | updateState name value => exact ih.updateState (name, value)

theorem follows_run (batteryManagerEnable : Bool) (items : List StateItem) (ops : List StateOp) :
    Follows items ops (ops.foldl (apply batteryManagerEnable) { vState := items }) :=
  (follows_start items).foldl ops

/-! ### Answers -/

theorem foldl_extend (values : List String) (c : ExtendStateCollection) :
    (values.foldl ExtendStateCollection.setState c).stateValue = values.getLastD c.stateValue := by
  induction values generalizing c with
  | nil => rfl
  | cons value rest ih =>
    rw [List.foldl_cons, ih, List.getLastD_cons]
    rfl

/-- An update that is no number leaves the state as it was. -/
theorem foldl_cust (values : List String) (c : CustStateCollection) :
    (values.foldl CustStateCollection.setState c).state =
      (values.filterMap parseStrtoulResult).getLastD c.state := by
  induction values generalizing c with
  | nil => rfl
  | cons value rest ih =>
    rw [List.foldl_cons, ih, CustStateCollection.setState]
    cases hparse : parseStrtoulResult value with
    | none => rw [List.filterMap_cons_none hparse]
    | some result => rw [List.filterMap_cons_some hparse, List.getLastD_cons]

/-- The state has been updated, or it is configured and the machine is initialised. -/
def Offered (items : List StateItem) (ops : List StateOp) (name : String) : Prop :=
  updatesOf name ops ≠ [] ∨ StateOp.init ∈ ops ∧ ∃ item ∈ items, item.name = name

/-- What a state answers that clients have given these values. -/
def clientAnswer (updates : List String) (scene value : String) : ClientClass → Outcome Bool
  | .extend => .orDiverges <| (splitString value ',').map fun valList =>
      decide (updates.getLastD "-1" ∈ valList)
  | .cust => .done <| (parseStrtoulResult value).any fun result =>
      (updates.filterMap parseStrtoulResult).getLastD 0 &&& result != 0
  | .scene => .done (decide (scene ≠ "" ∧ scene = value))

theorem Follows.offered_iff (h : Follows items ops s) (name : String) :
    Offered items ops name ↔ ∃ ref, s.stateCollectionMap[name]? = some ref := by
  rw [← Option.ne_none_iff_exists', Ne, h.present name, not_and_or, Offered]
  simp

theorem Follows.decideState (h : Follows items ops s) {cls : ClientClass}
    (hclass : CollectionClass.ofName name = cls.collectionClass)
    (eventAnswer : CollectionRef → String → Outcome Bool) (scene value : String) :
    (Offered items ops name → s.decideState eventAnswer scene name value =
      clientAnswer (updatesOf name ops) scene value cls) ∧
    (¬ Offered items ops name → s.decideState eventAnswer scene name value = .done false) := by
  rw [h.offered_iff name, StateMachine.decideState, hclass]
  refine ⟨fun hoffered => ?_, fun hnone => ?_⟩
  · obtain ⟨ref, hstored⟩ := hoffered
    rw [hstored]
    dsimp only
    rw [h.received.stored name ref hstored]
    cases cls with
    | scene =>
      refine congrArg Outcome.done ?_
      by_cases hscene : scene = ""
      · subst hscene
        simp [sceneDecideState]
      · have hsome : scene.isEmpty = false := by simp [hscene]
        simp only [sceneDecideState, hsome, hscene, Bool.not_false, Bool.true_and, ne_eq,
          not_false_eq_true, true_and]
        rfl
    | cust =>
      show Outcome.done (CustStateCollection.decideState _ value) = _
      rw [CustStateCollection.decideState, foldl_cust, clientAnswer]
      cases parseStrtoulResult value <;> rfl
    | extend =>
      show Outcome.orDiverges (ExtendStateCollection.decideState _ value) = _
      rw [ExtendStateCollection.decideState, foldl_extend, clientAnswer]
      refine congrArg (fun f => Outcome.orDiverges ((splitString value ',').map f)) ?_
      funext valList
      rw [List.any_beq]
      simp
  · rw [not_exists] at hnone
    rw [Option.eq_none_iff_forall_ne_some.mpr hnone]

end StateMachine

end ThermalManager
