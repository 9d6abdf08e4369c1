import ThermalManager.State.StateMachine

/-!
# Live states

A configured state is live when the collection stored under its name is initialised and owns the
handlers registered for the name. An insertion keeps what it finds, so the collection made first
stays: that of the first item of the name, if no update came before the initialisation.
-/

namespace ThermalManager

namespace StateMachine

variable {batteryManagerEnable : Bool}
variable {s : StateMachine} {name : String} {ref : CollectionRef}

/-- The collection stored under the name of the item is initialised, with a parameter if the item
has one, and owns all handlers that collections of this name registered. -/
def Live (s : StateMachine) (item : StateItem) : Prop :=
  ∃ stateCollection, s.stateCollectionMap[item.name]? = some stateCollection ∧
    .init ∈ s.calls stateCollection ∧
    (item.isExistParam = true → ∃ params, .initParam params ∈ s.calls stateCollection) ∧
    ∀ event owner, s.eventHandles event = some owner → owner.stateName = item.name →
      owner = stateCollection

/-- No update before the initialisation names a configured state other than the charger, and if an
item of such a state has a parameter, so has the first item of that name. -/
def Undisturbed (items : List StateItem) (before : List (String × String)) : Prop :=
  ∀ item ∈ items, item.name ≠ stateCharger → item.name ∉ before.map Prod.fst ∧
    (item.isExistParam = true → ∀ first,
      items.find? (fun other => other.name == item.name) = some first →
      first.isExistParam = true)

/-! ### What stays -/

theorem stored_initState (h : s.stateCollectionMap[name]? = some ref) (state : StateItem) :
    (s.initState batteryManagerEnable state).stateCollectionMap[name]? = some ref := by
  rw [initState_eq]
  show (s.stateCollectionMap.insertIfNew _ _)[name]? = _
  rw [Fanout.getElem?_insertIfNew_or, h]
  rfl

theorem stored_updateState (h : s.stateCollectionMap[name]? = some ref)
    (state : String × String) : (s.updateState state).stateCollectionMap[name]? = some ref := by
  cases hstored : s.stateCollectionMap[state.1]? with
  | none =>
    rw [updateState_of_none hstored]
    show (s.stateCollectionMap.insertIfNew _ _)[name]? = _
    rw [Fanout.getElem?_insertIfNew_or, h]
    rfl
  | some found =>
    rw [updateState_of_some hstored]
    exact h

theorem eventHandles_updateState (s : StateMachine) (state : String × String) :
    (s.updateState state).eventHandles = s.eventHandles := by
  cases hstored : s.stateCollectionMap[state.1]? with
  | none => rw [updateState_of_none hstored]
  | some found =>
    rw [updateState_of_some hstored]
    rfl

theorem calls_initState {c : CollectionCall} (h : c ∈ s.calls ref) (state : StateItem) :
    c ∈ (s.initState batteryManagerEnable state).calls ref := by
  rw [initState_eq]
  show c ∈ (if ref = s.createdRef state.name then _ else _)
  split
  · exact List.mem_append_left _ h
  · exact h

theorem calls_updateState {c : CollectionCall} (h : c ∈ s.calls ref) (state : String × String) :
    c ∈ (s.updateState state).calls ref := by
  cases hstored : s.stateCollectionMap[state.1]? with
  | none =>
    rw [updateState_of_none hstored]
    show c ∈ (if ref = s.createdRef state.1 then _ else _)
    split
    · exact List.mem_append_left _ h
    · exact h
  | some found =>
    rw [updateState_of_some hstored]
    show c ∈ (if ref = found then _ else _)
    split
    · exact List.mem_append_left _ h
    · exact h

/-! ### A collection that serves its name -/

/-- The collection is stored, initialised, and owns the handlers of its name, which are all
there. -/
structure Settled (batteryManagerEnable : Bool) (s : StateMachine) (ref : CollectionRef) :
    Prop where
  wellFormed : s.WellFormed
  stored : s.stateCollectionMap[ref.stateName]? = some ref
  inited : .init ∈ s.calls ref
  registered : ∀ event ∈
    (CollectionClass.ofName ref.stateName).registeredEvents batteryManagerEnable,
    s.eventHandles event ≠ none
  owned : ∀ event owner, s.eventHandles event = some owner → owner.stateName = ref.stateName →
    owner = ref

theorem Settled.initState (h : s.Settled batteryManagerEnable ref) (state : StateItem) :
    (s.initState batteryManagerEnable state).Settled batteryManagerEnable ref := by
  refine { wellFormed := h.wellFormed.initState state, stored := stored_initState h.stored state,
           inited := calls_initState h.inited state, registered := ?registered, owned := ?owned }
  case registered =>
    intro event hevent
    rw [initState_eq]
    show (if event ∈ _ then (s.eventHandles event).or _ else s.eventHandles event) ≠ none
    obtain ⟨owner, howner⟩ := Option.ne_none_iff_exists'.mp (h.registered event hevent)
    rw [howner]
    split <;> exact nofun
  case owned =>
    intro event owner howner hname
    rw [initState_eq] at howner
    change (if event ∈ _ then (s.eventHandles event).or _ else s.eventHandles event) = _ at howner
    split at howner
    case isTrue hevent =>
      rcases Option.or_eq_some_iff.mp howner with hold | ⟨hnone, hnew⟩
      · exact h.owned event owner hold hname
      · -- a new handler would be for an event that has one
        obtain rfl := Option.some.inj hnew
        rw [createdRef_stateName] at hname
        rw [hname] at hevent
        exact absurd hnone (h.registered event hevent)
    case isFalse => exact h.owned event owner howner hname

theorem Settled.updateState (h : s.Settled batteryManagerEnable ref) (state : String × String) :
    (s.updateState state).Settled batteryManagerEnable ref := by
  refine { wellFormed := h.wellFormed.updateState state,
           stored := stored_updateState h.stored state,
           inited := calls_updateState h.inited state, registered := ?registered, owned := ?owned }
  case registered =>
    rw [eventHandles_updateState]
    exact h.registered
  case owned =>
    rw [eventHandles_updateState]
    exact h.owned

theorem Settled.live (h : s.Settled batteryManagerEnable ref) {item : StateItem}
    (hname : ref.stateName = item.name)
    (hparam : item.isExistParam = true → ∃ params, .initParam params ∈ s.calls ref) :
    s.Live item := by
  refine ⟨ref, hname ▸ h.stored, h.inited, hparam, fun event owner howner heq => ?_⟩
  exact h.owned event owner howner (heq.trans hname.symm)

theorem settled_created (hs : s.WellFormed) {state : StateItem}
    (hstored : s.stateCollectionMap[state.name]?.getD (s.createdRef state.name) =
      s.createdRef state.name)
    (howned : ∀ event owner, s.eventHandles event = some owner → owner.stateName = state.name →
      owner = s.createdRef state.name) :
    (s.initState batteryManagerEnable state).Settled batteryManagerEnable
      (s.createdRef state.name) := by
  refine { wellFormed := hs.initState state, stored := ?stored, inited := ?inited,
           registered := ?registered, owned := ?owned }
  case stored =>
    rw [createdRef_stateName, initState_eq]
    show (s.stateCollectionMap.insertIfNew _ _)[state.name]? = _
    rw [Fanout.getElem?_insertIfNew_or, if_pos rfl]
    revert hstored
    cases s.stateCollectionMap[state.name]? with
    | none => exact fun _ => rfl
    | some found => exact fun hstored => congrArg some hstored
  case inited =>
    rw [initState_eq]
    show CollectionCall.init ∈ (if s.createdRef state.name = s.createdRef state.name then _ else _)
    rw [if_pos rfl]
    exact List.mem_append_right _ (List.mem_append_right _ (List.mem_singleton.mpr rfl))
  case registered =>
    rw [createdRef_stateName, initState_eq]
    intro event hevent
    show (if event ∈ _ then (s.eventHandles event).or _ else s.eventHandles event) ≠ none
    rw [if_pos hevent]
    exact fun h => absurd (Option.or_eq_none_iff.mp h).2 nofun
  case owned =>
    rw [createdRef_stateName, initState_eq]
    intro event owner h hname
    change (if event ∈ _ then (s.eventHandles event).or _ else s.eventHandles event) = _ at h
    split at h
    · rcases Option.or_eq_some_iff.mp h with hold | ⟨-, hnew⟩
      · exact howned event owner hold hname
      · exact (Option.some.inj hnew).symm
    · exact howned event owner h hname

/-- Nothing is stored or registered for the name. -/
structure Untouched (s : StateMachine) (name : String) : Prop where
  wellFormed : s.WellFormed
  stored : s.stateCollectionMap[name]? = none
  owned : ∀ event owner, s.eventHandles event = some owner → owner.stateName ≠ name

theorem Untouched.initState (h : s.Untouched name) {state : StateItem} (hne : state.name ≠ name) :
    (s.initState batteryManagerEnable state).Untouched name := by
  refine { wellFormed := h.wellFormed.initState state, stored := ?stored, owned := ?owned }
  case stored =>
    rw [initState_eq]
    show (s.stateCollectionMap.insertIfNew _ _)[name]? = none
    rw [Fanout.getElem?_insertIfNew_or, h.stored, if_neg hne]
    rfl
  case owned =>
    intro event owner howner
    rw [initState_eq] at howner
    change (if event ∈ _ then (s.eventHandles event).or _ else s.eventHandles event) = _ at howner
    split at howner
    · rcases Option.or_eq_some_iff.mp howner with hold | ⟨-, hnew⟩
      · exact h.owned event owner hold
      · obtain rfl := Option.some.inj hnew
        rw [createdRef_stateName]
        exact hne
    · exact h.owned event owner howner

/-! ### The calls that set a collection up -/

def isSetup : CollectionCall → Bool
  | .setState _ => false
  | _ => true

/-- The collection stored under the name is one of its own, set up by these calls only. -/
structure Kept (s : StateMachine) (name : String) (ref : CollectionRef)
    (setup : List CollectionCall) : Prop where
  wellFormed : s.WellFormed
  stored : s.stateCollectionMap[name]? = some ref
  ne_charger : ref ≠ .charger
  setup : (s.calls ref).filter isSetup = setup

variable {setup : List CollectionCall}

theorem Kept.ne_createdRef (h : s.Kept name ref setup) (other : String) :
    ref ≠ s.createdRef other :=
  (h.wellFormed.stored name ref h.stored).2.ne_createdRef h.ne_charger

theorem Kept.initState (h : s.Kept name ref setup) (state : StateItem) :
    (s.initState batteryManagerEnable state).Kept name ref setup := by
  refine { wellFormed := h.wellFormed.initState state, stored := stored_initState h.stored state,
           ne_charger := h.ne_charger, setup := ?setup }
  case setup =>
    rw [initState_eq]
    show (if ref = s.createdRef state.name then _ else s.calls ref).filter isSetup = setup
    rw [if_neg (h.ne_createdRef state.name)]
    exact h.setup

theorem Kept.updateState (h : s.Kept name ref setup) (state : String × String) :
    (s.updateState state).Kept name ref setup := by
  refine { wellFormed := h.wellFormed.updateState state,
           stored := stored_updateState h.stored state, ne_charger := h.ne_charger,
           setup := ?setup }
  case setup =>
    cases hstored : s.stateCollectionMap[state.1]? with
    | none =>
      rw [updateState_of_none hstored]
      show (if ref = s.createdRef state.1 then _ else s.calls ref).filter isSetup = setup
      rw [if_neg (h.ne_createdRef state.1)]
      exact h.setup
    | some found =>
      rw [updateState_of_some hstored]
      show (if ref = found then s.calls ref ++ [_] else s.calls ref).filter isSetup = setup
      split
      · rw [List.filter_append, h.setup]
        exact List.append_nil setup
      · exact h.setup

theorem filter_setupCalls (state : StateItem) :
    (setupCalls state).filter isSetup = setupCalls state := by
  rw [setupCalls]
  cases state.isExistParam <;> rfl

theorem mem_setupCalls {state : StateItem} :
    (∃ params, .initParam params ∈ setupCalls state) ↔ state.isExistParam = true := by
  rw [setupCalls]
  cases state.isExistParam with
  | true => exact iff_of_true ⟨state.params, List.mem_cons_self⟩ rfl
  | false => simp

theorem Kept.init_mem (h : s.Kept name ref setup) : .init ∈ s.calls ref ↔ .init ∈ setup := by
  rw [← h.setup, List.mem_filter]
  exact (and_iff_left rfl).symm

theorem Kept.initParam_mem (h : s.Kept name ref setup) {params : String} :
    .initParam params ∈ s.calls ref ↔ .initParam params ∈ setup := by
  rw [← h.setup, List.mem_filter]
  exact (and_iff_left rfl).symm

/-! ### Runs -/

/-- The rest of the initialisation, and updates. -/
def rest (batteryManagerEnable : Bool) (states : List StateItem) (after : List (String × String))
    (s : StateMachine) : StateMachine :=
  after.foldl updateState (states.foldl (initState batteryManagerEnable) s)

theorem rest_keeps (batteryManagerEnable : Bool) (inv : StateMachine → Prop)
    (hinit : ∀ s state, inv s → inv (s.initState batteryManagerEnable state))
    (hupdate : ∀ s state, inv s → inv (s.updateState state)) (h : inv s)
    (states : List StateItem) (after : List (String × String)) :
    inv (s.rest batteryManagerEnable states after) :=
  List.foldlRecOn after updateState
    (List.foldlRecOn states (StateMachine.initState batteryManagerEnable) h
      fun s hs state _ => hinit s state hs)
    fun s hs state _ => hupdate s state hs

/-- The machine before its initialisation. -/
structure Waiting (items : List StateItem) (s : StateMachine) : Prop where
  wellFormed : s.WellFormed
  initFlag : s.initFlag = false
  vState : ∃ added, s.vState = items ++ added
  noHandlers : ∀ event, s.eventHandles event = none
  noSetup : ∀ ref, (s.calls ref).filter isSetup = []

theorem Waiting.updateState {items : List StateItem} (h : Waiting items s)
    (state : String × String) : Waiting items (s.updateState state) := by
  have hsetup : ∀ (other ref : CollectionRef),
      (if other = ref then s.calls other ++ [.setState state.2] else s.calls other).filter
        isSetup = [] := by
    intro other ref
    split
    · rw [List.filter_append, h.noSetup]
      rfl
    · exact h.noSetup other
  have hwellFormed := h.wellFormed.updateState state
  cases hstored : s.stateCollectionMap[state.1]? with
  | none =>
    rw [updateState_of_none hstored] at hwellFormed ⊢
    obtain ⟨added, hadded⟩ := h.vState
    exact { wellFormed := hwellFormed, initFlag := h.initFlag, noHandlers := h.noHandlers,
            noSetup := fun other => hsetup other _,
            vState := ⟨added ++ [{ name := state.1 }], by simp [hadded]⟩ }
  | some found =>
    rw [updateState_of_some hstored] at hwellFormed ⊢
    exact { wellFormed := hwellFormed, initFlag := h.initFlag, noHandlers := h.noHandlers,
            noSetup := fun other => hsetup other _, vState := h.vState }

theorem stored_updateState_eq_none_iff (state : String × String) :
    (s.updateState state).stateCollectionMap[name]? = none ↔
      s.stateCollectionMap[name]? = none ∧ state.1 ≠ name := by
  cases hstored : s.stateCollectionMap[state.1]? with
  | none =>
    rw [updateState_of_none hstored]
    show (s.stateCollectionMap.insertIfNew _ _)[name]? = none ↔ _
    rw [Fanout.getElem?_insertIfNew_or, Option.or_eq_none_iff]
    simp
  | some found =>
    rw [updateState_of_some hstored]
    refine (and_iff_left_of_imp fun hnone heq => ?_).symm
    rw [heq] at hstored
    exact Option.some_ne_none found (hstored.symm.trans hnone)

theorem stored_updates_eq_none_iff (before : List (String × String)) (s : StateMachine) :
    (before.foldl updateState s).stateCollectionMap[name]? = none ↔
      s.stateCollectionMap[name]? = none ∧ name ∉ before.map Prod.fst := by
  induction before generalizing s with
  | nil => simp
  | cons state rest ih =>
    rw [List.foldl_cons, ih, stored_updateState_eq_none_iff, and_assoc, List.map_cons,
      List.mem_cons, not_or]
    simp only [ne_comm]

theorem waiting_updates (items : List StateItem) (before : List (String × String)) :
    Waiting items (before.foldl updateState { vState := items }) :=
  List.foldlRecOn (motive := Waiting items) before updateState
    { wellFormed := wellFormed_start items, initFlag := rfl, noHandlers := fun _ => rfl,
      noSetup := fun _ => rfl, vState := ⟨[], (List.append_nil items).symm⟩ }
    fun _ hs state _ => hs.updateState state

variable {items : List StateItem} {before after : List (String × String)}

/-- A run goes through the configured items from a machine that has only been updated. -/
theorem run_split (batteryManagerEnable : Bool) (items : List StateItem)
    (before after : List (String × String)) :
    ∃ s, Waiting items s ∧
      (∀ name, s.stateCollectionMap[name]? = none ↔ name ∉ before.map Prod.fst) ∧
      ∀ pre item post, items = pre ++ item :: post → ∃ added,
        run batteryManagerEnable items before after =
          rest batteryManagerEnable (post ++ added) after
            ((pre.foldl (initState batteryManagerEnable) { s with initFlag := true }).initState
              batteryManagerEnable item) := by
  have hwaiting := waiting_updates items before
  refine ⟨before.foldl updateState { vState := items }, hwaiting, fun name => ?_, ?_⟩
  · rw [stored_updates_eq_none_iff]
    simp
  · intro pre item post hsplit
    obtain ⟨added, hadded⟩ := hwaiting.vState
    refine ⟨added, ?_⟩
    rw [run, init, if_neg (by rw [hwaiting.initFlag]; exact Bool.false_ne_true), hadded, hsplit,
      List.append_assoc, List.cons_append, List.foldl_append, List.foldl_cons]
    rfl

theorem Waiting.wellFormed_flag (h : Waiting items s) : { s with initFlag := true }.WellFormed :=
  ⟨h.wellFormed.fresh, h.wellFormed.stored, h.wellFormed.owners⟩

theorem wellFormed_foldl (hs : s.WellFormed) (states : List StateItem) :
    (states.foldl (initState batteryManagerEnable) s).WellFormed :=
  List.foldlRecOn (motive := WellFormed) states _ hs fun _ hs state _ => hs.initState state

theorem live_charger {item : StateItem} (hitem : item ∈ items)
    (hname : item.name = stateCharger) :
    (run batteryManagerEnable items before after).Live item := by
  obtain ⟨s, hwaiting, -, hsplit⟩ := run_split batteryManagerEnable items before after
  obtain ⟨pre, post, rfl⟩ := List.append_of_mem hitem
  obtain ⟨added, hrun⟩ := hsplit pre item post rfl
  have hwellFormed := @wellFormed_foldl batteryManagerEnable _ hwaiting.wellFormed_flag pre
  rw [hrun]
  generalize pre.foldl (initState batteryManagerEnable) _ = reached at hwellFormed
  have href : reached.createdRef item.name = .charger := if_pos hname
  have hsettled : (reached.initState batteryManagerEnable item).Settled batteryManagerEnable
      (reached.createdRef item.name) := by
    refine settled_created hwellFormed ?_ fun event owner howner howned => ?_
    · rw [href]
      cases hstored : reached.stateCollectionMap[item.name]? with
      | none => rfl
      | some found =>
        obtain ⟨hfound, hknown⟩ := hwellFormed.stored item.name found hstored
        exact hknown.eq_charger (hfound.trans hname)
    · rw [href]
      exact (hwellFormed.owners event owner howner).eq_charger (howned.trans hname)
  have hparam : item.isExistParam = true → .initParam item.params ∈
      (reached.initState batteryManagerEnable item).calls (reached.createdRef item.name) := by
    intro h
    rw [initState_eq]
    show _ ∈ (if reached.createdRef item.name = reached.createdRef item.name then _ else _)
    rw [if_pos rfl, setupCalls, if_pos h]
    exact List.mem_append_right _ List.mem_cons_self
  have hlast := rest_keeps batteryManagerEnable (fun s => s.Settled batteryManagerEnable _)
    (fun _ state h => h.initState state) (fun _ state h => h.updateState state) hsettled
    (post ++ added) after
  refine hlast.live (reached.createdRef_stateName item.name) fun h => ⟨item.params, ?_⟩
  exact rest_keeps batteryManagerEnable (fun s => _ ∈ s.calls _)
    (fun _ state h => calls_initState h state) (fun _ state h => calls_updateState h state)
    (hparam h) (post ++ added) after

/-- A state updated before the initialisation keeps a collection that is never set up. -/
theorem not_live_of_updated {item : StateItem} (hitem : item ∈ items)
    (hname : item.name ≠ stateCharger) (hupdated : item.name ∈ before.map Prod.fst) :
    ¬ (run batteryManagerEnable items before after).Live item := by
  obtain ⟨s, hwaiting, hstored, hsplit⟩ := run_split batteryManagerEnable items before after
  obtain ⟨ref, href⟩ := Option.ne_none_iff_exists'.mp fun h => (hstored item.name).mp h hupdated
  have hkept : { s with initFlag := true }.Kept item.name ref [] := by
    refine { wellFormed := hwaiting.wellFormed_flag, stored := href, ne_charger := ?_,
             setup := hwaiting.noSetup ref }
    rintro rfl
    exact hname (hwaiting.wellFormed.stored item.name .charger href).1.symm
  obtain ⟨pre, post, rfl⟩ := List.append_of_mem hitem
  obtain ⟨added, hrun⟩ := hsplit pre item post rfl
  have hlast := rest_keeps batteryManagerEnable (fun s => s.Kept item.name ref [])
    (fun _ state h => h.initState state) (fun _ state h => h.updateState state) hkept
    (pre ++ item :: (post ++ added)) after
  rw [rest, List.foldl_append, List.foldl_cons] at hlast
  rw [hrun]
  rintro ⟨stateCollection, hfound, hinit, -⟩
  obtain rfl := Option.some.inj (hlast.stored.symm.trans hfound)
  exact absurd (hlast.init_mem.mp hinit) List.not_mem_nil

theorem untouched_foldl (batteryManagerEnable : Bool) {s : StateMachine} {name : String}
    (hs : s.Untouched name) {pre : List StateItem} (hpre : ∀ state ∈ pre, state.name ≠ name) :
    (pre.foldl (initState batteryManagerEnable) s).Untouched name :=
  List.foldlRecOn (motive := fun s => Untouched s name) pre _ hs
    fun _ h state hmem => h.initState (hpre state hmem)

theorem Waiting.untouched {s : StateMachine} {name : String} (hwaiting : s.Waiting items)
    (hstored : s.stateCollectionMap[name]? = none) :
    ({ s with initFlag := true } : StateMachine).Untouched name := by
  refine { wellFormed := hwaiting.wellFormed_flag, stored := hstored,
           owned := fun event owner howner => ?_ }
  rw [show s.eventHandles event = none from hwaiting.noHandlers event] at howner
  cases howner

theorem Untouched.settled_initState {s : StateMachine} {item : StateItem}
    (h : s.Untouched item.name) (batteryManagerEnable : Bool) :
    (s.initState batteryManagerEnable item).Settled batteryManagerEnable
      (s.createdRef item.name) := by
  refine settled_created h.wellFormed ?_ fun event owner howner howned => ?_
  · rw [h.stored]
    rfl
  · exact absurd howned (h.owned event owner howner)

theorem Untouched.kept_initState {s : StateMachine} {item : StateItem}
    (h : s.Untouched item.name) (hne : item.name ≠ stateCharger) (batteryManagerEnable : Bool) :
    (s.initState batteryManagerEnable item).Kept item.name (s.createdRef item.name)
      (setupCalls item) := by
  have hsettled := h.settled_initState batteryManagerEnable
  refine { wellFormed := hsettled.wellFormed, stored := ?stored, ne_charger := ?neCharger,
           setup := ?setup }
  case stored =>
    have hstored := hsettled.stored
    rwa [createdRef_stateName] at hstored
  case neCharger =>
    rw [createdRef, if_neg hne]
    intro heq
    cases heq
  case setup =>
    rw [initState_eq]
    show (if s.createdRef item.name = s.createdRef item.name then _ else _ :
      List CollectionCall).filter isSetup = _
    rw [if_pos rfl, h.wellFormed.calls_createdRef hne, List.nil_append, filter_setupCalls]

theorem live_iff_first {item first : StateItem} (hname : item.name ≠ stateCharger)
    (hnot : item.name ∉ before.map Prod.fst)
    (hfirst : items.find? (fun other => other.name == item.name) = some first) :
    (run batteryManagerEnable items before after).Live item ↔
      (item.isExistParam = true → first.isExistParam = true) := by
  obtain ⟨s, hwaiting, hstored, hsplit⟩ := run_split batteryManagerEnable items before after
  obtain ⟨heq, pre, post, rfl, hpre⟩ := List.find?_eq_some_iff_append.mp hfirst
  obtain ⟨added, hrun⟩ := hsplit pre first post rfl
  have hfirstName : first.name = item.name := of_decide_eq_true heq
  have hothers : ∀ state ∈ pre, state.name ≠ first.name := by
    intro state hmem hsame
    have hne := hpre state hmem
    rw [hsame, hfirstName, beq_self_eq_true] at hne
    cases hne
  have huntouched := untouched_foldl batteryManagerEnable
    (hwaiting.untouched ((hstored first.name).mpr (hfirstName ▸ hnot))) hothers
  rw [hrun]
  generalize pre.foldl (initState batteryManagerEnable) _ = reached at huntouched
  have hsettled := huntouched.settled_initState batteryManagerEnable
  have hkept := huntouched.kept_initState (hfirstName ▸ hname) batteryManagerEnable
  have hlastKept := rest_keeps batteryManagerEnable (fun s => s.Kept first.name _ _)
    (fun _ state h => h.initState state) (fun _ state h => h.updateState state) hkept
    (post ++ added) after
  have hlastSettled := rest_keeps batteryManagerEnable (fun s => s.Settled batteryManagerEnable _)
    (fun _ state h => h.initState state) (fun _ state h => h.updateState state) hsettled
    (post ++ added) after
  refine ⟨?_, fun hparam => ?_⟩
  · rintro ⟨stateCollection, hfound, -, hparam, -⟩ h
    rw [← hfirstName, hlastKept.stored] at hfound
    obtain rfl := Option.some.inj hfound
    obtain ⟨params, hcall⟩ := hparam h
    exact mem_setupCalls.mp ⟨params, hlastKept.initParam_mem.mp hcall⟩
  · refine hlastSettled.live ((reached.createdRef_stateName _).trans hfirstName) fun h => ?_
    obtain ⟨params, hcall⟩ := mem_setupCalls.mpr (hparam h)
    exact ⟨params, hlastKept.initParam_mem.mpr hcall⟩

/-- Every configured state is live after every run exactly when its first collection is that of its
first item, and that one is set up as any item of the name asks. -/
theorem configured_states_live_iff (batteryManagerEnable : Bool) (items : List StateItem)
    (before after : List (String × String)) :
    (∀ item ∈ items, (run batteryManagerEnable items before after).Live item) ↔
      Undisturbed items before := by
  refine forall₂_congr fun item hitem => ?_
  by_cases hname : item.name = stateCharger
  · exact iff_of_true (live_charger hitem hname) fun hne => absurd hname hne
  · by_cases hupdated : item.name ∈ before.map Prod.fst
    · exact iff_of_false (not_live_of_updated hitem hname hupdated) fun h =>
        (h hname).1 hupdated
    · have hsome : (items.find? fun other => other.name == item.name).isSome :=
        List.find?_isSome.mpr ⟨item, hitem, beq_self_eq_true item.name⟩
      obtain ⟨first, hfirst⟩ := Option.isSome_iff_exists.mp hsome
      rw [live_iff_first hname hupdated hfirst]
      refine ⟨fun h _ => ⟨hupdated, fun hparam other hother => ?_⟩, fun h hparam => ?_⟩
      · obtain rfl := Option.some.inj (hfirst.symm.trans hother)
        exact h hparam
      · exact (h hname).2 hparam first hfirst

/-- A client sets the screen state before the state machine is initialised. -/
theorem updated_screen_never_initialised :
    ¬ ∀ item ∈ [({ name := "screen" } : StateItem)],
      (run true [{ name := "screen" }] [("screen", "1")] []).Live item := by
  intro h
  have hmem : ({ name := "screen" } : StateItem) ∈ [({ name := "screen" } : StateItem)] :=
    List.mem_singleton.mpr rfl
  exact not_live_of_updated hmem (by decide) (by decide) (h _ hmem)

end StateMachine

end ThermalManager
