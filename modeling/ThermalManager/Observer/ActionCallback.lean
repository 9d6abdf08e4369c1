import ThermalManager.Observer.ThermalObserver

/-!
# What action listeners are told

The map handed to the listeners is declared outside the loop over them. So a listener is handed the
flushed actions that it or a listener before it asked for.
-/

namespace ThermalManager

namespace ThermalObserver

/-! ### Filtering -/

theorem foldl_insertIfNew_of_ne {action : String} {entries : List (String × String)}
    (hne : ∀ entry ∈ entries, action ≠ entry.1) (filtered : ActionCallbackMap) :
    entries.foldl (fun filtered entry =>
      if action = entry.1 then filtered.insertIfNew action entry.2 else filtered) filtered =
      filtered := by
  induction entries with
  | nil => rfl
  | cons entry rest ih =>
    rw [List.foldl_cons, if_neg (hne entry List.mem_cons_self)]
    exact ih (fun other hother => hne other (List.mem_cons_of_mem _ hother))

/-- The search through the whole map finds at most one entry. -/
theorem foldl_search (actionMap : Map String String) (action : String)
    (filtered : ActionCallbackMap) :
    actionMap.toList.foldl (fun filtered entry =>
      if action = entry.1 then filtered.insertIfNew action entry.2 else filtered) filtered =
      Fanout.add (fun action => actionMap[action]?) filtered action := by
  rw [Fanout.add]
  cases hfound : actionMap[action]? with
  | none =>
    refine foldl_insertIfNew_of_ne (fun entry hentry heq => ?_) filtered
    have hvalue := Std.ExtTreeMap.mem_toList_iff_getElem?_eq_some.mp hentry
    rw [← heq, hfound] at hvalue
    cases hvalue
  | some value =>
    have hkeys : actionMap.toList.Pairwise (fun a b => ¬ compare a.1 b.1 = .eq) :=
      Std.ExtTreeMap.distinct_keys_toList
    obtain ⟨before, after, hsplit⟩ :=
      List.append_of_mem (Std.ExtTreeMap.mem_toList_iff_getElem?_eq_some.mpr hfound)
    rw [hsplit] at hkeys ⊢
    obtain ⟨-, hafter, hbefore⟩ := List.pairwise_append.mp hkeys
    have hnotBefore : ∀ entry ∈ before, action ≠ entry.1 := by
      intro entry hentry heq
      refine hbefore entry hentry _ List.mem_cons_self ?_
      rw [← heq]
      exact Std.ReflOrd.compare_self
    have hnotAfter : ∀ entry ∈ after, action ≠ entry.1 := by
      intro entry hentry heq
      refine (List.pairwise_cons.mp hafter).1 entry hentry ?_
      rw [← heq]
      exact Std.ReflOrd.compare_self
    rw [List.foldl_append, List.foldl_cons, if_pos rfl, foldl_insertIfNew_of_ne hnotBefore,
      foldl_insertIfNew_of_ne hnotAfter]

theorem decisionActionValue_eq (actionList : List String) (filteredMap : ActionCallbackMap)
    (actionMap : Map String String) :
    decisionActionValue actionList filteredMap actionMap =
      Fanout.collect (fun action => actionMap[action]?) filteredMap actionList := by
  have hsearch : (fun filtered action => actionMap.toList.foldl (fun filtered entry =>
      if action = entry.1 then filtered.insertIfNew action entry.2 else filtered) filtered) =
      Fanout.add (fun action => actionMap[action]?) :=
    funext fun filtered => funext fun action => foldl_search actionMap action filtered
  rw [decisionActionValue, hsearch]
  rfl

theorem getElem?_decisionActionValue (actionList : List String) (actionMap : Map String String)
    (action : String) :
    (decisionActionValue actionList ∅ actionMap)[action]? =
      if action ∈ actionList then actionMap[action]? else none := by
  rw [decisionActionValue_eq, Fanout.getElem?_collect, Std.ExtTreeMap.getElem?_empty,
    Option.none_or]

/-! ### Delivery -/

variable (o : ThermalObserver) (actionCache : Map String String)

theorem deliverActions_told :
    (o.deliverActions actionCache).map Prod.fst = o.actionListeners.order :=
  Fanout.map_fst_serve _ _ _

theorem getElem?_delivered {listener : RemoteObject} {told : ActionCallbackMap}
    (htold : (listener, told) ∈ o.deliverActions actionCache) (action value : String) :
    told[action]? = some value ↔
      o.actionListeners.AskedUpTo listener action ∧ actionCache[action]? = some value := by
  obtain ⟨before, after, horder, rfl⟩ := Fanout.mem_serve.mp htold
  have hturn : addListenerActions o.actionListeners actionCache = fun collected listener =>
      (o.actionListeners.listOf listener).foldl
        (Fanout.add fun action => actionCache[action]?) collected := by
    funext collected listener
    rw [← CallbackRegistry.turn_eq, addListenerActions]
    cases o.actionListeners.lists[listener]? with
    | none => rfl
    | some actionList => exact decisionActionValue_eq actionList collected actionCache
  rw [hturn, Fanout.foldl_turns]
  show (Fanout.collect _ _ _)[action]? = some value ↔ _
  rw [Fanout.getElem?_collect, Std.ExtTreeMap.getElem?_empty, Option.none_or,
    CallbackRegistry.askedUpTo_iff horder, Option.ite_none_right_eq_some]

/-! ### Isolation -/

/-- The map holds the flushed actions of the listener's own list. -/
def OwnActions (listener : RemoteObject) (told : ActionCallbackMap) : Prop :=
  ∀ action value : String, told[action]? = some value ↔
    action ∈ o.actionListeners.listOf listener ∧ actionCache[action]? = some value

theorem ownActions_iff {listener : RemoteObject} {told : ActionCallbackMap}
    (htold : (listener, told) ∈ o.deliverActions actionCache) :
    o.OwnActions actionCache listener told ↔
      ∀ action ∈ actionCache, o.actionListeners.AskedUpTo listener action →
        action ∈ o.actionListeners.listOf listener := by
  have hentry := o.getElem?_delivered actionCache htold
  refine ⟨fun h action haction hasked => ?_, fun h action value => ?_⟩
  · obtain ⟨value, hvalue⟩ := Option.isSome_iff_exists.mp
      (Std.ExtTreeMap.mem_iff_isSome_getElem?.mp haction)
    exact ((h action value).mp ((hentry action value).mpr ⟨hasked, hvalue⟩)).1
  · rw [hentry]
    refine and_congr_left fun hvalue => ⟨h action ?_, .inl⟩
    rw [Std.ExtTreeMap.mem_iff_isSome_getElem?, hvalue]
    rfl

/-- Every listener is handed the pending values of its own actions, and nothing else. -/
def ServesOwnActions : Prop :=
  o.findSubscribeActionValue.2.map Prod.fst =
      (if o.actionMap.isEmpty then [] else o.actionListeners.order) ∧
    ∀ turn ∈ o.findSubscribeActionValue.2, o.OwnActions o.actionMap turn.1 turn.2

/-- Each pending action that a listener told earlier asked for is one that a listener asked for
itself. -/
def EarlierActionsOwn : Prop :=
  ∀ listener ∈ o.actionListeners.lists, ∀ other ∈ o.actionListeners.lists, other < listener →
    ∀ action ∈ o.actionMap, action ∈ o.actionListeners.listOf other →
      action ∈ o.actionListeners.listOf listener

theorem servesOwnActions_iff : o.ServesOwnActions ↔ o.EarlierActionsOwn := by
  rw [ServesOwnActions, findSubscribeActionValue, takeActionMap]
  by_cases hempty : o.actionMap.isEmpty
  · rw [if_pos hempty, if_pos hempty]
    refine iff_of_true ⟨rfl, fun turn hturn => absurd hturn List.not_mem_nil⟩ ?_
    intro listener _ other _ _ action haction
    rw [Std.ExtTreeMap.isEmpty_iff.mp hempty] at haction
    exact absurd haction Std.ExtTreeMap.not_mem_empty
  · rw [if_neg hempty, if_neg hempty]
    show (o.deliverActions o.actionMap).map Prod.fst = _ ∧
      (∀ turn ∈ o.deliverActions o.actionMap, o.OwnActions o.actionMap turn.1 turn.2) ↔ _
    have htold := o.deliverActions_told o.actionMap
    refine ⟨fun h listener hlistener other hother hlt action haction hasked => ?_,
      fun h => ⟨htold, fun turn hturn => ?_⟩⟩
    · have hmem : listener ∈ (o.deliverActions o.actionMap).map Prod.fst := by
        rw [htold]
        exact CallbackRegistry.mem_order.mpr hlistener
      obtain ⟨⟨_, told⟩, hturn, rfl⟩ := List.mem_map.mp hmem
      exact (o.ownActions_iff o.actionMap hturn).mp (h.2 _ hturn) action haction
        (.inr ⟨other, hother, hlt, hasked⟩)
    · refine (o.ownActions_iff o.actionMap hturn).mpr fun action haction hasked => ?_
      have hlistener : turn.1 ∈ o.actionListeners.lists := by
        rw [← CallbackRegistry.mem_order, ← htold]
        exact List.mem_map_of_mem hturn
      rcases hasked with hown | ⟨other, hother, hlt, hasked⟩
      · exact hown
      · exact h turn.1 hlistener other hother hlt action haction hasked

/-- What a listener is handed, in two runs with the same pending values. -/
theorem ServesOwnActions.alike {o o' : ThermalObserver} (h : o.ServesOwnActions)
    (h' : o'.ServesOwnActions) (hpending : o.actionMap = o'.actionMap)
    {turn turn' : RemoteObject × ActionCallbackMap} (hturn : turn ∈ o.findSubscribeActionValue.2)
    (hturn' : turn' ∈ o'.findSubscribeActionValue.2)
    (hlist : o.actionListeners.listOf turn.1 = o'.actionListeners.listOf turn'.1) :
    turn.2 = turn'.2 := by
  refine Std.ExtTreeMap.ext_getElem? fun {action} => Option.ext fun value => ?_
  rw [h.2 _ hturn, h'.2 _ hturn', hlist, hpending]

/-- Whatever the listeners, their lists, their order and the pending values are, every listener is
handed its own actions exactly when those told earlier did not ask for other pending ones. Then
nothing else about the other listeners matters. -/
theorem every_listener_served_own_actions_iff (o : ThermalObserver) :
    (o.ServesOwnActions ↔ o.EarlierActionsOwn) ∧
      ∀ o' : ThermalObserver, o.actionMap = o'.actionMap → o.EarlierActionsOwn →
        o'.EarlierActionsOwn → ∀ turn ∈ o.findSubscribeActionValue.2,
          ∀ turn' ∈ o'.findSubscribeActionValue.2,
            o.actionListeners.listOf turn.1 = o'.actionListeners.listOf turn'.1 →
              turn.2 = turn'.2 := by
  refine ⟨o.servesOwnActions_iff, fun o' hpending h h' turn hturn turn' hturn' hlist => ?_⟩
  have hserves := o.servesOwnActions_iff.mpr h
  exact hserves.alike (o'.servesOwnActions_iff.mpr h') hpending hturn hturn' hlist

/-- Two listeners with an action each, and a value pending for the first. -/
def lampListener : ThermalObserver :=
  let o := (({} : ThermalObserver).subscribeThermalActionCallback ["lcd"] (some 1)).1
  ((o.subscribeThermalActionCallback ["volume"] (some 2)).1).setDecisionValue "lcd" "0.8"

/-- The second listener is handed the action of the first. -/
theorem second_listener_served_foreign_action : ¬ lampListener.ServesOwnActions := by
  intro h
  have hturn : (2, (∅ : ActionCallbackMap).insertIfNew "lcd" "0.8") ∈
      lampListener.findSubscribeActionValue.2 := by decide
  have hown := ((h.2 _ hturn "lcd" "0.8").mp (by decide)).1
  revert hown
  decide

end ThermalObserver

end ThermalManager
