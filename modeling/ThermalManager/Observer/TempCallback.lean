import ThermalManager.Observer.ThermalObserver
import ThermalManager.Lib.Run

/-!
# What temperature listeners are told

The previous temperatures and the result of the loop are shared by all listeners. So a listener is
handed whatever changed against the shared previous temperatures among its own types and those of
the listeners before it. The history of a run keeps, beside the observer, what each listener was
last told, and what the reports of the run said.
-/

namespace ThermalManager

namespace ThermalObserver

/-! ### The loop -/

/-- The state of the loop after the types so far: each was compared once, in effect, with the
previous temperature from before the loop. -/
structure Compared (pre info : TypeTempMap) (types : List String) (n : NotifyState) : Prop where
  preSensor : ∀ type, n.preSensor.getD type 0 =
    if type ∈ types then info.getD type 0 else pre.getD type 0
  tempCbMap : ∀ type : String, n.tempCbMap[type]? =
    if type ∈ types then some (info.getD type 0) else info[type]?
  newTempCbMap : ∀ type : String, n.newTempCbMap[type]? =
    if type ∈ types ∧ pre.getD type 0 ≠ info.getD type 0 then some (info.getD type 0) else none

/-- Reading through `[]` creates an entry but changes no reading. -/
theorem getD_insertIfNew_zero (m : TypeTempMap) (key other : String) :
    (m.insertIfNew key 0).getD other 0 = m.getD other 0 := by
  rw [Std.ExtTreeMap.getD_eq_getD_getElem?, Fanout.getElem?_insertIfNew]
  split
  case isTrue heq => rw [heq, Option.getD_some]
  case isFalse => exact Std.ExtTreeMap.getD_eq_getD_getElem?.symm

variable {pre info : TypeTempMap} {types : List String} {n : NotifyState}

theorem Compared.start (pre info : TypeTempMap) :
    Compared pre info [] { preSensor := pre, tempCbMap := info } where
  preSensor _ := rfl
  tempCbMap _ := rfl
  newTempCbMap _ := by simp

theorem Compared.temp (h : Compared pre info types n) (type : String) :
    n.tempCbMap.getD type 0 = info.getD type 0 := by
  rw [Std.ExtTreeMap.getD_eq_getD_getElem?, h.tempCbMap]
  split
  · rfl
  · exact Std.ExtTreeMap.getD_eq_getD_getElem?.symm

theorem mem_append_singleton_iff {type other : String} :
    other ∈ types ++ [type] ↔ type = other ∨ other ∈ types := by
  rw [List.mem_append, List.mem_singleton, or_comm, eq_comm]

theorem Compared.differs_iff (h : Compared pre info types n) (type other : String) :
    (other ∈ types ++ [type] ∧ pre.getD other 0 ≠ info.getD other 0) ↔
      (type = other ∧ n.preSensor.getD type 0 ≠ info.getD type 0) ∨
        (other ∈ types ∧ pre.getD other 0 ≠ info.getD other 0) := by
  rw [mem_append_singleton_iff, h.preSensor]
  by_cases heq : type = other
  · subst heq
    by_cases hdone : type ∈ types
    · simp [hdone]
    · simp [hdone]
  · simp [heq]

theorem Compared.tempCbMap_next (h : Compared pre info types n) (type other : String) :
    (n.tempCbMap.insertIfNew type 0)[other]? =
      if other ∈ types ++ [type] then some (info.getD other 0) else info[other]? := by
  simp only [mem_append_singleton_iff]
  rw [Fanout.getElem?_insertIfNew, h.temp, h.tempCbMap]
  by_cases heq : type = other
  · rw [if_pos heq, if_pos (.inl heq), heq]
  · simp only [heq, false_or, if_false]

theorem Compared.preSensor_next (h : Compared pre info types n) (type other : String) :
    (if other ∈ types ++ [type] then info.getD other 0 else pre.getD other 0) =
      if type = other then info.getD other 0 else n.preSensor.getD other 0 := by
  rw [h.preSensor]
  simp only [mem_append_singleton_iff]
  by_cases heq : type = other
  · rw [if_pos (.inl heq), if_pos heq]
  · simp only [heq, false_or, if_false]

theorem Compared.unchanged (h : Compared pre info types n) {type : String}
    (hsame : n.preSensor.getD type 0 = info.getD type 0) :
    Compared pre info (types ++ [type]) { n with
      preSensor := n.preSensor.insertIfNew type 0
      tempCbMap := n.tempCbMap.insertIfNew type 0 } where
  preSensor other := by
    rw [h.preSensor_next, getD_insertIfNew_zero]
    by_cases heq : type = other
    · rw [if_pos heq, ← heq, hsame]
    · rw [if_neg heq]
  tempCbMap := h.tempCbMap_next type
  newTempCbMap other := by
    rw [h.newTempCbMap]
    simp only [h.differs_iff, hsame, ne_eq, not_true_eq_false, and_false, false_or]

/-- A type with a changed temperature goes into the result. It is not there yet, since a type that
was compared has the temperature of the report. -/
theorem Compared.changed (h : Compared pre info types n) {type : String}
    (hdiffers : n.preSensor.getD type 0 ≠ info.getD type 0) :
    Compared pre info (types ++ [type]) {
      preSensor := (n.preSensor.insertIfNew type 0).insert type (info.getD type 0)
      tempCbMap := n.tempCbMap.insertIfNew type 0
      newTempCbMap := n.newTempCbMap.insertIfNew type (info.getD type 0) } where
  preSensor other := by
    rw [h.preSensor_next, Std.ExtTreeMap.getD_insert, getD_insertIfNew_zero]
    by_cases heq : type = other
    · subst heq
      rw [if_pos Std.ReflOrd.compare_self, if_pos rfl]
    · rw [if_neg (fun hcmp => heq (Std.LawfulEqOrd.eq_of_compare hcmp)), if_neg heq]
  tempCbMap := h.tempCbMap_next type
  newTempCbMap other := by
    have hnew : n.newTempCbMap[type]? = none := by
      rw [h.newTempCbMap, if_neg]
      intro hdone
      exact hdiffers ((h.preSensor type).trans (if_pos hdone.1))
    simp only [h.differs_iff]
    rw [Fanout.getElem?_insertIfNew, Std.ExtTreeMap.getD_eq_getD_getElem?, hnew, h.newTempCbMap]
    by_cases heq : type = other
    · subst heq
      rw [if_pos rfl, if_pos (.inl ⟨rfl, hdiffers⟩)]
      rfl
    · simp only [heq, false_and, false_or, if_false]

theorem Compared.compareTemp (h : Compared pre info types n) (type : String) :
    Compared pre info (types ++ [type]) (compareTemp n type) := by
  have htemp : (n.tempCbMap.insertIfNew type 0).getD type 0 = info.getD type 0 := by
    rw [getD_insertIfNew_zero, h.temp]
  rw [ThermalObserver.compareTemp, htemp, getD_insertIfNew_zero]
  by_cases hsame : n.preSensor.getD type 0 = info.getD type 0
  · rw [if_neg (not_not_intro hsame)]
    exact h.unchanged hsame
  · rw [if_pos hsame]
    exact h.changed hsame

theorem Compared.foldl (h : Compared pre info types n) (more : List String) :
    Compared pre info (types ++ more) (more.foldl ThermalObserver.compareTemp n) := by
  induction more generalizing types n with
  | nil => simpa using h
  | cons type rest ih =>
    rw [List.foldl_cons, List.append_cons]
    exact ih (h.compareTemp type)

theorem compared_turns (r : CallbackRegistry) (pre info : TypeTempMap)
    (told : List RemoteObject) :
    Compared pre info (told.flatMap r.listOf)
      (told.foldl (compareListenerTemps r) { preSensor := pre, tempCbMap := info }) := by
  have hturn : compareListenerTemps r = fun n listener => (r.listOf listener).foldl compareTemp n :=
    funext fun n => funext fun listener => CallbackRegistry.turn_eq compareTemp n
  rw [hturn, Fanout.foldl_turns]
  exact (Compared.start pre info).foldl _

/-! ### A report -/

variable (o : ThermalObserver) (report : TypeTempMap)

theorem onReceivedSensorInfo_told :
    (o.onReceivedSensorInfo report).2.map Prod.fst = o.sensorTempListeners.order := by
  rw [onReceivedSensorInfo, notifySensorTempChanged]
  split
  case isTrue hempty => exact (List.isEmpty_iff.mp hempty).symm
  case isFalse =>
    rw [List.map_map]
    exact Fanout.map_fst_serve _ _ _

theorem getElem?_told {listener : RemoteObject} {told : TypeTempMap}
    (htold : (listener, told) ∈ (o.onReceivedSensorInfo report).2) (type : String) (temp : Int) :
    told[type]? = some temp ↔
      o.sensorTempListeners.AskedUpTo listener type ∧
        o.preSensor.getD type 0 ≠ report.getD type 0 ∧ report.getD type 0 = temp := by
  rw [onReceivedSensorInfo, notifySensorTempChanged] at htold
  split at htold
  case isTrue => exact absurd htold List.not_mem_nil
  case isFalse =>
    obtain ⟨⟨turn, n⟩, hturn, heq⟩ := List.mem_map.mp htold
    obtain ⟨rfl, rfl⟩ := Prod.mk.inj heq
    obtain ⟨before, after, horder, rfl⟩ := Fanout.mem_serve.mp hturn
    rw [(compared_turns _ _ _ _).newTempCbMap, CallbackRegistry.askedUpTo_iff horder]
    simp only [Option.ite_none_right_eq_some, Option.some.injEq, and_assoc]

theorem getD_preSensor (type : String) :
    (o.onReceivedSensorInfo report).1.preSensor.getD type 0 =
      if type ∈ o.sensorTempListeners.order.flatMap o.sensorTempListeners.listOf
      then report.getD type 0 else o.preSensor.getD type 0 := by
  rw [onReceivedSensorInfo, notifySensorTempChanged]
  split
  case isTrue hempty =>
    have hnone : o.sensorTempListeners.order = [] := List.isEmpty_iff.mp hempty
    rw [hnone]
    rfl
  case isFalse => exact (compared_turns _ _ _ _).preSensor type

theorem getElem?_callbackinfo (type : String) :
    (o.onReceivedSensorInfo report).1.callbackinfo[type]? =
      if type ∈ o.sensorTempListeners.order.flatMap o.sensorTempListeners.listOf
      then some (report.getD type 0) else report[type]? := by
  rw [onReceivedSensorInfo, notifySensorTempChanged]
  split
  case isTrue hempty =>
    have hnone : o.sensorTempListeners.order = [] := List.isEmpty_iff.mp hempty
    rw [hnone]
    rfl
  case isFalse => exact (compared_turns _ _ _ _).tempCbMap type

end ThermalObserver

/-! ### Histories -/

inductive TempEvent where
  | report (info : TypeTempMap)
  | subscribe (typeList : List String) (callback : Option RemoteObject)
  | unSubscribe (callback : Option RemoteObject)
  | query (type : SensorType)

/-- The observer, the temperature each listener was last told for each type, and what the reports
say: the latest one with the listeners there were when it came, the temperature each listener's
types had when a report last had them, and what the latest report said, zero where it had nothing,
about each type that somebody subscribed to then. -/
structure TempHistory where
  observer : ThermalObserver
  heard : RemoteObject → String → Option Int := fun _ _ => none
  latest : Option (TypeTempMap × CallbackRegistry) := none
  reported : RemoteObject → String → Option Int := fun _ _ => none
  compared : String → Int := fun _ => 0

namespace TempHistory

def start (typeMap : SensorType → Option String) : TempHistory where
  observer := { typeMap }

def step (s : TempHistory) : TempEvent → TempHistory
  | .report info =>
      let r := s.observer.sensorTempListeners
      { observer := (s.observer.onReceivedSensorInfo info).1
        heard := Fanout.hear s.heard (s.observer.onReceivedSensorInfo info).2
        latest := some (info, r)
        reported := fun listener type =>
          if type ∈ r.listOf listener then info[type]?.or (s.reported listener type)
          else s.reported listener type
        compared := fun type =>
          if type ∈ r.order.flatMap r.listOf then info.getD type 0 else s.compared type }
  | .subscribe typeList callback =>
      { s with observer := s.observer.subscribeThermalTempCallback typeList callback }
  | .unSubscribe callback =>
      { s with observer := s.observer.unSubscribeThermalTempCallback callback }
  | .query _ => s

/-- The map holds the listener's own types that are in the report with a temperature other than the
one the listener was last told. -/
def OwnChanges (s : TempHistory) (info : TypeTempMap) (listener : RemoteObject)
    (told : TypeTempMap) : Prop :=
  ∀ (type : String) (temp : Int), told[type]? = some temp ↔
    type ∈ s.observer.sensorTempListeners.listOf listener ∧ info[type]? = some temp ∧
      s.heard listener type ≠ some temp

/-- On a report every listener is told its own changes. -/
def TellsOwnChanges (s : TempHistory) : TempEvent → Prop
  | .report info =>
      (s.observer.onReceivedSensorInfo info).2.map Prod.fst = s.observer.sensorTempListeners.order ∧
        ∀ turn ∈ (s.observer.onReceivedSensorInfo info).2, s.OwnChanges info turn.1 turn.2
  | _ => True

/-- For one listener and one type, sharing the previous temperatures makes no difference. This
speaks of the reports and subscriptions only. -/
structure Unshared (s : TempHistory) (info : TypeTempMap) (listener : RemoteObject)
    (type : String) : Prop where
  /-- A type that only listeners told earlier asked for did not change. -/
  foreign : type ∉ s.observer.sensorTempListeners.listOf listener →
    s.observer.sensorTempListeners.AskedUpTo listener type → s.compared type = info.getD type 0
  /-- An own type that is not in the report was zero before. -/
  missing : type ∈ s.observer.sensorTempListeners.listOf listener → type ∉ info →
    s.compared type = 0
  /-- An own type in the report differs from the shared previous temperature when it differs from
  the listener's own. -/
  present : type ∈ s.observer.sensorTempListeners.listOf listener →
    ∀ temp, info[type]? = some temp →
      (s.compared type = temp ↔ s.reported listener type = some temp)

def NothingShared (s : TempHistory) : TempEvent → Prop
  | .report info => ∀ listener ∈ s.observer.sensorTempListeners.lists, ∀ type,
      s.Unshared info listener type
  | _ => True

/-- While all listeners are told their own changes, what they heard is what was reported. -/
structure InStep (s : TempHistory) : Prop where
  heard : ∀ listener type, s.heard listener type = s.reported listener type
  compared : ∀ type, s.observer.preSensor.getD type 0 = s.compared type

theorem inStep_start (typeMap : SensorType → Option String) : (start typeMap).InStep where
  heard _ _ := rfl
  compared _ := rfl

variable {s : TempHistory} {info : TypeTempMap}

theorem getD_eq_of_getElem? {type : String} {temp : Int} (htype : info[type]? = some temp) :
    info.getD type 0 = temp := by
  rw [Std.ExtTreeMap.getD_eq_getD_getElem?, htype, Option.getD_some]

section Told

variable {listener : RemoteObject} {told : TypeTempMap}
  (htold : (listener, told) ∈ (s.observer.onReceivedSensorInfo info).2)
include htold

/-- A listener is told what changed among its types and those of the listeners before it. -/
theorem InStep.told_iff (hs : s.InStep) (type : String) (temp : Int) :
    told[type]? = some temp ↔
      s.observer.sensorTempListeners.AskedUpTo listener type ∧
        s.compared type ≠ info.getD type 0 ∧ info.getD type 0 = temp := by
  rw [ThermalObserver.getElem?_told s.observer info htold, hs.compared]

theorem OwnChanges.unshared (hs : s.InStep) (h : s.OwnChanges info listener told) (type : String) :
    s.Unshared info listener type := by
  refine { foreign := ?foreign, missing := ?missing, present := ?present }
  case foreign =>
    intro hother hasked
    by_contra hchanged
    exact hother ((h type _).mp ((hs.told_iff htold type _).mpr ⟨hasked, hchanged, rfl⟩)).1
  case missing =>
    intro hown hmissing
    have hzero : info.getD type 0 = 0 := Std.ExtTreeMap.getD_eq_fallback hmissing
    by_contra hne
    have hchanged : s.compared type ≠ info.getD type 0 := by
      rw [hzero]
      exact hne
    have htype :=
      ((h type _).mp ((hs.told_iff htold type _).mpr ⟨.inl hown, hchanged, rfl⟩)).2.1
    rw [Std.ExtTreeMap.getElem?_eq_none hmissing] at htype
    cases htype
  case present =>
    intro hown temp htype
    rw [← not_iff_not, ← getD_eq_of_getElem? htype, ← hs.heard]
    refine ⟨fun hchanged => ?_, fun hnews => ?_⟩
    · exact ((h type _).mp ((hs.told_iff htold type _).mpr ⟨.inl hown, hchanged, rfl⟩)).2.2
    · have htold' := (h type temp).mpr ⟨hown, htype, by rwa [← getD_eq_of_getElem? htype]⟩
      exact ((hs.told_iff htold type temp).mp htold').2.1

theorem OwnChanges.of_unshared (hs : s.InStep)
    (h : ∀ type, s.Unshared info listener type) : s.OwnChanges info listener told := by
  intro type temp
  rw [hs.told_iff htold]
  refine ⟨fun ⟨hasked, hchanged, htemp⟩ => ?_, fun ⟨hown, htype, hnews⟩ => ?_⟩
  · have hown : type ∈ s.observer.sensorTempListeners.listOf listener := by
      by_contra hother
      exact hchanged ((h type).foreign hother hasked)
    cases htype : info[type]? with
    | none =>
      have hmissing : type ∉ info := by
        rw [Std.ExtTreeMap.mem_iff_isSome_getElem?, htype]
        exact Bool.false_ne_true
      have hzero : info.getD type 0 = 0 := Std.ExtTreeMap.getD_eq_fallback hmissing
      exact absurd (((h type).missing hown hmissing).trans hzero.symm) hchanged
    | some found =>
      obtain rfl := (getD_eq_of_getElem? htype).symm.trans htemp
      refine ⟨hown, rfl, fun hheard => hchanged ?_⟩
      rw [getD_eq_of_getElem? htype]
      exact ((h type).present hown found htype).mpr ((hs.heard _ _).symm.trans hheard)
  · have htemp := getD_eq_of_getElem? htype
    refine ⟨.inl hown, fun hsame => hnews ?_, htemp⟩
    exact (hs.heard _ _).trans (((h type).present hown temp htype).mp (hsame.trans htemp))

/-- Type by type, a listener is told its own changes exactly when nothing shared gets in. -/
theorem ownChanges_iff (hs : s.InStep) :
    s.OwnChanges info listener told ↔ ∀ type, s.Unshared info listener type :=
  ⟨fun h => h.unshared htold hs, .of_unshared htold hs⟩

end Told

theorem tellsOwnChanges_iff (hs : s.InStep) (e : TempEvent) :
    s.TellsOwnChanges e ↔ s.NothingShared e := by
  cases e with
  | report info =>
    have htold := ThermalObserver.onReceivedSensorInfo_told s.observer info
    refine ⟨fun h listener hlistener => ?_, fun h => ⟨htold, fun turn hturn => ?_⟩⟩
    · have hmem : listener ∈ (s.observer.onReceivedSensorInfo info).2.map Prod.fst := by
        rw [htold]
        exact CallbackRegistry.mem_order.mpr hlistener
      obtain ⟨⟨_, told⟩, hturn, rfl⟩ := List.mem_map.mp hmem
      exact (ownChanges_iff hturn hs).mp (h.2 _ hturn)
    · refine (ownChanges_iff hturn hs).mpr (h turn.1 (CallbackRegistry.mem_order.mp ?_))
      rw [← htold]
      exact List.mem_map_of_mem hturn
  | subscribe typeList callback => exact Iff.rfl
  | unSubscribe callback => exact Iff.rfl
  | query type => exact Iff.rfl

theorem hear_ownChanges {listener : RemoteObject} {told : TypeTempMap}
    (h : s.OwnChanges info listener told) (type : String) :
    told[type]?.or (s.heard listener type) =
      if type ∈ s.observer.sensorTempListeners.listOf listener
      then info[type]?.or (s.heard listener type) else s.heard listener type := by
  cases htold : told[type]? with
  | some temp =>
    obtain ⟨hown, htype, -⟩ := (h type temp).mp htold
    rw [if_pos hown, htype, Option.some_or]
  | none =>
    show s.heard listener type = _
    split
    case isFalse => rfl
    case isTrue hown =>
      cases htype : info[type]? with
      | none => rfl
      | some temp =>
        -- not told, so it was heard before
        by_contra hnews
        rw [(h type temp).mpr ⟨hown, htype, hnews⟩] at htold
        cases htold

theorem InStep.step (hs : s.InStep) {e : TempEvent} (hok : s.TellsOwnChanges e) :
    (s.step e).InStep := by
  cases e with
  | report info =>
    refine { heard := fun listener type => ?heard, compared := fun type => ?compared }
    case heard =>
      show Fanout.hear s.heard _ listener type = if _ then _ else _
      rw [← hs.heard]
      by_cases hlistener : listener ∈ s.observer.sensorTempListeners.lists
      · rw [← CallbackRegistry.mem_order, ← hok.1] at hlistener
        obtain ⟨told, hturn, hhear⟩ := Fanout.hear_of_mem hlistener type
        rw [hhear]
        exact hear_ownChanges (hok.2 _ hturn) type
      · rw [CallbackRegistry.listOf_of_not_mem hlistener, if_neg List.not_mem_nil]
        rw [← CallbackRegistry.mem_order, ← hok.1] at hlistener
        exact Fanout.hear_of_not_mem hlistener type
    case compared =>
      show _ = if _ then _ else _
      rw [← hs.compared]
      exact ThermalObserver.getD_preSensor _ _ _
  | subscribe typeList callback => exact ⟨hs.heard, hs.compared⟩
  | unSubscribe callback => exact ⟨hs.heard, hs.compared⟩
  | query type => exact hs

/-- In every run, all listeners are told their own changes on every report exactly when at every
report nothing shared gets in. -/
theorem every_listener_told_own_changes_iff (typeMap : SensorType → Option String)
    (events : List TempEvent) :
    StepSystem.Enabled TellsOwnChanges step (start typeMap) events ↔
      StepSystem.Enabled NothingShared step (start typeMap) events :=
  StepSystem.enabled_congr InStep (fun _ e hs => tellsOwnChanges_iff hs e)
    (fun _ _ hs hok => hs.step hok) (inStep_start typeMap) events

/-- A listener for one type, then a listener for another. -/
def twoListeners : List TempEvent :=
  [.subscribe ["soc"] (some 1), .subscribe ["battery"] (some 2)]

def socAndBattery : TypeTempMap := (∅ : TypeTempMap) |>.insert "soc" 40 |>.insert "battery" 30

/-- The second listener is told the type of the first. -/
theorem second_listener_told_foreign_type :
    ¬ StepSystem.Enabled TellsOwnChanges step (start fun _ => none)
      (twoListeners ++ [.report socAndBattery]) := by
  intro h
  have hreport : (twoListeners.foldl step (start fun _ => none)).TellsOwnChanges
      (.report socAndBattery) := h.2.2.1
  have hforeign := ((tellsOwnChanges_iff ⟨fun _ _ => rfl, fun _ => rfl⟩ _).mp hreport 2 (by decide)
    "soc").foreign (by decide) (.inr ⟨1, by decide, by decide, by decide⟩)
  revert hforeign
  decide

end TempHistory

end ThermalManager
