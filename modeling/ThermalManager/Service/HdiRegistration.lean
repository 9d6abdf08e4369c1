import ThermalManager.Lib.Run

/-!
# The listener at the device service manager

The part of `thermal_service.cpp` that keeps a status listener registered with the device service
manager, which tells when the thermal interface starts and stops. The service registers when it is
initialised, again when the manager is reported as added after it was reported as removed, and once
more later whenever that fails. The manager dies and starts on its own, and what is reported about
it arrives later.
-/

namespace ThermalManager

open StepSystem

/-! ### The service and the manager -/

/-- What the system ability manager reports about the device service manager. -/
inductive SaNotice
  | added
  | removed
  deriving DecidableEq

/-- How a registration goes: whether the manager can be got, and whether it takes the listener. -/
structure Attempt where
  got : Bool
  accepted : Bool

def Attempt.Succeeds (attempt : Attempt) : Prop := attempt.got ∧ attempt.accepted

/-- `manager` is the device service manager that runs, by how many there were before it, and
`listeners` those registered with it; a manager that dies takes its listeners along. `notices` have
not been delivered, and there are none before `watching`. The rest is the service: its members, how
many listeners it has made and how many delayed tasks will register. -/
structure HdiRegistration where
  manager : Option Nat
  managers : Nat
  listeners : List Nat := []
  notices : List SaNotice := []
  watching : Bool := false
  hdiServiceMgr : Option Nat := none
  hdiServStatListener : Option Nat := none
  isHdiRemove : Bool := false
  ready : Bool := false
  made : Nat := 0
  retries : Nat := 0

inductive HdiEvent
  | managerStarts
  | managerDies
  | addSystemAbilityListener
  | deliver (attempt : Attempt)
  | retryTask (attempt : Attempt)
  | onStop

namespace HdiRegistration

variable (s : HdiRegistration)

def registerHdiStatusListener (attempt : Attempt) : HdiRegistration :=
  if s.manager.isSome && attempt.got then
    let s := { s with
      hdiServiceMgr := s.manager
      hdiServStatListener := some s.made
      made := s.made + 1 }
    if attempt.accepted then { s with listeners := s.listeners ++ s.hdiServStatListener.toList }
    else { s with retries := s.retries + 1 }
  else { s with hdiServiceMgr := none, retries := s.retries + 1 }

def onAddSystemAbility (attempt : Attempt) : HdiRegistration :=
  if s.isHdiRemove then { s.registerHdiStatusListener attempt with isHdiRemove := false } else s

def onRemoveSystemAbility : HdiRegistration :=
  if s.isHdiRemove then s else { s with hdiServiceMgr := none, isHdiRemove := true }

/-- A listener is unregistered from the manager it was made for, if that still runs. -/
def onStop : HdiRegistration :=
  if s.ready then
    match s.hdiServiceMgr, s.hdiServStatListener with
    | some hdiServiceMgr, some listener =>
        { s with
          listeners := if s.manager = some hdiServiceMgr then s.listeners.erase listener
            else s.listeners
          hdiServiceMgr := none
          ready := false }
    | _, _ => { s with ready := false }
  else s

def notify (notice : SaNotice) : HdiRegistration :=
  if s.watching then { s with notices := s.notices ++ [notice] } else s

def deliver (attempt : Attempt) : HdiRegistration :=
  match s.notices with
  | [] => s
  | .added :: notices => { s with notices }.onAddSystemAbility attempt
  | .removed :: notices => { s with notices }.onRemoveSystemAbility

/-- A manager that runs already is reported at once. -/
def addSystemAbilityListener : HdiRegistration :=
  if s.manager.isSome then { s with watching := true, ready := true }.notify .added
  else { s with watching := true, ready := true }

def step : HdiEvent → HdiRegistration
  | .managerStarts =>
      { s with manager := some s.managers, managers := s.managers + 1 }.notify .added
  | .managerDies => { s with manager := none, listeners := [] }.notify .removed
  | .addSystemAbilityListener => s.addSystemAbilityListener
  | .deliver attempt => s.deliver attempt
  | .retryTask attempt => { s with retries := s.retries - 1 }.registerHdiStatusListener attempt
  | .onStop => s.onStop

/-- What can happen: only a manager that runs dies and only one that does not starts, and a notice
or a task is handled only if there is one. -/
def Possible : HdiEvent → Prop
  | .managerStarts => s.manager = none
  | .managerDies => s.manager.isSome
  | .addSystemAbilityListener => s.watching = false
  | .deliver _ => s.notices ≠ []
  | .retryTask _ => 0 < s.retries
  | .onStop => True

instance : (e : HdiEvent) → Decidable (s.Possible e)
  | .managerStarts => inferInstanceAs (Decidable (s.manager = none))
  | .managerDies => inferInstanceAs (Decidable (s.manager.isSome = true))
  | .addSystemAbilityListener => inferInstanceAs (Decidable (s.watching = false))
  | .deliver _ => inferInstanceAs (Decidable (s.notices ≠ []))
  | .retryTask _ => inferInstanceAs (Decidable (0 < s.retries))
  | .onStop => inferInstanceAs (Decidable True)

/-- The service before `Init`, with the manager running or not. -/
def created (running : Bool) : HdiRegistration where
  manager := if running then some 0 else none
  managers := if running then 1 else 0

def init (running : Bool) (attempt : Attempt) : HdiRegistration :=
  (created running).registerHdiStatusListener attempt

variable {s} {attempt : Attempt} {e : HdiEvent}

/-! ### What a registration does -/

/-- A listener is registered with the manager that runs, or the service will try again. -/
def Trying (s : HdiRegistration) : Prop := s.listeners ≠ [] ∨ 0 < s.retries

theorem registerHdiStatusListener_trying (s : HdiRegistration) (attempt : Attempt) :
    (s.registerHdiStatusListener attempt).Trying := by
  rw [registerHdiStatusListener]
  split
  · dsimp only
    split
    · exact .inl (by simp)
    · exact .inr (Nat.succ_pos _)
  · exact .inr (Nat.succ_pos _)

theorem registerHdiStatusListener_frame (s : HdiRegistration) (attempt : Attempt) :
    (s.registerHdiStatusListener attempt).manager = s.manager ∧
      (s.registerHdiStatusListener attempt).notices = s.notices ∧
      (s.registerHdiStatusListener attempt).watching = s.watching ∧
      (s.registerHdiStatusListener attempt).isHdiRemove = s.isHdiRemove := by
  rw [registerHdiStatusListener]
  split
  · dsimp only
    split <;> exact ⟨rfl, rfl, rfl, rfl⟩
  · exact ⟨rfl, rfl, rfl, rfl⟩

theorem registerHdiStatusListener_retries (hmanager : s.manager.isSome)
    (h : attempt.Succeeds) :
    (s.registerHdiStatusListener attempt).retries = s.retries := by
  obtain ⟨hgot, haccepted⟩ := h
  rw [registerHdiStatusListener, hmanager, hgot, Bool.and_self, if_pos rfl]
  dsimp only
  rw [if_pos haccepted]

/-! ### What is reported last -/

/-- What `isHdiRemove_` is once all notices have been delivered. -/
def removedAfter (s : HdiRegistration) : Bool :=
  match s.notices.getLast? with
  | none => s.isHdiRemove
  | some notice => notice == .removed

/-- A manager that runs is the last thing reported, and nothing is reported before the service
listens. -/
structure Reported (s : HdiRegistration) : Prop where
  running : s.manager.isSome → s.removedAfter = false
  unwatched : s.watching = false → s.notices = [] ∧ s.isHdiRemove = false

theorem removedAfter_notify (s : HdiRegistration) (notice : SaNotice) (hwatching : s.watching) :
    (s.notify notice).removedAfter = (notice == .removed) := by
  rw [notify, if_pos hwatching, removedAfter, List.getLast?_concat]

theorem removedAfter_cons {notice : SaNotice} {notices : List SaNotice}
    (h : s.notices = notice :: notices) {s' : HdiRegistration} (hnotices : s'.notices = notices)
    (hremove : s'.isHdiRemove = (notice == .removed)) : s'.removedAfter = s.removedAfter := by
  rw [removedAfter, removedAfter, h, hnotices, hremove]
  cases notices with
  | nil => rfl
  | cons next rest => rfl

theorem reported_notify (hunwatched : s.watching = false → s.notices = [] ∧ s.isHdiRemove = false)
    (notice : SaNotice) (hrunning : s.manager.isSome → notice = .added) :
    (s.notify notice).Reported := by
  cases hwatching : s.watching with
  | false =>
    obtain ⟨hnotices, hremove⟩ := hunwatched hwatching
    rw [notify, hwatching]
    refine ⟨fun _ => ?_, hunwatched⟩
    show s.removedAfter = false
    rw [removedAfter, hnotices]
    exact hremove
  | true =>
    refine ⟨fun hmanager => ?_, fun hfalse => ?_⟩
    · rw [removedAfter_notify s notice hwatching]
      rw [notify, if_pos hwatching] at hmanager
      rw [hrunning hmanager]
      rfl
    · rw [notify, if_pos hwatching] at hfalse
      exact absurd (hwatching.symm.trans hfalse) (by simp)

theorem Reported.congr {s' : HdiRegistration} (h : s.Reported) (hmanager : s'.manager = s.manager)
    (hwatching : s'.watching = s.watching) (hnotices : s'.notices = s.notices)
    (hremove : s'.isHdiRemove = s.isHdiRemove) : s'.Reported := by
  refine ⟨fun hrunning => ?_, fun hunwatched => ?_⟩
  · rw [removedAfter, hnotices, hremove]
    exact h.running (hmanager ▸ hrunning)
  · rw [hnotices, hremove]
    exact h.unwatched (hwatching ▸ hunwatched)

/-! ### The notices -/

theorem onAddSystemAbility_of_removed (h : s.isHdiRemove) (attempt : Attempt) :
    s.onAddSystemAbility attempt =
      { s.registerHdiStatusListener attempt with isHdiRemove := false } :=
  if_pos h

theorem onAddSystemAbility_of_present (h : ¬ s.isHdiRemove) (attempt : Attempt) :
    s.onAddSystemAbility attempt = s :=
  if_neg h

theorem onAddSystemAbility_frame (s : HdiRegistration) (attempt : Attempt) :
    (s.onAddSystemAbility attempt).manager = s.manager ∧
      (s.onAddSystemAbility attempt).notices = s.notices ∧
      (s.onAddSystemAbility attempt).watching = s.watching ∧
      (s.onAddSystemAbility attempt).isHdiRemove = false := by
  by_cases h : s.isHdiRemove
  · obtain ⟨hmanager, hnotices, hwatching, -⟩ := registerHdiStatusListener_frame s attempt
    rw [onAddSystemAbility_of_removed h]
    exact ⟨hmanager, hnotices, hwatching, rfl⟩
  · rw [onAddSystemAbility_of_present h]
    exact ⟨rfl, rfl, rfl, Bool.eq_false_iff.mpr h⟩

theorem onRemoveSystemAbility_eq (s : HdiRegistration) : ∃ hdiServiceMgr,
    s.onRemoveSystemAbility = { s with hdiServiceMgr, isHdiRemove := true } := by
  rw [onRemoveSystemAbility]
  split
  case isTrue h =>
    refine ⟨s.hdiServiceMgr, ?_⟩
    rw [← h]
  case isFalse => exact ⟨none, rfl⟩

theorem onAddSystemAbility_trying (h : s.Trying ∨ s.isHdiRemove) (attempt : Attempt) :
    (s.onAddSystemAbility attempt).Trying := by
  by_cases hremove : s.isHdiRemove
  · rw [onAddSystemAbility_of_removed hremove]
    exact registerHdiStatusListener_trying s attempt
  · rw [onAddSystemAbility_of_present hremove]
    exact h.resolve_right hremove

theorem deliver_added {notices : List SaNotice} (h : s.notices = .added :: notices)
    (attempt : Attempt) :
    s.deliver attempt = onAddSystemAbility { s with notices } attempt := by
  rw [deliver, h]

theorem deliver_removed {notices : List SaNotice} (h : s.notices = .removed :: notices)
    (attempt : Attempt) : s.deliver attempt = onRemoveSystemAbility { s with notices } := by
  rw [deliver, h]

theorem deliver_trying {notices : List SaNotice} (h : s.notices = .added :: notices)
    (htrying : s.Trying ∨ s.isHdiRemove) (attempt : Attempt) : (s.deliver attempt).Trying := by
  let rest : HdiRegistration := { s with notices }
  rw [deliver_added h]
  exact @onAddSystemAbility_trying rest htrying attempt

/-- What the delivery of a notice leaves alone, and what `isHdiRemove_` is after it. -/
theorem deliver_frame {notice : SaNotice} {notices : List SaNotice}
    (h : s.notices = notice :: notices) (attempt : Attempt) :
    (s.deliver attempt).manager = s.manager ∧ (s.deliver attempt).notices = notices ∧
      (s.deliver attempt).watching = s.watching ∧
      (s.deliver attempt).isHdiRemove = (notice == .removed) := by
  cases notice with
  | added =>
    rw [deliver_added h]
    exact onAddSystemAbility_frame { s with notices } attempt
  | removed =>
    obtain ⟨hdiServiceMgr, heq⟩ := onRemoveSystemAbility_eq { s with notices }
    rw [deliver_removed h, heq]
    exact ⟨rfl, rfl, rfl, rfl⟩

theorem onAddSystemAbility_retries (hmanager : s.manager.isSome) (h : attempt.Succeeds) :
    (s.onAddSystemAbility attempt).retries = s.retries := by
  by_cases hremove : s.isHdiRemove
  · rw [onAddSystemAbility_of_removed hremove]
    exact registerHdiStatusListener_retries hmanager h
  · rw [onAddSystemAbility_of_present hremove]

theorem deliver_retries (hmanager : s.manager.isSome) (h : attempt.Succeeds) :
    (s.deliver attempt).retries = s.retries := by
  rw [deliver]
  split
  · rfl
  case h_2 notices hnotices => exact onAddSystemAbility_retries hmanager h
  case h_3 notices hnotices =>
    obtain ⟨hdiServiceMgr, heq⟩ := onRemoveSystemAbility_eq { s with notices }
    rw [heq]

theorem onStop_frame (s : HdiRegistration) :
    s.onStop.manager = s.manager ∧ s.onStop.notices = s.notices ∧
      s.onStop.watching = s.watching ∧ s.onStop.isHdiRemove = s.isHdiRemove := by
  rw [onStop]
  split
  · split <;> exact ⟨rfl, rfl, rfl, rfl⟩
  · exact ⟨rfl, rfl, rfl, rfl⟩

theorem Reported.step (h : s.Reported) (hpossible : s.Possible e) : (s.step e).Reported := by
  cases e with
  | managerStarts =>
    let started : HdiRegistration :=
      { s with manager := some s.managers, managers := s.managers + 1 }
    exact @reported_notify started h.unwatched .added fun _ => rfl
  | managerDies =>
    let dead : HdiRegistration := { s with manager := none, listeners := [] }
    exact @reported_notify dead h.unwatched .removed fun hnone => by cases hnone
  | addSystemAbilityListener =>
    show s.addSystemAbilityListener.Reported
    rw [HdiRegistration.addSystemAbilityListener]
    split
    case isTrue => exact reported_notify (fun hfalse => by cases hfalse) .added fun _ => rfl
    case isFalse hnone =>
      exact ⟨fun hmanager => absurd hmanager hnone, fun hfalse => by cases hfalse⟩
  | deliver attempt =>
    obtain ⟨notice, notices, heq⟩ := List.exists_cons_of_ne_nil hpossible
    obtain ⟨hmanager, hnotices, hwatching, hremove⟩ := deliver_frame heq attempt
    refine ⟨fun hrunning => ?_, fun hunwatched => ?_⟩
    · show (s.deliver attempt).removedAfter = false
      rw [removedAfter_cons heq hnotices hremove]
      exact h.running (hmanager ▸ hrunning)
    · have hnil := (h.unwatched (hwatching ▸ hunwatched)).1
      exact absurd hnil hpossible
  | retryTask attempt =>
    obtain ⟨hmanager, hnotices, hwatching, hremove⟩ :=
      registerHdiStatusListener_frame { s with retries := s.retries - 1 } attempt
    exact h.congr hmanager hwatching hnotices hremove
  | onStop =>
    obtain ⟨hmanager, hnotices, hwatching, hremove⟩ := onStop_frame s
    exact h.congr hmanager hwatching hnotices hremove

/-! ### A registration is not lost -/

/-- The service tries, or will try when the manager is added. -/
def Covered (s : HdiRegistration) : Prop := s.Trying ∨ s.isHdiRemove ∨ .removed ∈ s.notices

theorem covered_notify_removed (hwatching : s.watching) : (s.notify .removed).Covered := by
  rw [notify, if_pos hwatching]
  exact .inr (.inr (List.mem_append_right _ (List.mem_singleton.mpr rfl)))

theorem Covered.notify (h : s.Covered) (notice : SaNotice) : (s.notify notice).Covered := by
  rw [HdiRegistration.notify]
  split
  · exact h.imp_right (Or.imp_right (List.mem_append_left _))
  · exact h

theorem Covered.deliver (h : s.Covered) (hne : s.notices ≠ []) (attempt : Attempt) :
    (s.deliver attempt).Covered := by
  obtain ⟨notice, notices, heq⟩ := List.exists_cons_of_ne_nil hne
  obtain ⟨-, hnotices, -, hremove⟩ := deliver_frame heq attempt
  cases notice with
  | removed => exact .inr (.inl hremove)
  | added =>
    rcases h with htrying | hremoved | hnotice
    · exact .inl (deliver_trying heq (.inl htrying) attempt)
    · exact .inl (deliver_trying heq (.inr hremoved) attempt)
    · rw [heq] at hnotice
      refine .inr (.inr ?_)
      rw [hnotices]
      exact (List.mem_cons.mp hnotice).resolve_left (by decide)

/-- Only the death of the manager and a stop can end it. -/
theorem Covered.step (h : s.Covered) (hpossible : s.Possible e) (hdies : e ≠ .managerDies)
    (hstop : e ≠ .onStop) : (s.step e).Covered := by
  cases e with
  | managerStarts =>
    let started : HdiRegistration :=
      { s with manager := some s.managers, managers := s.managers + 1 }
    exact @Covered.notify started h .added
  | managerDies => exact absurd rfl hdies
  | addSystemAbilityListener =>
    let listening : HdiRegistration := { s with watching := true, ready := true }
    show s.addSystemAbilityListener.Covered
    rw [HdiRegistration.addSystemAbilityListener]
    split
    · exact @Covered.notify listening h .added
    · exact h
  | deliver attempt => exact h.deliver hpossible attempt
  | retryTask attempt => exact .inl (registerHdiStatusListener_trying _ attempt)
  | onStop => exact absurd rfl hstop

theorem notify_watching (s : HdiRegistration) (notice : SaNotice) :
    (s.notify notice).watching = s.watching := by
  rw [notify]
  split <;> rfl

theorem step_watching (hpossible : s.Possible e) :
    (s.step e).watching ↔ s.watching ∨ e = .addSystemAbilityListener := by
  have hother : e ≠ .addSystemAbilityListener → (s.step e).watching = s.watching := by
    intro hne
    cases e with
    | managerStarts => exact notify_watching _ .added
    | managerDies => exact notify_watching _ .removed
    | addSystemAbilityListener => exact absurd rfl hne
    | deliver attempt =>
      obtain ⟨notice, notices, heq⟩ := List.exists_cons_of_ne_nil hpossible
      exact (deliver_frame heq attempt).2.2.1
    | retryTask attempt => exact (registerHdiStatusListener_frame _ attempt).2.2.1
    | onStop => exact (onStop_frame s).2.2.1
  by_cases hadd : e = .addSystemAbilityListener
  · subst hadd
    refine iff_of_true ?_ (.inr rfl)
    show s.addSystemAbilityListener.watching
    rw [addSystemAbilityListener]
    split
    · exact notify_watching _ .added
    · rfl
  · rw [hother hadd, or_iff_left hadd]

/-- The registration was given up and the manager has not died since: the service was stopped, or
the manager died before the service listened for it. -/
def Interrupted (events : List HdiEvent) : Prop :=
  ∃ before e after, events = before ++ e :: after ∧
    (e = .onStop ∨ e = .managerDies ∧ .addSystemAbilityListener ∉ before) ∧ .managerDies ∉ after

theorem Interrupted.concat {events : List HdiEvent} (h : Interrupted events)
    (hdies : e ≠ .managerDies) : Interrupted (events ++ [e]) := by
  obtain ⟨before, cause, after, rfl, hcause, hafter⟩ := h
  refine ⟨before, cause, after ++ [e], by simp, hcause, fun hmem => ?_⟩
  rcases List.mem_append.mp hmem with hmem | hmem
  · exact hafter hmem
  · exact hdies (List.mem_singleton.mp hmem).symm

/-- The state of the service after a run: it listens if it has said so, and has not lost its
registration if it has not given it up. -/
structure Kept (events : List HdiEvent) (s : HdiRegistration) : Prop where
  reported : s.Reported
  watching : s.watching ↔ .addSystemAbilityListener ∈ events
  covered : ¬ Interrupted events → s.Covered

theorem init_kept (running : Bool) (attempt : Attempt) : (init running attempt).Kept [] := by
  obtain ⟨-, hnotices, hwatching, hremove⟩ :=
    registerHdiStatusListener_frame (created running) attempt
  constructor
  · refine ⟨fun _ => ?_, fun _ => ⟨hnotices, hremove⟩⟩
    rw [init, removedAfter, hnotices]
    exact hremove
  · rw [init, hwatching]
    exact iff_of_false Bool.false_ne_true List.not_mem_nil
  · exact fun _ => .inl (registerHdiStatusListener_trying _ attempt)

theorem Kept.step {events : List HdiEvent} (h : s.Kept events) (hpossible : s.Possible e) :
    (s.step e).Kept (events ++ [e]) := by
  refine ⟨h.reported.step hpossible, ?_, fun hevents => ?_⟩
  · rw [step_watching hpossible, h.watching, List.mem_append, List.mem_singleton, eq_comm]
  · by_cases hstop : e = .onStop
    · exact absurd ⟨events, e, [], rfl, .inl hstop, List.not_mem_nil⟩ hevents
    by_cases hdies : e = .managerDies
    · subst hdies
      have hwatching : s.watching := by
        rw [h.watching]
        by_contra hnot
        exact hevents ⟨events, _, [], rfl, .inr ⟨rfl, hnot⟩, List.not_mem_nil⟩
      exact @covered_notify_removed { s with manager := none, listeners := [] } hwatching
    · have hbefore := h.covered fun hbefore => hevents (hbefore.concat hdies)
      exact hbefore.step hpossible hdies hstop

theorem run_kept {running : Bool} {attempt : Attempt} {events : List HdiEvent}
    {s : HdiRegistration} (hrun : Run Possible step (init running attempt) events s) :
    s.Kept events := by
  induction hrun with
  | nil => exact init_kept running attempt
  | snoc _ hpossible ih => exact ih.step hpossible

/-! ### A manager that stays -/

/-- A notice or a task is handled and the manager, if it is asked, answers. -/
def Settles : HdiEvent → Prop
  | .deliver attempt | .retryTask attempt => attempt.Succeeds
  | _ => False

def pending (s : HdiRegistration) : Nat := s.notices.length + s.retries

/-- Every notice and every task that is handled leaves one less. -/
theorem step_pending (hmanager : s.manager.isSome) (hsettles : Settles e)
    (hpossible : s.Possible e) :
    (s.step e).manager = s.manager ∧ (s.step e).pending + 1 = s.pending := by
  cases e with
  | deliver attempt =>
    obtain ⟨notice, notices, heq⟩ := List.exists_cons_of_ne_nil hpossible
    obtain ⟨hsame, hnotices, -⟩ := deliver_frame heq attempt
    refine ⟨hsame, ?_⟩
    show (s.deliver attempt).notices.length + (s.deliver attempt).retries + 1 = s.pending
    rw [hnotices, deliver_retries hmanager hsettles, pending, heq, List.length_cons]
    omega
  | retryTask attempt =>
    let taken : HdiRegistration := { s with retries := s.retries - 1 }
    obtain ⟨hsame, hnotices, -⟩ := registerHdiStatusListener_frame taken attempt
    have hretries : (taken.registerHdiStatusListener attempt).retries = s.retries - 1 :=
      registerHdiStatusListener_retries hmanager hsettles
    refine ⟨hsame, ?_⟩
    show (taken.registerHdiStatusListener attempt).notices.length +
      (taken.registerHdiStatusListener attempt).retries + 1 = s.notices.length + s.retries
    rw [hnotices, hretries]
    show s.notices.length + (s.retries - 1) + 1 = s.notices.length + s.retries
    have hpos : 0 < s.retries := hpossible
    omega
  | managerStarts => exact hsettles.elim
  | managerDies => exact hsettles.elim
  | addSystemAbilityListener => exact hsettles.elim
  | onStop => exact hsettles.elim

theorem Settles.ne (h : Settles e) : e ≠ .managerDies ∧ e ≠ .onStop := by
  refine ⟨?_, ?_⟩
  · rintro rfl
    exact h
  · rintro rfl
    exact h

theorem run_pending {s' : HdiRegistration} {settling : List HdiEvent}
    (hrun : Run Possible step s settling s') (hmanager : s.manager.isSome)
    (hsettling : ∀ e ∈ settling, Settles e) (hreported : s.Reported) (hcovered : s.Covered) :
    s'.manager = s.manager ∧ s'.pending + settling.length = s.pending ∧ s'.Reported ∧
      s'.Covered := by
  induction hrun with
  | nil => exact ⟨rfl, rfl, hreported, hcovered⟩
  | snoc _ hpossible ih =>
    obtain ⟨hbefore, hlast⟩ := List.forall_mem_append.mp hsettling
    have hsettles := hlast _ (List.mem_singleton.mpr rfl)
    obtain ⟨hsame, hcount, hreported', hcovered'⟩ := ih hbefore
    obtain ⟨hsame', hcount'⟩ := step_pending (hsame ▸ hmanager) hsettles hpossible
    refine ⟨hsame'.trans hsame, ?_, hreported'.step hpossible,
      hcovered'.step hpossible hsettles.ne.1 hsettles.ne.2⟩
    rw [List.length_append, List.length_singleton]
    omega

theorem Covered.registered (h : s.Covered) (hreported : s.Reported) (hmanager : s.manager.isSome)
    (hpending : s.pending = 0) : s.listeners ≠ [] := by
  have hnil : s.notices = [] := List.length_eq_zero_iff.mp (by rw [pending] at hpending; omega)
  have hretries : s.retries = 0 := by
    rw [pending] at hpending
    omega
  have hremove := hreported.running hmanager
  rw [removedAfter, hnil] at hremove
  rcases h with (hlisteners | htask) | hremoved | hnotice
  · exact hlisteners
  · rw [hretries] at htask
    exact absurd htask (Nat.lt_irrefl 0)
  · exact absurd (hremove.symm.trans hremoved) Bool.false_ne_true
  · rw [hnil] at hnotice
    exact absurd hnotice List.not_mem_nil

/-- Whatever the manager and the service have done before, a manager that runs and answers from here
on has a listener of the service once all notices and tasks that are left have been handled, in
whatever order: unless the service has been stopped, or the manager died unnoticed, after the last
death it noticed. -/
theorem listener_restored {running : Bool} {attempt : Attempt} {events settling : List HdiEvent}
    {s s' : HdiRegistration} (hrun : Run Possible step (init running attempt) events s)
    (hevents : ¬ Interrupted events) (hmanager : s.manager.isSome)
    (hrest : Run Possible step s settling s') (hsettling : ∀ e ∈ settling, Settles e)
    (hlength : settling.length = s.pending) : s'.manager = s.manager ∧ s'.listeners ≠ [] := by
  have hkept := run_kept hrun
  obtain ⟨hsame, hcount, hreported, hcovered⟩ :=
    run_pending hrest hmanager hsettling hkept.reported (hkept.covered hevents)
  exact ⟨hsame, hcovered.registered hreported (hsame ▸ hmanager) (by omega)⟩

def answered : Attempt := ⟨true, true⟩

/-- The manager starts late and restarts at once. -/
def restart : List HdiEvent :=
  [.managerStarts, .addSystemAbilityListener, .managerDies, .managerStarts]

def settle : List HdiEvent :=
  [.deliver answered, .deliver answered, .retryTask answered, .deliver answered]

theorem restart_not_interrupted : ¬ Interrupted restart := by
  rintro ⟨before, e, after, hevents, hcause, hafter⟩
  rcases before with - | ⟨a, - | ⟨b, - | ⟨c, - | ⟨d, before⟩⟩⟩⟩
  all_goals simp [restart] at hevents
  all_goals grind

/-- The listener that was left to a task and the one for the restart: the service is told twice of
everything that happens. -/
theorem restart_restored : ∃ s, Run Possible step (init false answered) (restart ++ settle) s ∧
    s.manager = some 1 ∧ s.listeners ≠ [] ∧ s.listeners = [0, 1] := by
  have hrun : Enabled Possible step (init false answered) restart := by decide
  have hrest : Enabled Possible step (restart.foldl step (init false answered)) settle := by decide
  have hall := (enabled_append restart settle).mpr ⟨hrun, hrest⟩
  have hsettling : ∀ e ∈ settle, Settles e := by simp [settle, Settles, answered, Attempt.Succeeds]
  obtain ⟨hmanager, hlisteners⟩ := listener_restored hrun.run restart_not_interrupted (by decide)
    hrest.run hsettling (by decide)
  exact ⟨_, hall.run, by decide, by rwa [List.foldl_append], by decide⟩

end HdiRegistration

end ThermalManager
