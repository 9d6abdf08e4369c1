import ThermalManager.Lib.Run
import ThermalManager.Observer.CallbackRegistry

/-!
# The connection of a client

`thermal_mgr_client.cpp`: a call connects first and uses the proxy afterwards, outside the lock. The
proxy is dropped when the death of its service is reported. Services die and are started again at
any time, and several calls can be on their way at once.
-/

namespace ThermalManager

open StepSystem

inductive ConnectError
  | errOk
  | eGetSystemAbilityManagerFailedThermal
  | eGetThermalServiceFailed
  | errNoMemory
  | eAddDeathRecipientFailedThermal
  deriving DecidableEq

/-- What a call to `Connect` finds: whether there is a system ability manager, the remote object it
gives for the service, and whether a recipient can be made and is accepted. -/
structure ConnectAttempt where
  sam : Bool
  checkSystemAbility : Option RemoteObject
  allocated : Bool
  accepted : Bool

/-- `deathRecipient` is the number of the recipient that the client keeps. -/
structure ThermalMgrClient where
  thermalSrv : Option RemoteObject := none
  deathRecipient : Option Nat := none

/-- A client with the services. `recipients` are registered with a remote object, and `notices` are
reported deaths that have not reached the client. `inFlight` calls have connected and have not used
the proxy yet. -/
structure MgrConnection where
  client : ThermalMgrClient := {}
  dead : List RemoteObject := []
  recipients : List (RemoteObject × Nat) := []
  notices : List RemoteObject := []
  made : Nat := 0
  inFlight : Nat := 0
  crashed : Bool := false

/-- Calls connect and use the proxy; `GetThermalSrvSensorInfo` looks at it again before. -/
inductive ConnectionEvent
  | call (attempt : ConnectAttempt)
  | useProxy (checked : Bool)
  | serviceDies (remote : RemoteObject)
  | onRemoteDied (remote : RemoteObject)

namespace MgrConnection

-- Objects of the same process are no proxies; they need no recipient and do not die alone.
variable (isProxyObject : RemoteObject → Bool) (s : MgrConnection)

/-- A dead object accepts no recipient. -/
def addDeathRecipient (attempt : ConnectAttempt) (remote : RemoteObject) : Bool :=
  attempt.accepted && !s.dead.contains remote

def connect (attempt : ConnectAttempt) : MgrConnection × ConnectError :=
  if s.client.thermalSrv.isSome then (s, .errOk)
  else if !attempt.sam then (s, .eGetSystemAbilityManagerFailedThermal)
  else
    match attempt.checkSystemAbility with
    | none => (s, .eGetThermalServiceFailed)
    | some remote =>
        if !attempt.allocated then (s, .errNoMemory)
        else if isProxyObject remote && !s.addDeathRecipient attempt remote then
          ({ s with made := s.made + 1 }, .eAddDeathRecipientFailedThermal)
        else
          ({ s with
              client := { thermalSrv := some remote, deathRecipient := some s.made }
              recipients := if isProxyObject remote then s.recipients ++ [(remote, s.made)]
                else s.recipients
              made := s.made + 1 }, .errOk)

/-- A call that cannot connect returns. -/
def call (attempt : ConnectAttempt) : MgrConnection :=
  match s.connect isProxyObject attempt with
  | (s, .errOk) => { s with inFlight := s.inFlight + 1 }
  | (s, _) => s

def useProxy (checked : Bool) : MgrConnection :=
  { s with
    inFlight := s.inFlight - 1
    crashed := s.crashed || (!checked && s.client.thermalSrv.isNone) }

/-- Every recipient of the object is told once. -/
def serviceDies (remote : RemoteObject) : MgrConnection :=
  { s with
    dead := s.dead ++ [remote]
    notices := s.notices ++
      (s.recipients.filter fun recipient => recipient.1 == remote).map Prod.fst
    recipients := s.recipients.filter fun recipient => recipient.1 != remote }

def removeDeathRecipient (remote : RemoteObject) (deathRecipient : Option Nat) : MgrConnection :=
  { s with
    recipients := s.recipients.filter fun recipient =>
      !(recipient.1 == remote && some recipient.2 == deathRecipient) }

def resetProxy (remote : RemoteObject) : MgrConnection :=
  match s.client.thermalSrv with
  | none => s
  | some thermalSrv =>
      if thermalSrv = remote then
        { s.removeDeathRecipient thermalSrv s.client.deathRecipient with
          client := { s.client with thermalSrv := none } }
      else s

def step : ConnectionEvent → MgrConnection
  | .call attempt => s.call isProxyObject attempt
  | .useProxy checked => s.useProxy checked
  | .serviceDies remote => s.serviceDies remote
  | .onRemoteDied remote => { s with notices := s.notices.erase remote }.resetProxy remote

/-- A proxy is used by a call on its way, only the object of another process dies and only once, and
a death reaches the client after it was reported. -/
def Possible : ConnectionEvent → Prop
  | .call _ => True
  | .useProxy _ => 0 < s.inFlight
  | .serviceDies remote => isProxyObject remote ∧ remote ∉ s.dead
  | .onRemoteDied remote => remote ∈ s.notices

instance : (e : ConnectionEvent) → Decidable (s.Possible isProxyObject e)
  | .call _ => inferInstanceAs (Decidable True)
  | .useProxy _ => inferInstanceAs (Decidable (0 < s.inFlight))
  | .serviceDies remote =>
      inferInstanceAs (Decidable (isProxyObject remote = true ∧ remote ∉ s.dead))
  | .onRemoteDied remote => inferInstanceAs (Decidable (remote ∈ s.notices))

/-! ### Who is told of a death -/

/-- The recipients that there should be: the one that the client keeps, while its service lives. -/
def watching : List (RemoteObject × Nat) :=
  match s.client.thermalSrv, s.client.deathRecipient with
  | some remote, some recipient =>
      if isProxyObject remote && !s.dead.contains remote then [(remote, recipient)] else []
  | _, _ => []

/-- The notices that there should be: that the service of the client is dead. -/
def owed : List RemoteObject :=
  match s.client.thermalSrv with
  | some remote => if isProxyObject remote && s.dead.contains remote then [remote] else []
  | none => []

/-- There are exactly these recipients and notices. -/
structure Watched : Prop where
  kept : s.client.thermalSrv.isSome → s.client.deathRecipient.isSome
  proxies : ∀ remote ∈ s.dead, isProxyObject remote
  recipients : s.recipients = s.watching isProxyObject
  notices : s.notices = s.owed isProxyObject

variable {isProxyObject s}

theorem watched_idle (hclient : s.client.thermalSrv = none) :
    s.watching isProxyObject = [] ∧ s.owed isProxyObject = [] := by
  rw [watching, owed, hclient]
  exact ⟨rfl, rfl⟩

theorem watching_of_alive {remote : RemoteObject} {recipient : Nat}
    (hclient : s.client = ⟨some remote, some recipient⟩) (halive : remote ∉ s.dead) :
    s.watching isProxyObject = if isProxyObject remote then [(remote, recipient)] else [] := by
  rw [watching, hclient]
  simp [halive]

theorem owed_of_alive {remote : RemoteObject} (hclient : s.client.thermalSrv = some remote)
    (halive : remote ∉ s.dead) : s.owed isProxyObject = [] := by
  rw [owed, hclient]
  simp [halive]

theorem watching_of_dead {remote : RemoteObject} (hclient : s.client.thermalSrv = some remote)
    (hdead : remote ∈ s.dead) : s.watching isProxyObject = [] := by
  rw [watching, hclient]
  cases s.client.deathRecipient with
  | none => rfl
  | some recipient => simp [hdead]

theorem owed_of_dead {remote : RemoteObject} (hclient : s.client.thermalSrv = some remote)
    (hproxy : isProxyObject remote) (hdead : remote ∈ s.dead) :
    s.owed isProxyObject = [remote] := by
  rw [owed, hclient]
  simp [hproxy, hdead]

/-- A connection either is there, cannot be made, or is made to an object that takes the
recipient. -/
theorem connect_cases (attempt : ConnectAttempt) :
    s.connect isProxyObject attempt = (s, .errOk) ∧ s.client.thermalSrv.isSome ∨
    (∃ made error, s.connect isProxyObject attempt = ({ s with made }, error) ∧
      error ≠ .errOk) ∨
    s.client.thermalSrv = none ∧ ∃ remote, (isProxyObject remote → remote ∉ s.dead) ∧
      s.connect isProxyObject attempt =
        ({ s with
            client := { thermalSrv := some remote, deathRecipient := some s.made }
            recipients := if isProxyObject remote then s.recipients ++ [(remote, s.made)]
              else s.recipients
            made := s.made + 1 }, .errOk) := by
  rw [connect]
  by_cases hconnected : s.client.thermalSrv.isSome
  · rw [if_pos hconnected]
    exact .inl ⟨rfl, hconnected⟩
  rw [if_neg hconnected]
  cases hsam : attempt.sam with
  | false => exact .inr (.inl ⟨s.made, _, rfl, by decide⟩)
  | true =>
    cases hremote : attempt.checkSystemAbility with
    | none => exact .inr (.inl ⟨s.made, _, rfl, by decide⟩)
    | some remote =>
      dsimp only
      rw [if_neg (by decide)]
      split_ifs with hallocated hrefused hproxy
      · exact .inr (.inl ⟨s.made, _, rfl, by decide⟩)
      · exact .inr (.inl ⟨_, _, rfl, by decide⟩)
      all_goals
        refine .inr (.inr ⟨Option.not_isSome_iff_eq_none.mp hconnected, remote, ?_, ?_⟩)
      · intro _ hdead
        rw [addDeathRecipient] at hrefused
        simp [hproxy, hdead] at hrefused
      · rw [if_pos hproxy]
      · exact fun hproxy' => absurd hproxy' hproxy
      · rw [if_neg hproxy]

theorem Watched.call (h : s.Watched isProxyObject) (attempt : ConnectAttempt) :
    (s.call isProxyObject attempt).Watched isProxyObject := by
  rw [MgrConnection.call]
  rcases connect_cases attempt with
    ⟨hconnect, -⟩ | ⟨made, error, hconnect, herror⟩ | ⟨hnone, remote, halive, hconnect⟩
  · rw [hconnect]
    exact ⟨h.kept, h.proxies, h.recipients, h.notices⟩
  · rw [hconnect]
    cases error with
    | errOk => exact absurd rfl herror
    | _ => exact ⟨h.kept, h.proxies, h.recipients, h.notices⟩
  · rw [hconnect]
    obtain ⟨hrecipients, hnotices⟩ := @watched_idle isProxyObject s hnone
    replace hrecipients : s.recipients = [] := h.recipients.trans hrecipients
    replace hnotices : s.notices = [] := h.notices.trans hnotices
    refine ⟨fun _ => rfl, h.proxies, ?_, ?_⟩
    · rw [watching]
      by_cases hproxy : isProxyObject remote
      · simp [hproxy, halive hproxy, hrecipients]
      · simp [hproxy, hrecipients]
    · rw [owed]
      by_cases hproxy : isProxyObject remote
      · simp [halive hproxy, hnotices]
      · simp [hproxy, hnotices]

theorem Watched.serviceDies (h : s.Watched isProxyObject) {remote : RemoteObject}
    (hproxy : isProxyObject remote) (halive : remote ∉ s.dead) :
    (s.serviceDies remote).Watched isProxyObject := by
  have hdead : ∀ other, other ∈ s.dead ++ [remote] ↔ other ∈ s.dead ∨ other = remote := by
    simp
  have hproxies : ∀ other ∈ (s.serviceDies remote).dead, isProxyObject other := by
    intro other hother
    rcases (hdead other).mp hother with hbefore | rfl
    · exact h.proxies other hbefore
    · exact hproxy
  cases hclient : s.client.thermalSrv with
  | none =>
    obtain ⟨hrecipients, hnotices⟩ := @watched_idle isProxyObject s hclient
    refine ⟨h.kept, hproxies, ?_, ?_⟩
    · rw [(watched_idle (s := s.serviceDies remote) hclient).1]
      simp [MgrConnection.serviceDies, h.recipients, hrecipients]
    · rw [(watched_idle (s := s.serviceDies remote) hclient).2]
      simp [MgrConnection.serviceDies, h.recipients, h.notices, hrecipients, hnotices]
  | some thermalSrv =>
    obtain ⟨recipient, hrecipient⟩ :=
      Option.isSome_iff_exists.mp (h.kept (hclient ▸ rfl))
    have hboth : s.client = ⟨some thermalSrv, some recipient⟩ := by
      rw [← hclient, ← hrecipient]
    by_cases hsame : thermalSrv = remote
    · subst hsame
      have hrecipients := h.recipients.trans (watching_of_alive hboth halive)
      rw [if_pos hproxy] at hrecipients
      have hnotices := h.notices.trans (owed_of_alive hclient halive)
      have hmem : thermalSrv ∈ s.dead ++ [thermalSrv] := (hdead _).mpr (.inr rfl)
      refine ⟨h.kept, hproxies, ?_, ?_⟩
      · rw [watching_of_dead (s := s.serviceDies thermalSrv) hclient hmem]
        simp [MgrConnection.serviceDies, hrecipients]
      · rw [owed_of_dead (s := s.serviceDies thermalSrv) hclient hproxy hmem]
        simp [MgrConnection.serviceDies, hrecipients, hnotices]
    · have hmem : thermalSrv ∈ s.dead ++ [remote] ↔ thermalSrv ∈ s.dead :=
        (hdead _).trans (or_iff_left hsame)
      have hother : ∀ entry ∈ s.recipients, entry.1 ≠ remote := by
        intro entry hentry
        rw [h.recipients, watching, hboth] at hentry
        dsimp only at hentry
        split_ifs at hentry
        · rw [List.mem_singleton.mp hentry]
          exact hsame
        · cases hentry
      have hkept : (s.recipients.filter fun entry => entry.1 != remote) = s.recipients :=
        List.filter_eq_self.mpr fun entry hentry => bne_iff_ne.mpr (hother entry hentry)
      have htold : (s.recipients.filter fun entry => entry.1 == remote) = [] :=
        List.filter_eq_nil_iff.mpr fun entry hentry heq =>
          hother entry hentry (beq_iff_eq.mp heq)
      refine ⟨h.kept, hproxies, ?_, ?_⟩
      · show (s.recipients.filter fun entry => entry.1 != remote) = _
        rw [hkept, h.recipients, watching, watching]
        simp [MgrConnection.serviceDies, hboth, hmem]
      · show s.notices ++ (s.recipients.filter fun entry => entry.1 == remote).map Prod.fst = _
        rw [htold, List.map_nil, List.append_nil, h.notices, owed, owed]
        simp [MgrConnection.serviceDies, hboth, hmem]

theorem Watched.thermalSrv_of_notice (h : s.Watched isProxyObject) {remote : RemoteObject}
    (hmem : remote ∈ s.notices) : s.client.thermalSrv = some remote ∧ remote ∈ s.dead ∧
      s.notices = [remote] ∧ s.recipients = [] := by
  have hnotices := h.notices
  rw [owed] at hnotices
  cases hclient : s.client.thermalSrv with
  | none =>
    rw [hclient] at hnotices
    rw [hnotices] at hmem
    cases hmem
  | some thermalSrv =>
    rw [hclient] at hnotices
    dsimp only at hnotices
    split_ifs at hnotices with hdead
    · rw [hnotices] at hmem
      obtain rfl := List.mem_singleton.mp hmem
      obtain ⟨-, hdead⟩ := Bool.and_eq_true_iff.mp hdead
      rw [List.contains_iff_mem] at hdead
      exact ⟨rfl, hdead, hnotices, h.recipients.trans (watching_of_dead hclient hdead)⟩
    · rw [hnotices] at hmem
      cases hmem

/-- The proxy is dropped, and with it the last thing there was to report. -/
theorem Watched.onRemoteDied_eq (h : s.Watched isProxyObject) {remote : RemoteObject}
    (hmem : remote ∈ s.notices) : s.step isProxyObject (.onRemoteDied remote) = { s with
      client := { s.client with thermalSrv := none }
      notices := []
      recipients := [] } := by
  obtain ⟨hclient, -, hnotices, hrecipients⟩ := h.thermalSrv_of_notice hmem
  rw [step, resetProxy, hclient, hnotices]
  simp [removeDeathRecipient, hrecipients]

theorem Watched.step {e : ConnectionEvent} (h : s.Watched isProxyObject)
    (hpossible : s.Possible isProxyObject e) : (s.step isProxyObject e).Watched isProxyObject := by
  cases e with
  | call attempt => exact h.call attempt
  | useProxy checked => exact ⟨h.kept, h.proxies, h.recipients, h.notices⟩
  | serviceDies remote => exact h.serviceDies hpossible.1 hpossible.2
  | onRemoteDied remote =>
    rw [h.onRemoteDied_eq hpossible]
    exact ⟨fun hnone => (by cases hnone), h.proxies, rfl, rfl⟩

theorem run_watched {events : List ConnectionEvent}
    (hrun : Run (Possible isProxyObject) (step isProxyObject) {} events s) :
    s.Watched isProxyObject :=
  hrun.invariant (Watched isProxyObject)
    ⟨fun hnone => (by cases hnone), fun _ hmem => absurd hmem List.not_mem_nil, rfl, rfl⟩
    fun _ _ h hpossible => h.step hpossible

/-- At any time exactly one recipient is registered, that of the proxy, if its service lives and is
in another process, and exactly one death is left to report, if it is dead. With nothing left to
report, the client has no proxy or one whose service lives. -/
theorem proxy_watched {events : List ConnectionEvent}
    (hrun : Run (Possible isProxyObject) (step isProxyObject) {} events s) :
    s.recipients = s.watching isProxyObject ∧ s.notices = s.owed isProxyObject ∧
      (s.notices = [] → ∀ remote, s.client.thermalSrv = some remote → remote ∉ s.dead) := by
  have hwatched := run_watched hrun
  refine ⟨hwatched.recipients, hwatched.notices, fun hnil remote hclient hdead => ?_⟩
  rw [hwatched.notices, owed_of_dead hclient (hwatched.proxies remote hdead) hdead] at hnil
  cases hnil

/-! ### The use of the proxy -/

/-- A call on its way has a proxy to use, and no call had none. -/
def Usable (s : MgrConnection) : Prop :=
  (0 < s.inFlight → s.client.thermalSrv.isSome) ∧ s.crashed = false

/-- No death reaches the client between the connection of a call and its use of the proxy. -/
def Undisturbed (isProxyObject : RemoteObject → Bool) (s : MgrConnection) (e : ConnectionEvent) :
    Prop :=
  s.Possible isProxyObject e ∧ ∀ remote, e = .onRemoteDied remote → s.inFlight = 0

theorem Usable.call (h : s.Usable) (attempt : ConnectAttempt) :
    (s.call isProxyObject attempt).Usable := by
  rw [MgrConnection.call]
  rcases connect_cases attempt with
    ⟨hconnect, hconnected⟩ | ⟨made, error, hconnect, herror⟩ | ⟨-, remote, -, hconnect⟩
  · rw [hconnect]
    exact ⟨fun _ => hconnected, h.2⟩
  · rw [hconnect]
    cases error with
    | errOk => exact absurd rfl herror
    | _ => exact h
  · rw [hconnect]
    exact ⟨fun _ => rfl, h.2⟩

theorem Usable.useProxy (h : s.Usable) (hcall : 0 < s.inFlight) (checked : Bool) :
    (s.useProxy checked).Usable := by
  obtain ⟨hproxy, hcrashed⟩ := h
  refine ⟨fun _ => hproxy hcall, ?_⟩
  have hsome : s.client.thermalSrv.isNone = false := by
    rw [← Option.not_isSome, hproxy hcall]
    rfl
  show (s.crashed || (!checked && s.client.thermalSrv.isNone)) = false
  rw [hcrashed, hsome, Bool.and_false, Bool.or_false]

theorem Usable.step {e : ConnectionEvent} (h : s.Usable) (hok : s.Undisturbed isProxyObject e) :
    (s.step isProxyObject e).Usable := by
  obtain ⟨hpossible, hdisturbed⟩ := hok
  cases e with
  | call attempt => exact h.call attempt
  | useProxy checked => exact h.useProxy hpossible checked
  | serviceDies remote => exact h
  | onRemoteDied remote =>
    have hidle : s.inFlight = 0 := hdisturbed remote rfl
    rw [MgrConnection.step, resetProxy]
    split
    · exact h
    · split_ifs
      · exact ⟨fun hcall => absurd (hidle ▸ hcall) (Nat.lt_irrefl 0), h.2⟩
      · exact h

/-- No call uses a null proxy as long as no death reaches the client while a call is on its way; and
wherever one can, the next call that does not look at the proxy again uses a null one. -/
theorem null_proxy_from_death_in_call {events : List ConnectionEvent} :
    (Run (Undisturbed isProxyObject) (step isProxyObject) {} events s → s.crashed = false) ∧
      (Run (Possible isProxyObject) (step isProxyObject) {} events s →
        ∀ remote ∈ s.notices, 0 < s.inFlight →
          Enabled (Possible isProxyObject) (step isProxyObject) s
              [.onRemoteDied remote, .useProxy false] ∧
            ([.onRemoteDied remote, .useProxy false].foldl (step isProxyObject) s).crashed) := by
  constructor
  · intro hrun
    exact (hrun.invariant Usable ⟨fun hcall => absurd hcall (Nat.lt_irrefl 0), rfl⟩
      fun _ _ h hok => h.step hok).2
  · intro hrun remote hmem hcall
    have hdied := (run_watched hrun).onRemoteDied_eq hmem
    refine ⟨⟨hmem, ?_, trivial⟩, ?_⟩
    · rw [hdied]
      exact hcall
    · rw [List.foldl_cons, hdied]
      exact Bool.or_true _

def found (remote : RemoteObject) : ConnectAttempt := ⟨true, some remote, true, true⟩

/-- The service dies while a call is on its way, and starts again. -/
def restartedService : List ConnectionEvent :=
  [.call (found 0), .serviceDies 0, .onRemoteDied 0, .call (found 1), .useProxy false,
    .useProxy false]

/-- Two calls have connected, and the one connects again in time for the other. -/
theorem restartedService_watched :
    Run (Possible fun _ => true) (step fun _ => true) {} restartedService
      (restartedService.foldl (step fun _ => true) {}) ∧
    (restartedService.foldl (step fun _ => true) {}).recipients = [(1, 1)] ∧
    (restartedService.foldl (step fun _ => true) {}).crashed = false := by
  have hrun : Enabled (Possible fun _ => true) (step fun _ => true) {} restartedService := by
    decide
  obtain ⟨hrecipients, -⟩ := proxy_watched hrun.run
  exact ⟨hrun.run, hrecipients.trans (by decide), by decide⟩

/-- The same call before the service dies and across its death. -/
theorem call_null_proxy :
    ([.call (found 0), .useProxy false, .serviceDies 0, .onRemoteDied 0].foldl
        (step fun _ => true) {}).crashed = false ∧
      ([.call (found 0), .serviceDies 0, .onRemoteDied 0, .useProxy false].foldl
        (step fun _ => true) {}).crashed = true := by
  have hundisturbed : Enabled (Undisturbed fun _ => true) (step fun _ => true) {}
      [.call (found 0), .useProxy false, .serviceDies 0, .onRemoteDied 0] := by
    refine ⟨⟨trivial, ?_⟩, ⟨by decide, ?_⟩, ⟨by decide, ?_⟩, ⟨by decide, fun _ _ => by decide⟩,
      trivial⟩
    all_goals exact fun _ h => by cases h
  have hdead : Enabled (Possible fun _ => true) (step fun _ => true) {}
      [.call (found 0), .serviceDies 0] := by decide
  exact ⟨null_proxy_from_death_in_call.1 hundisturbed.run,
    (null_proxy_from_death_in_call.2 hdead.run 0 (by decide) (by decide)).2⟩

end MgrConnection

end ThermalManager
