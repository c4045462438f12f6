import SilentDisco.Runtime.Properties.Snapshot

/-!
# Isolation of host sessions

A session ends with a reset that forgets its listeners, requests, deliveries and reservations.
A session that failed is not reset, and a new one may be created over it; listeners and
reservations are also accepted while no session is active. In runs without these two, every
new session starts empty, and every effect carries the session under which its request or
listener was recorded. A ledger beside the actor remembers these sessions.

## Main definitions

* `Core.Clean`, `Core.Isolated`: nothing of a session is left, unless a session is active
* `Ledger`: the session under which each request and each listener was recorded
* `KeepsSessionsApart`: the condition on the messages of a run

## Main results

* `sessions_are_isolated`: isolation in every run that keeps sessions apart
-/

namespace SilentDisco

namespace Core

variable {c c' : Core} {input : CoreActorInput} {requests : List TransportEffectRequest}

/-- Nothing of a host session is left. -/
def Clean (c : Core) : Prop :=
  c.listeners = [] ∧ c.requests = [] ∧ c.deliveries = [] ∧
    (∀ entry ∈ c.writes, entry.2.isTuning = true) ∧ c.reserved = []

/-- Without an active session, the host is idle or has failed, and nothing of a session is
left. -/
structure Isolated (c : Core) : Prop where
  hosted : c.lifecycle = .idle ∨ c.lifecycle = .error ∨ c.session ≠ none
  clean : c.session = none → c.Clean

/-- A new session replaces none of which something is left; listeners and reservations need an
active one. -/
def KeepsApart (c : Core) : CoreActorInput → Prop
  | .command _ ⟨_, .createHostSession⟩ => c.session = none ∨ c.Clean
  | .transport (.listenerConnected _) => c.session ≠ none
  | .audio (.trackBoundaryScheduled _ _) => c.session ≠ none
  | _ => True

theorem Isolated.of_session (h : c.session ≠ none) : c.Isolated :=
  ⟨.inr (.inr h), fun hnone => absurd hnone h⟩

theorem clean_reset (c : Core) : c.reset.Clean :=
  ⟨rfl, rfl, rfl, fun _ hmem => (List.mem_filter.mp hmem).2, rfl⟩

/-- Without an active session, a step finds nothing and leaves nothing. -/
theorem Step.isolated_of_none (h : c.Step input c' requests) (hc : c.Isolated)
    (hapart : c.KeepsApart input) (hnone : c.session = none) : c'.Isolated := by
  obtain ⟨hlisteners, hrequests, hdeliveries, hwrites, hreserved⟩ := hc.clean hnone
  have hlifecycle : c.lifecycle = .idle ∨ c.lifecycle = .error := by
    rcases hc.hosted with hidle | herror | hsession
    · exact .inl hidle
    · exact .inr herror
    · exact absurd hnone hsession
  have hstays : c.lifecycle = .idle ∨ c.lifecycle = .error ∨ c.session ≠ none := hc.hosted
  have hunadmitted : ¬c.lifecycle.AdmitsListeners := by
    rcases hlifecycle with heq | heq <;> simp [heq, HostLifecycle.AdmitsListeners]
  cases h with
  | created => exact .of_session (Option.some_ne_none _)
  -- These need an active session.
  | ended _ _ _ _ hsession => exact absurd hnone hsession
  | trustWriteStarted _ _ _ _ _ _ hadmits | approvalStarted _ _ _ _ _ _ _ hadmits
  | rejectionStarted _ _ _ _ _ hadmits | removalStarted _ _ _ _ _ hadmits
  | requestApproved _ _ _ _ hadmits | requestRejected _ _ _ _ hadmits =>
    exact absurd hadmits.lifecycle hunadmitted
  | requestRecorded _ _ hadmits => exact absurd hadmits hunadmitted
  | retried _ _ _ _ _ hsession | trustWriteCompleted _ _ _ _ _ _ hsession
  | advertisingStarted _ _ _ hsession => cases hnone.symm.trans hsession
  | listenerConnected => exact absurd hnone hapart
  -- No delivery is pending.
  | deliveryFailed _ _ _ hpending | approvalDelivered _ _ _ hpending
  | rejectionDelivered _ _ _ _ _ hpending | removalDelivered _ _ _ hpending =>
    simp [hdeliveries] at hpending
  | advertisingStopped => exact ⟨.inl rfl, fun _ => clean_reset c⟩
  | advertisingFailed =>
    exact ⟨.inr (.inl rfl), fun _ => ⟨hlisteners, hrequests, hdeliveries, hwrites, hreserved⟩⟩
  | networkReleased =>
    exact ⟨hstays, fun _ => ⟨hlisteners, hrequests, hdeliveries, hwrites, rfl⟩⟩
  | edited _ _ _ _ _ _ hkept =>
    refine ⟨hstays, fun _ => ⟨hlisteners, hrequests, hdeliveries, hwrites, ?_⟩⟩
    exact hkept.elim (·.trans hreserved) id
  | tuningWriteStarted =>
    refine ⟨hstays, fun _ => ⟨hlisteners, hrequests, hdeliveries, fun entry hmem => ?_, hreserved⟩⟩
    rcases List.mem_append.mp hmem with hold | hnew
    · exact hwrites entry hold
    · rw [List.mem_singleton.mp hnew]
      rfl
  | tuningWriteCompleted =>
    exact ⟨hstays, fun _ => ⟨hlisteners, hrequests, hdeliveries,
      fun entry hmem => hwrites entry (Keyed.removeFirst_subset hmem), hreserved⟩⟩
  | transportChanged _ _ hnext =>
    refine ⟨?_, fun _ => ⟨hlisteners, hrequests, hdeliveries, hwrites, hreserved⟩⟩
    rcases hnext with rfl | ⟨hcreating, -⟩
    · exact hstays
    · exact absurd (hcreating ▸ hlifecycle) (by decide)
  | listenerDisconnected _ _ _ hnext =>
    refine ⟨?_, fun _ => ⟨?_, ?_, hdeliveries, hwrites, hreserved⟩⟩
    · rcases hnext with rfl | ⟨hready, -⟩
      · exact hstays
      · exact absurd (hready ▸ hlifecycle) (by decide)
    · simp [hlisteners]
    · simp [hrequests]
  | transportFailed _ _ hnext =>
    refine ⟨?_, fun _ => ⟨hlisteners, hrequests, hdeliveries, hwrites, hreserved⟩⟩
    rcases hnext with rfl | rfl
    · exact hstays
    · exact .inr (.inl rfl)
  | audio _ _ _ hnext hkept =>
    refine ⟨?_, fun _ => ⟨hlisteners, hrequests, hdeliveries, hwrites, ?_⟩⟩
    · rcases hnext with rfl | ⟨-, hsession, -⟩
      · exact hstays
      · exact absurd hnone hsession
    · rcases hkept with hsub | ⟨entryId, index, rfl, -⟩
      · exact List.eq_nil_iff_forall_not_mem.mpr fun boundary hmem =>
          absurd (hreserved ▸ hsub boundary hmem) List.not_mem_nil
      · exact absurd hnone hapart
  -- The others concern neither the session nor what belongs to it.
  | _ => exact ⟨hstays, fun _ => ⟨hlisteners, hrequests, hdeliveries, hwrites, hreserved⟩⟩

theorem Step.isolated (h : c.Step input c' requests) (hc : c.Isolated)
    (hapart : c.KeepsApart input) : c'.Isolated := by
  by_cases hnone : c.session = none
  · exact h.isolated_of_none hc hapart hnone
  · -- Only the reset ends an active session.
    cases h with
    | created => exact .of_session (Option.some_ne_none _)
    | advertisingStopped => exact ⟨.inl rfl, fun _ => clean_reset c⟩
    | _ => exact .of_session hnone

/-- A step changes the session only to leave nothing of it. -/
theorem Step.session_or_clean (h : c.Step input c' requests) (hc : c.Isolated)
    (hapart : c.KeepsApart input) : c'.session = c.session ∨ c'.Clean := by
  cases h with
  | created => exact .inr (hapart.elim hc.clean id)
  | advertisingStopped => exact .inr (clean_reset c)
  | _ => exact .inl rfl

instance (c : Core) (requestId : RequestId) (deviceId : DeviceId) :
    Decidable (c.Awaits requestId deviceId) := List.decidableBEx _ _

/-- A new trust write is for a pending request. -/
theorem Step.trustWrite (h : c.Step input c' requests) {id : OperationId}
    {persistence : TrustPersistenceRequest}
    (hmem : (id, .persistApprovalTrust persistence) ∈ c'.writes) :
    (id, .persistApprovalTrust persistence) ∈ c.writes ∨
      c.Awaits persistence.requestId persistence.deviceId := by
  obtain hold | ⟨-, ⟨settings, htuning⟩ | ⟨_, _, _, request, hrequest, -, hop⟩⟩ := h.mem_writes hmem
  · exact .inl hold
  · cases htuning
  · cases hop
    exact .inr ⟨request, hrequest, rfl, rfl⟩

end Core

/-! ## The ledger -/

/-- The session under which each request of a device and each listener was last recorded. -/
structure Ledger where
  requests : RequestId → DeviceId → Option SessionId
  listeners : DeviceId → Option SessionId

namespace Ledger

variable {ledger : Ledger} {c c' : Core} {input : CoreActorInput}
  {requests : List TransportEffectRequest}

def empty : Ledger := ⟨fun _ _ => none, fun _ => none⟩

/-- What is new after a step is recorded under the session after it. -/
def observe (ledger : Ledger) (c c' : Core) : Ledger where
  requests requestId deviceId :=
    if c'.Awaits requestId deviceId ∧ ¬c.Awaits requestId deviceId then c'.session
    else ledger.requests requestId deviceId
  listeners deviceId :=
    if deviceId ∈ c'.listeners ∧ deviceId ∉ c.listeners then c'.session
    else ledger.listeners deviceId

/-- The effect carries the session of its request or listener. -/
def Carries (ledger : Ledger) : TransportEffectRequest → Prop
  | .deliverJoinApproval requestId sessionId listenerId _
  | .deliverJoinRejection requestId sessionId listenerId _ =>
    ledger.requests requestId listenerId = some sessionId
  | .disconnectListener sessionId listenerId _ => ledger.listeners listenerId = some sessionId

instance (ledger : Ledger) : (request : TransportEffectRequest) → Decidable (ledger.Carries request)
  | .deliverJoinApproval .. | .deliverJoinRejection .. | .disconnectListener .. =>
    inferInstanceAs (Decidable (_ = _))

/-- What is pending or connected was recorded under the active session. -/
structure Consistent (ledger : Ledger) (c : Core) : Prop where
  requests : ∀ requestId deviceId, c.Awaits requestId deviceId →
    ledger.requests requestId deviceId = c.session
  listeners : ∀ deviceId ∈ c.listeners, ledger.listeners deviceId = c.session
  writes : ∀ id persistence, (id, .persistApprovalTrust persistence) ∈ c.writes →
    ledger.requests persistence.requestId persistence.deviceId = c.session

theorem Consistent.of_clean (h : c.Clean) : ledger.Consistent c := by
  obtain ⟨hlisteners, hrequests, -, hwrites, -⟩ := h
  refine ⟨fun requestId deviceId hawaits => ?_, fun deviceId hmem => ?_, fun id _ hmem => ?_⟩
  · obtain ⟨request, hmem, -⟩ := hawaits
    exact absurd (hrequests ▸ hmem) List.not_mem_nil
  · exact absurd (hlisteners ▸ hmem) List.not_mem_nil
  · cases hwrites _ hmem

theorem observe_requests (hsession : c'.session = c.session) {requestId : RequestId}
    {deviceId : DeviceId} (hrecorded : ledger.requests requestId deviceId = c.session) :
    (ledger.observe c c').requests requestId deviceId = c'.session := by
  change (if _ then c'.session else ledger.requests requestId deviceId) = c'.session
  split_ifs
  · rfl
  · exact hrecorded.trans hsession.symm

/-- Within a session, the ledger stays consistent. -/
theorem Consistent.observe (h : ledger.Consistent c) (hstep : c.Step input c' requests)
    (hsession : c'.session = c.session) : (ledger.observe c c').Consistent c' := by
  refine ⟨fun requestId deviceId hawaits => ?_, fun deviceId hmem => ?_,
    fun id persistence hmem => ?_⟩
  · by_cases hold : c.Awaits requestId deviceId
    · exact observe_requests hsession (h.requests _ _ hold)
    · exact if_pos ⟨hawaits, hold⟩
  · by_cases hold : deviceId ∈ c.listeners
    · refine (if_neg fun hnew => hnew.2 hold).trans ?_
      exact (h.listeners deviceId hold).trans hsession.symm
    · exact if_pos ⟨hmem, hold⟩
  · refine observe_requests hsession ?_
    rcases hstep.trustWrite hmem with hold | hawaits
    · exact h.writes id persistence hold
    · exact h.requests _ _ hawaits

/-- Every effect of a step carries the session under which its request or listener was
recorded. -/
theorem Consistent.carries (h : ledger.Consistent c) (hstep : c.Step input c' requests)
    {request : TransportEffectRequest} (hmem : request ∈ requests) :
    (ledger.observe c c').Carries request := by
  cases hstep with
  | approvalStarted _ _ _ _ _ request _ hadmits hrequest
  | rejectionStarted _ _ _ _ request hadmits hrequest =>
    obtain rfl := List.mem_singleton.mp hmem
    have hrecorded := h.requests _ _ ⟨request, hrequest, rfl, rfl⟩
    exact (observe_requests rfl hrecorded).trans hadmits.session
  | trustWriteCompleted _ _ _ _ _ hpending hsession =>
    obtain rfl := List.mem_singleton.mp hmem
    have hrecorded := h.writes _ _ (Keyed.mem_of_lookup hpending)
    exact (observe_requests rfl hrecorded).trans hsession
  | removalStarted _ _ _ _ listenerId hadmits hlistener =>
    obtain rfl := List.mem_singleton.mp hmem
    exact (if_neg fun hnew => hnew.2 hlistener).trans
      ((h.listeners listenerId hlistener).trans hadmits.session)
  -- A request that is decided on arrival is recorded by the same step.
  | requestApproved request _ _ _ hadmits hnew | requestRejected request _ _ _ hadmits hnew =>
    obtain rfl := List.mem_singleton.mp hmem
    refine (if_pos ⟨⟨request, List.mem_append_right _ (by simp), rfl, rfl⟩, ?_⟩).trans
      hadmits.session
    rintro ⟨other, hother, hid, -⟩
    exact hnew other hother hid
  | _ => cases hmem

end Ledger

/-! ## Runs -/

/-- The command that creates a host session. -/
def ActorMessage.createsSession : ActorMessage → Bool
  | .input (.command _ ⟨_, .createHostSession⟩) => true
  | _ => false

/-- A new session starts without listeners, requests, deliveries, trust writes and
reservations. -/
def CreatesEmptySession (s : ActorState) (message : ActorMessage) : Prop :=
  message.createsSession = true → (actor.next s message).hostSessionId ≠ s.hostSessionId →
    (actor.next s message).snapshot.listeners = [] ∧
    (actor.next s message).snapshot.pendingJoinRequests = [] ∧
    (actor.next s message).pendingTransport = [] ∧
    (∀ entry ∈ (actor.next s message).pendingStorage, entry.2.isTuning = true) ∧
    (actor.next s message).pendingHostBoundaries = []

instance (s : ActorState) (message : ActorMessage) : Decidable (CreatesEmptySession s message) :=
  inferInstanceAs (Decidable (_ → _ → _))

/-- The actor beside a ledger of the sessions under which requests and listeners were
recorded. -/
def ledgerActor : Machine (Ledger × ActorState) ActorMessage ActorOutput :=
  actor.instrument (fun ledger s _ s' => ledger.observe s.core s'.core) .empty

/-- Every effect carries the session of its request or listener. -/
def CarriesRecordedSession (p : Ledger × ActorState) (message : ActorMessage) : Prop :=
  ∀ request ∈ transportRequests (actor.out p.2 message).notifications,
    (ledgerActor.next p message).1.Carries request

instance (p : Ledger × ActorState) (message : ActorMessage) :
    Decidable (CarriesRecordedSession p message) := List.decidableBAll _ _

/-- A message that is not refused keeps sessions apart. -/
def KeepsSessionsApart (s : ActorState) (message : ActorMessage) : Prop :=
  ¬s.Refused message → s.core.KeepsApart message.asInput

variable {s : ActorState} {message : ActorMessage}

/-- A message leaves the state alone, or makes a step that keeps sessions apart. -/
theorem KeepsSessionsApart.cases (h : KeepsSessionsApart s message) :
    actor.next s message = s ∨
      s.core.KeepsApart message.asInput ∧
        s.core.Step message.asInput (actor.next s message).core
          (transportRequests (actor.out s message).notifications) := by
  by_cases hrefused : s.Refused message
  · exact .inl (ActorState.receive_of_refused hrefused).1
  · exact (s.receive_core message).imp And.left fun hstep => ⟨h hrefused, hstep⟩

theorem isolated_next (hs : s.core.Isolated) (hapart : KeepsSessionsApart s message) :
    (actor.next s message).core.Isolated := by
  rcases hapart.cases with hsame | ⟨hkeeps, hstep⟩
  · rw [hsame]
    exact hs
  · exact hstep.isolated hs hkeeps

theorem createsEmptySession_of_isolated (hs : s.core.Isolated)
    (hapart : KeepsSessionsApart s message) : CreatesEmptySession s message := by
  intro _ hchanged
  rcases hapart.cases with hstate | ⟨hkeeps, hstep⟩
  · exact absurd (congrArg ActorState.hostSessionId hstate) hchanged
  · rcases hstep.session_or_clean hs hkeeps with hsame | hclean
    · exact absurd hsame hchanged
    · obtain ⟨hlisteners, hrequests, hdeliveries, hwrites, hreserved⟩ := hclean
      exact ⟨List.map_eq_nil_iff.mp hlisteners, hrequests, hdeliveries, hwrites, hreserved⟩

theorem consistent_next {ledger : Ledger} (hs : s.core.Isolated)
    (hapart : KeepsSessionsApart s message) (hledger : ledger.Consistent s.core) :
    (ledger.observe s.core (actor.next s message).core).Consistent (actor.next s message).core := by
  rcases hapart.cases with hsame | ⟨hkeeps, hstep⟩
  · rw [hsame]
    exact hledger.observe (.quiet message.asInput) rfl
  · rcases hstep.session_or_clean hs hkeeps with hsession | hclean
    · exact hledger.observe hstep hsession
    · exact .of_clean hclean

theorem carriesRecordedSession_of_consistent {ledger : Ledger}
    (hledger : ledger.Consistent s.core) : CarriesRecordedSession (ledger, s) message := by
  intro request hmem
  rcases s.receive_core message with ⟨-, hnone⟩ | hstep
  · exact absurd (hnone ▸ hmem) List.not_mem_nil
  · exact hledger.carries hstep hmem

/-- **Sessions are isolated.** In every run that keeps sessions apart, a new session starts
empty, and every effect carries the session under which its request or listener was recorded. -/
theorem sessions_are_isolated {s : ActorState} (hs : actor.init s)
    (messages : List ActorMessage) (h : actor.Along KeepsSessionsApart s messages) :
    actor.Along CreatesEmptySession s messages ∧
      ledgerActor.Along CarriesRecordedSession (.empty, s) messages := by
  have hclean : s.core.Clean ∧ s.core.Isolated := by
    obtain ⟨localDeviceId, sessionIdNamespace, rfl⟩ := hs
    have hclean : (ActorState.new localDeviceId sessionIdNamespace).core.Clean :=
      ⟨rfl, rfl, rfl, fun _ hmem => absurd hmem List.not_mem_nil, rfl⟩
    exact ⟨hclean, .inl rfl, fun _ => hclean⟩
  constructor
  · refine Machine.along_of_invariant (I := fun s => s.core.Isolated) ?_ hclean.2 h
    intro s message hisolated hapart
    exact ⟨createsEmptySession_of_isolated hisolated hapart, isolated_next hisolated hapart⟩
  · -- The ledger only watches the run.
    have hrun : ledgerActor.Along (fun p message => KeepsSessionsApart p.2 message) (.empty, s)
        messages := Machine.along_instrument.mpr h
    refine Machine.along_of_invariant
      (I := fun p => p.2.core.Isolated ∧ p.1.Consistent p.2.core) ?_
      ⟨hclean.2, .of_clean hclean.1⟩ hrun
    rintro ⟨ledger, s⟩ message ⟨hisolated, hledger⟩ hapart
    exact ⟨carriesRecordedSession_of_consistent hledger, isolated_next hisolated hapart,
      consistent_next hisolated hapart hledger⟩

namespace Scenario

/-- A listener is admitted, the session ends, and another one is created. -/
def recreating : List ActorMessage :=
  requesting .manual ++
    [command 5 (.approveJoin request.requestId false),
      .input (.transport (.deliveryCompleted ⟨"effect-2", valid_effect2⟩ ⟨1, 1, 0, .ok⟩)),
      command 7 .endHostSession,
      .input (.platform (.operationSucceeded ⟨"effect-3", valid_effect3⟩ .advertisingStopped)),
      command 9 (.updateHostDraft { audioSource := .set ⟨"source-1", "Track", some 1000, none⟩ }),
      command 10 .createHostSession]

/-- A session fails with a pending request, and another one is created. -/
def replacing : List ActorMessage :=
  requesting .manual ++
    [.input (.transport (.failed (joinRejected "network lost"))), command 6 .createHostSession]

/-- The new session is advertised, and the old request is approved. -/
def approvingAcross : List ActorMessage :=
  replacing ++
    [.input (.platform (.operationSucceeded ⟨"effect-2", valid_effect2⟩ .advertisingStarted)),
      command 8 (.approveJoin request.requestId false)]

end Scenario

open Scenario in
theorem sessions_are_isolated_recreating :
    (actor.after device recreating).hostSessionId = some ⟨"session-2", by decide⟩ ∧
      actor.Along CreatesEmptySession device recreating ∧
      ledgerActor.Along CarriesRecordedSession (.empty, device) recreating := by
  refine ⟨by decide, sessions_are_isolated ⟨_, _, rfl⟩ _ ?_⟩
  have hcreated (s : ActorState) (hnone : s.hostSessionId = none) (revision : UInt64) :
      KeepsSessionsApart s (command revision .createHostSession) := fun _ => .inl hnone
  exact ⟨fun _ => trivial, fun _ => trivial, hcreated _ rfl _, fun _ => trivial, fun _ => trivial,
    fun _ => trivial, fun _ => trivial, fun _ => trivial, fun _ => trivial, fun _ => trivial,
    hcreated _ rfl _, trivial⟩

open Scenario in
/-- A session that is created over a failed one keeps its requests, and approves them under its
own name. -/
theorem not_sessions_are_isolated :
    ¬actor.Along CreatesEmptySession device replacing ∧
      ¬ledgerActor.Along CarriesRecordedSession (.empty, device)
        approvingAcross := by
  decide

end SilentDisco
