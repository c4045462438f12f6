import SilentDisco.Runtime.Actor.Refinement.Commands

/-!
# Refinement: admission

Join requests, the host's decisions, and their completions make abstract steps.

## Main results

* `handleJoinRequest_refines`, `approveJoin_refines`, `rejectJoin_refines`,
  `removeListener_refines`: requests and decisions
* `applyAdmissionStorage_refines`, `completeTransportDelivery_refines`: completions
-/

namespace SilentDisco

open Result

namespace ActorState

variable {s s' : ActorState} {outcome : ApplyOutcome} {operationId : OperationId}
  {revision : SnapshotRevision} {input : CoreActorInput} {request : JoinRequestSummary}
  {requestId : RequestId} {report : DeliveryReport}

/-! ## Starting deliveries -/

theorem requireHostSession_eq_ok {id : Option OperationId} {sessionId : SessionId} :
    s.requireHostSession id = .ok sessionId ↔ s.hostSessionId = some sessionId := by
  unfold requireHostSession
  split <;> simp_all

theorem createApprovalTransportEffect_eq_ok {delivery : ApprovalDelivery}
    {effect : TransportEffect} :
    s.createApprovalTransportEffect delivery = .ok (s', effect) ↔
      ∃ sessionId, s.hostSessionId = some sessionId ∧ s.CanStart ∧
        ∃ id, s.IsNext id ∧ s' = s.pushTransport id (.approveJoin delivery) ∧
          effect = ⟨id, .deliverJoinApproval delivery.requestId sessionId delivery.deviceId
            delivery.trustedForFuture⟩ := by
  simp only [createApprovalTransportEffect, bind_eq_ok, requireHostSession_eq_ok,
    startTransportOperation_eq_ok, TransportEffectRequest.validate, true_and]

theorem startApprovalDelivery_eq_ok {delivery : ApprovalDelivery}
    (h : s.startApprovalDelivery delivery = .ok (s', outcome)) :
    ∃ sessionId, s.hostSessionId = some sessionId ∧ s.CanStart ∧
      ∃ id, s.IsNext id ∧ s' = s.pushTransport id (.approveJoin delivery) ∧
        outcome = .transportEffect ⟨id, .deliverJoinApproval delivery.requestId sessionId
          delivery.deviceId delivery.trustedForFuture⟩ := by
  simp only [startApprovalDelivery, bind_eq_ok, Prod.exists,
    createApprovalTransportEffect_eq_ok] at h
  obtain ⟨_, _, ⟨sessionId, hsession, hstart, id, hid, rfl, rfl⟩, hout⟩ := h
  cases hout
  exact ⟨sessionId, hsession, hstart, id, hid, rfl, rfl⟩

theorem startRejectionDelivery_eq_ok {reason : JoinRejectionReason}
    {confirmation : Option OperationId}
    (h : s.startRejectionDelivery request reason confirmation = .ok (s', outcome)) :
    ∃ sessionId, s.hostSessionId = some sessionId ∧ s.CanStart ∧ ∃ id, s.IsNext id ∧
        s' = s.pushTransport id (.rejectJoin request.requestId request.deviceId confirmation) ∧
        outcome = .transportEffect ⟨id, .deliverJoinRejection request.requestId sessionId
          request.deviceId reason.stableName⟩ := by
  simp only [startRejectionDelivery, bind_eq_ok, Prod.exists, requireHostSession_eq_ok,
    startTransportOperation_eq_ok] at h
  obtain ⟨sessionId, hsession, _, _, ⟨hstart, -, id, hid, rfl, rfl⟩, hout⟩ := h
  cases hout
  exact ⟨sessionId, hsession, hstart, id, hid, rfl, rfl⟩

theorem core_admits {sessionId : SessionId} (hrole : s.snapshot.selectedRole = some .host)
    (hsession : s.hostSessionId = some sessionId)
    (hlifecycle : s.snapshot.hostLifecycle.AdmitsListeners) : s.core.Admits sessionId :=
  ⟨hrole, hsession, hlifecycle⟩

theorem requireHostAdmissionCommand_eq_ok {u : Unit} :
    s.requireHostAdmissionCommand operationId = .ok u ↔
      s.snapshot.selectedRole = some .host ∧ s.hostSessionId ≠ none ∧
        s.snapshot.hostLifecycle.AdmitsListeners := by
  simp only [requireHostAdmissionCommand, requireRole, bind_eq_ok, check_eq_ok, rejectIf_eq_ok,
    Unique.exists_iff, not_or, not_not, ne_eq]

theorem pendingJoinRequest_eq_ok (h : s.pendingJoinRequest requestId operationId = .ok request) :
    request ∈ s.snapshot.pendingJoinRequests ∧ request.requestId = requestId := by
  unfold pendingJoinRequest at h
  split at h
  · cases h
  · next found hfind =>
    cases h
    exact ⟨List.mem_of_find?_eq_some hfind, by simpa using List.find?_some hfind⟩

theorem approveJoin_refines {remember : Bool} :
    Refined s (.command operationId ⟨revision, .approveJoin requestId remember⟩)
      (s.approveJoin operationId requestId remember) := by
  refine .bind (fun _ => requireHostAdmissionCommand_eq_ok.mp) fun _ hcommand =>
    .bind (fun _ => pendingJoinRequest_eq_ok) fun request hrequest =>
    .bind .rejectIf fun _ hidle => ?_
  obtain ⟨hrole, hsome, hlifecycle⟩ := hcommand
  obtain ⟨hmem, rfl⟩ := hrequest
  unfold prepareExplicitApproval
  split_ifs
  · -- The trust is written first.
    refine .bind startStorageOperation_fresh ?_
    rintro _ ⟨id, hfresh, rfl⟩
    obtain ⟨sessionId, hsession⟩ := Option.ne_none_iff_exists'.mp hsome
    exact .ok (.of_step (.trustWriteStarted _ _ _ id sessionId request
      (core_admits hrole hsession hlifecycle) hmem hidle hfresh) rfl)
  · rintro ⟨s', outcome⟩ hcarry
    obtain ⟨sessionId, hsession, hstart, id, hid, rfl, rfl⟩ :=
      startApprovalDelivery_eq_ok hcarry
    exact .of_step (.approvalStarted _ _ _ id sessionId request _
      (core_admits hrole hsession hlifecycle) hmem hidle (core_fresh hstart hid)) rfl

theorem rejectJoin_refines :
    Refined s (.command operationId ⟨revision, .rejectJoin requestId⟩)
      (s.rejectJoin operationId requestId) := by
  refine .bind (fun _ => requireHostAdmissionCommand_eq_ok.mp) fun _ hcommand =>
    .bind (fun _ => pendingJoinRequest_eq_ok) fun request hrequest =>
    .bind .rejectIf fun _ hidle => ?_
  obtain ⟨hrole, -, hlifecycle⟩ := hcommand
  obtain ⟨hmem, rfl⟩ := hrequest
  rintro ⟨s', outcome⟩ hdeliver
  obtain ⟨sessionId, hsession, hstart, id, hid, rfl, rfl⟩ :=
    startRejectionDelivery_eq_ok hdeliver
  exact .of_step (.rejectionStarted _ _ id sessionId request (core_admits hrole hsession hlifecycle)
    hmem hidle (core_fresh hstart hid)) rfl

theorem removeListener_refines {listenerId : DeviceId} :
    Refined s (.command operationId ⟨revision, .removeListener listenerId⟩)
      (s.removeListener operationId listenerId) := by
  refine .bind (fun _ => requireHostAdmissionCommand_eq_ok.mp) fun _ hcommand =>
    .bind .check fun _ hmem => .andThen fun _ =>
      .bind (fun _ => requireHostSession_eq_ok.mp) fun sessionId hsession =>
        .bind startTransportOperation_fresh ?_
  obtain ⟨hrole, -, hlifecycle⟩ := hcommand
  rintro _ ⟨id, hfresh, rfl⟩
  exact .ok (.of_step (.removalStarted _ _ id sessionId listenerId
    (core_admits hrole hsession hlifecycle) (List.mem_map.mpr hmem) hfresh) rfl)

/-- The policy reads only the approval mode of the draft. -/
theorem classifyJoinRequest_congr {draft draft' : HostDraft} (request : JoinRequestSummary)
    (h : draft.approvalMode = draft'.approvalMode) :
    classifyJoinRequest draft request = classifyJoinRequest draft' request := by
  unfold classifyJoinRequest
  rw [h]

theorem admitJoinRequest_refines (hrole : s.snapshot.selectedRole = some .host)
    (hlifecycle : s.snapshot.hostLifecycle.AdmitsListeners)
    (hnew : ∀ other ∈ s.snapshot.pendingJoinRequests, other.requestId ≠ request.requestId) :
    Refined s (.transport (.joinRequested request)) (s.admitJoinRequest request) := by
  refine .andThen fun _ => .bind .rejectIf fun _ hroom => ?_
  rw [ge_iff_le, not_le] at hroom
  dsimp only
  split
  · exact .ok (.of_step (.requestRecorded request hrole hlifecycle hnew hroom) rfl)
  · next trusted hpolicy =>
    rintro ⟨s', outcome⟩ h
    obtain ⟨sessionId, hsession, hstart, id, hid, rfl, rfl⟩ := startApprovalDelivery_eq_ok h
    refine .of_step (.requestApproved request id sessionId trusted
      (core_admits hrole hsession hlifecycle) hnew hroom (fun draft hdraft => ?_)
      (core_fresh hstart hid)) rfl
    rw [← hpolicy]
    exact classifyJoinRequest_congr request hdraft
  · next reason hpolicy =>
    rintro ⟨s', outcome⟩ h
    obtain ⟨sessionId, hsession, hstart, id, hid, rfl, rfl⟩ := startRejectionDelivery_eq_ok h
    exact .of_step (.requestRejected request id sessionId reason
      (core_admits hrole hsession hlifecycle) hnew hroom (core_fresh hstart hid)) rfl

theorem handleJoinRequest_refines :
    Refined s (.transport (.joinRequested request)) (s.handleJoinRequest request) := by
  have hguard : Returns (fun _ => s.snapshot.selectedRole = some .host ∧
      s.snapshot.hostLifecycle.AdmitsListeners) s.requireHostAdmissionEvent :=
    .bind .check fun _ hrole => .imp (fun _ hlifecycle => ⟨hrole, hlifecycle⟩) .check
  refine .bind hguard ?_
  rintro _ ⟨hrole, hlifecycle⟩
  split
  · exact .ite (fun _ => .ok ⟨.quiet _, fun _ => rfl⟩) fun _ => .error
  · next hnone =>
    refine admitJoinRequest_refines hrole hlifecycle fun other hother => ?_
    simpa using List.find?_eq_none.mp hnone other hother

theorem correlate_eq_ok {error error' : CoreError} {message : String} :
    error.correlate operationId message = .ok error' ↔
      (∀ inner ∈ error.operationId, inner = operationId) ∧
        error' = { error with operationId := some operationId } := by
  unfold CoreError.correlate
  split_ifs with hinner
  · simp only [false_iff, not_and]
    intro hall
    obtain ⟨inner, hmem, hne⟩ := hinner
    exact absurd (hall inner hmem) hne
  · push Not at hinner
    simp only [Except.ok.injEq]
    exact ⟨fun h => ⟨hinner, h.symm⟩, fun h => h.2.symm⟩

theorem applyAdmissionStorage_refines {event : StorageEvent} :
    Refined s (.storage event) (s.applyAdmissionStorage event) := by
  refine .andThen fun _ => ?_
  split
  · exact .error
  · next op hpending =>
    unfold completeTrustWrite
    split
    · refine .ite (fun _ => ?_) fun _ => .error
      rintro ⟨s', outcome⟩ h
      obtain ⟨sessionId, hsession, hstart, id, hid, rfl, rfl⟩ := startApprovalDelivery_eq_ok h
      exact .of_step (.trustWriteCompleted _ id sessionId _ .committed hpending hsession
        (core_fresh hstart hid)) rfl
    · refine .andThen fun error => ?_
      rintro ⟨s', outcome⟩ h
      simp only [bind_eq_ok, Prod.exists, createApprovalTransportEffect_eq_ok] at h
      obtain ⟨_, _, ⟨sessionId, hsession, hstart, id, hid, rfl, rfl⟩, hout⟩ := h
      cases hout
      exact .of_step (.trustWriteCompleted _ id sessionId _ .failed hpending hsession
        (core_fresh hstart hid)) rfl
    · exact .error

/-! ## Deliveries -/

theorem mem_core_listeners {deviceId : DeviceId} :
    deviceId ∈ s.core.listeners ↔ ∃ listener ∈ s.snapshot.listeners, listener.deviceId = deviceId :=
  List.mem_map

theorem upsertListener_eq_ok {listener : ListenerSummary}
    (h : s.upsertListener listener = .ok s') :
    s.core.HasRoom listener.deviceId ∧ s'.core = s.core.connect listener.deviceId := by
  unfold upsertListener at h
  unfold Core.HasRoom Core.connect
  split_ifs at h with hknown hfull
  · cases h
    have hmem := mem_core_listeners.mpr hknown
    refine ⟨.inl hmem, ?_⟩
    rw [if_pos hmem]
    simp only [core, Keyed.map_replaceFirst]
  · cases h
    have hmem := mt mem_core_listeners.mp hknown
    refine ⟨.inr (by simpa [core] using hfull), ?_⟩
    rw [if_neg hmem]
    simp only [core, List.map_append, List.map_cons, List.map_nil]

theorem removePendingRequest_eq_ok {listenerId : DeviceId}
    (h : s.removePendingRequest requestId listenerId = .ok (request, s')) :
    request ∈ s.snapshot.pendingJoinRequests ∧
      request.requestId = requestId ∧ request.deviceId = listenerId ∧
      s' = { s with
        snapshot.pendingJoinRequests := s.snapshot.pendingJoinRequests.eraseP fun request =>
          request.requestId = requestId ∧ request.deviceId = listenerId } := by
  unfold removePendingRequest at h
  split at h
  · cases h
  · next found hfind =>
    cases h
    have hkey := List.find?_some hfind
    simp only [Bool.decide_and, Bool.and_eq_true, decide_eq_true_eq] at hkey
    exact ⟨List.mem_of_find?_eq_some hfind, hkey.1, hkey.2, rfl⟩

theorem core_clearDeliveryFailure (s : ActorState) : s.clearDeliveryFailure.core = s.core := by
  unfold clearDeliveryFailure
  split_ifs <;> rfl

/-- A diagnostic carries no effect. -/
theorem diagnostic_eq_ok {name : String} {fields : List DiagnosticField} :
    Returns (fun outcome => outcome.changed = false ∧ transportRequests outcome.notifications = [])
      (diagnostic name fields) := by
  intro outcome h
  obtain ⟨value, -, rfl⟩ := map_eq_ok.mp h
  exact ⟨rfl, rfl⟩

theorem committedOutcome_eq_ok :
    Returns (fun outcome => outcome.changed = true ∧ transportRequests outcome.notifications = [])
      (committedOutcome report) := by
  refine .ite (fun _ => .andThen fun _ => .andThen fun _ => .andThen fun _ => ?_) fun _ =>
    .ok ⟨rfl, rfl⟩
  exact .bind diagnostic_eq_ok fun _ hreported => .ok ⟨rfl, hreported.2⟩

/-- The decision that a delivery committed, as an abstract step. -/
theorem commitDecision_step {op : PendingTransportOperation} {delivered : ActorState}
    (report : DeliveryReport)
    (hpending : s.core.deliveries.lookup operationId = some op)
    (hcore : delivered.core = s.core.finishDelivery operationId) :
    Returns (fun decided => s.core.Step (.transport (.deliveryCompleted operationId report))
      decided.core []) (delivered.commitDecision operationId op) := by
  intro decided h
  have hrequests : delivered.snapshot.pendingJoinRequests = s.core.requests :=
    congrArg Core.requests hcore
  have hlisteners : delivered.core.listeners = s.core.listeners := by rw [hcore]; rfl
  cases op with
  | approveJoin delivery =>
    simp only [commitDecision, bind_eq_ok, Prod.exists] at h
    obtain ⟨request, removed, hremoved, hlistener⟩ := h
    obtain ⟨hmem, hrequest, hdevice, rfl⟩ := removePendingRequest_eq_ok hremoved
    obtain ⟨listener, hnew, hupsert⟩ := bind_eq_ok.mp hlistener
    obtain ⟨⟨⟩, -, hsummary⟩ := bind_eq_ok.mp (mapError_eq_ok.mp hnew)
    cases hsummary
    obtain ⟨hroom, hconnected⟩ := upsertListener_eq_ok hupsert
    have hspace : s.core.HasRoom delivery.deviceId := by
      rw [← hdevice, Core.HasRoom, ← hlisteners]
      exact hroom
    rw [hconnected, hdevice]
    convert Core.Step.approvalDelivered (c := s.core) operationId report delivery hpending
      ⟨request, hrequests ▸ hmem, hrequest, hdevice⟩ hspace using 2
    rw [← hcore, ← hrequests]
    rfl
  | rejectJoin requestId listenerId confirmation =>
    simp only [commitDecision, bind_eq_ok, Prod.exists] at h
    obtain ⟨request, removed, hremoved, hout⟩ := h
    obtain ⟨-, -, -, rfl⟩ := removePendingRequest_eq_ok hremoved
    cases hout
    convert Core.Step.rejectionDelivered (c := s.core) operationId report requestId listenerId
      confirmation hpending using 1
    rw [← hcore, ← hrequests]
    rfl
  | disconnectListener listenerId =>
    simp only [commitDecision] at h
    obtain ⟨⟨⟩, -, hout⟩ := bind_eq_ok.mp h
    cases hout
    convert Core.Step.removalDelivered (c := s.core) operationId report listenerId hpending
      using 1
    rw [← hcore, ← hlisteners]
    simp only [core, List.filter_map, Function.comp_def]

theorem completeTransportDelivery_refines :
    Refined s (.transport (.deliveryCompleted operationId report))
      (s.completeTransportDelivery operationId report) := by
  unfold completeTransportDelivery
  split
  · exact .error
  · next op hpending =>
    refine .ite (fun _ => .bind (commitDecision_step report hpending rfl) fun decided hdecided =>
      .bind committedOutcome_eq_ok fun outcome houtcome => .ok (.of_step ?_ houtcome.1)) fun _ =>
        .ok (.of_step (.deliveryFailed operationId report op hpending) rfl)
    rw [houtcome.2, core_clearDeliveryFailure]
    exact hdecided

end ActorState

end SilentDisco
