import SilentDisco.Runtime.Actor.State

/-!
# Listener admission

Join requests, the host's decisions on them, and the completions of the deliveries and trust
writes that carry the decisions out.

## Main definitions

* `handleJoinRequest`: the policy applied to a new request
* `approveJoin`, `rejectJoin`, `removeListener`: the host's decisions
* `applyAdmissionStorage`: the completion of a trust write, which starts the approval
* `completeTransportDelivery`: the completion of a delivery, which commits the decision
-/

namespace SilentDisco

open Result

/-- The lifecycles in which the host admits listeners. -/
def HostLifecycle.AdmitsListeners (lifecycle : HostLifecycle) : Prop :=
  lifecycle = .waitingForListeners ∨ lifecycle = .ready ∨ lifecycle = .streaming ∨
    lifecycle = .paused

instance (lifecycle : HostLifecycle) : Decidable lifecycle.AdmitsListeners :=
  inferInstanceAs (Decidable (_ ∨ _))

/-- The request that a pending delivery decides. -/
def PendingTransportOperation.requestId : PendingTransportOperation → Option RequestId
  | .approveJoin delivery => some delivery.requestId
  | .rejectJoin requestId _ _ => some requestId
  | .disconnectListener _ => none

/-- The request that a pending trust write belongs to. -/
def PendingStorageOperation.requestId : PendingStorageOperation → Option RequestId
  | .persistApprovalTrust persistence => some persistence.requestId
  | .persistTuning _ => none

namespace ActorState

variable (s : ActorState) (operationId : OperationId)

def requireHostAdmissionEvent : Except CoreError Unit := do
  s.requireRoleEvent .host
  check s.snapshot.hostLifecycle.AdmitsListeners
    (invalidState "join request arrived while host admission was unavailable" none)

def requireHostAdmissionCommand : Except CoreError Unit := do
  s.requireRole .host operationId
  rejectIf (s.hostSessionId = none ∨ ¬s.snapshot.hostLifecycle.AdmitsListeners)
    (invalidState "host admission command requires an active host session" (some operationId))

/-! ## Starting deliveries -/

def requireHostSession (operationId : Option OperationId) : Except CoreError SessionId :=
  match s.hostSessionId with
  | none => .error (invalidState "host session is not active" operationId)
  | some sessionId => .ok sessionId

def createApprovalTransportEffect (delivery : ApprovalDelivery) :
    Except CoreError (ActorState × TransportEffect) := do
  let sessionId ← s.requireHostSession none
  s.startTransportOperation
    (.deliverJoinApproval delivery.requestId sessionId delivery.deviceId
      delivery.trustedForFuture)
    (.approveJoin delivery)

def startApprovalDelivery (delivery : ApprovalDelivery) : Applied := do
  let (s, effect) ← s.createApprovalTransportEffect delivery
  return (s, .transportEffect effect)

variable (request : JoinRequestSummary)

def startRejectionDelivery (reason : JoinRejectionReason)
    (confirmationOperationId : Option OperationId) : Applied := do
  let sessionId ← s.requireHostSession none
  let (s, effect) ← s.startTransportOperation
    (.deliverJoinRejection request.requestId sessionId request.deviceId reason.stableName)
    (.rejectJoin request.requestId request.deviceId confirmationOperationId)
  return (s, .transportEffect effect)

/-! ## Requests and decisions -/

/-- Record a request that is not known yet and start what the policy decides for it. -/
def admitJoinRequest : Applied := do
  rejectIf (∃ existing ∈ s.snapshot.pendingJoinRequests, existing.deviceId = request.deviceId)
    (invalidState "listener already has a pending join request" none)
  rejectIf (s.snapshot.pendingJoinRequests.length ≥ maxPendingJoinRequests)
    (resourceLimit "pending join-request capacity reached" none)
  let recorded : ActorState :=
    { s with
      snapshot.pendingJoinRequests := s.snapshot.pendingJoinRequests ++ [request] }
  match classifyJoinRequest s.snapshot.hostDraft request with
  | .pendingManualDecision => return (recorded, .changedOnly)
  | .autoApprove trustedForFuture =>
    recorded.startApprovalDelivery
      { requestId := request.requestId
        deviceId := request.deviceId
        trustedForFuture
        persistenceFailed := false }
  | .autoReject reason => recorded.startRejectionDelivery request reason none

def handleJoinRequest : Applied := do
  s.requireHostAdmissionEvent
  match s.snapshot.pendingJoinRequests.find? fun existing =>
      existing.requestId = request.requestId with
  | some existing =>
    -- A repeated request is ignored; a reused identifier is not.
    if existing = request then return (s, {})
    else
      .error (invalidState "join request identifier was reused with different content" none)
  | none => s.admitJoinRequest request

variable (requestId : RequestId)

def pendingJoinRequest (operationId : OperationId) : Except CoreError JoinRequestSummary :=
  match s.snapshot.pendingJoinRequests.find? fun request => request.requestId = requestId with
  | none =>
    .error (invalidState "join request is stale or no longer pending" (some operationId))
  | some request => .ok request

/-- An admission operation for the request is in progress. -/
def RequestOperationPending : Prop :=
  (∃ entry ∈ s.pendingTransport, entry.2.requestId = some requestId) ∨
    ∃ entry ∈ s.pendingStorage, entry.2.requestId = some requestId

instance (s : ActorState) (requestId : RequestId) :
    Decidable (s.RequestOperationPending requestId) := inferInstanceAs (Decidable (_ ∨ _))

def ensureRequestOperationIdle (operationId : OperationId) : Except CoreError Unit :=
  rejectIf (s.RequestOperationPending requestId)
    (invalidState "join request already has an admission operation in progress"
      (some operationId))

/-- Deliver an approval, or first write the trust it claims. -/
def carryOutApproval : ApprovalPreparation → Applied
  | .persistTrustFirst persistence => do
    let (s, effect) ← s.startStorageOperation
      (.persistTrustedDevice persistence.deviceId persistence.displayName)
      (.persistApprovalTrust persistence)
    return (s, .storageEffect effect)
  | .deliver delivery => s.startApprovalDelivery delivery

def approveJoin (rememberForFuture : Bool) : Applied := do
  s.requireHostAdmissionCommand operationId
  let request ← s.pendingJoinRequest requestId operationId
  s.ensureRequestOperationIdle requestId operationId
  s.carryOutApproval (prepareExplicitApproval request rememberForFuture)

def rejectJoin : Applied := do
  s.requireHostAdmissionCommand operationId
  let request ← s.pendingJoinRequest requestId operationId
  s.ensureRequestOperationIdle requestId operationId
  s.startRejectionDelivery request .hostRejected (some operationId)

def removeListener (listenerId : DeviceId) : Applied := do
  s.requireHostAdmissionCommand operationId
  check (∃ listener ∈ s.snapshot.listeners, listener.deviceId = listenerId)
    (invalidState "listener is stale or no longer connected" (some operationId))
  rejectIf (∃ entry ∈ s.pendingTransport, entry.2 = .disconnectListener listenerId)
    (invalidState "listener removal is already pending" (some operationId))
  let sessionId ← s.requireHostSession (some operationId)
  let (s, effect) ← s.startTransportOperation
    (.disconnectListener sessionId listenerId "host_removed_listener")
    (.disconnectListener listenerId)
  return (s, .transportEffect effect)

/-! ## Completions -/

/-- The approval after a trust write that succeeded, or the session-only approval after one
that failed. -/
def completeTrustWrite :
    PendingStorageOperation → StorageEvent → Applied
  | .persistApprovalTrust persistence, .operationSucceeded operationId
      (.trustedDeviceUpdated deviceId) =>
    if deviceId = persistence.deviceId then
      s.startApprovalDelivery (approvalAfterPersistence persistence .committed)
    else
      .error (invalidState
        "admission storage completion kind does not match the pending operation"
        (some operationId))
  | .persistApprovalTrust persistence, .operationFailed operationId error => do
    let error ← error.correlate operationId
      "storage failure operation ID does not match its wrapper"
    let (s, effect) ← s.createApprovalTransportEffect
      (approvalAfterPersistence persistence .failed)
    return ({ s with snapshot.lastError := some error },
      { notifications := [.error error, .transportEffect effect], changed := true })
  | _, event =>
    .error (invalidState
      "admission storage completion kind does not match the pending operation"
      (some event.operationId))

def applyAdmissionStorage (event : StorageEvent) : Applied := do
  event.validate.mapError fun error => invalidArgument error.message (some event.operationId)
  match s.pendingStorageOperation event.operationId with
  | none =>
    .error (invalidState "stale or duplicate admission storage completion"
      (some event.operationId))
  | some op => (s.removePendingStorage event.operationId).completeTrustWrite op event

def removePendingRequest (listenerId : DeviceId) :
    Except CoreError (JoinRequestSummary × ActorState) :=
  match s.snapshot.pendingJoinRequests.find? fun request =>
      request.requestId = requestId ∧ request.deviceId = listenerId with
  | none => .error (invalidState "join request disappeared before delivery completed" none)
  | some request =>
    .ok (request,
      { s with
        snapshot.pendingJoinRequests := s.snapshot.pendingJoinRequests.eraseP fun request =>
          request.requestId = requestId ∧ request.deviceId = listenerId })

/-- Update the listener with the same device, or add it while there is room. -/
def upsertListener (listener : ListenerSummary) : Except CoreError ActorState :=
  if ∃ existing ∈ s.snapshot.listeners, existing.deviceId = listener.deviceId then
    .ok { s with
      snapshot.listeners :=
        Keyed.replaceFirst ListenerSummary.deviceId listener s.snapshot.listeners }
  else if s.snapshot.listeners.length ≥ maxConnectedListeners then
    .error (resourceLimit "connected-listener capacity reached" none)
  else .ok { s with snapshot.listeners := s.snapshot.listeners ++ [listener] }

def recordApprovedListener (delivery : ApprovalDelivery) : Except CoreError ActorState := do
  let listener ← (ListenerSummary.new request.deviceId request.displayName
    (if delivery.trustedForFuture then .trusted else .sessionOnly) .connecting).mapError
      fun error => invalidArgument error.message none
  s.upsertListener listener

/-- Carry out the decision that a delivery committed. -/
def commitDecision :
    PendingTransportOperation → Except CoreError ActorState
  | .approveJoin delivery => do
    let (request, s) ← s.removePendingRequest delivery.requestId delivery.deviceId
    s.recordApprovedListener request delivery
  | .rejectJoin requestId listenerId confirmationOperationId => do
    let (_, s) ← s.removePendingRequest requestId listenerId
    return { s with
      snapshot.lastDeliveryOperationId :=
        confirmationOperationId.or s.snapshot.lastDeliveryOperationId }
  | .disconnectListener listenerId => do
    check (∃ listener ∈ s.snapshot.listeners, listener.deviceId = listenerId)
      (invalidState "listener disappeared before removal delivery completed" (some operationId))
    return { s with
      snapshot.listeners := s.snapshot.listeners.filter fun listener =>
        listener.deviceId ≠ listenerId }

/-- A delivery that reached someone also clears an earlier delivery failure. -/
def clearDeliveryFailure : ActorState :=
  if ∃ error ∈ s.snapshot.lastError, error.code = .transportDeliveryFailed then
    { s with snapshot.lastError := none }
  else s

variable (report : DeliveryReport)

/-- A delivery that missed someone is reported. -/
def committedOutcome : Except CoreError ApplyOutcome :=
  if classifyDelivery report = .deliveredWithFailures then do
    let intended ← field "intended_peers" report.intendedPeers.toNat.repr
    let successful ← field "successful_peers" report.successfulPeers.toNat.repr
    let failed ← field "failed_peers" report.failedPeers.toNat.repr
    let outcome ← diagnostic "transport_delivery_partial" [intended, successful, failed]
    return { outcome with changed := true }
  else return .changedOnly

def deliveryFailureMessage : DeliveryCommitDisposition → String
  | .noRecipients => "transport control delivery had no intended recipients"
  | .failed => "transport control delivery failed for every intended recipient"
  | .delivered | .deliveredWithFailures => "transport control delivery did not commit"

/-- Note the latest report. -/
def noteReport : ActorState :=
  { s with
    snapshot.lastDelivery := some report
    snapshot.lastDeliveryOperationId := some operationId }

/-- Record the report of a delivery, and its failure or the decision it committed. -/
def recordDelivery (op : PendingTransportOperation) : Applied := do
  let s := s.noteReport operationId report
  if (classifyDelivery report).commitsDomainDecision then
    let s ← s.commitDecision operationId op
    let outcome ← committedOutcome report
    return (s.clearDeliveryFailure, outcome)
  else
    let error := transportDeliveryFailed (deliveryFailureMessage (classifyDelivery report))
      operationId
    return ({ s with snapshot.lastError := some error }, .error error)

def completeTransportDelivery : Applied :=
  match s.pendingTransport.lookup operationId with
  | none =>
    .error (invalidState "stale or duplicate transport delivery completion" (some operationId))
  | some op => (s.removePendingTransport operationId).recordDelivery operationId report op

end ActorState

end SilentDisco
