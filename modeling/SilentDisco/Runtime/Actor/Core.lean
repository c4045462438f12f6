import SilentDisco.Runtime.Actor.Process

/-!
# The abstract actor

What the actor is for, without its presentation: the host session and its lifecycle, the
listeners and their requests, discovery, and the operations that await completions. An abstract
step says what one input may do to these; the handlers' playback, queue, tuning and error
details do not appear.

## Main definitions

* `Core`: the abstract state
* `Core.Step`: the abstract transition relation, with the transport effects it emits
* `ActorState.core`: the abstraction of an actor state
* `Refines`: a handled input is an abstract step, and an unchanged one keeps the snapshot
-/

namespace SilentDisco

/-- The operations that start and stop advertising. -/
def PendingPlatformOperation.isAdvertising : PendingPlatformOperation → Bool
  | .startAdvertising _ | .stopAdvertising => true
  | .startDiscovery | .stopDiscovery | .establishNetwork _ | .releaseNetwork
  | .shareDiagnostics _ => false

/-- The commands that edit the draft or the queue. -/
def CoreCommand.isEdit : CoreCommand → Bool
  | .updateHostDraft _ | .appendHostQueue _ _ | .reorderHostQueue _ _ | .removeHostQueueEntry _ _
  | .clearHostQueue _ => true
  | _ => false

/-- The platform operation that a command starts without changing anything else. -/
inductive CoreCommand.Starts : CoreCommand → PendingPlatformOperation → Prop
  | startDiscovery : Starts .startDiscovery .startDiscovery
  | stopDiscovery : Starts .stopDiscovery .stopDiscovery
  | cancelJoin : Starts .cancelJoin .releaseNetwork
  | exportDiagnostics (n : ℕ) (hn : n + 1 < 2 ^ 64) :
      Starts .exportDiagnostics (.shareDiagnostics (ActorState.exportName n))

/-- The abstract state of the actor. Discovered sessions and listeners are named by their
identifiers. -/
structure Core where
  role : Option AppRole
  approvalMode : ApprovalMode
  lifecycle : HostLifecycle
  session : Option SessionId
  transport : TransportState
  discovering : Bool
  discovered : List SessionId
  selected : Option SessionId
  requests : List JoinRequestSummary
  listeners : List DeviceId
  reserved : List HostQueueBoundary
  platform : List (OperationId × PendingPlatformOperation)
  deliveries : List (OperationId × PendingTransportOperation)
  writes : List (OperationId × PendingStorageOperation)
  nextEffect : ℕ

namespace Core

variable (c : Core)

/-- The operations that await a completion. -/
def pendingCount : ℕ := c.platform.length + c.deliveries.length + c.writes.length

variable (id : OperationId)

/-- An identifier that the next operation may take. -/
def Fresh : Prop :=
  c.pendingCount < maxPendingEffectOperations ∧ c.nextEffect + 1 < 2 ^ 64 ∧
    id.value = ActorState.effectName c.nextEffect

def startPlatform (op : PendingPlatformOperation) : Core :=
  { c with platform := c.platform ++ [(id, op)], nextEffect := c.nextEffect + 1 }

def startDelivery (op : PendingTransportOperation) : Core :=
  { c with deliveries := c.deliveries ++ [(id, op)], nextEffect := c.nextEffect + 1 }

def startWrite (op : PendingStorageOperation) : Core :=
  { c with writes := c.writes ++ [(id, op)], nextEffect := c.nextEffect + 1 }

def finishPlatform : Core :=
  { c with platform := Keyed.removeFirst id c.platform }

def finishDelivery : Core :=
  { c with deliveries := Keyed.removeFirst id c.deliveries }

def finishWrite : Core :=
  { c with writes := Keyed.removeFirst id c.writes }

/-- Forget the host session. -/
def reset : Core :=
  { c with
    session := none
    deliveries := []
    writes := c.writes.filter fun entry => entry.2.isTuning
    lifecycle := .idle
    transport := .idle
    requests := []
    listeners := []
    reserved := [] }

/-- Add a listener that is not known yet. -/
def connect (deviceId : DeviceId) : Core :=
  { c with
    listeners := if deviceId ∈ c.listeners then c.listeners else c.listeners ++ [deviceId] }

/-- There is room for the listener. -/
def HasRoom (deviceId : DeviceId) : Prop :=
  deviceId ∈ c.listeners ∨ c.listeners.length < maxConnectedListeners

/-- The host may decide on requests: it hosts an active session. -/
structure Admits (sessionId : SessionId) : Prop where
  role : c.role = some .host
  session : c.session = some sessionId
  lifecycle : c.lifecycle.AdmitsListeners

/-- An admission operation for the request is in progress. -/
def Deciding (requestId : RequestId) : Prop :=
  (∃ entry ∈ c.deliveries, entry.2.requestId = some requestId) ∨
    ∃ entry ∈ c.writes, entry.2.requestId = some requestId

/-- The lifecycles an audio event may lead to: playback moves between the lifecycles that
admit listeners, a failure ends hosting, and a retryable one returns to it. -/
def AudioLifecycle (event : AudioEvent) (lifecycle : HostLifecycle) : Prop :=
  lifecycle = c.lifecycle ∨
    (c.role = some .host ∧ c.session ≠ none ∧
      (lifecycle = .error ∨ c.lifecycle.AdmitsListeners ∧ lifecycle.AdmitsListeners ∨
        event.retryableFailure = true ∧ lifecycle.AdmitsListeners))

/-- The reservations after an audio event: only scheduling adds one. -/
def AudioReserved (event : AudioEvent) (reserved : List HostQueueBoundary) : Prop :=
  (∀ boundary ∈ reserved, boundary ∈ c.reserved) ∨
    ∃ entryId index, event = .trackBoundaryScheduled entryId index ∧
      reserved = c.reserved ++ [⟨entryId, index⟩]

/-- What one handled input may do, and the transport effects it emits. -/
inductive Step (c : Core) : CoreActorInput → Core → List TransportEffectRequest → Prop
  | quiet (input : CoreActorInput) : Step c input c []
  /-- Edits of the draft and the queue: the policy is fixed while a session is live. -/
  | edited (operationId : OperationId) (request : CoreCommandRequest)
      (hedit : request.command.isEdit = true) (mode : ApprovalMode)
      (reserved : List HostQueueBoundary)
      (hmode : mode = c.approvalMode ∨ c.lifecycle = .idle ∨ c.lifecycle = .error)
      (hreserved : reserved = c.reserved ∨ reserved = []) :
      Step c (.command operationId request) { c with approvalMode := mode, reserved } []
  | roleSelected (operationId : OperationId) (revision : SnapshotRevision) (role : AppRole)
      (hidle : c.lifecycle = .idle)
      (hpending : c.platform = [] ∧ c.deliveries = [] ∧ c.writes = []) :
      Step c (.command operationId ⟨revision, .selectRole role⟩) { c with role := some role } []
  -- The host session.
  | created (operationId : OperationId) (revision : SnapshotRevision) (id : OperationId)
      (sessionId : SessionId) (hrole : c.role = some .host)
      (hlifecycle : c.lifecycle = .idle ∨ c.lifecycle = .error) (hfresh : c.Fresh id) :
      Step c (.command operationId ⟨revision, .createHostSession⟩)
        { c.startPlatform id (.startAdvertising sessionId) with
          session := some sessionId, lifecycle := .creatingSession, transport := .idle } []
  | retried (operationId : OperationId) (revision : SnapshotRevision) (id : OperationId)
      (sessionId : SessionId) (hrole : c.role = some .host)
      (hsession : c.session = some sessionId)
      (hpending : c.platform = [] ∧ c.deliveries = [] ∧ c.writes = []) (hfresh : c.Fresh id) :
      Step c (.command operationId ⟨revision, .retryRecoverableFailure⟩)
        { c.startPlatform id (.startAdvertising sessionId) with
          lifecycle := .creatingSession, transport := .idle } []
  | ended (operationId : OperationId) (revision : SnapshotRevision) (id : OperationId)
      (hrole : c.role = some .host) (hsession : c.session ≠ none) (hfresh : c.Fresh id) :
      Step c (.command operationId ⟨revision, .endHostSession⟩)
        { c.startPlatform id .stopAdvertising with lifecycle := .endingSession } []
  -- The listener.
  | platformStarted (operationId : OperationId) (request : CoreCommandRequest) (id : OperationId)
      (op : PendingPlatformOperation) (hop : request.command.Starts op) (hfresh : c.Fresh id) :
      Step c (.command operationId request) (c.startPlatform id op) []
  | rescanned (operationId : OperationId) (revision : SnapshotRevision) (id : OperationId)
      (hfresh : c.Fresh id) :
      Step c (.command operationId ⟨revision, .retryRecoverableFailure⟩)
        { c.startPlatform id .startDiscovery with selected := none } []
  | sessionSelected (operationId : OperationId) (revision : SnapshotRevision)
      (sessionId : SessionId) (hmem : sessionId ∈ c.discovered) :
      Step c (.command operationId ⟨revision, .selectSession sessionId⟩)
        { c with selected := some sessionId } []
  | joinSubmitted (operationId : OperationId) (revision : SnapshotRevision)
      (inviteCode : Option String) (id : OperationId) (sessionId : SessionId)
      (hfresh : c.Fresh id) :
      Step c (.command operationId ⟨revision, .submitJoin inviteCode⟩)
        { c.startPlatform id (.establishNetwork sessionId) with
          transport := .connecting, discovering := false } []
  | joinCancelled (operationId : OperationId) (revision : SnapshotRevision) :
      Step c (.command operationId ⟨revision, .cancelJoin⟩)
        { c with selected := none, transport := .idle } []
  -- Admission.
  | tuningWriteStarted (operationId : OperationId) (revision : SnapshotRevision)
      (patch : TuningPatch) (id : OperationId) (settings : TuningSettings) (hfresh : c.Fresh id) :
      Step c (.command operationId ⟨revision, .updateTuning patch⟩)
        (c.startWrite id (.persistTuning settings)) []
  | trustWriteStarted (operationId : OperationId) (revision : SnapshotRevision)
      (remember : Bool) (id : OperationId) (sessionId : SessionId)
      (request : JoinRequestSummary) (hadmits : c.Admits sessionId)
      (hmem : request ∈ c.requests) (hidle : ¬c.Deciding request.requestId)
      (hfresh : c.Fresh id) :
      Step c (.command operationId ⟨revision, .approveJoin request.requestId remember⟩)
        (c.startWrite id
          (.persistApprovalTrust ⟨request.requestId, request.deviceId, request.displayName⟩)) []
  | approvalStarted (operationId : OperationId) (revision : SnapshotRevision)
      (remember : Bool) (id : OperationId) (sessionId : SessionId)
      (request : JoinRequestSummary) (trusted : Bool) (hadmits : c.Admits sessionId)
      (hmem : request ∈ c.requests) (hidle : ¬c.Deciding request.requestId)
      (hfresh : c.Fresh id) :
      Step c (.command operationId ⟨revision, .approveJoin request.requestId remember⟩)
        (c.startDelivery id
          (.approveJoin ⟨request.requestId, request.deviceId, trusted, false⟩))
        [.deliverJoinApproval request.requestId sessionId request.deviceId trusted]
  | rejectionStarted (operationId : OperationId) (revision : SnapshotRevision)
      (id : OperationId) (sessionId : SessionId) (request : JoinRequestSummary)
      (hadmits : c.Admits sessionId) (hmem : request ∈ c.requests)
      (hidle : ¬c.Deciding request.requestId) (hfresh : c.Fresh id) :
      Step c (.command operationId ⟨revision, .rejectJoin request.requestId⟩)
        (c.startDelivery id
          (.rejectJoin request.requestId request.deviceId (some operationId)))
        [.deliverJoinRejection request.requestId sessionId request.deviceId "host_rejected"]
  | removalStarted (operationId : OperationId) (revision : SnapshotRevision)
      (id : OperationId) (sessionId : SessionId) (listenerId : DeviceId)
      (hadmits : c.Admits sessionId) (hmem : listenerId ∈ c.listeners) (hfresh : c.Fresh id) :
      Step c (.command operationId ⟨revision, .removeListener listenerId⟩)
        (c.startDelivery id (.disconnectListener listenerId))
        [.disconnectListener sessionId listenerId "host_removed_listener"]
  | requestRecorded (request : JoinRequestSummary) (hrole : c.role = some .host)
      (hlifecycle : c.lifecycle.AdmitsListeners)
      (hnew : ∀ other ∈ c.requests, other.requestId ≠ request.requestId)
      (hroom : c.requests.length < maxPendingJoinRequests) :
      Step c (.transport (.joinRequested request))
        { c with requests := c.requests ++ [request] } []
  | requestApproved (request : JoinRequestSummary) (id : OperationId) (sessionId : SessionId)
      (trusted : Bool) (hadmits : c.Admits sessionId)
      (hnew : ∀ other ∈ c.requests, other.requestId ≠ request.requestId)
      (hroom : c.requests.length < maxPendingJoinRequests)
      (hpolicy : ∀ draft : HostDraft, draft.approvalMode = c.approvalMode →
        classifyJoinRequest draft request = .autoApprove trusted)
      (hfresh : c.Fresh id) :
      Step c (.transport (.joinRequested request))
        ({ c with requests := c.requests ++ [request] }.startDelivery id
          (.approveJoin ⟨request.requestId, request.deviceId, trusted, false⟩))
        [.deliverJoinApproval request.requestId sessionId request.deviceId trusted]
  | requestRejected (request : JoinRequestSummary) (id : OperationId) (sessionId : SessionId)
      (reason : JoinRejectionReason) (hadmits : c.Admits sessionId)
      (hnew : ∀ other ∈ c.requests, other.requestId ≠ request.requestId)
      (hroom : c.requests.length < maxPendingJoinRequests) (hfresh : c.Fresh id) :
      Step c (.transport (.joinRequested request))
        ({ c with requests := c.requests ++ [request] }.startDelivery id
          (.rejectJoin request.requestId request.deviceId none))
        [.deliverJoinRejection request.requestId sessionId request.deviceId reason.stableName]
  -- Completions of storage operations and deliveries.
  | trustWriteCompleted (event : StorageEvent) (id : OperationId) (sessionId : SessionId)
      (persistence : TrustPersistenceRequest) (outcome : TrustPersistenceOutcome)
      (hpending : c.writes.lookup event.operationId = some (.persistApprovalTrust persistence))
      (hsession : c.session = some sessionId)
      (hfresh : (c.finishWrite event.operationId).Fresh id) :
      Step c (.storage event)
        ((c.finishWrite event.operationId).startDelivery id
          (.approveJoin (approvalAfterPersistence persistence outcome)))
        [.deliverJoinApproval persistence.requestId sessionId persistence.deviceId
          (approvalAfterPersistence persistence outcome).trustedForFuture]
  | tuningWriteCompleted (event : StorageEvent) (settings : TuningSettings)
      (hpending : c.writes.lookup event.operationId = some (.persistTuning settings)) :
      Step c (.storage event) (c.finishWrite event.operationId) []
  | deliveryFailed (operationId : OperationId) (report : DeliveryReport)
      (op : PendingTransportOperation) (hpending : c.deliveries.lookup operationId = some op) :
      Step c (.transport (.deliveryCompleted operationId report))
        (c.finishDelivery operationId) []
  | approvalDelivered (operationId : OperationId) (report : DeliveryReport)
      (delivery : ApprovalDelivery)
      (hpending : c.deliveries.lookup operationId = some (.approveJoin delivery))
      (hrequest : ∃ request ∈ c.requests,
        request.requestId = delivery.requestId ∧ request.deviceId = delivery.deviceId)
      (hroom : c.HasRoom delivery.deviceId) :
      Step c (.transport (.deliveryCompleted operationId report))
        ({ c.finishDelivery operationId with
          requests := c.requests.eraseP fun request =>
            request.requestId = delivery.requestId ∧
              request.deviceId = delivery.deviceId }.connect delivery.deviceId) []
  | rejectionDelivered (operationId : OperationId) (report : DeliveryReport)
      (requestId : RequestId) (listenerId : DeviceId) (confirmation : Option OperationId)
      (hpending : c.deliveries.lookup operationId =
        some (.rejectJoin requestId listenerId confirmation)) :
      Step c (.transport (.deliveryCompleted operationId report))
        { c.finishDelivery operationId with
          requests := c.requests.eraseP fun request =>
            request.requestId = requestId ∧ request.deviceId = listenerId } []
  | removalDelivered (operationId : OperationId) (report : DeliveryReport)
      (listenerId : DeviceId)
      (hpending : c.deliveries.lookup operationId = some (.disconnectListener listenerId)) :
      Step c (.transport (.deliveryCompleted operationId report))
        { c.finishDelivery operationId with
          listeners := c.listeners.filter fun deviceId => deviceId ≠ listenerId } []
  -- Completions of platform operations.
  | advertisingStarted (operationId : OperationId) (sessionId : SessionId)
      (hpending : c.platform.lookup operationId = some (.startAdvertising sessionId))
      (hsession : c.session = some sessionId) :
      Step c (.platform (.operationSucceeded operationId .advertisingStarted))
        { c.finishPlatform operationId with
          lifecycle := .waitingForListeners, transport := .advertising } []
  | advertisingStopped (operationId : OperationId)
      (hpending : c.platform.lookup operationId = some .stopAdvertising) :
      Step c (.platform (.operationSucceeded operationId .advertisingStopped))
        (c.reset.finishPlatform operationId) []
  | discoveryStarted (operationId : OperationId)
      (hpending : c.platform.lookup operationId = some .startDiscovery) :
      Step c (.platform (.operationSucceeded operationId .discoveryStarted))
        { c.finishPlatform operationId with
          discovering := true, transport := .discovering } []
  | discoveryStopped (operationId : OperationId)
      (hpending : c.platform.lookup operationId = some .stopDiscovery) :
      Step c (.platform (.operationSucceeded operationId .discoveryStopped))
        { c.finishPlatform operationId with discovering := false, transport := .idle } []
  | networkReady (operationId : OperationId) (endpoint : NetworkEndpoint)
      (sessionId : SessionId)
      (hpending : c.platform.lookup operationId = some (.establishNetwork sessionId)) :
      Step c (.platform (.operationSucceeded operationId (.networkEndpointReady endpoint)))
        { c.finishPlatform operationId with
          discovering := false, transport := .connected } []
  | networkReleased (operationId : OperationId)
      (hpending : c.platform.lookup operationId = some .releaseNetwork) :
      Step c (.platform (.operationSucceeded operationId .networkReleased))
        { c.finishPlatform operationId with
          discovering := false, transport := .idle, selected := none, reserved := [] } []
  | diagnosticsShared (operationId : OperationId) (exportId : String)
      (hpending : c.platform.lookup operationId = some (.shareDiagnostics exportId)) :
      Step c (.platform (.operationSucceeded operationId (.diagnosticsShared exportId)))
        (c.finishPlatform operationId) []
  | diagnosticsFailed (operationId : OperationId) (error : CoreError) (exportId : String)
      (hpending : c.platform.lookup operationId = some (.shareDiagnostics exportId)) :
      Step c (.platform (.operationFailed operationId error)) (c.finishPlatform operationId) []
  | advertisingFailed (operationId : OperationId) (error : CoreError)
      (op : PendingPlatformOperation)
      (hpending : c.platform.lookup operationId = some op) (hop : op.isAdvertising = true) :
      Step c (.platform (.operationFailed operationId error))
        { c.finishPlatform operationId with lifecycle := .error, transport := .failed } []
  | networkFailed (operationId : OperationId) (error : CoreError)
      (op : PendingPlatformOperation)
      (hpending : c.platform.lookup operationId = some op) (hop : op.isAdvertising = false) :
      Step c (.platform (.operationFailed operationId error))
        { c.finishPlatform operationId with discovering := false, transport := .failed } []
  -- Facts.
  | sessionDiscovered (advertisement : SessionAdvertisement)
      (hnew : advertisement.sessionId ∉ c.discovered)
      (hroom : c.discovered.length < maxDiscoveredSessions) :
      Step c (.platform (.sessionDiscovered advertisement))
        { c with discovered := c.discovered ++ [advertisement.sessionId] } []
  | sessionExpired (sessionId : SessionId) :
      Step c (.platform (.sessionExpired sessionId))
        { c with
          discovered := c.discovered.filter fun other => other ≠ sessionId
          selected := if c.selected = some sessionId then none else c.selected } []
  | transportChanged (state : TransportState) (lifecycle : HostLifecycle)
      (hlifecycle : lifecycle = c.lifecycle ∨
        c.lifecycle = .creatingSession ∧ lifecycle = .advertising) :
      Step c (.transport (.stateChanged state))
        { c with
          transport := state, discovering := decide (state = .discovering), lifecycle } []
  | listenerConnected (listener : ListenerSummary) (hrole : c.role = some .host)
      (hroom : c.HasRoom listener.deviceId) :
      Step c (.transport (.listenerConnected listener))
        ({ c with
          requests := c.requests.filter fun request => request.deviceId ≠ listener.deviceId
          lifecycle :=
            if c.lifecycle = HostLifecycle.waitingForListeners then HostLifecycle.ready
            else c.lifecycle }.connect listener.deviceId) []
  | listenerDisconnected (deviceId : DeviceId) (error : Option CoreError)
      (lifecycle : HostLifecycle)
      (hlifecycle : lifecycle = c.lifecycle ∨
        c.lifecycle = .ready ∧ lifecycle = .waitingForListeners) :
      Step c (.transport (.listenerDisconnected deviceId error))
        { c with
          listeners := c.listeners.filter fun other => other ≠ deviceId
          requests := c.requests.filter fun request => request.deviceId ≠ deviceId
          lifecycle } []
  | sessionEnded (sessionId : SessionId) (hselected : c.selected = some sessionId) :
      Step c (.transport (.sessionEnded sessionId)) { c with transport := .disconnected } []
  | transportFailed (error : CoreError) (lifecycle : HostLifecycle)
      (hlifecycle : lifecycle = c.lifecycle ∨ lifecycle = .error) :
      Step c (.transport (.failed error))
        { c with transport := .failed, discovering := false, lifecycle } []
  | joinRejected (reason : String) :
      Step c (.transport (.joinRejected reason)) { c with selected := none } []
  | audio (event : AudioEvent) (lifecycle : HostLifecycle) (reserved : List HostQueueBoundary)
      (hlifecycle : c.AudioLifecycle event lifecycle)
      (hreserved : c.AudioReserved event reserved) :
      Step c (.audio event) { c with lifecycle, reserved } []

/-- A pending write was pending, or the step starts it under the next identifier: the settings are
written, or the trust of a request that is approved. -/
theorem Step.mem_writes {c c' : Core} {input : CoreActorInput}
    {requests : List TransportEffectRequest} (h : c.Step input c' requests)
    {entry : OperationId × PendingStorageOperation} (hmem : entry ∈ c'.writes) :
    entry ∈ c.writes ∨ entry.1.value = ActorState.effectName c.nextEffect ∧
      ((∃ settings, entry.2 = .persistTuning settings) ∨
        ∃ operationId revision remember, ∃ request ∈ c.requests,
          input = .command operationId ⟨revision, .approveJoin request.requestId remember⟩ ∧
          entry.2 = .persistApprovalTrust
            ⟨request.requestId, request.deviceId, request.displayName⟩) := by
  cases h with
  | tuningWriteStarted _ _ _ id settings hfresh =>
    refine (List.mem_append.mp hmem).imp_right fun hnew => ?_
    rw [List.mem_singleton.mp hnew]
    exact ⟨hfresh.2.2, .inl ⟨settings, rfl⟩⟩
  | trustWriteStarted operationId revision remember _ _ request _ hrequest _ hfresh =>
    refine (List.mem_append.mp hmem).imp_right fun hnew => ?_
    rw [List.mem_singleton.mp hnew]
    exact ⟨hfresh.2.2, .inr ⟨operationId, revision, remember, request, hrequest, rfl, rfl⟩⟩
  | trustWriteCompleted | tuningWriteCompleted => exact .inl (Keyed.removeFirst_subset hmem)
  | advertisingStopped => exact .inl (List.mem_of_mem_filter hmem)
  | _ => exact .inl hmem

end Core

/-- The abstraction of an actor state. -/
def ActorState.core (s : ActorState) : Core where
  role := s.snapshot.selectedRole
  approvalMode := s.snapshot.hostDraft.approvalMode
  lifecycle := s.snapshot.hostLifecycle
  session := s.hostSessionId
  transport := s.snapshot.transportState
  discovering := s.snapshot.discoveryActive
  discovered := s.snapshot.discoveredSessions.map SessionAdvertisement.sessionId
  selected := s.snapshot.selectedSession
  requests := s.snapshot.pendingJoinRequests
  listeners := s.snapshot.listeners.map ListenerSummary.deviceId
  reserved := s.pendingHostBoundaries
  platform := s.pendingPlatform
  deliveries := s.pendingTransport
  writes := s.pendingStorage
  nextEffect := s.nextEffectSequence

/-- The transport effect a notification asks for. -/
def CoreNotification.transportRequest : CoreNotification → Option TransportEffectRequest
  | .transportEffect started => some started.request
  | _ => none

/-- The transport effects among the notifications. -/
def transportRequests (notifications : List CoreNotification) : List TransportEffectRequest :=
  notifications.filterMap CoreNotification.transportRequest

/-- A handled input is an abstract step; if it reports no change, the snapshot is the same. -/
structure Refines (s : ActorState) (input : CoreActorInput) (s' : ActorState)
    (outcome : ApplyOutcome) : Prop where
  step : s.core.Step input s'.core (transportRequests outcome.notifications)
  unchanged : outcome.changed = false → s'.snapshot = s.snapshot

end SilentDisco
