import SilentDisco.Runtime.Actor.Admission

/-!
# Platform, transport and storage events

The handlers of the facts that adapters report, apart from admission and audio.

## Main definitions

* `applyPlatformSuccess`, `applyPlatformFailure`: completions of platform operations
* `recordDiscoveredSession`, `expireSession`: discovery results
* `applyTransport`, `applyTransportState`: transport facts
* `applyTuningStorage`, `applyStorage`: storage completions
-/

namespace SilentDisco

open Result

/-- The listener is in the middle of a join or connected: the connection owns the selected
session. -/
def ListenerLifecycle.isJoined : ListenerLifecycle → Bool
  | .joinRequested | .awaitingApproval | .approved | .connecting | .syncingClock | .buffering
  | .playing | .reconnecting | .desynced => true
  | .idle | .scanning | .sessionSelected | .disconnected | .error => false

/-- The listener is engaged with discovery or a host. -/
def ListenerLifecycle.isActive : ListenerLifecycle → Bool
  | .idle | .disconnected | .error => false
  | _ => true

namespace ActorState

variable (s : ActorState) (operationId : OperationId)

/-! ## Platform completions -/

def platformMismatch (operationId : OperationId) : Applied :=
  .error (invalidState "platform completion kind does not match the pending operation"
    (some operationId))

/-- The update made by a successful completion of the operation's kind. -/
def completePlatform :
    PendingPlatformOperation → PlatformOperationCompletion → Applied
  | .startAdvertising sessionId, .advertisingStarted =>
    if s.hostSessionId = some sessionId then
      .ok ({ s with
        snapshot.hostLifecycle := .waitingForListeners
        snapshot.transportState := .advertising }, .changedOnly)
    else platformMismatch operationId
  | .stopAdvertising, .advertisingStopped => .ok (s.resetHostSession, .changedOnly)
  | .startDiscovery, .discoveryStarted =>
    .ok ({ s with
      snapshot.discoveryActive := true
      snapshot.transportState := .discovering
      snapshot.listenerLifecycle := .scanning }, .changedOnly)
  | .stopDiscovery, .discoveryStopped =>
    .ok ({ s with
      snapshot.discoveryActive := false
      snapshot.transportState := .idle
      snapshot.listenerLifecycle :=
        if s.snapshot.listenerLifecycle = .scanning then .idle
        else s.snapshot.listenerLifecycle }, .changedOnly)
  | .establishNetwork sessionId, .networkEndpointReady _ =>
    if s.snapshot.selectedSession = some sessionId then
      .ok ({ s with
        snapshot.discoveryActive := false
        snapshot.transportState := .connected
        snapshot.listenerLifecycle := .connecting }, .changedOnly)
    else platformMismatch operationId
  | .releaseNetwork, .networkReleased => .ok (s.resetListenerConnection, .changedOnly)
  | .shareDiagnostics expected, .diagnosticsShared exportId =>
    if expected = exportId then do
      let shared ← field "export_id" exportId
      let outcome ← diagnostic "diagnostics_shared" [shared]
      return (s, { outcome with changed := true })
    else platformMismatch operationId
  | _, _ => platformMismatch operationId

def applyPlatformSuccess (completion : PlatformOperationCompletion) : Applied :=
  match s.pending operationId with
  | none =>
    .error (invalidState "stale or duplicate platform success completion" (some operationId))
  | some op => do
    let (s, outcome) ← s.completePlatform operationId op completion
    return ((s.removePending operationId).clearFailure, outcome)

/-- What the failure of an operation does to the snapshot. -/
def applyPendingFailure (op : PendingPlatformOperation) (error : CoreError) : ActorState :=
  match op with
  | .startAdvertising _ | .stopAdvertising =>
    { s with
      snapshot.hostLifecycle := .error
      snapshot.transportState := .failed
      snapshot.recoverableAction := if error.retryable then some .retry else none }
  | .startDiscovery | .stopDiscovery =>
    { s with
      snapshot.discoveryActive := false
      snapshot.listenerLifecycle := .error
      snapshot.transportState := .failed
      snapshot.recoverableAction := if error.retryable then some .rescan else none }
  | .establishNetwork _ | .releaseNetwork =>
    { s with
      snapshot.discoveryActive := false
      snapshot.listenerLifecycle := .error
      snapshot.transportState := .failed
      snapshot.recoverableAction := if error.retryable then some .reconnect else none }
  | .shareDiagnostics _ => s

def applyPlatformFailure (error : CoreError) : Applied :=
  match s.pending operationId with
  | none =>
    .error (invalidState "stale or duplicate platform failure completion" (some operationId))
  | some op => do
    let error ← error.correlate operationId
      "platform failure operation ID does not match its wrapper"
    let s := (s.removePending operationId).applyPendingFailure op error
    return ({ s with snapshot.lastError := some error }, .error error)

/-! ## Discovery -/

def recordDiscoveredSession (advertisement : SessionAdvertisement) : Applied := do
  s.requireDiscoveryActive
  if ∃ session ∈ s.snapshot.discoveredSessions,
      session.sessionId = advertisement.sessionId then
    return ({ s with
      snapshot.discoveredSessions := Keyed.replaceFirst SessionAdvertisement.sessionId
        advertisement s.snapshot.discoveredSessions }, .changedOnly)
  else
    rejectIf (s.snapshot.discoveredSessions.length ≥ maxDiscoveredSessions)
      (resourceLimit "discovered-session capacity reached" none)
    return ({ s with
      snapshot.discoveredSessions := s.snapshot.discoveredSessions ++ [advertisement] },
      .changedOnly)

/-- Drop a session from the results, and from the selection. -/
def forgetSession (sessionId : SessionId) : ActorState :=
  let s : ActorState :=
    { s with
      snapshot.discoveredSessions := s.snapshot.discoveredSessions.filter fun session =>
        session.sessionId ≠ sessionId }
  if s.snapshot.selectedSession = some sessionId then
    { s with
      snapshot.selectedSession := none
      snapshot.listenerLifecycle := if s.snapshot.discoveryActive then .scanning else .idle }
  else s

def expireSession (sessionId : SessionId) : Applied := do
  -- Once joined, the connection owns the session: the expiry is only reported.
  if s.snapshot.selectedSession = some sessionId ∧ s.snapshot.listenerLifecycle.isJoined then
    let session ← field "session_id" sessionId.value
    let lifecycle ← field "listener_lifecycle" s.snapshot.listenerLifecycle.debugName
    let outcome ← diagnostic "session_expiry_ignored_while_joined" [session, lifecycle]
    return (s, outcome)
  else if ∃ session ∈ s.snapshot.discoveredSessions, session.sessionId = sessionId then
    return (s.forgetSession sessionId, .changedOnly)
  else return (s, {})

def reportAppState (name : String) : Applied := do
  let outcome ← diagnostic name []
  return (s, outcome)

def applyPlatform : PlatformEvent → Applied
  | .operationSucceeded operationId completion => s.applyPlatformSuccess operationId completion
  | .operationFailed operationId error => s.applyPlatformFailure operationId error
  | .sessionDiscovered advertisement => s.recordDiscoveredSession advertisement
  | .sessionExpired sessionId => s.expireSession sessionId
  | .capabilityStateChanged capabilities =>
    if capabilities = s.snapshot.capabilities then .ok (s, {})
    else .ok ({ s with snapshot.capabilities := capabilities }, .changedOnly)
  | .appEnteredForeground => s.reportAppState "app_foreground"
  | .appEnteredBackground => s.reportAppState "app_background"

/-! ## Transport -/

def endSession (sessionId : SessionId) : Applied :=
  if s.snapshot.selectedSession ≠ some sessionId then .ok (s, {})
  else
    .ok ({ s with
      snapshot.listenerLifecycle := .disconnected
      snapshot.transportState := .disconnected
      snapshot.playbackState := .stopped
      snapshot.recoverableAction := some .reconnect }, .changedOnly)

def recordAwaitingApproval : Applied := do
  s.requireRoleEvent .listener
  check (s.snapshot.listenerLifecycle = .connecting)
    (invalidState "awaiting approval arrived outside an active connection attempt" none)
  return ({ s with snapshot.listenerLifecycle := .awaitingApproval }, .changedOnly)

def recordJoinApproved (_trustedForFuture : Bool) : Applied := do
  s.requireRoleEvent .listener
  check (s.snapshot.listenerLifecycle = .connecting ∨
      s.snapshot.listenerLifecycle = .awaitingApproval)
    (invalidState "join approval arrived outside an active join attempt" none)
  return (({ s with snapshot.listenerLifecycle := .approved }).clearFailure, .changedOnly)

def recordJoinRejected (reason : String) : Applied := do
  s.requireRoleEvent .listener
  check (s.snapshot.listenerLifecycle = .connecting ∨
      s.snapshot.listenerLifecycle = .awaitingApproval)
    (invalidState "join rejection arrived outside an active join attempt" none)
  let error := joinRejected reason
  return ({ s with
    snapshot.lastError := some error
    snapshot.listenerLifecycle := .error
    snapshot.selectedSession := none
    snapshot.recoverableAction := some .rescan }, .error error)

/-- A connected listener replaces its pending requests. -/
def recordListener (listener : ListenerSummary) : Applied := do
  s.requireRoleEvent .host
  let s : ActorState :=
    { s with
      snapshot.pendingJoinRequests := s.snapshot.pendingJoinRequests.filter fun request =>
        request.deviceId ≠ listener.deviceId }
  let s ← s.upsertListener listener
  let s : ActorState :=
    { s with
      snapshot.hostLifecycle :=
        if s.snapshot.hostLifecycle = .waitingForListeners then .ready
        else s.snapshot.hostLifecycle }
  return (s, .changedOnly)

/-- Forget a device: its listener and its requests. -/
def forgetListener (deviceId : DeviceId) : ActorState :=
  let listeners := s.snapshot.listeners.filter fun listener => listener.deviceId ≠ deviceId
  { s with
    snapshot.listeners := listeners
    snapshot.pendingJoinRequests := s.snapshot.pendingJoinRequests.filter fun request =>
      request.deviceId ≠ deviceId
    snapshot.hostLifecycle :=
      if s.snapshot.listeners.length ≠ listeners.length ∧ listeners = [] ∧
          s.snapshot.hostLifecycle = .ready then .waitingForListeners
      else s.snapshot.hostLifecycle }

def recordListenerDisconnect (deviceId : DeviceId) (error : Option CoreError) : Applied :=
  match error with
  | some error =>
    .ok ({ s.forgetListener deviceId with
      snapshot := { (s.forgetListener deviceId).snapshot with lastError := some error } },
      .error error)
  | none =>
    if (∃ listener ∈ s.snapshot.listeners, listener.deviceId = deviceId) ∨
        ∃ request ∈ s.snapshot.pendingJoinRequests, request.deviceId = deviceId then
      .ok (s.forgetListener deviceId, .changedOnly)
    else .ok (s.forgetListener deviceId, {})

def recordTransportFailure (error : CoreError) : ActorState :=
  let s : ActorState :=
    { s with
      snapshot.lastError := some error
      snapshot.transportState := .failed
      snapshot.discoveryActive := false }
  match s.snapshot.selectedRole with
  | some .host =>
    { s with
      snapshot.hostLifecycle := .error
      snapshot.recoverableAction := if error.retryable then some .retry else none }
  | some .listener =>
    if s.snapshot.listenerLifecycle.isActive then
      { s with
        snapshot.listenerLifecycle := .error
        snapshot.recoverableAction := if error.retryable then some .reconnect else none }
    else s
  | none => s

def applyTransportState (state : TransportState) : ActorState :=
  let s : ActorState :=
    { s with
      snapshot.transportState := state
      snapshot.discoveryActive := state = .discovering }
  if s.snapshot.selectedRole = some .host ∧ s.snapshot.hostLifecycle = .creatingSession ∧
      state = .advertising then
    { s with snapshot.hostLifecycle := .advertising }
  else s

/-- The transport facts; join requests and deliveries belong to admission. -/
def applyTransport : TransportEvent → Applied
  | .stateChanged state => .ok (s.applyTransportState state, .changedOnly)
  | .joinRequested request => s.handleJoinRequest request
  | .listenerConnected listener => s.recordListener listener
  | .listenerDisconnected deviceId error => s.recordListenerDisconnect deviceId error
  | .deliveryCompleted operationId report => s.completeTransportDelivery operationId report
  | .sessionEnded sessionId => s.endSession sessionId
  | .failed error => .ok (s.recordTransportFailure error, .error error)
  | .awaitingApproval => s.recordAwaitingApproval
  | .joinApproved trustedForFuture => s.recordJoinApproved trustedForFuture
  | .joinRejected reason => s.recordJoinRejected reason

/-! ## Storage -/

/-- A storage failure is recorded under its operation. -/
def recordStorageFailure (error : CoreError) : Applied := do
  let error ← error.correlate operationId
    "storage failure operation ID does not match its wrapper"
  return ({ s with snapshot.lastError := some error }, .error error)

/-- The completion of a tuning write. -/
def completeTuningWrite : PendingStorageOperation → StorageEvent → Applied
  | .persistTuning settings, .operationSucceeded _ .settingsSaved => do
    let outcome ← diagnostic "settings_saved" []
    return ({ s with snapshot.tuning := settings }, { outcome with changed := true })
  | .persistTuning _, .operationFailed operationId error =>
    s.recordStorageFailure operationId error
  | _, event =>
    .error (invalidState "tuning storage completion kind does not match the pending operation"
      (some event.operationId))

def applyTuningStorage (event : StorageEvent) : Applied := do
  event.validate.mapError fun error => invalidArgument error.message (some event.operationId)
  match s.pendingStorageOperation event.operationId with
  | none =>
    .error (invalidState "stale or duplicate tuning storage completion"
      (some event.operationId))
  | some op => (s.removePendingStorage event.operationId).completeTuningWrite op event

/-- Storage facts that complete no pending operation. -/
def recordStored : StorageCompletion → Applied
  | .settingsLoaded (some settings) =>
    .ok ({ s with snapshot.tuning := settings.tuning }, .changedOnly)
  | .settingsLoaded none => .ok (s, {})
  | .settingsSaved => do
    let outcome ← diagnostic "settings_saved" []
    return (s, outcome)
  | .trustedDevicesLoaded devices => do
    let count ← field "count" devices.length.repr
    let outcome ← diagnostic "trusted_devices_loaded" [count]
    return (s, outcome)
  | .trustedDeviceUpdated deviceId => do
    let device ← field "device_id" deviceId.value
    let outcome ← diagnostic "trusted_device_updated" [device]
    return (s, outcome)
  | .diagnosticsExportReady exportId => do
    let ready ← field "export_id" exportId
    let outcome ← diagnostic "diagnostics_export_ready" [ready]
    return (s, outcome)

def applyStorage (event : StorageEvent) : Applied := do
  event.validate.mapError fun error => invalidArgument error.message (some event.operationId)
  match event with
  | .operationSucceeded _ completion => s.recordStored completion
  | .operationFailed operationId error => s.recordStorageFailure operationId error

end ActorState

end SilentDisco
