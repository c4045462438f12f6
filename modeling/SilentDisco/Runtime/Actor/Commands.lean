import SilentDisco.Runtime.Actor.State

/-!
# Commands

The handlers of presentation commands, apart from listener admission.

## Main definitions

* `updateHostDraft`, `appendHostQueue`, `reorderHostQueue`, `removeHostQueueEntry`,
  `clearHostQueue`: edits of the draft and the queue
* `createHostSession`, `endHostSession`, `retryHostSession`: the host session
* `startDiscovery`, `selectSession`, `submitJoin`, `cancelJoin`: the listener
* `updateTuning`, `exportDiagnostics`, `retryRecoverable`: the rest
-/

namespace SilentDisco

open Result

namespace ActorState

variable (s : ActorState) (operationId : OperationId)

/-- Some operation awaits its completion. -/
def HasPending : Prop :=
  s.pendingPlatform ≠ [] ∨ s.pendingTransport ≠ [] ∨ s.pendingStorage ≠ []

instance (s : ActorState) : Decidable s.HasPending := inferInstanceAs (Decidable (_ ∨ _))

def selectRole (role : AppRole) : Applied := do
  rejectIf (s.snapshot.hostLifecycle ≠ .idle ∨ s.snapshot.listenerLifecycle ≠ .idle ∨
      s.HasPending)
    (invalidState "role cannot change while a session or operation is active" (some operationId))
  if s.snapshot.selectedRole = some role then return (s, {})
  else return (({ s with snapshot.selectedRole := some role }).clearFailure, .changedOnly)

/-! ## Draft and queue -/

def clearStaleHostQueueBoundary : ActorState :=
  if s.pendingHostBoundaries.zipIdx.any fun (boundary, index) =>
      s.snapshot.hostQueue.upcoming[index]?.all fun entry => entry.entryId ≠ boundary.entryId then
    s.clearHostBoundaryReservations
  else s

/-- The draft names the source of the current queue entry. -/
def syncLegacyAudioSource : ActorState :=
  { s with snapshot.hostDraft.audioSource := s.snapshot.hostQueue.current.map QueueEntry.source }

/-- A patch of the audio source alone, while the session hosts and playback has stopped. -/
def trackSwitchAllowed (patch : HostDraftPatch) : Prop :=
  (s.snapshot.hostLifecycle = .ready ∨ s.snapshot.hostLifecycle = .waitingForListeners) ∧
    s.snapshot.playbackState = .stopped ∧
    patch.sessionName = none ∧ patch.approvalMode = none ∧ patch.inviteCode = .unchanged ∧
    patch.rememberApprovedDevices = none

instance (s : ActorState) (patch : HostDraftPatch) : Decidable (s.trackSwitchAllowed patch) :=
  inferInstanceAs (Decidable (_ ∧ _))

/-- The queue that holds exactly a draft's source. -/
def queueEntriesOf : Option AudioSourceDescriptor → Except HostQueueError (List QueueEntry)
  | none => .ok []
  | some source => (QueueEntry.new source.sourceId source).map fun entry => [entry]

/-- Replace the queue when a patch changed the draft's source. -/
def replaceDraftSource (updated : HostDraft) : Except CoreError ActorState :=
  if updated.audioSource = s.snapshot.hostDraft.audioSource then .ok s
  else do
    let entries ← (queueEntriesOf updated.audioSource).mapError fun error =>
      invalidArgument error.message (some operationId)
    let queue ← (s.snapshot.hostQueue.replaceAll s.snapshot.hostQueue.revision entries).mapError
      fun error => invalidArgument error.message (some operationId)
    return ({ s with snapshot.hostQueue := queue }).clearStaleHostQueueBoundary

def updateHostDraft (patch : HostDraftPatch) : Applied := do
  s.requireRole .host operationId
  rejectIf (¬(s.snapshot.hostLifecycle = .idle ∨ s.snapshot.hostLifecycle = .error) ∧
      ¬s.trackSwitchAllowed patch)
    (invalidState ("host draft cannot change while a session is active, except swapping the " ++
      "audio source once playback has stopped") (some operationId))
  let updated ← (s.snapshot.hostDraft.patched patch).mapError fun error =>
    invalidArgument error.message (some operationId)
  let s ← s.replaceDraftSource operationId updated
  return (({ s with snapshot.hostDraft := updated }).clearFailure, .changedOnly)

def requireHostQueueEditable : Except CoreError Unit := do
  s.requireRole .host operationId
  rejectIf (s.snapshot.hostLifecycle = .endingSession)
    (invalidState "host queue cannot change while the session is ending" (some operationId))

/-- The current entry may not change while it is being played. -/
def currentLocked : Bool :=
  match s.snapshot.playbackState with
  | .playing | .paused | .buffering | .underrun => true
  | .stopped | .ready | .error => false

/-- Install an edited queue. -/
def withHostQueue (queue : HostQueue) : ActorState :=
  ({ s with snapshot.hostQueue := queue }).syncLegacyAudioSource.clearStaleHostQueueBoundary
    |>.clearFailure

variable (expectedRevision : UInt64)

def appendHostQueue (entries : List QueueEntry) : Applied := do
  s.requireHostQueueEditable operationId
  let queue ← (s.snapshot.hostQueue.append expectedRevision entries).mapError fun error =>
    invalidArgument error.message (some operationId)
  return (s.withHostQueue queue, .changedOnly)

def reorderHostQueue (orderedEntryIds : List String) : Applied := do
  s.requireHostQueueEditable operationId
  rejectIf (s.pendingHostBoundaries.zipIdx.any fun (boundary, index) =>
      orderedEntryIds[index + 1]? ≠ some boundary.entryId)
    (invalidState "queue reorder cannot change already reserved upcoming tracks"
      (some operationId))
  let queue ← (s.snapshot.hostQueue.reorder expectedRevision orderedEntryIds
    s.currentLocked).mapError fun error => invalidArgument error.message (some operationId)
  return (s.withHostQueue queue, .changedOnly)

def removeHostQueueEntry (entryId : String) : Applied := do
  s.requireHostQueueEditable operationId
  rejectIf (∃ boundary ∈ s.pendingHostBoundaries, boundary.entryId = entryId)
    (invalidState "the already scheduled next track cannot be removed" (some operationId))
  let queue ← (s.snapshot.hostQueue.remove expectedRevision entryId s.currentLocked).mapError
    fun error => invalidArgument error.message (some operationId)
  return (s.withHostQueue queue, .changedOnly)

def clearHostQueue : Applied := do
  s.requireHostQueueEditable operationId
  rejectIf (s.pendingHostBoundaries ≠ [])
    (invalidState "host queue cannot be cleared while upcoming tracks are reserved"
      (some operationId))
  let queue ← (s.snapshot.hostQueue.clear expectedRevision s.currentLocked).mapError
    fun error => invalidArgument error.message (some operationId)
  return (({ s with snapshot.hostQueue := queue }).syncLegacyAudioSource
    |>.clearHostBoundaryReservations.clearFailure, .changedOnly)

/-! ## Tuning and diagnostics -/

def updateTuning (patch : TuningPatch) : Applied := do
  rejectIf (∃ entry ∈ s.pendingStorage, entry.2.isTuning = true)
    (invalidState "a tuning update is already pending durable storage" (some operationId))
  let settings ← (patch.applyTo s.snapshot.tuning).mapError fun error =>
    invalidArgument error.message (some operationId)
  if settings = s.snapshot.tuning then return (s, {})
  else
    let (s, effect) ← s.startStorageOperation (.persistSettings settings)
      (.persistTuning settings)
    return (s, .storageEffect effect)

def exportDiagnostics : Applied := do
  let (exportId, s) ← s.nextExportId
  let (s, effect) ← s.startPlatformOperation (.shareDiagnostics exportId)
    (.shareDiagnostics exportId)
  return (s, .effect effect)

/-! ## Host session -/

def startHostAdvertising (sessionId : SessionId) :
    Except CoreError (ActorState × PlatformEffect) := do
  let advertisement ← (SessionAdvertisement.new sessionId s.localDeviceId
    s.snapshot.hostDraft.sessionName s.snapshot.hostDraft.approvalMode currentProtocolVersion
    none).mapError fun error => invalidArgument error.message (some operationId)
  s.startPlatformOperation (.startAdvertising advertisement) (.startAdvertising sessionId)

def createHostSession : Applied := do
  s.requireRole .host operationId
  check (s.snapshot.hostLifecycle = .idle ∨ s.snapshot.hostLifecycle = .error)
    (invalidState "host session creation is not legal now" (some operationId))
  s.snapshot.hostDraft.validateForCreation.mapError fun error =>
    invalidArgument error.message (some operationId)
  let (sessionId, s) ← s.nextSessionId
  let (s, effect) ← s.startHostAdvertising operationId sessionId
  let s : ActorState :=
    { s with
      hostSessionId := some sessionId
      snapshot.hostLifecycle := .creatingSession
      snapshot.transportState := .idle }
  return (s.clearFailure, .effect effect)

def endHostSession : Applied := do
  s.requireRole .host operationId
  rejectIf (s.hostSessionId = none ∨ s.snapshot.hostLifecycle = .idle ∨
      s.snapshot.hostLifecycle = .endingSession)
    (invalidState "no active host session can be ended" (some operationId))
  let (s, effect) ← s.startPlatformOperation .stopAdvertising .stopAdvertising
  return ({ s with snapshot.hostLifecycle := .endingSession }, .effect effect)

def retryHostSession : Applied := do
  s.requireRole .host operationId
  rejectIf s.HasPending
    (invalidState "host retry cannot start while another operation is pending"
      (some operationId))
  s.snapshot.hostDraft.validateForCreation.mapError fun error =>
    invalidArgument error.message (some operationId)
  match s.hostSessionId with
  | none =>
    .error (invalidState "host retry has no active session identity" (some operationId))
  | some sessionId => do
    let (s, effect) ← s.startHostAdvertising operationId sessionId
    let s : ActorState :=
      { s with
        snapshot.hostLifecycle := .creatingSession
        snapshot.transportState := .idle }
    return (s.clearFailure, .effect effect)

/-! ## Listener -/

def startDiscovery : Applied := do
  s.requireRole .listener operationId
  rejectIf (s.snapshot.discoveryActive = true ∨
      ∃ entry ∈ s.pendingPlatform, entry.2 = .startDiscovery)
    (invalidState "discovery is already active or starting" (some operationId))
  check (s.snapshot.listenerLifecycle = .idle ∨ s.snapshot.listenerLifecycle = .disconnected ∨
      s.snapshot.listenerLifecycle = .error)
    (invalidState "discovery cannot start in the current lifecycle" (some operationId))
  let (s, effect) ← s.startPlatformOperation
    (.startDiscovery (.fromTuning s.snapshot.tuning)) .startDiscovery
  return (s.clearFailure, .effect effect)

def stopDiscovery : Applied := do
  s.requireRole .listener operationId
  check (s.snapshot.discoveryActive = true)
    (invalidState "discovery is not active" (some operationId))
  let (s, effect) ← s.startPlatformOperation .stopDiscovery .stopDiscovery
  return (s, .effect effect)

def selectSession (sessionId : SessionId) : Applied := do
  s.requireRole .listener operationId
  check (∃ session ∈ s.snapshot.discoveredSessions, session.sessionId = sessionId)
    (invalidArgument "selected session is not in discovery results" (some operationId))
  -- Selecting the selected session again is a no-op, also in the middle of a join.
  if s.snapshot.selectedSession = some sessionId then return (s, {})
  else
    check (s.snapshot.listenerLifecycle = .scanning ∨
        s.snapshot.listenerLifecycle = .sessionSelected)
      (invalidState "session selection is not legal now" (some operationId))
    let s : ActorState :=
      { s with
        snapshot.selectedSession := some sessionId
        snapshot.listenerLifecycle := .sessionSelected }
    return (s.clearFailure, .changedOnly)

/-- The advertisement of the selected session. -/
def selectedAdvertisement : Except CoreError SessionAdvertisement :=
  match s.snapshot.selectedSession with
  | none => .error (invalidState "join has no selected session" (some operationId))
  | some selectedId =>
    match s.snapshot.discoveredSessions.find? fun session => session.sessionId = selectedId with
    | none =>
      .error (invalidState "selected session disappeared before join" (some operationId))
    | some advertisement => .ok advertisement

def submitJoin : Applied := do
  s.requireRole .listener operationId
  check (s.snapshot.listenerLifecycle = .sessionSelected)
    (invalidState "join requires a selected session" (some operationId))
  let advertisement ← s.selectedAdvertisement operationId
  let (s, effect) ← s.startPlatformOperation
    (.establishNetwork
      { sessionId := advertisement.sessionId, endpoint := advertisement.endpoint })
    (.establishNetwork advertisement.sessionId)
  let s : ActorState :=
    { s with
      snapshot.listenerLifecycle := .joinRequested
      snapshot.transportState := .connecting
      snapshot.discoveryActive := false }
  return (s, .effect effect)

/-- A connection in progress is released by the platform; otherwise the selection is dropped
here. -/
def cancelJoin : Applied := do
  s.requireRole .listener operationId
  if s.snapshot.transportState = .connecting ∨ s.snapshot.transportState = .connected ∨
      s.snapshot.transportState = .retrying then
    let (s, effect) ← s.startPlatformOperation .releaseNetwork .releaseNetwork
    return (s, .effect effect)
  else
    let s : ActorState :=
      { s with
        snapshot.selectedSession := none
        snapshot.listenerLifecycle := .idle
        snapshot.transportState := .idle }
    return (s, .changedOnly)

/-- A retry scans again, so that the listener can pick a healthy session. -/
def retryListenerConnection : Applied := do
  s.requireRole .listener operationId
  rejectIf s.HasPending
    (invalidState "listener retry cannot start while another operation is pending"
      (some operationId))
  let s : ActorState := { s with snapshot.selectedSession := none }
  let (s, effect) ← s.startPlatformOperation
    (.startDiscovery (.fromTuning s.snapshot.tuning)) .startDiscovery
  return (s.clearFailure, .effect effect)

def retryRecoverable : Applied :=
  match s.snapshot.lastError, s.snapshot.recoverableAction with
  | none, _ =>
    .error (invalidState "there is no recoverable failure to retry" (some operationId))
  | some _, none =>
    .error (invalidState "the current failure has no recoverable action" (some operationId))
  | some error, some action => do
    check (error.retryable = true)
      (invalidState "the current failure is not retryable" (some operationId))
    if s.snapshot.selectedRole = some .host ∧ action = .retry then s.retryHostSession operationId
    else if s.snapshot.selectedRole = some .listener ∧
        (action = .reconnect ∨ action = .rescan) then
      s.retryListenerConnection operationId
    else return (s.clearFailure, .changedOnly)

end ActorState

end SilentDisco
