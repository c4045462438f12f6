import SilentDisco.Runtime.Playlist

/-!
# Commands, events, effects and the snapshot

The contract of the authoritative actor: the commands and facts it accepts, the effects and
notifications it emits, and the snapshot it publishes.

## Main definitions

* `CoreCommand`, `CoreCommandRequest`: presentation intent, with the revision it was made on
* `PlatformEvent`, `TransportEvent`, `AudioEvent`, `StorageEvent`: facts reported to the actor
* `PlatformEffect`, `TransportEffect`, `StorageEffect`: work the actor asks for
* `CoreSnapshot`, `CoreSnapshot.validate`: the published state and its check
* `CoreActorInput`, `CoreNotification`: what enters and leaves the actor

## Main results

* `CoreSnapshot.validate_eq_ok`: what a validated snapshot satisfies
-/

namespace SilentDisco

open Result

def maxDiscoveredSessions : ℕ := 128
def maxPendingJoinRequests : ℕ := 128
def maxConnectedListeners : ℕ := 256
def maxCapabilityRequests : ℕ := 16
def maxExportIdBytes : ℕ := 128
def maxStorageTrustedDevices : ℕ := 1024

/-- The version session advertisements carry. -/
def currentProtocolVersion : UInt16 := Protocol.protocolVersion

/-- Failures while validating the actor's public contract. -/
inductive RuntimeContractError
  | inviteCode | linearGain | audioOutputFormat | audioBackendName | capabilityList | exportId
  | storedTrustedDeviceLimit | discoveredSessionLimit | pendingRequestLimit | listenerLimit
  | duplicateSession | duplicateRequest | duplicateListener | discoveryStateMismatch
  | unknownSelectedSession
  deriving DecidableEq

def RuntimeContractError.message : RuntimeContractError → String
  | .inviteCode => "join invite code is invalid"
  | .linearGain => "linear gain must be finite and between zero and one"
  | .audioOutputFormat => "audio-output format fields must be nonzero"
  | .audioBackendName => "audio backend name is invalid"
  | .capabilityList => "capability request list is invalid"
  | .exportId => "diagnostics export identifier is invalid"
  | .storedTrustedDeviceLimit => "stored trusted-device limit exceeded"
  | .discoveredSessionLimit => "discovered-session limit exceeded"
  | .pendingRequestLimit => "pending join-request limit exceeded"
  | .listenerLimit => "listener limit exceeded"
  | .duplicateSession => "duplicate discovered session identifier"
  | .duplicateRequest => "duplicate pending request identifier"
  | .duplicateListener => "duplicate listener identifier"
  | .discoveryStateMismatch => "discovery flag and transport state disagree"
  | .unknownSelectedSession => "selected session is not present in discovery results"

/-! ## Commands -/

/-- Presentation intent. The gain of `setLocalVolume` is the bit pattern of a single-precision
number. -/
inductive CoreCommand
  | selectRole (role : AppRole)
  | updateHostDraft (patch : HostDraftPatch)
  | appendHostQueue (expectedQueueRevision : UInt64) (entries : List QueueEntry)
  | reorderHostQueue (expectedQueueRevision : UInt64) (orderedEntryIds : List String)
  | removeHostQueueEntry (expectedQueueRevision : UInt64) (entryId : String)
  | clearHostQueue (expectedQueueRevision : UInt64)
  | createHostSession
  | endHostSession
  | startDiscovery
  | stopDiscovery
  | selectSession (sessionId : SessionId)
  | submitJoin (inviteCode : Option String)
  | cancelJoin
  | approveJoin (requestId : RequestId) (rememberForFuture : Bool)
  | rejectJoin (requestId : RequestId)
  | removeListener (listenerId : DeviceId)
  | startPlayback (source : AudioSourceDescriptor)
  | pausePlayback
  | resumePlayback
  | stopPlayback
  | setLocalVolume (linearGain : UInt32)
  | requestResync
  | retryRecoverableFailure
  | updateTuning (patch : TuningPatch)
  | exportDiagnostics
  | shutdown
  deriving DecidableEq

structure CoreCommandRequest where
  expectedRevision : SnapshotRevision
  command : CoreCommand
  deriving DecidableEq

/-! ## Facts -/

inductive TransportEvent
  | stateChanged (state : TransportState)
  | joinRequested (request : JoinRequestSummary)
  | listenerConnected (listener : ListenerSummary)
  | listenerDisconnected (deviceId : DeviceId) (error : Option CoreError)
  | deliveryCompleted (operationId : OperationId) (report : DeliveryReport)
  | sessionEnded (sessionId : SessionId)
  | failed (error : CoreError)
  | awaitingApproval
  | joinApproved (trustedForFuture : Bool)
  | joinRejected (reason : String)
  deriving DecidableEq

inductive AudioEvent
  | playbackStateChanged (state : PlaybackState)
  | positionAdvanced (streamId : StreamId) (positionMs : UInt64)
  | trackBoundaryApplied (entryId : String) (firstSampleIndex : UInt64)
  | trackBoundaryScheduled (entryId : String) (firstSampleIndex : UInt64)
  | synchronizationUpdated (deviceId : DeviceId) (summary : SynchronizationSummary)
  | endOfStream (streamId : StreamId)
  | underrun (missingFrames : UInt32)
  | failed (error : CoreError)
  deriving DecidableEq

structure StoredSettings where
  tuning : TuningSettings
  allowSharedAddressSpace : Bool
  updatedAtMs : UInt64
  deriving DecidableEq

/-- A stored trusted device; the actor reads only how many were loaded. -/
structure TrustedDevice where
  deviceId : DeviceId
  displayName : String
  deriving DecidableEq

inductive StorageCompletion
  | settingsLoaded (settings : Option StoredSettings)
  | settingsSaved
  | trustedDevicesLoaded (devices : List TrustedDevice)
  | trustedDeviceUpdated (deviceId : DeviceId)
  | diagnosticsExportReady (exportId : String)
  deriving DecidableEq

def StorageCompletion.validate : StorageCompletion → Except RuntimeContractError Unit
  | .trustedDevicesLoaded devices =>
    rejectIf (devices.length > maxStorageTrustedDevices) .storedTrustedDeviceLimit
  | .diagnosticsExportReady exportId => validateToken exportId maxExportIdBytes .exportId
  | _ => .ok ()

inductive StorageEvent
  | operationSucceeded (operationId : OperationId) (completion : StorageCompletion)
  | operationFailed (operationId : OperationId) (error : CoreError)
  deriving DecidableEq

def StorageEvent.operationId : StorageEvent → OperationId
  | .operationSucceeded operationId _ | .operationFailed operationId _ => operationId

def StorageEvent.validate : StorageEvent → Except RuntimeContractError Unit
  | .operationSucceeded _ completion => completion.validate
  | .operationFailed _ _ => .ok ()

/-! ## Platform effects and facts -/

inductive PermissionCapability
  | nearbyDiscovery | nearbyAdvertising | localNetwork | audioSourceSelection | audioOutput
  | secureStore
  deriving DecidableEq

structure DiscoveryRequest where
  scanWindowMs : UInt64
  deriving DecidableEq

def DiscoveryRequest.fromTuning (tuning : TuningSettings) : DiscoveryRequest :=
  { scanWindowMs := tuning.scanWindowMs }

/-- The endpoint is absent when the platform finds it while connecting. -/
structure NetworkEstablishmentRequest where
  sessionId : SessionId
  endpoint : Option NetworkEndpoint
  deriving DecidableEq

structure AudioOutputRequest where
  sampleRateHz : UInt32
  channels : UInt16
  deriving DecidableEq

structure AudioOutputInfo where
  sampleRateHz : UInt32
  channels : UInt16
  backendName : String
  deriving DecidableEq

inductive PlatformEffectRequest
  | requestCapabilities (capabilities : List PermissionCapability)
  | startAdvertising (advertisement : SessionAdvertisement)
  | stopAdvertising
  | startDiscovery (request : DiscoveryRequest)
  | stopDiscovery
  | establishNetwork (request : NetworkEstablishmentRequest)
  | releaseNetwork
  | prepareAudioSource (source : AudioSourceDescriptor)
  | startAudioOutput (request : AudioOutputRequest)
  | stopAudioOutput
  | shareDiagnostics (exportId : String)
  deriving DecidableEq

def PlatformEffectRequest.validate : PlatformEffectRequest → Except RuntimeContractError Unit
  | .requestCapabilities capabilities =>
    rejectIf (capabilities.isEmpty ∨ capabilities.length > maxCapabilityRequests ∨
      ¬capabilities.Nodup) .capabilityList
  | .shareDiagnostics exportId => validateToken exportId maxExportIdBytes .exportId
  | _ => .ok ()

/-- Platform work, correlated by its operation identifier. -/
structure PlatformEffect where
  operationId : OperationId
  request : PlatformEffectRequest
  deriving DecidableEq

def PlatformEffect.new (operationId : OperationId) (request : PlatformEffectRequest) :
    Except RuntimeContractError PlatformEffect := do
  request.validate
  return { operationId, request }

inductive PlatformOperationCompletion
  | capabilitiesResolved (capabilities : CapabilitySnapshot)
  | advertisingStarted
  | advertisingStopped
  | discoveryStarted
  | discoveryStopped
  | networkEndpointReady (endpoint : NetworkEndpoint)
  | networkReleased
  | audioSourcePrepared (source : AudioSourceDescriptor)
  | audioOutputStarted (info : AudioOutputInfo)
  | audioOutputStopped
  | diagnosticsShared (exportId : String)
  deriving DecidableEq

inductive PlatformEvent
  | operationSucceeded (operationId : OperationId) (completion : PlatformOperationCompletion)
  | operationFailed (operationId : OperationId) (error : CoreError)
  | sessionDiscovered (advertisement : SessionAdvertisement)
  | sessionExpired (sessionId : SessionId)
  | capabilityStateChanged (capabilities : CapabilitySnapshot)
  | appEnteredForeground
  | appEnteredBackground
  deriving DecidableEq

def PlatformEvent.operationId : PlatformEvent → Option OperationId
  | .operationSucceeded operationId _ | .operationFailed operationId _ => some operationId
  | _ => none

/-! ## Transport and storage effects -/

/-- Failures while validating an emitted effect. -/
inductive EffectContractError
  | controlReason | deviceDisplayName | tuningSettings
  deriving DecidableEq

def EffectContractError.message : EffectContractError → String
  | .controlReason => "transport control reason is invalid"
  | .deviceDisplayName => "device display name is invalid"
  | .tuningSettings => "tuning settings are invalid"

inductive TransportEffectRequest
  | deliverJoinApproval (requestId : RequestId) (sessionId : SessionId) (listenerId : DeviceId)
      (trustedForFuture : Bool)
  | deliverJoinRejection (requestId : RequestId) (sessionId : SessionId) (listenerId : DeviceId)
      (reasonCode : String)
  | disconnectListener (sessionId : SessionId) (listenerId : DeviceId) (reasonCode : String)
  deriving DecidableEq

def TransportEffectRequest.validate : TransportEffectRequest → Except EffectContractError Unit
  | .deliverJoinRejection _ _ _ reasonCode | .disconnectListener _ _ reasonCode =>
    validateToken reasonCode Protocol.maxReasonBytes .controlReason
  | .deliverJoinApproval _ _ _ _ => .ok ()

/-- Transport work, correlated by its operation identifier. -/
structure TransportEffect where
  operationId : OperationId
  request : TransportEffectRequest
  deriving DecidableEq

def TransportEffect.new (operationId : OperationId) (request : TransportEffectRequest) :
    Except EffectContractError TransportEffect := do
  request.validate
  return { operationId, request }

inductive StorageEffectRequest
  | persistSettings (settings : TuningSettings)
  | persistTrustedDevice (deviceId : DeviceId) (displayName : String)
  deriving DecidableEq

def StorageEffectRequest.validate : StorageEffectRequest → Except EffectContractError Unit
  | .persistSettings settings => settings.validate.mapError fun _ => .tuningSettings
  | .persistTrustedDevice _ displayName =>
    validateHumanText displayName Protocol.maxDisplayNameBytes .deviceDisplayName

/-- Storage work, correlated by its operation identifier. -/
structure StorageEffect where
  operationId : OperationId
  request : StorageEffectRequest
  deriving DecidableEq

def StorageEffect.new (operationId : OperationId) (request : StorageEffectRequest) :
    Except EffectContractError StorageEffect := do
  request.validate
  return { operationId, request }

/-! ## The snapshot -/

inductive RecoverableAction
  | retry | rescan | reconnect | resynchronize | reselectAudioSource
  deriving DecidableEq

/-- An upcoming queue transition announced to the playback transport. -/
structure HostQueueBoundary where
  entryId : String
  firstSampleIndex : UInt64
  deriving DecidableEq

/-- The authoritative presentation state. -/
structure CoreSnapshot where
  revision : SnapshotRevision := ⟨0⟩
  selectedRole : Option AppRole := none
  capabilities : CapabilitySnapshot := {}
  hostDraft : HostDraft := {}
  hostQueue : HostQueue := {}
  hostQueueNextBoundary : Option HostQueueBoundary := none
  hostLifecycle : HostLifecycle := .idle
  listenerLifecycle : ListenerLifecycle := .idle
  transportState : TransportState := .idle
  discoveryActive : Bool := false
  discoveredSessions : List SessionAdvertisement := []
  selectedSession : Option SessionId := none
  pendingJoinRequests : List JoinRequestSummary := []
  listeners : List ListenerSummary := []
  playbackState : PlaybackState := .stopped
  playbackPositionMs : UInt64 := 0
  streamEndedNaturally : Bool := false
  synchronization : Option SynchronizationSummary := none
  tuning : TuningSettings := TuningSettings.default
  lastDelivery : Option DeliveryReport := none
  lastDeliveryOperationId : Option OperationId := none
  recoverableAction : Option RecoverableAction := none
  lastError : Option CoreError := none
  shuttingDown : Bool := false

/-- Bounded collections, unique identifiers, and agreement between the fields. -/
def CoreSnapshot.validate (snapshot : CoreSnapshot) : Except RuntimeContractError Unit := do
  rejectIf (snapshot.discoveredSessions.length > maxDiscoveredSessions) .discoveredSessionLimit
  rejectIf (snapshot.pendingJoinRequests.length > maxPendingJoinRequests) .pendingRequestLimit
  rejectIf (snapshot.listeners.length > maxConnectedListeners) .listenerLimit
  check (snapshot.discoveredSessions.map SessionAdvertisement.sessionId).Nodup .duplicateSession
  check (snapshot.pendingJoinRequests.map JoinRequestSummary.requestId).Nodup .duplicateRequest
  check (snapshot.listeners.map ListenerSummary.deviceId).Nodup .duplicateListener
  check (snapshot.discoveryActive = decide (snapshot.transportState = .discovering))
    .discoveryStateMismatch
  check (∀ selected ∈ snapshot.selectedSession, ∃ advertisement ∈ snapshot.discoveredSessions,
    advertisement.sessionId = selected) .unknownSelectedSession

/-- What a validated snapshot satisfies. -/
@[mk_iff] structure CoreSnapshot.Valid (snapshot : CoreSnapshot) : Prop where
  sessions : snapshot.discoveredSessions.length ≤ maxDiscoveredSessions
  requests : snapshot.pendingJoinRequests.length ≤ maxPendingJoinRequests
  listeners : snapshot.listeners.length ≤ maxConnectedListeners
  uniqueSessions : (snapshot.discoveredSessions.map SessionAdvertisement.sessionId).Nodup
  uniqueRequests : (snapshot.pendingJoinRequests.map JoinRequestSummary.requestId).Nodup
  uniqueListeners : (snapshot.listeners.map ListenerSummary.deviceId).Nodup
  discovery : snapshot.discoveryActive = decide (snapshot.transportState = .discovering)
  selected : ∀ selected ∈ snapshot.selectedSession,
    ∃ advertisement ∈ snapshot.discoveredSessions, advertisement.sessionId = selected

theorem CoreSnapshot.validate_eq_ok {snapshot : CoreSnapshot} {u : Unit} :
    snapshot.validate = .ok u ↔ snapshot.Valid := by
  simp only [CoreSnapshot.validate, bind_eq_ok, rejectIf_eq_ok, check_eq_ok, not_lt,
    Unique.exists_iff, CoreSnapshot.valid_iff]

theorem CoreSnapshot.valid_default : CoreSnapshot.Valid {} := by
  rw [← CoreSnapshot.validate_eq_ok (u := ())]
  rfl

/-! ## Inputs and notifications -/

/-- The inputs of the serialized actor. -/
inductive CoreActorInput
  | command (operationId : OperationId) (request : CoreCommandRequest)
  | platform (event : PlatformEvent)
  | transport (event : TransportEvent)
  | audio (event : AudioEvent)
  | storage (event : StorageEvent)
  deriving DecidableEq

/-- The identifier a rejection of the input is reported with. -/
def CoreActorInput.operationId : CoreActorInput → Option OperationId
  | .command operationId _ => some operationId
  | .platform event => event.operationId
  | .storage event => some event.operationId
  | .transport (.deliveryCompleted operationId _) => some operationId
  | .transport _ | .audio _ => none

inductive CoreNotification
  | snapshot (snapshot : CoreSnapshot)
  | effect (effect : PlatformEffect)
  | transportEffect (effect : TransportEffect)
  | storageEffect (effect : StorageEffect)
  | error (error : CoreError)
  | diagnostic (diagnostic : CoreDiagnostic)

end SilentDisco
