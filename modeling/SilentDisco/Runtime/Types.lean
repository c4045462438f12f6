import SilentDisco.Library.Result
import SilentDisco.Protocol.Types

/-!
# Runtime records

The errors that the actor reports, and the records that commands, events and snapshots are made
of, with the checks made when they are built or patched.

## Main definitions

* `CoreError`, `invalidArgument`, `invalidState`, `resourceLimit`, `joinRejected`,
  `transportDeliveryFailed`: the errors of the actor's handlers
* `HostDraft`, `HostDraft.patched`, `HostDraft.validateForCreation`: the host-session draft
* `TuningPatch.applyTo`: a partial update of the tuning settings
* `SessionAdvertisement`, `JoinRequestSummary`, `DeliveryReport`, `ListenerSummary`,
  `CoreDiagnostic`: bounded records
-/

namespace SilentDisco

open Result

/-! ## Errors -/

inductive CoreSubsystem
  | validation | protocol | transport | synchronization | audio | storage | platform | ffi
  | runtime
  deriving DecidableEq

inductive ErrorSeverity
  | warning | error | fatal
  deriving DecidableEq

inductive CoreErrorCode
  | invalidIdentifier | invalidArgument | invalidStateTransition | resourceLimitExceeded
  | unsupportedProtocolVersion | malformedProtocolFrame | protocolFrameTooLarge
  | unsupportedMessageKind | integrityCheckFailed
  | transportUnavailable | transportConnectionFailed | transportConnectionLost
  | transportDeliveryFailed | transportTimeout
  | invalidSyncSample | synchronizationTimeout | synchronizationConfidenceLost
  | invalidAudioConfiguration | audioOutputStartFailed | audioOutputFailed | audioUnderrun
  | audioEngineUnavailable
  | storageOpenFailed | storageMigrationFailed | storageIntegrityFailed | storageReadFailed
  | storageWriteFailed | storagePragmaFailed | storageTransactionFailed
  | storageConstraintViolation | storageBusy | storageCorrupt | storageCloseFailed
  | storageQueryFailed
  | platformOperationFailed | permissionDenied | capabilityUnavailable
  | ffiInvalidArgument | ffiIncompatibleVersion | ffiPanicContained | ffiCallbackFailed
  | queueOverflow | shutdownInProgress | shutdownFailed | workerStopped
  deriving DecidableEq

def CoreErrorCode.subsystem : CoreErrorCode → CoreSubsystem
  | .invalidIdentifier | .invalidArgument | .invalidStateTransition | .resourceLimitExceeded =>
    .validation
  | .unsupportedProtocolVersion | .malformedProtocolFrame | .protocolFrameTooLarge
  | .unsupportedMessageKind | .integrityCheckFailed => .protocol
  | .transportUnavailable | .transportConnectionFailed | .transportConnectionLost
  | .transportDeliveryFailed | .transportTimeout => .transport
  | .invalidSyncSample | .synchronizationTimeout | .synchronizationConfidenceLost =>
    .synchronization
  | .invalidAudioConfiguration | .audioOutputStartFailed | .audioOutputFailed | .audioUnderrun
  | .audioEngineUnavailable => .audio
  | .storageOpenFailed | .storageMigrationFailed | .storageIntegrityFailed | .storageReadFailed
  | .storageWriteFailed | .storagePragmaFailed | .storageTransactionFailed
  | .storageConstraintViolation | .storageBusy | .storageCorrupt | .storageCloseFailed
  | .storageQueryFailed => .storage
  | .platformOperationFailed | .permissionDenied | .capabilityUnavailable => .platform
  | .ffiInvalidArgument | .ffiIncompatibleVersion | .ffiPanicContained | .ffiCallbackFailed =>
    .ffi
  | .queueOverflow | .shutdownInProgress | .shutdownFailed | .workerStopped => .runtime

structure ErrorContextEntry where
  key : String
  value : String
  deriving DecidableEq

/-- An error record reported across the core boundary. -/
structure CoreError where
  code : CoreErrorCode
  message : String
  subsystem : CoreSubsystem
  severity : ErrorSeverity
  retryable : Bool
  operationId : Option OperationId
  context : List ErrorContextEntry
  deriving DecidableEq

def coreError (code : CoreErrorCode) (message : String) (severity : ErrorSeverity)
    (retryable : Bool) (operationId : Option OperationId) : CoreError :=
  { code, message, subsystem := code.subsystem, severity, retryable, operationId, context := [] }

def invalidArgument (message : String) (operationId : Option OperationId) : CoreError :=
  coreError .invalidArgument message .error false operationId

def invalidState (message : String) (operationId : Option OperationId) : CoreError :=
  coreError .invalidStateTransition message .error false operationId

def resourceLimit (message : String) (operationId : Option OperationId) : CoreError :=
  coreError .resourceLimitExceeded message .fatal false operationId

def joinRejected (reason : String) : CoreError :=
  coreError .transportConnectionFailed ("host rejected join request: " ++ reason) .error true none

def transportDeliveryFailed (message : String) (operationId : OperationId) : CoreError :=
  coreError .transportDeliveryFailed message .error true (some operationId)

def IdentifierKind.stableName : IdentifierKind → String
  | .session => "session_id"
  | .stream => "stream_id"
  | .device => "device_id"
  | .request => "request_id"
  | .operation => "operation_id"
  | .diagnosticRun => "diagnostic_run_id"

def IdValidationReason.stableName : IdValidationReason → String
  | .empty => "empty"
  | .tooLong _ _ => "too_long"
  | .surroundingWhitespace => "surrounding_whitespace"
  | .controlCharacter _ => "control_character"

/-- The error that reports an invalid identifier without its value. -/
def CoreError.fromIdentifierValidation (error : IdValidationError)
    (operationId : Option OperationId) : CoreError :=
  { coreError .invalidIdentifier "invalid domain identifier" .error false operationId with
    context := [⟨"identifier_kind", error.identifierKind.stableName⟩,
      ⟨"reason", error.reason.stableName⟩] }

/-- The failure of an operation names that operation; a failure that names another one is
rejected. -/
def CoreError.correlate (error : CoreError) (operationId : OperationId) (message : String) :
    Except CoreError CoreError :=
  if ∃ inner ∈ error.operationId, inner ≠ operationId then
    .error (invalidState message (some operationId))
  else .ok { error with operationId := some operationId }

/-! ## Sources -/

def maxAudioSourceIdBytes : ℕ := 128
def maxAudioSourceDisplayNameBytes : ℕ := 256
def maxDiagnosticEventNameBytes : ℕ := 96
def maxDiagnosticFields : ℕ := 16
def maxDiagnosticFieldKeyBytes : ℕ := 64
def maxDiagnosticFieldValueBytes : ℕ := 256

/-- Failures while constructing or patching records. -/
inductive RuntimeRecordValidationError
  | revisionOverflow | audioSourceId | audioSourceDisplayName | audioSourceLength
  | audioSourceRequired | sessionName | inviteCode | inviteCodeRequired | unexpectedInviteCode
  | tuningSettings | networkPort | protocolVersion | deviceDisplayName | deliveryCount
  | synchronizationSummary | diagnosticName | diagnosticFieldKey | diagnosticFieldValue
  | diagnosticFieldLimit
  deriving DecidableEq

def RuntimeRecordValidationError.message : RuntimeRecordValidationError → String
  | .revisionOverflow => "snapshot revision overflow"
  | .audioSourceId => "audio source ID is invalid"
  | .audioSourceDisplayName => "audio source display name is invalid"
  | .audioSourceLength => "audio source byte length must be greater than zero"
  | .audioSourceRequired => "a staged audio source is required"
  | .sessionName => "session name is invalid"
  | .inviteCode => "invite code is invalid"
  | .inviteCodeRequired => "invite-code approval requires an invite code"
  | .unexpectedInviteCode => "invite code is not allowed for this approval mode"
  | .tuningSettings => "tuning patch produces invalid settings"
  | .networkPort => "network service ports must be nonzero"
  | .protocolVersion => "protocol version must be nonzero"
  | .deviceDisplayName => "device display name is invalid"
  | .deliveryCount => "delivery counts are inconsistent"
  | .synchronizationSummary => "synchronization summary is invalid"
  | .diagnosticName => "diagnostic event name is invalid"
  | .diagnosticFieldKey => "diagnostic field key is invalid"
  | .diagnosticFieldValue => "diagnostic field value is invalid"
  | .diagnosticFieldLimit => "diagnostic field count exceeds the supported limit"

/-- The revision of a snapshot. -/
structure SnapshotRevision where
  get : UInt64
  deriving DecidableEq

/-- The next revision, without wrapping. -/
def SnapshotRevision.checkedNext (revision : SnapshotRevision) :
    Except RuntimeRecordValidationError SnapshotRevision :=
  if revision.get.toNat + 1 < 2 ^ 64 then .ok ⟨revision.get + 1⟩ else .error .revisionOverflow

/-- A staged audio source; it never holds a native path. -/
structure AudioSourceDescriptor where
  sourceId : String
  displayName : String
  byteLength : Option UInt64
  durationMs : Option UInt64
  deriving DecidableEq

/-- Describe a staged source; its identifier and name are bounded text, and a known length is
not zero. -/
def AudioSourceDescriptor.new (sourceId displayName : String)
    (byteLength durationMs : Option UInt64) :
    Except RuntimeRecordValidationError AudioSourceDescriptor := do
  validateToken sourceId maxAudioSourceIdBytes .audioSourceId
  validateHumanText displayName maxAudioSourceDisplayNameBytes .audioSourceDisplayName
  rejectIf (byteLength = some 0) .audioSourceLength
  return { sourceId, displayName, byteLength, durationMs }

/-! ## Host draft -/

inductive InviteCodePatch
  | unchanged
  | set (code : String)
  | clear
  deriving DecidableEq

inductive AudioSourcePatch
  | unchanged
  | set (source : AudioSourceDescriptor)
  | clear
  deriving DecidableEq

structure HostDraftPatch where
  sessionName : Option String := none
  approvalMode : Option ApprovalMode := none
  inviteCode : InviteCodePatch := .unchanged
  audioSource : AudioSourcePatch := .unchanged
  rememberApprovedDevices : Option Bool := none
  deriving DecidableEq

structure HostDraft where
  sessionName : String := ""
  approvalMode : ApprovalMode := .manual
  inviteCode : Option String := none
  audioSource : Option AudioSourceDescriptor := none
  rememberApprovedDevices : Bool := false
  deriving DecidableEq

variable (draft : HostDraft)

/-- The approval mode has an invite code exactly when it needs one. -/
def HostDraft.validateConsistency : Except RuntimeRecordValidationError Unit :=
  match draft.approvalMode, draft.inviteCode with
  | .inviteCode, some code => validateToken code Protocol.maxInviteCodeBytes .inviteCode
  | .inviteCode, none => .error .inviteCodeRequired
  | _, some _ => .error .unexpectedInviteCode
  | _, none => .ok ()

/-- The patched session name, validated when it is replaced. -/
def HostDraft.patchedSessionName :
    Option String → Except RuntimeRecordValidationError String
  | none => .ok draft.sessionName
  | some name =>
    (validateHumanText name Protocol.maxSessionNameBytes .sessionName).map fun _ => name

/-- The patched invite code, validated when it is replaced. -/
def HostDraft.patchedInviteCode :
    InviteCodePatch → Except RuntimeRecordValidationError (Option String)
  | .unchanged => .ok draft.inviteCode
  | .set code => (validateToken code Protocol.maxInviteCodeBytes .inviteCode).map fun _ => code
  | .clear => .ok none

def HostDraft.patchedAudioSource :
    AudioSourcePatch → Option AudioSourceDescriptor
  | .unchanged => draft.audioSource
  | .set source => some source
  | .clear => none

/-- Apply a patch, checking every replaced field and then the consistency of the result. -/
def HostDraft.patched (patch : HostDraftPatch) : Except RuntimeRecordValidationError HostDraft := do
  let sessionName ← draft.patchedSessionName patch.sessionName
  let inviteCode ← draft.patchedInviteCode patch.inviteCode
  let next : HostDraft :=
    { sessionName
      approvalMode := patch.approvalMode.getD draft.approvalMode
      inviteCode
      audioSource := draft.patchedAudioSource patch.audioSource
      rememberApprovedDevices :=
        patch.rememberApprovedDevices.getD draft.rememberApprovedDevices }
  next.validateConsistency
  return next

/-- A draft needs a name and a staged source before a session may be created. -/
def HostDraft.validateForCreation : Except RuntimeRecordValidationError Unit := do
  validateHumanText draft.sessionName Protocol.maxSessionNameBytes .sessionName
  rejectIf draft.audioSource.isNone .audioSourceRequired
  draft.validateConsistency

/-! ## Tuning -/

structure TuningPatch where
  syncSampleWindow : Option UInt16 := none
  syncCadenceMs : Option UInt64 := none
  startupBufferMs : Option UInt64 := none
  latePacketThresholdMs : Option UInt64 := none
  hardResyncThresholdMs : Option UInt64 := none
  syncDriftThresholdMs : Option F64 := none
  scanWindowMs : Option UInt64 := none
  deriving DecidableEq

/-- Apply the patch and check the complete resulting record. -/
def TuningPatch.applyTo (patch : TuningPatch) (current : TuningSettings) :
    Except RuntimeRecordValidationError TuningSettings := do
  let next : TuningSettings :=
    { syncSampleWindow := patch.syncSampleWindow.getD current.syncSampleWindow
      syncCadenceMs := patch.syncCadenceMs.getD current.syncCadenceMs
      startupBufferMs := patch.startupBufferMs.getD current.startupBufferMs
      latePacketThresholdMs := patch.latePacketThresholdMs.getD current.latePacketThresholdMs
      hardResyncThresholdMs := patch.hardResyncThresholdMs.getD current.hardResyncThresholdMs
      syncDriftThresholdMs := patch.syncDriftThresholdMs.getD current.syncDriftThresholdMs
      scanWindowMs := patch.scanWindowMs.getD current.scanWindowMs }
  next.validate.mapError fun _ => .tuningSettings
  return next

/-! ## Network and discovery -/

inductive IpAddr
  | v4 (bits : BitVec 32)
  | v6 (bits : BitVec 128)
  deriving DecidableEq

structure NetworkEndpoint where
  address : IpAddr
  controlPort : UInt16
  syncPort : UInt16
  audioPort : UInt16
  deriving DecidableEq

structure CapabilitySnapshot where
  nearbyDiscoveryAvailable : Bool := false
  nearbyAdvertisingAvailable : Bool := false
  localNetworkAvailable : Bool := false
  audioSourceSelectionAvailable : Bool := false
  audioOutputAvailable : Bool := false
  secureStoreAvailable : Bool := false
  deriving DecidableEq

structure SessionAdvertisement where
  sessionId : SessionId
  hostDeviceId : DeviceId
  sessionName : String
  approvalMode : ApprovalMode
  protocolVersion : UInt16
  endpoint : Option NetworkEndpoint
  deriving DecidableEq

def SessionAdvertisement.new (sessionId : SessionId) (hostDeviceId : DeviceId)
    (sessionName : String) (approvalMode : ApprovalMode) (protocolVersion : UInt16)
    (endpoint : Option NetworkEndpoint) :
    Except RuntimeRecordValidationError SessionAdvertisement := do
  validateHumanText sessionName Protocol.maxSessionNameBytes .sessionName
  rejectIf (protocolVersion = 0) .protocolVersion
  return { sessionId, hostDeviceId, sessionName, approvalMode, protocolVersion, endpoint }

/-! ## Listeners -/

/-- One pending listener admission request. -/
structure JoinRequestSummary where
  requestId : RequestId
  deviceId : DeviceId
  displayName : String
  trustState : TrustState
  inviteCodeValid : Bool
  receivedAt : MonotonicMillis
  deriving DecidableEq

inductive DeliverySeverity
  | ok | zeroPeers | partialFailure
  deriving DecidableEq

/-- Delivery accounting of one control or packet broadcast. -/
structure DeliveryReport where
  intendedPeers : UInt32
  successfulPeers : UInt32
  failedPeers : UInt32
  severity : DeliverySeverity
  deriving DecidableEq

structure SynchronizationSummary where
  confidence : SyncConfidence
  offsetMs : F64
  roundTripMs : F64
  driftPpm : F64
  deriving DecidableEq

/-- Host-side summary of one known listener. -/
structure ListenerSummary where
  deviceId : DeviceId
  displayName : String
  trustState : TrustState
  transportState : TransportState
  synchronization : Option SynchronizationSummary
  lastContact : Option MonotonicMillis
  lastError : Option CoreError
  deriving DecidableEq

def ListenerSummary.new (deviceId : DeviceId) (displayName : String) (trustState : TrustState)
    (transportState : TransportState) : Except RuntimeRecordValidationError ListenerSummary := do
  validateHumanText displayName Protocol.maxDisplayNameBytes .deviceDisplayName
  return {
    deviceId, displayName, trustState, transportState, synchronization := none,
    lastContact := none, lastError := none }

/-! ## Diagnostics -/

structure DiagnosticField where
  key : String
  value : String
  deriving DecidableEq

def DiagnosticField.new (key value : String) :
    Except RuntimeRecordValidationError DiagnosticField := do
  validateToken key maxDiagnosticFieldKeyBytes .diagnosticFieldKey
  validateBoundedText value maxDiagnosticFieldValueBytes .diagnosticFieldValue
  return { key, value }

structure CoreDiagnostic where
  name : String
  fields : List DiagnosticField
  deriving DecidableEq

def CoreDiagnostic.new (name : String) (fields : List DiagnosticField) :
    Except RuntimeRecordValidationError CoreDiagnostic := do
  validateToken name maxDiagnosticEventNameBytes .diagnosticName
  rejectIf (fields.length > maxDiagnosticFields) .diagnosticFieldLimit
  return { name, fields }

end SilentDisco
