import SilentDisco.Library.Keyed
import SilentDisco.Runtime.HostAdmission

/-!
# Actor state

The private state of the authoritative actor and the operations its handlers share: starting
correlated effects, looking up and removing pending operations, resets, and diagnostics.

A handler maps the state to a new state and an outcome, or fails; the caller keeps the old
state of a handler that fails.

## Main definitions

* `ActorState`: the snapshot, the session identity, the pending operations and the counters
* `ActorState.new`: the initial state
* `startPlatformOperation`, `startTransportOperation`, `startStorageOperation`: correlated
  effects
* `resetHostSession`, `resetListenerConnection`, `retireActiveAudioStream`: shared updates
-/

namespace SilentDisco

open Result

def maxPendingEffectOperations : ℕ := 128
def maxRetiredAudioStreamIds : ℕ := 16

inductive PendingPlatformOperation
  | startAdvertising (sessionId : SessionId)
  | stopAdvertising
  | startDiscovery
  | stopDiscovery
  | establishNetwork (sessionId : SessionId)
  | releaseNetwork
  | shareDiagnostics (exportId : String)
  deriving DecidableEq

inductive PendingTransportOperation
  | approveJoin (delivery : ApprovalDelivery)
  | rejectJoin (requestId : RequestId) (listenerId : DeviceId)
      (confirmationOperationId : Option OperationId)
  | disconnectListener (listenerId : DeviceId)
  deriving DecidableEq

inductive PendingStorageOperation
  | persistApprovalTrust (persistence : TrustPersistenceRequest)
  | persistTuning (settings : TuningSettings)
  deriving DecidableEq

/-- The pending write of a tuning update. -/
def PendingStorageOperation.isTuning : PendingStorageOperation → Bool
  | .persistTuning _ => true
  | .persistApprovalTrust _ => false

/-- The actor's state. The three sequence counters are 64-bit: they are advanced only while
the next value fits. -/
structure ActorState where
  snapshot : CoreSnapshot
  localDeviceId : DeviceId
  hostSessionId : Option SessionId
  activeAudioStreamId : Option StreamId
  pendingHostBoundaries : List HostQueueBoundary
  retiredAudioStreamIds : List StreamId
  pendingPlatform : List (OperationId × PendingPlatformOperation)
  pendingTransport : List (OperationId × PendingTransportOperation)
  pendingStorage : List (OperationId × PendingStorageOperation)
  nextEffectSequence : ℕ
  nextSessionSequence : ℕ
  nextExportSequence : ℕ
  sessionIdNamespace : Option String

/-- What a handler adds to the notifications, whether it changed the snapshot, and whether the
actor stops. -/
structure ApplyOutcome where
  notifications : List CoreNotification := []
  changed : Bool := false
  stopRequested : Bool := false

namespace ApplyOutcome

def changedOnly : ApplyOutcome := { changed := true }

def effect (effect : PlatformEffect) : ApplyOutcome :=
  { notifications := [.effect effect], changed := true }

def transportEffect (effect : TransportEffect) : ApplyOutcome :=
  { notifications := [.transportEffect effect], changed := true }

def storageEffect (effect : StorageEffect) : ApplyOutcome :=
  { notifications := [.storageEffect effect], changed := true }

/-- The outcome of a fact that records an error in the snapshot. -/
def error (error : CoreError) : ApplyOutcome :=
  { notifications := [.error error], changed := true }

end ApplyOutcome

/-- The result of a handler. -/
abbrev Applied := Except CoreError (ActorState × ApplyOutcome)

namespace ActorState

variable (s : ActorState) (operationId : OperationId)

/-- The initial state of an actor. -/
def new (localDeviceId : DeviceId) (sessionIdNamespace : Option String) : ActorState where
  snapshot := {}
  localDeviceId
  hostSessionId := none
  activeAudioStreamId := none
  pendingHostBoundaries := []
  retiredAudioStreamIds := []
  pendingPlatform := []
  pendingTransport := []
  pendingStorage := []
  nextEffectSequence := 1
  nextSessionSequence := 1
  nextExportSequence := 1
  sessionIdNamespace

/-! ## Correlated effects -/

/-- The number of operations that await a completion. -/
def pendingCount : ℕ :=
  s.pendingPlatform.length + s.pendingTransport.length + s.pendingStorage.length

def ensureEffectCapacity : Except CoreError Unit :=
  rejectIf (s.pendingCount ≥ maxPendingEffectOperations)
    (resourceLimit "pending effect-operation capacity reached" none)

/-- The name of the `sequence`-th effect operation. -/
def effectName (sequence : ℕ) : String := "effect-" ++ sequence.repr

def nextEffectId : Except CoreError (OperationId × ActorState) := do
  check (s.nextEffectSequence + 1 < 2 ^ 64)
    (resourceLimit "effect operation identifier overflow" none)
  let operationId ← (Identifier.new .operation (effectName s.nextEffectSequence)).mapError
    fun error => CoreError.fromIdentifierValidation error none
  return (operationId, { s with nextEffectSequence := s.nextEffectSequence + 1 })

/-- Start a correlated operation: reserve an identifier, build the effect, and record the
operation. -/
def startOperation {ε : Type} (s : ActorState) (build : OperationId → Except String ε)
    (record : OperationId → ActorState → ActorState) : Except CoreError (ActorState × ε) := do
  s.ensureEffectCapacity
  let (operationId, s) ← s.nextEffectId
  let effect ← (build operationId).mapError fun message =>
    invalidArgument message (some operationId)
  return (record operationId s, effect)

def startPlatformOperation (request : PlatformEffectRequest)
    (pending : PendingPlatformOperation) : Except CoreError (ActorState × PlatformEffect) :=
  s.startOperation (fun id => (PlatformEffect.new id request).mapError RuntimeContractError.message)
    fun id s => { s with pendingPlatform := s.pendingPlatform ++ [(id, pending)] }

def startTransportOperation (request : TransportEffectRequest)
    (pending : PendingTransportOperation) : Except CoreError (ActorState × TransportEffect) :=
  s.startOperation (fun id => (TransportEffect.new id request).mapError EffectContractError.message)
    fun id s => { s with pendingTransport := s.pendingTransport ++ [(id, pending)] }

def startStorageOperation (request : StorageEffectRequest)
    (pending : PendingStorageOperation) : Except CoreError (ActorState × StorageEffect) :=
  s.startOperation (fun id => (StorageEffect.new id request).mapError EffectContractError.message)
    fun id s => { s with pendingStorage := s.pendingStorage ++ [(id, pending)] }

/-! ## Pending operations -/

/-- The operation recorded under an identifier. -/
def pending : Option PendingPlatformOperation :=
  s.pendingPlatform.lookup operationId

def pendingStorageOperation : Option PendingStorageOperation :=
  s.pendingStorage.lookup operationId

def removePending : ActorState :=
  { s with pendingPlatform := Keyed.removeFirst operationId s.pendingPlatform }

def removePendingTransport : ActorState :=
  { s with pendingTransport := Keyed.removeFirst operationId s.pendingTransport }

def removePendingStorage : ActorState :=
  { s with pendingStorage := Keyed.removeFirst operationId s.pendingStorage }

/-! ## Shared updates -/

def clearFailure : ActorState :=
  { s with snapshot.lastError := none, snapshot.recoverableAction := none }

def clearHostBoundaryReservations : ActorState :=
  { s with
    pendingHostBoundaries := []
    snapshot.hostQueueNextBoundary := none }

/-- The retired streams with one more; the oldest is forgotten when there is no room. -/
def retiredWith (retired : List StreamId) (streamId : StreamId) : List StreamId :=
  if streamId ∈ retired then retired
  else if retired.length = maxRetiredAudioStreamIds then retired.drop 1 ++ [streamId]
  else retired ++ [streamId]

def retireActiveAudioStream : ActorState :=
  { s.clearHostBoundaryReservations with
    activeAudioStreamId := none
    retiredAudioStreamIds :=
      match s.activeAudioStreamId with
      | some streamId => retiredWith s.retiredAudioStreamIds streamId
      | none => s.retiredAudioStreamIds }

/-- Forget the host session: its queue, listeners, requests and admission operations. -/
def resetHostSession : ActorState :=
  let s : ActorState :=
    { s with
      hostSessionId := none
      pendingTransport := []
      pendingStorage := s.pendingStorage.filter fun entry => entry.2.isTuning
      snapshot.hostQueue := {}
      snapshot.hostDraft := { s.snapshot.hostDraft with audioSource := none }
      snapshot.hostLifecycle := .idle
      snapshot.transportState := .idle
      snapshot.pendingJoinRequests := []
      snapshot.listeners := []
      snapshot.playbackState := .stopped
      snapshot.playbackPositionMs := 0
      snapshot.lastDelivery := none
      snapshot.lastDeliveryOperationId := none }
  s.retireActiveAudioStream

/-- Forget the listener's connection and selection. -/
def resetListenerConnection : ActorState :=
  let s : ActorState :=
    { s with
      snapshot.discoveryActive := false
      snapshot.transportState := .idle
      snapshot.listenerLifecycle := .idle
      snapshot.selectedSession := none
      snapshot.playbackState := .stopped }
  s.retireActiveAudioStream

/-! ## Identifiers, roles and diagnostics -/

def nextSessionId : Except CoreError (SessionId × ActorState) := do
  check (s.nextSessionSequence + 1 < 2 ^ 64) (resourceLimit "session identifier overflow" none)
  let value := match s.sessionIdNamespace with
    | none => "session-" ++ s.nextSessionSequence.repr
    | some ns => "session-" ++ ns ++ "-" ++ s.nextSessionSequence.repr
  let sessionId ← (Identifier.new .session value).mapError
    fun error => CoreError.fromIdentifierValidation error none
  return (sessionId, { s with nextSessionSequence := s.nextSessionSequence + 1 })

/-- The name of the `sequence`-th diagnostics export. -/
def exportName (sequence : ℕ) : String := "diagnostics-" ++ sequence.repr

def nextExportId : Except CoreError (String × ActorState) := do
  check (s.nextExportSequence + 1 < 2 ^ 64)
    (resourceLimit "diagnostics export identifier overflow" none)
  return (exportName s.nextExportSequence,
    { s with nextExportSequence := s.nextExportSequence + 1 })

def requireRole (role : AppRole) (operationId : OperationId) : Except CoreError Unit :=
  check (s.snapshot.selectedRole = some role)
    (invalidState ("command requires the " ++ role.wireName ++ " role") (some operationId))

def requireRoleEvent (role : AppRole) : Except CoreError Unit :=
  check (s.snapshot.selectedRole = some role)
    (invalidState ("event requires the " ++ role.wireName ++ " role") none)

def requireDiscoveryActive : Except CoreError Unit :=
  check (s.snapshot.discoveryActive = true)
    (invalidState "discovery result arrived while discovery was inactive" none)

def field (key value : String) : Except CoreError DiagnosticField :=
  (DiagnosticField.new key value).mapError fun error => invalidArgument error.message none

def diagnostic (name : String) (fields : List DiagnosticField) : Except CoreError ApplyOutcome :=
  ((CoreDiagnostic.new name fields).mapError fun error => invalidArgument error.message none).map
    fun diagnostic => { notifications := [.diagnostic diagnostic] }

/-! ## When an effect starts -/

/-- There is room for one more operation, and an identifier for it. -/
def CanStart : Prop :=
  s.pendingCount < maxPendingEffectOperations ∧ s.nextEffectSequence + 1 < 2 ^ 64

instance (s : ActorState) : Decidable s.CanStart := inferInstanceAs (Decidable (_ ∧ _))

/-- The identifier is that of the next effect. -/
abbrev IsNext (id : OperationId) : Prop := id.value = effectName s.nextEffectSequence

/-- The state after a platform operation started. -/
def pushPlatform (id : OperationId) (op : PendingPlatformOperation) : ActorState :=
  { s with
    nextEffectSequence := s.nextEffectSequence + 1
    pendingPlatform := s.pendingPlatform ++ [(id, op)] }

/-- The state after a transport operation started. -/
def pushTransport (id : OperationId) (op : PendingTransportOperation) : ActorState :=
  { s with
    nextEffectSequence := s.nextEffectSequence + 1
    pendingTransport := s.pendingTransport ++ [(id, op)] }

/-- The state after a storage operation started. -/
def pushStorage (id : OperationId) (op : PendingStorageOperation) : ActorState :=
  { s with
    nextEffectSequence := s.nextEffectSequence + 1
    pendingStorage := s.pendingStorage ++ [(id, op)] }

variable {s s' : ActorState}

theorem exists_effectId {sequence : ℕ} (h : sequence + 1 < 2 ^ 64) :
    ∃ id : OperationId, id.value = effectName sequence := by
  have hplain : IsPlain (effectName sequence) := isPlain_append_repr (by simp) sequence
  have hlength := length_append_repr_le "effect-" (Nat.lt_of_succ_lt h)
  exact ⟨⟨effectName sequence, validateIdentifier_of_isPlain hplain (hlength.trans (by decide))⟩,
    rfl⟩

theorem startOperation_eq_ok {ε : Type} {build : OperationId → Except String ε}
    {record : OperationId → ActorState → ActorState} {effect : ε} :
    s.startOperation build record = .ok (s', effect) ↔
      s.CanStart ∧ ∃ id, s.IsNext id ∧ build id = .ok effect ∧
        s' = record id { s with nextEffectSequence := s.nextEffectSequence + 1 } := by
  simp only [startOperation, ensureEffectCapacity, nextEffectId, bind_eq_ok, rejectIf_eq_ok,
    check_eq_ok, mapError_eq_ok, Identifier.new_eq_ok, Unique.exists_iff, ge_iff_le, not_le,
    CanStart, pure, Except.pure, Except.ok.injEq, Prod.exists, Prod.mk.injEq]
  constructor
  · rintro ⟨hcapacity, id, _, ⟨hsequence, _, hid, rfl, rfl⟩, effect, hbuild, rfl, rfl⟩
    exact ⟨⟨hcapacity, hsequence⟩, _, hid, hbuild, rfl⟩
  · rintro ⟨⟨hcapacity, hsequence⟩, id, hid, hbuild, rfl⟩
    exact ⟨hcapacity, id, _, ⟨hsequence, id, hid, rfl, rfl⟩, effect, hbuild, rfl, rfl⟩

/-- An effect whose request is checked. -/
theorem startOperation_checked {ε α : Type} {valid : Except α Unit} {message : α → String}
    {effect : OperationId → ε} {record : OperationId → ActorState → ActorState} {started : ε} :
    s.startOperation (fun id => (do valid; return effect id).mapError message) record =
        .ok (s', started) ↔
      s.CanStart ∧ valid = .ok () ∧ ∃ id, s.IsNext id ∧
        s' = record id { s with nextEffectSequence := s.nextEffectSequence + 1 } ∧
        started = effect id := by
  simp only [startOperation_eq_ok, mapError_eq_ok, bind_eq_ok, Unique.exists_iff, pure, Except.pure,
    Except.ok.injEq]
  constructor
  · rintro ⟨hstart, id, hid, ⟨hvalid, rfl⟩, rfl⟩
    exact ⟨hstart, hvalid, id, hid, rfl, rfl⟩
  · rintro ⟨hstart, hvalid, id, hid, rfl, rfl⟩
    exact ⟨hstart, id, hid, ⟨hvalid, rfl⟩, rfl⟩

theorem startPlatformOperation_eq_ok {request : PlatformEffectRequest}
    {op : PendingPlatformOperation} {effect : PlatformEffect} :
    s.startPlatformOperation request op = .ok (s', effect) ↔
      s.CanStart ∧ request.validate = .ok () ∧
        ∃ id, s.IsNext id ∧ s' = s.pushPlatform id op ∧ effect = ⟨id, request⟩ :=
  startOperation_checked

theorem startTransportOperation_eq_ok {request : TransportEffectRequest}
    {op : PendingTransportOperation} {effect : TransportEffect} :
    s.startTransportOperation request op = .ok (s', effect) ↔
      s.CanStart ∧ request.validate = .ok () ∧
        ∃ id, s.IsNext id ∧ s' = s.pushTransport id op ∧ effect = ⟨id, request⟩ :=
  startOperation_checked

theorem startStorageOperation_eq_ok {request : StorageEffectRequest}
    {op : PendingStorageOperation} {effect : StorageEffect} :
    s.startStorageOperation request op = .ok (s', effect) ↔
      s.CanStart ∧ request.validate = .ok () ∧
        ∃ id, s.IsNext id ∧ s' = s.pushStorage id op ∧ effect = ⟨id, request⟩ :=
  startOperation_checked

end ActorState

end SilentDisco
