import Mathlib.Data.List.AList
import SilentDisco.Runtime.Actor.Process
import SilentDisco.Transport.HostEvents

/-!
# Pending joins of the desktop host

The worker of the host transport turns the join frames of the control connections into requests
for the actor, and remembers for every device the ports of its pending request and the connection
that speaks for it. The actor's decisions and the end of a connection come back to the worker.

## Main definitions

* `PendingJoinProjection`: the pending requests and the current peers, with its operations
* `PendingJoinProjection.register`: a join frame becomes a request
* `PendingJoinProjection.removeIfCurrent`: the end of a connection
-/

namespace SilentDisco

open Result

def JoinRequestSummary.new (requestId : RequestId) (deviceId : DeviceId) (displayName : String)
    (trustState : TrustState) (inviteCodeValid : Bool) (receivedAt : MonotonicMillis) :
    Except RuntimeRecordValidationError JoinRequestSummary := do
  validateHumanText displayName Protocol.maxDisplayNameBytes .deviceDisplayName
  return { requestId, deviceId, displayName, trustState, inviteCodeValid, receivedAt }

def SynchronizationSummary.new (confidence : SyncConfidence) (offsetMs roundTripMs driftPpm : F64) :
    Except RuntimeRecordValidationError SynchronizationSummary := do
  check (offsetMs.isFinite = true ∧ roundTripMs.isFinite = true ∧ F64.le ⟨0⟩ roundTripMs = true ∧
    driftPpm.isFinite = true) .synchronizationSummary
  return { confidence, offsetMs, roundTripMs, driftPpm }

namespace Transport

def TransportChannel.stableName : TransportChannel → String
  | .control => "control"
  | .synchronization => "synchronization"
  | .audio => "audio"
  | .runtime => "runtime"

def TransportErrorKind.name : TransportErrorKind → String
  | .invalidConfiguration => "InvalidConfiguration"
  | .bind => "Bind"
  | .listen => "Listen"
  | .connect => "Connect"
  | .io => "Io"
  | .protocol => "Protocol"
  | .unauthorized => "Unauthorized"
  | .queueFull => "QueueFull"
  | .timeout => "Timeout"
  | .peerNotFound => "PeerNotFound"
  | .delivery => "Delivery"
  | .shuttingDown => "ShuttingDown"
  | .workerPanicked => "WorkerPanicked"

def TransportError.text (error : TransportError) : String :=
  error.channel.stableName ++ " transport " ++ error.kind.name ++ ": " ++ error.message

end Transport

namespace Desktop

open Protocol Transport

/-! ## Errors -/

inductive NetworkErrorKind
  | invalidArgument | invalidState | transport
  deriving DecidableEq

structure DesktopNetworkError where
  kind : NetworkErrorKind
  code : CoreErrorCode
  message : String
  retryable : Bool
  deriving DecidableEq

namespace DesktopNetworkError

def invalidArgument (message : String) : DesktopNetworkError :=
  ⟨.invalidArgument, .invalidArgument, message, false⟩

def invalidState (message : String) : DesktopNetworkError :=
  ⟨.invalidState, .invalidStateTransition, message, false⟩

def transport (error : TransportError) : DesktopNetworkError :=
  { kind := .transport
    code :=
      match error.kind with
      | .bind | .listen => .transportUnavailable
      | .timeout => .transportTimeout
      | .shuttingDown | .workerPanicked => .shutdownFailed
      | _ => .transportConnectionFailed
    message := error.text
    retryable := true }

def maxErrorMessageBytes : ℕ := 512

/-- The characters of a text that fit into a message. -/
def boundedChars (size : ℕ) : List Char → List Char
  | [] => []
  | c :: rest =>
    if size + c.utf8Size > maxErrorMessageBytes then []
    else c :: boundedChars (size + c.utf8Size) rest

def boundedMessage (fallback message : String) : String :=
  let bounded := String.ofList (boundedChars 0 message.toList)
  if bounded = "" then fallback else bounded

/-- The check of a message. -/
def IsErrorMessage (message : String) : Prop :=
  trim message ≠ "" ∧ message.utf8ByteSize ≤ maxErrorMessageBytes ∧
    message.toList.any isControl = false

instance (message : String) : Decidable (IsErrorMessage message) :=
  inferInstanceAs (Decidable (_ ∧ _))

/-- The error for the actor. A message that does not pass its check is replaced. -/
def coreError (error : DesktopNetworkError) (operationId : Option OperationId) : CoreError :=
  let message := boundedMessage "desktop platform operation failed"
    (boundedMessage "desktop network operation failed" error.message)
  if IsErrorMessage message then
    SilentDisco.coreError error.code message .error error.retryable operationId
  else
    SilentDisco.coreError .platformOperationFailed "desktop platform operation failed" .error false
      none

end DesktopNetworkError

/-! ## The projection -/

def maxPendingJoinRequests : ℕ := 128

/-- What a pending join has reported. -/
structure PendingJoinPorts where
  requestId : RequestId
  controlAddress : SocketAddr
  syncPort : UInt16
  audioPort : UInt16
  displayName : String
  deriving DecidableEq

structure PendingJoinProjection where
  requests : AList fun _ : DeviceId => PendingJoinPorts := ∅
  /-- The connection that speaks for a device, also after its request was decided. -/
  currentPeers : AList fun _ : DeviceId => SocketAddr := ∅
  nextSequence : UInt64 := 1

def joinName (sequence : UInt64) : String := "desktop-join-" ++ sequence.toNat.repr

theorem valid_joinName (sequence : UInt64) :
    validateIdentifier .request (joinName sequence) = .ok () := by
  have hplain : IsPlain (joinName sequence) := isPlain_append_repr (by simp) _
  have hlength := length_append_repr_le "desktop-join-" sequence.toNat_lt
  exact validateIdentifier_of_isPlain hplain (hlength.trans (by decide))

def joinRequestId (sequence : UInt64) : RequestId := ⟨joinName sequence, valid_joinName sequence⟩

theorem joinRequestId_injective {m n : UInt64} (h : joinRequestId m = joinRequestId n) : m = n := by
  have hname : joinName m = joinName n := congrArg Identifier.value h
  have hrepr : m.toNat.repr = n.toNat.repr := by
    simpa [joinName, ← String.toList_inj] using congrArg String.toList hname
  exact UInt64.toNat_inj.mp (Nat.repr_injective hrepr)

namespace PendingJoinProjection

variable (projection : PendingJoinProjection)

/-- The invite code of a request is the one of the draft. -/
def inviteCodeValid (draft : HostDraft) (inviteCode : Option String) : Bool :=
  draft.approvalMode ≠ .inviteCode ||
    match draft.inviteCode, inviteCode with
    | some expected, some provided => expected ≠ "" && expected == provided
    | _, _ => false

variable (request : JoinRequest)

/-- The request for the actor, under the next name. The policy is that of the draft, which the
advertisement must still agree with. -/
def summarize (receivedAt : MonotonicMillis)
    (advertisement : SessionAdvertisement) (draft : HostDraft) :
    Except DesktopNetworkError JoinRequestSummary := do
  rejectIf (advertisement.approvalMode ≠ draft.approvalMode)
    (.invalidState "advertised approval mode differs from authoritative host policy")
  (JoinRequestSummary.new (joinRequestId projection.nextSequence) request.device.deviceId
    request.device.displayName .sessionOnly (inviteCodeValid draft request.inviteCode)
    receivedAt).mapError fun error => .invalidArgument error.message

/-- Take the next name. -/
def takeSequence : PendingJoinProjection :=
  { projection with
    nextSequence :=
      if projection.nextSequence.toNat + 1 < 2 ^ 64 then projection.nextSequence + 1
      else projection.nextSequence }

/-- Remember a request. A current peer stays until the replacement is authorized. -/
def publish (requestId : RequestId) (controlAddress : SocketAddr) : PendingJoinProjection :=
  { projection with
    currentPeers :=
      if request.device.deviceId ∈ projection.currentPeers then projection.currentPeers
      else projection.currentPeers.insert request.device.deviceId controlAddress
    requests := projection.requests.insert request.device.deviceId
      { requestId
        controlAddress
        syncPort := request.syncPort
        audioPort := request.audioPort
        displayName := request.device.displayName } }

variable (deviceId : DeviceId)

/-- Forget a request that the actor did not take, with the peer that it has brought. -/
def withdraw (insertedOwner : Bool) : PendingJoinProjection :=
  { projection with
    requests := projection.requests.erase deviceId
    currentPeers :=
      if insertedOwner then projection.currentPeers.erase deviceId else projection.currentPeers }

/-- The result of `register`, and the request that the actor has taken. -/
structure Registered where
  result : Except DesktopNetworkError DeviceId
  projection : PendingJoinProjection
  submitted : Option JoinRequestSummary := none

variable (controlAddress : SocketAddr)

/-- Give a request to the actor, which may not take it. -/
def submitJoin (summary : JoinRequestSummary) (submission : Option String) : Registered :=
  let published := projection.publish request summary.requestId controlAddress
  match submission with
  | none =>
    { result := .ok request.device.deviceId, projection := published, submitted := some summary }
  | some text =>
    { result := .error (.invalidState text)
      projection := published.withdraw request.device.deviceId
        (decide (request.device.deviceId ∉ projection.currentPeers)) }

/-- A new request: read the draft, take a name and submit. -/
def registerNew (receivedAt : MonotonicMillis) (advertisement : SessionAdvertisement)
    (draft : Except String HostDraft) (submission : Option String) : Registered :=
  match draft with
  | .error text => { result := .error (.invalidState text), projection }
  | .ok draft =>
    match projection.summarize request receivedAt advertisement draft with
    | .error error => { result := .error error, projection := projection.takeSequence }
    | .ok summary =>
      projection.takeSequence.submitJoin request controlAddress summary submission

/-- A join frame. A repeated frame of the pending connection is no new request. -/
def register (receivedAt : MonotonicMillis)
    (advertisement : SessionAdvertisement) (draft : Except String HostDraft)
    (submission : Option String) : Registered :=
  match projection.requests.lookup request.device.deviceId with
  | some pending =>
    if pending.controlAddress = controlAddress then
      { result := .ok request.device.deviceId, projection }
    else
      { result := .error (.invalidState
          "a different TCP peer is already awaiting approval for this listener ID")
        projection }
  | none =>
    if projection.requests.entries.length ≥ maxPendingJoinRequests then
      { result := .error (.invalidState "desktop pending join capacity exhausted"), projection }
    else projection.registerNew request controlAddress receivedAt advertisement draft submission

def pendingRequestMatches (requestId : RequestId) : Bool :=
  (projection.requests.lookup deviceId).any fun pending => pending.requestId = requestId

def ownsPeer (address : SocketAddr) : Bool :=
  projection.currentPeers.lookup deviceId = some address

def pendingFromAnotherPeer : Bool :=
  (projection.requests.lookup deviceId).any fun pending => pending.controlAddress ≠ controlAddress

/-- The end of a connection: its pending request is forgotten, and it is no longer the current
peer, if it was. -/
def removeIfCurrent : Bool × PendingJoinProjection :=
  let retired : PendingJoinProjection :=
    { projection with
      requests :=
        if (projection.requests.lookup deviceId).any
            fun pending => pending.controlAddress = controlAddress then
          projection.requests.erase deviceId
        else projection.requests }
  if projection.ownsPeer deviceId controlAddress then
    (true, { retired with currentPeers := projection.currentPeers.erase deviceId })
  else (false, retired)

/-- Forget the pending request of a device. -/
def takePorts : PendingJoinProjection :=
  { projection with requests := projection.requests.erase deviceId }

def markAuthorized : PendingJoinProjection :=
  { projection with currentPeers := projection.currentPeers.insert deviceId controlAddress }

end PendingJoinProjection

end Desktop

end SilentDisco
