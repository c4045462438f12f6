import SilentDisco.Domain.Settings
import SilentDisco.Domain.Identifiers

/-!
# Protocol messages

The frames of the wire protocol: twelve control messages, the two clock-synchronization
messages and the audio datagram, with the codes and limits of the framing header.

## Main definitions

* `MessageKind`: the message kinds, with `code`, `tryFrom`, `isControl`, `maximumPayloadBytes`
* `ControlMessage`, `SyncRequest`, `SyncResponse`, `AudioDatagram`: the messages
* `ProtocolFrame`: one frame of the protocol
-/

namespace SilentDisco.Protocol

/-- The magic bytes `SDP2`. -/
def protocolMagic : List UInt8 := [0x53, 0x44, 0x50, 0x32]
def protocolVersion : UInt16 := 3
def frameHeaderBytes : ℕ := 16
def frameHeaderLength : UInt16 := 16
def maxControlPayloadBytes : ℕ := 64 * 1024
def maxAudioDatagramBytes : ℕ := 4 * 1024
def maxProtocolStringBytes : ℕ := 256
def maxSessionNameBytes : ℕ := 128
def maxDisplayNameBytes : ℕ := 128
def maxInviteCodeBytes : ℕ := 64
def maxReasonBytes : ℕ := 256
def maxSyncConfidenceWireNameBytes : ℕ := 32
def flagPayloadIntegrity : UInt16 := 0x0001
def supportedFrameFlags : UInt16 := flagPayloadIntegrity

inductive MessageKind
  | hello | joinRequest | joinApproval | joinRejection | heartbeat | streamStart | pause | stop
  | disconnect | resyncNotice | synchronizationReport | trackBoundary | syncRequest
  | syncResponse | audio
  deriving DecidableEq

def MessageKind.code : MessageKind → UInt16
  | .hello => 1
  | .joinRequest => 2
  | .joinApproval => 3
  | .joinRejection => 4
  | .heartbeat => 5
  | .streamStart => 6
  | .pause => 7
  | .stop => 8
  | .disconnect => 9
  | .resyncNotice => 10
  | .synchronizationReport => 11
  | .trackBoundary => 12
  | .syncRequest => 100
  | .syncResponse => 101
  | .audio => 200

/-- The kind a code stands for. -/
def MessageKind.tryFrom (code : UInt16) : Option MessageKind :=
  match code.toNat with
  | 1 => some .hello
  | 2 => some .joinRequest
  | 3 => some .joinApproval
  | 4 => some .joinRejection
  | 5 => some .heartbeat
  | 6 => some .streamStart
  | 7 => some .pause
  | 8 => some .stop
  | 9 => some .disconnect
  | 10 => some .resyncNotice
  | 11 => some .synchronizationReport
  | 12 => some .trackBoundary
  | 100 => some .syncRequest
  | 101 => some .syncResponse
  | 200 => some .audio
  | _ => none

theorem MessageKind.tryFrom_eq_some {code : UInt16} {kind : MessageKind} :
    tryFrom code = some kind ↔ code = kind.code := by
  constructor
  · intro h
    apply UInt16.toNat_inj.mp
    unfold tryFrom at h
    split at h <;> cases h <;> assumption
  · rintro rfl
    cases kind <;> rfl

/-- Whether the kind is one of the control messages. -/
def MessageKind.isControl : MessageKind → Bool
  | .syncRequest | .syncResponse | .audio => false
  | _ => true

def MessageKind.maximumPayloadBytes : MessageKind → ℕ
  | .audio => maxAudioDatagramBytes - frameHeaderBytes
  | _ => maxControlPayloadBytes

structure FrameHeader where
  version : UInt16
  kind : MessageKind
  flags : UInt16
  headerLength : UInt16
  payloadLength : UInt32
  deriving DecidableEq

def FrameHeader.new (kind : MessageKind) (flags : UInt16) (payloadLength : UInt32) : FrameHeader :=
  { version := protocolVersion, kind, flags, headerLength := frameHeaderLength, payloadLength }

structure DeviceIdentity where
  deviceId : DeviceId
  displayName : String
  deriving DecidableEq

structure Hello where
  sessionId : SessionId
  sessionName : String
  hostName : String
  approvalRequired : Bool
  deriving DecidableEq

structure JoinRequest where
  sessionId : SessionId
  device : DeviceIdentity
  inviteCode : Option String
  syncPort : UInt16
  audioPort : UInt16
  deriving DecidableEq

structure JoinApproval where
  sessionId : SessionId
  listenerId : DeviceId
  trustedForFuture : Bool
  deriving DecidableEq

structure JoinRejection where
  sessionId : SessionId
  listenerId : DeviceId
  reason : String
  deriving DecidableEq

structure Heartbeat where
  sessionId : SessionId
  listenerId : DeviceId
  sentAtElapsedMs : MonotonicMillis
  deriving DecidableEq

structure StreamStart where
  sessionId : SessionId
  streamId : StreamId
  hostStartTimeMs : MonotonicMillis
  sampleRate : UInt32
  channels : UInt16
  samplesPerPacket : UInt32
  currentEntryId : Option String
  currentDisplayName : Option String
  deriving DecidableEq

/-- The next queue entry, at a future position of the running timeline. -/
structure TrackBoundary where
  sessionId : SessionId
  streamId : StreamId
  firstSampleIndex : SampleIndex
  entryId : String
  displayName : String
  deriving DecidableEq

structure Pause where
  sessionId : SessionId
  streamId : StreamId
  hostPauseTimeMs : MonotonicMillis
  deriving DecidableEq

structure Stop where
  sessionId : SessionId
  streamId : StreamId
  hostStopTimeMs : MonotonicMillis
  deriving DecidableEq

structure Disconnect where
  sessionId : SessionId
  listenerId : DeviceId
  reason : String
  deriving DecidableEq

structure ResyncNotice where
  sessionId : SessionId
  listenerId : DeviceId
  reason : String
  deriving DecidableEq

/-- A listener's report of its own synchronization quality. -/
structure SynchronizationReport where
  sessionId : SessionId
  listenerId : DeviceId
  confidence : SyncConfidence
  offsetMs : F64
  roundTripMs : F64
  driftPpm : F64
  deriving DecidableEq

inductive ControlMessage
  | hello (value : Hello)
  | joinRequest (value : JoinRequest)
  | joinApproval (value : JoinApproval)
  | joinRejection (value : JoinRejection)
  | heartbeat (value : Heartbeat)
  | streamStart (value : StreamStart)
  | trackBoundary (value : TrackBoundary)
  | pause (value : Pause)
  | stop (value : Stop)
  | disconnect (value : Disconnect)
  | resyncNotice (value : ResyncNotice)
  | synchronizationReport (value : SynchronizationReport)
  deriving DecidableEq

def ControlMessage.kind : ControlMessage → MessageKind
  | .hello _ => .hello
  | .joinRequest _ => .joinRequest
  | .joinApproval _ => .joinApproval
  | .joinRejection _ => .joinRejection
  | .heartbeat _ => .heartbeat
  | .streamStart _ => .streamStart
  | .trackBoundary _ => .trackBoundary
  | .pause _ => .pause
  | .stop _ => .stop
  | .disconnect _ => .disconnect
  | .resyncNotice _ => .resyncNotice
  | .synchronizationReport _ => .synchronizationReport

def ControlMessage.sessionId : ControlMessage → SessionId
  | .hello value => value.sessionId
  | .joinRequest value => value.sessionId
  | .joinApproval value => value.sessionId
  | .joinRejection value => value.sessionId
  | .heartbeat value => value.sessionId
  | .streamStart value => value.sessionId
  | .trackBoundary value => value.sessionId
  | .pause value => value.sessionId
  | .stop value => value.sessionId
  | .disconnect value => value.sessionId
  | .resyncNotice value => value.sessionId
  | .synchronizationReport value => value.sessionId

structure SyncRequest where
  sessionId : SessionId
  correlationId : UInt64
  t1ListenerSendElapsedMs : MonotonicMillis
  deriving DecidableEq

structure SyncResponse where
  sessionId : SessionId
  correlationId : UInt64
  t1ListenerSendElapsedMs : MonotonicMillis
  t2HostReceiveElapsedMs : MonotonicMillis
  t3HostSendElapsedMs : MonotonicMillis
  deriving DecidableEq

inductive AudioCodec
  | pcmS16Le
  deriving DecidableEq

def AudioCodec.code : AudioCodec → UInt8
  | .pcmS16Le => 1

/-- The codec a code stands for. -/
def AudioCodec.tryFrom (code : UInt8) : Option AudioCodec :=
  if code = 1 then some .pcmS16Le else none

theorem AudioCodec.tryFrom_eq_some {code : UInt8} {codec : AudioCodec} :
    tryFrom code = some codec ↔ code = codec.code := by
  cases codec
  simp [tryFrom, AudioCodec.code]

structure AudioDatagram where
  sessionId : SessionId
  streamId : StreamId
  sequence : PacketSequence
  codec : AudioCodec
  sampleRate : UInt32
  channels : UInt16
  samplesPerPacket : UInt32
  firstSampleIndex : SampleIndex
  hostPresentationTimeMs : MonotonicMillis
  payload : List UInt8
  deriving DecidableEq

inductive ProtocolFrame
  | control (message : ControlMessage)
  | syncRequest (message : SyncRequest)
  | syncResponse (message : SyncResponse)
  | audio (message : AudioDatagram)
  deriving DecidableEq

def ProtocolFrame.isAudio : ProtocolFrame → Bool
  | .audio _ => true
  | _ => false

def ProtocolFrame.kind : ProtocolFrame → MessageKind
  | .control message => message.kind
  | .syncRequest _ => .syncRequest
  | .syncResponse _ => .syncResponse
  | .audio _ => .audio

def ProtocolFrame.sessionId : ProtocolFrame → SessionId
  | .control message => message.sessionId
  | .syncRequest message => message.sessionId
  | .syncResponse message => message.sessionId
  | .audio message => message.sessionId

end SilentDisco.Protocol
