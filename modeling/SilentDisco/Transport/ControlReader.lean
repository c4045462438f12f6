import SilentDisco.Library.Framing
import SilentDisco.Library.Runs
import SilentDisco.Protocol.Codec

/-!
# The reader of a control connection

`read_control_loop` reads a control connection in chunks, collects them in a buffer and reports
the frames in it. It ends when the peer closes the connection, when something is rejected, when a
deadline passes, or when the callback or the stop flag say so. A turn of the loop has the readings
of the flags and clocks that it makes.

## Main definitions

* `ProtocolDecoder.decode`: a frame and the policy for it
* `scanControl`: what stands at the beginning of the buffer
* `ControlReader`: the loop's variables and what it has reported
* `ControlReader.turn`, `readControlLoop`: the loop
-/

namespace SilentDisco

open Protocol

namespace Protocol

/-- Four hexadecimal digits. -/
def hexWord (value : UInt16) : String :=
  let digits := Nat.toDigits 16 value.toNat
  .ofList (List.replicate (4 - digits.length) '0' ++ digits)

def ProtocolError.message : ProtocolError → String
  | .truncated => "protocol input is truncated"
  | .trailingBytes => "protocol input contains trailing bytes"
  | .invalidMagic => "protocol magic is invalid"
  | .unsupportedVersion version =>
    "protocol version " ++ toString version ++ " is unsupported"
  | .unsupportedMessageKind kind =>
    "protocol message kind " ++ toString kind ++ " is unsupported"
  | .unsupportedFlags flags => "protocol flags 0x" ++ hexWord flags ++ " are unsupported"
  | .invalidHeaderLength length =>
    "protocol header length " ++ toString length ++ " is invalid"
  | .payloadTooLarge actual maximum =>
    "protocol payload is " ++ toString actual ++ " bytes; maximum is " ++ toString maximum ++
      " bytes"
  | .lengthMismatch declared actual =>
    "protocol payload length declares " ++ toString declared ++ " bytes but " ++
      toString actual ++ " bytes are present"
  | .invalidBoolean value => "protocol boolean value " ++ toString value ++ " is invalid"
  | .invalidUtf8 => "protocol text is not valid UTF-8"
  | .invalidIdentifier => "protocol identifier is invalid"
  | .invalidField field => "protocol field " ++ field ++ " is invalid"
  | .unsupportedAudioCodec codec => "audio codec " ++ toString codec ++ " is unsupported"
  | .integrityMismatch => "audio payload integrity check failed"

/-- What a decoder accepts. -/
structure DecodePolicy where
  expectedSessionId : Option SessionId := none
  minimumAudioSequence : Option PacketSequence := none

/-- A frame that cannot be decoded, or that the policy excludes. -/
inductive DecodeError
  | protocol (error : ProtocolError)
  | unauthorizedSession
  | staleAudioSequence
  deriving DecidableEq

def DecodeError.message : DecodeError → String
  | .protocol error => error.message
  | .unauthorizedSession => "protocol frame belongs to an unauthorized session"
  | .staleAudioSequence => "audio frame sequence is stale"

/-- The sequence number of an audio datagram is before the policy's minimum. -/
def DecodePolicy.IsStale (policy : DecodePolicy) : ProtocolFrame → Prop
  | .audio audio => ∃ minimum ∈ policy.minimumAudioSequence, audio.sequence.get < minimum.get
  | _ => False

instance (policy : DecodePolicy) : (frame : ProtocolFrame) → Decidable (policy.IsStale frame)
  | .audio _ => inferInstanceAs (Decidable (∃ _ ∈ _, _))
  | .control _ | .syncRequest _ | .syncResponse _ => isFalse id

/-- Decode one complete frame and apply the policy. -/
def ProtocolDecoder.decode (bytes : List UInt8) (policy : DecodePolicy) :
    Except DecodeError ProtocolFrame := do
  let frame ← (decodeFrame bytes).mapError .protocol
  if ∃ expected ∈ policy.expectedSessionId, frame.sessionId ≠ expected then
    .error .unauthorizedSession
  else if policy.IsStale frame then .error .staleAudioSequence
  else .ok frame

end Protocol

namespace Transport

inductive TransportErrorKind
  | invalidConfiguration | bind | listen | connect | io | protocol | unauthorized | queueFull
  | timeout | peerNotFound | delivery | shuttingDown | workerPanicked
  deriving DecidableEq

inductive TransportChannel
  | control | synchronization | audio | runtime
  deriving DecidableEq

structure TransportError where
  kind : TransportErrorKind
  channel : TransportChannel
  message : String
  deriving DecidableEq

namespace TransportError

/-- An error of the operating system. -/
def io (kind : TransportErrorKind) (channel : TransportChannel) (context error : String) :
    TransportError :=
  ⟨kind, channel, context ++ ": " ++ error⟩

def protocol (channel : TransportChannel) (error : Protocol.DecodeError) : TransportError :=
  { kind := match error with
      | .unauthorizedSession => .unauthorized
      | _ => .protocol
    channel
    message := error.message }

end TransportError

def maxControlFrameBytes : ℕ := frameHeaderBytes + maxControlPayloadBytes

/-- The most that is read at once. -/
def controlChunkBytes : ℕ := 8192

/-! ## The beginning of the buffer -/

/-- What stands at the beginning of the buffer. -/
def scanControl (expectedSession : SessionId) (buffer : List UInt8) :
    Scan ProtocolFrame TransportError :=
  if buffer.length < frameHeaderBytes then .incomplete
  else
    match decodeHeader (buffer.take frameHeaderBytes) with
    | .error error => .rejected (.protocol .control (.protocol error))
    | .ok header =>
      if header.kind.isControl = false then
        .rejected ⟨.protocol, .control,
          "non-control protocol frame received on TCP control channel"⟩
      else
        let total := frameHeaderBytes + header.payloadLength.toNat
        if buffer.length < total then .incomplete
        else
          match ProtocolDecoder.decode (buffer.take total)
            { expectedSessionId := some expectedSession } with
          | .ok frame => .frame frame total
          | .error error => .rejected (.protocol .control error)

/-! ## The loop -/

inductive ReadControlOutcome
  /-- A frame and its size. -/
  | frame (frame : ProtocolFrame) (size : ℕ)
  | closed
  | rejected (error : TransportError)
  deriving DecidableEq

/-- What a read returns. -/
inductive SocketRead
  /-- Some bytes, or none at the end of the stream. -/
  | data (bytes : List UInt8)
  /-- The read timeout has passed. -/
  | waited
  | failed (error : String)
  deriving DecidableEq

/-- What one turn of the loop meets. -/
structure ReadTurn where
  stopped : Bool := false
  /-- The peer has not joined, and the deadline for it has passed. -/
  admissionExpired : Bool := false
  /-- The deadline of a frame that was started has passed. -/
  frameExpired : Bool := false
  read : SocketRead
  /-- The same deadlines after the read. -/
  admissionExpiredAfterRead : Bool := false
  frameExpiredAfterRead : Bool := false
  /-- The peer has still not joined in time, after a number of outcomes. -/
  admissionExpiredAt : ℕ → Bool := fun _ => false

structure ControlReader where
  buffer : List UInt8 := []
  /-- The time of the first byte of a frame is noted. -/
  frameStarted : Bool := false
  reported : List ReadControlOutcome := []
  running : Bool := true

namespace ControlReader

variable (r : ControlReader)

def report (outcome : ReadControlOutcome) : ControlReader :=
  { r with reported := r.reported ++ [outcome] }

/-- Report that something was rejected, and end the loop. -/
def reject (error : TransportError) : ControlReader :=
  { r.report (.rejected error) with running := false }

def timeout (message : String) : ControlReader := r.reject ⟨.timeout, .control, message⟩

/-- Report a frame and remove it from the buffer. The loop ends if the callback says so. -/
def deliver (onOutcome : List ReadControlOutcome → Bool) (frame : ProtocolFrame) (size : ℕ) :
    ControlReader :=
  let delivered := { r.report (.frame frame size) with buffer := r.buffer.drop size }
  if onOutcome delivered.reported then
    { delivered with frameStarted := decide (delivered.buffer ≠ []) }
  else { delivered with running := false }

/-- What a round of the loop does with what stands at the beginning of the buffer. -/
def handle (onOutcome : List ReadControlOutcome → Bool) :
    Scan ProtocolFrame TransportError → Option ControlReader
  | .incomplete => none
  | .rejected error => some (r.reject error)
  | .frame frame size => some (r.deliver onOutcome frame size)

variable (expectedSession : SessionId)

/-- A round of the loop over the buffer. -/
def nextFrame (onOutcome : List ReadControlOutcome → Bool)
    (turn : ReadTurn) : Option ControlReader :=
  if r.running = false then none
  else if turn.admissionExpiredAt r.reported.length then
    some (r.timeout "TCP peer exceeded the admission deadline while frames were buffered")
  else r.handle onOutcome (scanControl expectedSession r.buffer)

/-- Take a chunk that was read. Every round removes a frame or ends the loop. -/
def take (onOutcome : List ReadControlOutcome → Bool)
    (turn : ReadTurn) (chunk : List UInt8) : ControlReader :=
  let taken :=
    { r with
      buffer := r.buffer ++ chunk
      frameStarted := r.frameStarted || decide (r.buffer = []) }
  if turn.admissionExpiredAfterRead then
    r.timeout "TCP peer completed its pre-join read after the admission deadline"
  else if r.buffer.length + chunk.length > maxControlFrameBytes then
    r.reject ⟨.protocol, .control, "control receive buffer exceeded the maximum frame size"⟩
  else if taken.frameStarted && turn.frameExpiredAfterRead then
    taken.timeout "TCP peer completed a control frame after the frame deadline"
  else loop (fun r => r.nextFrame expectedSession onOutcome turn) (taken.buffer.length + 1) taken

/-- The peer has closed the connection. -/
def close : ControlReader :=
  if r.buffer = [] then { r.report .closed with running := false }
  else r.reject ⟨.protocol, .control, "control connection closed with a truncated frame"⟩

/-- What a turn does with what was read. -/
def receive (onOutcome : List ReadControlOutcome → Bool)
    (turn : ReadTurn) : SocketRead → ControlReader
  | .data [] => r.close
  | .data (byte :: chunk) => r.take expectedSession onOutcome turn (byte :: chunk)
  | .waited => r
  | .failed error => r.reject (.io .io .control "failed to read control connection" error)

/-- One turn of the loop. -/
def turn (expectedSession : SessionId) (onOutcome : List ReadControlOutcome → Bool)
    (turn : ReadTurn) : ControlReader :=
  if r.running = false then r
  else if turn.stopped then { r with running := false }
  else if turn.admissionExpired then
    r.timeout "TCP peer did not submit a join request before the admission deadline"
  else if r.frameStarted && turn.frameExpired then
    r.timeout "TCP peer did not complete a control frame before the frame deadline"
  else r.receive expectedSession onOutcome turn turn.read

/-- Setting the read timeout comes first. -/
def start : Except String Unit → ControlReader
  | .ok () => {}
  | .error error =>
    reject {} (.io .io .control "failed to set control read timeout" error)

end ControlReader

/-- Read a control connection. The callback's answer may depend on all that was reported. -/
def readControlLoop (expectedSession : SessionId) (onOutcome : List ReadControlOutcome → Bool)
    (timeoutSet : Except String Unit) (turns : List ReadTurn) : ControlReader :=
  turns.foldl (fun r turn => r.turn expectedSession onOutcome turn) (.start timeoutSet)

end Transport

end SilentDisco
