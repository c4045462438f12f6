import SilentDisco.Library.Wire
import SilentDisco.Protocol.Types

/-!
# Frame encoding and decoding

The encoder appends fields to an output and checks them as it goes; the decoder moves a cursor
over the received bytes and checks what it reads. Sizes fit the 64-bit `usize`, so the checked
additions on them cannot overflow.

## Main definitions

* `validateText`, `validateAudioParameters`, `crc32`: the checks both sides share
* `putString`, `putOptionalString`, … and `readString`, `readOptionalString`, …: fields
* `encodeControl`, `encodeSyncRequest`, `encodeSyncResponse`, `encodeAudio`, `encodeFrame`
* `decodeControl`, `decodeSyncRequest`, `decodeSyncResponse`, `decodeAudio`, `decodeHeader`,
  `decodeFrame`
-/

namespace SilentDisco.Protocol

open Result Wire

inductive ProtocolError
  | truncated
  | trailingBytes
  | invalidMagic
  | unsupportedVersion (version : UInt16)
  | unsupportedMessageKind (kind : UInt16)
  | unsupportedFlags (flags : UInt16)
  | invalidHeaderLength (length : UInt16)
  | payloadTooLarge (actual maximum : ℕ)
  | lengthMismatch (declared actual : ℕ)
  | invalidBoolean (value : UInt8)
  | invalidUtf8
  | invalidIdentifier
  | invalidField (field : String)
  | unsupportedAudioCodec (codec : UInt8)
  | integrityMismatch
  deriving DecidableEq

abbrev Encoder := Wire.Writer ProtocolError Unit
abbrev Decoder (α : Type) := Wire.Reader ProtocolError α

/-! ## Shared checks -/

/-- Bounded, unpadded text without control characters; a secret also has no whitespace. -/
def validateText (field value : String) (maximum : ℕ) (secret : Bool) : Except ProtocolError Unit :=
  if trim value = "" ∨ trim value ≠ value ∨ value.utf8ByteSize > maximum then
    .error (.invalidField field)
  else if value.toList.any SilentDisco.isControl then .error (.invalidField field)
  else if secret ∧ value.toList.any isWhitespace then .error (.invalidField field)
  else .ok ()

/-- The audio geometry: the payload holds two bytes for each sample of each channel. -/
def validateAudioParameters (audio : AudioDatagram) : Except ProtocolError Unit :=
  if ¬(8000 ≤ audio.sampleRate ∧ audio.sampleRate ≤ 384000) then
    .error (.invalidField "sample_rate")
  else if ¬(1 ≤ audio.channels ∧ audio.channels ≤ 8) then .error (.invalidField "channels")
  else if audio.samplesPerPacket = 0 then .error (.invalidField "samples_per_packet")
  else
    -- at most `2 ^ 32 * 8 * 2`: the checked products do not overflow
    let expected := audio.samplesPerPacket.toNat * audio.channels.toNat * 2
    if expected ≠ audio.payload.length then
      .error (.lengthMismatch expected audio.payload.length)
    else .ok ()

/-- One bit of the checksum. -/
def crc32Bit (crc : UInt32) : UInt32 :=
  let mask := 0 - (crc &&& 1)
  (crc >>> 1) ^^^ (0xedb88320 &&& mask)

/-- One byte of the checksum. -/
def crc32Byte (crc : UInt32) (byte : UInt8) : UInt32 :=
  Nat.iterate crc32Bit 8 (crc ^^^ byte.toUInt32)

/-- The checksum of an audio payload. -/
def crc32 (bytes : List UInt8) : UInt32 :=
  ~~~(bytes.foldl crc32Byte 0xffffffff)

/-! ## Encoding fields -/

def putU8 (value : UInt8) : Encoder := putBytes (bigEndian 1 value.toNat)
def putU16 (value : UInt16) : Encoder := putBytes (bigEndian 2 value.toNat)
def putU32 (value : UInt32) : Encoder := putBytes (bigEndian 4 value.toNat)
def putU64 (value : UInt64) : Encoder := putBytes (bigEndian 8 value.toNat)
def putF64 (value : F64) : Encoder := putU64 value.bits
def putBool (value : Bool) : Encoder := putU8 (if value then 1 else 0)

variable (field : String) (maximum : ℕ) (secret : Bool)

def putString (value : String) : Encoder := do
  ofResult (validateText field value maximum secret)
  ofResult (check (value.utf8ByteSize < 2 ^ 16) (.invalidField field))
  putU16 (UInt16.ofNat value.utf8ByteSize)
  putBytes (asBytes value)

def putOptionalString :
    Option String → Encoder
  | some value => do
    putU8 1
    putString field maximum secret value
  | none => putU8 0

def putSessionId (value : SessionId) : Encoder :=
  putString "session_id" maxIdentifierBytes false value.value

def putStreamId (value : StreamId) : Encoder :=
  putString "stream_id" maxIdentifierBytes false value.value

def putDeviceId (value : DeviceId) : Encoder :=
  putString "device_id" maxIdentifierBytes false value.value

def putConfidence (value : SyncConfidence) : Encoder :=
  putString "confidence" maxSyncConfidenceWireNameBytes false value.wireName

/-! ## Encoding messages -/

def putControl : ControlMessage → Encoder
  | .hello value => do
    putSessionId value.sessionId
    putString "session_name" maxSessionNameBytes false value.sessionName
    putString "host_name" maxDisplayNameBytes false value.hostName
    putBool value.approvalRequired
  | .joinRequest value => do
    putSessionId value.sessionId
    putDeviceId value.device.deviceId
    putString "display_name" maxDisplayNameBytes false value.device.displayName
    putOptionalString "invite_code" maxInviteCodeBytes true value.inviteCode
    putU16 value.syncPort
    putU16 value.audioPort
  | .joinApproval value => do
    putSessionId value.sessionId
    putDeviceId value.listenerId
    putBool value.trustedForFuture
  | .joinRejection value => do
    putSessionId value.sessionId
    putDeviceId value.listenerId
    putString "reason" maxReasonBytes false value.reason
  | .heartbeat value => do
    putSessionId value.sessionId
    putDeviceId value.listenerId
    putU64 value.sentAtElapsedMs.get
  | .streamStart value => do
    putSessionId value.sessionId
    putStreamId value.streamId
    putU64 value.hostStartTimeMs.get
    putU32 value.sampleRate
    putU16 value.channels
    putU32 value.samplesPerPacket
    putOptionalString "current_entry_id" maxIdentifierBytes false value.currentEntryId
    putOptionalString "current_display_name" maxDisplayNameBytes false value.currentDisplayName
  | .trackBoundary value => do
    putSessionId value.sessionId
    putStreamId value.streamId
    putU64 value.firstSampleIndex.get
    putString "entry_id" maxIdentifierBytes false value.entryId
    putString "display_name" maxDisplayNameBytes false value.displayName
  | .pause value => do
    putSessionId value.sessionId
    putStreamId value.streamId
    putU64 value.hostPauseTimeMs.get
  | .stop value => do
    putSessionId value.sessionId
    putStreamId value.streamId
    putU64 value.hostStopTimeMs.get
  | .disconnect value => do
    putSessionId value.sessionId
    putDeviceId value.listenerId
    putString "reason" maxReasonBytes false value.reason
  | .resyncNotice value => do
    putSessionId value.sessionId
    putDeviceId value.listenerId
    putString "reason" maxReasonBytes false value.reason
  | .synchronizationReport value => do
    putSessionId value.sessionId
    putDeviceId value.listenerId
    putConfidence value.confidence
    putF64 value.offsetMs
    putF64 value.roundTripMs
    putF64 value.driftPpm

def encodeControl (message : ControlMessage) : Except ProtocolError (List UInt8) :=
  encode (putControl message)

def putSyncRequest (value : SyncRequest) : Encoder := do
  putSessionId value.sessionId
  putU64 value.correlationId
  putU64 value.t1ListenerSendElapsedMs.get

def encodeSyncRequest (value : SyncRequest) : Except ProtocolError (List UInt8) :=
  encode (putSyncRequest value)

/-- The host's two timestamps are in order. -/
def validateTimestampOrder (value : SyncResponse) : Except ProtocolError Unit :=
  if value.t3HostSendElapsedMs.get < value.t2HostReceiveElapsedMs.get then
    .error (.invalidField "host_timestamp_order")
  else .ok ()

def putSyncResponse (value : SyncResponse) : Encoder := do
  ofResult (validateTimestampOrder value)
  putSessionId value.sessionId
  putU64 value.correlationId
  putU64 value.t1ListenerSendElapsedMs.get
  putU64 value.t2HostReceiveElapsedMs.get
  putU64 value.t3HostSendElapsedMs.get

def encodeSyncResponse (value : SyncResponse) : Except ProtocolError (List UInt8) :=
  encode (putSyncResponse value)

variable (payload : List UInt8)

def putAudioPayload : Encoder := do
  ofResult (check (payload.length < 2 ^ 16) (.payloadTooLarge payload.length 65535))
  putU16 (UInt16.ofNat payload.length)
  putU32 (crc32 payload)
  putBytes payload

def putAudio (value : AudioDatagram) : Encoder := do
  ofResult (validateAudioParameters value)
  putSessionId value.sessionId
  putStreamId value.streamId
  putU64 value.sequence.get
  putU8 value.codec.code
  putU32 value.sampleRate
  putU16 value.channels
  putU32 value.samplesPerPacket
  putU64 value.firstSampleIndex.get
  putU64 value.hostPresentationTimeMs.get
  putAudioPayload value.payload

def encodeAudio (value : AudioDatagram) : Except ProtocolError (List UInt8) := do
  let encoded ← encode (putAudio value)
  let maximum := maxAudioDatagramBytes - frameHeaderBytes
  rejectIf (encoded.length > maximum) (.payloadTooLarge encoded.length maximum)
  return encoded

/-- The payload of a frame and its header flags. -/
def encodePayload : ProtocolFrame → Except ProtocolError (List UInt8 × UInt16)
  | .control message => (encodeControl message).map (·, 0)
  | .syncRequest value => (encodeSyncRequest value).map (·, 0)
  | .syncResponse value => (encodeSyncResponse value).map (·, 0)
  | .audio value => (encodeAudio value).map (·, flagPayloadIntegrity)

def putHeader (header : FrameHeader) : Encoder := do
  putBytes protocolMagic
  putU16 header.version
  putU16 header.kind.code
  putU16 header.flags
  putU16 header.headerLength
  putU32 header.payloadLength

/-- Encode one frame. -/
def encodeFrame (frame : ProtocolFrame) : Except ProtocolError (List UInt8) := do
  let kind := frame.kind
  let (payload, flags) ← encodePayload frame
  let maximum := kind.maximumPayloadBytes
  rejectIf (payload.length > maximum) (.payloadTooLarge payload.length maximum)
  check (payload.length < 2 ^ 32) (.payloadTooLarge payload.length maximum)
  let header := FrameHeader.new kind flags (UInt32.ofNat payload.length)
  encode do
    putHeader header
    putBytes payload

/-! ## Decoding fields -/

def takeBytes (length : ℕ) : Decoder (List UInt8) := take .truncated length

def readU8 : Decoder UInt8 := do
  let bytes ← takeBytes 1
  return UInt8.ofNat (ofBigEndian bytes)

def readU16 : Decoder UInt16 := do
  let bytes ← takeBytes 2
  return UInt16.ofNat (ofBigEndian bytes)

def readU32 : Decoder UInt32 := do
  let bytes ← takeBytes 4
  return UInt32.ofNat (ofBigEndian bytes)

def readU64 : Decoder UInt64 := do
  let bytes ← takeBytes 8
  return UInt64.ofNat (ofBigEndian bytes)

/-- The boolean a byte stands for. -/
def boolOfByte (value : UInt8) : Except ProtocolError Bool :=
  if value = 0 then .ok false
  else if value = 1 then .ok true
  else .error (.invalidBoolean value)

def readBool : Decoder Bool := do
  let value ← readU8
  ofResult (boolOfByte value)

def readF64 : Decoder F64 := do
  let bits ← readU64
  return ⟨bits⟩

/-- Decode and validate the bytes of a text field. -/
def textOfBytes (bytes : List UInt8) : Except ProtocolError String :=
  match fromUtf8 bytes with
  | none => .error .invalidUtf8
  | some value => (validateText field value maximum secret).map fun _ => value

def readString : Decoder String := do
  let length ← readU16
  ofResult (check (length.toNat ≤ maximum) (.payloadTooLarge length.toNat maximum))
  let bytes ← takeBytes length.toNat
  ofResult (textOfBytes field maximum secret bytes)

def readOptionalString : Decoder (Option String) := do
  let marker ← readU8
  if marker = 0 then return none
  else if marker = 1 then
    let value ← readString field maximum secret
    return some value
  else throw (.invalidBoolean marker)

/-- Validate an identifier that was read as text. -/
def identifierOfText (kind : IdentifierKind) (value : String) :
    Except ProtocolError (Identifier kind) :=
  (Identifier.new kind value).mapError fun _ => .invalidIdentifier

def readSessionId : Decoder SessionId := do
  let value ← readString "session_id" maxIdentifierBytes false
  ofResult (identifierOfText .session value)

def readStreamId : Decoder StreamId := do
  let value ← readString "stream_id" maxIdentifierBytes false
  ofResult (identifierOfText .stream value)

def readDeviceId : Decoder DeviceId := do
  let value ← readString "device_id" maxIdentifierBytes false
  ofResult (identifierOfText .device value)

/-- The confidence a wire name stands for. -/
def confidenceOfText (value : String) : Except ProtocolError SyncConfidence :=
  match SyncConfidence.fromWireName value with
  | some confidence => .ok confidence
  | none => .error (.invalidField "confidence")

def readConfidence : Decoder SyncConfidence := do
  let value ← readString "confidence" maxSyncConfidenceWireNameBytes false
  ofResult (confidenceOfText value)

/-! ## Decoding messages -/

def readStreamStart : Decoder StreamStart := do
  let sessionId ← readSessionId
  let streamId ← readStreamId
  let hostStartTimeMs ← readU64
  let sampleRate ← readU32
  let channels ← readU16
  let samplesPerPacket ← readU32
  let currentEntryId ← readOptionalString "current_entry_id" maxIdentifierBytes false
  let currentDisplayName ← readOptionalString "current_display_name" maxDisplayNameBytes false
  return {
    sessionId, streamId, hostStartTimeMs := ⟨hostStartTimeMs⟩, sampleRate, channels,
    samplesPerPacket, currentEntryId, currentDisplayName }

def readControl : MessageKind → Decoder ControlMessage
  | .hello => do
    let sessionId ← readSessionId
    let sessionName ← readString "session_name" maxSessionNameBytes false
    let hostName ← readString "host_name" maxDisplayNameBytes false
    let approvalRequired ← readBool
    return .hello { sessionId, sessionName, hostName, approvalRequired }
  | .joinRequest => do
    let sessionId ← readSessionId
    let deviceId ← readDeviceId
    let displayName ← readString "display_name" maxDisplayNameBytes false
    let inviteCode ← readOptionalString "invite_code" maxInviteCodeBytes true
    let syncPort ← readU16
    let audioPort ← readU16
    return .joinRequest
      { sessionId, device := { deviceId, displayName }, inviteCode, syncPort, audioPort }
  | .joinApproval => do
    let sessionId ← readSessionId
    let listenerId ← readDeviceId
    let trustedForFuture ← readBool
    return .joinApproval { sessionId, listenerId, trustedForFuture }
  | .joinRejection => do
    let sessionId ← readSessionId
    let listenerId ← readDeviceId
    let reason ← readString "reason" maxReasonBytes false
    return .joinRejection { sessionId, listenerId, reason }
  | .heartbeat => do
    let sessionId ← readSessionId
    let listenerId ← readDeviceId
    let sentAtElapsedMs ← readU64
    return .heartbeat { sessionId, listenerId, sentAtElapsedMs := ⟨sentAtElapsedMs⟩ }
  | .streamStart => do
    let value ← readStreamStart
    return .streamStart value
  | .trackBoundary => do
    let sessionId ← readSessionId
    let streamId ← readStreamId
    let firstSampleIndex ← readU64
    let entryId ← readString "entry_id" maxIdentifierBytes false
    let displayName ← readString "display_name" maxDisplayNameBytes false
    return .trackBoundary
      { sessionId, streamId, firstSampleIndex := ⟨firstSampleIndex⟩, entryId, displayName }
  | .pause => do
    let sessionId ← readSessionId
    let streamId ← readStreamId
    let hostPauseTimeMs ← readU64
    return .pause { sessionId, streamId, hostPauseTimeMs := ⟨hostPauseTimeMs⟩ }
  | .stop => do
    let sessionId ← readSessionId
    let streamId ← readStreamId
    let hostStopTimeMs ← readU64
    return .stop { sessionId, streamId, hostStopTimeMs := ⟨hostStopTimeMs⟩ }
  | .disconnect => do
    let sessionId ← readSessionId
    let listenerId ← readDeviceId
    let reason ← readString "reason" maxReasonBytes false
    return .disconnect { sessionId, listenerId, reason }
  | .resyncNotice => do
    let sessionId ← readSessionId
    let listenerId ← readDeviceId
    let reason ← readString "reason" maxReasonBytes false
    return .resyncNotice { sessionId, listenerId, reason }
  | .synchronizationReport => do
    let sessionId ← readSessionId
    let listenerId ← readDeviceId
    let confidence ← readConfidence
    let offsetMs ← readF64
    let roundTripMs ← readF64
    let driftPpm ← readF64
    return .synchronizationReport
      { sessionId, listenerId, confidence, offsetMs, roundTripMs, driftPpm }
  | kind => throw (.unsupportedMessageKind kind.code)

variable (kind : MessageKind)

def decodeControl (payload : List UInt8) : Except ProtocolError ControlMessage :=
  decode (readControl kind >>= fun message => finish .trailingBytes >>= fun _ => pure message)
    payload

def readSyncRequest : Decoder SyncRequest := do
  let sessionId ← readSessionId
  let correlationId ← readU64
  let t1ListenerSendElapsedMs ← readU64
  return { sessionId, correlationId, t1ListenerSendElapsedMs := ⟨t1ListenerSendElapsedMs⟩ }

def decodeSyncRequest : Except ProtocolError SyncRequest :=
  decode (readSyncRequest >>= fun value => finish .trailingBytes >>= fun _ => pure value) payload

def readSyncResponse : Decoder SyncResponse := do
  let sessionId ← readSessionId
  let correlationId ← readU64
  let t1 ← readU64
  let t2 ← readU64
  let t3 ← readU64
  return {
    sessionId, correlationId, t1ListenerSendElapsedMs := ⟨t1⟩,
    t2HostReceiveElapsedMs := ⟨t2⟩, t3HostSendElapsedMs := ⟨t3⟩ }

def decodeSyncResponse : Except ProtocolError SyncResponse :=
  decode
    ((readSyncResponse >>= fun value => finish .trailingBytes >>= fun _ => pure value) >>=
      fun value => ofResult (validateTimestampOrder value) >>= fun _ => pure value) payload

/-- The codec a code stands for. -/
def codecOfByte (code : UInt8) : Except ProtocolError AudioCodec :=
  match AudioCodec.tryFrom code with
  | some codec => .ok codec
  | none => .error (.unsupportedAudioCodec code)

def readCodec : Decoder AudioCodec := do
  let code ← readU8
  ofResult (codecOfByte code)

/-- The number of bytes after the cursor. -/
def remaining : Decoder ℕ := fun c => .ok (c.remaining, c)

/-- The length, the checksum and the bytes of an audio payload, up to the end of the input. -/
def readAudioPayload : Decoder (List UInt8) := do
  let length ← readU16
  let checksum ← readU32
  let rest ← remaining
  ofResult (check (length.toNat ≤ rest) (.lengthMismatch length.toNat rest))
  ofResult (check (rest ≤ length.toNat) .trailingBytes)
  let bytes ← takeBytes length.toNat
  ofResult (check (crc32 bytes = checksum) .integrityMismatch)
  finish .trailingBytes
  return bytes

def readAudio : Decoder AudioDatagram := do
  let sessionId ← readSessionId
  let streamId ← readStreamId
  let sequence ← readU64
  let codec ← readCodec
  let sampleRate ← readU32
  let channels ← readU16
  let samplesPerPacket ← readU32
  let firstSampleIndex ← readU64
  let hostPresentationTimeMs ← readU64
  let payload ← readAudioPayload
  return {
    sessionId, streamId, sequence := ⟨sequence⟩, codec, sampleRate, channels, samplesPerPacket,
    firstSampleIndex := ⟨firstSampleIndex⟩, hostPresentationTimeMs := ⟨hostPresentationTimeMs⟩,
    payload }

def decodeAudio : Except ProtocolError AudioDatagram :=
  decode (readAudio >>= fun value => ofResult (validateAudioParameters value) >>= fun _ =>
    pure value) payload

/-! ## Decoding frames -/

/-- The flags a frame of this kind carries. -/
def expectedFlags : UInt16 :=
  if kind = .audio then flagPayloadIntegrity else 0

/-- Only the integrity flag is known, and only audio frames carry it. -/
def checkFlags (flags : UInt16) : Except ProtocolError Unit :=
  if flags &&& ~~~supportedFrameFlags ≠ 0 then .error (.unsupportedFlags flags)
  else if flags ≠ expectedFlags kind then .error (.unsupportedFlags flags)
  else .ok ()

/-- The kind a code stands for. -/
def kindOfCode (code : UInt16) : Except ProtocolError MessageKind :=
  match MessageKind.tryFrom code with
  | some kind => .ok kind
  | none => .error (.unsupportedMessageKind code)

def readKind : Decoder MessageKind := do
  let kindCode ← readU16
  ofResult (kindOfCode kindCode)

def readHeader : Decoder FrameHeader := do
  let magic ← takeBytes protocolMagic.length
  ofResult (check (magic = protocolMagic) .invalidMagic)
  let version ← readU16
  ofResult (check (version = protocolVersion) (.unsupportedVersion version))
  let kind ← readKind
  let flags ← readU16
  ofResult (checkFlags kind flags)
  let headerLength ← readU16
  ofResult (check (headerLength.toNat = frameHeaderBytes) (.invalidHeaderLength headerLength))
  let payloadLength ← readU32
  return { version, kind, flags, headerLength, payloadLength }

/-- The declared payload length is within the limit of the kind. -/
def checkPayloadLength (header : FrameHeader) : Except ProtocolError Unit :=
  let maximum := header.kind.maximumPayloadBytes
  check (header.payloadLength.toNat ≤ maximum)
    (.payloadTooLarge header.payloadLength.toNat maximum)

/-- Validate and decode the header without looking at the payload. -/
def decodeHeader (bytes : List UInt8) : Except ProtocolError FrameHeader :=
  if bytes.length < frameHeaderBytes then .error .truncated
  else
    decode
      ((readHeader >>= fun header => finish .trailingBytes >>= fun _ => pure header) >>=
        fun header => ofResult (checkPayloadLength header) >>= fun _ => pure header)
      (bytes.take frameHeaderBytes)

/-- The payload decoder that the header's kind selects. -/
def decodePayload (payload : List UInt8) : Except ProtocolError ProtocolFrame :=
  if kind.isControl then (decodeControl kind payload).map .control
  else match kind with
    | .syncRequest => (decodeSyncRequest payload).map .syncRequest
    | .syncResponse => (decodeSyncResponse payload).map .syncResponse
    | .audio => (decodeAudio payload).map .audio
    | kind => .error (.unsupportedMessageKind kind.code)

/-- Decode exactly one complete frame. -/
def decodeFrame (bytes : List UInt8) : Except ProtocolError ProtocolFrame := do
  let header ← decodeHeader bytes
  let payloadLength := header.payloadLength.toNat
  let expectedTotal := frameHeaderBytes + payloadLength
  rejectIf (bytes.length < expectedTotal)
    (.lengthMismatch payloadLength (bytes.length - frameHeaderBytes))
  rejectIf (expectedTotal < bytes.length) .trailingBytes
  decodePayload header.kind ((bytes.take expectedTotal).drop frameHeaderBytes)

end SilentDisco.Protocol
