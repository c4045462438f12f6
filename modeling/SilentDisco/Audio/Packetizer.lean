import SilentDisco.Domain.Identifiers
import SilentDisco.Library.Result
import SilentDisco.Protocol.Types

/-!
# Packetizer

The incremental transform from decoded chunks to audio datagrams of one width. Samples that do
not fill a packet are carried to the next chunk; the last packet of a stream is padded with
silence.

## Main definitions

* `AudioFormat`, `DecodedPcmChunk`, `DecodeError`: what a decoder hands over
* `Packetizer`: the packet geometry, which is never empty, the carried samples and the cursors
* `Packetizer.new`: construction, with the bound on the datagram's size
* `Packetizer.pushChunk`, `Packetizer.pushContiguousChunk`: one chunk at its own position, or at
  the end of the timeline
-/

namespace SilentDisco

open Result Protocol

/-! ## Decoded audio -/

inductive AudioSampleFormat
  | pcmS16Le
  deriving DecidableEq

structure AudioFormat where
  sampleRateHz : UInt32
  channels : UInt16
  sampleFormat : AudioSampleFormat
  deriving DecidableEq

/-- 48 kHz stereo PCM16. -/
def AudioFormat.canonical : AudioFormat := ⟨48000, 2, .pcmS16Le⟩

/-- Interleaved samples in one frame. -/
def AudioFormat.samplesPerFrame (format : AudioFormat) : ℕ := format.channels.toNat

/-- One chunk of a decoder; only the last one ends the stream. -/
structure DecodedPcmChunk where
  format : AudioFormat
  firstSampleIndex : SampleIndex
  frames : List Int16
  endOfStream : Bool
  deriving DecidableEq

def DecodedPcmChunk.frameCount (chunk : DecodedPcmChunk) : ℕ :=
  chunk.frames.length / chunk.format.samplesPerFrame

inductive DecodeErrorKind
  | invalidConfiguration | io | unsupportedFormat | corruptInput | invalidMetadata | emptySource
  | resourceLimit | formatChanged | cancelled | workerPanicked
  deriving DecidableEq

structure DecodeError where
  kind : DecodeErrorKind
  message : String
  deriving DecidableEq

/-! ## Packets -/

/-- The fields of an audio datagram that have a fixed width. -/
def fixedAudioDatagramFieldBytes : ℕ := 8 + 1 + 4 + 2 + 4 + 8 + 8 + 2 + 4

/-- The length of an identifier is written in two bytes. -/
def identifierLengthPrefixBytes : ℕ := 2

def defaultPacketDurationMs : UInt32 := 5
def minPacketDurationMs : UInt32 := 1
def maxPacketDurationMs : UInt32 := 1000

inductive PacketizerErrorKind
  | invalidConfiguration | formatMismatch | alreadyFinished
  deriving DecidableEq

structure PacketizerError where
  kind : PacketizerErrorKind
  message : String
  deriving DecidableEq

structure PacketizeOutcome where
  frames : List ProtocolFrame := []
  endOfStream : Bool := false
  deriving DecidableEq

/-- The largest values of the machine types. -/
def u32Max : ℕ := 2 ^ 32 - 1
def u64Max : ℕ := 2 ^ 64 - 1

/-- The packetizer of one stream. A packet holds at least one sample of at least one channel. -/
structure Packetizer where
  sessionId : SessionId
  streamId : StreamId
  format : AudioFormat
  samplesPerPacket : UInt32
  hostStartTimeMs : MonotonicMillis
  nextSequence : UInt64
  carry : List Int16
  carryFirstSampleIndex : Option UInt64
  contiguousSampleCursor : UInt64
  expectedChunkSampleIndex : Option UInt64
  finished : Bool
  channels_pos : 0 < format.samplesPerFrame
  samples_pos : 0 < samplesPerPacket.toNat
  deriving DecidableEq

namespace Packetizer

/-- Samples per packet, at most the largest 32-bit number. -/
def packetSamples (format : AudioFormat) (packetDurationMs : UInt32) : UInt32 :=
  .ofNat (min (format.sampleRateHz.toNat * packetDurationMs.toNat / 1000) u32Max)

/-- The size of a datagram's payload on the wire, without the frame header. -/
def encodedBytes (sessionId : SessionId) (streamId : StreamId) (payloadBytes : ℕ) : ℕ :=
  fixedAudioDatagramFieldBytes +
    (2 * identifierLengthPrefixBytes + sessionId.value.utf8ByteSize + streamId.value.utf8ByteSize) +
    payloadBytes

/-- The packetizer of a stream whose datagrams fit the wire. -/
def new (sessionId : SessionId) (streamId : StreamId) (format : AudioFormat)
    (packetDurationMs : UInt32) (hostStartTimeMs : MonotonicMillis) :
    Except PacketizerError Packetizer :=
  let samplesPerPacket := packetSamples format packetDurationMs
  let payloadBytes := samplesPerPacket.toNat * format.samplesPerFrame * 2
  let encoded := encodedBytes sessionId streamId payloadBytes
  let maximum := maxAudioDatagramBytes - frameHeaderBytes
  if ¬(minPacketDurationMs ≤ packetDurationMs ∧ packetDurationMs ≤ maxPacketDurationMs) then
    .error ⟨.invalidConfiguration, "packet duration is outside the supported range"⟩
  else if hchannels : format.samplesPerFrame = 0 then
    .error ⟨.invalidConfiguration, "packetizer format must have at least one audio channel"⟩
  else if hsamples : samplesPerPacket.toNat = 0 then
    .error ⟨.invalidConfiguration,
      "packet duration produces zero samples per packet at this sample rate"⟩
  else if payloadBytes > u64Max then
    .error ⟨.invalidConfiguration, "packet payload size exceeds addressable memory"⟩
  else if encoded > u64Max then
    .error ⟨.invalidConfiguration, "encoded packet size exceeds addressable memory"⟩
  else if encoded > maximum then
    .error ⟨.invalidConfiguration,
      "packet duration produces a " ++ toString encoded ++ "-byte datagram, exceeding the " ++
        toString maximum ++ "-byte bounded audio datagram limit"⟩
  else
    .ok
      { sessionId, streamId, format, samplesPerPacket, hostStartTimeMs
        nextSequence := 0
        carry := []
        carryFirstSampleIndex := none
        contiguousSampleCursor := 0
        expectedChunkSampleIndex := none
        finished := false
        channels_pos := Nat.pos_of_ne_zero hchannels
        samples_pos := Nat.pos_of_ne_zero hsamples }

variable (p : Packetizer)

/-- The announcement of the stream and its geometry. -/
def streamStart : StreamStart where
  sessionId := p.sessionId
  streamId := p.streamId
  hostStartTimeMs := p.hostStartTimeMs
  sampleRate := p.format.sampleRateHz
  channels := p.format.channels
  samplesPerPacket := p.samplesPerPacket
  currentEntryId := none
  currentDisplayName := none

/-- The first sample index of the next adjacent track. -/
def nextContiguousSampleIndex : UInt64 := p.contiguousSampleCursor

/-- Interleaved samples in one packet. -/
def samplesPerFullPacket : ℕ := p.samplesPerPacket.toNat * p.format.samplesPerFrame

theorem samplesPerFullPacket_pos : 0 < p.samplesPerFullPacket :=
  Nat.mul_pos p.samples_pos p.channels_pos

def validateChunk (chunk : DecodedPcmChunk) : Except PacketizerError Unit := do
  rejectIf (p.finished = true) (.mk .alreadyFinished
    "cannot push a chunk after end-of-stream was already emitted")
  rejectIf (chunk.format ≠ p.format) (.mk .formatMismatch
    "decoded chunk format no longer matches the packetizer's fixed format")
  check (p.format.samplesPerFrame ∣ chunk.frames.length) (.mk .invalidConfiguration
    "decoded PCM chunk does not contain complete interleaved sample frames")

/-- The little-endian bytes of a sample. -/
def sampleBytes (sample : Int16) : List UInt8 :=
  [sample.toUInt16.toUInt8, (sample.toUInt16 >>> 8).toUInt8]

/-- The presentation time of a packet, rounded to milliseconds of the emitted frames. -/
def presentationTimeMs (sequence : UInt64) : MonotonicMillis :=
  let rate := p.format.sampleRateHz.toNat
  let offset := (sequence.toNat * p.samplesPerPacket.toNat * 1000 + rate / 2) / rate
  ⟨.ofNat (min (p.hostStartTimeMs.get.toNat + min offset u64Max) u64Max)⟩

/-- The next datagram. -/
def buildDatagram (payloadSamples : List Int16) : ProtocolFrame × Packetizer :=
  (.audio
    { sessionId := p.sessionId
      streamId := p.streamId
      sequence := ⟨p.nextSequence⟩
      codec := .pcmS16Le
      sampleRate := p.format.sampleRateHz
      channels := p.format.channels
      samplesPerPacket := p.samplesPerPacket
      firstSampleIndex := ⟨p.carryFirstSampleIndex.getD 0⟩
      hostPresentationTimeMs := p.presentationTimeMs p.nextSequence
      payload := payloadSamples.flatMap sampleBytes },
    { p with nextSequence := p.nextSequence + 1 })

/-- Move the start of the carry by one packet. -/
def advanceCarryStart : Packetizer :=
  { p with
    carryFirstSampleIndex :=
      p.carryFirstSampleIndex.map (· + .ofNat p.samplesPerPacket.toNat) }

/-- The datagram of the first full packet of the carry, and the rest. -/
def drainPacket : ProtocolFrame × Packetizer :=
  let (frame, built) := p.buildDatagram (p.carry.take p.samplesPerFullPacket)
  (frame, { built with carry := p.carry.drop p.samplesPerFullPacket }.advanceCarryStart)

/-- The loop over the full packets of the carry. -/
def drainFull : ℕ → Packetizer → List ProtocolFrame × Packetizer
  | 0, p => ([], p)
  | fuel + 1, p =>
    if p.samplesPerFullPacket ≤ p.carry.length then
      let (frame, rest) := p.drainPacket
      let (frames, drained) := drainFull fuel rest
      (frame :: frames, drained)
    else ([], p)

/-- The last packet, padded with silence. -/
def finish : List ProtocolFrame × Packetizer :=
  if p.carry = [] then ([], { p with finished := true })
  else
    let padding := List.replicate (p.samplesPerFullPacket - p.carry.length) 0
    let (frame, built) :=
      { p with carry := [] }.buildDatagram ((p.carry ++ padding).take p.samplesPerFullPacket)
    ([frame], { built with finished := true })

/-- The end of a chunk: the last one of the stream also emits the last packet. -/
def endChunk (endOfStream : Bool) : List ProtocolFrame × Packetizer :=
  if endOfStream then p.finish else ([], p)

/-- The checks of a chunk; the result is the sample index after it. -/
def checkChunk (chunk : DecodedPcmChunk) : Except PacketizerError UInt64 := do
  p.validateChunk chunk
  let first := chunk.firstSampleIndex.get
  rejectIf (∃ next ∈ p.expectedChunkSampleIndex, first ≠ next) (.mk .invalidConfiguration
    "decoded PCM chunks have a gap or overlap in sample indices")
  rejectIf (chunk.frameCount > u64Max) (.mk .invalidConfiguration
    "decoded PCM chunk exceeds the sample timeline")
  rejectIf (first.toNat + chunk.frameCount > u64Max) (.mk .invalidConfiguration
    "decoded PCM chunk sample index overflowed")
  return .ofNat (first.toNat + chunk.frameCount)

/-- The packets that the chunk completes. -/
def consume (chunk : DecodedPcmChunk) (nextSampleIndex : UInt64) : PacketizeOutcome × Packetizer :=
  let extended :=
    { p with
      carry := p.carry ++ chunk.frames
      carryFirstSampleIndex :=
        if p.carry = [] then some chunk.firstSampleIndex.get else p.carryFirstSampleIndex }
  let (frames, drained) := drainFull extended.carry.length extended
  let (last, ended) := drained.endChunk chunk.endOfStream
  (⟨frames ++ last, chunk.endOfStream⟩,
    { ended with expectedChunkSampleIndex := some nextSampleIndex })

/-- Push a chunk at its own position. A refused chunk leaves the packetizer as it is. -/
def pushChunk (chunk : DecodedPcmChunk) : Except PacketizerError PacketizeOutcome × Packetizer :=
  match p.checkChunk chunk with
  | .error error => (.error error, p)
  | .ok next =>
    let (outcome, pushed) := p.consume chunk next
    (.ok outcome, pushed)

/-- The checks of a chunk on the timeline of the stream; the result is the cursor after it. -/
def checkContiguous (chunk : DecodedPcmChunk) : Except PacketizerError UInt64 := do
  p.validateChunk chunk
  rejectIf (chunk.frameCount > u64Max) (.mk .invalidConfiguration
    "decoded chunk frame count exceeds the stream timeline")
  rejectIf (p.contiguousSampleCursor.toNat + chunk.frameCount > u64Max) (.mk .invalidConfiguration
    "continuous stream sample index overflowed")
  return .ofNat (p.contiguousSampleCursor.toNat + chunk.frameCount)

/-- Push a chunk at the end of the timeline. -/
def pushContiguousChunk (chunk : DecodedPcmChunk) :
    Except PacketizerError PacketizeOutcome × Packetizer :=
  match p.checkContiguous chunk with
  | .error error => (.error error, p)
  | .ok nextCursor =>
    match p.pushChunk { chunk with firstSampleIndex := ⟨p.contiguousSampleCursor⟩ } with
    | (.error error, pushed) => (.error error, pushed)
    | (.ok outcome, pushed) => (.ok outcome, { pushed with contiguousSampleCursor := nextCursor })

/-! ### Only audio is emitted -/

/-- A datagram of the packetizer's stream that holds one packet. -/
def Builds (p : Packetizer) (packet : AudioDatagram) : Prop :=
  packet.sessionId = p.sessionId ∧ packet.streamId = p.streamId ∧
    packet.sampleRate = p.format.sampleRateHz ∧ packet.channels = p.format.channels ∧
    packet.samplesPerPacket = p.samplesPerPacket ∧
    packet.payload.length = p.samplesPerFullPacket * 2

/-- The frame is such a datagram. -/
def Emits (p : Packetizer) (frame : ProtocolFrame) : Prop :=
  ∃ packet, frame = .audio packet ∧ p.Builds packet

variable {p} in
theorem Emits.isAudio {frame : ProtocolFrame} (h : p.Emits frame) : frame.isAudio = true := by
  obtain ⟨packet, rfl, -⟩ := h
  rfl

theorem length_flatMap_sampleBytes (samples : List Int16) :
    (samples.flatMap sampleBytes).length = samples.length * 2 := by
  induction samples with
  | nil => rfl
  | cons sample samples ih =>
    rw [List.flatMap_cons, List.length_append, ih, List.length_cons, Nat.add_mul, Nat.add_comm]
    rfl

theorem buildDatagram_emits {payload : List Int16} (h : payload.length = p.samplesPerFullPacket) :
    p.Emits (p.buildDatagram payload).1 := by
  refine ⟨_, rfl, rfl, rfl, rfl, rfl, rfl, ?_⟩
  rw [← h]
  exact length_flatMap_sampleBytes payload

theorem drainFull_emits (fuel : ℕ) (p : Packetizer) :
    ∀ frame ∈ (drainFull fuel p).1, p.Emits frame := by
  induction fuel generalizing p with
  | zero => exact fun _ hmem => absurd hmem List.not_mem_nil
  | succ fuel ih =>
    unfold drainFull
    split_ifs with hfull
    · intro frame hmem
      rcases List.mem_cons.mp hmem with rfl | hmem
      · exact p.buildDatagram_emits (List.length_take_of_le hfull)
      · exact ih p.drainPacket.2 frame hmem
    · exact fun _ hmem => absurd hmem List.not_mem_nil

/-- The loop keeps the stream. -/
theorem drainFull_stream (fuel : ℕ) (p : Packetizer) (frame : ProtocolFrame) :
    (drainFull fuel p).2.Emits frame ↔ p.Emits frame := by
  induction fuel generalizing p with
  | zero => exact Iff.rfl
  | succ fuel ih =>
    unfold drainFull
    split_ifs
    · exact ih p.drainPacket.2
    · exact Iff.rfl

theorem finish_emits : ∀ frame ∈ p.finish.1, p.Emits frame := by
  unfold finish
  split_ifs
  · exact fun _ hmem => absurd hmem List.not_mem_nil
  · intro frame hmem
    obtain rfl := List.mem_singleton.mp hmem
    refine buildDatagram_emits (p := { p with carry := [] }) (List.length_take_of_le ?_)
    rw [List.length_append, List.length_replicate]
    exact le_add_tsub

theorem endChunk_emits (endOfStream : Bool) :
    ∀ frame ∈ (p.endChunk endOfStream).1, p.Emits frame := by
  unfold endChunk
  split_ifs
  · exact p.finish_emits
  · exact fun _ hmem => absurd hmem List.not_mem_nil

theorem consume_emits (chunk : DecodedPcmChunk) (nextSampleIndex : UInt64) :
    ∀ frame ∈ (p.consume chunk nextSampleIndex).1.frames, p.Emits frame := by
  let extended : Packetizer :=
    { p with
      carry := p.carry ++ chunk.frames
      carryFirstSampleIndex :=
        if p.carry = [] then some chunk.firstSampleIndex.get else p.carryFirstSampleIndex }
  intro frame hmem
  rcases List.mem_append.mp hmem with hmem | hmem
  · exact drainFull_emits _ extended frame hmem
  · refine (drainFull_stream extended.carry.length extended frame).mp ?_
    exact endChunk_emits _ chunk.endOfStream frame hmem

/-- A chunk keeps the stream. -/
theorem consume_stream (chunk : DecodedPcmChunk) (nextSampleIndex : UInt64)
    (frame : ProtocolFrame) : (p.consume chunk nextSampleIndex).2.Emits frame ↔ p.Emits frame := by
  have hended : ∀ q : Packetizer, (q.endChunk chunk.endOfStream).2.Emits frame ↔ q.Emits frame := by
    intro q
    unfold endChunk finish
    split_ifs
    · exact Iff.rfl
    · exact Iff.rfl
    · exact Iff.rfl
  exact (hended _).trans (drainFull_stream _ _ frame)

theorem pushChunk_stream (chunk : DecodedPcmChunk) (frame : ProtocolFrame) :
    (p.pushChunk chunk).2.Emits frame ↔ p.Emits frame := by
  unfold pushChunk
  split
  · exact Iff.rfl
  · next nextSampleIndex _ => exact p.consume_stream chunk nextSampleIndex frame

theorem pushContiguousChunk_stream (chunk : DecodedPcmChunk) (frame : ProtocolFrame) :
    (p.pushContiguousChunk chunk).2.Emits frame ↔ p.Emits frame := by
  unfold pushContiguousChunk
  split
  · exact Iff.rfl
  · have hpushed := p.pushChunk_stream
      { chunk with firstSampleIndex := ⟨p.contiguousSampleCursor⟩ } frame
    split
    · next hpush =>
      rw [hpush] at hpushed
      exact hpushed
    · next hpush =>
      rw [hpush] at hpushed
      exact hpushed

variable {p} {chunk : DecodedPcmChunk} {outcome : PacketizeOutcome} {pushed : Packetizer}

theorem pushChunk_emits (h : p.pushChunk chunk = (.ok outcome, pushed)) :
    ∀ frame ∈ outcome.frames, p.Emits frame := by
  unfold pushChunk at h
  split at h
  · cases h
  · next nextSampleIndex _ =>
    cases h
    exact consume_emits p chunk nextSampleIndex

/-- Every frame of an accepted chunk is a datagram of the stream. -/
theorem pushContiguousChunk_emits (h : p.pushContiguousChunk chunk = (.ok outcome, pushed)) :
    ∀ frame ∈ outcome.frames, p.Emits frame := by
  unfold pushContiguousChunk at h
  split at h
  · cases h
  · split at h
    · cases h
    · next hpush =>
      cases h
      exact pushChunk_emits hpush

theorem pushContiguousChunk_isAudio (h : p.pushContiguousChunk chunk = (.ok outcome, pushed)) :
    ∀ frame ∈ outcome.frames, frame.isAudio = true :=
  fun frame hmem => (pushContiguousChunk_emits h frame hmem).isAudio

end Packetizer

end SilentDisco
