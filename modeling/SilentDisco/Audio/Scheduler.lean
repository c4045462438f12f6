import SilentDisco.Audio.Concealment
import SilentDisco.Audio.JitterBuffer
import SilentDisco.Library.Runs

/-!
# Playback scheduler

The scheduler maps the packets of a jitter buffer onto the host's presentation timeline. A poll
releases at most one frame: the expected packet, or a concealed one in its place. A drain
releases all that is buffered.

Clock offsets are double-precision numbers. The scheduler remembers whether an addition of its
own has wrapped.

## Main definitions

* `SchedulerConfig`: identity, geometry and tuning of one stream
* `PlaybackScheduler`: the state, with a configuration within its bounds
* `PlaybackScheduler.pollWithReleaseHorizon`: one tick
* `PlaybackScheduler.discardAlreadyLateHead`: drop what can no longer be presented in time
* `PlaybackScheduler.drainRemaining`: release all that is buffered
* `playbackScheduler`: the machine of all calls
-/

namespace SilentDisco

open Result Protocol

/-! ## Configuration -/

def defaultStartupBufferTargetMs : UInt64 := 400
def defaultRebufferTargetMs : UInt64 := 400
def defaultLowWaterMs : UInt64 := 200
def defaultHighWaterMs : UInt64 := 700
def defaultHardResyncThresholdMs : Float := 120.0
def defaultConcealmentBridgeMs : UInt32 := 500
def defaultConcealmentSkipThresholdMs : UInt32 := 200
def defaultReorderWindowMs : UInt32 := 1280

/-- The packets that cover a duration, at least one. -/
def packetsSpanning (durationMs sampleRate samplesPerPacket : UInt32) : UInt32 :=
  if sampleRate = 0 ∨ samplesPerPacket = 0 then 1
  else
    let packets := durationMs.toNat * sampleRate.toNat / (samplesPerPacket.toNat * 1000)
    if packets = 0 then 1 else .ofNat (min packets u32Max)

structure SchedulerConfig where
  sessionId : SessionId
  streamId : StreamId
  sampleRate : UInt32
  hostStartTimeMs : UInt64
  firstSequence : UInt64
  samplesPerPacket : UInt32
  channels : UInt16
  startupBufferTargetMs : UInt64
  rebufferTargetMs : UInt64
  lowWaterMs : UInt64
  highWaterMs : UInt64
  hardResyncThresholdMs : Float
  maxConsecutiveConcealedPackets : UInt32
  concealmentRampMs : UInt32
  concealmentSkipThresholdPackets : UInt32
  maxReorderWindow : UInt32
  maxBufferedDurationMs : UInt64
  deriving DecidableEq

/-- The recommended tuning. -/
def SchedulerConfig.new (sessionId : SessionId) (streamId : StreamId) (sampleRate : UInt32)
    (hostStartTimeMs : UInt64) (samplesPerPacket : UInt32) (channels : UInt16) :
    SchedulerConfig where
  sessionId := sessionId
  streamId := streamId
  sampleRate := sampleRate
  hostStartTimeMs := hostStartTimeMs
  firstSequence := 0
  samplesPerPacket := samplesPerPacket
  channels := channels
  startupBufferTargetMs := defaultStartupBufferTargetMs
  rebufferTargetMs := defaultRebufferTargetMs
  lowWaterMs := defaultLowWaterMs
  highWaterMs := defaultHighWaterMs
  hardResyncThresholdMs := defaultHardResyncThresholdMs
  maxConsecutiveConcealedPackets :=
    packetsSpanning defaultConcealmentBridgeMs sampleRate samplesPerPacket
  concealmentRampMs := defaultConcealmentRampMs
  concealmentSkipThresholdPackets :=
    packetsSpanning defaultConcealmentSkipThresholdMs sampleRate samplesPerPacket
  maxReorderWindow := packetsSpanning defaultReorderWindowMs sampleRate samplesPerPacket
  maxBufferedDurationMs := defaultMaxBufferedDurationMs

inductive SchedulerConfigErrorKind
  | invalidPacketDuration | invalidSamplesPerPacket | invalidWaterMarks
  | invalidHardResyncThreshold | invalidJitterBufferBounds | invalidConcealmentBound
  | invalidConcealmentSkipThreshold | invalidConcealmentRamp
  deriving DecidableEq

structure SchedulerConfigError where
  kind : SchedulerConfigErrorKind
  message : String
  deriving DecidableEq

def validateSchedulerConfig (config : SchedulerConfig) : Except SchedulerConfigError Unit := do
  rejectIf (config.sampleRate = 0)
    (.mk .invalidPacketDuration "sample rate must be nonzero")
  rejectIf (config.samplesPerPacket = 0)
    (.mk .invalidSamplesPerPacket "samples per packet must be nonzero")
  rejectIf
    (config.samplesPerPacket.toNat * 1000 < minPacketDurationMs.toNat * config.sampleRate.toNat ∨
      config.samplesPerPacket.toNat * 1000 > maxPacketDurationMs.toNat * config.sampleRate.toNat)
    (.mk .invalidPacketDuration ("packet geometry of " ++ toString config.samplesPerPacket ++
      " frames at " ++ toString config.sampleRate ++ "Hz is outside the supported " ++
      toString minPacketDurationMs ++ "..=" ++ toString maxPacketDurationMs ++ "ms range"))
  rejectIf (config.lowWaterMs ≥ config.highWaterMs)
    (.mk .invalidWaterMarks ("low water of " ++ toString config.lowWaterMs ++
      "ms must be strictly less than high water of " ++ toString config.highWaterMs ++ "ms"))
  rejectIf (config.hardResyncThresholdMs ≤ 0.0)
    (.mk .invalidHardResyncThreshold "hard resync threshold must be positive")
  rejectIf (config.concealmentSkipThresholdPackets ≥ config.maxReorderWindow)
    (.mk .invalidConcealmentSkipThreshold ("concealment skip threshold of " ++
      toString config.concealmentSkipThresholdPackets ++ " packets must be smaller than the " ++
      toString config.maxReorderWindow ++ "-packet reorder window"))

/-- The ramp in frames, at least one. -/
def SchedulerConfig.rampFrames (config : SchedulerConfig) : UInt32 :=
  .ofNat (max (min (config.sampleRate.toNat * config.concealmentRampMs.toNat / 1000) u32Max) 1)

/-! ## State -/

inductive PlaybackPhase
  | buffering | playing | awaitingRebuffer | stopped
  deriving DecidableEq

inductive BufferHealth
  | low | normal | high
  deriving DecidableEq

/-- A frame to be rendered, real or concealed. -/
structure ScheduledFrame where
  sequence : UInt64
  firstSampleIndex : UInt64
  hostPresentationTimeMs : UInt64
  samples : List Int16
  concealed : Bool
  deriving DecidableEq

inductive SchedulerPoll
  | buffering (bufferedMs : ℕ)
  | frame (frame : ScheduledFrame) (bufferHealth : BufferHealth)
  | waiting (bufferHealth : BufferHealth)
  | awaitingRebuffer
  | stopped
  deriving DecidableEq

inductive OffsetUpdateOutcome
  | softCorrected | hardResyncRequired
  deriving DecidableEq

inductive BufferTargetProgress
  | accumulating | satisfied
  deriving DecidableEq

structure PlaybackScheduler where
  config : SchedulerConfig
  jitterBuffer : JitterBuffer
  concealment : ConcealmentPolicy
  state : PlaybackPhase
  offsetMs : Float
  rampFrames : ℕ
  /-- The next real frame does not continue the previous one. -/
  fadeInNextRealFrame : Bool
  /-- The values on which the last frame ended. -/
  lastEmittedTail : List Int16
  /-- There is silence before the next frame. -/
  resumeFromSilence : Bool
  hasPlayed : Bool
  bufferTargetProgress : BufferTargetProgress
  /-- An addition to a sequence number has wrapped. -/
  overflowed : Bool

/-- Round to the nearest number, away from zero when there are two, and saturate. -/
def roundToUInt64 (x : Float) : UInt64 :=
  let whole := x.toUInt64
  if whole ≠ .ofNat u64Max ∧ x - whole.toFloat ≥ 0.5 then whole + 1 else whole

/-- The local time of a host time. -/
def hostToLocalMs (hostTimeMs : UInt64) (offsetMs : Float) : UInt64 :=
  let localMs := hostTimeMs.toFloat - offsetMs
  if localMs ≤ 0.0 then 0 else roundToUInt64 localMs

/-- Little-endian samples; an odd byte at the end is ignored. -/
def decodePayloadSamples : List UInt8 → List Int16
  | low :: high :: payload =>
    (low.toUInt16 ||| high.toUInt16 <<< 8).toInt16 :: decodePayloadSamples payload
  | _ => []

namespace PlaybackScheduler

def new (config : SchedulerConfig) (initialOffsetMs : Float) :
    Except SchedulerConfigError PlaybackScheduler := do
  validateSchedulerConfig config
  let jitterBuffer ← (JitterBuffer.new
    { sessionId := config.sessionId
      streamId := config.streamId
      firstSequence := config.firstSequence
      maxReorderWindow := config.maxReorderWindow
      maxBufferedDurationMs := config.maxBufferedDurationMs }).mapError
    fun error => .mk .invalidJitterBufferBounds error.message
  rejectIf (config.rampFrames ≥ config.samplesPerPacket)
    (.mk .invalidConcealmentRamp ("concealment ramp of " ++ toString config.concealmentRampMs ++
      "ms is " ++ toString config.rampFrames ++ " frames, which must be shorter than the " ++
      toString config.samplesPerPacket ++ "-frame packet it shapes"))
  let concealment ← (ConcealmentPolicy.new config.maxConsecutiveConcealedPackets
    config.rampFrames).mapError fun error => .mk .invalidConcealmentBound error.message
  return {
    config, jitterBuffer, concealment
    state := .buffering
    offsetMs := initialOffsetMs
    rampFrames := config.rampFrames.toNat
    -- The first frame of a stream starts from silence.
    fadeInNextRealFrame := true
    lastEmittedTail := []
    resumeFromSilence := true
    hasPlayed := false
    bufferTargetProgress := .accumulating
    overflowed := false }

variable (s : PlaybackScheduler)

def channels : ℕ := s.config.channels.toNat

def isStopped : Bool := s.state = .stopped

def submitPacket (datagram : AudioDatagram) :
    Except JitterBufferRejection Unit × PlaybackScheduler :=
  let (result, jitterBuffer) := s.jitterBuffer.accept datagram
  (result, { s with jitterBuffer })

def bufferHealth : BufferHealth :=
  let span := s.jitterBuffer.bufferedSpanMs
  if span < s.config.lowWaterMs.toNat then .low
  else if span > s.config.highWaterMs.toNat then .high
  else .normal

/-- The host time of a place in the stream. -/
def expectedHostPresentationTimeMs (sequence : UInt64) : UInt64 :=
  let elapsedMs :=
    sequence.toNat * s.config.samplesPerPacket.toNat * 1000 / s.config.sampleRate.toNat
  .ofNat (saturatingAdd s.config.hostStartTimeMs.toNat (min elapsedMs u64Max))

def expectedFirstSampleIndex (sequence : UInt64) : UInt64 :=
  .ofNat (min (sequence.toNat * s.config.samplesPerPacket.toNat) u64Max)

def localTimeForHostMs (hostTimeMs : UInt64) : UInt64 := hostToLocalMs hostTimeMs s.offsetMs

/-- The local deadline of the expected place. -/
def deadlineMs : UInt64 :=
  s.localTimeForHostMs (s.expectedHostPresentationTimeMs s.jitterBuffer.nextExpectedSequence)

/-- Remember the values on which a frame ends. -/
def rememberEmittedTail (samples : List Int16) : PlaybackScheduler :=
  { s with lastEmittedTail := (lastFrame samples s.channels).getD [] }

/-! ## Late packets -/

variable (localNowMs : UInt64)

/-- Drop the head of the stream, buffered or missing, if its deadline has passed. -/
def discardLateHead : Option PlaybackScheduler :=
  if s.jitterBuffer.isEmpty then none
  else if s.deadlineMs ≥ localNowMs then none
  else
    some
      { s with
        jitterBuffer :=
          if s.jitterBuffer.peekNextSequence = some s.jitterBuffer.expected then
            s.jitterBuffer.discardInOrder.2
          else s.jitterBuffer.skipExpectedSequence
        fadeInNextRealFrame := true }

/-- The places up to the last buffered packet, all of which a loop may drop. -/
def bufferedPlaces : ℕ :=
  match s.jitterBuffer.packets.last? with
  | none => 0
  | some last => last.position + 1 - s.jitterBuffer.expected

/-- Drop the head of the stream as long as its deadline has passed. -/
def discardAlreadyLateHead : PlaybackScheduler :=
  loop (discardLateHead · localNowMs) s.bufferedPlaces s

/-! ## Polls -/

/-- The time to be buffered before playback starts. -/
def bufferTargetMs : ℕ :=
  if s.hasPlayed then min s.config.rebufferTargetMs.toNat s.config.startupBufferTargetMs.toNat
  else s.config.startupBufferTargetMs.toNat

/-- Either more has to be buffered, or playback starts. -/
def advanceBuffering : Option SchedulerPoll × PlaybackScheduler :=
  let bufferedMs := s.jitterBuffer.bufferedSpanMs
  let target := s.bufferTargetMs
  if s.bufferTargetProgress = .accumulating ∧ bufferedMs < target then
    (some (.buffering bufferedMs), s)
  else
    let s := { s with bufferTargetProgress := .satisfied }.discardAlreadyLateHead localNowMs
    if target > 0 ∧ s.jitterBuffer.isEmpty then (some (.buffering 0), s)
    else
      (none,
        { s with state := .playing, hasPlayed := true, bufferTargetProgress := .accumulating })

/-- The frame of a packet that is due. -/
def deliver (datagram : AudioDatagram) : SchedulerPoll × PlaybackScheduler :=
  let decoded := decodePayloadSamples datagram.payload
  let samples :=
    if s.fadeInNextRealFrame then
      applyBlendIn decoded s.channels s.rampFrames
        (if s.resumeFromSilence then [] else s.lastEmittedTail)
    else decoded
  let delivered :=
    { s with
      -- What is repeated later is the packet itself, without the ramp.
      concealment := s.concealment.recordDelivery decoded s.config.channels
      fadeInNextRealFrame := false
      resumeFromSilence := s.resumeFromSilence && !s.fadeInNextRealFrame }.rememberEmittedTail
        samples
  (.frame
    { sequence := datagram.sequence.get
      firstSampleIndex := datagram.firstSampleIndex.get
      hostPresentationTimeMs := datagram.hostPresentationTimeMs.get
      samples
      concealed := false }
    delivered.bufferHealth, delivered)

/-- The frame in place of a missing packet, or a pause after too many of them. -/
def conceal : SchedulerPoll × PlaybackScheduler :=
  let sequence := s.jitterBuffer.nextExpectedSequence
  let ((samples, outcome), concealment) :=
    s.concealment.conceal s.config.samplesPerPacket s.config.channels
  let concealed :=
    { s with
      concealment
      jitterBuffer := s.jitterBuffer.skipExpectedSequence
      fadeInNextRealFrame := true }.rememberEmittedTail samples
  match outcome with
  | .concealed =>
    (.frame
      { sequence
        firstSampleIndex := s.expectedFirstSampleIndex sequence
        hostPresentationTimeMs := s.expectedHostPresentationTimeMs sequence
        samples
        concealed := true }
      concealed.bufferHealth, concealed)
  | .hardResyncRequired =>
    (.awaitingRebuffer, { concealed with state := .awaitingRebuffer, resumeFromSilence := true })

/-- The expected packet, or a concealed frame in its place. -/
def emit : SchedulerPoll × PlaybackScheduler :=
  match s.jitterBuffer.popInOrder with
  | (some datagram, jitterBuffer) => { s with jitterBuffer }.deliver datagram
  | (none, _) => s.conceal

/-- Abandon the missing packets before the earliest buffered one. -/
def skipGap : PlaybackScheduler :=
  { s with
    jitterBuffer := s.jitterBuffer.skipToEarliestBuffered.2
    concealment := s.concealment.resetConsecutiveCount
    fadeInNextRealFrame := true }

/-- Release the frame that is due before the horizon. A wide gap is abandoned first. -/
def release (localReleaseHorizonMs : UInt64) : SchedulerPoll × PlaybackScheduler :=
  if localReleaseHorizonMs < s.deadlineMs then (.waiting s.bufferHealth, s)
  else if s.jitterBuffer.missingSequenceCount > s.config.concealmentSkipThresholdPackets.toNat then
    if localReleaseHorizonMs < s.skipGap.deadlineMs then
      (.waiting s.skipGap.bufferHealth, s.skipGap)
    else s.skipGap.emit
  else s.emit

/-- One tick, with the actual time and the time up to which frames are released. -/
def pollWithReleaseHorizon (localNowMs localReleaseHorizonMs : UInt64) :
    SchedulerPoll × PlaybackScheduler :=
  let horizon := if localReleaseHorizonMs < localNowMs then localNowMs else localReleaseHorizonMs
  match s.state with
  | .stopped => (.stopped, s)
  | .awaitingRebuffer => (.awaitingRebuffer, s)
  | .buffering =>
    match s.advanceBuffering localNowMs with
    | (some poll, s) => (poll, s)
    | (none, s) => s.release horizon
  | .playing => s.release horizon

def poll : SchedulerPoll × PlaybackScheduler :=
  s.pollWithReleaseHorizon localNowMs localNowMs

/-! ## Drains -/

/-- The frames drained so far, the latest one first, and how the next one starts. -/
structure Drain where
  frames : List ScheduledFrame := []
  expectedNext : UInt64
  fadeInNext : Bool
  blendFrom : List Int16
  overflowed : Bool

/-- Fade out the latest frame. -/
def Drain.fadeOutLatest (drain : Drain) (channels ramp : ℕ) : List ScheduledFrame :=
  drain.frames.modifyHead fun frame =>
    { frame with samples := applyFadeOutTail frame.samples channels ramp }

/-- The next drained packet. Both edges of a hole are faded. -/
def Drain.push (drain : Drain) (channels ramp : ℕ) (datagram : AudioDatagram) : Drain :=
  let hole := datagram.sequence.get > drain.expectedNext
  let decoded := decodePayloadSamples datagram.payload
  let fadeIn := drain.fadeInNext || hole
  let samples :=
    if fadeIn then applyBlendIn decoded channels ramp (if hole then [] else drain.blendFrom)
    else decoded
  { frames :=
      { sequence := datagram.sequence.get
        firstSampleIndex := datagram.firstSampleIndex.get
        hostPresentationTimeMs := datagram.hostPresentationTimeMs.get
        samples
        concealed := false } ::
        if hole then drain.fadeOutLatest channels ramp else drain.frames
    expectedNext := datagram.sequence.get + 1
    fadeInNext := false
    blendFrom := if fadeIn then [] else drain.blendFrom
    overflowed := drain.overflowed || datagram.sequence.get = .ofNat u64Max }

/-- Release all that is buffered, in order and regardless of deadlines. -/
def drainRemaining : List ScheduledFrame × PlaybackScheduler :=
  let (datagrams, jitterBuffer) := s.jitterBuffer.drainAll
  let drain := datagrams.foldl (Drain.push · s.channels s.rampFrames)
    { expectedNext := s.jitterBuffer.nextExpectedSequence
      fadeInNext := s.fadeInNextRealFrame
      blendFrom := if s.resumeFromSilence then [] else s.lastEmittedTail
      overflowed := s.overflowed }
  ((drain.fadeOutLatest s.channels s.rampFrames).reverse,
    { s with
      jitterBuffer
      fadeInNextRealFrame := true
      resumeFromSilence := true
      lastEmittedTail := []
      overflowed := drain.overflowed })

/-! ## Controls -/

/-- Align with the actual time after the output has run dry. -/
def realignToNow : PlaybackScheduler :=
  let s := s.discardAlreadyLateHead localNowMs
  { s with
    concealment := s.concealment.resetConsecutiveCount
    fadeInNextRealFrame := true
    resumeFromSilence := true
    lastEmittedTail := [] }

/-- The offset jumps beyond the threshold. -/
def jumps (newOffsetMs : Float) : Bool :=
  (newOffsetMs - s.offsetMs).abs > s.config.hardResyncThresholdMs

def applyOffsetUpdate (newOffsetMs : Float) : OffsetUpdateOutcome × PlaybackScheduler :=
  if s.jumps newOffsetMs then
    (.hardResyncRequired, { s with offsetMs := newOffsetMs, state := .awaitingRebuffer })
  else (.softCorrected, { s with offsetMs := newOffsetMs })

def rebuffer (newOffsetMs : Float) : PlaybackScheduler :=
  { s with
    offsetMs := newOffsetMs
    concealment := s.concealment.resetConsecutiveCount
    state := .buffering
    bufferTargetProgress := .accumulating
    fadeInNextRealFrame := true
    resumeFromSilence := true }

def setHostStartTimeMs (hostStartTimeMs : UInt64) : PlaybackScheduler :=
  { s with config.hostStartTimeMs := hostStartTimeMs }

def stop : PlaybackScheduler := { s with state := .stopped }

end PlaybackScheduler

/-! ## The machine -/

inductive SchedulerCall
  | submitPacket (datagram : AudioDatagram)
  | poll (localNowMs : UInt64)
  | pollWithReleaseHorizon (localNowMs localReleaseHorizonMs : UInt64)
  | drainRemaining
  | realignToNow (localNowMs : UInt64)
  | applyOffsetUpdate (newOffsetMs : Float)
  | rebuffer (newOffsetMs : Float)
  | setHostStartTimeMs (hostStartTimeMs : UInt64)
  | stop
  deriving DecidableEq

inductive SchedulerReply
  | submitted (result : Except JitterBufferRejection Unit)
  | polled (poll : SchedulerPoll)
  | drained (frames : List ScheduledFrame)
  | updated (outcome : OffsetUpdateOutcome)
  | done

/-- The frames that a reply hands over. -/
def SchedulerReply.frames : SchedulerReply → List ScheduledFrame
  | .polled (.frame frame _) => [frame]
  | .drained frames => frames
  | _ => []

/-- The scheduler under any calls. -/
def playbackScheduler : Machine PlaybackScheduler SchedulerCall SchedulerReply where
  init s := ∃ config offsetMs, PlaybackScheduler.new config offsetMs = .ok s
  step s
    | .submitPacket datagram =>
      let (result, s) := s.submitPacket datagram
      (s, .submitted result)
    | .poll now =>
      let (poll, s) := s.poll now
      (s, .polled poll)
    | .pollWithReleaseHorizon now horizon =>
      let (poll, s) := s.pollWithReleaseHorizon now horizon
      (s, .polled poll)
    | .drainRemaining =>
      let (frames, s) := s.drainRemaining
      (s, .drained frames)
    | .realignToNow now => (s.realignToNow now, .done)
    | .applyOffsetUpdate offsetMs =>
      let (outcome, s) := s.applyOffsetUpdate offsetMs
      (s, .updated outcome)
    | .rebuffer offsetMs => (s.rebuffer offsetMs, .done)
    | .setHostStartTimeMs time => (s.setHostStartTimeMs time, .done)
    | .stop => (s.stop, .done)

end SilentDisco
