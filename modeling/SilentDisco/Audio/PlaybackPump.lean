import SilentDisco.Audio.Scheduler

/-!
# Playback pump

The pump drives the scheduler into the render ring. Frames are converted and appended to the
pending samples, of which the ring accepts as many whole frames as it has room for. Nothing is
played before a clock offset is known.

What the pump sees of the ring during a call is an input of the call: the frames queued, the
underruns of the output so far, and the room that each push finds. The samples that the ring
accepts during a call are an output.

## Main definitions

* `PlaybackPump`: the state
* `PlaybackPump.flushPending`, `enqueueFrame`: pushes
* `PlaybackPump.tick`, `finish`, `applySyncOffset`, `submitPacket`: the calls
* `playbackPump`: the machine of all calls
-/

namespace SilentDisco

open Result Protocol

/-- The ring is stereo. -/
def renderChannels : ℕ := 2

def defaultTargetFillFrames : ℕ := 19200
def defaultWriteLeadMs : UInt64 := 400
def defaultMaxPrefillMs : UInt64 := 800

/-- The largest correction of the offset that is applied at once. -/
def maxSoftOffsetStepMs : Float := 5.0

def pcm16FullScale : Float32 := 32768.0

structure PlaybackPumpConfig where
  volume : Float32 := 1.0
  writeLeadMs : UInt64 := defaultWriteLeadMs
  maxPrefillMs : UInt64 := defaultMaxPrefillMs
  targetDepthFrames : ℕ := defaultTargetFillFrames
  deriving DecidableEq

inductive PlaybackPumpConfigErrorKind
  | invalidVolume | channelCountMismatch | invalidTargetDepth
  deriving DecidableEq

structure PlaybackPumpConfigError where
  kind : PlaybackPumpConfigErrorKind
  message : String
  deriving DecidableEq

/-- What a call sees of the ring. -/
structure RingView where
  /-- Frames that are written but not consumed. -/
  queuedFrames : ℕ := 0
  underrunCallbacks : UInt64 := 0
  /-- The room that each push of the call finds, in order; a push beyond them finds none. -/
  rooms : List ℕ := []
  deriving DecidableEq

/-- What a call does to the ring. -/
structure PumpEffect where
  /-- The pending samples were dropped at the start of the call. -/
  realigned : Bool := false
  /-- The samples that the ring accepted. -/
  accepted : List Float32 := []
  deriving DecidableEq

inductive PumpTick
  | buffering (bufferedMs : ℕ)
  | queued (sequence : UInt64) (frames : ℕ) (concealed : Bool)
  | flushedPending (frames : ℕ)
  | ringFull (pendingFrames : ℕ)
  | atTargetDepth (queuedFrames : ℕ)
  | waiting
  | awaitingSync
  | awaitingRebuffer
  | stopped
  deriving DecidableEq

inductive SyncApplyOutcome
  | locked | softCorrected | rebuffered | rejectedNonFinite
  deriving DecidableEq

structure PlaybackPump where
  scheduler : PlaybackScheduler
  config : PlaybackPumpConfig
  /-- Samples that are converted but not accepted by the ring. -/
  pending : List Float32
  awaitingPrefill : Bool
  prefillFrames : ℕ
  syncLocked : Bool
  offsetMs : Float
  droppedBeforeSync : ℕ
  lastObservedUnderrunCallbacks : UInt64
  /-- A frame has been handed towards the ring. -/
  timelineStarted : Bool
  offsetDrivenRebuffers : ℕ

namespace PlaybackPump

def volumeError (volume : Float32) : PlaybackPumpConfigError :=
  ⟨.invalidVolume, "volume of " ++ toString volume ++ " must be finite and within 0.0..=1.0"⟩

/-- A pump into a ring with the given capacity and underruns so far. -/
def new (scheduler : PlaybackScheduler) (capacityFrames : ℕ) (underrunCallbacks : UInt64)
    (config : PlaybackPumpConfig) : Except PlaybackPumpConfigError PlaybackPump := do
  rejectIf (¬config.volume.isFinite ∨ config.volume < 0.0 ∨ config.volume > 1.0)
    (volumeError config.volume)
  check (scheduler.channels = renderChannels) (.mk .channelCountMismatch
    ("stream has " ++ toString scheduler.channels ++
      " channels but the render ring is fixed at " ++ toString renderChannels))
  rejectIf (config.targetDepthFrames = 0 ∨ config.targetDepthFrames > capacityFrames)
    (.mk .invalidTargetDepth ("target depth of " ++ toString config.targetDepthFrames ++
      " frames must be nonzero and within the ring's " ++ toString capacityFrames ++
      "-frame capacity"))
  return {
    scheduler, config
    pending := []
    awaitingPrefill := true
    prefillFrames := 0
    syncLocked := false
    offsetMs := 0.0
    droppedBeforeSync := 0
    lastObservedUnderrunCallbacks := underrunCallbacks
    timelineStarted := false
    offsetDrivenRebuffers := 0 }

variable (pump : PlaybackPump)

def setVolume (volume : Float32) : Except PlaybackPumpConfigError Unit × PlaybackPump :=
  if ¬volume.isFinite ∨ ¬(0.0 ≤ volume ∧ volume ≤ 1.0) then (.error (volumeError volume), pump)
  else (.ok (), { pump with config.volume := volume })

def pendingFrames : ℕ := pump.pending.length / renderChannels

/-! ## Pushes -/

/-- Push what the ring has room for. Returns the frames written and the samples accepted. -/
def flushPending (room : ℕ) : (ℕ × List Float32) × PlaybackPump :=
  if pump.pending.isEmpty then ((0, []), pump)
  else
    let written := min pump.pendingFrames room
    ((written, pump.pending.take (written * renderChannels)),
      { pump with pending := pump.pending.drop (written * renderChannels) })

/-- A sample as the ring takes it. -/
def convertSample (sample : Int16) : Float32 :=
  Float32.ofInt sample.toInt / pcm16FullScale * pump.config.volume

variable (frame : ScheduledFrame)

/-- Append a frame to the pending samples and push. -/
def enqueueFrame (room : ℕ) : (ℕ × List Float32) × PlaybackPump :=
  { pump with pending := pump.pending ++ frame.samples.map pump.convertSample }.flushPending room

/-- Enqueue frames, each with the room that its push finds. -/
def enqueueFrames : PlaybackPump → List ScheduledFrame → List ℕ → (ℕ × List Float32) × PlaybackPump
  | pump, [], _ => ((0, []), pump)
  | pump, frame :: frames, rooms =>
    let ((written, accepted), pump) := pump.enqueueFrame frame (rooms.headD 0)
    let ((writtenLater, acceptedLater), pump) := enqueueFrames pump frames rooms.tail
    ((written + writtenLater, accepted ++ acceptedLater), pump)

/-! ## Ticks -/

/-- The output has run dry in the middle of the stream. -/
def ranDry (underruns : UInt64) : Bool :=
  pump.timelineStarted && underruns > pump.lastObservedUnderrunCallbacks

variable (localNowMs : UInt64)

/-- Drop what is stale after the output has run dry. -/
def realignAfterOutputUnderrun (underruns : UInt64) : PlaybackPump :=
  if ¬pump.timelineStarted then { pump with lastObservedUnderrunCallbacks := underruns }
  else if pump.ranDry underruns then
    { pump with
      lastObservedUnderrunCallbacks := underruns
      pending := []
      awaitingPrefill := true
      prefillFrames := 0
      scheduler := pump.scheduler.realignToNow localNowMs }
  else pump

/-- The silence before a frame, in frames of the ring. -/
def prefillOf : ℕ :=
  let deadlineMs := pump.scheduler.localTimeForHostMs frame.hostPresentationTimeMs
  let leadMs := min (deadlineMs.toNat - localNowMs.toNat) pump.config.maxPrefillMs.toNat
  leadMs * pump.scheduler.config.sampleRate.toNat % 2 ^ 64 / 1000

/-- Queue the silence that aligns the first frame with its deadline. -/
def queueAlignmentPrefill : PlaybackPump :=
  if ¬pump.awaitingPrefill then pump
  else
    let frames := pump.prefillOf frame localNowMs
    { pump with
      awaitingPrefill := false
      prefillFrames := frames
      pending := pump.pending ++ List.replicate (frames * renderChannels) 0.0 }

/-- The reply to a push. -/
def pushed (whole : PumpTick) : PumpTick :=
  if pump.pending.isEmpty then whole else .ringFull pump.pendingFrames

/-- Push a frame that the scheduler released. -/
def queueFrame (room : ℕ) : (PumpTick × PumpEffect) × PlaybackPump :=
  let ((frames, accepted), pump) :=
    (pump.queueAlignmentPrefill frame localNowMs).enqueueFrame frame room
  let pump := { pump with timelineStarted := true }
  ((pump.pushed (.queued frame.sequence frames frame.concealed), { accepted }), pump)

/-- Ask the scheduler for a frame. -/
def pollScheduler (room : ℕ) : (PumpTick × PumpEffect) × PlaybackPump :=
  let pollTimeMs : UInt64 :=
    .ofNat (saturatingAdd localNowMs.toNat pump.config.writeLeadMs.toNat)
  let (poll, scheduler) := pump.scheduler.pollWithReleaseHorizon localNowMs pollTimeMs
  let pump := { pump with scheduler }
  match poll with
  | .buffering bufferedMs => ((.buffering bufferedMs, {}), pump)
  | .waiting _ => ((.waiting, {}), pump)
  | .awaitingRebuffer =>
    ((.awaitingRebuffer, {}),
      { pump with
        scheduler := pump.scheduler.rebuffer pump.offsetMs
        awaitingPrefill := true })
  | .stopped => ((.stopped, {}), pump)
  | .frame frame _ => pump.queueFrame frame localNowMs room

/-- New audio is asked for only when nothing is pending and the ring is not deep enough. -/
def advance (view : RingView) : (PumpTick × PumpEffect) × PlaybackPump :=
  let room := view.rooms.headD 0
  if ¬pump.pending.isEmpty then
    let ((flushed, accepted), pump) := pump.flushPending room
    ((pump.pushed (.flushedPending flushed), { accepted }), pump)
  else if view.queuedFrames ≥ pump.config.targetDepthFrames then
    ((.atTargetDepth view.queuedFrames, {}), pump)
  else pump.pollScheduler localNowMs room

/-- One tick. -/
def tick (localNowMs : UInt64) (view : RingView) : (PumpTick × PumpEffect) × PlaybackPump :=
  if ¬pump.syncLocked then ((.awaitingSync, {}), pump)
  else
    let ((tick, effect), next) :=
      (pump.realignAfterOutputUnderrun localNowMs view.underrunCallbacks).advance localNowMs view
    ((tick, { effect with realigned := pump.ranDry view.underrunCallbacks }), next)

/-- Drain the scheduler into the ring and stop it. Returns the frames written. -/
def finish (view : RingView) : (ℕ × PumpEffect) × PlaybackPump :=
  let (drained, scheduler) := pump.scheduler.drainRemaining
  let ((written, accepted), pump) := { pump with scheduler }.enqueueFrames drained view.rooms
  ((written, { accepted }), { pump with scheduler := pump.scheduler.stop })

/-! ## Synchronization -/

/-- The estimate is too far from the offset to be spliced. -/
def jumps (offsetMs : Float) : Bool :=
  (offsetMs - pump.offsetMs).abs > pump.scheduler.config.hardResyncThresholdMs

/-- The offset after a correction of bounded size. -/
def slewed (offsetMs : Float) : Float :=
  let deltaMs := offsetMs - pump.offsetMs
  pump.offsetMs +
    if deltaMs < -maxSoftOffsetStepMs then -maxSoftOffsetStepMs
    else if deltaMs > maxSoftOffsetStepMs then maxSoftOffsetStepMs
    else deltaMs

def applySyncOffset (offsetMs : Float) : SyncApplyOutcome × PlaybackPump :=
  if ¬offsetMs.isFinite then (.rejectedNonFinite, pump)
  else if ¬pump.syncLocked then
    (.locked,
      { pump with
        offsetMs
        syncLocked := true
        scheduler := pump.scheduler.rebuffer offsetMs
        awaitingPrefill := true })
  else if pump.jumps offsetMs then
    match pump.scheduler.applyOffsetUpdate offsetMs with
    | (.softCorrected, scheduler) => (.softCorrected, { pump with offsetMs, scheduler })
    | (.hardResyncRequired, scheduler) =>
      (.rebuffered,
        { pump with
          offsetMs
          scheduler := scheduler.rebuffer offsetMs
          awaitingPrefill := true
          prefillFrames := 0
          offsetDrivenRebuffers := saturatingAdd pump.offsetDrivenRebuffers 1 })
  else
    (.softCorrected,
      { pump with
        offsetMs := pump.slewed offsetMs
        scheduler := (pump.scheduler.applyOffsetUpdate (pump.slewed offsetMs)).2 })

/-- A packet that arrives before playback has a timeline is dropped. -/
def submitPacket (datagram : AudioDatagram) : Except JitterBufferRejection Unit × PlaybackPump :=
  if ¬pump.syncLocked then
    (.ok (), { pump with droppedBeforeSync := saturatingAdd pump.droppedBeforeSync 1 })
  else
    let (result, scheduler) := pump.scheduler.submitPacket datagram
    (result, { pump with scheduler })

end PlaybackPump

/-! ## The machine -/

/-- The calls of a pump, with what they see of the ring. A call on the scheduler that the pump
hands out is among them. -/
inductive PumpCall
  | submitPacket (datagram : AudioDatagram)
  | applySyncOffset (offsetMs : Float)
  | tick (localNowMs : UInt64) (view : RingView)
  | finish (view : RingView)
  | setVolume (volume : Float32)
  | scheduler (call : SchedulerCall)
  deriving DecidableEq

inductive PumpReply
  | submitted (result : Except JitterBufferRejection Unit)
  | applied (outcome : SyncApplyOutcome)
  | ticked (tick : PumpTick)
  | finished (frames : ℕ)
  | volumeSet (result : Except PlaybackPumpConfigError Unit)
  | scheduled (reply : SchedulerReply)

/-- The pump under any calls. -/
def playbackPump : Machine PlaybackPump PumpCall (PumpReply × PumpEffect) where
  init pump := ∃ schedulerConfig offsetMs scheduler capacityFrames underrunCallbacks config,
    PlaybackScheduler.new schedulerConfig offsetMs = .ok scheduler ∧
      PlaybackPump.new scheduler capacityFrames underrunCallbacks config = .ok pump
  step pump
    | .submitPacket datagram =>
      let (result, pump) := pump.submitPacket datagram
      (pump, .submitted result, {})
    | .applySyncOffset offsetMs =>
      let (outcome, pump) := pump.applySyncOffset offsetMs
      (pump, .applied outcome, {})
    | .tick now view =>
      let ((tick, effect), pump) := pump.tick now view
      (pump, .ticked tick, effect)
    | .finish view =>
      let ((frames, effect), pump) := pump.finish view
      (pump, .finished frames, effect)
    | .setVolume volume =>
      let (result, pump) := pump.setVolume volume
      (pump, .volumeSet result, {})
    | .scheduler call =>
      let (scheduler, reply) := playbackScheduler.step pump.scheduler call
      ({ pump with scheduler }, .scheduled reply, {})

end SilentDisco
