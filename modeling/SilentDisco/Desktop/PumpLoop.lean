import SilentDisco.Desktop.JoinProjection
import SilentDisco.Desktop.Playback

/-!
# The loop of a pump

The pump of a stream takes the frames of the packetizer, moves their time by the pauses of the
stream, waits until a frame is due and hands it to the network. Afterwards it tells the actor how
the stream has ended. It shares flags with the calls of its owner: each look at a flag is a step of
its own, since a call may come between any two looks. The calls, and the handoff of a frame, hold
the lock of the host and are one step each.

What the pump and the calls submit waits in the mailbox of the actor. The messages of other threads
come between; those that may change the state of playback belong to another stream, to a listener
or to the end of the session, and are left out.

The machine keeps a history: the frames as the packetizer handed them out, and the frames as the
pump handed them over, with what the shared flags were at that moment.

## Main definitions

* `LoopPhase`: where the pump is
* `StreamDesk`: the owner, the pump, the mailbox and the actor
* `StreamDesk.runLoop`: the next step of the pump
* `terminalAudioEvent`: how the stream has ended
* `streamDesk`: the machine of all steps
-/

namespace SilentDisco

/-- The inputs that leave the state of playback alone. -/
def CoreActorInput.keepsPlayback : CoreActorInput → Bool
  | .command _ _ | .storage _ => true
  | .platform (.operationSucceeded _ .advertisingStopped)
  | .platform (.operationSucceeded _ .networkReleased) => false
  | .platform _ => true
  | .transport (.sessionEnded _) => false
  | .transport _ => true
  | .audio (.trackBoundaryScheduled _ _) | .audio (.trackBoundaryApplied _ _)
  | .audio (.synchronizationUpdated _ _) => true
  | .audio _ => false

namespace Desktop

open Protocol Transport

def positionReportIntervalMs : ℕ := 250

def canonicalSampleRateHz : ℕ := 48000

/-- Where the pump is, with the frame that it holds and the offset that was applied to it. -/
inductive LoopPhase
  /-- The loop: before the look at the stop flag. -/
  | top
  /-- Before the look at the paused flag. -/
  | running
  /-- Before the clock and the offset are read. -/
  | unpaused
  /-- The boundaries that are due are applied. -/
  | applying (nowMs offsetMs : ℕ)
  | receiving
  /-- A frame has arrived: before the look at the stop flag. -/
  | received (frame : ProtocolFrame)
  | admitted (frame : ProtocolFrame)
  /-- The wait for the horizon: before the look at the stop flag. -/
  | holding (frame : ProtocolFrame) (appliedMs : ℕ)
  /-- Before the look at the paused flag. -/
  | awake (frame : ProtocolFrame) (appliedMs : ℕ)
  /-- Before the offset is read. -/
  | reading (frame : ProtocolFrame) (appliedMs : ℕ)
  /-- Before the second look at the paused flag. -/
  | shifted (frame : ProtocolFrame) (appliedMs : ℕ)
  /-- Before the clock is read. -/
  | timing (frame : ProtocolFrame) (appliedMs : ℕ)
  /-- Before the third look at the paused flag. -/
  | timed (frame : ProtocolFrame) (appliedMs : ℕ) (now : MonotonicMillis)
  /-- The frame is due: before the look at the stop flag. -/
  | due (frame : ProtocolFrame) (appliedMs : ℕ)
  /-- Before the lock is taken for the handoff. -/
  | handing (frame : ProtocolFrame) (appliedMs : ℕ)
  /-- The frame was not handed over: before the look at the stop flag. -/
  | refused (frame : ProtocolFrame) (appliedMs : ℕ)
  /-- The frame was handed over. -/
  | delivered
  /-- Outside the loop, with the error that has ended it. -/
  | leaving (error : Option String)
  /-- The packetizer is joined: what was sent becomes audible. -/
  | tail (completed : Bool) (failure : Option String)
  /-- Before the stop is broadcast. -/
  | stopping (completed : Bool) (failure : Option String)
  /-- Before the end of the stream is reported. -/
  | reporting (completed : Bool) (failure : Option String)
  | exited
  deriving DecidableEq

/-- The position of the pump of the host, which takes several looks at once. -/
def LoopPhase.position (disconnected : Bool) : LoopPhase → Pump
  | .top | .running | .delivered => if disconnected then .draining else .polling
  | .unpaused | .applying _ _ => if disconnected then .clearing else .receiving
  | .receiving | .received _ | .admitted _ => .receiving
  | .holding frame appliedMs | .awake frame appliedMs | .refused frame appliedMs =>
    .holding frame appliedMs
  | .reading frame appliedMs => .unpaused frame appliedMs
  | .shifted frame appliedMs | .timing frame appliedMs | .timed frame appliedMs _ =>
    .shifted frame appliedMs
  | .due frame appliedMs | .handing frame appliedMs => .due frame appliedMs
  | .leaving _ | .tail _ _ | .stopping _ _ => .ending
  | .reporting _ _ | .exited => .finished

/-- The frame that the pump has taken and the pump of the host has yet to take. -/
def LoopPhase.taken : LoopPhase → List ProtocolFrame
  | .received frame | .admitted frame => [frame]
  | _ => []

/-- How a packetizer has ended. -/
inductive PacketizerEnd
  | completed
  | cancelled
  | failed (message : String)
  deriving DecidableEq

def PacketizerEnd.failure : PacketizerEnd → Option String
  | .failed message => some message
  | _ => none

/-- What a step of the pump meets. A failed call has the text of its error. -/
structure LoopConditions where
  clock : Except String MonotonicMillis := .ok ⟨0⟩
  /-- The actor does not take an event. -/
  submission : Option String := none
  /-- There is no host session. -/
  binding : Option String := none
  /-- The queue of the transport does not take a frame. -/
  queue : Option String := none
  /-- The packetizer hands out a frame or has ended. -/
  arrived : Bool := true
  joined : PacketizerEnd := .completed

/-- A frame that was handed over, and the flags at that moment. -/
structure Handoff where
  frame : ProtocolFrame
  paused : Bool
  stop : Bool
  offsetMs : ℕ
  deriving DecidableEq

structure StreamDesk where
  streamStart : StreamStart
  /-- The boundaries are reserved by the packetizer. -/
  authoritativeBoundaries : Bool := true
  /-- The host session still has the streamer. -/
  installed : Bool := true
  stop : Bool := false
  paused : Bool := false
  pausedAtMs : ℕ := 0
  accumulatedPauseOffsetMs : ℕ := 0
  /-- The frames that the packetizer still hands out. -/
  source : List ProtocolFrame
  phase : LoopPhase := .top
  packetizerDisconnected : Bool := false
  pendingBoundaries : List TrackBoundary := []
  contentPositionMs : Option ℕ := none
  lastReportedPositionMs : Option ℕ := none
  lastAudibleAudioEndMs : Option ℕ := none
  actor : ActorState
  inputs : List ActorMessage := []
  received : List ProtocolFrame := []
  handed : List Handoff := []

inductive StreamStep
  | pause (call : CallConditions)
  | resume (call : CallConditions)
  | stop
  /-- The pump takes its next step. -/
  | pump (conditions : LoopConditions)
  /-- The actor processes the next message. -/
  | process
  /-- A message of another thread. -/
  | message (message : ActorMessage)

/-! ## Frames -/

/-- The position of a frame in its stream, before the pauses. -/
def frameContentPositionMs (hostStartTimeMs : ℕ) : ProtocolFrame → Option ℕ
  | .audio packet => some (packet.hostPresentationTimeMs.get.toNat - hostStartTimeMs)
  | _ => none

/-- The time at which a frame has been heard. -/
def audioEndMs : ProtocolFrame → Option ℕ
  | .audio packet =>
    some (saturatingAdd packet.hostPresentationTimeMs.get.toNat
      (packet.samplesPerPacket.toNat * 1000 / packet.sampleRate.toNat))
  | _ => none

/-- The time at which a boundary becomes audible. -/
def boundaryTimeMs (hostStartTimeMs offsetMs : ℕ) (boundary : TrackBoundary) : ℕ :=
  saturatingAdd
    (saturatingAdd hostStartTimeMs
      (min (boundary.firstSampleIndex.get.toNat * 1000) u64Max / canonicalSampleRateHz)) offsetMs

/-! ## The end of a stream -/

def playbackFailure (message : String) : CoreError :=
  let text := "Playlist playback stopped: " ++
    String.ofList ((message.toList.filter fun c => !isControl c).take 384)
  if DesktopNetworkError.IsErrorMessage text then
    coreError .audioOutputFailed text .error true none
  else
    coreError .audioOutputFailed "Playlist playback stopped after an audio failure" .error true
      none

/-- A failure comes before a stop, and a stop before the natural end. -/
def terminalAudioEvent (streamId : StreamId) (stopRequested packetizerCompleted : Bool)
    (failure : Option String) : AudioEvent :=
  match failure with
  | some message => .failed (playbackFailure message)
  | none =>
    if stopRequested then .playbackStateChanged .stopped
    else if packetizerCompleted then .endOfStream streamId
    else .playbackStateChanged .stopped

namespace StreamDesk

variable (desk : StreamDesk)

def goto (phase : LoopPhase) : StreamDesk := { desk with phase }

def submit (events : List AudioEvent) : StreamDesk :=
  { desk with inputs := desk.inputs ++ events.map fun event => .input (.audio event) }

/-! ## The pump -/

/-- `apply_due_boundaries`, one boundary at a time, and the end of the loop when the packetizer has
ended and every boundary is applied. -/
def applyDueBoundaries (nowMs offsetMs : ℕ) (conditions : LoopConditions) : StreamDesk :=
  match desk.pendingBoundaries with
  | boundary :: rest =>
    if boundaryTimeMs desk.streamStart.hostStartTimeMs.get.toNat offsetMs boundary ≤ nowMs then
      match conditions.submission with
      | none =>
        { desk.submit [.trackBoundaryApplied boundary.entryId boundary.firstSampleIndex.get] with
          pendingBoundaries := rest }
      | some text => { desk.goto (.leaving (some text)) with pendingBoundaries := rest }
    else desk.goto (if desk.packetizerDisconnected then .top else .receiving)
  | [] => desk.goto (if desk.packetizerDisconnected then .leaving none else .receiving)

def receiveFrame (conditions : LoopConditions) : StreamDesk :=
  if conditions.arrived = false then desk.goto .top
  else
    match desk.source with
    | [] => { desk.goto .top with packetizerDisconnected := true }
    | frame :: rest =>
      { desk.goto (.received frame) with source := rest, received := desk.received ++ [frame] }

variable (frame : ProtocolFrame)

/-- The frame gets the offset of the pauses so far. -/
def stamp : StreamDesk :=
  { desk with
    contentPositionMs := frameContentPositionMs desk.streamStart.hostStartTimeMs.get.toNat frame
    phase := .holding (applyPauseOffset desk.accumulatedPauseOffsetMs frame)
      desk.accumulatedPauseOffsetMs }

/-- A boundary is scheduled first, unless the packetizer has reserved it. -/
def admitFrame (conditions : LoopConditions) : StreamDesk :=
  match frame with
  | .control (.trackBoundary boundary) =>
    if desk.authoritativeBoundaries then
      { desk.stamp frame with pendingBoundaries := desk.pendingBoundaries ++ [boundary] }
    else
      match conditions.submission with
      | none =>
        { (desk.submit
            [.trackBoundaryScheduled boundary.entryId boundary.firstSampleIndex.get]).stamp
              frame with
          pendingBoundaries := desk.pendingBoundaries ++ [boundary] }
      | some text => desk.goto (.leaving (some text))
  | _ => desk.stamp frame

/-- The latest offset is applied to the frame. -/
def shift (appliedMs : ℕ) : StreamDesk :=
  let latestMs := desk.accumulatedPauseOffsetMs
  if appliedMs < latestMs then
    desk.goto (.shifted (applyPauseOffset (latestMs - appliedMs) frame) latestMs)
  else desk.goto (.shifted frame appliedMs)

/-- `broadcast_playback_frame_unless_paused`, under the lock. -/
def handOver (appliedMs : ℕ) (conditions : LoopConditions) : StreamDesk :=
  match conditions.binding with
  | some text => desk.goto (.leaving (some text))
  | none =>
    if desk.paused ∨ desk.stop then desk.goto (.refused frame appliedMs)
    else
      match conditions.queue with
      | some text => desk.goto (.leaving (some text))
      | none =>
        { desk.goto .delivered with
          handed := desk.handed ++
            [⟨frame, desk.paused, desk.stop, desk.accumulatedPauseOffsetMs⟩]
          lastAudibleAudioEndMs := (audioEndMs frame).or desk.lastAudibleAudioEndMs }

/-- `report_position_if_due`: a report that the actor does not take is made with a later frame. -/
def reportPosition (conditions : LoopConditions) : StreamDesk :=
  match desk.contentPositionMs with
  | none => desk.goto .top
  | some positionMs =>
    if (∀ previous ∈ desk.lastReportedPositionMs,
        saturatingAdd previous positionReportIntervalMs ≤ positionMs) ∧
        conditions.submission = none then
      { (desk.submit
          [.positionAdvanced desk.streamStart.streamId (.ofNat positionMs)]).goto .top with
        lastReportedPositionMs := some positionMs }
    else desk.goto .top

/-- The packetizer is joined. -/
def join (error : Option String) (conditions : LoopConditions) : StreamDesk :=
  desk.goto (.tail (conditions.joined = .completed) (error.or conditions.joined.failure))

/-- Wait until the last audio that was sent has been heard, unless the stream is stopped. -/
def awaitTail (completed : Bool) (failure : Option String) (conditions : LoopConditions) :
    StreamDesk :=
  let heard : Bool :=
    match desk.lastAudibleAudioEndMs, conditions.clock with
    | some deadlineMs, .ok now => deadlineMs ≤ now.get.toNat
    | _, _ => true
  if (completed ∨ failure.isSome) ∧ desk.stop = false ∧ heard = false then desk
  else desk.goto (.stopping completed failure)

/-- The last step of the pump. -/
def report (completed : Bool) (failure : Option String) (conditions : LoopConditions) :
    StreamDesk :=
  match conditions.submission with
  | none =>
    (desk.submit [terminalAudioEvent desk.streamStart.streamId desk.stop completed failure]).goto
      .exited
  | some _ => desk.goto .exited

def runLoop (conditions : LoopConditions) : StreamDesk :=
  match desk.phase with
  | .top => desk.goto (if desk.stop then .leaving none else .running)
  | .running => desk.goto (if desk.paused then .top else .unpaused)
  | .unpaused =>
    match conditions.clock with
    | .ok now => desk.goto (.applying now.get.toNat desk.accumulatedPauseOffsetMs)
    | .error text => desk.goto (.leaving (some text))
  | .applying nowMs offsetMs => desk.applyDueBoundaries nowMs offsetMs conditions
  | .receiving => desk.receiveFrame conditions
  | .received frame => desk.goto (if desk.stop then .leaving none else .admitted frame)
  | .admitted frame => desk.admitFrame frame conditions
  | .holding frame appliedMs =>
    desk.goto (if desk.stop then .leaving none else .awake frame appliedMs)
  | .awake frame appliedMs =>
    desk.goto (if desk.paused then .holding frame appliedMs else .reading frame appliedMs)
  | .reading frame appliedMs => desk.shift frame appliedMs
  | .shifted frame appliedMs =>
    desk.goto (if desk.paused then .holding frame appliedMs
      else if frame.isAudio then .timing frame appliedMs else .due frame appliedMs)
  | .timing frame appliedMs =>
    match conditions.clock with
    | .ok now => desk.goto (.timed frame appliedMs now)
    | .error text => desk.goto (.leaving (some text))
  | .timed frame appliedMs now =>
    desk.goto (if desk.paused then .holding frame appliedMs
      else if WithinHorizon now frame then .due frame appliedMs else .holding frame appliedMs)
  | .due frame appliedMs =>
    desk.goto (if desk.stop then .refused frame appliedMs else .handing frame appliedMs)
  | .handing frame appliedMs => desk.handOver frame appliedMs conditions
  | .refused frame appliedMs =>
    desk.goto (if desk.stop then .leaving none else .holding frame appliedMs)
  | .delivered => desk.reportPosition conditions
  | .leaving error => desk.join error conditions
  | .tail completed failure => desk.awaitTail completed failure conditions
  | .stopping completed failure => desk.goto (.reporting completed failure)
  | .reporting completed failure => desk.report completed failure conditions
  | .exited => desk

/-! ## The calls -/

/-- The streamer, as the host has it. -/
def streamer : PlaybackStreamer where
  streamStart := desk.streamStart
  paused := desk.paused
  pausedAtMs := desk.pausedAtMs
  accumulatedPauseOffsetMs := desk.accumulatedPauseOffsetMs
  source := desk.phase.taken ++ desk.source
  pump := desk.phase.position desk.packetizerDisconnected

/-- What a call on the streamer leaves, and the events that it has submitted. -/
def take (outcome : CallOutcome) (events : List AudioEvent) : StreamDesk :=
  { desk.submit events with
    paused := outcome.streamer.paused
    pausedAtMs := outcome.streamer.pausedAtMs
    accumulatedPauseOffsetMs := outcome.streamer.accumulatedPauseOffsetMs }

/-- A transition that the actor takes, and the one that undoes it if its frame is not queued. -/
def transitionEvents (state undone : PlaybackState) (queues : Bool) (call : CallConditions) :
    List AudioEvent :=
  if call.submitted = false then []
  else if queues ∧ call.queued = false ∧ call.compensated then
    [.playbackStateChanged state, .playbackStateChanged undone]
  else [.playbackStateChanged state]

def pauseEvents (call : CallConditions) : List AudioEvent :=
  transitionEvents .paused .playing true call

/-- A stream that is not paused is not announced again. -/
def resumeEvents (call : CallConditions) : List AudioEvent :=
  transitionEvents .playing .paused desk.paused call

def step : StreamStep → StreamDesk
  | .pause call =>
    if desk.installed then desk.take (desk.streamer.pausePlayback call) (pauseEvents call)
    else desk
  | .resume call =>
    if desk.installed then desk.take (desk.streamer.resumePlayback call) (desk.resumeEvents call)
    else desk
  | .stop => if desk.installed then { desk with installed := false, stop := true } else desk
  | .pump conditions => desk.runLoop conditions
  | .process =>
    match desk.inputs with
    | [] => desk
    | message :: inputs => { desk with actor := (desk.actor.receive message).1, inputs }
  | .message message =>
    if message.asInput.keepsPlayback then { desk with inputs := desk.inputs ++ [message] }
    else desk

end StreamDesk

/-- A stream from its start on. -/
def streamDesk : Machine StreamDesk StreamStep Unit where
  init desk := actor.Reachable desk.actor ∧ desk.stop = false ∧ desk.paused = false ∧
    desk.accumulatedPauseOffsetMs = 0 ∧ desk.phase = .top ∧ desk.received = [] ∧ desk.handed = []
  step desk x := (desk.step x, ())

end Desktop

end SilentDisco
