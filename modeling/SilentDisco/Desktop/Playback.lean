import SilentDisco.Audio.JitterBuffer
import SilentDisco.Library.Fifo
import SilentDisco.Protocol.Codec
import SilentDisco.Transport.PlaybackControls

/-!
# Playback of the desktop host

The desktop host starts, pauses, resumes and stops one stream at a time. Its calls and the pump
thread of the stream append their frames to one queue under one lock; the transport worker hands
the frames of the queue to the transport in order, which broadcasts those that its playback
controls accept.

One step is a call, the pump's next look at the flags that it shares with the calls, or one frame
of the worker. A pause, a resume and a stop hold the lock throughout. A start takes it twice, and a
call that comes between finds no stream, as it would before the start. The pump's local variables
are part of its position, since a call may come between any two of its looks.

## Main definitions

* `PacketSource`: the frames of a packetizer
* `PlaybackStreamer`: the owner of a stream, with the position of its pump
* `PlaybackStreamer.pausePlayback`, `PlaybackStreamer.resumePlayback`: the two calls
* `HostNetwork`, `hostNetwork`: the host of one session, and its machine
-/

namespace SilentDisco.Desktop

open Protocol Transport

def broadcastFrameQueueCapacity : ℕ := 256

/-- How far ahead of the transport's time the pump sends. -/
def sendAheadHorizonMs : ℕ := 1000

/-! ## Frames of a packetizer -/

variable (start : StreamStart)

/-- The position of a packet on the timeline of its stream. -/
def packetPositionMs (n : ℕ) : ℕ :=
  (n * start.samplesPerPacket.toNat * 1000 + start.sampleRate.toNat / 2) / start.sampleRate.toNat

/-- The presentation time of a packet whose stream has been paused for a while. -/
def packetTimeMs (n offsetMs : ℕ) : ℕ :=
  min (start.hostStartTimeMs.get.toNat + packetPositionMs start n + offsetMs) u64Max

/-- A packet of a stream, stamped for the time that the stream has been paused. -/
structure IsPacket (n offsetMs : ℕ) (packet : AudioDatagram) : Prop where
  sessionId : packet.sessionId = start.sessionId
  streamId : packet.streamId = start.streamId
  sequence : packet.sequence.get.toNat = n
  first : packet.firstSampleIndex.get.toNat = n * start.samplesPerPacket.toNat
  samples : packet.samplesPerPacket = start.samplesPerPacket
  time : packet.hostPresentationTimeMs.get.toNat = packetTimeMs start n offsetMs
  encodes : ∀ time,
    (encodeFrame (.audio { packet with hostPresentationTimeMs := time })).isOk = true

/-- The packets of a stream from the `n`-th on, with boundaries of its tracks between them. -/
def Packetized (start : StreamStart) : ℕ → List ProtocolFrame → Prop
  | _, [] => True
  | n, .audio packet :: rest => IsPacket start n 0 packet ∧ Packetized start (n + 1) rest
  | n, .control (.trackBoundary _) :: rest => Packetized start n rest
  | _, _ :: _ => False

/-- What a packetizer hands to the pump of its stream. -/
structure PacketSource where
  frames : List ProtocolFrame
  packetized : Packetized start 0 frames

/-- Add the time of the pauses to a packet. -/
def applyPauseOffset (offsetMs : ℕ) : ProtocolFrame → ProtocolFrame
  | .audio packet =>
    .audio { packet with
      hostPresentationTimeMs :=
        ⟨.ofNat (saturatingAdd packet.hostPresentationTimeMs.get.toNat offsetMs)⟩ }
  | frame => frame

/-! ## The transport -/

/-- What becomes of a frame that the worker hands to the transport. -/
inductive Delivery
  /-- It is of another session, or it cannot be encoded. -/
  | failed
  /-- The playback controls reject it. -/
  | dropped
  | broadcast
  deriving DecidableEq

def Delivery.ofAnswer (accepted : Bool) : Delivery := if accepted then .broadcast else .dropped

/-- Hand a frame to the transport. The host does not broadcast frames of the clock
synchronization. -/
def broadcastFrame (session : SessionId) (c : PlaybackControls) (frame : ProtocolFrame) :
    PlaybackControls × Delivery :=
  if frame.sessionId ≠ session then (c, .failed)
  else if (encodeFrame frame).isOk = false then (c, .failed)
  else
    match frame with
    | .control message => (c.update message).map id .ofAnswer
    | .audio packet => (c.permitsAudio packet).map id .ofAnswer
    | _ => (c, .failed)

/-! ## A stream -/

/-- Where the pump is, with its local variables: a frame and the offset that was applied to it. -/
inductive Pump
  /-- At the top of the loop. -/
  | polling
  /-- Waiting for a frame of the packetizer. -/
  | receiving
  /-- At the top of the loop that waits for the horizon. -/
  | holding (frame : ProtocolFrame) (appliedMs : ℕ)
  /-- The stream was not paused. -/
  | unpaused (frame : ProtocolFrame) (appliedMs : ℕ)
  /-- The frame has the latest offset. -/
  | shifted (frame : ProtocolFrame) (appliedMs : ℕ)
  /-- The frame is due. -/
  | due (frame : ProtocolFrame) (appliedMs : ℕ)
  /-- The packetizer has ended; the boundaries of the last tracks become audible. -/
  | draining
  /-- The same, and the stream was not paused. -/
  | clearing
  /-- Outside the loop, before the stop is broadcast. -/
  | ending
  | finished
  deriving DecidableEq

structure PlaybackStreamer where
  /-- The start of the stream, as it was first broadcast. -/
  streamStart : StreamStart
  paused : Bool := false
  pausedAtMs : ℕ := 0
  accumulatedPauseOffsetMs : ℕ := 0
  /-- The frames that the packetizer still hands out. -/
  source : List ProtocolFrame
  pump : Pump := .polling
  deriving DecidableEq

inductive PlaybackError
  | noPlayback
  | alreadyActive
  /-- The actor did not take an event. -/
  | actor
  /-- The frame was not queued. -/
  | network
  /-- The previous pump had failed, or the new one could not be started. -/
  | pump
  deriving DecidableEq

/-- What a call meets: the transport's clock, and whether the actor and the queue take what it
sends. -/
structure CallConditions where
  now : MonotonicMillis
  submitted : Bool := true
  queued : Bool := true
  /-- The actor takes the event that undoes the first one. -/
  compensated : Bool := true
  deriving DecidableEq

/-- What a call leaves, broadcasts and returns. -/
structure CallOutcome where
  streamer : PlaybackStreamer
  broadcast : Option ControlMessage := none
  result : Except PlaybackError Unit
  deriving DecidableEq

namespace PlaybackStreamer

variable (p : PlaybackStreamer) (call : CallConditions)

/-- The actor has taken the event, but the frame was not queued. -/
def notQueued : CallOutcome :=
  ⟨p, none, .error (if call.compensated then .network else .actor)⟩

def pausePlayback : CallOutcome :=
  if call.submitted = false then ⟨p, none, .error .actor⟩
  else if call.queued = false then p.notQueued call
  else
    ⟨{ p with pausedAtMs := call.now.get.toNat, paused := true },
      some (.pause ⟨p.streamStart.sessionId, p.streamStart.streamId, call.now⟩), .ok ()⟩

/-- The time of all pauses, when the stream is resumed. -/
def totalOffsetMs (now : MonotonicMillis) : ℕ :=
  saturatingAdd p.accumulatedPauseOffsetMs (now.get.toNat - p.pausedAtMs)

/-- The start of the stream, moved by the time of its pauses. -/
def reanchoredStart (offsetMs : ℕ) : StreamStart :=
  { p.streamStart with
    hostStartTimeMs :=
      ⟨.ofNat (saturatingAdd p.streamStart.hostStartTimeMs.get.toNat offsetMs)⟩ }

def resumePlayback : CallOutcome :=
  if call.submitted = false then ⟨p, none, .error .actor⟩
  else if p.paused = false then ⟨p, none, .ok ()⟩
  else if call.queued = false then p.notQueued call
  else
    ⟨{ p with
        accumulatedPauseOffsetMs := p.totalOffsetMs call.now
        pausedAtMs := 0
        paused := false },
      some (.streamStart (p.reanchoredStart (p.totalOffsetMs call.now))), .ok ()⟩

/-- The stream is paused at a time. -/
def pausedAt (now : MonotonicMillis) : PlaybackStreamer :=
  { p with pausedAtMs := now.get.toNat, paused := true }

/-- The stream is resumed at a time. -/
def resumedAt (now : MonotonicMillis) : PlaybackStreamer :=
  { p with accumulatedPauseOffsetMs := p.totalOffsetMs now, pausedAtMs := 0, paused := false }

variable {p call}

/-- A pause fails and changes nothing, or the stream is paused. -/
theorem pausePlayback_cases :
    (∃ error, p.pausePlayback call = ⟨p, none, .error error⟩) ∨
      call.queued = true ∧ p.pausePlayback call = ⟨p.pausedAt call.now,
        some (.pause ⟨p.streamStart.sessionId, p.streamStart.streamId, call.now⟩), .ok ()⟩ := by
  unfold pausePlayback notQueued
  split_ifs with hsubmitted hqueued
  · exact .inl ⟨_, rfl⟩
  · exact .inl ⟨_, rfl⟩
  · exact .inl ⟨_, rfl⟩
  · exact .inr ⟨Bool.of_not_eq_false hqueued, rfl⟩

/-- A resume of a stream that is not paused, or one that fails, changes nothing; otherwise the
stream is resumed. -/
theorem resumePlayback_cases :
    (∃ result, p.resumePlayback call = ⟨p, none, result⟩ ∧
      (p.paused = true → result ≠ .ok ())) ∨
      p.paused = true ∧ call.queued = true ∧ p.resumePlayback call = ⟨p.resumedAt call.now,
        some (.streamStart (p.reanchoredStart (p.totalOffsetMs call.now))), .ok ()⟩ := by
  unfold resumePlayback notQueued
  split_ifs with hsubmitted hpaused hqueued hcompensated
  · exact .inl ⟨_, rfl, fun _ h => by cases h⟩
  · exact .inl ⟨_, rfl, fun h => absurd (hpaused.symm.trans h) Bool.false_ne_true⟩
  · exact .inl ⟨_, rfl, fun _ h => by cases h⟩
  · exact .inl ⟨_, rfl, fun _ h => by cases h⟩
  · exact .inr ⟨Bool.of_not_eq_false hpaused, Bool.of_not_eq_false hqueued, rfl⟩

end PlaybackStreamer

/-! ## The pump -/

/-- What the pump meets. -/
structure PumpConditions where
  now : MonotonicMillis
  /-- The clock is read, and the actor takes what the pump submits. -/
  succeeded : Bool := true
  queued : Bool := true
  /-- The packetizer hands out a frame or has ended. -/
  arrived : Bool := true
  /-- All boundaries have become audible. -/
  audible : Bool := true
  deriving DecidableEq

/-- A frame may be sent: audio only within the horizon. -/
def WithinHorizon (now : MonotonicMillis) : ProtocolFrame → Prop
  | .audio packet =>
    packet.hostPresentationTimeMs.get.toNat - now.get.toNat ≤ sendAheadHorizonMs
  | _ => True

instance (now : MonotonicMillis) : (frame : ProtocolFrame) → Decidable (WithinHorizon now frame)
  | .audio _ => inferInstanceAs (Decidable (_ ≤ _))
  | .control _ | .syncRequest _ | .syncResponse _ => isTrue trivial

def stopFrame (session : SessionId) (stream : StreamId) (now : MonotonicMillis) : ProtocolFrame :=
  .control (.stop ⟨session, stream, now⟩)

namespace PlaybackStreamer

variable (p : PlaybackStreamer) (conditions : PumpConditions)

def goto (pump : Pump) : PlaybackStreamer := { p with pump }

/-- Take the next frame of the packetizer. -/
def receive : PlaybackStreamer :=
  match p.source with
  | [] => p.goto .draining
  | frame :: rest =>
    match frame, conditions.succeeded with
    | .control (.trackBoundary _), false => { p with source := rest, pump := .ending }
    | _, _ =>
      { p with
        source := rest
        pump := .holding (applyPauseOffset p.accumulatedPauseOffsetMs frame)
          p.accumulatedPauseOffsetMs }

/-- The pump's next look at the flags, the clock or the packetizer. -/
def look : PlaybackStreamer :=
  match p.pump with
  | .polling => p.goto (if p.paused then .polling else .receiving)
  | .receiving =>
    -- the boundaries that are due are applied first
    if conditions.arrived then p.receive conditions
    else p.goto (if conditions.succeeded then .polling else .ending)
  | .holding frame appliedMs =>
    p.goto (if p.paused then .holding frame appliedMs else .unpaused frame appliedMs)
  | .unpaused frame appliedMs =>
    let latestMs := p.accumulatedPauseOffsetMs
    p.goto (if appliedMs < latestMs then
        .shifted (applyPauseOffset (latestMs - appliedMs) frame) latestMs
      else .shifted frame appliedMs)
  | .shifted frame appliedMs =>
    -- the flag is read before and after the clock
    p.goto (if conditions.succeeded = false ∧ frame.isAudio then .ending
      else if ¬p.paused ∧ WithinHorizon conditions.now frame then .due frame appliedMs
      else .holding frame appliedMs)
  | .draining => p.goto (if p.paused then .draining else .clearing)
  | .clearing =>
    p.goto (if conditions.succeeded = false ∨ conditions.audible then .ending else .draining)
  | .due _ _ | .ending | .finished => p

/-- The pump's next step, and the frame that it sends. -/
def advance : PlaybackStreamer × Option ProtocolFrame :=
  match p.pump with
  | .due frame appliedMs =>
    if p.paused then (p.goto (.holding frame appliedMs), none)
    else if conditions.queued then (p.goto .polling, some frame)
    else (p.goto .ending, none)
  | .ending =>
    -- a stop that is not queued is only reported
    (p.goto .finished,
      if conditions.queued then
        some (stopFrame p.streamStart.sessionId p.streamStart.streamId conditions.now)
      else none)
  | _ => (p.look conditions, none)

end PlaybackStreamer

/-! ## The host -/

/-- The host of one session. -/
structure HostNetwork where
  session : SessionId
  /-- The transport, behind the queue of its worker. -/
  line : Line PlaybackControls ProtocolFrame := ⟨{}, []⟩
  playback : Option PlaybackStreamer := none
  /-- The streams whose pumps were told to stop and have yet to broadcast it. -/
  stopping : List (SessionId × StreamId) := []
  deriving DecidableEq

inductive HostStep
  /-- Start a stream. The previous pump is joined, and the new one is spawned. -/
  | start (streamStart : StreamStart) (source : PacketSource streamStart) (call : CallConditions)
      (joined spawned : Bool)
  | pause (call : CallConditions)
  | resume (call : CallConditions)
  | stop
  /-- The pump takes its next step. -/
  | pump (conditions : PumpConditions)
  /-- The pump of a stopping stream broadcasts the stop. -/
  | stopped (index : ℕ) (conditions : PumpConditions)
  /-- The worker hands the next frame to the transport. -/
  | deliver

/-- A frame that was handed to the transport. -/
abbrev Answer := Line.Served PlaybackControls ProtocolFrame Delivery

inductive HostOutput
  | none
  | returned (result : Except PlaybackError Unit)
  | delivered (answer : Option Answer)
  deriving DecidableEq

def HostOutput.answer : HostOutput → Option Answer
  | .delivered answer => answer
  | _ => .none

namespace HostNetwork

variable (s : HostNetwork)

/-- The queue has room. -/
def room : Bool := s.line.queue.length < broadcastFrameQueueCapacity

/-- Append a frame to the queue. -/
def send (frame : ProtocolFrame) : HostNetwork := { s with line := s.line.send frame }

/-- Append a frame unless the queue is full or closed. -/
def enqueue (queued : Bool) (frame : ProtocolFrame) : Option HostNetwork :=
  if queued && s.room then some (s.send frame) else none

/-- What a call or the pump leaves: the stream, and a frame that it sends. -/
def leave (p : PlaybackStreamer) (frame : Option ProtocolFrame) : HostNetwork :=
  { s with playback := some p, line := frame.elim s.line s.line.send }

/-- What a call on the stream leaves. -/
def apply (outcome : CallOutcome) : HostNetwork :=
  s.leave outcome.streamer (outcome.broadcast.map .control)

/-- A call on the stream. -/
def call (run : PlaybackStreamer → CallConditions → CallOutcome) (call : CallConditions) :
    HostNetwork × HostOutput :=
  match s.playback with
  | none => (s, .returned (.error .noPlayback))
  | some p =>
    let outcome := run p { call with queued := call.queued && s.room }
    (s.apply outcome, .returned outcome.result)

/-- The pump's next step. -/
def runPump (p : PlaybackStreamer) (conditions : PumpConditions) : HostNetwork :=
  let advanced := p.advance { conditions with queued := conditions.queued && s.room }
  s.leave advanced.1 advanced.2

/-- A stream is playing, or its end was not broadcast yet. -/
def playbackIsActive : Prop := ∃ p ∈ s.playback, p.pump ≠ .finished

instance : Decidable s.playbackIsActive := inferInstanceAs (Decidable (∃ _ ∈ _, _))

def startPlayback (streamStart : StreamStart) (source : PacketSource streamStart)
    (call : CallConditions) (joined spawned : Bool) : HostNetwork × HostOutput :=
  let idle := { s with playback := none }
  if s.playbackIsActive then (s, .returned (.error .alreadyActive))
  else if s.playback.isSome ∧ joined = false then (idle, .returned (.error .pump))
  else if call.submitted = false then (idle, .returned (.error .actor))
  else
    match idle.enqueue call.queued (.control (.streamStart streamStart)) with
    | none => (idle, .returned (.error .network))
    | some started =>
      if spawned then
        ({ started with playback := some { streamStart, source := source.frames } },
          .returned (.ok ()))
      else (started, .returned (.error .pump))

/-- Detach the stream and tell its pump to stop. -/
def stopPlayback : HostNetwork × HostOutput :=
  match s.playback with
  | none => (s, .returned (.error .noPlayback))
  | some p =>
    ({ s with
        playback := none
        stopping :=
          if p.pump = .finished then s.stopping
          else s.stopping ++ [(p.streamStart.sessionId, p.streamStart.streamId)] },
      .returned (.ok ()))

/-- The pump of a stopping stream broadcasts the stop and exits. -/
def finishStopping (index : ℕ) (conditions : PumpConditions) : HostNetwork :=
  match s.stopping[index]? with
  | none => s
  | some (session, stream) =>
    let stopped := { s with stopping := s.stopping.eraseIdx index }
    if conditions.queued && s.room then stopped.send (stopFrame session stream conditions.now)
    else stopped

/-- The worker hands the first frame of the queue to the transport. -/
def processBroadcastFrame : HostNetwork × HostOutput :=
  let (line, answer) := s.line.serveNext (broadcastFrame s.session)
  ({ s with line }, .delivered answer)

def step : HostStep → HostNetwork × HostOutput
  | .start streamStart source call joined spawned =>
    s.startPlayback streamStart source call joined spawned
  | .pause call => s.call PlaybackStreamer.pausePlayback call
  | .resume call => s.call PlaybackStreamer.resumePlayback call
  | .stop => s.stopPlayback
  | .pump conditions =>
    match s.playback with
    | none => (s, .none)
    | some p => (s.runPump p conditions, .none)
  | .stopped index conditions => (s.finishStopping index conditions, .none)
  | .deliver => s.processBroadcastFrame

end HostNetwork

/-- The host of a session under any calls, with its threads in any order. -/
def hostNetwork : Machine HostNetwork HostStep HostOutput where
  init s := ∃ session, s = { session }
  step := HostNetwork.step

end SilentDisco.Desktop
