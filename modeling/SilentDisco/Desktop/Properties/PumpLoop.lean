import SilentDisco.Desktop.PumpLoop

/-!
# The pump of the host and its loop

The pump of `HostNetwork` takes several looks of the loop at once. Every run of the loop, with the
calls in between, is a run of the host that hands over the same frames: a step of the loop is a step
of the host's pump, or the host does not see it.

## Main definitions

* `StreamDesk.meets`: what the pump of the host meets during a step of the loop
* `Tracks`: the host has the stream of the desk until it is stopped
* `Matches`: the host reaches a later state of the desk

## Main results

* `tracks_start`: a host that has started a stream tracks its desk
* `loop_refines_host`: it tracks the desk along every run
-/

namespace SilentDisco.Desktop

open Protocol Transport PlaybackStreamer StreamDesk

/-- The packetizer has ended only where the pump looks for it, and the clock is read for audio. -/
def LoopPhase.Sound (disconnected : Bool) : LoopPhase → Prop
  | .top | .running | .unpaused | .applying _ _ | .leaving _ | .tail _ _ | .stopping _ _
  | .reporting _ _ | .exited => True
  | .timing frame _ => disconnected = false ∧ frame.isAudio = true
  | _ => disconnected = false

/-- What the pump of the host meets during a step of the loop. -/
def StreamDesk.meets (desk : StreamDesk) (conditions : LoopConditions) : PumpConditions :=
  let now : MonotonicMillis := ⟨0⟩
  match desk.phase with
  | .unpaused | .timing _ _ => { now, succeeded := conditions.clock.isOk, arrived := false }
  | .applying nowMs offsetMs =>
    { now
      succeeded := ∀ boundary ∈ desk.pendingBoundaries.head?,
        boundaryTimeMs desk.streamStart.hostStartTimeMs.get.toNat offsetMs boundary ≤ nowMs →
          conditions.submission = none
      arrived := false
      audible := desk.pendingBoundaries.isEmpty }
  | .receiving => { now, arrived := conditions.arrived }
  | .admitted _ =>
    { now, succeeded := desk.authoritativeBoundaries || conditions.submission.isNone }
  | .timed _ _ now => { now }
  | .handing _ _ => { now, queued := conditions.queue.isNone }
  | _ => { now }

/-- The frames that a step of the host's pump hands over. -/
def HostNetwork.handedBy (s : HostNetwork) : HostStep → List ProtocolFrame
  | .pump conditions =>
    match s.playback with
    | some p =>
      if p.pump = .ending then []
      else (p.advance { conditions with queued := conditions.queued && s.room }).2.toList
    | none => []
  | _ => []

/-- The frames that the host's pump has handed over after a run. -/
abbrev handedAfter : List ProtocolFrame → HostNetwork → List HostStep → List ProtocolFrame :=
  hostNetwork.record fun frames s x => frames ++ s.handedBy x

/-- The host has the stream of the desk. -/
structure Streams (desk : StreamDesk) (s : HostNetwork) : Prop where
  running : desk.stop = false
  playback : s.playback = some desk.streamer
  sound : desk.phase.Sound desk.packetizerDisconnected

/-- The host has the stream of the desk until it is stopped. -/
def Tracks (desk : StreamDesk) (s : HostNetwork) : Prop :=
  Streams desk s ∨ desk.stop = true ∧ s.playback = none

/-- The host reaches a later state of the desk, with the same frames handed over. -/
def Matches (desk : StreamDesk) (s : HostNetwork) (desk' : StreamDesk) : Prop :=
  ∃ steps, Tracks desk' (hostNetwork.after s steps) ∧
    desk'.handed.map Handoff.frame = handedAfter (desk.handed.map Handoff.frame) s steps

theorem tracks_start {s : HostNetwork} {streamStart : StreamStart}
    {source : PacketSource streamStart} {call : CallConditions} {joined spawned : Bool}
    (hok : (s.startPlayback streamStart source call joined spawned).2 = .returned (.ok ()))
    (actor : ActorState) : Tracks { streamStart, source := source.frames, actor }
      (s.startPlayback streamStart source call joined spawned).1 := by
  revert hok
  fun_cases HostNetwork.startPlayback with
  | case5 => exact fun _ => .inl ⟨rfl, rfl, trivial⟩
  | _ => nofun

variable {desk desk' : StreamDesk} {s : HostNetwork}

theorem Matches.of_after {steps : List HostStep} {desk'' : StreamDesk}
    (h : Matches desk' (hostNetwork.after s steps) desk'')
    (hhanded : desk'.handed.map Handoff.frame =
      handedAfter (desk.handed.map Handoff.frame) s steps) : Matches desk s desk'' := by
  obtain ⟨steps', htracks, hhanded'⟩ := h
  refine ⟨steps ++ steps', ?_, ?_⟩
  · rwa [Machine.after_append]
  · rw [handedAfter, Machine.record_append, hhanded', hhanded]

/-- The worker of the host makes room in the queue. -/
theorem exists_room (s : HostNetwork) : ∃ steps, (hostNetwork.after s steps).room = true ∧
    (hostNetwork.after s steps).playback = s.playback ∧
    ∀ frames, handedAfter frames s steps = frames := by
  obtain ⟨session, ⟨consumer, queue⟩, playback, stopping⟩ := s
  induction queue generalizing consumer with
  | nil => exact ⟨[], rfl, rfl, fun _ => rfl⟩
  | cons frame queue ih =>
    obtain ⟨steps, hroom, hplayback, hhanded⟩ := ih (broadcastFrame session consumer frame).1
    exact ⟨.deliver :: steps, hroom, hplayback, fun _ => (hhanded _).trans (List.append_nil _)⟩

namespace Streams

section

variable (h : Streams desk s) (hstop : desk'.stop = desk.stop)
  (hsound : desk'.phase.Sound desk'.packetizerDisconnected)
include h hstop hsound

/-- The host does not see the step. -/
theorem stays (hstreamer : desk'.streamer = desk.streamer) (hhanded : desk'.handed = desk.handed) :
    Matches desk s desk' :=
  ⟨[], .inl ⟨hstop.trans h.running, hstreamer ▸ h.playback, hsound⟩, congrArg _ hhanded⟩

/-- The pump of the host takes the step. -/
theorem moves (hroom : s.room = true) (conditions : PumpConditions)
    (hstreamer : desk'.streamer = (desk.streamer.advance conditions).1)
    (hhanded : desk'.handed.map Handoff.frame = desk.handed.map Handoff.frame ++
      if desk.streamer.pump = .ending then []
      else (desk.streamer.advance conditions).2.toList) : Matches desk s desk' := by
  have hqueued : { conditions with queued := conditions.queued && s.room } = conditions := by
    rw [hroom, Bool.and_true]
  refine ⟨[.pump conditions], .inl ⟨hstop.trans h.running, ?_, hsound⟩, ?_⟩
  · change (s.step (.pump conditions)).1.playback = _
    simp only [HostNetwork.step, h.playback, HostNetwork.runPump, hqueued, HostNetwork.leave,
      hstreamer]
  · simp only [handedAfter, Machine.record, HostNetwork.handedBy, h.playback, hqueued, hhanded]

end

theorem playback_call (h : Streams desk s) (hroom : s.room = true)
    (run : PlaybackStreamer → CallConditions → CallOutcome) (call : CallConditions) :
    (s.call run call).1.playback = some (run desk.streamer call).streamer := by
  simp only [HostNetwork.call, h.playback, hroom, Bool.and_true]
  rfl

end Streams

theorem WithinHorizon.of_control {frame : ProtocolFrame} (h : frame.isAudio = false)
    (now : MonotonicMillis) : WithinHorizon now frame := by
  cases frame with
  | audio => cases h
  | _ => trivial

theorem Streams.runLoop (h : Streams desk s) (hroom : s.room = true)
    {conditions : LoopConditions} (hbinding : conditions.binding = none) :
    Matches desk s (desk.runLoop conditions) := by
  have hstop := h.running
  have hsound := h.sound
  have hcontrol := @WithinHorizon.of_control
  unfold StreamDesk.runLoop applyDueBoundaries receiveFrame admitFrame shift handOver
    reportPosition awaitTail report
  simp only [hbinding]
  generalize hphase : desk.phase = phase at hsound ⊢
  cases hended : desk.packetizerDisconnected <;> cases phase <;> dsimp only
  -- the position of the host's pump stays, or that pump meets `desk.meets`
  all_goals repeat' split
  all_goals first
    | (refine h.stays rfl ?_ ?_ rfl <;> simp_all [StreamDesk.goto, submit, stamp, join, streamer,
        LoopPhase.position, LoopPhase.taken, LoopPhase.Sound]; done)
    | (refine h.moves rfl ?_ hroom (desk.meets conditions) ?_ ?_ <;>
        simp_all [StreamDesk.goto, submit, stamp, streamer, LoopPhase.position, LoopPhase.taken,
          LoopPhase.Sound, PlaybackStreamer.goto, advance, look, receive, meets, Except.isOk,
          Except.toBool])

theorem Streams.step (h : Streams desk s) (hroom : s.room = true) {x : StreamStep}
    (hx : ∀ conditions, x = .pump conditions → conditions.binding = none) :
    Matches desk s (desk.step x) := by
  cases x with
  | pump conditions => exact h.runLoop hroom (hx conditions rfl)
  | pause call =>
    dsimp only [StreamDesk.step]
    split_ifs
    · refine ⟨[.pause call], .inl ⟨h.running, (h.playback_call hroom _ call).trans ?_, h.sound⟩,
        (List.append_nil _).symm⟩
      rcases @pausePlayback_cases desk.streamer call with ⟨error, heq⟩ | ⟨-, heq⟩ <;>
        rw [heq] <;> rfl
    · exact h.stays rfl h.sound rfl rfl
  | resume call =>
    dsimp only [StreamDesk.step]
    split_ifs
    · refine ⟨[.resume call], .inl ⟨h.running, (h.playback_call hroom _ call).trans ?_, h.sound⟩,
        (List.append_nil _).symm⟩
      rcases @resumePlayback_cases desk.streamer call with ⟨result, heq, -⟩ | ⟨-, -, heq⟩ <;>
        rw [heq] <;> rfl
    · exact h.stays rfl h.sound rfl rfl
  | stop =>
    dsimp only [StreamDesk.step]
    split_ifs
    · refine ⟨[.stop], .inr ⟨rfl, ?_⟩, (List.append_nil _).symm⟩
      change (s.step .stop).1.playback = none
      simp only [HostNetwork.step, HostNetwork.stopPlayback, h.playback]
    · exact h.stays rfl h.sound rfl rfl
  | process | message =>
    dsimp only [StreamDesk.step]
    split <;> exact h.stays rfl h.sound rfl rfl

/-- A stream that is stopped hands over nothing more. -/
theorem stopped_step (hstop : desk.stop = true) (x : StreamStep) :
    (desk.step x).stop = true ∧ (desk.step x).handed = desk.handed := by
  unfold StreamDesk.step StreamDesk.runLoop applyDueBoundaries receiveFrame admitFrame shift
    handOver reportPosition awaitTail report
  simp only [hstop, or_true, if_true]
  repeat' split
  all_goals exact ⟨by first | exact hstop | rfl, rfl⟩

theorem Tracks.step (h : Tracks desk s) {x : StreamStep}
    (hx : ∀ conditions, x = .pump conditions → conditions.binding = none) :
    Matches desk s (desk.step x) := by
  rcases h with h | ⟨hstop, hplayback⟩
  · obtain ⟨steps, hroom, hplayback, hhanded⟩ := exists_room s
    have hstreams : Streams desk (hostNetwork.after s steps) :=
      ⟨h.running, hplayback.trans h.playback, h.sound⟩
    exact (hstreams.step hroom hx).of_after (hhanded _).symm
  · obtain ⟨hstop', hhanded⟩ := stopped_step hstop x
    exact ⟨[], .inr ⟨hstop', hplayback⟩, congrArg _ hhanded⟩

/-- **The loop refines the host.** A host that has the stream of a desk tracks it along every
run in which the pump finds the host session, and hands over the same frames. -/
theorem loop_refines_host (h : Tracks desk s) {steps : List StreamStep}
    (hbound : ∀ conditions, .pump conditions ∈ steps → conditions.binding = none) :
    Matches desk s (streamDesk.after desk steps) := by
  induction steps generalizing desk s with
  | nil => exact ⟨[], h, rfl⟩
  | cons x steps ih =>
    obtain ⟨hostSteps, htracks, hhanded⟩ :=
      h.step fun conditions hx => hbound conditions (hx ▸ List.mem_cons_self)
    exact (ih htracks fun conditions hmem =>
      hbound conditions (List.mem_cons_of_mem _ hmem)).of_after hhanded

end SilentDisco.Desktop
