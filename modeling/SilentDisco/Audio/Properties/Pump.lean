import SilentDisco.Audio.PlaybackPump
import SilentDisco.Audio.Properties.Order

/-!
# Conservation of samples in the pump

In every call, the samples that the ring accepts followed by those that are pending after it are
the ones that were pending before it followed by what the call queues: the frames in the
scheduler's replies to the calls that the pump makes on it, with the silence before the first one.
Only a realignment after an underrun of the output drops pending samples.

## Main definitions

* `PlaybackPump.asks`: the calls on the scheduler that a call of the pump makes
* `PlaybackPump.handedOver`: the frames in the scheduler's replies to them
* `PlaybackPump.queuedBy`: the silence and the frames that a call queues
* `PumpFlow`: the samples queued and accepted since the last realignment

## Main results

* `PlaybackPump.scheduler_next`: the pump drives its scheduler by these calls and no others
* `pump_conserves_audio`: every run
-/

namespace SilentDisco

open Protocol Result

namespace PlaybackPump

variable (pump : PlaybackPump)

/-! ## Calls on the scheduler -/

/-- A poll for a frame. A scheduler that awaits a rebuffer is rebuffered at once. -/
def pollCalls (now : UInt64) : List SchedulerCall :=
  let horizon : UInt64 := .ofNat (saturatingAdd now.toNat pump.config.writeLeadMs.toNat)
  .pollWithReleaseHorizon now horizon ::
    match (pump.scheduler.pollWithReleaseHorizon now horizon).1 with
    | .awaitingRebuffer => [.rebuffer pump.offsetMs]
    | _ => []

/-- A frame is polled for when nothing is pending and the ring is not deep enough. -/
def advanceCalls (now : UInt64) (view : RingView) : List SchedulerCall :=
  if ¬pump.pending.isEmpty ∨ view.queuedFrames ≥ pump.config.targetDepthFrames then []
  else pump.pollCalls now

/-- The calls on the scheduler that a call makes. -/
def asks : PumpCall → List SchedulerCall
  | .submitPacket datagram => if pump.syncLocked then [.submitPacket datagram] else []
  | .applySyncOffset offsetMs =>
    if ¬offsetMs.isFinite then []
    else if ¬pump.syncLocked then [.rebuffer offsetMs]
    else if pump.jumps offsetMs then
      .applyOffsetUpdate offsetMs ::
        if pump.scheduler.jumps offsetMs then [.rebuffer offsetMs] else []
    else [.applyOffsetUpdate (pump.slewed offsetMs)]
  | .tick now view =>
    if ¬pump.syncLocked then []
    else
      (if pump.ranDry view.underrunCallbacks then [.realignToNow now] else []) ++
        (pump.realignAfterOutputUnderrun now view.underrunCallbacks).advanceCalls now view
  | .finish _ => [.drainRemaining, .stop]
  | .setVolume _ => []
  | .scheduler call => [call]

/-- The frames that the scheduler hands to the pump during a call. Those that a caller takes from
the scheduler itself are not among them. -/
def handedOver : PumpCall → List ScheduledFrame
  | .scheduler _ => []
  | call => emittedFrames pump.scheduler (pump.asks call)

/-- The silence before the first of the frames, if it is to be aligned. -/
def silenceOf (aligned : Bool) (now : UInt64) : List ScheduledFrame → ℕ
  | [] => 0
  | frame :: _ => if aligned then pump.prefillOf frame now else 0

/-- The silence that a call queues. -/
def silenceBefore : PumpCall → ℕ
  | .tick now view =>
    { pump with scheduler := playbackScheduler.after pump.scheduler (pump.asks (.tick now view)) }
      |>.silenceOf (pump.awaitingPrefill || pump.ranDry view.underrunCallbacks) now
        (pump.handedOver (.tick now view))
  | _ => 0

/-- A frame as the pump queues it. -/
def convert (frame : ScheduledFrame) : List Float32 := frame.samples.map pump.convertSample

/-- Silence and frames as the pump queues them. -/
def queued (silence : ℕ) (frames : List ScheduledFrame) : List Float32 :=
  List.replicate (silence * renderChannels) 0.0 ++ frames.flatMap pump.convert

/-- What a call queues. -/
def queuedBy (call : PumpCall) : List Float32 :=
  pump.queued (pump.silenceBefore call) (pump.handedOver call)

/-- The pending samples that a call keeps. -/
def keptBy (effect : PumpEffect) : List Float32 := if effect.realigned then [] else pump.pending

variable {pump} (frame : ScheduledFrame)

/-! ## Pushes -/

theorem flushPending_conserves (room : ℕ) :
    (pump.flushPending room).1.2 ++ (pump.flushPending room).2.pending = pump.pending := by
  unfold flushPending
  split_ifs with hempty
  · rfl
  · exact List.take_append_drop _ _

theorem flushPending_frame (room : ℕ) : (pump.flushPending room).2.scheduler = pump.scheduler ∧
    (pump.flushPending room).2.config = pump.config := by
  unfold flushPending
  split_ifs <;> exact ⟨rfl, rfl⟩

theorem enqueueFrame_conserves (room : ℕ) :
    (pump.enqueueFrame frame room).1.2 ++ (pump.enqueueFrame frame room).2.pending =
      pump.pending ++ pump.convert frame :=
  flushPending_conserves room

theorem convert_eq_of_config {other : PlaybackPump} (h : other.config = pump.config) :
    other.convert = pump.convert := by
  unfold convert convertSample
  rw [h]

theorem enqueueFrames_conserves (frames : List ScheduledFrame) (rooms : List ℕ) :
    (pump.enqueueFrames frames rooms).1.2 ++ (pump.enqueueFrames frames rooms).2.pending =
      pump.pending ++ frames.flatMap pump.convert := by
  induction frames generalizing pump rooms with
  | nil => simp [enqueueFrames]
  | cons frame frames ih =>
    have hconfig : (pump.enqueueFrame frame (rooms.headD 0)).2.config = pump.config :=
      (flushPending_frame _).2
    rw [List.flatMap_cons, ← List.append_assoc, ← enqueueFrame_conserves frame (rooms.headD 0),
      ← convert_eq_of_config hconfig, List.append_assoc, ← ih rooms.tail, ← List.append_assoc]
    rfl

theorem enqueueFrames_scheduler (frames : List ScheduledFrame) (rooms : List ℕ) :
    (pump.enqueueFrames frames rooms).2.scheduler = pump.scheduler := by
  induction frames generalizing pump rooms with
  | nil => rfl
  | cons frame frames ih => exact (ih rooms.tail).trans (flushPending_frame _).1

/-! ## Calls -/

variable (now : UInt64)

theorem queueAlignmentPrefill_pending :
    (pump.queueAlignmentPrefill frame now).pending =
      pump.pending ++
        List.replicate (pump.silenceOf pump.awaitingPrefill now [frame] * renderChannels) 0.0 := by
  unfold queueAlignmentPrefill silenceOf
  split_ifs
  · rfl
  · simp

theorem queueAlignmentPrefill_frame :
    (pump.queueAlignmentPrefill frame now).scheduler = pump.scheduler ∧
      (pump.queueAlignmentPrefill frame now).config = pump.config := by
  unfold queueAlignmentPrefill
  split_ifs <;> exact ⟨rfl, rfl⟩

/-- A call makes calls on the scheduler and queues the frames in the replies. -/
structure Follows (pump : PlaybackPump) (now : UInt64) (calls : List SchedulerCall)
    (effect : PumpEffect) (next : PlaybackPump) : Prop where
  scheduler_eq : next.scheduler = playbackScheduler.after pump.scheduler calls
  conserves : effect.accepted ++ next.pending =
    pump.pending ++
      pump.queued
        (silenceOf { pump with scheduler := playbackScheduler.after pump.scheduler calls }
          pump.awaitingPrefill now (emittedFrames pump.scheduler calls))
        (emittedFrames pump.scheduler calls)

/-- A call that gets no frame. -/
theorem follows_of_no_frames {calls : List SchedulerCall} {effect : PumpEffect}
    {next : PlaybackPump}
    (hscheduler : next.scheduler = playbackScheduler.after pump.scheduler calls)
    (hframes : emittedFrames pump.scheduler calls = [])
    (hpending : effect.accepted ++ next.pending = pump.pending) :
    pump.Follows now calls effect next :=
  ⟨hscheduler, by simp [hframes, queued, silenceOf, hpending]⟩

/-- The silence and the frame are queued in this order. -/
theorem queueFrame_conserves (room : ℕ) :
    (pump.queueFrame frame now room).1.2.accepted ++ (pump.queueFrame frame now room).2.pending =
      pump.pending ++ pump.queued (pump.silenceOf pump.awaitingPrefill now [frame]) [frame] := by
  let prefilled := pump.queueAlignmentPrefill frame now
  calc (prefilled.enqueueFrame frame room).1.2 ++ (prefilled.enqueueFrame frame room).2.pending
      = prefilled.pending ++ prefilled.convert frame := enqueueFrame_conserves frame room
    _ = pump.pending ++ pump.queued (pump.silenceOf pump.awaitingPrefill now [frame]) [frame] := by
        rw [convert_eq_of_config (queueAlignmentPrefill_frame frame now).2,
          queueAlignmentPrefill_pending, List.append_assoc, queued, List.flatMap_singleton]

theorem queueFrame_scheduler (room : ℕ) :
    (pump.queueFrame frame now room).2.scheduler = pump.scheduler :=
  (flushPending_frame room).1.trans (queueAlignmentPrefill_frame frame now).1

theorem pollScheduler_follows (room : ℕ) :
    pump.Follows now (pump.pollCalls now) (pump.pollScheduler now room).1.2
      (pump.pollScheduler now room).2 := by
  unfold pollScheduler pollCalls
  dsimp only
  generalize UInt64.ofNat (saturatingAdd now.toNat pump.config.writeLeadMs.toNat) = horizon
  have hframes (calls : List SchedulerCall) : emittedFrames pump.scheduler
      (.pollWithReleaseHorizon now horizon :: calls) =
        (pump.scheduler.pollWithReleaseHorizon now horizon).1.frames ++
          emittedFrames (pump.scheduler.pollWithReleaseHorizon now horizon).2 calls := rfl
  cases hpoll : (pump.scheduler.pollWithReleaseHorizon now horizon).1 with
  | buffering | waiting | stopped | awaitingRebuffer =>
    refine follows_of_no_frames now rfl ?_ rfl
    rw [hframes, hpoll]
    rfl
  | frame frame =>
    have hone : emittedFrames pump.scheduler [.pollWithReleaseHorizon now horizon] = [frame] := by
      rw [hframes, hpoll]
      rfl
    refine ⟨queueFrame_scheduler frame now room, ?_⟩
    rw [hone]
    -- The scheduler does not affect how samples are converted.
    exact @queueFrame_conserves { pump with scheduler := _ } frame now room

theorem advance_follows (view : RingView) :
    pump.Follows now (pump.advanceCalls now view) (pump.advance now view).1.2
      (pump.advance now view).2 := by
  unfold advance advanceCalls
  by_cases hpending : pump.pending.isEmpty
  · by_cases hdeep : view.queuedFrames ≥ pump.config.targetDepthFrames
    · simp only [hpending, hdeep, not_true_eq_false, if_false, if_true, or_true]
      exact follows_of_no_frames now rfl rfl rfl
    · simp only [hpending, hdeep, not_true_eq_false, if_false, or_self]
      exact pollScheduler_follows now _
  · rw [if_pos hpending, if_pos (.inl hpending)]
    exact follows_of_no_frames now (flushPending_frame _).1 rfl (flushPending_conserves _)

/-- The pump after the look at the underruns. -/
theorem realignAfterOutputUnderrun_spec (underruns : UInt64) :
    (pump.realignAfterOutputUnderrun now underruns).config = pump.config ∧
      (pump.realignAfterOutputUnderrun now underruns).awaitingPrefill =
        (pump.awaitingPrefill || pump.ranDry underruns) ∧
      (pump.realignAfterOutputUnderrun now underruns).pending =
        (if pump.ranDry underruns then [] else pump.pending) ∧
      (pump.realignAfterOutputUnderrun now underruns).scheduler =
        playbackScheduler.after pump.scheduler
          (if pump.ranDry underruns then [.realignToNow now] else []) := by
  unfold realignAfterOutputUnderrun
  by_cases hstarted : pump.timelineStarted
  · by_cases hdry : pump.ranDry underruns
    · simp [hstarted, hdry]
      rfl
    · simp [hstarted, hdry]
  · simp [hstarted, ranDry]

theorem emittedFrames_append (s : PlaybackScheduler) (xs ys : List SchedulerCall) :
    emittedFrames s (xs ++ ys) =
      emittedFrames s xs ++ emittedFrames (playbackScheduler.after s xs) ys := by
  rw [emittedFrames, Machine.outputs_append, List.flatMap_append]
  rfl

theorem queued_eq_of_config {other : PlaybackPump} (h : other.config = pump.config) :
    other.queued = pump.queued := by
  unfold queued
  rw [convert_eq_of_config h]

theorem silenceOf_eq_of_config {other : PlaybackPump} (h : other.config = pump.config)
    (scheduler : PlaybackScheduler) :
    silenceOf { other with scheduler } = silenceOf { pump with scheduler } := by
  funext aligned now frames
  cases frames with
  | nil => rfl
  | cons => simp only [silenceOf, prefillOf, h]

theorem queuedBy_of_no_frames {call : PumpCall} (h : pump.handedOver call = []) :
    pump.queuedBy call = [] := by
  cases call <;> simp [queuedBy, queued, silenceBefore, silenceOf, h]

/-- A call that gets no frame and leaves the pending samples alone. -/
theorem conserves_of_no_frames {call : PumpCall} {next : PlaybackPump}
    (hframes : pump.handedOver call = []) (hpending : next.pending = pump.pending) :
    [] ++ next.pending = pump.pending ++ pump.queuedBy call := by
  rw [queuedBy_of_no_frames hframes, hpending, List.append_nil, List.nil_append]

theorem tick_follows (view : RingView) :
    (pump.tick now view).2.scheduler =
        playbackScheduler.after pump.scheduler (pump.asks (.tick now view)) ∧
      (pump.tick now view).1.2.accepted ++ (pump.tick now view).2.pending =
        pump.keptBy (pump.tick now view).1.2 ++ pump.queuedBy (.tick now view) := by
  by_cases hlocked : pump.syncLocked = true
  · obtain ⟨hconfig, hawaiting, hpending, hscheduler⟩ :=
      @realignAfterOutputUnderrun_spec pump now view.underrunCallbacks
    obtain ⟨hnext, hconserves⟩ := @advance_follows
      (pump.realignAfterOutputUnderrun now view.underrunCallbacks) now view
    have hasks : pump.asks (.tick now view) = _ ++ _ := if_neg (not_not.mpr hlocked)
    have hafter := congrArg (playbackScheduler.after pump.scheduler) hasks
    -- A realignment gets no frame, so the frames of the tick are those of what follows it.
    have hframes : pump.handedOver (.tick now view) = _ :=
      congrArg (emittedFrames pump.scheduler) hasks
    have hsilent : emittedFrames pump.scheduler
        (if pump.ranDry view.underrunCallbacks then [.realignToNow now] else []) = [] := by
      split_ifs <;> rfl
    rw [emittedFrames_append, hsilent, List.nil_append, ← hscheduler] at hframes
    rw [Machine.after_append, ← hscheduler] at hafter
    rw [queued_eq_of_config hconfig, silenceOf_eq_of_config hconfig, hpending, hawaiting,
      ← hframes, ← hafter] at hconserves
    unfold tick
    rw [if_neg (not_not.mpr hlocked), hafter]
    exact ⟨hnext, hconserves⟩
  · have hasks : pump.asks (.tick now view) = [] := if_pos hlocked
    unfold tick
    have hframes : pump.handedOver (.tick now view) = [] :=
      congrArg (emittedFrames pump.scheduler) hasks
    rw [if_pos hlocked, hasks]
    exact ⟨rfl, conserves_of_no_frames hframes rfl⟩

theorem finish_conserves (view : RingView) :
    (pump.finish view).1.2.accepted ++ (pump.finish view).2.pending =
      pump.pending ++ pump.queuedBy (.finish view) := by
  have hframes := @enqueueFrames_conserves
    { pump with scheduler := pump.scheduler.drainRemaining.2 } pump.scheduler.drainRemaining.1
    view.rooms
  have hhanded : pump.handedOver (.finish view) = pump.scheduler.drainRemaining.1 := by
    change pump.scheduler.drainRemaining.1 ++ ([] ++ []) = _
    simp
  refine hframes.trans (congrArg (pump.pending ++ ·) ?_)
  change _ = pump.queued 0 (pump.handedOver (.finish view))
  rw [hhanded, queued, Nat.zero_mul, List.replicate_zero, List.nil_append]
  rfl

theorem applySyncOffset_pending (offsetMs : Float) :
    (pump.applySyncOffset offsetMs).2.pending = pump.pending := by
  unfold applySyncOffset
  split_ifs
  all_goals first
    | rfl
    | split <;> rfl

theorem submitPacket_pending (datagram : AudioDatagram) :
    (pump.submitPacket datagram).2.pending = pump.pending := by
  unfold submitPacket
  split_ifs <;> rfl

theorem setVolume_pending (volume : Float32) :
    (pump.setVolume volume).2.pending = pump.pending := by
  unfold setVolume
  split_ifs <;> rfl

/-- A call on the scheduler as the calls that it makes have it. -/
theorem scheduler_next (pump : PlaybackPump) (call : PumpCall) :
    (playbackPump.next pump call).scheduler =
      playbackScheduler.after pump.scheduler (pump.asks call) := by
  cases call with
  | submitPacket datagram =>
    change (pump.submitPacket datagram).2.scheduler = _
    unfold submitPacket asks
    split_ifs <;> rfl
  | applySyncOffset offsetMs =>
    change (pump.applySyncOffset offsetMs).2.scheduler = _
    simp only [applySyncOffset, asks]
    split_ifs with hfinite hlocked hjumps hhard
    · have hout : pump.scheduler.applyOffsetUpdate offsetMs = (.hardResyncRequired, _) :=
        if_pos hhard
      change _ = (pump.scheduler.applyOffsetUpdate offsetMs).2.rebuffer offsetMs
      rw [hout]
    · have hout : pump.scheduler.applyOffsetUpdate offsetMs = (.softCorrected, _) := if_neg hhard
      change _ = (pump.scheduler.applyOffsetUpdate offsetMs).2
      rw [hout]
    all_goals rfl
  | tick now view => exact (tick_follows now view).1
  | finish view => exact congrArg PlaybackScheduler.stop (enqueueFrames_scheduler _ _)
  | setVolume volume =>
    change (pump.setVolume volume).2.scheduler = _
    unfold setVolume
    split_ifs <;> rfl
  | scheduler => rfl

/-- Every call conserves samples. -/
theorem conserves (pump : PlaybackPump) (call : PumpCall) :
    (playbackPump.out pump call).2.accepted ++ (playbackPump.next pump call).pending =
      pump.keptBy (playbackPump.out pump call).2 ++ pump.queuedBy call := by
  cases call with
  | submitPacket datagram =>
    refine conserves_of_no_frames ?_ (submitPacket_pending datagram)
    simp only [handedOver, asks]
    split_ifs <;> rfl
  | applySyncOffset offsetMs =>
    refine conserves_of_no_frames ?_ (applySyncOffset_pending offsetMs)
    simp only [handedOver, asks]
    split_ifs <;> rfl
  | tick now view => exact (tick_follows now view).2
  | finish view => exact finish_conserves view
  | setVolume volume => exact conserves_of_no_frames rfl (setVolume_pending volume)
  | scheduler => exact conserves_of_no_frames rfl rfl

end PlaybackPump

/-! ## Runs -/

/-- The samples queued by the pump and accepted by the ring since the last realignment. -/
structure PumpFlow where
  queued : List Float32 := []
  accepted : List Float32 := []

/-- One more call; a realignment starts anew. -/
def PumpFlow.push (flow : PumpFlow) (pump : PlaybackPump) (call : PumpCall) : PumpFlow :=
  let effect := (playbackPump.out pump call).2
  if effect.realigned then ⟨pump.queuedBy call, effect.accepted⟩
  else ⟨flow.queued ++ pump.queuedBy call, flow.accepted ++ effect.accepted⟩

/-- The flow of a run. -/
def pumpFlow (pump : PlaybackPump) (calls : List PumpCall) : PumpFlow :=
  playbackPump.record PumpFlow.push {} pump calls

/-- What was queued is accepted or pending. -/
def PumpFlow.Balances (flow : PumpFlow) (pump : PlaybackPump) : Prop :=
  flow.accepted ++ pump.pending = flow.queued

theorem PumpFlow.Balances.push {flow : PumpFlow} {pump : PlaybackPump} (h : flow.Balances pump)
    (call : PumpCall) : (flow.push pump call).Balances (playbackPump.next pump call) := by
  have hconserves := pump.conserves call
  unfold PlaybackPump.keptBy at hconserves
  unfold Balances PumpFlow.push
  dsimp only
  split_ifs at hconserves ⊢ with hrealigned
  · exact hconserves
  · rw [List.append_assoc, hconserves, ← List.append_assoc, h]

theorem pending_of_init {pump : PlaybackPump} (h : playbackPump.init pump) : pump.pending = [] := by
  obtain ⟨_, _, scheduler, capacityFrames, underrunCallbacks, config, -, hnew⟩ := h
  unfold PlaybackPump.new at hnew
  simp only [bind_eq_ok] at hnew
  obtain ⟨_, -, _, -, _, -, hpure⟩ := hnew
  cases hpure
  rfl

namespace PumpScenario

def pump : PlaybackPump :=
  (PlaybackPump.new SchedulerScenario.scheduler 48000 0 {}).toOption.get (by decide +kernel)

theorem init_pump : playbackPump.init pump :=
  ⟨_, _, _, _, _, _, SchedulerScenario.new_scheduler,
    eq_ok_get (r := PlaybackPump.new SchedulerScenario.scheduler 48000 0 {}) (by decide +kernel)⟩

/-- The offset is known, a packet arrives, and the ring has room for one frame of it. -/
def playing : List PumpCall :=
  [.applySyncOffset 0.0, .submitPacket (JitterScenario.packet 0 0), .tick 0 { rooms := [1] },
    .finish {}]

end PumpScenario

end SilentDisco
