import SilentDisco.Audio.Properties.Pump

/-!
# Stopping

A stopped scheduler stays stopped and hands over no frame exactly as long as it is not rebuffered,
its offset does not jump and it is not drained again with packets in it. A finished pump then
pushes nothing but the samples that were pending when it finished.

## Main definitions

* `PlaybackScheduler.StaysStopped`, `PlaybackPump.StaysStopped`: the calls that leave a stopped
  scheduler, and a finished pump, alone

## Main results

* `stopping_is_permanent`: when a stopped scheduler and a finished pump stay so
-/

namespace SilentDisco

open Protocol Result PlaybackScheduler

namespace PlaybackScheduler

variable {s : PlaybackScheduler} {call : SchedulerCall}

/-- The call leaves a stopped scheduler alone. -/
def StaysStopped (s : PlaybackScheduler) : SchedulerCall → Prop
  | .rebuffer _ => False
  | .applyOffsetUpdate offsetMs => s.jumps offsetMs = false
  | .drainRemaining => s.jitterBuffer.isEmpty = true
  | _ => True

instance (s : PlaybackScheduler) : (call : SchedulerCall) → Decidable (s.StaysStopped call)
  | .rebuffer _ => isFalse not_false
  | .applyOffsetUpdate offsetMs => inferInstanceAs (Decidable (s.jumps offsetMs = false))
  | .drainRemaining => inferInstanceAs (Decidable (s.jitterBuffer.isEmpty = true))
  | .submitPacket _ | .poll _ | .pollWithReleaseHorizon _ _ | .realignToNow _
  | .setHostStartTimeMs _ | .stop => isTrue trivial

/-- The scheduler is stopped after the call, which hands over no frame. -/
def Silent (s : PlaybackScheduler) (call : SchedulerCall) : Prop :=
  (playbackScheduler.next s call).isStopped = true ∧ (playbackScheduler.out s call).frames = []

theorem isStopped_iff : s.isStopped = true ↔ s.state = .stopped := decide_eq_true_iff

theorem pollWithReleaseHorizon_of_isStopped (h : s.isStopped = true) (now horizon : UInt64) :
    s.pollWithReleaseHorizon now horizon = (.stopped, s) := by
  unfold pollWithReleaseHorizon
  rw [isStopped_iff.mp h]

theorem applyOffsetUpdate_isStopped (h : s.isStopped = true) {offsetMs : Float} :
    (s.applyOffsetUpdate offsetMs).2.isStopped = true ↔ s.jumps offsetMs = false := by
  unfold applyOffsetUpdate
  split_ifs with hjumps
  · simp [isStopped, hjumps]
  · exact iff_of_true h (eq_false_of_ne_true hjumps)

/-- A drain hands over nothing exactly when nothing is buffered. -/
theorem drainRemaining_eq_nil : s.drainRemaining.1 = [] ↔ s.jitterBuffer.isEmpty = true := by
  rw [← List.map_eq_nil_iff (f := ScheduledFrame.position), drainRemaining_positions,
    List.map_eq_nil_iff]
  exact List.isEmpty_iff.symm

/-- The calls that leave a stopped scheduler alone are those after which it is stopped and that
hand over no frame. -/
theorem staysStopped_iff (h : s.isStopped = true) : s.StaysStopped call ↔ s.Silent call := by
  cases call with
  | submitPacket => exact iff_of_true trivial ⟨h, rfl⟩
  | poll now =>
    refine iff_of_true trivial ?_
    change (s.pollWithReleaseHorizon now now).2.isStopped = true ∧
      (s.pollWithReleaseHorizon now now).1.frames = []
    rw [pollWithReleaseHorizon_of_isStopped h]
    exact ⟨h, rfl⟩
  | pollWithReleaseHorizon now horizon =>
    refine iff_of_true trivial ?_
    change (s.pollWithReleaseHorizon now horizon).2.isStopped = true ∧
      (s.pollWithReleaseHorizon now horizon).1.frames = []
    rw [pollWithReleaseHorizon_of_isStopped h]
    exact ⟨h, rfl⟩
  | drainRemaining => exact drainRemaining_eq_nil.symm.trans (and_iff_right h).symm
  | realignToNow now =>
    refine iff_of_true trivial ⟨?_, rfl⟩
    exact isStopped_iff.mpr ((s.discardAlreadyLateHead_state now).trans (isStopped_iff.mp h))
  | applyOffsetUpdate =>
    exact (applyOffsetUpdate_isStopped h).symm.trans (and_iff_left rfl).symm
  | rebuffer => exact iff_of_false not_false fun hsilent => nomatch hsilent.1
  | setHostStartTimeMs => exact iff_of_true trivial ⟨h, rfl⟩
  | stop => exact iff_of_true trivial ⟨rfl, rfl⟩

/-- A run that leaves a stopped scheduler alone. -/
theorem isStopped_after (h : s.isStopped = true) {calls : List SchedulerCall}
    (hcalls : playbackScheduler.Along StaysStopped s calls) :
    (playbackScheduler.after s calls).isStopped = true ∧ emittedFrames s calls = [] := by
  induction calls generalizing s with
  | nil => exact ⟨h, rfl⟩
  | cons call calls ih =>
    obtain ⟨hnext, hframes⟩ := (staysStopped_iff h).mp hcalls.1
    obtain ⟨hafter, hrest⟩ := ih hnext hcalls.2
    exact ⟨hafter, List.append_eq_nil_iff.mpr ⟨hframes, hrest⟩⟩

end PlaybackScheduler

namespace PlaybackPump

variable {pump : PlaybackPump} {call : PumpCall} {tail : List Float32}

/-- The estimate starts the scheduler again: it is the first one, or the scheduler's offset
jumps. -/
def Restarts (pump : PlaybackPump) (offsetMs : Float) : Prop :=
  offsetMs.isFinite = true ∧
    (pump.syncLocked = false ∨
      pump.scheduler.jumps (if pump.jumps offsetMs then offsetMs else pump.slewed offsetMs) = true)

instance (pump : PlaybackPump) (offsetMs : Float) : Decidable (pump.Restarts offsetMs) :=
  inferInstanceAs (Decidable (_ ∧ _))

/-- The call leaves a finished pump alone. -/
def StaysStopped (pump : PlaybackPump) : PumpCall → Prop
  | .applySyncOffset offsetMs => ¬pump.Restarts offsetMs
  | .finish _ => pump.scheduler.jitterBuffer.isEmpty = true
  | .scheduler call => pump.scheduler.StaysStopped call
  | _ => True

instance (pump : PlaybackPump) : (call : PumpCall) → Decidable (pump.StaysStopped call)
  | .applySyncOffset offsetMs => inferInstanceAs (Decidable ¬pump.Restarts offsetMs)
  | .finish _ => inferInstanceAs (Decidable (pump.scheduler.jitterBuffer.isEmpty = true))
  | .scheduler call => inferInstanceAs (Decidable (pump.scheduler.StaysStopped call))
  | .submitPacket _ | .tick _ _ | .setVolume _ => isTrue trivial

/-- A stopped scheduler answers the poll of a tick, if there is one, that it is stopped. -/
theorem advanceCalls_of_isStopped (h : pump.scheduler.isStopped = true) (now : UInt64)
    (view : RingView) : playbackScheduler.Along PlaybackScheduler.StaysStopped pump.scheduler
      (pump.advanceCalls now view) := by
  unfold advanceCalls pollCalls
  split_ifs
  · trivial
  · simp only [pollWithReleaseHorizon_of_isStopped h]
    exact ⟨trivial, trivial⟩

/-- A call that leaves a finished pump alone makes calls that leave its scheduler alone. -/
theorem StaysStopped.asks (hcall : pump.StaysStopped call) (h : pump.scheduler.isStopped = true) :
    playbackScheduler.Along PlaybackScheduler.StaysStopped pump.scheduler (pump.asks call) := by
  cases call with
  | submitPacket =>
    simp only [PlaybackPump.asks]
    split_ifs
    · exact ⟨trivial, trivial⟩
    · trivial
  | applySyncOffset =>
    simp only [PlaybackPump.asks]
    split_ifs with hfinite hlocked hjumps hhard
    · exact absurd ⟨hfinite, .inr (by rwa [if_pos hjumps])⟩ hcall
    · exact ⟨eq_false_of_ne_true hhard, trivial⟩
    · refine ⟨eq_false_of_ne_true fun hhard => hcall ⟨hfinite, .inr ?_⟩, trivial⟩
      rwa [if_neg hjumps]
    · exact absurd ⟨hfinite, .inl (eq_false_of_ne_true hlocked)⟩ hcall
    · trivial
  | tick now view =>
    obtain ⟨-, -, -, hscheduler⟩ :=
      @realignAfterOutputUnderrun_spec pump now view.underrunCallbacks
    have hrealigns : playbackScheduler.Along PlaybackScheduler.StaysStopped pump.scheduler
        (if pump.ranDry view.underrunCallbacks then [.realignToNow now] else []) := by
      split_ifs
      · exact ⟨trivial, trivial⟩
      · trivial
    by_cases hlocked : pump.syncLocked = true
    · simp only [PlaybackPump.asks, hlocked, not_true_eq_false, if_false]
      refine Machine.along_append.mpr ⟨hrealigns, ?_⟩
      rw [← hscheduler]
      refine advanceCalls_of_isStopped ?_ now view
      rw [hscheduler]
      exact (isStopped_after h hrealigns).1
    · simp only [PlaybackPump.asks, hlocked]
      trivial
  | finish => exact ⟨hcall, trivial, trivial⟩
  | setVolume => trivial
  | scheduler => exact ⟨hcall, trivial⟩

/-- Such a call queues nothing. -/
theorem StaysStopped.quiet (hcall : pump.StaysStopped call) (h : pump.scheduler.isStopped = true) :
    (playbackPump.next pump call).scheduler.isStopped = true ∧ pump.queuedBy call = [] := by
  obtain ⟨hstopped, hframes⟩ := isStopped_after h (hcall.asks h)
  refine ⟨pump.scheduler_next call ▸ hstopped, queuedBy_of_no_frames ?_⟩
  cases call with
  | scheduler => rfl
  | _ => exact hframes

/-- The samples accepted so far and the pending ones are the start of the tail. -/
def Flushes (tail : List Float32) (pump : PlaybackPump) (outputs : List (PumpReply × PumpEffect)) :
    Prop :=
  pump.scheduler.isStopped = true ∧ outputs.flatMap (·.2.accepted) ++ pump.pending <+: tail

theorem Flushes.next {outputs : List (PumpReply × PumpEffect)} (h : Flushes tail pump outputs)
    (hcall : pump.StaysStopped call) :
    Flushes tail (playbackPump.next pump call) (outputs ++ [playbackPump.out pump call]) := by
  obtain ⟨hstopped, hqueued⟩ := hcall.quiet h.1
  have hconserves := pump.conserves call
  unfold keptBy at hconserves
  rw [hqueued, List.append_nil] at hconserves
  refine ⟨hstopped, ?_⟩
  rw [List.flatMap_append, List.flatMap_cons, List.flatMap_nil, List.append_nil, List.append_assoc,
    hconserves]
  split_ifs
  · rw [List.append_nil]
    exact (List.prefix_append _ _).trans h.2
  · exact h.2

end PlaybackPump

/-- **Stopping is permanent.** A stopped scheduler stays stopped and hands over no frame exactly in
the runs that leave it alone. In the runs that leave a finished pump alone, its scheduler stays
stopped and the ring accepts nothing but the samples that were pending when it finished. -/
theorem stopping_is_permanent {s : PlaybackScheduler} (hs : s.isStopped = true)
    (calls : List SchedulerCall) (pump : PlaybackPump) (view : RingView) {later : List PumpCall}
    (hlater : playbackPump.Along PlaybackPump.StaysStopped
      (playbackPump.next pump (.finish view)) later) :
    (playbackScheduler.Along PlaybackScheduler.StaysStopped s calls ↔
        playbackScheduler.Along PlaybackScheduler.Silent s calls) ∧
      (playbackPump.after (playbackPump.next pump (.finish view)) later).scheduler.isStopped
        = true ∧
      (playbackPump.outputs (playbackPump.next pump (.finish view)) later).flatMap
          (·.2.accepted) <+:
        (playbackPump.next pump (.finish view)).pending := by
  refine ⟨?_, ?_⟩
  · exact Machine.along_congr (I := fun s => s.isStopped = true)
      (fun s call hs => PlaybackScheduler.staysStopped_iff hs)
      (fun s call _ hsilent => hsilent.1) hs
  · have hfinished : PlaybackPump.Flushes (playbackPump.next pump (.finish view)).pending
        (playbackPump.next pump (.finish view)) [] := ⟨rfl, List.prefix_rfl⟩
    have hflushes := Machine.Along.invariant_outputs (fun _ _ _ h hcall => h.next hcall) hfinished
      hlater
    exact ⟨hflushes.1, (List.prefix_append _ _).trans hflushes.2⟩

namespace SchedulerScenario

def stopped : PlaybackScheduler := scheduler.stop

/-- Calls that leave a stopped scheduler alone. -/
def harmless : List SchedulerCall :=
  [.applyOffsetUpdate 50.0, .submitPacket (JitterScenario.packet 0 0), .poll 10, .realignToNow 20]

end SchedulerScenario

namespace PumpScenario

/-- The offset is known, and a packet arrives. -/
def buffering : PlaybackPump :=
  playbackPump.after pump [.applySyncOffset 0.0, .submitPacket (JitterScenario.packet 0 0)]

/-- Calls that leave a finished pump alone. -/
def harmless : List PumpCall :=
  [.applySyncOffset 50.0, .submitPacket (JitterScenario.packet 1 0), .tick 10 { rooms := [1] }]

end PumpScenario

open SchedulerScenario PumpScenario in
theorem stopping_is_permanent_harmless :
    playbackScheduler.Along PlaybackScheduler.Silent stopped SchedulerScenario.harmless ∧
      (playbackPump.outputs (playbackPump.next buffering (.finish {}))
          PumpScenario.harmless).flatMap (·.2.accepted) <+:
        (playbackPump.next buffering (.finish {})).pending :=
  have hpump : playbackPump.Along PlaybackPump.StaysStopped
      (playbackPump.next buffering (.finish {})) PumpScenario.harmless := by decide +kernel
  have hscheduler : playbackScheduler.Along PlaybackScheduler.StaysStopped stopped
      SchedulerScenario.harmless := by decide +kernel
  have hpermanent := stopping_is_permanent (s := stopped) rfl SchedulerScenario.harmless buffering
    {} hpump
  ⟨hpermanent.1.mp hscheduler, hpermanent.2.2⟩

/-- A rebuffer starts a stopped scheduler again. -/
theorem not_stopping_is_permanent :
    ¬∀ (config : SchedulerConfig) (offsetMs : Float) (s : PlaybackScheduler)
        (calls later : List SchedulerCall), PlaybackScheduler.new config offsetMs = .ok s →
      (playbackScheduler.after s calls).isStopped = true →
        playbackScheduler.Along PlaybackScheduler.Silent
          (playbackScheduler.after s calls) later := by
  intro h
  have hsilent := h _ _ _ [.stop] [.rebuffer 0.0] SchedulerScenario.new_scheduler rfl
  exact absurd hsilent.1.1 (by decide)

end SilentDisco
