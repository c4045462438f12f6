import SilentDisco.Audio.Properties.Scheduler
import SilentDisco.Protocol.RoundTrip

/-!
# The order of scheduled frames

Frames are handed over in the order of their sequence numbers as long as no poll is made at the
last sequence number, where the expected one wraps. In a run of realistic length over sequence
numbers in the lower half, nothing overflows.

## Main definitions

* `SchedulerCall.InRange`: the calls that do not wrap the expected sequence number
* `PlaybackScheduler.Fits`: no addition has overflowed

## Main results

* `frames_are_in_order`: the frames of a run in range have increasing sequence numbers
* `scheduler_does_not_overflow`: a run that stays away from the last sequence numbers overflows
  nothing
-/

namespace SilentDisco

open Protocol Result

namespace SchedulerCall

/-- The call advances the stream. -/
def IsPoll : SchedulerCall → Prop
  | .poll _ | .pollWithReleaseHorizon _ _ => True
  | _ => False

/-- The sequence number of a submitted packet satisfies `P`. -/
def Submits (P : ℕ → Prop) : SchedulerCall → Prop
  | .submitPacket datagram => P datagram.position
  | _ => True

instance {P : ℕ → Prop} [DecidablePred P] : (call : SchedulerCall) → Decidable (call.Submits P)
  | .submitPacket datagram => inferInstanceAs (Decidable (P datagram.position))
  | .poll _ | .pollWithReleaseHorizon _ _ | .drainRemaining | .realignToNow _
  | .applyOffsetUpdate _ | .rebuffer _ | .setHostStartTimeMs _ | .stop => isTrue trivial

instance : (call : SchedulerCall) → Decidable call.IsPoll
  | .poll _ | .pollWithReleaseHorizon _ _ => isTrue trivial
  | .submitPacket _ | .drainRemaining | .realignToNow _ | .applyOffsetUpdate _ | .rebuffer _
  | .setHostStartTimeMs _ | .stop => isFalse not_false

end SchedulerCall

namespace PlaybackScheduler

variable {s : PlaybackScheduler} {B : ℕ}

/-! ## Steps -/

/-- A call is an arrival, or passes places in order. -/
theorem next_progress (hB : B < u64Max) (hs : s.Sound B) (call : SchedulerCall)
    (hpoll : call.IsPoll → s.Active → s.jitterBuffer.expected < u64Max) :
    (∃ datagram, call = .submitPacket datagram) ∨
      Progress B 1 s (playbackScheduler.next s call) (playbackScheduler.out s call).frames := by
  cases call with
  | submitPacket datagram => exact .inl ⟨datagram, rfl⟩
  | poll now => exact .inr (pollWithReleaseHorizon_progress hB hs (hpoll trivial) now now)
  | pollWithReleaseHorizon now horizon =>
    exact .inr (pollWithReleaseHorizon_progress hB hs (hpoll trivial) now horizon)
  | drainRemaining => exact .inr ((drainRemaining_progress hB.le hs).mono zero_le_one)
  | realignToNow now => exact .inr ((realignToNow_progress hB.le hs now).mono zero_le_one)
  | applyOffsetUpdate offsetMs =>
    refine .inr ?_
    change Progress B 1 s (s.applyOffsetUpdate offsetMs).2 []
    unfold applyOffsetUpdate
    split_ifs
    · exact .stay hs rfl rfl rfl fun h =>
        ⟨h.le, fun hstate => by rcases hstate with h | h <;> cases h⟩
    · exact .stay hs rfl rfl rfl fun h => ⟨h.le, h.lt⟩
  | rebuffer => exact .inr (.stay hs rfl rfl rfl fun _ => .of_eq_zero rfl)
  | setHostStartTimeMs => exact .inr (.stay hs rfl rfl rfl fun h => ⟨h.le, h.lt⟩)
  | stop =>
    refine .inr (.stay hs rfl rfl rfl fun h => ⟨h.le, fun hstate => ?_⟩)
    rcases hstate with h | h <;> cases h

/-! ## Order -/

/-- The call does not wrap the expected sequence number: packets lie before the last two, and
there is no poll at the last one. -/
def InRange (s : PlaybackScheduler) (call : SchedulerCall) : Prop :=
  call.Submits (· < u64Max - 1) ∧
    (call.IsPoll → s.Active → s.jitterBuffer.nextExpectedSequence ≠ .ofNat u64Max)

instance (s : PlaybackScheduler) (call : SchedulerCall) : Decidable (s.InRange call) :=
  inferInstanceAs (Decidable (_ ∧ (_ → _ → _)))

theorem InRange.expected_lt {call : SchedulerCall} (h : s.InRange call) (hpoll : call.IsPoll)
    (hactive : s.Active) : s.jitterBuffer.expected < u64Max := by
  have hle : s.jitterBuffer.expected ≤ u64Max :=
    Nat.le_pred_of_lt s.jitterBuffer.nextExpectedSequence.toNat_lt
  refine hle.lt_of_ne fun heq => h.2 hpoll hactive ?_
  exact UInt64.toNat_inj.mp heq

/-- The frames of a call stand at places that it passes. -/
theorem InRange.ascends {call : SchedulerCall} (hcall : s.InRange call)
    (hs : s.Sound (u64Max - 1)) :
    (playbackScheduler.next s call).Sound (u64Max - 1) ∧
      Ascends s.jitterBuffer.expected
        ((playbackScheduler.out s call).frames.map ScheduledFrame.position)
        (playbackScheduler.next s call).jitterBuffer.expected := by
  rcases next_progress (by decide) hs call hcall.expected_lt with ⟨datagram, rfl⟩ | hprogress
  · have harrives := s.jitterBuffer.accept_arrives datagram
    exact ⟨submitPacket_sound hs hcall.1, .nil (harrives.expected_le hs.window_pos)⟩
  · exact ⟨hprogress.sound hs, hprogress.ascends⟩

end PlaybackScheduler

/-- The frames that a run of the scheduler hands over. -/
def emittedFrames (s : PlaybackScheduler) (calls : List SchedulerCall) : List ScheduledFrame :=
  (playbackScheduler.outputs s calls).flatMap SchedulerReply.frames

open PlaybackScheduler in
theorem emittedFrames_ascends {s : PlaybackScheduler} (hs : s.Sound (u64Max - 1))
    {calls : List SchedulerCall} (hcalls : playbackScheduler.Along InRange s calls) :
    Ascends s.jitterBuffer.expected ((emittedFrames s calls).map ScheduledFrame.position)
      (playbackScheduler.after s calls).jitterBuffer.expected := by
  rw [emittedFrames, List.map_flatMap]
  exact Machine.Along.ascends (fun s => s.jitterBuffer.expected)
    (fun reply => reply.frames.map ScheduledFrame.position) (fun _ _ hs hcall => hcall.ascends hs)
    hs hcalls

/-- What the order of frames means for a run: sequence numbers increase, and no frame comes from
behind the expected sequence number. -/
structure InOrder (s : PlaybackScheduler) (calls : List SchedulerCall) : Prop where
  increasing : (emittedFrames s calls).Pairwise fun frame later => frame.sequence < later.sequence
  forward : ∀ earlier later, calls = earlier ++ later →
    ∀ frame ∈ emittedFrames (playbackScheduler.after s earlier) later,
      (playbackScheduler.after s earlier).jitterBuffer.nextExpectedSequence ≤ frame.sequence

open PlaybackScheduler in
/-- **Frames are in order.** In a run without a poll at the last sequence number, the sequence
numbers of the frames, real and concealed, increase, and no frame has a sequence number that was
passed before. -/
theorem frames_are_in_order {config : SchedulerConfig} {offsetMs : Float} {s : PlaybackScheduler}
    (hnew : PlaybackScheduler.new config offsetMs = .ok s) {calls : List SchedulerCall}
    (hcalls : playbackScheduler.Along InRange s calls) : InOrder s calls := by
  constructor
  · have hascends := (emittedFrames_ascends (new_sound hnew) hcalls).increasing
    exact (List.pairwise_map.mp hascends).imp UInt64.lt_iff_toNat_lt.mpr
  · rintro earlier later rfl frame hframe
    obtain ⟨hearlier, hlater⟩ := Machine.along_append.mp hcalls
    have hsound : (playbackScheduler.after s earlier).Sound (u64Max - 1) :=
      hearlier.invariant (fun _ _ hs hcall => (hcall.ascends hs).1) (new_sound hnew)
    have hascends := emittedFrames_ascends hsound hlater
    exact UInt64.le_iff_toNat_le.mpr (hascends.bounds _ (List.mem_map_of_mem hframe)).1

namespace SchedulerScenario

/-- Five milliseconds of stereo in a packet, and no audio buffered before playback. -/
def config : SchedulerConfig :=
  { SchedulerConfig.new JitterScenario.config.sessionId JitterScenario.config.streamId 48000 0 240 2
    with startupBufferTargetMs := 0 }

def scheduler : PlaybackScheduler :=
  (PlaybackScheduler.new config 0.0).toOption.get (by decide +kernel)

theorem new_scheduler : PlaybackScheduler.new config 0.0 = .ok scheduler :=
  eq_ok_get (r := PlaybackScheduler.new config 0.0) (by decide +kernel)

/-- Three consecutive packets, presented at once. -/
def burst (first : UInt64) : List SchedulerCall :=
  [.submitPacket (JitterScenario.packet first 0),
    .submitPacket (JitterScenario.packet (first + 1) 0),
    .submitPacket (JitterScenario.packet (first + 2) 0)]

/-- Polls for all that may be released. -/
def polls (n : ℕ) : List SchedulerCall :=
  List.replicate n (.pollWithReleaseHorizon 0 (.ofNat u64Max))

end SchedulerScenario

open SchedulerScenario in
/-- Two packets in order, the loss of a third, and a burst far ahead. -/
theorem frames_are_in_order_burst :
    playbackScheduler.Along PlaybackScheduler.InRange scheduler
        (burst 1000 ++ polls 4 ++ burst 5000 ++ polls 2) ∧
      InOrder scheduler (burst 1000 ++ polls 4 ++ burst 5000 ++ polls 2) :=
  have hrange : playbackScheduler.Along PlaybackScheduler.InRange scheduler
      (burst 1000 ++ polls 4 ++ burst 5000 ++ polls 2) := by decide +kernel
  ⟨hrange, frames_are_in_order new_scheduler hrange⟩

open SchedulerScenario in
/-- Concealment reaches the last sequence number, and starts again at zero. -/
theorem not_frames_are_in_order :
    ¬∀ (config : SchedulerConfig) (offsetMs : Float) (s : PlaybackScheduler)
        (calls : List SchedulerCall), PlaybackScheduler.new config offsetMs = .ok s →
      (∀ call ∈ calls, call.Submits (· < u64Max - 1)) → InOrder s calls := by
  intro h
  have horder := h _ _ _ (burst (.ofNat (u64Max - 4)) ++ polls 6)
    new_scheduler (by decide +kernel)
  exact absurd horder.increasing (by decide +kernel)

/-! ## Overflow -/

/-- Every counter of the source. -/
def JitterBufferStatistics.counters (statistics : JitterBufferStatistics) : List ℕ :=
  [statistics.accepted, statistics.wrongSessionRejections, statistics.wrongStreamRejections,
    statistics.duplicateRejections, statistics.lateRejections, statistics.reorderWindowRejections,
    statistics.bufferedDurationRejections, statistics.emitted, statistics.skipped,
    statistics.resynchronisations]

theorem JitterBufferStatistics.counter_le {statistics : JitterBufferStatistics} :
    ∀ counter ∈ statistics.counters, counter ≤ statistics.total := by
  unfold counters total
  intro counter hcounter
  simp only [List.mem_cons, List.not_mem_nil, or_false] at hcounter
  omega

namespace PlaybackScheduler

/-- No addition has overflowed: sequence numbers have not wrapped, and the totals fit their
counters. -/
structure Fits (s : PlaybackScheduler) : Prop where
  sequences : s.jitterBuffer.overflowed = false ∧ s.overflowed = false
  counters : ∀ counter ∈ s.jitterBuffer.statistics.counters, counter < 2 ^ 64
  concealed : s.concealment.statistics.totalConcealedPackets < 2 ^ 64
  signals : s.concealment.statistics.hardResyncSignals < 2 ^ 64
  /-- The next loss in a row is counted, and compared with its successor. -/
  consecutive : s.concealment.statistics.consecutiveConcealedPackets + 2 < 2 ^ 32

/-- What holds after `k` calls, if all packets lie below `B`. -/
structure Within (B k : ℕ) (s : PlaybackScheduler) : Prop where
  sound : s.Sound B
  bounded : s.Bounded
  expected_le : s.jitterBuffer.expected ≤ B + k
  counted : s.jitterBuffer.statistics.total ≤ 4102 * k + s.jitterBuffer.expected
  concealed : s.concealment.statistics.total ≤ 2 * k
  sequences : s.jitterBuffer.overflowed = false ∧ s.overflowed = false

variable {s : PlaybackScheduler} {B k : ℕ}

theorem new_within {config : SchedulerConfig} {offsetMs : Float} (h : new config offsetMs = .ok s)
    (hfirst : config.firstSequence.toNat < B) : s.Within B 0 := by
  obtain ⟨-, -, -, hoverflowed, hbuffer, -⟩ := new_eq_ok h
  obtain ⟨-, -, hexpected, hstatistics, -, hwrapped⟩ := JitterBuffer.new_eq_ok hbuffer
  obtain ⟨hbounded, htotal⟩ := new_bounded h
  refine ⟨new_sound h, hbounded, ?_, ?_, htotal.le, hwrapped, hoverflowed⟩
  · rw [JitterBuffer.expected, hexpected]
    exact hfirst.le
  · rw [hstatistics]
    exact Nat.zero_le _

/-- One call adds at most one place beyond the packets, and counts little more than the places
that it passes. -/
theorem Within.next (h : s.Within B k) (hB : B + k < u64Max) {call : SchedulerCall}
    (hcall : call.Submits (· < B)) : (playbackScheduler.next s call).Within B (k + 1) := by
  have hle := h.expected_le
  have hcounted := h.counted
  rcases next_progress (by omega) h.sound call (fun _ _ => by omega) with
    ⟨datagram, rfl⟩ | hprogress
  · have harrives := s.jitterBuffer.accept_arrives datagram
    have hsound := submitPacket_sound h.sound hcall
    have hforward := harrives.expected_le h.sound.window_pos
    have hcount := harrives.counted h.sound.ordered
    refine ⟨hsound, ⟨h.bounded.le, h.bounded.lt⟩, ?_, ?_, h.concealed.trans (by omega),
      harrives.overflowed_eq.trans h.sequences.1, h.sequences.2⟩
    · change (s.jitterBuffer.accept datagram).2.expected ≤ _
      rcases harrives.expected_lt hsound.holds with hsame | hbelow <;> omega
    · change (s.jitterBuffer.accept datagram).2.statistics.total ≤
        _ + (s.jitterBuffer.accept datagram).2.expected
      omega
  · have hbound := hprogress.advances.le_bound
    have hforward := hprogress.advances.expected_le
    have hcount := hprogress.advances.counted
    have hconcealed := hprogress.concealed_le
    have htotal := h.concealed
    refine ⟨hprogress.sound h.sound, hprogress.bounded h.bounded, by omega, by omega, by omega,
      hprogress.advances.overflowed_eq.trans h.sequences.1,
      hprogress.overflowed_eq.trans h.sequences.2⟩

/-- Bounds on the run leave room in every counter. -/
theorem Within.fits (h : s.Within B k) (hk : B + 4103 * k < 2 ^ 64) : s.Fits := by
  have hle := h.expected_le
  have hcounted := h.counted
  have hconcealed := h.concealed
  unfold ConcealmentStatistics.total at hconcealed
  refine ⟨h.sequences, fun counter hcounter => ?_, by omega, by omega, ?_⟩
  · have := JitterBufferStatistics.counter_le counter hcounter
    omega
  · have := h.bounded.le
    have := s.concealment.consecutive_le
    omega

end PlaybackScheduler

open PlaybackScheduler in
/-- **The scheduler does not overflow.** If the first sequence number and those of all packets lie
below a bound, and the bound leaves room for the 4103 events that a call may count, then no
addition overflows. -/
theorem scheduler_does_not_overflow {config : SchedulerConfig} {offsetMs : Float}
    {s : PlaybackScheduler} (hnew : PlaybackScheduler.new config offsetMs = .ok s) (bound : ℕ)
    (hfirst : config.firstSequence.toNat < bound) {calls : List SchedulerCall}
    (hcalls : ∀ call ∈ calls, call.Submits (· < bound))
    (hroom : bound + 4103 * calls.length < 2 ^ 64) : (playbackScheduler.after s calls).Fits := by
  have hwithin := Machine.Along.invariant_length (M := playbackScheduler)
    (I := fun k s => bound + 4103 * k < 2 ^ 64 → s.Within bound k)
    (fun k s call hs hcall hk => (hs (by omega)).next (by unfold u64Max; omega) hcall)
    (fun _ => new_within hnew hfirst) (Machine.along_of_forall hcalls)
  rw [Nat.zero_add] at hwithin
  exact (hwithin hroom).fits hroom

open SchedulerScenario in
/-- Three of the last packets are promoted and played. -/
theorem scheduler_does_not_overflow_burst :
    (playbackScheduler.after scheduler (burst (.ofNat (u64Max - 30000)) ++ polls 4)).Fits :=
  scheduler_does_not_overflow new_scheduler (u64Max - 29997) (by decide +kernel)
    (by decide +kernel) (by decide +kernel)

open SchedulerScenario in
/-- The packet with the last sequence number can be encoded, promoted and played. -/
theorem not_scheduler_does_not_overflow :
    ¬∀ (config : SchedulerConfig) (offsetMs : Float) (s : PlaybackScheduler)
        (calls : List SchedulerCall), PlaybackScheduler.new config offsetMs = .ok s →
      (∀ datagram, .submitPacket datagram ∈ calls →
        ∃ bytes, decodeFrame bytes = .ok (.audio datagram)) →
      (playbackScheduler.after s calls).Fits := by
  intro h
  have hfits := h _ _ _ (burst (.ofNat (u64Max - 2)) ++ polls 3)
    new_scheduler ?_
  · exact absurd hfits.sequences.1 (by decide +kernel)
  · intro datagram hdatagram
    have hencoded : (encodeFrame (.audio datagram)).toOption.isSome = true := by
      simp only [burst, polls, List.mem_append, List.mem_cons,
        SchedulerCall.submitPacket.injEq, List.not_mem_nil, or_false,
        List.mem_replicate] at hdatagram
      rcases hdatagram with (rfl | rfl | rfl) | ⟨-, hpoll⟩
      · decide +kernel
      · decide +kernel
      · decide +kernel
      · cases hpoll
    exact ⟨_, decodeFrame_of_encodeFrame (eq_ok_get hencoded)⟩

end SilentDisco
