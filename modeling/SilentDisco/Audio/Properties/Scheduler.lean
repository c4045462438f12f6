import SilentDisco.Audio.Properties.JitterBuffer
import SilentDisco.Audio.Scheduler

/-!
# Progress of the playback scheduler

Every call other than an arrival passes places of the stream in order, and the frames that it
hands over stand at the places passed. That is why frames come in the order of their sequence
numbers, as long as the expected sequence number does not wrap.

## Main definitions

* `PlaybackScheduler.Progress`: what a call other than an arrival does
* `PlaybackScheduler.Sound`: the packets lie below a bound

## Main results

* `PlaybackScheduler.discardAlreadyLateHead_progress`: the loop over late packets
* `PlaybackScheduler.pollWithReleaseHorizon_progress`, `drainRemaining_progress`: the calls that
  hand frames over
-/

namespace SilentDisco

open Protocol Result ScheduledFrame SortedBy JitterBuffer

/-- The frames that a poll hands over. -/
def SchedulerPoll.frames (poll : SchedulerPoll) : List ScheduledFrame :=
  (SchedulerReply.polled poll).frames

/-- The place of a frame in its stream. -/
def ScheduledFrame.position (frame : ScheduledFrame) : ℕ := frame.sequence.toNat

/-- All frames and signals that are counted. -/
def ConcealmentStatistics.total (statistics : ConcealmentStatistics) : ℕ :=
  statistics.totalConcealedPackets + statistics.hardResyncSignals

namespace PlaybackScheduler

variable {s s' s'' : PlaybackScheduler} {B n k : ℕ} {config : SchedulerConfig} {offsetMs : Float}

/-- The losses in a row are within their bound, and below it while playback goes on. -/
structure Bounded (s : PlaybackScheduler) : Prop where
  le : s.concealment.statistics.consecutiveConcealedPackets ≤
    s.concealment.maxConsecutiveConcealedPackets
  lt : s.state = .buffering ∨ s.state = .playing →
    s.concealment.statistics.consecutiveConcealedPackets <
      s.concealment.maxConsecutiveConcealedPackets

/-- What a call other than an arrival does: it passes places in order, hands over frames at some
of them, and passes at most `n` places that no packet reaches, if all packets lie below `B`. -/
structure Progress (B n : ℕ) (s s' : PlaybackScheduler) (frames : List ScheduledFrame) : Prop where
  advances : s.jitterBuffer.Advances B n s'.jitterBuffer
  ascends : Ascends s.jitterBuffer.expected (frames.map position)
    s'.jitterBuffer.expected
  overflowed_eq : s'.overflowed = s.overflowed
  concealed_le : s'.concealment.statistics.total ≤ s.concealment.statistics.total + 2 * n
  bounded : s.Bounded → s'.Bounded

/-- The packets of a scheduler lie below a bound, and none lies behind. -/
structure Sound (B : ℕ) (s : PlaybackScheduler) : Prop where
  ordered : s.jitterBuffer.Ordered
  holds : s.jitterBuffer.Holds (·.position < B)
  /-- The reorder window is wider than the gaps that are concealed. -/
  window_pos : 0 < s.jitterBuffer.window

namespace Progress

variable {frames frames' : List ScheduledFrame}

theorem trans (h : Progress B n s s' frames) (h' : Progress B k s' s'' frames') :
    Progress B (n + k) s s'' (frames ++ frames') where
  advances := h.advances.trans h'.advances
  ascends := by
    rw [List.map_append]
    exact h.ascends.append h'.ascends
  overflowed_eq := h'.overflowed_eq.trans h.overflowed_eq
  concealed_le := by
    have := h.concealed_le
    have := h'.concealed_le
    omega
  bounded hs := h'.bounded (h.bounded hs)

theorem sound (h : Progress B n s s' frames) (hs : s.Sound B) : s'.Sound B :=
  ⟨h.advances.ordered, h.advances.toRemoves.holds hs.holds,
    hs.window_pos.trans_eq h.advances.window_eq.symm⟩

/-- A call that passes no place. -/
theorem stay (hs : s.Sound B) (hbuffer : s'.jitterBuffer = s.jitterBuffer)
    (hoverflowed : s'.overflowed = s.overflowed)
    (hconcealed : s'.concealment.statistics.total = s.concealment.statistics.total)
    (hbounded : s.Bounded → s'.Bounded) : Progress B n s s' [] where
  advances := by
    rw [hbuffer]
    exact .refl hs.ordered
  ascends := .nil (congrArg expected hbuffer).ge
  overflowed_eq := hoverflowed
  concealed_le := by omega
  bounded := hbounded

theorem refl (hs : s.Sound B) : Progress B n s s [] := stay hs rfl rfl rfl id

theorem mono (h : Progress B n s s' frames) (hle : n ≤ k) : Progress B k s s' frames :=
  { h with
    advances.le_bound := h.advances.le_bound.trans (Nat.add_le_add_left hle _)
    concealed_le := h.concealed_le.trans (by omega) }

end Progress

/-- Losses in a row that were just reset are below their bound. -/
theorem Bounded.of_eq_zero (h : s.concealment.statistics.consecutiveConcealedPackets = 0) :
    s.Bounded where
  le := h ▸ Nat.zero_le _
  lt _ := h ▸ s.concealment.consecutive_pos

/-! ## Single frames -/

theorem deliver_frames (datagram : AudioDatagram) :
    (s.deliver datagram).1.frames.map position = [datagram.position] := rfl

theorem conceal_frames (s : PlaybackScheduler) :
    s.conceal.1.frames.map position = [s.jitterBuffer.expected] ∨ s.conceal.1.frames = [] := by
  unfold conceal
  dsimp only
  split
  · exact .inl rfl
  · exact .inr rfl

theorem conceal_jitterBuffer (s : PlaybackScheduler) :
    s.conceal.2.jitterBuffer = s.jitterBuffer.skipExpectedSequence := by
  unfold conceal
  dsimp only
  split <;> rfl

theorem conceal_overflowed (s : PlaybackScheduler) : s.conceal.2.overflowed = s.overflowed := by
  unfold conceal
  dsimp only
  split <;> rfl

theorem conceal_concealment (s : PlaybackScheduler) :
    s.conceal.2.concealment =
      (s.concealment.conceal s.config.samplesPerPacket s.config.channels).2 := by
  unfold conceal
  dsimp only
  split <;> rfl

theorem conceal_total (s : PlaybackScheduler) :
    s.conceal.2.concealment.statistics.total ≤ s.concealment.statistics.total + 2 := by
  rw [conceal_concealment]
  unfold ConcealmentPolicy.conceal ConcealmentStatistics.total
  dsimp only
  split_ifs <;> omega

/-- Playback pauses when the losses in a row reach their bound. -/
theorem conceal_bounded (hstate : s.state = .playing) (h : s.Bounded) : s.conceal.2.Bounded := by
  have hlt := h.lt (.inr hstate)
  constructor
  · rw [conceal_concealment]
    exact hlt
  · intro hplaying
    rw [conceal_concealment]
    unfold conceal at hplaying
    dsimp only at hplaying
    split at hplaying
    · next houtcome =>
      change s.concealment.outcome = .concealed at houtcome
      unfold ConcealmentPolicy.outcome at houtcome
      split_ifs at houtcome with hbound
      exact not_le.mp hbound
    · rcases hplaying with h | h <;> cases h

/-- The expected packet is released, or a frame in its place. -/
theorem emit_progress (hs : s.Sound B) (hstate : s.state = .playing)
    (hlt : s.jitterBuffer.expected < u64Max) : Progress B 1 s s.emit.2 s.emit.1.frames := by
  have hle : s.jitterBuffer.expected + 1 ≤ max s.jitterBuffer.expected B + 1 :=
    Nat.add_le_add_right (le_max_left _ _) 1
  unfold emit
  cases hfind : s.jitterBuffer.packets.find? s.jitterBuffer.expected with
  | some =>
    have hposition := (find?_eq_some.mp hfind).2
    have hadvances : s.jitterBuffer.Advances B 1 s.jitterBuffer.take.countEmitted :=
      hs.ordered.advances_take hlt hle (s.jitterBuffer.statistics.total_emitted 1)
    simp only [popInOrder, hfind]
    refine ⟨hadvances, ?_, rfl, Nat.le_add_right _ _, fun _ => .of_eq_zero rfl⟩
    rw [deliver_frames, hposition]
    refine Ascends.singleton le_rfl ?_
    change _ < s.jitterBuffer.advance.expected
    rw [advance_expected hlt]
    exact Nat.lt_succ_self _
  | none =>
    have hmissing := missing_of_ne (find?_eq_none.mp hfind)
    have hadvances := hs.ordered.advances_skipExpectedSequence hlt hle hmissing
    simp only [popInOrder, hfind]
    refine ⟨s.conceal_jitterBuffer ▸ hadvances, ?_, s.conceal_overflowed, s.conceal_total,
      conceal_bounded hstate⟩
    rw [conceal_jitterBuffer]
    rcases s.conceal_frames with hframes | hframes
    · rw [hframes]
      refine Ascends.singleton le_rfl ?_
      change _ < s.jitterBuffer.advance.expected
      rw [advance_expected hlt]
      exact Nat.lt_succ_self _
    · rw [hframes]
      exact .nil hadvances.expected_le

/-! ## Late packets -/

theorem Sound.exists_last (hs : s.Sound B) (h : s.jitterBuffer.isEmpty = false) :
    ∃ last ∈ s.jitterBuffer.packets, s.jitterBuffer.packets.last? = some last ∧
      s.jitterBuffer.expected ≤ last.position ∧ last.position < B := by
  cases hlast : s.jitterBuffer.packets.last? with
  | none =>
    have hempty := isEmpty_iff.mpr (last?_eq_none.mp hlast)
    exact absurd hempty (Bool.eq_false_iff.mp h)
  | some last =>
    have hmem := mem_of_last? hlast
    exact ⟨last, hmem, rfl, hs.ordered.expected_le last hmem, hs.holds.packets last hmem⟩

theorem discardInOrder_of_peek
    (h : s.jitterBuffer.peekNextSequence = some s.jitterBuffer.expected) :
    s.jitterBuffer.discardInOrder.2 = s.jitterBuffer.take.countSkipped 1 := by
  unfold discardInOrder
  rw [if_pos]
  obtain ⟨first, hfirst, hposition⟩ := Option.map_eq_some_iff.mp h
  exact contains_iff.mpr ⟨first, mem_of_first? hfirst, hposition⟩

/-- The next place is dropped, with a packet in it or without, and it is not behind all
packets. -/
theorem discardLateHead_progress {localNowMs : UInt64} (hB : B ≤ u64Max) (hs : s.Sound B)
    (h : s.discardLateHead localNowMs = some s') :
    Progress B 0 s s' [] ∧ s.jitterBuffer.expected < s'.jitterBuffer.expected := by
  unfold discardLateHead at h
  have hdrop {buffer : JitterBuffer} (hadvances : s.jitterBuffer.Advances B 0 buffer) :
      Progress B 0 s { s with jitterBuffer := buffer, fadeInNextRealFrame := true } [] :=
    ⟨hadvances, .nil hadvances.expected_le, rfl, le_rfl, fun hs => ⟨hs.le, hs.lt⟩⟩
  split_ifs at h with hempty hlate hpeek
  all_goals
    obtain ⟨last, -, -, hexpected, hbelow⟩ := hs.exists_last (eq_false_of_ne_true hempty)
    have hlt : s.jitterBuffer.expected < u64Max := by omega
    have hle : s.jitterBuffer.expected + 1 ≤ max s.jitterBuffer.expected B + 0 := by omega
    have hpassed := (Nat.lt_succ_self _).trans_eq (advance_expected hlt).symm
    obtain rfl := Option.some.inj h
  · rw [discardInOrder_of_peek hpeek]
    exact ⟨hdrop (hs.ordered.advances_take hlt hle (s.jitterBuffer.statistics.total_skipped 1)),
      hpassed⟩
  · exact ⟨hdrop (hs.ordered.advances_skipExpectedSequence hlt hle
      (hs.ordered.missing_of_peek hpeek)), hpassed⟩

theorem discardAlreadyLateHead_progress (hB : B ≤ u64Max) (hs : s.Sound B) (localNowMs : UInt64) :
    Progress B 0 s (s.discardAlreadyLateHead localNowMs) [] := by
  refine (loop_rel (I := Sound B) (R := fun s s' => Progress B 0 s s' []) (fun s hs => .refl hs)
    (fun s s' t hs hbody => ?_) s.bufferedPlaces hs).2
  have hround := (discardLateHead_progress hB hs hbody).1
  exact ⟨hround.sound hs, hround.trans⟩

/-- The loop over late packets changes no state. -/
theorem discardAlreadyLateHead_state (s : PlaybackScheduler) (localNowMs : UInt64) :
    (s.discardAlreadyLateHead localNowMs).state = s.state := by
  refine (loop_rel (I := fun _ => True)
    (R := fun s s' : PlaybackScheduler => s'.state = s.state) (fun _ _ => rfl)
    (fun s s' t _ hbody => ⟨trivial, fun ht => ht.trans ?_⟩) s.bufferedPlaces trivial).2
  unfold discardLateHead at hbody
  split_ifs at hbody <;> exact Option.some.inj hbody ▸ rfl

/-! ## Polls -/

theorem skipGap_progress (hs : s.Sound B) : Progress B 0 s s.skipGap [] := by
  have hadvances : s.jitterBuffer.Advances B 0 s.skipGap.jitterBuffer :=
    hs.ordered.advances_skipToEarliestBuffered hs.holds.packets
  exact ⟨hadvances, .nil hadvances.expected_le, rfl, le_rfl, fun _ => .of_eq_zero rfl⟩

theorem Progress.expected_lt {frames : List ScheduledFrame} (h : Progress B 0 s s' frames)
    (hB : B < u64Max) (hlt : s.jitterBuffer.expected < u64Max) :
    s'.jitterBuffer.expected < u64Max := by
  have := h.advances.le_bound
  omega

/-- What a release hands over. -/
theorem release_progress (hB : B < u64Max) (hs : s.Sound B) (hstate : s.state = .playing)
    (hlt : s.jitterBuffer.expected < u64Max) (horizon : UInt64) :
    Progress B 1 s (s.release horizon).2 (s.release horizon).1.frames := by
  have hskip := skipGap_progress hs
  unfold release
  split_ifs
  · exact .refl hs
  · exact hskip.mono zero_le_one
  · exact hskip.trans (emit_progress (hskip.sound hs) hstate (hskip.expected_lt hB hlt))
  · exact emit_progress hs hstate hlt

/-- Buffering ends with playback, or hands nothing over. -/
theorem advanceBuffering_progress (hB : B ≤ u64Max) (hs : s.Sound B) (hstate : s.state = .buffering)
    (localNowMs : UInt64) :
    Progress B 0 s (s.advanceBuffering localNowMs).2 [] ∧
      match (s.advanceBuffering localNowMs).1 with
      | some poll => poll.frames = []
      | none => (s.advanceBuffering localNowMs).2.state = .playing := by
  have hlate := discardAlreadyLateHead_progress (s := { s with bufferTargetProgress := .satisfied })
    hB ⟨hs.ordered, hs.holds, hs.window_pos⟩ localNowMs
  have hprogress : Progress B 0 s
      ({ s with bufferTargetProgress := .satisfied }.discardAlreadyLateHead localNowMs) [] :=
    ⟨hlate.advances, hlate.ascends, hlate.overflowed_eq, hlate.concealed_le,
      fun h => hlate.bounded ⟨h.le, h.lt⟩⟩
  unfold advanceBuffering
  dsimp only
  split_ifs
  · exact ⟨.refl hs, rfl⟩
  · exact ⟨hprogress, rfl⟩
  · refine ⟨⟨hprogress.advances, hprogress.ascends, hprogress.overflowed_eq,
      hprogress.concealed_le, fun h => ⟨(hprogress.bounded h).le, fun _ => ?_⟩⟩, rfl⟩
    refine (hprogress.bounded h).lt (.inl ?_)
    rw [discardAlreadyLateHead_state]
    exact hstate

/-- Frames may be due. -/
def Active (s : PlaybackScheduler) : Prop := s.state = .buffering ∨ s.state = .playing

instance (s : PlaybackScheduler) : Decidable s.Active := inferInstanceAs (Decidable (_ ∨ _))

/-- A poll passes at most one place that no packet reaches. -/
theorem pollWithReleaseHorizon_progress (hB : B < u64Max) (hs : s.Sound B)
    (hlt : s.Active → s.jitterBuffer.expected < u64Max) (now horizon : UInt64) :
    Progress B 1 s (s.pollWithReleaseHorizon now horizon).2
      (s.pollWithReleaseHorizon now horizon).1.frames := by
  unfold pollWithReleaseHorizon
  dsimp only
  split
  · exact .refl hs
  · exact .refl hs
  · next hstate =>
    obtain ⟨hprogress, hpoll⟩ := advanceBuffering_progress hB.le hs hstate now
    split
    · next poll s' hbuffering =>
      rw [hbuffering] at hprogress hpoll
      change poll.frames = [] at hpoll
      rw [hpoll]
      exact hprogress.mono zero_le_one
    · next s' hbuffering =>
      rw [hbuffering] at hprogress hpoll
      exact hprogress.trans (release_progress hB (hprogress.sound hs) hpoll
        (hprogress.expected_lt hB (hlt (.inl hstate))) _)
  · next hstate => exact release_progress hB hs hstate (hlt (.inr hstate)) _

/-! ## Drains -/

namespace Drain

variable {drain : Drain} {channels ramp : ℕ}

theorem fadeOutLatest_position :
    (drain.fadeOutLatest channels ramp).map position = drain.frames.map position := by
  unfold fadeOutLatest
  cases drain.frames <;> rfl

theorem push_position (datagram : AudioDatagram) :
    (drain.push channels ramp datagram).frames.map position =
      datagram.position :: drain.frames.map position := by
  unfold push
  dsimp only
  rw [List.map_cons]
  refine congrArg (_ :: ·) ?_
  split_ifs
  · exact fadeOutLatest_position
  · rfl

/-- Every drained packet becomes a frame at its place. -/
theorem foldl_push_position (datagrams : List AudioDatagram) :
    (datagrams.foldl (Drain.push · channels ramp) drain).frames.map position =
      (datagrams.map AudioDatagram.position).reverse ++ drain.frames.map position := by
  induction datagrams generalizing drain with
  | nil => rfl
  | cons datagram datagrams ih =>
    rw [List.foldl_cons, ih, push_position, List.map_cons, List.reverse_cons, List.append_assoc]
    rfl

/-- A drain wraps only at the last sequence number. -/
theorem foldl_push_overflowed {datagrams : List AudioDatagram}
    (h : ∀ p ∈ datagrams, p.position < u64Max) :
    (datagrams.foldl (Drain.push · channels ramp) drain).overflowed = drain.overflowed := by
  induction datagrams generalizing drain with
  | nil => rfl
  | cons datagram datagrams ih =>
    obtain ⟨hdatagram, hdatagrams⟩ := List.forall_mem_cons.mp h
    have hne : datagram.sequence.get ≠ .ofNat u64Max := by
      intro heq
      rw [AudioDatagram.position, heq] at hdatagram
      exact absurd hdatagram (by decide)
    rw [List.foldl_cons, ih hdatagrams]
    simp [push, hne]

end Drain

/-- The frames of a drain stand at the places of the buffered packets. -/
theorem drainRemaining_positions (s : PlaybackScheduler) :
    s.drainRemaining.1.map position = s.jitterBuffer.drainAll.1.map AudioDatagram.position := by
  unfold drainRemaining
  dsimp only
  rw [List.map_reverse, Drain.fadeOutLatest_position, Drain.foldl_push_position]
  simp

theorem drainRemaining_progress (hB : B ≤ u64Max) (hs : s.Sound B) :
    Progress B 0 s s.drainRemaining.2 s.drainRemaining.1 := by
  obtain ⟨hascends, hadvances⟩ := hs.ordered.drainAll_ascends (n := 0) hB hs.holds.packets
  have hbelow : ∀ p ∈ s.jitterBuffer.drainAll.1, p.position < u64Max :=
    fun p hp => (hs.holds.packets p hp).trans_le hB
  refine ⟨hadvances, ?_, Drain.foldl_push_overflowed hbelow, le_rfl, fun h => ⟨h.le, h.lt⟩⟩
  rw [drainRemaining_positions]
  exact hascends

theorem realignToNow_progress (hB : B ≤ u64Max) (hs : s.Sound B) (now : UInt64) :
    Progress B 0 s (s.realignToNow now) [] := by
  have hprogress := discardAlreadyLateHead_progress hB hs now
  exact ⟨hprogress.advances, hprogress.ascends, hprogress.overflowed_eq, hprogress.concealed_le,
    fun _ => .of_eq_zero rfl⟩

/-! ## Construction and arrivals -/

/-- The parts of a new scheduler. -/
theorem new_eq_ok (h : new config offsetMs = .ok s) :
    validateSchedulerConfig config = .ok () ∧ s.config = config ∧ s.state = .buffering ∧
      s.overflowed = false ∧
      JitterBuffer.new
        { sessionId := config.sessionId
          streamId := config.streamId
          firstSequence := config.firstSequence
          maxReorderWindow := config.maxReorderWindow
          maxBufferedDurationMs := config.maxBufferedDurationMs } = .ok s.jitterBuffer ∧
      ConcealmentPolicy.new config.maxConsecutiveConcealedPackets config.rampFrames =
        .ok s.concealment := by
  unfold new at h
  simp only [bind_eq_ok, mapError_eq_ok] at h
  obtain ⟨_, hvalid, jitterBuffer, hbuffer, _, -, concealment, hconcealment, hpure⟩ := h
  cases hpure
  exact ⟨hvalid, rfl, rfl, rfl, hbuffer, hconcealment⟩

/-- The gaps that are concealed are narrower than the reorder window. -/
theorem skip_lt_window (h : validateSchedulerConfig config = .ok ()) :
    config.concealmentSkipThresholdPackets < config.maxReorderWindow := by
  unfold validateSchedulerConfig at h
  simp only [bind_eq_ok, rejectIf_eq_ok] at h
  obtain ⟨_, -, _, -, _, -, _, -, _, -, hskip⟩ := h
  exact UInt32.not_le.mp hskip

theorem new_sound (h : new config offsetMs = .ok s) : s.Sound B := by
  obtain ⟨hvalid, -, -, -, hbuffer, -⟩ := new_eq_ok h
  refine ⟨new_ordered hbuffer, new_holds hbuffer, ?_⟩
  have hlt := UInt32.lt_iff_toNat_lt.mp (skip_lt_window hvalid)
  rw [JitterBuffer.window, (JitterBuffer.new_eq_ok hbuffer).1]
  exact Nat.zero_lt_of_lt hlt

theorem new_bounded (h : new config offsetMs = .ok s) :
    s.Bounded ∧ s.concealment.statistics.total = 0 := by
  obtain ⟨-, -, -, -, -, hconcealment⟩ := new_eq_ok h
  unfold ConcealmentPolicy.new at hconcealment
  split_ifs at hconcealment
  have hstatistics : s.concealment.statistics = {} := by
    rw [← Except.ok.inj hconcealment]
  exact ⟨.of_eq_zero (by rw [hstatistics]), by rw [hstatistics]; rfl⟩

theorem submitPacket_sound {datagram : AudioDatagram} (hs : s.Sound B)
    (hdatagram : datagram.position < B) : (s.submitPacket datagram).2.Sound B := by
  have harrives := s.jitterBuffer.accept_arrives datagram
  refine ⟨harrives.ordered hs.ordered, harrives.holds hs.holds fun _ => hdatagram, ?_⟩
  change 0 < (s.jitterBuffer.accept datagram).2.window
  rw [JitterBuffer.window, harrives.config_eq]
  exact hs.window_pos

end PlaybackScheduler

end SilentDisco
