import SilentDisco.Audio.Properties.Order

/-!
# Late heads

The loop over late packets reads the deadline of the expected place only, whether a packet is
there or not. It ends for any deadlines and drops no packet that is still in time. If deadlines
do not decrease along the stream, no late packet is left at the head.

## Main definitions

* `PlaybackScheduler.discardAlreadyLateHeadBy`: the loop over late packets for any deadlines

## Main results

* `late_head_is_discarded`: what the loop does in a reachable state
-/

namespace SilentDisco

open SortedBy JitterBuffer

namespace PlaybackScheduler

variable {deadlineMs : UInt64 → UInt64} {localNowMs : UInt64} {s s' : PlaybackScheduler}

/-- The local deadline of a place. -/
def deadlineAt (s : PlaybackScheduler) (sequence : UInt64) : UInt64 :=
  s.localTimeForHostMs (s.expectedHostPresentationTimeMs sequence)

variable (deadlineMs localNowMs) (s) in
/-- A round of the loop over late packets, for any deadlines. -/
def discardLateHeadBy : Option PlaybackScheduler :=
  if s.jitterBuffer.isEmpty then none
  else if deadlineMs s.jitterBuffer.nextExpectedSequence ≥ localNowMs then none
  else
    some
      { s with
        jitterBuffer :=
          if s.jitterBuffer.peekNextSequence = some s.jitterBuffer.expected then
            s.jitterBuffer.discardInOrder.2
          else s.jitterBuffer.skipExpectedSequence
        fadeInNextRealFrame := true }

variable (deadlineMs localNowMs) (s) in
/-- The loop over late packets, for any deadlines. -/
def discardAlreadyLateHeadBy : PlaybackScheduler :=
  loop (discardLateHeadBy deadlineMs localNowMs) s.bufferedPlaces s

/-- No round changes the timeline. -/
theorem deadlineAt_discardLateHead (h : s.discardLateHead localNowMs = some s') :
    s'.deadlineAt = s.deadlineAt := by
  unfold discardLateHead at h
  split_ifs at h <;> exact Option.some.inj h ▸ rfl

/-- The loop of the scheduler is the one for the deadlines of its own timeline. -/
theorem discardAlreadyLateHead_eq (s : PlaybackScheduler) (localNowMs : UInt64) :
    s.discardAlreadyLateHead localNowMs = s.discardAlreadyLateHeadBy s.deadlineAt localNowMs := by
  unfold discardAlreadyLateHead discardAlreadyLateHeadBy
  generalize s.bufferedPlaces = rounds
  generalize hdeadlines : s.deadlineAt = deadlines
  induction rounds generalizing s with
  | zero => simp only [loop]
  | succ rounds ih =>
    have hsame : discardLateHeadBy s.deadlineAt localNowMs s = s.discardLateHead localNowMs := rfl
    rw [hdeadlines] at hsame
    cases hbody : s.discardLateHead localNowMs with
    | none => rw [loop_of_none hbody, loop_of_none (hsame.trans hbody)]
    | some s' =>
      rw [loop_succ hbody, loop_succ (hsame.trans hbody)]
      exact ih s' ((deadlineAt_discardLateHead hbody).trans hdeadlines)

/-- A round passes the expected place, whose deadline has passed, with the packet in it. -/
theorem discardLateHeadBy_round (hs : s.jitterBuffer.Ordered)
    (h : discardLateHeadBy deadlineMs localNowMs s = some s') :
    s.jitterBuffer.isEmpty = false ∧
      deadlineMs s.jitterBuffer.nextExpectedSequence < localNowMs ∧ s'.jitterBuffer.Ordered ∧
      s'.jitterBuffer.expected = s.jitterBuffer.advance.expected ∧
      ∀ p, p ∈ s'.jitterBuffer.packets ↔
        p ∈ s.jitterBuffer.packets ∧ p.position ≠ s.jitterBuffer.expected := by
  unfold discardLateHeadBy at h
  split_ifs at h with hempty hlate hpeek
  all_goals
    refine ⟨eq_false_of_ne_true hempty, UInt64.not_le.mp hlate, ?_⟩
    obtain rfl := Option.some.inj h
  · refine ⟨hs.discardInOrder, ?_⟩
    rw [discardInOrder_of_peek hpeek]
    exact ⟨rfl, fun p => mem_remove⟩
  · have hmissing := hs.missing_of_peek hpeek
    exact ⟨hs.skipExpectedSequence hmissing, rfl,
      fun p => ⟨fun hp => ⟨hp, hmissing.ne p hp⟩, And.left⟩⟩

/-- Every round passes a place up to the last buffered packet. -/
theorem discardLateHeadBy_bufferedPlaces (hs : s.jitterBuffer.Ordered)
    (h : discardLateHeadBy deadlineMs localNowMs s = some s') :
    s'.bufferedPlaces < s.bufferedPlaces := by
  obtain ⟨hnonempty, -, -, hexpected, hpackets⟩ := discardLateHeadBy_round hs h
  unfold bufferedPlaces
  cases hlast : s.jitterBuffer.packets.last? with
  | none => exact absurd (isEmpty_iff.mpr (last?_eq_none.mp hlast)) (Bool.eq_false_iff.mp hnonempty)
  | some last =>
    have hle := hs.expected_le last (mem_of_last? hlast)
    cases hlast' : s'.jitterBuffer.packets.last? with
    | none =>
      change 0 < last.position + 1 - s.jitterBuffer.expected
      omega
    | some last' =>
      change last'.position + 1 - s'.jitterBuffer.expected <
        last.position + 1 - s.jitterBuffer.expected
      obtain ⟨hmem, hne⟩ := (hpackets last').mp (mem_of_last? hlast')
      have hle' := hs.expected_le last' hmem
      have hlater := le_key_of_last? hlast hmem
      rw [hexpected, advance_expected (expected_lt_of_mem hle' hne)]
      omega

/-! ## Reachable states -/

theorem discardAlreadyLateHeadBy_ordered (hs : s.jitterBuffer.Ordered)
    (deadlineMs : UInt64 → UInt64) (localNowMs : UInt64) :
    (s.discardAlreadyLateHeadBy deadlineMs localNowMs).jitterBuffer.Ordered :=
  (loop_rel (I := fun s => s.jitterBuffer.Ordered) (R := fun _ _ => True) (fun _ _ => trivial)
    (fun _ _ _ hs hround => ⟨(discardLateHeadBy_round hs hround).2.2.1, fun _ => trivial⟩)
    s.bufferedPlaces hs).1

theorem emit_ordered (hs : s.jitterBuffer.Ordered) : s.emit.2.jitterBuffer.Ordered := by
  unfold emit
  cases hfind : s.jitterBuffer.packets.find? s.jitterBuffer.expected with
  | none =>
    have hmissing := missing_of_ne (find?_eq_none.mp hfind)
    simp only [popInOrder, hfind]
    rw [conceal_jitterBuffer]
    exact hs.skipExpectedSequence hmissing
  | some =>
    have hpop := hs.popInOrder
    simp only [popInOrder, hfind] at hpop ⊢
    exact hpop

theorem release_ordered (hs : s.jitterBuffer.Ordered) (horizon : UInt64) :
    (s.release horizon).2.jitterBuffer.Ordered := by
  have hskip : s.skipGap.jitterBuffer.Ordered := hs.skipToEarliestBuffered
  unfold release
  split_ifs
  · exact hs
  · exact hskip
  · exact emit_ordered hskip
  · exact emit_ordered hs

theorem discardAlreadyLateHead_ordered (hs : s.jitterBuffer.Ordered) (localNowMs : UInt64) :
    (s.discardAlreadyLateHead localNowMs).jitterBuffer.Ordered :=
  s.discardAlreadyLateHead_eq localNowMs ▸ discardAlreadyLateHeadBy_ordered hs _ _

theorem pollWithReleaseHorizon_ordered (hs : s.jitterBuffer.Ordered) (now horizon : UInt64) :
    (s.pollWithReleaseHorizon now horizon).2.jitterBuffer.Ordered := by
  have hbuffering : (s.advanceBuffering now).2.jitterBuffer.Ordered := by
    have hlate := discardAlreadyLateHead_ordered
      (s := { s with bufferTargetProgress := .satisfied }) hs now
    unfold advanceBuffering
    dsimp only
    split_ifs
    · exact hs
    · exact hlate
    · exact hlate
  unfold pollWithReleaseHorizon
  dsimp only
  split
  · exact hs
  · exact hs
  · split
    · next heq =>
      rw [heq] at hbuffering
      exact hbuffering
    · next heq =>
      rw [heq] at hbuffering
      exact release_ordered hbuffering _
  · exact release_ordered hs _

theorem ordered_of_reachable (hs : playbackScheduler.Reachable s) : s.jitterBuffer.Ordered := by
  refine hs.invariant (I := fun s => s.jitterBuffer.Ordered) ?_ fun s call hs => ?_
  · rintro s ⟨config, offsetMs, h⟩
    exact new_ordered (new_eq_ok h).2.2.2.2.1
  · cases call with
    | submitPacket datagram => exact (s.jitterBuffer.accept_arrives datagram).ordered hs
    | poll now => exact pollWithReleaseHorizon_ordered hs now now
    | pollWithReleaseHorizon now horizon => exact pollWithReleaseHorizon_ordered hs now horizon
    | drainRemaining => exact hs.drainAll
    | realignToNow now => exact discardAlreadyLateHead_ordered hs now
    | applyOffsetUpdate offsetMs =>
      change (s.applyOffsetUpdate offsetMs).2.jitterBuffer.Ordered
      unfold applyOffsetUpdate
      split_ifs <;> exact hs
    | rebuffer | setHostStartTimeMs | stop => exact hs

end PlaybackScheduler

open PlaybackScheduler

/-- The loop over late packets ends, for any deadlines. It leaves no late packet at the head if
deadlines do not decrease along the stream, and it drops only packets that are late. The loop of
the scheduler is the one for its own deadlines. -/
theorem late_head_is_discarded {s : PlaybackScheduler} (hs : playbackScheduler.Reachable s)
    (localNowMs : UInt64) :
    s.discardAlreadyLateHead localNowMs = s.discardAlreadyLateHeadBy s.deadlineAt localNowMs ∧
      ∀ (deadlineMs : UInt64 → UInt64) (s' : PlaybackScheduler),
        s' = s.discardAlreadyLateHeadBy deadlineMs localNowMs →
          discardLateHeadBy deadlineMs localNowMs s' = none ∧
          ((∀ a b, a ≤ b → deadlineMs a ≤ deadlineMs b) → ∀ p,
            s'.jitterBuffer.packets.first? = some p → localNowMs ≤ deadlineMs p.sequence.get) ∧
          ∀ p ∈ s.jitterBuffer.packets, p ∉ s'.jitterBuffer.packets →
            deadlineMs p.sequence.get < localNowMs := by
  have hordered := ordered_of_reachable hs
  refine ⟨s.discardAlreadyLateHead_eq localNowMs, ?_⟩
  rintro deadlineMs s' rfl
  have hends : discardLateHeadBy deadlineMs localNowMs
      (s.discardAlreadyLateHeadBy deadlineMs localNowMs) = none :=
    loop_ends (I := fun s => s.jitterBuffer.Ordered) (fun _ _ hs hround =>
      ⟨(discardLateHeadBy_round hs hround).2.2.1, discardLateHeadBy_bufferedPlaces hs hround⟩)
      s.bufferedPlaces hordered le_rfl
  refine ⟨hends, fun hmono p hp => ?_, ?_⟩
  · have hmem := mem_of_first? hp
    have hle := (discardAlreadyLateHeadBy_ordered hordered deadlineMs localNowMs).expected_le p hmem
    unfold discardLateHeadBy at hends
    split_ifs at hends with hempty hdeadline
    · exact absurd hmem (isEmpty_iff.mp hempty p)
    · exact UInt64.le_trans hdeadline (hmono _ _ (UInt64.le_iff_toNat_le.mpr hle))
  · refine (loop_rel (I := fun s => s.jitterBuffer.Ordered)
      (R := fun s s' : PlaybackScheduler => ∀ p ∈ s.jitterBuffer.packets,
        p ∉ s'.jitterBuffer.packets → deadlineMs p.sequence.get < localNowMs)
      (fun _ _ p hp hdropped => absurd hp hdropped) (fun s s' t hs hround => ?_)
      s.bufferedPlaces hordered).2
    obtain ⟨-, hlate, hs', -, hpackets⟩ := discardLateHeadBy_round hs hround
    refine ⟨hs', fun hlater p hp hdropped => ?_⟩
    by_cases hposition : p.position = s.jitterBuffer.expected
    · rw [UInt64.toNat_inj.mp hposition]
      exact hlate
    · exact hlater p ((hpackets p).mpr ⟨hp, hposition⟩) hdropped

namespace SchedulerScenario

/-- The packet at place one has arrived, and the one at place zero is missing. -/
def gap : PlaybackScheduler :=
  playbackScheduler.after scheduler [.submitPacket (JitterScenario.packet 1 0)]

theorem gap_reachable : playbackScheduler.Reachable gap :=
  ⟨_, _, ⟨_, _, new_scheduler⟩, rfl⟩

/-- The place of the missing packet is due later than the one after it. -/
def decreasing (sequence : UInt64) : UInt64 := if sequence = 0 then 10 else 0

end SchedulerScenario

open SchedulerScenario

theorem late_head_is_discarded_gap :
    playbackScheduler.Reachable gap ∧
      discardLateHeadBy id 5 (gap.discardAlreadyLateHeadBy id 5) = none :=
  ⟨gap_reachable, ((late_head_is_discarded gap_reachable 5).2 id _ rfl).1⟩

/-- The loop waits at the place of a missing packet, and the next packet is late. -/
theorem not_late_head_is_discarded :
    ¬∀ (s : PlaybackScheduler) (deadlineMs : UInt64 → UInt64) (localNowMs : UInt64),
      playbackScheduler.Reachable s → ∀ p,
      (s.discardAlreadyLateHeadBy deadlineMs localNowMs).jitterBuffer.packets.first? = some p →
        localNowMs ≤ deadlineMs p.sequence.get := by
  intro h
  have hfirst : (gap.discardAlreadyLateHeadBy decreasing 5).jitterBuffer.packets.first? =
      some (JitterScenario.packet 1 0) := rfl
  exact absurd (h gap decreasing 5 gap_reachable _ hfirst) (by decide +kernel)

end SilentDisco
