import SilentDisco.Audio.RenderRing

/-!
# The render ring is a queue

With indices that do not wrap, the frames that the consumer gets are the first of those that the
producer was told to be accepted, whatever old indices either side sees. With machine words, the
same holds until an index overflows.

## Main definitions

* `RingTraffic`: the samples accepted from the producer and supplied to the consumer
* `RenderRing.Lossless`: what a queue without losses means
* `RenderRing.PushFits`: the call does not overflow the write index

## Main results

* `ring_is_lossless`: the ring with unbounded indices is a queue
* `ring_survives_long_sessions`: the ring with machine words behaves like it until an index
  overflows
-/

namespace SilentDisco

open Result RenderRing

/-- The samples that have passed through the ring. -/
structure RingTraffic where
  accepted : List Float32 := []
  supplied : List Float32 := []
  deriving DecidableEq

/-- One more call: the frames that a push reports as accepted, or those that a read reports as
supplied. -/
def RingTraffic.push (traffic : RingTraffic) : RingCall → RingReply → RingTraffic
  | .push frames _, .pushed written =>
    { traffic with accepted := traffic.accepted ++ frames.take (written * renderChannels) }
  | .read _ _, .read outcome output =>
    { traffic with
      supplied := traffic.supplied ++ output.take (outcome.framesSupplied * renderChannels) }
  | _, _ => traffic

/-- The samples that pass through a ring with indices modulo `size`. -/
def ringTraffic (size : ℕ) (ring : RenderRing) (calls : List RingCall) : RingTraffic :=
  (renderRing size).record
    (fun traffic ring call => traffic.push call ((renderRing size).out ring call)) {} ring calls

/-! ## Unbounded indices -/

@[simp] theorem moveIndex_zero (index n : ℕ) : moveIndex 0 index n = index + n := Nat.mod_zero _

@[simp] theorem indexDistance_zero (ahead behind : ℕ) :
    indexDistance 0 ahead behind = ahead - behind := Nat.mod_zero _

/-- An index that moves only if there is a frame. -/
theorem moveIndex_zero_ite (index n : ℕ) :
    (if n > 0 then moveIndex 0 index n else index) = index + n := by
  split_ifs with hn
  · exact moveIndex_zero index n
  · rw [Nat.eq_zero_of_not_pos hn, Nat.add_zero]

/-- An old index lies between the one seen last and the current one. -/
theorem observeIndex_zero_bounds {seen current : ℕ} (h : seen ≤ current) (lag : ℕ) :
    seen ≤ observeIndex 0 seen current lag ∧ observeIndex 0 seen current lag ≤ current := by
  simp only [observeIndex, indexDistance_zero]
  omega

namespace RenderRing

variable {ring : RenderRing} {traffic : RingTraffic}

/-- Samples lie in consecutive slots. -/
theorem slot_zero (index k : ℕ) :
    ring.slot 0 index k =
      (index * renderChannels + k) % (ring.capacityFrames * renderChannels) := by
  have hsplit : index * renderChannels + k =
      (index + k / renderChannels) * renderChannels + k % renderChannels := by
    rw [Nat.add_mul, Nat.add_assoc, Nat.div_add_mod']
  rw [slot, moveIndex_zero, hsplit]
  generalize index + k / renderChannels = frame
  have hlt : k % renderChannels < renderChannels := Nat.mod_lt _ (by decide)
  generalize k % renderChannels = channel at hlt
  rcases Nat.eq_zero_or_pos ring.capacityFrames with hzero | hpos
  · simp [hzero]
  · have hrest : frame % ring.capacityFrames * renderChannels + channel <
        ring.capacityFrames * renderChannels := by
      have hframe := Nat.mod_lt frame hpos
      calc frame % ring.capacityFrames * renderChannels + channel
          < (frame % ring.capacityFrames + 1) * renderChannels := by
            rw [Nat.add_mul, Nat.one_mul]
            exact Nat.add_lt_add_left hlt _
        _ ≤ ring.capacityFrames * renderChannels := Nat.mul_le_mul_right _ hframe
    have hframe : frame * renderChannels + channel =
        frame % ring.capacityFrames * renderChannels + channel +
          ring.capacityFrames * renderChannels * (frame / ring.capacityFrames) := by
      conv_lhs => rw [← Nat.mod_add_div frame ring.capacityFrames]
      ring
    rw [hframe, Nat.add_mul_mod_self_left, Nat.mod_eq_of_lt hrest]

/-- The indices, the slots and the samples that have passed belong together. -/
structure Queues (ring : RenderRing) (traffic : RingTraffic) : Prop where
  holds : CircularBuffer.Holds (ring.capacityFrames * renderChannels) ring.slots traffic.accepted
    (ring.readIndex * renderChannels)
  accepted_length : traffic.accepted.length = ring.writeIndex * renderChannels
  supplied_eq : traffic.supplied = traffic.accepted.take (ring.readIndex * renderChannels)
  seenRead_le : ring.seenReadIndex ≤ ring.readIndex
  /-- The producer never writes further than the frames that it has seen to be read allow. -/
  write_le : ring.writeIndex ≤ ring.seenReadIndex + ring.capacityFrames
  /-- The consumer never reads further than it has seen to be written. -/
  read_le : ring.readIndex ≤ ring.seenWriteIndex
  seenWrite_le : ring.seenWriteIndex ≤ ring.writeIndex

theorem queues_empty (capacityFrames : ℕ) : (empty capacityFrames).Queues {} where
  holds := .nil _ _ (List.length_replicate)
  accepted_length := rfl
  supplied_eq := rfl
  seenRead_le := le_rfl
  write_le := Nat.zero_le _
  read_le := le_rfl
  seenWrite_le := le_rfl

theorem Queues.push (h : ring.Queues traffic) (frames : List Float32) (lag : ℕ) :
    (ring.pushFrames 0 frames lag).2.Queues
      (traffic.push (.push frames lag) (.pushed (ring.pushFrames 0 frames lag).1)) := by
  obtain ⟨hseen, hcurrent⟩ := observeIndex_zero_bounds h.seenRead_le lag
  have hwrite := h.write_le
  have hseenWrite := h.seenWrite_le
  have hfree : ring.freeFrames 0 lag = ring.capacityFrames -
      (ring.writeIndex - observeIndex 0 ring.seenReadIndex ring.readIndex lag) := by
    rw [freeFrames, indexDistance_zero, indexDistance_zero]
  have hread := h.read_le
  -- The number of frames written, and what it is bounded by.
  unfold pushFrames
  dsimp only
  generalize hn : min (frames.length / renderChannels) (ring.freeFrames 0 lag) = n
  have hlength : n * renderChannels ≤ frames.length := by
    have : n ≤ frames.length / renderChannels := hn ▸ min_le_left _ _
    exact (Nat.mul_le_mul_right _ this).trans (Nat.div_mul_le_self _ _)
  have hroom : ring.writeIndex + n ≤
      observeIndex 0 ring.seenReadIndex ring.readIndex lag + ring.capacityFrames := by
    have : n ≤ ring.freeFrames 0 lag := hn ▸ min_le_right _ _
    omega
  have htaken : (frames.take (n * renderChannels)).length = n * renderChannels :=
    List.length_take_of_le hlength
  rw [moveIndex_zero_ite]
  refine ⟨?_, ?_, ?_, hcurrent, hroom, hread, ?_⟩
  · refine h.holds.write (fun k _ => ?_) ?_
    · rw [slot_zero, h.accepted_length]
    · rw [htaken, h.accepted_length, ← Nat.add_mul, ← Nat.add_mul]
      exact Nat.mul_le_mul_right _ (by omega)
  · change (traffic.accepted ++ frames.take (n * renderChannels)).length = _
    rw [List.length_append, htaken, h.accepted_length, Nat.add_mul]
  · change traffic.supplied = (traffic.accepted ++ frames.take (n * renderChannels)).take _
    rw [List.take_append_of_le_length h.holds.low_le]
    exact h.supplied_eq
  · change ring.seenWriteIndex ≤ ring.writeIndex + n
    omega

theorem Queues.read (h : ring.Queues traffic) (output : List Float32) (lag : ℕ) :
    (ring.readFrames 0 output lag).2.Queues
      (traffic.push (.read output lag)
        (.read (ring.readFrames 0 output lag).1.1 (ring.readFrames 0 output lag).1.2)) := by
  obtain ⟨hseen, hcurrent⟩ := observeIndex_zero_bounds h.seenWrite_le lag
  have hread := h.read_le
  have hseenRead := h.seenRead_le
  unfold readFrames
  dsimp only
  generalize hn : min (output.length / renderChannels) (ring.availableFrames 0 lag) = n
  have havailable : ring.readIndex + n ≤
      observeIndex 0 ring.seenWriteIndex ring.writeIndex lag := by
    have hle : n ≤ ring.availableFrames 0 lag := hn ▸ min_le_right _ _
    rw [availableFrames, indexDistance_zero] at hle
    omega
  have hlength : (ring.readIndex + n) * renderChannels ≤ traffic.accepted.length := by
    rw [h.accepted_length]
    exact Nat.mul_le_mul_right _ (havailable.trans hcurrent)
  have hsupplied := h.holds.read (n := n * renderChannels) (0.0 : Float32)
    (fun k _ => slot_zero ring.readIndex k) (by rwa [← Nat.add_mul])
  rw [moveIndex_zero_ite, hsupplied]
  refine ⟨?_, h.accepted_length, ?_, ?_, h.write_le, havailable, hcurrent⟩
  · exact h.holds.release (Nat.mul_le_mul_right _ (Nat.le_add_right _ _)) hlength
  · have htaken : ((traffic.accepted.drop (ring.readIndex * renderChannels)).take
        (n * renderChannels)).length = n * renderChannels := by
      rw [List.length_take, List.length_drop]
      rw [Nat.add_mul] at hlength
      omega
    change traffic.supplied ++ List.take (n * renderChannels) _ = _
    rw [List.append_assoc, List.take_append_of_le_length htaken.ge, List.take_take, min_self,
      h.supplied_eq, Nat.add_mul, List.take_add]
    rfl
  · change ring.seenReadIndex ≤ ring.readIndex + n
    omega

theorem Queues.next (h : ring.Queues traffic) (call : RingCall) :
    ((renderRing 0).next ring call).Queues
      (traffic.push call ((renderRing 0).out ring call)) := by
  cases call with
  | push frames lag => exact h.push frames lag
  | read output lag => exact h.read output lag

/-- A queue without losses, which keeps frames whole. -/
structure Lossless (ring : RenderRing) (traffic : RingTraffic) : Prop where
  /-- The consumer gets the first of the accepted samples. -/
  in_order : traffic.supplied <+: traffic.accepted
  whole_frames : traffic.accepted.length = ring.writeIndex * renderChannels ∧
    traffic.supplied.length = ring.readIndex * renderChannels
  bounded : ring.readIndex ≤ ring.writeIndex ∧
    ring.writeIndex - ring.readIndex ≤ ring.capacityFrames
  /-- An accepted frame stays in its slot until it is read. -/
  intact : ∀ frame channel, ring.readIndex ≤ frame → frame < ring.writeIndex →
    channel < renderChannels →
      ring.slots[frame % ring.capacityFrames * renderChannels + channel]? =
        traffic.accepted[frame * renderChannels + channel]?

theorem Queues.lossless (h : ring.Queues traffic) : ring.Lossless traffic := by
  have hread := h.read_le
  have hseenWrite := h.seenWrite_le
  have hseenRead := h.seenRead_le
  have hwrite := h.write_le
  refine ⟨?_, ⟨h.accepted_length, ?_⟩, ⟨by omega, by omega⟩, ?_⟩
  · rw [h.supplied_eq]
    exact List.take_prefix _ _
  · rw [h.supplied_eq, List.length_take, min_eq_left h.holds.low_le]
  · intro frame channel hlow hhigh hchannel
    have hslot := ring.slot_zero frame channel
    rw [slot, moveIndex_zero, Nat.div_eq_of_lt hchannel, Nat.mod_eq_of_lt hchannel,
      Nat.add_zero] at hslot
    rw [hslot]
    refine h.holds.item _ ?_ ?_
    · exact (Nat.mul_le_mul_right _ hlow).trans (Nat.le_add_right _ _)
    · rw [h.accepted_length]
      calc frame * renderChannels + channel < (frame + 1) * renderChannels := by
            rw [Nat.add_mul, Nat.one_mul]
            exact Nat.add_lt_add_left hchannel _
        _ ≤ ring.writeIndex * renderChannels := Nat.mul_le_mul_right _ hhigh

end RenderRing

/-! ## Machine words -/

section Words

variable {size : ℕ}

theorem moveIndex_of_lt {index n : ℕ} (h : index + n < size) : moveIndex size index n = index + n :=
  Nat.mod_eq_of_lt h

theorem indexDistance_of_le {ahead behind : ℕ} (h : behind ≤ ahead) (hlt : ahead < size) :
    indexDistance size ahead behind = ahead - behind := by
  rw [indexDistance, Nat.sub_add_comm h, Nat.add_mod_right]
  exact Nat.mod_eq_of_lt (by omega)

theorem observeIndex_of_le {seen current : ℕ} (h : seen ≤ current) (hlt : current < size)
    (lag : ℕ) : observeIndex size seen current lag = observeIndex 0 seen current lag := by
  simp only [observeIndex, indexDistance_zero]
  rw [indexDistance_of_le h hlt, indexDistance_of_le (by omega) hlt]

namespace RenderRing

variable {ring : RenderRing} {traffic : RingTraffic}

theorem slot_of_lt {index n k : ℕ} (h : index + n ≤ size) (hk : k < n * renderChannels) :
    ring.slot size index k = ring.slot 0 index k := by
  have hframe : k / renderChannels < n := Nat.div_lt_of_lt_mul (by rwa [Nat.mul_comm])
  rw [slot, slot, moveIndex_zero, moveIndex_of_lt (by omega)]

theorem freeFrames_of_queues (h : ring.Queues traffic) (hcapacity : ring.capacityFrames < size)
    (hwrite : ring.writeIndex < size) (lag : ℕ) :
    ring.freeFrames size lag = ring.freeFrames 0 lag := by
  have hread := h.read_le
  have hseenWrite := h.seenWrite_le
  have hroom := h.write_le
  obtain ⟨hseen, hcurrent⟩ := observeIndex_zero_bounds h.seenRead_le lag
  rw [freeFrames, freeFrames, observeIndex_of_le h.seenRead_le (by omega), indexDistance_zero,
    indexDistance_zero, indexDistance_of_le (by omega) hwrite,
    indexDistance_of_le (by omega) hcapacity]

theorem availableFrames_of_queues (h : ring.Queues traffic) (hwrite : ring.writeIndex < size)
    (lag : ℕ) : ring.availableFrames size lag = ring.availableFrames 0 lag := by
  have hread := h.read_le
  obtain ⟨hseen, hcurrent⟩ := observeIndex_zero_bounds h.seenWrite_le lag
  rw [availableFrames, availableFrames, observeIndex_of_le h.seenWrite_le hwrite,
    indexDistance_zero, indexDistance_of_le (by omega) (by omega)]

/-- A push whose frames all have an index that fits a word. -/
theorem pushFrames_of_queues (h : ring.Queues traffic) (hcapacity : ring.capacityFrames < size)
    {frames : List Float32} (hfits : ring.writeIndex + frames.length / renderChannels < size)
    (lag : ℕ) : ring.pushFrames size frames lag = ring.pushFrames 0 frames lag := by
  have hread := h.read_le
  have hseenWrite := h.seenWrite_le
  have hwrite : ring.writeIndex < size := (Nat.le_add_right _ _).trans_lt hfits
  unfold pushFrames
  rw [freeFrames_of_queues h hcapacity hwrite, observeIndex_of_le h.seenRead_le (by omega)]
  dsimp only
  generalize hn : min (frames.length / renderChannels) (ring.freeFrames 0 lag) = n
  have hle : n ≤ frames.length / renderChannels := hn ▸ min_le_left _ _
  have hslots : ∀ k < (frames.take (n * renderChannels)).length,
      ring.slot size ring.writeIndex k = ring.slot 0 ring.writeIndex k := fun k hk =>
    slot_of_lt (n := n) (by omega) (hk.trans_le (List.length_take_le _ _))
  rw [moveIndex_of_lt (by omega), moveIndex_zero, CircularBuffer.write_congr hslots]

/-- A read while all indices fit a word. -/
theorem readFrames_of_queues (h : ring.Queues traffic) (hwrite : ring.writeIndex < size)
    (output : List Float32) (lag : ℕ) :
    ring.readFrames size output lag = ring.readFrames 0 output lag := by
  have hread := h.read_le
  obtain ⟨hseen, hcurrent⟩ := observeIndex_zero_bounds h.seenWrite_le lag
  unfold readFrames
  rw [availableFrames_of_queues h hwrite, observeIndex_of_le h.seenWrite_le hwrite]
  dsimp only
  generalize hn : min (output.length / renderChannels) (ring.availableFrames 0 lag) = n
  have hle : n ≤ ring.availableFrames 0 lag := hn ▸ min_le_right _ _
  rw [availableFrames, indexDistance_zero] at hle
  have hslots : ∀ k < n * renderChannels,
      ring.slot size ring.readIndex k = ring.slot 0 ring.readIndex k := fun k hk =>
    slot_of_lt (by omega) hk
  rw [moveIndex_of_lt (by omega), moveIndex_zero, CircularBuffer.read_congr _ hslots]

end RenderRing

end Words

namespace RenderRing

variable {w : ℕ} {ring : RenderRing} {traffic : RingTraffic} {call : RingCall}

/-- Every frame of a push has an index that fits a word. -/
def PushFits (w : ℕ) (ring : RenderRing) : RingCall → Prop
  | .push frames _ => ring.writeIndex + frames.length / renderChannels < 2 ^ w
  | .read _ _ => True

instance (w : ℕ) (ring : RenderRing) : (call : RingCall) → Decidable (PushFits w ring call)
  | .push frames _ =>
    inferInstanceAs (Decidable (ring.writeIndex + frames.length / renderChannels < 2 ^ w))
  | .read _ _ => isTrue trivial

/-- The call does not overflow an index. -/
def NoOverflow (w : ℕ) (ring : RenderRing) : RingCall → Prop
  | .push frames lag => ring.writeIndex + (ring.pushFrames (2 ^ w) frames lag).1 < 2 ^ w
  | .read output lag =>
    ring.readIndex + (ring.readFrames (2 ^ w) output lag).1.1.framesSupplied < 2 ^ w

/-- The indices fit a word, and the ring with unbounded indices is in the same state. -/
structure FitsWord (w : ℕ) (ring : RenderRing) : Prop where
  queues : ∃ traffic, ring.Queues traffic
  capacity_lt : ring.capacityFrames < 2 ^ w
  write_lt : ring.writeIndex < 2 ^ w

theorem fitsWord_empty {capacityFrames : ℕ} (h : capacityFrames < 2 ^ w) :
    FitsWord w (.empty capacityFrames) :=
  ⟨⟨_, queues_empty capacityFrames⟩, h, Nat.two_pow_pos w⟩

theorem FitsWord.step_eq (h : FitsWord w ring) (hcall : PushFits w ring call) :
    (renderRing (2 ^ w)).step ring call = (renderRing 0).step ring call := by
  obtain ⟨traffic, hqueues⟩ := h.queues
  cases call with
  | push frames lag =>
    simp only [renderRing, pushFrames_of_queues hqueues h.capacity_lt hcall lag]
  | read output lag => simp only [renderRing, readFrames_of_queues hqueues h.write_lt output lag]

theorem pushFrames_writeIndex (frames : List Float32) (lag : ℕ) :
    (ring.pushFrames 0 frames lag).2.writeIndex =
      ring.writeIndex + (ring.pushFrames 0 frames lag).1 := moveIndex_zero_ite _ _

theorem pushFrames_readIndex (frames : List Float32) (lag : ℕ) :
    (ring.pushFrames 0 frames lag).2.readIndex = ring.readIndex := rfl

theorem pushFrames_capacityFrames (frames : List Float32) (lag : ℕ) :
    (ring.pushFrames 0 frames lag).2.capacityFrames = ring.capacityFrames := rfl

theorem readFrames_writeIndex (output : List Float32) (lag : ℕ) :
    (ring.readFrames 0 output lag).2.writeIndex = ring.writeIndex := rfl

theorem readFrames_capacityFrames (output : List Float32) (lag : ℕ) :
    (ring.readFrames 0 output lag).2.capacityFrames = ring.capacityFrames := rfl

theorem readFrames_readIndex (output : List Float32) (lag : ℕ) :
    (ring.readFrames 0 output lag).2.readIndex =
      ring.readIndex + (ring.readFrames 0 output lag).1.1.framesSupplied := moveIndex_zero_ite _ _

theorem FitsWord.next (h : FitsWord w ring) (hcall : PushFits w ring call) :
    FitsWord w ((renderRing 0).next ring call) := by
  obtain ⟨traffic, hqueues⟩ := h.queues
  cases call with
  | push frames lag =>
    refine ⟨⟨_, hqueues.push frames lag⟩, h.capacity_lt, ?_⟩
    change (ring.pushFrames 0 frames lag).2.writeIndex < 2 ^ w
    rw [pushFrames_writeIndex]
    exact (Nat.add_le_add_left (min_le_left _ _) _).trans_lt hcall
  | read output lag => exact ⟨⟨_, hqueues.read output lag⟩, h.capacity_lt, h.write_lt⟩

theorem FitsWord.noOverflow (h : FitsWord w ring) (hcall : PushFits w ring call) :
    NoOverflow w ring call := by
  obtain ⟨traffic, hqueues⟩ := h.queues
  cases call with
  | push => exact (Nat.add_le_add_left (min_le_left _ _) _).trans_lt hcall
  | read output lag =>
    have hread := hqueues.read output lag
    have hle := hread.read_le.trans hread.seenWrite_le
    rw [readFrames_readIndex] at hle
    change ring.readIndex + (ring.readFrames (2 ^ w) output lag).1.1.framesSupplied < 2 ^ w
    rw [readFrames_of_queues hqueues h.write_lt]
    exact hle.trans_lt h.write_lt

/-- Frames that are held are in different slots. -/
def LiveFramesApart (w : ℕ) (ring : RenderRing) : Prop :=
  ∀ i j, i < j → j < indexDistance (2 ^ w) ring.writeIndex ring.readIndex →
    moveIndex (2 ^ w) ring.readIndex i % ring.capacityFrames ≠
      moveIndex (2 ^ w) ring.readIndex j % ring.capacityFrames

theorem FitsWord.liveFramesApart (h : FitsWord w ring) : ring.LiveFramesApart w := by
  obtain ⟨traffic, hqueues⟩ := h.queues
  have hread := hqueues.read_le
  have hseenWrite := hqueues.seenWrite_le
  have hseenRead := hqueues.seenRead_le
  have hroom := hqueues.write_le
  have hwrite := h.write_lt
  intro i j hij hj
  rw [indexDistance_of_le (by omega) hwrite] at hj
  rw [moveIndex_of_lt (by omega), moveIndex_of_lt (by omega)]
  exact CircularBuffer.slot_ne (by omega) (by omega)

end RenderRing

open RenderRing in
/-- **The ring is a queue without losses.** For every capacity and every interleaving of pushes and
reads, whatever old indices they see, the consumer gets the first of the accepted frames, no more
frames are held than the capacity, and an accepted frame stays in its slot until it is read. With
words of any width, this holds as long as the frames pushed have indices that fit a word. -/
theorem ring_is_lossless (capacityFrames : ℕ) (calls : List RingCall) :
    ((renderRing 0).after (.empty capacityFrames) calls).Lossless
      (ringTraffic 0 (.empty capacityFrames) calls) ∧
    ∀ w, capacityFrames < 2 ^ w →
      (renderRing (2 ^ w)).Along (PushFits w) (.empty capacityFrames) calls →
      ((renderRing (2 ^ w)).after (.empty capacityFrames) calls).Lossless
        (ringTraffic (2 ^ w) (.empty capacityFrames) calls) := by
  have hempty := queues_empty capacityFrames
  constructor
  · exact (Machine.invariant_record (M := renderRing 0) (I := Queues)
      (fun _ _ call h => h.next call) hempty calls).lossless
  · intro w hcapacity hcalls
    refine (Machine.Along.invariant_record (M := renderRing (2 ^ w))
      (I := fun ring traffic => ring.Queues traffic ∧ FitsWord w ring) ?_
      ⟨hempty, fitsWord_empty hcapacity⟩ hcalls).1.lossless
    rintro ring traffic call ⟨hqueues, hfits⟩ hcall
    rw [Machine.next, Machine.out, hfits.step_eq hcall]
    exact ⟨hqueues.next call, hfits.next hcall⟩

/-- The ring with words of `w` bits behaves in a run like the one with unbounded indices: no index
overflows, the replies are the same, and frames that are held are in different slots. -/
structure RingSurvives (w : ℕ) (ring : RenderRing) (calls : List RingCall) : Prop where
  no_overflow : (renderRing (2 ^ w)).Along (RenderRing.NoOverflow w) ring calls
  outputs_eq : (renderRing (2 ^ w)).outputs ring calls = (renderRing 0).outputs ring calls
  apart : ((renderRing (2 ^ w)).after ring calls).LiveFramesApart w

open RenderRing in
/-- **The ring survives long sessions** as long as the frames pushed have indices that fit a
word. -/
theorem ring_survives_long_sessions {w : ℕ} (hw : w = 32 ∨ w = 64) {config : RenderRingConfig}
    {ring : RenderRing} (hnew : RenderRing.new config = .ok ring) {calls : List RingCall}
    (hcalls : (renderRing (2 ^ w)).Along (PushFits w) ring calls) : RingSurvives w ring calls := by
  have hfits : FitsWord w ring := by
    unfold RenderRing.new at hnew
    simp only [bind_eq_ok, check_eq_ok] at hnew
    obtain ⟨_, ⟨-, hcapacity⟩, _, -, hpure⟩ := hnew
    cases hpure
    have hword : 2 ^ 32 ≤ 2 ^ w := Nat.pow_le_pow_right (by decide) (by omega)
    refine fitsWord_empty ((hcapacity.trans_lt ?_).trans_le hword)
    decide
  have hstep (ring : RenderRing) (call : RingCall) (h : FitsWord w ring)
      (hcall : PushFits w ring call) :
      (renderRing (2 ^ w)).step ring call = (renderRing 0).step ring call ∧
        FitsWord w ((renderRing 0).next ring call) := ⟨h.step_eq hcall, h.next hcall⟩
  have hnext (ring : RenderRing) (call : RingCall) (h : FitsWord w ring)
      (hcall : PushFits w ring call) : FitsWord w ((renderRing (2 ^ w)).next ring call) := by
    rw [Machine.next, h.step_eq hcall]
    exact h.next hcall
  refine ⟨?_, (Machine.agree hstep hfits hcalls).2, ?_⟩
  · exact Machine.along_of_invariant
      (fun ring call h hcall => ⟨h.noOverflow hcall, hnext ring call h hcall⟩) hfits hcalls
  · exact (hcalls.invariant hnext hfits).liveFramesApart

namespace RingScenario

/-- The smallest ring. -/
def ring : RenderRing := .empty 4800

theorem new_ring : new { capacityFrames := 4800, targetFillFrames := 4800 } = .ok ring :=
  rfl

/-- As many silent samples as the ring holds. -/
def silence : List Float32 := List.replicate 9600 0.0

theorem length_silence : silence.length / renderChannels = 4800 := by
  rw [silence, List.length_replicate]
  rfl

/-- Fill the ring and empty it. -/
def round : List RingCall := [.push silence 0, .read silence 0]

/-- Frames that pass through the ring one ring at a time. -/
def rounds : ℕ → List RingCall
  | 0 => []
  | n + 1 => rounds n ++ round

/-- A ring from which all frames have been read. -/
structure Rests (index : ℕ) (ring : RenderRing) : Prop where
  fits : RenderRing.FitsWord 32 ring
  capacity : ring.capacityFrames = 4800
  write : ring.writeIndex = index
  read : ring.readIndex = index

variable {index : ℕ} {ring : RenderRing}

/-- Without a lag, the current index is seen. -/
theorem observeIndex_zero_lag (seen current : ℕ) : observeIndex 0 seen current 0 = current := by
  simp [observeIndex]

/-- A ring that rests has room for the whole push. -/
theorem Rests.pushed (h : Rests index ring) : (ring.pushFrames (2 ^ 32) silence 0).1 = 4800 := by
  obtain ⟨traffic, hqueues⟩ := h.fits.queues
  change min (silence.length / renderChannels) (ring.freeFrames (2 ^ 32) 0) = 4800
  rw [freeFrames_of_queues hqueues h.fits.capacity_lt h.fits.write_lt,
    freeFrames, observeIndex_zero_lag, indexDistance_zero, indexDistance_zero, h.read,
    h.write, h.capacity, length_silence, Nat.sub_self, Nat.sub_zero, min_self]

theorem Rests.pushFits (h : Rests index ring) (hlt : index + 4800 < 2 ^ 32) :
    RenderRing.PushFits 32 ring (.push silence 0) := by
  change ring.writeIndex + silence.length / renderChannels < 2 ^ 32
  rwa [length_silence, h.write]

/-- It rests again after a round, unless the push overflows. -/
theorem Rests.next_round (h : Rests index ring) (hlt : index + 4800 < 2 ^ 32) :
    Rests (index + 4800) ((renderRing (2 ^ 32)).after ring round) := by
  have hpush := h.pushFits hlt
  have hpushed := h.pushed
  obtain ⟨traffic, hqueues⟩ := h.fits.queues
  rw [pushFrames_of_queues hqueues h.fits.capacity_lt hpush] at hpushed
  have hfull := h.fits.next hpush
  change RenderRing.FitsWord 32 (ring.pushFrames 0 silence 0).2 at hfull
  have hwrite : (ring.pushFrames 0 silence 0).2.writeIndex = index + 4800 := by
    rw [pushFrames_writeIndex, hpushed, h.write]
  have hread : (ring.pushFrames 0 silence 0).2.readIndex = index := by
    rw [pushFrames_readIndex, h.read]
  have hempty : RenderRing.PushFits 32 (ring.pushFrames 0 silence 0).2 (.read silence 0) := trivial
  have hafter : (renderRing (2 ^ 32)).after ring round =
      ((ring.pushFrames 0 silence 0).2.readFrames 0 silence 0).2 := by
    change (renderRing (2 ^ 32)).next ((renderRing (2 ^ 32)).next ring (.push silence 0))
      (.read silence 0) = _
    rw [Machine.next, Machine.next, h.fits.step_eq hpush]
    exact congrArg Prod.fst (hfull.step_eq hempty)
  have hsupplied : ((ring.pushFrames 0 silence 0).2.readFrames 0 silence 0).1.1.framesSupplied =
      4800 := by
    change min (silence.length / renderChannels)
      ((ring.pushFrames 0 silence 0).2.availableFrames 0 0) = 4800
    rw [availableFrames, observeIndex_zero_lag, indexDistance_zero, hwrite, hread,
      length_silence, Nat.add_sub_cancel_left, min_self]
  rw [hafter]
  refine ⟨hfull.next hempty, ?_, ?_, ?_⟩
  · rw [readFrames_capacityFrames, pushFrames_capacityFrames, h.capacity]
  · rw [readFrames_writeIndex, hwrite]
  · rw [readFrames_readIndex, hsupplied, hread]

theorem rests_ring : Rests 0 RingScenario.ring where
  fits := fitsWord_empty (by decide)
  capacity := rfl
  write := rfl
  read := rfl

/-- Rounds keep to the indices of a word, and the ring rests after them. -/
theorem rests_rounds {n : ℕ} (hn : n * 4800 < 2 ^ 32) :
    Rests (n * 4800) ((renderRing (2 ^ 32)).after RingScenario.ring (rounds n)) ∧
      (renderRing (2 ^ 32)).Along (RenderRing.PushFits 32) RingScenario.ring (rounds n) := by
  induction n with
  | zero =>
    rw [rounds, Machine.after_nil, Nat.zero_mul]
    exact ⟨rests_ring, trivial⟩
  | succ n ih =>
    rw [Nat.succ_mul] at hn
    obtain ⟨hrests, hfits⟩ := ih ((Nat.le_add_right _ _).trans_lt hn)
    rw [rounds, Machine.after_append, Nat.succ_mul, Machine.along_append]
    exact ⟨hrests.next_round hn, hfits, hrests.pushFits hn, trivial, trivial⟩

end RingScenario

open RingScenario in
/-- About a day of audio passes through the smallest ring. -/
theorem ring_is_lossless_rounds :
    ((renderRing (2 ^ 32)).after (.empty 4800) (rounds 894784)).Lossless
      (ringTraffic (2 ^ 32) (.empty 4800) (rounds 894784)) := by
  have hn : 894784 * 4800 < 2 ^ 32 := by norm_num
  generalize 894784 = n at hn ⊢
  exact (ring_is_lossless 4800 (rounds n)).2 32 (by decide) (rests_rounds hn).2

open RingScenario in
theorem ring_survives_long_sessions_rounds : RingSurvives 32 ring (rounds 894784) := by
  have hn : 894784 * 4800 < 2 ^ 32 := by norm_num
  generalize 894784 = n at hn ⊢
  exact ring_survives_long_sessions (.inl rfl) new_ring (rests_rounds hn).2

open RingScenario in
/-- On a target with words of 32 bits, the write index overflows after about a day of audio. -/
theorem not_ring_survives_long_sessions :
    ¬∀ (w : ℕ) (config : RenderRingConfig) (ring : RenderRing) (calls : List RingCall),
      w = 32 ∨ w = 64 → RenderRing.new config = .ok ring → RingSurvives w ring calls := by
  intro h
  obtain ⟨n, hlt, hover⟩ : ∃ n, n * 4800 < 2 ^ 32 ∧ ¬n * 4800 + 4800 < 2 ^ 32 :=
    ⟨894784, by norm_num, by norm_num⟩
  have hsurvives := h 32 _ _
    (rounds n ++ [.push silence 0]) (.inl rfl) new_ring
  have hrests := (rests_rounds hlt).1
  obtain ⟨-, hfits, -⟩ := Machine.along_append.mp hsurvives.no_overflow
  change _ + (RenderRing.pushFrames (2 ^ 32) _ silence 0).1 < 2 ^ 32 at hfits
  rw [hrests.pushed, hrests.write] at hfits
  exact hover hfits

end SilentDisco
