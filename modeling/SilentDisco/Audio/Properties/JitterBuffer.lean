import SilentDisco.Audio.JitterBuffer
import SilentDisco.Library.Runs

/-!
# Invariants of the jitter buffer

The buffered packets start at the expected place and reach no further than the reorder window.

## Main definitions

* `JitterBuffer.Arrives`: what an arriving packet does
* `JitterBuffer.Ordered`: where the buffered packets and the candidates lie
* `JitterBuffer.EarliestDecides`: the comparison with the earliest packet speaks for all

## Main results

* `buffered_audio_is_bounded`: when the buffered time stays within its bound
-/

namespace SilentDisco

open Protocol Result SortedBy

/-- A packet of the configured stream. -/
def JitterBufferConfig.Streams (config : JitterBufferConfig) (datagram : AudioDatagram) : Prop :=
  datagram.sessionId = config.sessionId ∧ datagram.streamId = config.streamId

instance (config : JitterBufferConfig) (datagram : AudioDatagram) :
    Decidable (config.Streams datagram) := inferInstanceAs (Decidable (_ ∧ _))

namespace JitterBufferStatistics

variable (statistics : JitterBufferStatistics)

/-- All that is counted. -/
def total : ℕ :=
  statistics.accepted + statistics.wrongSessionRejections + statistics.wrongStreamRejections +
    statistics.duplicateRejections + statistics.lateRejections +
    statistics.reorderWindowRejections + statistics.bufferedDurationRejections +
    statistics.emitted + statistics.skipped + statistics.resynchronisations

theorem total_countRejection (kind : JitterBufferRejectionKind) :
    (statistics.countRejection kind).total = statistics.total + 1 := by
  cases kind <;> simp only [countRejection, total] <;> omega

theorem total_skipped (n : ℕ) :
    total { statistics with skipped := statistics.skipped + n } = statistics.total + n := by
  simp only [total]
  omega

theorem total_emitted (n : ℕ) :
    total { statistics with emitted := statistics.emitted + n } = statistics.total + n := by
  simp only [total]
  omega

end JitterBufferStatistics

namespace JitterBuffer

variable {buffer : JitterBuffer} {datagram : AudioDatagram}

/-! ## Arrivals -/

/-- What an arriving packet does: it is rejected, retained as a candidate, completes three
candidates, or is buffered. -/
inductive Arrives (buffer : JitterBuffer) (datagram : AudioDatagram) :
    Except JitterBufferRejection Unit → JitterBuffer → Prop
  | rejected (kind : JitterBufferRejectionKind) (message : String) :
    Arrives buffer datagram (.error ⟨kind, message⟩)
      { buffer with statistics := buffer.statistics.countRejection kind }
  | retained (message : String) (hstream : buffer.config.Streams datagram)
    (hfar : buffer.expected + buffer.window < datagram.position)
    (hnew : ∀ c ∈ buffer.nearCandidates datagram, c.position ≠ datagram.position)
    (hfew : ((buffer.nearCandidates datagram).insert datagram).length < 3) :
    Arrives buffer datagram (.error ⟨.reorderWindowExceeded, message⟩)
      { buffer with
        farFutureCandidates := (buffer.nearCandidates datagram).insert datagram
        statistics := buffer.statistics.countRejection .reorderWindowExceeded }
  | promoted (hstream : buffer.config.Streams datagram)
    (hfar : buffer.expected + buffer.window < datagram.position)
    (hnew : ∀ c ∈ buffer.nearCandidates datagram, c.position ≠ datagram.position)
    (hmany : 3 ≤ ((buffer.nearCandidates datagram).insert datagram).length) :
    Arrives buffer datagram (.ok ())
      (buffer.promote ((buffer.nearCandidates datagram).insert datagram) datagram.sequence.get)
  | stored (hstream : buffer.config.Streams datagram)
    (hexpected : buffer.expected ≤ datagram.position)
    (hwithin : datagram.position ≤ buffer.expected + buffer.window)
    (hnew : ∀ p ∈ buffer.packets, p.position ≠ datagram.position)
    (hduration : buffer.exceedsDuration datagram = false) :
    Arrives buffer datagram (.ok ()) (buffer.store datagram)

theorem mem_of_mem_nearCandidates {c : AudioDatagram} (h : c ∈ buffer.nearCandidates datagram) :
    c ∈ buffer.farFutureCandidates := by
  unfold nearCandidates at h
  split_ifs at h
  · exact absurd h not_mem_empty
  · exact h

theorem acceptFarFuture_arrives (hstream : buffer.config.Streams datagram)
    (hfar : buffer.expected + buffer.window < datagram.position) :
    buffer.Arrives datagram (buffer.acceptFarFuture datagram).1
      (buffer.acceptFarFuture datagram).2 := by
  unfold acceptFarFuture
  dsimp only
  split_ifs with hknown hfew
  · exact .rejected _ _
  · refine .retained _ hstream hfar (fun c hc hposition => hknown ?_) hfew
    exact contains_iff.mpr ⟨c, mem_of_mem_nearCandidates hc, hposition⟩
  · refine .promoted hstream hfar (fun c hc hposition => hknown ?_) (not_lt.mp hfew)
    exact contains_iff.mpr ⟨c, mem_of_mem_nearCandidates hc, hposition⟩

theorem expected_le_of_not_late (h : ¬datagram.sequence.get < buffer.nextExpectedSequence) :
    buffer.expected ≤ datagram.position := UInt64.le_iff_toNat_le.mp (UInt64.not_lt.mp h)

/-- The distance of a packet that is not late. -/
theorem distance_of_not_late (h : ¬datagram.sequence.get < buffer.nextExpectedSequence) :
    (datagram.sequence.get - buffer.nextExpectedSequence).toNat =
      datagram.position - buffer.expected := UInt64.toNat_sub_of_le _ _ (UInt64.not_lt.mp h)

/-- An arriving packet does one of four things. -/
theorem accept_arrives (buffer : JitterBuffer) (datagram : AudioDatagram) :
    buffer.Arrives datagram (buffer.accept datagram).1 (buffer.accept datagram).2 := by
  unfold accept
  split_ifs with hsession hstream hlate hknown hfar hduration
  · exact .rejected _ _
  · exact .rejected _ _
  · exact .rejected _ _
  · exact .rejected _ _
  · rw [distance_of_not_late hlate] at hfar
    exact acceptFarFuture_arrives ⟨not_not.mp hsession, not_not.mp hstream⟩ (by omega)
  · exact .rejected _ _
  · have hexpected := expected_le_of_not_late hlate
    rw [distance_of_not_late hlate] at hfar
    refine .stored ⟨not_not.mp hsession, not_not.mp hstream⟩ hexpected (by omega) ?_
      (eq_false_of_ne_true hduration)
    exact fun p hp hposition => hknown (contains_iff.mpr ⟨p, hp, hposition⟩)

/-! ## Where the packets lie -/

/-- The buffered packets lie at most this far ahead of the expected place: promoted ones may lie
two ahead. -/
def reach (buffer : JitterBuffer) : ℕ := max buffer.window 2

/-- The buffered packets start at the expected place; the candidates are near each other. -/
structure Ordered (buffer : JitterBuffer) : Prop where
  expected_le : ∀ p ∈ buffer.packets, buffer.expected ≤ p.position
  le_reach : ∀ p ∈ buffer.packets, p.position ≤ buffer.expected + buffer.reach
  spread : ∀ c ∈ buffer.farFutureCandidates, ∀ c' ∈ buffer.farFutureCandidates,
    c.position ≤ c'.position + 2

/-- Every packet in the buffer satisfies `P`. -/
structure Holds (P : AudioDatagram → Prop) (buffer : JitterBuffer) : Prop where
  packets : ∀ p ∈ buffer.packets, P p
  candidates : ∀ c ∈ buffer.farFutureCandidates, P c

variable {P : AudioDatagram → Prop} {config : JitterBufferConfig}
  {result : Except JitterBufferRejection Unit} {buffer' : JitterBuffer}

theorem new_eq_ok (h : new config = .ok buffer) :
    buffer.config = config ∧ buffer.packets = .empty ∧
      buffer.nextExpectedSequence = config.firstSequence ∧ buffer.statistics = {} ∧
      buffer.farFutureCandidates = .empty ∧ buffer.overflowed = false := by
  unfold new at h
  split_ifs at h
  cases h
  exact ⟨rfl, rfl, rfl, rfl, rfl, rfl⟩

theorem new_ordered (h : new config = .ok buffer) : buffer.Ordered := by
  obtain ⟨-, hpackets, -, -, hcandidates, -⟩ := new_eq_ok h
  constructor
  · simp [hpackets]
  · simp [hpackets]
  · simp [hcandidates]

theorem new_holds (h : new config = .ok buffer) : buffer.Holds P := by
  obtain ⟨-, hpackets, -, -, hcandidates, -⟩ := new_eq_ok h
  constructor
  · simp [hpackets]
  · simp [hcandidates]

/-- Candidates that are kept are near the packet that keeps them. -/
theorem near_of_mem_nearCandidates {c : AudioDatagram} (h : c ∈ buffer.nearCandidates datagram) :
    datagram.position ≤ c.position + 2 ∧ c.position ≤ datagram.position + 2 := by
  have hc := mem_of_mem_nearCandidates h
  unfold nearCandidates at h
  split_ifs at h with hfar
  · exact absurd h not_mem_empty
  obtain ⟨hfirst, hlast⟩ := not_or.mp (mt (Bool.or_eq_true _ _).mpr hfar)
  constructor
  · cases hf : buffer.farFutureCandidates.first? with
    | none => exact absurd hc (first?_eq_none.mp hf c)
    | some =>
      have hle := key_le_of_first? hf hc
      simp only [hf, Option.any_some, decide_eq_true_eq] at hfirst
      omega
  · cases hl : buffer.farFutureCandidates.last? with
    | none => exact absurd hc (last?_eq_none.mp hl c)
    | some =>
      have hle := le_key_of_last? hl hc
      simp only [hl, Option.any_some, decide_eq_true_eq] at hlast
      omega

/-- The candidates with a new one are near each other. -/
theorem Ordered.spread_insert (h : buffer.Ordered) :
    ∀ c ∈ (buffer.nearCandidates datagram).insert datagram,
      ∀ c' ∈ (buffer.nearCandidates datagram).insert datagram, c.position ≤ c'.position + 2 := by
  intro c hc c' hc'
  rcases mem_insert.mp hc with rfl | ⟨hc, -⟩ <;>
    rcases mem_insert.mp hc' with rfl | ⟨hc', -⟩
  · omega
  · exact (near_of_mem_nearCandidates hc').1
  · exact (near_of_mem_nearCandidates hc).2
  · exact h.spread c (mem_of_mem_nearCandidates hc) c' (mem_of_mem_nearCandidates hc')

/-- The first promoted candidate is expected next. -/
theorem exists_first_of_insert (buffer : JitterBuffer) (m : PacketMap) (datagram : AudioDatagram)
    (sequence : UInt64) :
    ∃ first ∈ m.insert datagram, (m.insert datagram).first? = some first ∧
      (buffer.promote (m.insert datagram) sequence).expected = first.position := by
  cases hfirst : (m.insert datagram).first? with
  | none => exact absurd (mem_insert.mpr (.inl rfl)) (first?_eq_none.mp hfirst _)
  | some first =>
    refine ⟨first, mem_of_first? hfirst, rfl, ?_⟩
    simp [promote, expected, hfirst, AudioDatagram.position]

section

variable (h : buffer.Arrives datagram result buffer')
include h

theorem Arrives.ordered (hbuffer : buffer.Ordered) : buffer'.Ordered := by
  cases h with
  | rejected => exact ⟨hbuffer.expected_le, hbuffer.le_reach, hbuffer.spread⟩
  | retained =>
    exact ⟨hbuffer.expected_le, hbuffer.le_reach, hbuffer.spread_insert⟩
  | promoted =>
    obtain ⟨first, hmem, hfirst, hexpected⟩ := exists_first_of_insert buffer
      (buffer.nearCandidates datagram) datagram datagram.sequence.get
    refine ⟨fun p hp => ?_, fun p hp => ?_, fun c hc => absurd hc not_mem_empty⟩
    · rw [hexpected]
      exact key_le_of_first? hfirst hp
    · rw [hexpected]
      calc p.position ≤ first.position + 2 := hbuffer.spread_insert p hp first hmem
        _ ≤ first.position + buffer.reach := by simp [reach]
  | stored hstream hexpected hwithin =>
    refine ⟨fun p hp => ?_, fun p hp => ?_, fun c hc => absurd hc not_mem_empty⟩
    · rcases mem_insert.mp hp with rfl | ⟨hp, -⟩
      · exact hexpected
      · exact hbuffer.expected_le p hp
    · rcases mem_insert.mp hp with rfl | ⟨hp, -⟩
      · exact hwithin.trans (Nat.add_le_add_left (le_max_left _ _) _)
      · exact hbuffer.le_reach p hp

theorem Arrives.config_eq : buffer'.config = buffer.config := by
  cases h <;> rfl

theorem Arrives.holds (hbuffer : buffer.Holds P)
    (hdatagram : buffer.config.Streams datagram → P datagram) : buffer'.Holds P := by
  have hinsert (hstream : buffer.config.Streams datagram) :
      ∀ c ∈ (buffer.nearCandidates datagram).insert datagram, P c := by
    intro c hc
    rcases mem_insert.mp hc with rfl | ⟨hc, -⟩
    · exact hdatagram hstream
    · exact hbuffer.candidates c (mem_of_mem_nearCandidates hc)
  cases h with
  | rejected => exact ⟨hbuffer.packets, hbuffer.candidates⟩
  | retained message hstream => exact ⟨hbuffer.packets, hinsert hstream⟩
  | promoted hstream =>
    exact ⟨hinsert hstream, fun c hc => absurd hc not_mem_empty⟩
  | stored hstream =>
    refine ⟨fun p hp => ?_, fun c hc => absurd hc not_mem_empty⟩
    rcases mem_insert.mp hp with rfl | ⟨hp, -⟩
    · exact hdatagram hstream
    · exact hbuffer.packets p hp

/-- The expected place does not move back, if the reorder window is not empty: the candidates
that are promoted with a packet are near it, and it is far ahead. -/
theorem Arrives.expected_le (hwindow : 0 < buffer.window) : buffer.expected ≤ buffer'.expected := by
  cases h with
  | rejected | retained => exact le_rfl
  | promoted =>
    obtain ⟨first, hmem, -, hexpected⟩ := exists_first_of_insert buffer
      (buffer.nearCandidates datagram) datagram datagram.sequence.get
    rw [hexpected]
    rcases mem_insert.mp hmem with rfl | ⟨hnear, -⟩
    · omega
    · have := (near_of_mem_nearCandidates hnear).1
      omega
  | stored => exact le_rfl

/-- The expected place moves to a packet, or not at all. -/
theorem Arrives.expected_lt {B : ℕ}
    (hbuffer : buffer'.Holds (·.position < B)) :
    buffer'.expected = buffer.expected ∨ buffer'.expected < B := by
  cases h with
  | rejected | retained => exact .inl rfl
  | promoted =>
    obtain ⟨first, hmem, -, hexpected⟩ := exists_first_of_insert buffer
      (buffer.nearCandidates datagram) datagram datagram.sequence.get
    exact .inr (hexpected ▸ hbuffer.packets first hmem)
  | stored => exact .inl rfl

theorem Arrives.overflowed_eq : buffer'.overflowed = buffer.overflowed := by
  cases h <;> rfl

end

/-- The packets fit the reach. -/
theorem Ordered.length_le (h : buffer.Ordered) : buffer.packets.length ≤ 4097 := by
  have hwindow := UInt32.le_iff_toNat_le.mp buffer.valid.window_le
  have hreach : buffer.reach ≤ 4096 := max_le hwindow (by decide)
  refine (SortedBy.length_le fun p hp => ⟨h.expected_le p hp, ?_⟩ :
    buffer.packets.length ≤ buffer.reach + 1).trans (Nat.add_le_add_right hreach 1)
  exact Nat.lt_succ_of_le (h.le_reach p hp)

/-- An arrival counts the packets that a promotion drops, and at most five more. -/
theorem Arrives.counted (h : buffer.Arrives datagram result buffer') (hbuffer : buffer.Ordered) :
    buffer'.statistics.total ≤ buffer.statistics.total + 4102 := by
  cases h with
  | rejected kind =>
    have := buffer.statistics.total_countRejection kind
    exact this.trans_le (by omega)
  | retained =>
    have := buffer.statistics.total_countRejection .reorderWindowExceeded
    exact this.trans_le (by omega)
  | promoted =>
    have := hbuffer.length_le
    simp only [promote, JitterBufferStatistics.total]
    omega
  | stored =>
    simp only [store, JitterBufferStatistics.total]
    omega

/-! ## Advancing -/

/-- Advancing only removes packets. -/
structure Removes (buffer buffer' : JitterBuffer) : Prop where
  config_eq : buffer'.config = buffer.config
  candidates_eq : buffer'.farFutureCandidates = buffer.farFutureCandidates
  packets : ∀ p ∈ buffer'.packets, p ∈ buffer.packets

namespace Removes

variable {buffer' buffer'' : JitterBuffer}

@[refl] theorem refl (buffer : JitterBuffer) : buffer.Removes buffer := ⟨rfl, rfl, fun _ => id⟩

@[trans] theorem trans (h : buffer.Removes buffer') (h' : buffer'.Removes buffer'') :
    buffer.Removes buffer'' where
  config_eq := h'.config_eq.trans h.config_eq
  candidates_eq := h'.candidates_eq.trans h.candidates_eq
  packets p hp := h.packets p (h'.packets p hp)

theorem window_eq (h : buffer.Removes buffer') : buffer'.window = buffer.window :=
  congrArg (fun config => config.maxReorderWindow.toNat) h.config_eq

theorem holds (h : buffer.Removes buffer') (hbuffer : buffer.Holds P) : buffer'.Holds P where
  packets p hp := hbuffer.packets p (h.packets p hp)
  candidates := h.candidates_eq ▸ hbuffer.candidates

end Removes

theorem advance_expected (h : buffer.expected < u64Max) :
    buffer.advance.expected = buffer.expected + 1 := by
  change (buffer.nextExpectedSequence + 1).toNat = buffer.nextExpectedSequence.toNat + 1
  unfold expected u64Max at h
  rw [UInt64.toNat_add, UInt64.toNat_one]
  exact Nat.mod_eq_of_lt (by omega)

theorem advance_overflowed (h : buffer.expected < u64Max) :
    buffer.advance.overflowed = buffer.overflowed := by
  have hne : buffer.nextExpectedSequence ≠ .ofNat u64Max := by
    intro heq
    rw [expected, heq] at h
    exact absurd h (by decide)
  simp [advance, hne]

/-- A place with a packet is not the last one when a later packet is buffered. -/
theorem expected_lt_of_mem {p : AudioDatagram} (hle : buffer.expected ≤ p.position)
    (hne : p.position ≠ buffer.expected) : buffer.expected < u64Max := by
  have := p.position_lt
  unfold u64Max
  omega

/-- Past the expected place, without a packet there. -/
theorem Ordered.advance {m : PacketMap} (h : buffer.Ordered)
    (hm : ∀ p ∈ m, p ∈ buffer.packets ∧ p.position ≠ buffer.expected) :
    Ordered { buffer.advance with packets := m } := by
  refine ⟨fun p hp => ?_, fun p hp => ?_, h.spread⟩
  all_goals
    obtain ⟨hmem, hne⟩ := hm p hp
    have hle := h.expected_le p hmem
    have hexpected := advance_expected (expected_lt_of_mem hle hne)
  · change buffer.advance.expected ≤ p.position
    omega
  · change p.position ≤ buffer.advance.expected + buffer.reach
    have hreach := h.le_reach p hmem
    omega

theorem take_removes (buffer : JitterBuffer) : buffer.Removes buffer.take :=
  ⟨rfl, rfl, fun _ hp => (mem_remove.mp hp).1⟩

theorem Ordered.take (h : buffer.Ordered) : buffer.take.Ordered :=
  h.advance fun _ hp => mem_remove.mp hp

theorem popInOrder_removes (buffer : JitterBuffer) : buffer.Removes buffer.popInOrder.2 := by
  unfold popInOrder
  split
  · exact .refl buffer
  · exact ⟨rfl, rfl, buffer.take_removes.packets⟩

theorem Ordered.popInOrder (h : buffer.Ordered) : buffer.popInOrder.2.Ordered := by
  unfold JitterBuffer.popInOrder
  split
  · exact h
  · exact ⟨h.take.expected_le, h.take.le_reach, h.take.spread⟩

theorem discardInOrder_removes (buffer : JitterBuffer) :
    buffer.Removes buffer.discardInOrder.2 := by
  unfold discardInOrder
  split_ifs
  · exact ⟨rfl, rfl, buffer.take_removes.packets⟩
  · exact .refl buffer

theorem Ordered.discardInOrder (h : buffer.Ordered) : buffer.discardInOrder.2.Ordered := by
  unfold JitterBuffer.discardInOrder
  split_ifs
  · exact ⟨h.take.expected_le, h.take.le_reach, h.take.spread⟩
  · exact h

theorem skipExpectedSequence_removes (buffer : JitterBuffer) :
    buffer.Removes buffer.skipExpectedSequence := ⟨rfl, rfl, fun _ => id⟩

/-- The expected packet is not buffered. -/
def Missing (buffer : JitterBuffer) : Prop := buffer.packets.contains buffer.expected = false

instance (buffer : JitterBuffer) : Decidable buffer.Missing :=
  inferInstanceAs (Decidable (_ = false))

theorem Missing.ne (h : buffer.Missing) : ∀ p ∈ buffer.packets, p.position ≠ buffer.expected := by
  intro p hp hposition
  exact Bool.eq_false_iff.mp h (contains_iff.mpr ⟨p, hp, hposition⟩)

theorem missing_of_ne (h : ∀ p ∈ buffer.packets, p.position ≠ buffer.expected) :
    buffer.Missing := by
  refine Bool.eq_false_iff.mpr fun hcontains => ?_
  obtain ⟨p, hp, hposition⟩ := contains_iff.mp hcontains
  exact h p hp hposition

/-- The expected packet is missing when it is not the earliest one. -/
theorem Ordered.missing_of_peek (hordered : buffer.Ordered)
    (h : buffer.peekNextSequence ≠ some buffer.expected) : buffer.Missing := by
  refine missing_of_ne fun p hp hposition => h ?_
  unfold peekNextSequence
  cases hfirst : buffer.packets.first? with
  | none => exact absurd hp (first?_eq_none.mp hfirst p)
  | some first =>
    have hle := key_le_of_first? hfirst hp
    have hge := hordered.expected_le first (mem_of_first? hfirst)
    exact congrArg some (le_antisymm (hle.trans hposition.le) hge)

theorem Ordered.skipExpectedSequence (h : buffer.Ordered) (hmissing : buffer.Missing) :
    buffer.skipExpectedSequence.Ordered := by
  have hadvance := h.advance (m := buffer.packets) fun p hp => ⟨hp, hmissing.ne p hp⟩
  exact ⟨hadvance.expected_le, hadvance.le_reach, hadvance.spread⟩

theorem skipToEarliestBuffered_removes (buffer : JitterBuffer) :
    buffer.Removes buffer.skipToEarliestBuffered.2 := by
  unfold skipToEarliestBuffered
  dsimp only
  split_ifs
  · exact ⟨rfl, rfl, fun _ => id⟩
  · exact .refl buffer

/-- Either nothing is missing, or the earliest buffered packet is expected next. -/
theorem skipToEarliestBuffered_cases (buffer : JitterBuffer) :
    buffer.skipToEarliestBuffered.2 = buffer ∨
      ∃ lowest, buffer.packets.first? = some lowest ∧ buffer.expected < lowest.position ∧
        buffer.skipToEarliestBuffered.2.packets = buffer.packets ∧
        buffer.skipToEarliestBuffered.2.statistics =
          (buffer.countSkipped (lowest.position - buffer.expected)).statistics ∧
        buffer.skipToEarliestBuffered.2.expected = lowest.position := by
  unfold skipToEarliestBuffered missingSequenceCount
  dsimp only
  cases hfirst : buffer.packets.first? with
  | none => exact .inl rfl
  | some lowest =>
    split_ifs with hmissing
    · change lowest.position - buffer.expected > 0 at hmissing
      refine .inr ⟨lowest, rfl, by omega, rfl, rfl, ?_⟩
      have hlt := lowest.position_lt
      change (buffer.nextExpectedSequence + .ofNat (lowest.position - buffer.expected)).toNat = _
      rw [UInt64.toNat_add, UInt64.toNat_ofNat_of_lt' (show _ < 2 ^ 64 by omega)]
      change (buffer.expected + (lowest.position - buffer.expected)) % 2 ^ 64 = lowest.position
      rw [Nat.add_sub_of_le (by omega), Nat.mod_eq_of_lt hlt]
    · exact .inl rfl

theorem Ordered.skipToEarliestBuffered (h : buffer.Ordered) :
    buffer.skipToEarliestBuffered.2.Ordered := by
  have hremoves := buffer.skipToEarliestBuffered_removes
  rcases buffer.skipToEarliestBuffered_cases with hsame | ⟨lowest, hfirst, hlt, -, -, hexpected⟩
  · exact hsame.symm ▸ h
  · refine ⟨fun p hp => ?_, fun p hp => ?_, hremoves.candidates_eq ▸ h.spread⟩
    · rw [hexpected]
      exact key_le_of_first? hfirst (hremoves.packets p hp)
    · have hreach := h.le_reach p (hremoves.packets p hp)
      rw [hexpected, reach, hremoves.window_eq]
      unfold reach at hreach
      omega

theorem drainAll_removes (buffer : JitterBuffer) : buffer.Removes buffer.drainAll.2 :=
  ⟨rfl, rfl, fun _ hp => absurd hp not_mem_empty⟩

theorem Ordered.drainAll (h : buffer.Ordered) : buffer.drainAll.2.Ordered :=
  ⟨fun _ hp => absurd hp not_mem_empty, fun _ hp => absurd hp not_mem_empty,
    h.spread⟩

/-! ## Progress -/

/-- Places are passed in order, each of them counted, and nothing wraps. Places that no packet
reaches are passed at most `n` times, if all packets lie below `B`. -/
structure Advances (B n : ℕ) (buffer buffer' : JitterBuffer) : Prop
    extends Removes buffer buffer' where
  ordered : buffer'.Ordered
  expected_le : buffer.expected ≤ buffer'.expected
  le_bound : buffer'.expected ≤ max buffer.expected B + n
  overflowed_eq : buffer'.overflowed = buffer.overflowed
  counted : buffer'.statistics.total ≤
    buffer.statistics.total + (buffer'.expected - buffer.expected)

variable {B n : ℕ}

theorem Advances.refl (h : buffer.Ordered) : Advances B n buffer buffer :=
  { Removes.refl buffer with
    ordered := h
    expected_le := le_rfl
    le_bound := (le_max_left _ _).trans (Nat.le_add_right _ _)
    overflowed_eq := rfl
    counted := Nat.le_add_right _ _ }

theorem Advances.trans {k : ℕ} {buffer'' : JitterBuffer} (h : Advances B n buffer buffer')
    (h' : Advances B k buffer' buffer'') : Advances B (n + k) buffer buffer'' :=
  { h.toRemoves.trans h'.toRemoves with
    ordered := h'.ordered
    expected_le := h.expected_le.trans h'.expected_le
    le_bound := by
      have := h.le_bound
      have := h'.le_bound
      omega
    overflowed_eq := h'.overflowed_eq.trans h.overflowed_eq
    counted := by
      have := h.counted
      have := h'.counted
      have := h.expected_le
      have := h'.expected_le
      omega }

/-- One place is passed. -/
theorem Ordered.advances {m : PacketMap} {statistics : JitterBufferStatistics}
    (h : buffer.Ordered) (hlt : buffer.expected < u64Max)
    (hle : buffer.expected + 1 ≤ max buffer.expected B + n)
    (hm : ∀ p ∈ m, p ∈ buffer.packets ∧ p.position ≠ buffer.expected)
    (hcount : statistics.total = buffer.statistics.total + 1) :
    Advances B n buffer { buffer.advance with packets := m, statistics } := by
  have hexpected := advance_expected hlt
  refine ⟨⟨rfl, rfl, fun p hp => (hm p hp).1⟩, ?_, ?_, ?_, advance_overflowed hlt, ?_⟩
  · exact ⟨(h.advance hm).expected_le, (h.advance hm).le_reach, (h.advance hm).spread⟩
  · change buffer.expected ≤ buffer.advance.expected
    omega
  · change buffer.advance.expected ≤ _
    omega
  · change statistics.total ≤ _ + (buffer.advance.expected - buffer.expected)
    omega

theorem Ordered.advances_take {statistics : JitterBufferStatistics} (h : buffer.Ordered)
    (hlt : buffer.expected < u64Max) (hle : buffer.expected + 1 ≤ max buffer.expected B + n)
    (hcount : statistics.total = buffer.statistics.total + 1) :
    Advances B n buffer { buffer.take with statistics } :=
  h.advances hlt hle (fun _ hp => mem_remove.mp hp) hcount

theorem Ordered.advances_skipExpectedSequence (h : buffer.Ordered)
    (hlt : buffer.expected < u64Max) (hle : buffer.expected + 1 ≤ max buffer.expected B + n)
    (hmissing : buffer.Missing) : Advances B n buffer buffer.skipExpectedSequence :=
  h.advances (m := buffer.packets) hlt hle (fun p hp => ⟨hp, hmissing.ne p hp⟩)
    (buffer.statistics.total_skipped 1)

theorem Ordered.advances_skipToEarliestBuffered (h : buffer.Ordered)
    (hbelow : ∀ p ∈ buffer.packets, p.position < B) :
    Advances B n buffer buffer.skipToEarliestBuffered.2 := by
  rcases buffer.skipToEarliestBuffered_cases with hsame |
    ⟨lowest, hfirst, hlt, -, hstatistics, hexpected⟩
  · rw [hsame]
    exact .refl h
  · have hlowest := hbelow lowest (mem_of_first? hfirst)
    refine ⟨buffer.skipToEarliestBuffered_removes, h.skipToEarliestBuffered, ?_, ?_, ?_, ?_⟩
    · omega
    · omega
    · unfold JitterBuffer.skipToEarliestBuffered
      dsimp only
      split_ifs <;> rfl
    · rw [hexpected, hstatistics]
      exact (buffer.statistics.total_skipped _).le

/-- The places of drained packets lie between the expected place and the one after them, and
the places between them are counted as skipped. -/
theorem drainGaps_ascends {drained : List AudioDatagram} (hB : B ≤ u64Max)
    (hsorted : drained.Pairwise fun p q => p.position < q.position) (expected skipped : ℕ)
    (hskipped : skipped ≤ expected)
    (hbounds : ∀ p ∈ drained, expected ≤ p.position ∧ p.position < B) :
    Ascends expected (drained.map AudioDatagram.position) (drainGaps expected skipped drained).1 ∧
      (drainGaps expected skipped drained).1 ≤ max expected B ∧
      (drainGaps expected skipped drained).2 + drained.length =
        skipped + ((drainGaps expected skipped drained).1 - expected) := by
  induction drained generalizing expected skipped with
  | nil => exact ⟨.nil le_rfl, le_max_left _ _, by simp [drainGaps]⟩
  | cons p drained ih =>
    obtain ⟨hp, hsorted⟩ := List.pairwise_cons.mp hsorted
    obtain ⟨hexpected, hlt⟩ := hbounds p List.mem_cons_self
    have hnext : saturatingAdd p.position 1 = p.position + 1 := min_eq_left (by omega)
    have hgap : saturatingAdd skipped (p.position - expected) = skipped + (p.position - expected) :=
      min_eq_left (by omega)
    obtain ⟨hascends, hbound, hcount⟩ := ih hsorted (saturatingAdd p.position 1)
      (saturatingAdd skipped (p.position - expected)) (by omega) fun q hq =>
        ⟨hnext ▸ hp q hq, (hbounds q (List.mem_cons_of_mem p hq)).2⟩
    rw [drainGaps, List.map_cons, List.length_cons]
    have hle := hascends.le
    exact ⟨(Ascends.singleton hexpected (by omega)).append hascends, by omega, by omega⟩

theorem saturatingTotal_le (total n : ℕ) : saturatingTotal total n ≤ total + n :=
  Nat.add_le_add_left (min_le_left _ _) _

/-- The place after a drain. -/
theorem Ordered.drainAll_expected (h : buffer.Ordered) (hB : B ≤ u64Max)
    (hbelow : ∀ p ∈ buffer.packets, p.position < B) :
    Ascends buffer.expected (buffer.drainAll.1.map AudioDatagram.position)
        buffer.drainAll.2.expected ∧
      buffer.drainAll.2.expected ≤ max buffer.expected B ∧
      (drainGaps buffer.expected 0 buffer.packets.toList).2 + buffer.packets.toList.length =
        buffer.drainAll.2.expected - buffer.expected := by
  obtain ⟨hascends, hbound, hcount⟩ := drainGaps_ascends hB buffer.packets.sorted
    buffer.expected 0 (Nat.zero_le _) fun p hp => ⟨h.expected_le p hp, hbelow p hp⟩
  have hexpected : buffer.drainAll.2.expected =
      (drainGaps buffer.expected 0 buffer.packets.toList).1 := by
    have hlt : buffer.expected < 2 ^ 64 := buffer.nextExpectedSequence.toNat_lt
    have hmax : u64Max < 2 ^ 64 := by decide
    exact UInt64.toNat_ofNat_of_lt' (show _ < 2 ^ 64 by omega)
  rw [hexpected]
  exact ⟨hascends, hbound, by omega⟩

/-- A drain releases the buffered places in order and advances past them. -/
theorem Ordered.drainAll_ascends (h : buffer.Ordered) (hB : B ≤ u64Max)
    (hbelow : ∀ p ∈ buffer.packets, p.position < B) :
    Ascends buffer.expected (buffer.drainAll.1.map AudioDatagram.position)
        buffer.drainAll.2.expected ∧
      Advances B n buffer buffer.drainAll.2 := by
  obtain ⟨hascends, hbound, hcount⟩ := h.drainAll_expected hB hbelow
  have hle := hascends.le
  refine ⟨hascends, buffer.drainAll_removes, h.drainAll, hle, by omega, rfl, ?_⟩
  have hskipped := saturatingTotal_le buffer.statistics.skipped
    (drainGaps buffer.expected 0 buffer.packets.toList).2
  have hemitted := saturatingTotal_le buffer.statistics.emitted buffer.packets.toList.length
  rw [← hcount]
  simp only [JitterBuffer.drainAll, JitterBufferStatistics.total]
  omega

/-! ## Runs -/

/-- Only a missing packet is skipped. -/
def SkipsMissing (buffer : JitterBuffer) : JitterBufferCall → Prop
  | .skipExpectedSequence => buffer.Missing
  | _ => True

instance (buffer : JitterBuffer) : (call : JitterBufferCall) → Decidable (buffer.SkipsMissing call)
  | .skipExpectedSequence => inferInstanceAs (Decidable buffer.Missing)
  | .accept _ | .popInOrder | .discardInOrder | .skipToEarliestBuffered | .drainAll =>
    isTrue trivial

theorem next_ordered {call : JitterBufferCall} (h : buffer.Ordered)
    (hskips : buffer.SkipsMissing call) : (jitterBuffer.next buffer call).Ordered := by
  cases call with
  | accept datagram => exact (buffer.accept_arrives datagram).ordered h
  | popInOrder => exact h.popInOrder
  | discardInOrder => exact h.discardInOrder
  | skipExpectedSequence => exact h.skipExpectedSequence hskips
  | skipToEarliestBuffered => exact h.skipToEarliestBuffered
  | drainAll => exact h.drainAll

/-- A call is an arrival, or only removes packets. -/
theorem next_removes (buffer : JitterBuffer) (call : JitterBufferCall) :
    (∃ datagram, call = .accept datagram) ∨ buffer.Removes (jitterBuffer.next buffer call) := by
  cases call with
  | accept datagram => exact .inl ⟨datagram, rfl⟩
  | popInOrder => exact .inr buffer.popInOrder_removes
  | discardInOrder => exact .inr buffer.discardInOrder_removes
  | skipExpectedSequence => exact .inr buffer.skipExpectedSequence_removes
  | skipToEarliestBuffered => exact .inr buffer.skipToEarliestBuffered_removes
  | drainAll => exact .inr buffer.drainAll_removes

theorem next_config (buffer : JitterBuffer) (call : JitterBufferCall) :
    (jitterBuffer.next buffer call).config = buffer.config := by
  rcases buffer.next_removes call with ⟨datagram, rfl⟩ | hremoves
  · exact (buffer.accept_arrives datagram).config_eq
  · exact hremoves.config_eq

/-! ## The buffered time -/

/-- No two buffered packets are presented further apart than `limit`. -/
def SpansAtMost (limit : ℕ) (buffer : JitterBuffer) : Prop :=
  ∀ p ∈ buffer.packets, ∀ q ∈ buffer.packets, absDiff p.timeMs q.timeMs ≤ limit

/-- The earliest buffered packet decides for all of them. An arriving packet is compared with it
only, which says nothing about the packets on its other side in time; and promoted candidates are
not compared at all. -/
def EarliestDecides (limit : ℕ) (buffer : JitterBuffer) : JitterBufferCall → Prop
  | .accept datagram =>
    (buffer.accept datagram).1.isOk →
      (datagram.position ≤ buffer.expected + buffer.window →
        ∀ earliest ∈ buffer.packets.first?, ∀ p ∈ buffer.packets.toList,
          (p.timeMs < earliest.timeMs ∧ earliest.timeMs < datagram.timeMs ∨
            datagram.timeMs < earliest.timeMs ∧ earliest.timeMs < p.timeMs) →
          absDiff p.timeMs datagram.timeMs ≤ limit) ∧
      (buffer.expected + buffer.window < datagram.position →
        ∀ p ∈ ((buffer.nearCandidates datagram).insert datagram).toList,
          ∀ q ∈ ((buffer.nearCandidates datagram).insert datagram).toList,
            absDiff p.timeMs q.timeMs ≤ limit)
  | _ => True

instance (limit : ℕ) (buffer : JitterBuffer) :
    (call : JitterBufferCall) → Decidable (buffer.EarliestDecides limit call)
  | .accept _ => inferInstanceAs (Decidable (_ → _ ∧ _))
  | .popInOrder | .discardInOrder | .skipExpectedSequence | .skipToEarliestBuffered | .drainAll =>
    isTrue trivial

variable {limit : ℕ}

theorem Removes.spansAtMost (hremoves : buffer.Removes buffer') (h : buffer.SpansAtMost limit) :
    buffer'.SpansAtMost limit :=
  fun p hp q hq => h p (hremoves.packets p hp) q (hremoves.packets q hq)

/-- A packet that is near the earliest one is near the packets on its own side of it. -/
theorem store_spansAtMost_iff (hlimit : buffer.config.maxBufferedDurationMs.toNat = limit)
    (hnew : ∀ p ∈ buffer.packets, p.position ≠ datagram.position)
    (hduration : buffer.exceedsDuration datagram = false) (h : buffer.SpansAtMost limit) :
    (buffer.store datagram).SpansAtMost limit ↔
      ∀ earliest ∈ buffer.packets.first?, ∀ p ∈ buffer.packets,
        (p.timeMs < earliest.timeMs ∧ earliest.timeMs < datagram.timeMs ∨
          datagram.timeMs < earliest.timeMs ∧ earliest.timeMs < p.timeMs) →
        absDiff p.timeMs datagram.timeMs ≤ limit := by
  constructor
  · intro hspans earliest _ p hp _
    exact hspans p (mem_insert.mpr (.inr ⟨hp, hnew p hp⟩)) datagram (mem_insert.mpr (.inl rfl))
  · intro hdecides
    have hnear : ∀ p ∈ buffer.packets, absDiff p.timeMs datagram.timeMs ≤ limit := by
      intro p hp
      cases hfirst : buffer.packets.first? with
      | none => exact absurd hp (first?_eq_none.mp hfirst p)
      | some earliest =>
        have hother := hdecides earliest hfirst p hp
        have hside := h p hp earliest (mem_of_first? hfirst)
        simp only [exceedsDuration, hfirst, Option.any_some, decide_eq_false_iff_not, hlimit]
          at hduration
        unfold absDiff at hother hside hduration ⊢
        omega
    intro p hp q hq
    rcases mem_insert.mp hp with hpnew | ⟨hpold, -⟩ <;>
      rcases mem_insert.mp hq with hqnew | ⟨hqold, -⟩
    · simp [hpnew, hqnew, absDiff]
    · rw [hpnew, absDiff, max_comm, min_comm]
      exact hnear q hqold
    · rw [hqnew]
      exact hnear p hpold
    · exact h p hpold q hqold

/-- A call keeps the buffered time within the limit exactly if the earliest packet decides. -/
theorem next_spansAtMost_iff {call : JitterBufferCall}
    (hlimit : buffer.config.maxBufferedDurationMs.toNat = limit) (h : buffer.SpansAtMost limit) :
    (jitterBuffer.next buffer call).SpansAtMost limit ↔ buffer.EarliestDecides limit call := by
  cases call with
  | accept datagram =>
    have harrives := buffer.accept_arrives datagram
    change (buffer.accept datagram).2.SpansAtMost limit ↔ ((buffer.accept datagram).1.isOk → _)
    generalize (buffer.accept datagram).1 = result, (buffer.accept datagram).2 = buffer'
      at harrives
    cases harrives with
    | rejected | retained => exact iff_of_true h (by simp [Except.isOk, Except.toBool])
    | promoted hstream hfar =>
      simp [Except.isOk, Except.toBool, hfar, hfar.not_ge, SpansAtMost, promote]
    | stored hstream hexpected hwithin hnew hduration =>
      simpa [Except.isOk, Except.toBool, hwithin, hwithin.not_gt] using
        store_spansAtMost_iff hlimit hnew hduration h
  | popInOrder => exact iff_of_true (buffer.popInOrder_removes.spansAtMost h) trivial
  | discardInOrder => exact iff_of_true (buffer.discardInOrder_removes.spansAtMost h) trivial
  | skipExpectedSequence =>
    exact iff_of_true (buffer.skipExpectedSequence_removes.spansAtMost h) trivial
  | skipToEarliestBuffered =>
    exact iff_of_true (buffer.skipToEarliestBuffered_removes.spansAtMost h) trivial
  | drainAll => exact iff_of_true (buffer.drainAll_removes.spansAtMost h) trivial

end JitterBuffer

open JitterBuffer in
/-- **Buffered audio is bounded in time.** No two buffered packets are ever presented further
apart than the longest buffered time exactly if the earliest packet decides for all of them at
every arrival. -/
theorem buffered_audio_is_bounded {config : JitterBufferConfig} {buffer : JitterBuffer}
    (hnew : JitterBuffer.new config = .ok buffer) (calls : List JitterBufferCall) :
    jitterBuffer.Along (fun buffer call =>
        (jitterBuffer.next buffer call).SpansAtMost config.maxBufferedDurationMs.toNat)
        buffer calls ↔
      jitterBuffer.Along (EarliestDecides config.maxBufferedDurationMs.toNat) buffer calls := by
  obtain ⟨rfl, hpackets, -⟩ := new_eq_ok hnew
  refine Machine.along_congr (I := fun b => b.config = buffer.config ∧
    b.SpansAtMost buffer.config.maxBufferedDurationMs.toNat) ?_ ?_
      ⟨rfl, by simp [SpansAtMost, hpackets]⟩
  · rintro b call ⟨hconfig, hspans⟩
    exact next_spansAtMost_iff (by rw [hconfig]) hspans
  · rintro b call ⟨hconfig, hspans⟩ hdecides
    exact ⟨(b.next_config call).trans hconfig,
      (next_spansAtMost_iff (by rw [hconfig]) hspans).mpr hdecides⟩

namespace JitterScenario

def config : JitterBufferConfig where
  sessionId := ⟨"session-1", by decide⟩
  streamId := ⟨"stream-1", by decide⟩
  maxBufferedDurationMs := 1000

/-- A packet of one silent stereo sample. -/
def packet (sequence timeMs : UInt64) : AudioDatagram where
  sessionId := config.sessionId
  streamId := config.streamId
  sequence := ⟨sequence⟩
  codec := .pcmS16Le
  sampleRate := 48000
  channels := 2
  samplesPerPacket := 1
  firstSampleIndex := ⟨sequence⟩
  hostPresentationTimeMs := ⟨timeMs⟩
  payload := [0, 0, 0, 0]

def buffer : JitterBuffer := (JitterBuffer.new config).toOption.get (by decide +kernel)

theorem new_buffer : JitterBuffer.new config = .ok buffer :=
  Result.eq_ok_get (r := JitterBuffer.new config) (by decide +kernel)

/-- Two packets arrive in the wrong order and the first one is missing; later three candidates
are promoted. -/
def paced : List JitterBufferCall :=
  [.accept (packet 1 20), .accept (packet 3 60), .accept (packet 2 40), .skipExpectedSequence,
    .popInOrder, .accept (packet 100 3000), .accept (packet 101 3020), .accept (packet 102 3040)]

/-- Each packet is near the first one, but the last two are not near each other. -/
def unpaced : List JitterBufferCall :=
  [.accept (packet 1 1000), .accept (packet 2 0), .accept (packet 3 2000)]

end JitterScenario

open JitterScenario in
theorem buffered_audio_is_bounded_paced :
    jitterBuffer.Along (JitterBuffer.EarliestDecides 1000) buffer paced ∧
      jitterBuffer.Along (fun buffer call => (jitterBuffer.next buffer call).SpansAtMost 1000)
        buffer paced :=
  have hdecides : jitterBuffer.Along (JitterBuffer.EarliestDecides 1000) buffer paced := by
    decide +kernel
  ⟨hdecides, (buffered_audio_is_bounded new_buffer paced).mpr hdecides⟩

open JitterScenario in
/-- A packet is only compared with the first buffered one. -/
theorem not_buffered_audio_is_bounded :
    ¬∀ (config : JitterBufferConfig) (buffer : JitterBuffer) (calls : List JitterBufferCall),
      JitterBuffer.new config = .ok buffer →
        ∀ p ∈ (jitterBuffer.after buffer calls).packets,
          ∀ q ∈ (jitterBuffer.after buffer calls).packets,
            absDiff p.timeMs q.timeMs ≤ config.maxBufferedDurationMs.toNat := by
  intro h
  have hbuffered : ∀ d ∈ [packet 2 0, packet 3 2000],
      d ∈ (jitterBuffer.after buffer unpaced).packets.toList := by
    decide +kernel
  obtain ⟨hp, hq, -⟩ := List.forall_mem_cons.mp hbuffered |>.imp_right List.forall_mem_cons.mp
  exact absurd (h _ _ unpaced new_buffer _ hp _ hq)
    (by decide +kernel)

end SilentDisco
