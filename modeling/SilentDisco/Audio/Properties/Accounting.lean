import SilentDisco.Audio.Properties.JitterBuffer

/-!
# Accounts of the jitter buffer

Every arrival is counted, every buffered packet leaves in a counted way, and the expected place
has passed as many places as the counters say.

## Main definitions

* `JitterLedger`: the arrivals and the removed packets of a run
* `JitterBuffer.AccountsFor`: the counters agree with the ledger

## Main results

* `packets_are_accounted`: when they do
-/

namespace SilentDisco

open Protocol JitterBufferStatistics

/-- The packets rejected for any reason. -/
def JitterBufferStatistics.rejections (statistics : JitterBufferStatistics) : ℕ :=
  statistics.wrongSessionRejections + statistics.wrongStreamRejections +
    statistics.duplicateRejections + statistics.lateRejections +
    statistics.reorderWindowRejections + statistics.bufferedDurationRejections

/-- The arrivals of a run, and the packets that left the buffer. -/
structure JitterLedger where
  arrivals : ℕ := 0
  removed : ℕ := 0

namespace JitterBuffer

/-- The packets that leave the buffer: popped, discarded, drained, or replaced in a promotion. -/
def removed (buffer : JitterBuffer) (call : JitterBufferCall) : ℕ :=
  match jitterBuffer.out buffer call with
  | .arrival _ =>
    if (jitterBuffer.next buffer call).statistics.resynchronisations =
      buffer.statistics.resynchronisations then 0 else buffer.len
  | .packet datagram => datagram.toList.length
  | .discarded found => found.toNat
  | .advanced => 0
  | .skipped _ => 0
  | .drained datagrams => datagrams.length

/-- One more call. -/
def observe (ledger : JitterLedger) (buffer : JitterBuffer) (call : JitterBufferCall) :
    JitterLedger where
  arrivals := ledger.arrivals + (call matches .accept _).toNat
  removed := ledger.removed + buffer.removed call

/-- The counters agree with the ledger. -/
structure AccountsFor (first : ℕ) (buffer : JitterBuffer) (ledger : JitterLedger) : Prop where
  arrivals : ledger.arrivals + 3 * buffer.statistics.resynchronisations =
    buffer.statistics.accepted + buffer.statistics.rejections
  packets : buffer.statistics.accepted = ledger.removed + buffer.len
  places : buffer.statistics.resynchronisations = 0 →
    buffer.expected = first + buffer.statistics.emitted + buffer.statistics.skipped

/-- Only a missing packet is skipped, and no place is the last one. -/
def Countable (buffer : JitterBuffer) (call : JitterBufferCall) : Prop :=
  buffer.SkipsMissing call ∧ buffer.expected < u64Max ∧
    ∀ p ∈ buffer.packets.toList, p.position < u64Max

instance (buffer : JitterBuffer) (call : JitterBufferCall) : Decidable (buffer.Countable call) :=
  inferInstanceAs (Decidable (_ ∧ _ ∧ _))

/-! ## One call -/

variable {first : ℕ} {buffer buffer' : JitterBuffer} {ledger : JitterLedger}

theorem countRejection_eq (statistics : JitterBufferStatistics) (kind : JitterBufferRejectionKind) :
    (statistics.countRejection kind).rejections = statistics.rejections + 1 ∧
      (statistics.countRejection kind).accepted = statistics.accepted ∧
      (statistics.countRejection kind).emitted = statistics.emitted ∧
      (statistics.countRejection kind).skipped = statistics.skipped ∧
      (statistics.countRejection kind).resynchronisations = statistics.resynchronisations := by
  cases kind <;> simp only [countRejection, rejections, and_true] <;> omega

theorem length_nearCandidates_le (buffer : JitterBuffer) (datagram : AudioDatagram) :
    (buffer.nearCandidates datagram).length ≤ buffer.farFutureCandidates.length := by
  unfold nearCandidates
  split_ifs
  · exact Nat.zero_le _
  · exact le_rfl

/-- A rejected packet is counted once. -/
theorem AccountsFor.rejected (h : buffer.AccountsFor first ledger)
    (kind : JitterBufferRejectionKind) (candidates : PacketMap) :
    AccountsFor first
      { buffer with
        statistics := buffer.statistics.countRejection kind, farFutureCandidates := candidates }
      ⟨ledger.arrivals + 1, ledger.removed +
        if (buffer.statistics.countRejection kind).resynchronisations =
          buffer.statistics.resynchronisations then 0 else buffer.len⟩ := by
  obtain ⟨hrejections, haccepted, hemitted, hskipped, hresync⟩ :=
    countRejection_eq buffer.statistics kind
  rw [if_pos hresync]
  constructor
  · have := h.arrivals
    simp only [hrejections, haccepted, hresync]
    omega
  · exact haccepted.trans h.packets
  · simp only [hresync, hemitted, hskipped]
    exact h.places

/-- An arrival is counted once, and the packets that a promotion replaces leave. -/
theorem Arrives.accountsFor {datagram : AudioDatagram} {result : Except JitterBufferRejection Unit}
    (h : buffer.Arrives datagram result buffer') (hbuffer : buffer.AccountsFor first ledger)
    (hfew : buffer.farFutureCandidates.length < 3) :
    buffer'.AccountsFor first ⟨ledger.arrivals + 1, ledger.removed +
        if buffer'.statistics.resynchronisations = buffer.statistics.resynchronisations then 0
        else buffer.len⟩ ∧
      buffer'.farFutureCandidates.length < 3 := by
  cases h with
  | rejected kind => exact ⟨hbuffer.rejected kind _, hfew⟩
  | retained _ _ _ _ hfew => exact ⟨hbuffer.rejected _ _, hfew⟩
  | promoted _ _ hnew =>
    obtain ⟨harrivals, hpackets, -⟩ := hbuffer
    have hlength := SortedBy.length_insert hnew
    have hnear := buffer.length_nearCandidates_le datagram
    rw [if_neg (show (buffer.promote _ _).statistics.resynchronisations ≠ _ from
      Nat.succ_ne_self _)]
    refine ⟨⟨?_, ?_, fun hnone => absurd hnone (Nat.succ_ne_zero _)⟩, Nat.zero_lt_succ 2⟩
    · simp only [promote, rejections] at harrivals ⊢
      omega
    · simp only [promote, len] at hpackets ⊢
      omega
  | stored _ _ _ hnew =>
    obtain ⟨harrivals, hpackets, hplaces⟩ := hbuffer
    refine ⟨⟨?_, ?_, hplaces⟩, Nat.zero_lt_succ 2⟩
    · simp only [store, rejections] at harrivals ⊢
      omega
    · simp only [store, len, SortedBy.length_insert hnew, if_true] at hpackets ⊢
      omega

/-- The expected packet leaves, and its place is passed and counted. -/
theorem AccountsFor.take {datagram : AudioDatagram} {emitted skipped : ℕ}
    (h : buffer.AccountsFor first ledger) (hdatagram : datagram ∈ buffer.packets)
    (hposition : datagram.position = buffer.expected) (hlt : buffer.expected < u64Max)
    (hcount : emitted + skipped = buffer.statistics.emitted + buffer.statistics.skipped + 1) :
    AccountsFor first { buffer.take with statistics := { buffer.statistics with emitted, skipped } }
      { ledger with removed := ledger.removed + 1 } := by
  have hexpected := advance_expected hlt
  have hlength := SortedBy.length_remove hdatagram
  rw [hposition] at hlength
  refine ⟨h.arrivals, ?_, fun hnone => ?_⟩
  · have := h.packets
    simp only [len, JitterBuffer.take] at this ⊢
    omega
  · have := h.places hnone
    change buffer.advance.expected = first + emitted + skipped
    omega

theorem saturatingTotal_eq {total n : ℕ} (h : total + n ≤ u64Max) :
    saturatingTotal total n = total + n := by
  have := Nat.mod_le total (2 ^ 64)
  unfold saturatingTotal
  omega

/-- A call that is no arrival. -/
theorem AccountsFor.next {call : JitterBufferCall} (h : buffer.AccountsFor first ledger)
    (hordered : buffer.Ordered) (hcall : buffer.Countable call)
    (hno : ∀ datagram, call ≠ .accept datagram) :
    (jitterBuffer.next buffer call).AccountsFor first (observe ledger buffer call) := by
  obtain ⟨hskips, hlt, hbelow⟩ := hcall
  cases call with
  | accept datagram => exact absurd rfl (hno datagram)
  | popInOrder =>
    unfold observe removed
    change AccountsFor first buffer.popInOrder.2 ⟨_, _ + buffer.popInOrder.1.toList.length⟩
    unfold popInOrder
    cases hfind : buffer.packets.find? buffer.expected with
    | none => exact h
    | some datagram =>
      obtain ⟨hmem, hposition⟩ := SortedBy.find?_eq_some.mp hfind
      exact h.take hmem hposition hlt (Nat.add_right_comm _ 1 _)
  | discardInOrder =>
    unfold observe removed
    change AccountsFor first buffer.discardInOrder.2 ⟨_, _ + buffer.discardInOrder.1.toNat⟩
    unfold discardInOrder
    split_ifs with hcontains
    · obtain ⟨datagram, hmem, hposition⟩ := SortedBy.contains_iff.mp hcontains
      exact h.take hmem hposition hlt rfl
    · exact h
  | skipExpectedSequence =>
    have hexpected := advance_expected hlt
    refine ⟨h.arrivals, h.packets, fun hnone => ?_⟩
    have := h.places hnone
    change buffer.advance.expected =
      first + buffer.statistics.emitted + (buffer.statistics.skipped + 1)
    omega
  | skipToEarliestBuffered =>
    change AccountsFor first buffer.skipToEarliestBuffered.2 ledger
    rcases buffer.skipToEarliestBuffered_cases with
      hsame | ⟨lowest, -, hlowest, hpackets, hstatistics, hexpected⟩
    · rw [hsame]
      exact h
    · refine ⟨?_, ?_, fun hnone => ?_⟩
      · rw [hstatistics]
        exact h.arrivals
      · rw [hstatistics, len, hpackets]
        exact h.packets
      · rw [hstatistics] at hnone ⊢
        have := h.places hnone
        rw [hexpected]
        simp only [countSkipped]
        omega
  | drainAll =>
    obtain ⟨hascends, hbound, hcount⟩ := hordered.drainAll_expected le_rfl hbelow
    have hle := hascends.le
    refine ⟨h.arrivals, h.packets, fun hnone => ?_⟩
    have hplaces := h.places hnone
    -- All that was counted fits below the expected place, so that no sum saturates.
    change buffer.drainAll.2.expected = first +
      saturatingTotal buffer.statistics.emitted buffer.packets.toList.length +
      saturatingTotal buffer.statistics.skipped
        (drainGaps buffer.expected 0 buffer.packets.toList).2
    rw [saturatingTotal_eq (by omega), saturatingTotal_eq (by omega)]
    omega

/-- Every call keeps the accounts. -/
theorem accountsFor_next {call : JitterBufferCall} (hcall : buffer.Countable call)
    (h : buffer.AccountsFor first ledger ∧ buffer.Ordered ∧ buffer.farFutureCandidates.length < 3) :
    (jitterBuffer.next buffer call).AccountsFor first (observe ledger buffer call) ∧
      (jitterBuffer.next buffer call).Ordered ∧
      (jitterBuffer.next buffer call).farFutureCandidates.length < 3 := by
  obtain ⟨haccounts, hordered, hfew⟩ := h
  have hnext := next_ordered hordered hcall.1
  by_cases harrival : ∃ datagram, call = .accept datagram
  · obtain ⟨datagram, rfl⟩ := harrival
    obtain ⟨haccounts, hfew⟩ := (buffer.accept_arrives datagram).accountsFor haccounts hfew
    exact ⟨haccounts, hnext, hfew⟩
  · have hremoves := (buffer.next_removes call).resolve_left harrival
    refine ⟨haccounts.next hordered hcall (not_exists.mp harrival), hnext, ?_⟩
    rw [hremoves.candidates_eq]
    exact hfew

/-- A rejected packet changes neither the buffered ones nor the expected place. -/
theorem Arrives.of_error {datagram : AudioDatagram} {error : JitterBufferRejection}
    (h : buffer.Arrives datagram (.error error) buffer') :
    buffer'.packets = buffer.packets ∧ buffer'.expected = buffer.expected := by
  cases h <;> exact ⟨rfl, rfl⟩

end JitterBuffer

open JitterBuffer in
/-- **Packets are accounted for.** If only missing packets are skipped, and the places stay below
the last one, then the counters agree with what happened to the packets; a rejected packet changes
neither the buffered ones nor the expected place. -/
theorem packets_are_accounted {config : JitterBufferConfig} {buffer : JitterBuffer}
    (hnew : JitterBuffer.new config = .ok buffer) {calls : List JitterBufferCall}
    (hcalls : jitterBuffer.Along Countable buffer calls) :
    (jitterBuffer.after buffer calls).AccountsFor config.firstSequence.toNat
        (jitterBuffer.record observe {} buffer calls) ∧
      ∀ datagram error, ((jitterBuffer.after buffer calls).accept datagram).1 = .error error →
        ((jitterBuffer.after buffer calls).accept datagram).2.packets =
            (jitterBuffer.after buffer calls).packets ∧
          ((jitterBuffer.after buffer calls).accept datagram).2.expected =
            (jitterBuffer.after buffer calls).expected := by
  constructor
  · obtain ⟨-, hpackets, hfirst, hstatistics, hcandidates, -⟩ := new_eq_ok hnew
    refine (hcalls.invariant_record (I := fun buffer ledger =>
      buffer.AccountsFor config.firstSequence.toNat ledger ∧ buffer.Ordered ∧
        buffer.farFutureCandidates.length < 3)
      (fun buffer ledger call h hcall => accountsFor_next hcall h) ⟨?_, new_ordered hnew, ?_⟩).1
    · refine ⟨?_, ?_, fun _ => ?_⟩
      · rw [hstatistics]
        rfl
      · rw [hstatistics, len, hpackets]
        rfl
      · rw [hstatistics, expected, hfirst]
        rfl
    · rw [hcandidates]
      exact Nat.zero_lt_succ 2
  · intro datagram error herror
    exact Arrives.of_error (herror ▸ (jitterBuffer.after buffer calls).accept_arrives datagram)

open JitterScenario in
theorem packets_are_accounted_paced :
    jitterBuffer.Along JitterBuffer.Countable buffer paced ∧
      (jitterBuffer.after buffer paced).AccountsFor 0
        (jitterBuffer.record JitterBuffer.observe {} buffer paced) :=
  have hcalls : jitterBuffer.Along JitterBuffer.Countable buffer paced := by decide +kernel
  ⟨hcalls, (packets_are_accounted new_buffer hcalls).1⟩

/-- The buffered packet of a skipped place is drained, and the expected place moves back. -/
theorem not_packets_are_accounted :
    ¬∀ (config : JitterBufferConfig) (buffer : JitterBuffer) (calls : List JitterBufferCall),
      JitterBuffer.new config = .ok buffer →
        (jitterBuffer.after buffer calls).AccountsFor config.firstSequence.toNat
          (jitterBuffer.record JitterBuffer.observe {} buffer calls) := by
  intro h
  have haccounts := h _ _ [.accept (JitterScenario.packet 0 0), .skipExpectedSequence,
    .skipExpectedSequence, .drainAll] JitterScenario.new_buffer
  exact absurd (haccounts.places (by decide +kernel)) (by decide +kernel)

end SilentDisco
