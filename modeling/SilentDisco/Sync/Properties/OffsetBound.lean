import Mathlib.Tactic.Linarith
import Mathlib.Tactic.Positivity
import Mathlib.Tactic.Ring
import SilentDisco.Sync.Estimator

/-!
# The error of the clock offset

If the clocks differ by a constant, the error of a sample is at most half of its round trip: the
two delays of the network enter the offset with opposite signs. The average of samples keeps this
bound, whichever of them are selected, and so does the estimate.

## Main definitions

* `SyncExchange.Truthful`: an exchange between clocks that differ by a constant
* `SyncSample.Within`: the error of a sample is at most half of its round trip

## Main results

* `within_of_truthful`: the bound of one exchange
* `clock_offset_error_bound`: the bound of the estimate, in every run
-/

namespace SilentDisco.Sync

/-! ## Averages -/

section Average

variable {α : Type} {values : List α} {f g : α → ℚ}

theorem average_le_average (h : ∀ x ∈ values, f x ≤ g x) : average values f ≤ average values g :=
  div_le_div_of_nonneg_right (List.sum_le_sum h) (Nat.cast_nonneg _)

theorem average_sub_const (hne : values ≠ []) (c : ℚ) :
    average values (fun x => f x - c) = average values f - c := by
  have hlength : (values.length : ℚ) ≠ 0 :=
    Nat.cast_ne_zero.mpr (mt List.length_eq_zero_iff.mp hne)
  have hsum : (values.map fun x => f x - c).sum = (values.map f).sum - values.length * c := by
    clear hne hlength
    induction values with
    | nil => simp
    | cons x values ih =>
      rw [List.map_cons, List.sum_cons, ih, List.map_cons, List.sum_cons, List.length_cons]
      push_cast
      ring
  unfold average
  rw [hsum, sub_div, mul_div_cancel_left₀ c hlength]

theorem average_div (c : ℚ) : average values (fun x => f x / c) = average values f / c := by
  have hsum : (values.map fun x => f x / c).sum = (values.map f).sum / c := by
    induction values with
    | nil => simp
    | cons x values ih =>
      rw [List.map_cons, List.sum_cons, ih, List.map_cons, List.sum_cons, add_div]
  unfold average
  rw [hsum, div_right_comm]

theorem abs_average_le : |average values f| ≤ average values fun x => |f x| := by
  unfold average
  rw [abs_div, Nat.abs_cast]
  refine div_le_div_of_nonneg_right ?_ (Nat.cast_nonneg _)
  induction values with
  | nil => simp
  | cons x values ih =>
    rw [List.map_cons, List.sum_cons, List.map_cons, List.sum_cons]
    exact (abs_add_le _ _).trans (add_le_add_right ih _)

/-- An average keeps a bound on the distance to a constant. -/
theorem abs_average_sub_le (hne : values ≠ []) {c : ℚ} (h : ∀ x ∈ values, |f x - c| ≤ g x) :
    |average values f - c| ≤ average values g := by
  rw [← average_sub_const hne]
  exact abs_average_le.trans (average_le_average h)

end Average

/-! ## Exchanges -/

/-- The host's clock is ahead by `offsetMs`, and the exchange has delays in both directions and
some time on the host. -/
def SyncExchange.Truthful (offsetMs : ℚ) (e : SyncExchange) : Prop :=
  ∃ forwardMs processingMs returnMs : ℚ, 0 ≤ forwardMs ∧ 0 ≤ processingMs ∧ 0 ≤ returnMs ∧
    (e.t2HostReceive.get.toNat : ℚ) = e.t1LocalSend.get.toNat + offsetMs + forwardMs ∧
    (e.t3HostSend.get.toNat : ℚ) = e.t2HostReceive.get.toNat + processingMs ∧
    (e.t4LocalReceive.get.toNat : ℚ) = e.t3HostSend.get.toNat - offsetMs + returnMs

/-- The error of the sample is at most half of its round trip. -/
def SyncSample.Within (offsetMs : ℚ) (sample : SyncSample) : Prop :=
  |sample.offsetMs - offsetMs| ≤ sample.roundTripTimeMs / 2

theorem checkedElapsed_eq_some {later earlier : UInt64} {elapsed : ℕ}
    (h : checkedElapsed later earlier = some elapsed) :
    (elapsed : ℚ) = later.toNat - earlier.toNat := by
  unfold checkedElapsed at h
  split_ifs at h with hle
  obtain rfl := Option.some.inj h
  exact Nat.cast_sub (UInt64.le_iff_toNat_le.mp hle)

/-- The fields of a sample. -/
theorem fromExchange_eq_ok {e : SyncExchange} {sample : SyncSample}
    (h : SyncSample.fromExchange e = .ok sample) :
    sample.roundTripTimeMs = (e.t4LocalReceive.get.toNat - e.t1LocalSend.get.toNat : ℚ) -
        (e.t3HostSend.get.toNat - e.t2HostReceive.get.toNat) ∧
      sample.offsetMs = ((e.t2HostReceive.get.toNat - e.t1LocalSend.get.toNat : ℚ) +
        (e.t3HostSend.get.toNat - e.t4LocalReceive.get.toNat)) / 2 := by
  unfold SyncSample.fromExchange at h
  cases hround : checkedElapsed e.t4LocalReceive.get e.t1LocalSend.get with
  | none =>
    rw [hround] at h
    cases h
  | some =>
    cases hhost : checkedElapsed e.t3HostSend.get e.t2HostReceive.get with
    | none =>
      rw [hround, hhost] at h
      cases h
    | some =>
      rw [hround, hhost] at h
      dsimp only at h
      split_ifs at h with hexceeds
      obtain rfl := Except.ok.inj h
      refine ⟨?_, ?_⟩
      · rw [← checkedElapsed_eq_some hround, ← checkedElapsed_eq_some hhost]
        exact Nat.cast_sub (Nat.not_lt.mp hexceeds)
      · unfold SyncExchange.offsetTwice
        push_cast
        rfl

/-- The bound of one exchange. -/
theorem within_of_truthful {offsetMs : ℚ} {e : SyncExchange} {sample : SyncSample}
    (htruthful : e.Truthful offsetMs) (h : SyncSample.fromExchange e = .ok sample) :
    sample.Within offsetMs := by
  obtain ⟨forwardMs, processingMs, returnMs, hforward, -, hreturn, ht2, ht3, ht4⟩ := htruthful
  obtain ⟨hround, hoffset⟩ := fromExchange_eq_ok h
  have hround' : sample.roundTripTimeMs = forwardMs + returnMs := by
    rw [hround]
    linarith
  have hoffset' : sample.offsetMs - offsetMs = (forwardMs - returnMs) / 2 := by
    rw [hoffset]
    linarith
  unfold SyncSample.Within
  rw [hround', hoffset', abs_le]
  constructor
  · linarith
  · linarith

/-! ## The estimate -/

theorem mem_of_mem_selectSamples {samples : List SyncSample} {sample : SyncSample}
    (h : sample ∈ selectSamples samples) : sample ∈ samples :=
  (List.mem_insertionSort _).mp (List.mem_of_mem_take h)

theorem selectSamples_ne_nil {samples : List SyncSample} (h : samples ≠ []) :
    selectSamples samples ≠ [] := by
  have hlength := List.length_pos_iff.mpr h
  refine List.ne_nil_of_length_pos ?_
  unfold selectSamples
  rw [List.length_take, List.length_insertionSort]
  exact lt_min (lt_max_of_lt_right Nat.one_pos) hlength

namespace ClockSyncEstimator

variable {s : ClockSyncEstimator}

/-- The estimate keeps the bound of the samples. -/
theorem snapshot_within {offsetMs : ℚ} (hne : s.acceptedSamples ≠ [])
    (h : ∀ sample ∈ s.acceptedSamples, sample.Within offsetMs) :
    |s.snapshot.offsetMs - offsetMs| ≤ s.snapshot.roundTripTimeMs / 2 := by
  unfold snapshot
  rw [if_neg hne]
  dsimp only
  rw [← average_div]
  exact abs_average_sub_le (selectSamples_ne_nil hne) fun sample hsample =>
    h sample (mem_of_mem_selectSamples hsample)

theorem acceptedSampleCount_snapshot :
    s.snapshot.acceptedSampleCount = s.acceptedSamples.length := by
  unfold snapshot
  split_ifs with hnil
  · rw [hnil]
    rfl
  · rfl

theorem mem_of_mem_pushBounded {α : Type} {capacity : ℕ} {history : List α} {value x : α}
    (h : x ∈ pushBounded capacity history value) : x ∈ history ∨ x = value := by
  unfold pushBounded at h
  obtain h | h := List.mem_append.mp h
  · split_ifs at h
    · exact .inl (List.mem_of_mem_tail h)
    · exact .inl h
  · exact .inr (List.mem_singleton.mp h)

/-- A sample of the window was there before, or it is the one that was just accepted. -/
theorem mem_acceptedSamples_observeSample {sample other : SyncSample} {now : LocalMonotonicMillis}
    (h : other ∈ (s.observeSample sample now).1.acceptedSamples) :
    other ∈ s.acceptedSamples ∨
      other = sample ∧ (s.observeSample sample now).2.accepted = true := by
  unfold observeSample at h ⊢
  dsimp only at h ⊢
  split_ifs at h with haccepted
  · exact (mem_of_mem_pushBounded h).imp_right fun heq => ⟨heq, haccepted⟩
  · unfold passOver at h
    split_ifs at h
    · exact .inl h
    · exact .inl h

theorem acceptedSamples_beginProbe (correlationId : SyncCorrelationId)
    (localSendTime : LocalMonotonicMillis) :
    (s.beginProbe correlationId localSendTime).1.acceptedSamples = s.acceptedSamples := by
  unfold beginProbe
  dsimp only
  split_ifs
  · rfl
  · rfl
  · rfl
  · rfl

/-- An accepted sample was accepted before, or it is the one of an exchange that is accepted now. -/
theorem mem_acceptedSamples_next {call : SyncCall} {sample : SyncSample}
    (h : sample ∈ (estimator.next s call).acceptedSamples) :
    sample ∈ s.acceptedSamples ∨ ∃ e observation, call = .observeResponse e ∧
      estimator.out s call = .observed (.ok observation) ∧ observation.accepted = true ∧
        SyncSample.fromExchange e = .ok sample := by
  cases call with
  | beginProbe correlationId localSendTime =>
    left
    rw [← acceptedSamples_beginProbe correlationId localSendTime]
    exact h
  | observeResponse e =>
    change sample ∈ (s.observeResponse _ _ _ _ _).1.acceptedSamples at h
    change _ ∨ ∃ e' observation, _ ∧ SyncReply.observed (s.observeResponse _ _ _ _ _).2 = _ ∧ _
    unfold observeResponse at h ⊢
    cases hprobe : s.pending.find? e.correlationId.get.toNat with
    | none =>
      rw [hprobe] at h
      exact .inl h
    | some probe =>
      rw [hprobe] at h
      dsimp only at h ⊢
      split_ifs at h ⊢ with hmismatch
      · exact .inl h
      · obtain hsent : probe.sentAt = e.t1LocalSend := not_not.mp hmismatch
        rw [hsent] at h ⊢
        cases hsample : SyncSample.fromExchange ⟨e.correlationId, e.t1LocalSend, e.t2HostReceive,
            e.t3HostSend, e.t4LocalReceive⟩ with
        | error error =>
          rw [hsample] at h
          exact .inl h
        | ok taken =>
          rw [hsample] at h
          obtain hold | ⟨rfl, haccepted⟩ := mem_acceptedSamples_observeSample h
          · exact .inl hold
          · exact .inr ⟨e, _, rfl, rfl, haccepted, hsample⟩

end ClockSyncEstimator

/-- Exchanges that are accepted are between clocks that differ by `offsetMs`. -/
def AcceptsTruthful (offsetMs : ℚ) (s : ClockSyncEstimator) (call : SyncCall) : Prop :=
  ∀ e observation, call = .observeResponse e →
    estimator.out s call = .observed (.ok observation) → observation.accepted = true →
      e.Truthful offsetMs

/-- **The error of the clock offset is at most half of the round trip**, in every run whose accepted
exchanges are between clocks that differ by a constant. -/
theorem clock_offset_error_bound {s : ClockSyncEstimator} (hinit : estimator.init s)
    (offsetMs : ℚ) {calls : List SyncCall}
    (htruthful : estimator.Along (AcceptsTruthful offsetMs) s calls)
    (hreports : (estimator.after s calls).snapshot.acceptedSampleCount ≠ 0) :
    |(estimator.after s calls).snapshot.offsetMs - offsetMs| ≤
      (estimator.after s calls).snapshot.roundTripTimeMs / 2 := by
  rw [ClockSyncEstimator.acceptedSampleCount_snapshot] at hreports
  refine ClockSyncEstimator.snapshot_within (mt List.length_eq_zero_iff.mpr hreports) ?_
  have hnone : s.acceptedSamples = [] := by
    obtain ⟨config, hnew⟩ := hinit
    obtain ⟨valid, -, hpure⟩ := Result.bind_eq_ok.mp hnew
    obtain rfl := Except.ok.inj hpure
    rfl
  refine htruthful.invariant (I := fun t => ∀ sample ∈ t.acceptedSamples, sample.Within offsetMs)
    (fun t call hwithin hcall sample hsample => ?_) (by simp [hnone])
  obtain hold | ⟨e, observation, rfl, hout, haccepted, hfrom⟩ :=
    ClockSyncEstimator.mem_acceptedSamples_next hsample
  · exact hwithin sample hold
  · exact within_of_truthful (hcall e observation rfl hout haccepted) hfrom

namespace SyncScenario

/-- Probes with delays of 8 and 12, 3 and 5, and 33 and 25 milliseconds, to a host whose clock is
7 ahead. -/
def exchanges : List SyncExchange :=
  [⟨⟨1⟩, ⟨2000⟩, ⟨2015⟩, ⟨2017⟩, ⟨2022⟩⟩, ⟨⟨2⟩, ⟨3000⟩, ⟨3010⟩, ⟨3012⟩, ⟨3010⟩⟩,
    ⟨⟨3⟩, ⟨4000⟩, ⟨4040⟩, ⟨4042⟩, ⟨4060⟩⟩]

def calls : List SyncCall :=
  exchanges.flatMap fun e => [.beginProbe e.correlationId e.t1LocalSend, .observeResponse e]

end SyncScenario

open SyncScenario in
/-- The estimate is that of the fastest exchange, and off by a millisecond. -/
theorem clock_offset_error_bound_probes :
    (estimator.after { config := {} } calls).snapshot.acceptedSampleCount = 3 ∧
      (estimator.after { config := {} } calls).snapshot.offsetMs = 6 ∧
      |(estimator.after { config := {} } calls).snapshot.offsetMs - 7| ≤
        (estimator.after { config := {} } calls).snapshot.roundTripTimeMs / 2 := by
  refine ⟨by decide +kernel, by decide +kernel, clock_offset_error_bound ⟨{}, by decide +kernel⟩ 7
    ?_ (by decide +kernel)⟩
  refine ⟨?_, ?_, ?_, ?_, ?_, ?_, trivial⟩ <;> intro e _ hcall _ _ <;> cases hcall
  · exact ⟨8, 2, 12, by decide +kernel⟩
  · exact ⟨3, 2, 5, by decide +kernel⟩
  · exact ⟨33, 2, 25, by decide +kernel⟩

end SilentDisco.Sync
