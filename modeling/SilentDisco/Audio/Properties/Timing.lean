import SilentDisco.Audio.Properties.Packetizer
import SilentDisco.Audio.Scheduler

/-!
# Presentation times of host and listener

The host stamps every packet with a presentation time, and the listener computes the time of a
place in the stream from the geometry of the stream alone. Both are the start of the stream plus
the length of the packets before it, in milliseconds; the packetizer rounds the length to the
nearest millisecond and the scheduler rounds it down.

## Main definitions

* `SharesGeometry`: a packetizer and a scheduler configured for one stream

## Main results

* `presentation_times_agree`: at which packets the two times are equal
-/

namespace SilentDisco

open Protocol PlaybackScheduler

/-- Whole milliseconds in `n` packets. -/
def elapsedMillis (sampleRate samplesPerPacket : UInt32) (n : ℕ) : ℕ :=
  n * samplesPerPacket.toNat * 1000 / sampleRate.toNat

/-- What the whole milliseconds in `n` packets leave, in parts of the sample rate. -/
def remainderMillis (sampleRate samplesPerPacket : UInt32) (n : ℕ) : ℕ :=
  n * samplesPerPacket.toNat * 1000 % sampleRate.toNat

/-- Rounding to the nearest adds one exactly where the remainder reaches half the divisor. -/
theorem add_half_div {rate : ℕ} (hrate : 0 < rate) (total : ℕ) :
    (total + rate / 2) / rate = total / rate + if total % rate + rate / 2 < rate then 0 else 1 := by
  have hhalf : rate / 2 < rate := Nat.div_lt_self hrate (by decide)
  rw [Nat.add_div hrate, Nat.div_eq_of_lt hhalf, Nat.mod_eq_of_lt hhalf, Nat.add_zero]
  split_ifs <;> omega

theorem ofNat_eq_ofNat_iff {a b : ℕ} (ha : a ≤ u64Max) (hb : b ≤ u64Max) :
    UInt64.ofNat a = UInt64.ofNat b ↔ a = b := by
  constructor
  · intro h
    have hnat := congrArg UInt64.toNat h
    rwa [UInt64.toNat_ofNat_of_lt' (Nat.lt_succ_of_le ha),
      UInt64.toNat_ofNat_of_lt' (Nat.lt_succ_of_le hb)] at hnat
  · rintro rfl
    rfl

/-! ## Stamps of a run -/

namespace Packetizer

variable {base p : Packetizer} {start : ℕ} {samples : List Int16} {datagram : AudioDatagram}

/-- A datagram of a stream is stamped with the time of its sequence number. -/
theorem presentationTimeMs_of_mem_datagrams {ended : Bool}
    (h : .audio datagram ∈ base.datagrams start ended samples) :
    datagram.hostPresentationTimeMs = base.presentationTimeMs datagram.sequence.get := by
  obtain ⟨n, hn, heq⟩ := List.mem_mapIdx.mp h
  cases heq
  rfl

/-- Every packet of a run is stamped with the time of its sequence number. -/
theorem presentationTimeMs_of_mem_frames (hp : packetizer.init p) (chunks : List DecodedPcmChunk)
    (h : .audio datagram ∈ (packetizerTrace p chunks).frames) :
    datagram.hostPresentationTimeMs = p.presentationTimeMs datagram.sequence.get := by
  cases packetized_of_run hp chunks with
  | idle hp htrace =>
    rw [htrace] at h
    cases h
  | streaming _ _ _ _ _ hframes | ended _ _ _ _ hframes =>
    exact presentationTimeMs_of_mem_datagrams (hframes ▸ h)

end Packetizer

/-! ## Host and listener -/

/-- The packetizer and the scheduler are configured for the same stream. -/
structure SharesGeometry (p : Packetizer) (config : SchedulerConfig) : Prop where
  sampleRate : config.sampleRate = p.format.sampleRateHz
  channels : config.channels = p.format.channels
  samplesPerPacket : config.samplesPerPacket = p.samplesPerPacket
  hostStartTimeMs : config.hostStartTimeMs = p.hostStartTimeMs.get

theorem config_of_new {config : SchedulerConfig} {offsetMs : Float} {s : PlaybackScheduler}
    (h : new config offsetMs = .ok s) : s.config = config ∧ 0 < config.sampleRate.toNat := by
  unfold new at h
  simp only [Result.bind_eq_ok] at h
  obtain ⟨⟨⟩, hvalid, jitterBuffer, -, ⟨⟩, -, concealment, -, hs⟩ := h
  obtain rfl := Except.ok.inj hs
  unfold validateSchedulerConfig at hvalid
  obtain ⟨⟨⟩, hrate, -⟩ := Result.bind_eq_ok.mp hvalid
  rw [Result.rejectIf_eq_ok] at hrate
  refine ⟨rfl, Nat.pos_of_ne_zero fun hzero => hrate ?_⟩
  exact UInt32.toNat_inj.mp hzero

/-- **The times of host and listener.** Packets are stamped by their sequence number alone, and
the stamp is the time that the scheduler expects exactly when the packets before it leave less
than half a millisecond, or when the time is at the end of the clock. -/
theorem presentation_times_agree {p : Packetizer} {config : SchedulerConfig} {offsetMs : Float}
    {s : PlaybackScheduler} (hp : packetizer.init p)
    (hs : PlaybackScheduler.new config offsetMs = .ok s) (hshared : SharesGeometry p config) :
    (∀ chunks datagram, .audio datagram ∈ (packetizerTrace p chunks).frames →
      datagram.hostPresentationTimeMs = p.presentationTimeMs datagram.sequence.get) ∧
    ∀ n : UInt64, (p.presentationTimeMs n).get = s.expectedHostPresentationTimeMs n ↔
      remainderMillis config.sampleRate config.samplesPerPacket n.toNat +
          config.sampleRate.toNat / 2 < config.sampleRate.toNat ∨
        u64Max ≤ config.hostStartTimeMs.toNat +
          elapsedMillis config.sampleRate config.samplesPerPacket n.toNat := by
  obtain ⟨rfl, hrate⟩ := config_of_new hs
  refine ⟨fun chunks datagram h => Packetizer.presentationTimeMs_of_mem_frames hp chunks h, ?_⟩
  intro n
  unfold Packetizer.presentationTimeMs PlaybackScheduler.expectedHostPresentationTimeMs
    saturatingAdd elapsedMillis remainderMillis
  dsimp only
  rw [ofNat_eq_ofNat_iff (min_le_right _ _) (min_le_right _ _), ← hshared.sampleRate,
    ← hshared.samplesPerPacket, ← hshared.hostStartTimeMs, add_half_div hrate]
  generalize n.toNat * s.config.samplesPerPacket.toNat * 1000 = total
  split_ifs with hdown
  · simp [hdown]
  · generalize total / s.config.sampleRate.toNat = elapsed
    simp only [hdown, false_or]
    omega

namespace TimingScenario

/-- Stereo at a rate that five milliseconds do not divide. -/
def format : AudioFormat := ⟨44100, 2, .pcmS16Le⟩

def created : Except PacketizerError Packetizer :=
  Packetizer.new ⟨"session-1", Scenario.valid_session⟩ ⟨"stream-1", Scenario.valid_stream⟩ format 5
    ⟨1000⟩

/-- 220 frames in each packet. -/
def packets : Packetizer := created.toOption.get (by decide +kernel)

def config : SchedulerConfig :=
  .new ⟨"session-1", Scenario.valid_session⟩ ⟨"stream-1", Scenario.valid_stream⟩ 44100 1000 220 2

def scheduler : PlaybackScheduler :=
  (new config 0.0).toOption.get (by decide +kernel)

theorem init_packets : packetizer.init packets :=
  ⟨_, _, _, _, _, Result.eq_ok_get (r := created) (by decide +kernel)⟩

theorem new_scheduler : new config 0.0 = .ok scheduler :=
  Result.eq_ok_get (r := new config 0.0) (by decide +kernel)

theorem sharesGeometry : SharesGeometry packets config :=
  ⟨by decide +kernel, by decide +kernel, by decide +kernel, by decide +kernel⟩

end TimingScenario

open TimingScenario in
/-- 221 packets are 1102.49 milliseconds. -/
theorem presentation_times_agree_rounded :
    (packets.presentationTimeMs 221).get = 2102 ∧
      (packets.presentationTimeMs 221).get = scheduler.expectedHostPresentationTimeMs 221 :=
  ⟨by decide +kernel, ((presentation_times_agree init_packets new_scheduler sharesGeometry).2
    221).mpr (.inl (by decide))⟩

open TimingScenario in
/-- 220 frames are 4.99 milliseconds: the stamp says five, the scheduler four. -/
theorem not_presentation_times_agree :
    packetizer.init packets ∧ PlaybackScheduler.new config 0.0 = .ok scheduler ∧
      SharesGeometry packets config ∧ (packets.presentationTimeMs 1).get = 1005 ∧
        scheduler.expectedHostPresentationTimeMs 1 = 1004 :=
  ⟨init_packets, new_scheduler, sharesGeometry, by decide +kernel, by decide +kernel⟩

end SilentDisco
