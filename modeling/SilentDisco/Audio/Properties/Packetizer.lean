import SilentDisco.Audio.Packetizer
import SilentDisco.Library.Blocks
import SilentDisco.Library.Runs

/-!
# The packets of a stream

A packetizer cuts the samples of a stream into blocks of one width, however the samples are
split into chunks: the carry is what the full blocks leave, and the last packet is padded with
silence.

## Main definitions

* `Packetizer.datagram`: the datagram of a block, by its place in the stream
* `Packetizer.Carries`: the state of a packetizer after some samples of its stream
* `packetizer`: the packetizer as a machine, and `PacketizerTrace`, what it accepted and emitted

## Main results

* `packetizer_is_faithful`: the packets of a stream, for every split into chunks
-/

namespace SilentDisco

open Result Protocol Blocks Packetizer

namespace Packetizer

/-- The packetizer of the same stream before its first chunk. -/
def fresh (p : Packetizer) : Packetizer :=
  { p with
    nextSequence := 0
    carry := []
    carryFirstSampleIndex := none
    contiguousSampleCursor := 0
    expectedChunkSampleIndex := none
    finished := false }

/-- The datagram of the block `n` of a stream whose first sample has the index `start`. -/
def datagram (p : Packetizer) (start n : ℕ) (payload : List Int16) : ProtocolFrame :=
  .audio
    { sessionId := p.sessionId
      streamId := p.streamId
      sequence := ⟨.ofNat n⟩
      codec := .pcmS16Le
      sampleRate := p.format.sampleRateHz
      channels := p.format.channels
      samplesPerPacket := p.samplesPerPacket
      firstSampleIndex := ⟨.ofNat (start + n * p.samplesPerPacket.toNat)⟩
      hostPresentationTimeMs := p.presentationTimeMs (.ofNat n)
      payload := payload.flatMap sampleBytes }

theorem datagram_first {p : Packetizer} {start n : ℕ} {payload : List Int16}
    {datagram : AudioDatagram} (h : p.datagram start n payload = .audio datagram) :
    datagram.firstSampleIndex.get = .ofNat (start + n * p.samplesPerPacket.toNat) := by
  cases h
  rfl

/-- The blocks of a stream: once it has ended, the last one is padded with silence. -/
def blocks (p : Packetizer) (ended : Bool) (samples : List Int16) : List (List Int16) :=
  if ended then padded p.samplesPerFullPacket 0 samples
  else full p.samplesPerFullPacket samples

/-- The datagrams of a stream. -/
def datagrams (p : Packetizer) (start : ℕ) (ended : Bool) (samples : List Int16) :
    List ProtocolFrame :=
  (p.blocks ended samples).mapIdx (p.datagram start)

/-- Complete frames of interleaved samples. -/
def frameCount (p : Packetizer) (samples : List Int16) : ℕ :=
  samples.length / p.format.samplesPerFrame

variable {base p : Packetizer} {start k : ℕ} {samples : List Int16} {chunk : DecodedPcmChunk}

theorem blocks_ended (p : Packetizer) (samples : List Int16) :
    p.blocks true samples = padded p.samplesPerFullPacket 0 samples := rfl

theorem blocks_open (p : Packetizer) (samples : List Int16) :
    p.blocks false samples = full p.samplesPerFullPacket samples := rfl

/-! ## The loop over full packets -/

/-- The next datagram is the one of its place in the stream. -/
theorem buildDatagram_eq (hfresh : p.fresh = base) (hsequence : p.nextSequence = .ofNat k)
    (hfirst : p.carryFirstSampleIndex =
      some (.ofNat (start + k * base.samplesPerPacket.toNat))) (payload : List Int16) :
    p.buildDatagram payload =
      (base.datagram start k payload, { p with nextSequence := .ofNat (k + 1) }) := by
  have hnext : UInt64.ofNat k + 1 = .ofNat (k + 1) := (UInt64.ofNat_add k 1).symm
  subst hfresh
  unfold buildDatagram datagram
  rw [hsequence, hfirst, hnext]
  rfl

theorem drainPacket_eq (hfresh : p.fresh = base) (hsequence : p.nextSequence = .ofNat k)
    (hfirst : p.carryFirstSampleIndex = some (.ofNat (start + k * base.samplesPerPacket.toNat))) :
    p.drainPacket =
      (base.datagram start k (p.carry.take base.samplesPerFullPacket),
        { p with
          nextSequence := .ofNat (k + 1)
          carry := p.carry.drop base.samplesPerFullPacket
          carryFirstSampleIndex :=
            some (.ofNat (start + (k + 1) * base.samplesPerPacket.toNat)) }) := by
  have hnext : UInt64.ofNat (start + k * base.samplesPerPacket.toNat) +
      .ofNat p.samplesPerPacket.toNat = .ofNat (start + (k + 1) * base.samplesPerPacket.toNat) := by
    subst hfresh
    rw [← UInt64.ofNat_add, Nat.add_assoc, Nat.add_mul, Nat.one_mul]
    rfl
  simp only [drainPacket, buildDatagram_eq hfresh hsequence hfirst, advanceCarryStart, hfirst,
    Option.map_some, hnext]
  subst hfresh
  rfl

/-- The loop cuts the carry into full blocks. -/
theorem drainFull_eq {fuel : ℕ} (hfuel : p.carry.length ≤ fuel) (hfresh : p.fresh = base)
    (hsequence : p.nextSequence = .ofNat k)
    (hfirst : p.carryFirstSampleIndex = some (.ofNat (start + k * base.samplesPerPacket.toNat))) :
    drainFull fuel p =
      ((full base.samplesPerFullPacket p.carry).mapIdx fun i =>
          base.datagram start (k + i),
        { p with
          nextSequence :=
            .ofNat (k + (full base.samplesPerFullPacket p.carry).length)
          carry := rest base.samplesPerFullPacket p.carry
          carryFirstSampleIndex :=
            some (.ofNat (start + (k + (full base.samplesPerFullPacket p.carry).length) *
              base.samplesPerPacket.toNat)) }) := by
  have hwidth : p.samplesPerFullPacket = base.samplesPerFullPacket := by rw [← hfresh]; rfl
  have hpos := base.samplesPerFullPacket_pos
  induction fuel generalizing p k with
  | zero =>
    have hlt : p.carry.length < base.samplesPerFullPacket := Nat.lt_of_le_of_lt hfuel hpos
    rw [drainFull, full_of_lt hlt, rest_of_lt hlt, List.length_nil, Nat.add_zero,
      ← hsequence, ← hfirst]
    rfl
  | succ fuel ih =>
    unfold drainFull
    rw [hwidth]
    split_ifs with hfull
    · have hrest := ih (p := p.drainPacket.2) (k := k + 1)
      rw [drainPacket_eq hfresh hsequence hfirst] at hrest ⊢
      specialize hrest (by rw [List.length_drop]; omega) hfresh rfl rfl hwidth
      simp only [hrest, full_of_le hpos hfull, rest_of_le hpos hfull,
        List.mapIdx_cons, List.length_cons, Nat.add_zero, Nat.add_assoc, Nat.add_comm 1]
    · have hlt := Nat.lt_of_not_le hfull
      rw [full_of_lt hlt, rest_of_lt hlt, List.length_nil, Nat.add_zero, ← hsequence, ← hfirst]
      rfl

/-- The frames are the packets of a stream: numbered from zero, at their places of the stream,
and of one width. No number or index wraps. -/
structure Packets (p : Packetizer) (start : ℕ) (frames : List ProtocolFrame)
    (payloads : List (List Int16)) : Prop where
  frames : frames = payloads.mapIdx (p.datagram start)
  width : ∀ payload ∈ payloads,
    payload.length = p.samplesPerPacket.toNat * p.format.samplesPerFrame
  index : ∀ n < payloads.length, start + n * p.samplesPerPacket.toNat ≤ u64Max

/-- Silence of less than one packet. -/
def Silence (p : Packetizer) (samples : List Int16) : Prop :=
  ∃ frames < p.samplesPerPacket.toNat,
    samples = List.replicate (frames * p.format.samplesPerFrame) 0

/-! ## Datagrams of a stream that continues or ends -/

theorem datagrams_nil (p : Packetizer) (start : ℕ) : p.datagrams start false [] = [] := by
  have hlt : ([] : List Int16).length < p.samplesPerFullPacket := p.samplesPerFullPacket_pos
  rw [datagrams, blocks_open, full_of_lt hlt, List.mapIdx_nil]

theorem datagrams_append (p : Packetizer) (start : ℕ) (samples more : List Int16) :
    p.datagrams start false (samples ++ more) =
      p.datagrams start false samples ++
        (full p.samplesPerFullPacket
          (rest p.samplesPerFullPacket samples ++ more)).mapIdx fun i =>
            p.datagram start ((p.blocks false samples).length + i) := by
  unfold datagrams
  rw [blocks_open, blocks_open, full_append, List.mapIdx_append]
  simp only [Nat.add_comm]

theorem datagrams_ended (p : Packetizer) (start : ℕ) (samples : List Int16) :
    p.datagrams start true samples =
      p.datagrams start false samples ++
        if rest p.samplesPerFullPacket samples = [] then []
        else [p.datagram start (p.blocks false samples).length
          (rest p.samplesPerFullPacket samples ++
            List.replicate (padding p.samplesPerFullPacket samples) 0)] := by
  unfold datagrams
  rw [blocks_open, blocks_ended, padded]
  split_ifs
  · rw [List.append_nil]
  · rw [List.mapIdx_append, List.mapIdx_singleton, Nat.zero_add]

/-- The packetizer has taken `samples` of a stream whose first one has the index `start`. -/
structure Carries (base : Packetizer) (start : ℕ) (samples : List Int16) (p : Packetizer) :
    Prop where
  fresh : p.fresh = base
  sequence : p.nextSequence = .ofNat (base.blocks false samples).length
  carry : p.carry = rest base.samplesPerFullPacket samples
  first : p.carry ≠ [] → p.carryFirstSampleIndex =
    some (.ofNat (start + (base.blocks false samples).length * base.samplesPerPacket.toNat))
  whole : base.format.samplesPerFrame ∣ samples.length
  unfinished : p.finished = false

/-- A fresh packetizer has taken nothing. -/
theorem carries_nil (hfresh : base.fresh = base) (start : ℕ) : Carries base start [] base := by
  have hlt : ([] : List Int16).length < base.samplesPerFullPacket := base.samplesPerFullPacket_pos
  refine ⟨hfresh, ?_, ?_, fun hcarry => absurd ?_ hcarry, dvd_zero _, ?_⟩
  · rw [blocks_open, full_of_lt hlt, ← hfresh]
    rfl
  · rw [rest_of_lt hlt, ← hfresh]
    rfl
  · rw [← hfresh]
    rfl
  · rw [← hfresh]
    rfl

/-- Samples that fill their blocks have as many frames. -/
theorem frameCount_of_rest_nil (h : rest p.samplesPerFullPacket samples = []) :
    p.frameCount samples = (p.blocks false samples).length * p.samplesPerPacket.toNat := by
  have hlength := length_eq p.samplesPerFullPacket samples
  rw [h, List.length_nil, Nat.add_zero] at hlength
  rw [frameCount, ← hlength, samplesPerFullPacket, ← Nat.mul_assoc,
    Nat.mul_div_cancel _ p.channels_pos]
  rfl

/-- Frames are counted chunk by chunk. -/
theorem frameCount_append (hwhole : p.format.samplesPerFrame ∣ samples.length)
    (more : List Int16) :
    p.frameCount (samples ++ more) = p.frameCount samples + p.frameCount more := by
  rw [frameCount, List.length_append, Nat.add_div_of_dvd_right hwhole]
  rfl

theorem blocks_prefix_ended (p : Packetizer) (ended : Bool) (samples : List Int16) :
    p.blocks ended samples <+: p.blocks true samples := by
  cases ended with
  | false => exact full_prefix_padded _ _ _
  | true => exact List.prefix_rfl

/-- The first datagrams of a stream are packets with its first blocks. -/
theorem packets_of_prefix {ended : Bool} {frames : List ProtocolFrame}
    (hfits : start + p.frameCount samples ≤ u64Max)
    (h : frames <+: p.datagrams start ended samples) :
    ∃ payloads, payloads <+: p.blocks ended samples ∧ p.Packets start frames payloads := by
  have hpos := p.samplesPerFullPacket_pos
  obtain ⟨others, hothers⟩ := h
  obtain ⟨payloads, rest, hblocks, hframes, -⟩ := List.mapIdx_eq_append_iff.mp hothers.symm
  have hinitial : payloads <+: p.blocks ended samples := ⟨rest, hblocks.symm⟩
  have hpadded := hinitial.trans (p.blocks_prefix_ended ended samples)
  refine ⟨payloads, hinitial, hframes.symm,
    fun payload hmem => length_of_mem_padded hpos (hpadded.subset hmem), fun n hn => ?_⟩
  -- A block starts before the end of the samples.
  have hlt := index_mul_lt hpos (hn.trans_le hpadded.length_le)
  rw [samplesPerFullPacket, ← Nat.mul_assoc] at hlt
  have hframe : n * p.samplesPerPacket.toNat ≤ p.frameCount samples :=
    (Nat.le_div_iff_mul_le p.channels_pos).mpr hlt.le
  exact (Nat.add_le_add_left hframe _).trans hfits

/-- The datagrams of an ended stream are its packets. -/
theorem packets_datagrams (hfits : start + p.frameCount samples ≤ u64Max) :
    p.Packets start (p.datagrams start true samples) (p.blocks true samples) := by
  obtain ⟨payloads, hinitial, hpackets⟩ := packets_of_prefix hfits List.prefix_rfl
  have hlength := congrArg List.length hpackets.frames
  rw [datagrams, List.length_mapIdx, List.length_mapIdx] at hlength
  rwa [hinitial.eq_of_length hlength.symm] at hpackets

/-- They carry the samples of the stream and less than one packet of silence. -/
theorem flatten_blocks_ended (hwhole : p.format.samplesPerFrame ∣ samples.length) :
    ∃ silence, p.Silence silence ∧ (p.blocks true samples).flatten = samples ++ silence := by
  have hdvd : p.format.samplesPerFrame ∣ padding p.samplesPerFullPacket samples :=
    dvd_padding (Dvd.intro_left _ rfl) hwhole
  obtain ⟨frames, hframes⟩ := hdvd
  rw [Nat.mul_comm] at hframes
  have hlt := padding_lt p.samplesPerFullPacket_pos samples
  rw [hframes] at hlt
  refine ⟨_, ⟨frames, Nat.lt_of_mul_lt_mul_right hlt, rfl⟩, ?_⟩
  rw [blocks_ended, flatten_padded, hframes]

/-- Until the stream ends, its datagrams have no frame after its samples. -/
theorem first_add_le_of_mem {datagram : AudioDatagram} (hfits : p.frameCount samples ≤ u64Max)
    (h : .audio datagram ∈ p.datagrams 0 false samples) :
    datagram.firstSampleIndex.get.toNat + p.samplesPerPacket.toNat ≤ p.frameCount samples := by
  obtain ⟨n, hn, hdatagram⟩ := List.mem_mapIdx.mp h
  have hblocks : (n + 1) * p.samplesPerFullPacket ≤ samples.length := by
    have hmul := Nat.mul_le_mul_right p.samplesPerFullPacket (Nat.succ_le_of_lt hn)
    exact hmul.trans (Nat.le.intro (length_eq p.samplesPerFullPacket samples))
  have hframes : (n + 1) * p.samplesPerPacket.toNat ≤ p.frameCount samples := by
    rw [samplesPerFullPacket, ← Nat.mul_assoc] at hblocks
    exact (Nat.le_div_iff_mul_le p.channels_pos).mpr hblocks
  rw [Nat.add_mul, Nat.one_mul] at hframes
  rw [datagram_first hdatagram, Nat.zero_add, UInt64.toNat_ofNat_of_lt' (by
    rw [u64Max] at hfits
    change _ < 2 ^ 64
    omega)]
  exact hframes

/-! ## One chunk -/

/-- The chunk continues the stream. -/
structure Admits (p : Packetizer) (chunk : DecodedPcmChunk) : Prop where
  unfinished : p.finished = false
  format : chunk.format = p.format
  whole : p.format.samplesPerFrame ∣ chunk.frames.length
  contiguous : ∀ next ∈ p.expectedChunkSampleIndex, chunk.firstSampleIndex.get = next
  fits : chunk.firstSampleIndex.get.toNat + chunk.frameCount ≤ u64Max

/-- A chunk is accepted if and only if it continues the stream. -/
theorem checkChunk_eq_ok {next : UInt64} :
    p.checkChunk chunk = .ok next ↔
      p.Admits chunk ∧ next = .ofNat (chunk.firstSampleIndex.get.toNat + chunk.frameCount) := by
  unfold checkChunk validateChunk
  simp only [bind_eq_ok, check_eq_ok, rejectIf_eq_ok]
  constructor
  · rintro ⟨_, ⟨_, hfinished, _, hformat, hwhole⟩, _, hcontiguous, _, hcount, _, hfits, hnext⟩
    refine ⟨⟨eq_false_of_ne_true hfinished, not_not.mp hformat, hwhole, fun next hmem => ?_,
      not_lt.mp hfits⟩, (Except.ok.inj hnext).symm⟩
    exact not_not.mp fun hne => hcontiguous ⟨next, hmem, hne⟩
  · rintro ⟨⟨hfinished, hformat, hwhole, hcontiguous, hfits⟩, rfl⟩
    refine ⟨(), ⟨(), by simp [hfinished], (), not_not.mpr hformat, hwhole⟩, (), ?_, (),
      not_lt.mpr ((Nat.le_add_left _ _).trans hfits), (), not_lt.mpr hfits, rfl⟩
    rintro ⟨next, hmem, hne⟩
    exact hne (hcontiguous next hmem)

/-- The packetizer with the samples of a chunk in its carry. -/
def extend (p : Packetizer) (chunk : DecodedPcmChunk) : Packetizer :=
  { p with
    carry := p.carry ++ chunk.frames
    carryFirstSampleIndex :=
      if p.carry = [] then some chunk.firstSampleIndex.get else p.carryFirstSampleIndex }

section

variable (h : Carries base start samples p)
include h

/-- The start of the extended carry has the place of the next block. -/
theorem Carries.extend_first
    (hfirst : chunk.firstSampleIndex.get.toNat = start + base.frameCount samples) :
    (p.extend chunk).carryFirstSampleIndex =
      some (.ofNat (start + (base.blocks false samples).length * base.samplesPerPacket.toNat)) := by
  by_cases hcarry : p.carry = []
  · have hrest : rest base.samplesPerFullPacket samples = [] := h.carry.symm.trans hcarry
    rw [frameCount_of_rest_nil hrest] at hfirst
    rw [← hfirst, UInt64.ofNat_toNat]
    exact if_pos hcarry
  · exact (if_neg hcarry).trans (h.first hcarry)

/-- The loop takes the samples of a chunk that continues the stream. -/
theorem Carries.drain
    (hwhole : base.format.samplesPerFrame ∣ chunk.frames.length)
    (hfirst : chunk.firstSampleIndex.get.toNat = start + base.frameCount samples) :
    base.datagrams start false samples ++
          (drainFull (p.extend chunk).carry.length (p.extend chunk)).1 =
        base.datagrams start false (samples ++ chunk.frames) ∧
      Carries base start (samples ++ chunk.frames)
        (drainFull (p.extend chunk).carry.length (p.extend chunk)).2 := by
  have hcarry : (p.extend chunk).carry = rest base.samplesPerFullPacket samples ++ chunk.frames :=
    congrArg (· ++ chunk.frames) h.carry
  have hlength : (base.blocks false (samples ++ chunk.frames)).length =
      (base.blocks false samples).length +
        (full base.samplesPerFullPacket (p.extend chunk).carry).length := by
    rw [blocks_open, blocks_open, full_append, List.length_append, hcarry]
  rw [drainFull_eq le_rfl (p := p.extend chunk) h.fresh h.sequence (h.extend_first hfirst)]
  refine ⟨?_, h.fresh, ?_, ?_, fun _ => ?_, ?_, h.unfinished⟩
  · rw [datagrams_append, hcarry]
  · rw [hlength]
  · rw [rest_append, ← hcarry]
  · rw [hlength]
  · rw [List.length_append]
    exact dvd_add h.whole hwhole

/-- The last packet ends the stream. -/
theorem Carries.finish :
    base.datagrams start false samples ++ p.finish.1 = base.datagrams start true samples ∧
      p.finish.2.finished = true := by
  unfold Packetizer.finish
  rw [datagrams_ended]
  split_ifs with hcarry hrest hrest
  · exact ⟨rfl, rfl⟩
  · exact absurd (h.carry.symm.trans hcarry) hrest
  · exact absurd (h.carry.trans hrest) hcarry
  · have hwidth : p.samplesPerFullPacket = base.samplesPerFullPacket := by rw [← h.fresh]; rfl
    have hlt := length_rest_lt base.samplesPerFullPacket_pos samples
    dsimp only
    rw [buildDatagram_eq (p := { p with carry := [] }) h.fresh h.sequence (h.first hcarry), h.carry,
      hwidth, List.take_of_length_le (by rw [List.length_append, List.length_replicate]; omega),
      padding, if_neg hrest]
    exact ⟨rfl, rfl⟩

/-- The cursors of the timeline are no part of it. -/
theorem Carries.at_cursors (expected : Option UInt64)
    (cursor : UInt64) :
    Carries base start samples
      { p with expectedChunkSampleIndex := expected, contiguousSampleCursor := cursor } :=
  ⟨h.fresh, h.sequence, h.carry, h.first, h.whole, h.unfinished⟩

/-- **One chunk that continues the stream.** It completes the datagrams of its samples; the last
chunk also ends the stream. -/
theorem Carries.consume
    (hwhole : base.format.samplesPerFrame ∣ chunk.frames.length)
    (hfirst : chunk.firstSampleIndex.get.toNat = start + base.frameCount samples)
    (next : UInt64) :
    base.datagrams start false samples ++ (p.consume chunk next).1.frames =
        base.datagrams start chunk.endOfStream (samples ++ chunk.frames) ∧
      (p.consume chunk next).2.finished = chunk.endOfStream ∧
      (chunk.endOfStream = false →
        Carries base start (samples ++ chunk.frames) (p.consume chunk next).2) := by
  obtain ⟨hframes, hdrained⟩ := h.drain hwhole hfirst
  obtain ⟨hlast, hfinished⟩ := hdrained.finish
  unfold Packetizer.consume
  dsimp only
  cases chunk.endOfStream with
  | false =>
    refine ⟨?_, hdrained.unfinished, fun _ => hdrained.at_cursors _ _⟩
    rw [endChunk, if_neg Bool.false_ne_true, List.append_nil]
    exact hframes
  | true =>
    refine ⟨?_, hfinished, nofun⟩
    rw [← List.append_assoc, ← hlast, ← hframes]
    rfl

end

theorem pushChunk_of_admits (h : p.Admits chunk) :
    p.pushChunk chunk =
      (.ok (p.consume chunk (.ofNat (chunk.firstSampleIndex.get.toNat + chunk.frameCount))).1,
        (p.consume chunk (.ofNat (chunk.firstSampleIndex.get.toNat + chunk.frameCount))).2) := by
  unfold pushChunk
  rw [checkChunk_eq_ok.mpr ⟨h, rfl⟩]

/-- A rejected chunk leaves the packetizer as it is. -/
theorem pushChunk_of_not_admits (h : ¬p.Admits chunk) :
    ∃ error, p.pushChunk chunk = (.error error, p) := by
  unfold pushChunk
  cases hcheck : p.checkChunk chunk with
  | error error => exact ⟨error, rfl⟩
  | ok => exact absurd (checkChunk_eq_ok.mp hcheck).1 h

theorem fresh_of_new {sessionId : SessionId} {streamId : StreamId} {format : AudioFormat}
    {packetDurationMs : UInt32} {hostStartTimeMs : MonotonicMillis}
    (h : new sessionId streamId format packetDurationMs hostStartTimeMs = .ok p) : p.fresh = p := by
  unfold new at h
  dsimp only at h
  split_ifs at h
  cases h
  rfl

/-! ## A continuous timeline -/

/-- The packetizer has taken `samples` on its own timeline. -/
structure Streams (base : Packetizer) (samples : List Int16) (p : Packetizer) : Prop where
  carries : Carries base 0 samples p
  cursor : p.contiguousSampleCursor = .ofNat (base.frameCount samples)
  fits : base.frameCount samples ≤ u64Max
  expected : ∀ next ∈ p.expectedChunkSampleIndex, next = p.contiguousSampleCursor

/-- The same, for a stream that may have ended. -/
structure StreamsTo (base : Packetizer) (ended : Bool) (samples : List Int16) (p : Packetizer) :
    Prop where
  finished : p.finished = ended
  whole : base.format.samplesPerFrame ∣ samples.length
  fits : base.frameCount samples ≤ u64Max
  streams : ended = false → Streams base samples p

theorem Streams.cursor_toNat (h : Streams base samples p) :
    p.contiguousSampleCursor.toNat = base.frameCount samples := by
  rw [h.cursor, UInt64.toNat_ofNat_of_lt' (Nat.lt_succ_of_le h.fits)]

theorem Streams.format (h : Streams base samples p) : p.format = base.format := by
  rw [← h.carries.fresh]
  rfl

theorem streams_nil (hfresh : base.fresh = base) : Streams base [] base := by
  have hcount : base.frameCount [] = 0 := Nat.zero_div _
  refine ⟨carries_nil hfresh 0, ?_, ?_, fun next hmem => ?_⟩
  · rw [hcount, ← hfresh]
    rfl
  · rw [hcount]
    exact Nat.zero_le _
  · rw [← hfresh] at hmem
    cases hmem

theorem Streams.streamsTo (h : Streams base samples p) : base.StreamsTo false samples p :=
  ⟨h.carries.unfinished, h.carries.whole, h.fits, fun _ => h⟩

/-- The chunk fits the end of the timeline. -/
structure AdmitsNext (p : Packetizer) (chunk : DecodedPcmChunk) : Prop where
  unfinished : p.finished = false
  format : chunk.format = p.format
  whole : p.format.samplesPerFrame ∣ chunk.frames.length
  fits : p.contiguousSampleCursor.toNat + chunk.frameCount ≤ u64Max

theorem checkContiguous_eq_ok {next : UInt64} :
    p.checkContiguous chunk = .ok next ↔
      p.AdmitsNext chunk ∧ next = .ofNat (p.contiguousSampleCursor.toNat + chunk.frameCount) := by
  unfold checkContiguous validateChunk
  simp only [bind_eq_ok, check_eq_ok, rejectIf_eq_ok]
  constructor
  · rintro ⟨_, ⟨_, hfinished, _, hformat, hwhole⟩, _, hcount, _, hfits, hnext⟩
    exact ⟨⟨eq_false_of_ne_true hfinished, not_not.mp hformat, hwhole, not_lt.mp hfits⟩,
      (Except.ok.inj hnext).symm⟩
  · rintro ⟨⟨hfinished, hformat, hwhole, hfits⟩, rfl⟩
    exact ⟨(), ⟨(), by simp [hfinished], (), not_not.mpr hformat, hwhole⟩, (),
      not_lt.mpr ((Nat.le_add_left _ _).trans hfits), (), not_lt.mpr hfits, rfl⟩

theorem pushContiguousChunk_of_not_admits (h : ¬p.AdmitsNext chunk) :
    ∃ error, p.pushContiguousChunk chunk = (.error error, p) := by
  unfold pushContiguousChunk
  cases hcheck : p.checkContiguous chunk with
  | error error => exact ⟨error, rfl⟩
  | ok => exact absurd (checkContiguous_eq_ok.mp hcheck).1 h

/-- A chunk at the end of the timeline. -/
theorem Streams.push (h : Streams base samples p) (hchunk : p.AdmitsNext chunk) :
    ∃ outcome q, p.pushContiguousChunk chunk = (.ok outcome, q) ∧
      outcome.endOfStream = chunk.endOfStream ∧
      base.datagrams 0 false samples ++ outcome.frames =
        base.datagrams 0 chunk.endOfStream (samples ++ chunk.frames) ∧
      base.StreamsTo chunk.endOfStream (samples ++ chunk.frames) q := by
  have hadmits : p.Admits { chunk with firstSampleIndex := ⟨p.contiguousSampleCursor⟩ } :=
    ⟨hchunk.unfinished, hchunk.format, hchunk.whole, fun next hmem => (h.expected next hmem).symm,
      hchunk.fits⟩
  have hwhole : base.format.samplesPerFrame ∣ chunk.frames.length := h.format ▸ hchunk.whole
  have hcount : base.frameCount (samples ++ chunk.frames) =
      p.contiguousSampleCursor.toNat + chunk.frameCount := by
    rw [frameCount_append h.carries.whole, h.cursor_toNat, DecodedPcmChunk.frameCount,
      hchunk.format, h.format]
    rfl
  have hfits := hchunk.fits
  rw [← hcount] at hfits
  have hnext : p.checkContiguous chunk =
      .ok (.ofNat (p.contiguousSampleCursor.toNat + chunk.frameCount)) :=
    checkContiguous_eq_ok.mpr ⟨hchunk, rfl⟩
  obtain ⟨hframes, hfinished, hcarries⟩ := @Carries.consume base p 0 samples
    { chunk with firstSampleIndex := ⟨p.contiguousSampleCursor⟩ } h.carries hwhole
    (h.cursor_toNat.trans (Nat.zero_add _).symm)
    (.ofNat (p.contiguousSampleCursor.toNat + chunk.frameCount))
  unfold pushContiguousChunk
  rw [hnext]
  dsimp only
  rw [pushChunk_of_admits hadmits]
  refine ⟨_, _, rfl, rfl, hframes, hfinished, ?_, hfits, fun hopen => ?_⟩
  · rw [List.length_append]
    exact dvd_add h.carries.whole hwhole
  · refine ⟨(hcarries hopen).at_cursors _ _, ?_, hfits, fun next hmem => ?_⟩
    · rw [hcount]
    · exact (Option.some.inj hmem).symm

end Packetizer

/-! ## Runs -/

/-- The packetizer of one stream, to which chunks are pushed. -/
def packetizer : Machine Packetizer DecodedPcmChunk (Except PacketizerError PacketizeOutcome) where
  init p := ∃ sessionId streamId format packetDurationMs hostStartTimeMs,
    new sessionId streamId format packetDurationMs hostStartTimeMs = .ok p
  step p chunk := (p.pushChunk chunk).swap

/-- The chunks that were accepted, and the frames that were emitted. -/
structure PacketizerTrace where
  accepted : List DecodedPcmChunk := []
  frames : List ProtocolFrame := []

namespace PacketizerTrace

variable (trace : PacketizerTrace)

/-- A chunk and the answer to it. -/
def push (chunk : DecodedPcmChunk) :
    Except PacketizerError PacketizeOutcome → PacketizerTrace
  | .ok outcome => ⟨trace.accepted ++ [chunk], trace.frames ++ outcome.frames⟩
  | .error _ => trace

/-- The index of the first sample. -/
def start : ℕ :=
  (trace.accepted.head?.map fun chunk => chunk.firstSampleIndex.get.toNat).getD 0

/-- The samples of the accepted chunks. -/
def samples : List Int16 :=
  trace.accepted.flatMap DecodedPcmChunk.frames

/-- The last accepted chunk was marked final. -/
def ended : Bool :=
  (trace.accepted.getLast?.map DecodedPcmChunk.endOfStream).getD false

/-- The chunk is the next one of the stream, and its end has an index. -/
structure ContinuedBy (p : Packetizer) (trace : PacketizerTrace) (chunk : DecodedPcmChunk) :
    Prop where
  unended : trace.ended = false
  format : chunk.format = p.format
  whole : p.format.samplesPerFrame ∣ chunk.frames.length
  contiguous : trace.accepted ≠ [] →
    chunk.firstSampleIndex.get.toNat = trace.start + p.frameCount trace.samples
  fits : chunk.firstSampleIndex.get.toNat + p.frameCount chunk.frames ≤ u64Max

end PacketizerTrace

/-- The trace of a run. -/
def packetizerTrace (p : Packetizer) (chunks : List DecodedPcmChunk) : PacketizerTrace :=
  packetizer.record (fun trace q chunk => trace.push chunk (packetizer.out q chunk)) {} p chunks

open Packetizer in
/-- What the frames of a run are: nothing yet, the datagrams of the full blocks, or those of the
ended stream. -/
inductive Packetized (base p : Packetizer) (trace : PacketizerTrace) : Prop
  | idle (hp : p = base) (htrace : trace = {})
  | streaming (haccepted : trace.accepted ≠ []) (hended : trace.ended = false)
      (hcarries : Carries base trace.start trace.samples p)
      (hexpected : p.expectedChunkSampleIndex =
        some (.ofNat (trace.start + base.frameCount trace.samples)))
      (hfits : trace.start + base.frameCount trace.samples ≤ u64Max)
      (hframes : trace.frames = base.datagrams trace.start false trace.samples)
  | ended (hended : trace.ended = true) (hfinished : p.finished = true)
      (hwhole : base.format.samplesPerFrame ∣ trace.samples.length)
      (hfits : trace.start + base.frameCount trace.samples ≤ u64Max)
      (hframes : trace.frames = base.datagrams trace.start true trace.samples)

namespace PacketizerTrace

variable {base p : Packetizer} {trace : PacketizerTrace} {chunk : DecodedPcmChunk}

variable {outcome : PacketizeOutcome}

@[simp] theorem ended_push (trace : PacketizerTrace) (chunk : DecodedPcmChunk)
    (outcome : PacketizeOutcome) : (trace.push chunk (.ok outcome)).ended = chunk.endOfStream := by
  simp [push, ended]

@[simp] theorem samples_push (trace : PacketizerTrace) (chunk : DecodedPcmChunk)
    (outcome : PacketizeOutcome) :
    (trace.push chunk (.ok outcome)).samples = trace.samples ++ chunk.frames := by
  simp [push, samples]

theorem accepted_push_ne_nil (trace : PacketizerTrace) (chunk : DecodedPcmChunk)
    (outcome : PacketizeOutcome) : (trace.push chunk (.ok outcome)).accepted ≠ [] :=
  List.concat_ne_nil _ _

theorem start_push_of_ne_nil (h : trace.accepted ≠ []) :
    (trace.push chunk (.ok outcome)).start = trace.start := by
  obtain ⟨first, rest, haccepted⟩ := List.exists_cons_of_ne_nil h
  simp [push, start, haccepted]

/-- One accepted chunk, at the end of the samples so far. -/
theorem packetized_push {start : ℕ}
    (hcarries : Packetizer.Carries base start trace.samples p) (hadmits : p.Admits chunk)
    (hfirst : chunk.firstSampleIndex.get.toNat = start + base.frameCount trace.samples)
    (hframes : trace.frames = base.datagrams start false trace.samples)
    (hstart : ∀ outcome, (trace.push chunk (.ok outcome)).start = start) :
    Packetized base (packetizer.next p chunk) (trace.push chunk (packetizer.out p chunk)) := by
  have hformat : p.format = base.format := by rw [← hcarries.fresh]; rfl
  have hwhole : base.format.samplesPerFrame ∣ chunk.frames.length := hformat ▸ hadmits.whole
  have hcount : chunk.frameCount = base.frameCount chunk.frames := by
    rw [DecodedPcmChunk.frameCount, hadmits.format, hformat]
    rfl
  have hfits := hadmits.fits
  obtain ⟨hpushed, hfinished, hnext⟩ := hcarries.consume hwhole hfirst
    (.ofNat (chunk.firstSampleIndex.get.toNat + chunk.frameCount))
  rw [Machine.next, Machine.out]
  change Packetized base (p.pushChunk chunk).2 (trace.push chunk (p.pushChunk chunk).1)
  rw [pushChunk_of_admits hadmits]
  set result := p.consume chunk (.ofNat (chunk.firstSampleIndex.get.toNat + chunk.frameCount))
    with hresult
  have htotal : start + base.frameCount (trace.samples ++ chunk.frames) =
      chunk.firstSampleIndex.get.toNat + chunk.frameCount := by
    rw [frameCount_append hcarries.whole, hcount, hfirst, Nat.add_assoc]
  have hemitted : trace.frames ++ result.1.frames =
      base.datagrams start chunk.endOfStream (trace.samples ++ chunk.frames) := by
    rw [hframes, hpushed]
  cases hlast : chunk.endOfStream with
  | false =>
    refine .streaming (trace.accepted_push_ne_nil chunk _) ?_ ?_ ?_ ?_ ?_
    · rw [ended_push, hlast]
    · rw [samples_push, hstart]
      exact hnext hlast
    · rw [samples_push, hstart, htotal]
      rfl
    · rw [samples_push, hstart, htotal]
      exact hfits
    · rw [samples_push, hstart, ← hlast]
      exact hemitted
  | true =>
    refine .ended ?_ (hfinished.trans hlast) ?_ ?_ ?_
    · rw [ended_push, hlast]
    · rw [samples_push, List.length_append]
      exact dvd_add hcarries.whole hwhole
    · rw [samples_push, hstart, htotal]
      exact hfits
    · rw [samples_push, hstart, ← hlast]
      exact hemitted

end PacketizerTrace

/-- Every push keeps it. -/
theorem Packetized.next {base p : Packetizer} {trace : PacketizerTrace} (hbase : base.fresh = base)
    (h : Packetized base p trace) (chunk : DecodedPcmChunk) :
    Packetized base (packetizer.next p chunk) (trace.push chunk (packetizer.out p chunk)) := by
  by_cases hadmits : p.Admits chunk
  · cases h with
    | idle hp htrace =>
      subst hp htrace
      refine PacketizerTrace.packetized_push (carries_nil hbase _) hadmits ?_ ?_
        fun _ => rfl
      · simp [PacketizerTrace.samples, frameCount]
      · exact (datagrams_nil p _).symm
    | streaming haccepted hended hcarries hexpected hfits hframes =>
      have hfirst := congrArg UInt64.toNat (hadmits.contiguous _ hexpected)
      rw [UInt64.toNat_ofNat_of_lt' (Nat.lt_succ_of_le hfits)] at hfirst
      exact PacketizerTrace.packetized_push hcarries hadmits hfirst hframes
        fun _ => PacketizerTrace.start_push_of_ne_nil haccepted
    | ended hended hfinished =>
      cases hadmits.unfinished.symm.trans hfinished
  · obtain ⟨error, herror⟩ := pushChunk_of_not_admits hadmits
    have hstep : packetizer.step p chunk = (p, .error error) := congrArg Prod.swap herror
    rw [Machine.next, Machine.out, hstep]
    exact h

namespace Packetized

variable {base p : Packetizer} {trace : PacketizerTrace}

/-- The frames of an ended stream are its datagrams. -/
theorem frames_of_ended (h : Packetized base p trace) (hended : trace.ended = true) :
    trace.frames = base.datagrams trace.start true trace.samples := by
  cases h with
  | idle hp htrace =>
    subst htrace
    cases hended
  | streaming haccepted hopen => cases hopen.symm.trans hended
  | ended _ _ _ _ hframes => exact hframes

theorem whole_of_ended (h : Packetized base p trace) (hended : trace.ended = true) :
    base.format.samplesPerFrame ∣ trace.samples.length ∧
      trace.start + base.frameCount trace.samples ≤ u64Max := by
  cases h with
  | idle hp htrace =>
    subst htrace
    cases hended
  | streaming haccepted hopen => cases hopen.symm.trans hended
  | ended _ hfinished hwhole hfits => exact ⟨hwhole, hfits⟩

/-- The next chunk of the stream is accepted. -/
theorem admits_of_continuedBy {chunk : DecodedPcmChunk} (hbase : base.fresh = base)
    (h : Packetized base p trace) (hchunk : trace.ContinuedBy base chunk) : p.Admits chunk := by
  have hcount : chunk.frameCount = base.frameCount chunk.frames := by
    rw [DecodedPcmChunk.frameCount, hchunk.format]
    rfl
  have hfits := hchunk.fits
  rw [← hcount] at hfits
  cases h with
  | idle hp =>
    subst hp
    refine ⟨?_, hchunk.format, hchunk.whole, fun next hmem => ?_, hfits⟩
    · rw [← hbase]
      rfl
    · rw [← hbase] at hmem
      cases hmem
  | streaming haccepted hopen hcarries hexpected =>
    have hformat : p.format = base.format := by rw [← hcarries.fresh]; rfl
    refine ⟨hcarries.unfinished, hchunk.format.trans hformat.symm, hformat ▸ hchunk.whole,
      fun next hmem => ?_, hfits⟩
    obtain rfl := Option.some.inj (hexpected.symm.trans hmem)
    rw [← hchunk.contiguous haccepted, UInt64.ofNat_toNat]
  | ended hended => cases hchunk.unended.symm.trans hended

end Packetized

/-- Every run keeps it. -/
theorem packetized_of_run {p : Packetizer} (hp : packetizer.init p)
    (chunks : List DecodedPcmChunk) :
    Packetized p (packetizer.after p chunks) (packetizerTrace p chunks) := by
  obtain ⟨_, _, _, _, _, hnew⟩ := hp
  exact Machine.invariant_record (I := Packetized p)
    (fun _ _ chunk h => h.next (fresh_of_new hnew) chunk) (.idle rfl rfl) chunks

namespace PacketizerScenario

def mono : AudioFormat := ⟨8000, 1, .pcmS16Le⟩

def created : Except PacketizerError Packetizer :=
  new ⟨"session-1", Scenario.valid_session⟩ ⟨"stream-1", Scenario.valid_stream⟩ mono 1 ⟨0⟩

/-- Eight samples in each packet. -/
def fresh : Packetizer := created.toOption.get (by decide +kernel)

theorem init_fresh : packetizer.init fresh :=
  ⟨_, _, _, _, _, Result.eq_ok_get (r := created) (by decide +kernel)⟩

/-- Eleven samples in two chunks. -/
def two : List DecodedPcmChunk :=
  [⟨mono, ⟨40⟩, [1, 2, 3, 4, 5], false⟩, ⟨mono, ⟨45⟩, [6, 7, 8, 9, 10, 11], true⟩]

/-- The same samples in one chunk, after one that is rejected. -/
def one : List DecodedPcmChunk :=
  [⟨{ mono with channels := 2 }, ⟨0⟩, [0, 0], false⟩,
    ⟨mono, ⟨40⟩, [1, 2, 3, 4, 5, 6, 7, 8, 9, 10, 11], true⟩]

end PacketizerScenario

end SilentDisco
