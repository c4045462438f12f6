import SilentDisco.Audio.Properties.Timeline
import SilentDisco.Desktop.Properties.Broadcast

/-!
# Sources of packets

The host starts a stream with the frames of a packetizer. Whatever a playlist's worker has sent is
such a source: its datagrams are numbered from zero, they have the times of their positions and
fit the wire, and only boundaries of tracks stand between them.

## Main results

* `playlist_packetized`: the frames of a playlist are those of a packet source
* `admitted_packets_fit`: the datagrams of every configuration are encoded
-/

namespace SilentDisco.Desktop

open Protocol Wire Packetizer

/-! ## Datagrams on the wire -/

theorem emits_putAudioPayload (payload : List UInt8) :
    Emits (putAudioPayload payload) (payload.length < 2 ^ 16) (2 + (4 + payload.length)) := by
  have hpayload : Emits (putAudioPayload payload) _ (2 + (4 + payload.length)) :=
    Emits.require fun _ => (emits_putU16 _).then ((emits_putU32 _).then (emits_putBytes le_rfl))
  refine hpayload.congr ?_
  rw [Result.check_eq_ok]
  simp only [and_true]

/-- The bytes of a datagram are those that the packetizer accounts for. -/
theorem emits_putAudio (packet : AudioDatagram) :
    Emits (putAudio packet)
      (validateAudioParameters packet = .ok () ∧ packet.payload.length < 2 ^ 16)
      (encodedBytes packet.sessionId packet.streamId packet.payload.length) := by
  have hfields := (emits_putIdentifierBytes "session_id" packet.sessionId).then <|
    (emits_putIdentifierBytes "stream_id" packet.streamId).then <|
    (emits_putU64 packet.sequence.get).then <|
    (emits_putU8 packet.codec.code).then <|
    (emits_putU32 packet.sampleRate).then <|
    (emits_putU16 packet.channels).then <|
    (emits_putU32 packet.samplesPerPacket).then <|
    (emits_putU64 packet.firstSampleIndex.get).then <|
    (emits_putU64 packet.hostPresentationTimeMs.get).then <|
    emits_putAudioPayload packet.payload
  have hpacket : Emits (putAudio packet) _ _ := Emits.require fun _ => hfields
  refine (hpacket.congr ?_).mono fun _ => ?_
  · simp only [true_and]
  · unfold encodedBytes fixedAudioDatagramFieldBytes identifierLengthPrefixBytes
    omega

/-- A datagram with valid parameters is encoded if it fits. -/
theorem isOk_encodeFrame_audio {packet : AudioDatagram}
    (hvalid : validateAudioParameters packet = .ok ())
    (hfits : encodedBytes packet.sessionId packet.streamId packet.payload.length ≤
      maxAudioDatagramBytes - frameHeaderBytes) :
    (encodeFrame (.audio packet)).isOk = true := by
  have hmaximum : maxAudioDatagramBytes - frameHeaderBytes < 2 ^ 16 := by decide
  have hlength : packet.payload.length ≤
      encodedBytes packet.sessionId packet.streamId packet.payload.length :=
    Nat.le_add_left _ _
  obtain ⟨bytes, hencode, hbytes⟩ := (emits_putAudio packet).encode_iff.mpr
    ⟨hvalid, (hlength.trans hfits).trans_lt hmaximum⟩
  have hle := hbytes.trans hfits
  have haudio : encodeAudio packet = .ok bytes := by
    simp only [encodeAudio, Result.bind_eq_ok, Result.rejectIf_eq_ok]
    exact ⟨bytes, hencode, (), Nat.not_lt.mpr hle, rfl⟩
  rw [isOk_encodeFrame_iff]
  refine ⟨_, encodeFrame_eq_ok.mpr ⟨bytes, flagPayloadIntegrity, ?_, hle, ?_, rfl⟩⟩
  · exact Result.map_eq_ok.mpr ⟨bytes, haudio, rfl⟩
  · exact hle.trans_lt (by decide)

/-! ## The datagrams of a packetizer -/

/-- The packetizer's datagrams fit the wire, and so does their format. -/
structure OnWire (p : Packetizer) : Prop where
  rate : 8000 ≤ p.format.sampleRateHz ∧ p.format.sampleRateHz ≤ 384000
  channels : p.format.channels ≤ 8
  fits : encodedBytes p.sessionId p.streamId
    (p.samplesPerPacket.toNat * p.format.samplesPerFrame * 2) ≤
      maxAudioDatagramBytes - frameHeaderBytes

section Datagrams

variable {p : Packetizer} {payload : List Int16} {n : ℕ}

/-- The datagrams of the stream are encoded. -/
theorem isOk_encodeFrame_of_builds (hwire : OnWire p) {packet : AudioDatagram}
    (hpacket : p.Builds packet) : (encodeFrame (.audio packet)).isOk = true := by
  obtain ⟨hsession, hstream, hrate, hchannels, hsamples, hpayload⟩ := hpacket
  have hchannel : 1 ≤ p.format.channels := UInt16.le_iff_toNat_le.mpr p.channels_pos
  have hsome : p.samplesPerPacket ≠ 0 := by
    intro hzero
    exact absurd p.samples_pos (by rw [hzero]; exact Nat.lt_irrefl 0)
  refine isOk_encodeFrame_audio ?_ ?_
  · unfold validateAudioParameters
    rw [hrate, hchannels, hsamples, if_neg (not_not.mpr hwire.rate),
      if_neg (not_not.mpr ⟨hchannel, hwire.channels⟩), if_neg hsome]
    exact if_neg (not_not.mpr hpayload.symm)
  · rw [hsession, hstream, hpayload]
    exact hwire.fits

/-- The packetizer's datagrams are packets of its stream. -/
theorem isPacket_datagram (hwire : OnWire p) {packet : AudioDatagram}
    (hlength : payload.length = p.samplesPerPacket.toNat * p.format.samplesPerFrame)
    (hindex : n * p.samplesPerPacket.toNat ≤ u64Max) {start : StreamStart}
    (hstart : start.sessionId = p.sessionId ∧ start.streamId = p.streamId ∧
      start.hostStartTimeMs = p.hostStartTimeMs ∧ start.sampleRate = p.format.sampleRateHz ∧
      start.samplesPerPacket = p.samplesPerPacket)
    (hpacket : p.datagram 0 n payload = .audio packet) : IsPacket start n 0 packet := by
  obtain ⟨hsession, hstream, htime, hrate, hsamples⟩ := hstart
  have hn : n ≤ u64Max := (Nat.le_mul_of_pos_right n p.samples_pos).trans hindex
  have hsequence : (UInt64.ofNat n).toNat = n :=
    UInt64.toNat_ofNat_of_lt' (Nat.lt_succ_of_le hn)
  cases hpacket
  refine ⟨hsession.symm, hstream.symm, hsequence, ?_, hsamples.symm, ?_, fun time => ?_⟩
  · rw [hsamples, Nat.zero_add]
    exact UInt64.toNat_ofNat_of_lt' (Nat.lt_succ_of_le hindex)
  · unfold packetTimeMs packetPositionMs
    rw [htime, hrate, hsamples, Nat.add_zero]
    change (UInt64.ofNat (min (_ + min ((_ * _ * 1000 + _) / _) u64Max) u64Max)).toNat = _
    rw [hsequence]
    refine (UInt64.toNat_ofNat_of_lt' (Nat.lt_succ_of_le (min_le_right _ u64Max))).trans ?_
    omega
  · refine isOk_encodeFrame_of_builds hwire ⟨rfl, rfl, rfl, rfl, rfl, ?_⟩
    rw [samplesPerFullPacket, ← hlength]
    exact length_flatMap_sampleBytes payload

end Datagrams

/-! ## The frames of a playlist -/

/-- A frame that a playlist's worker sends. -/
def IsPlaylistFrame : ProtocolFrame → Prop
  | .audio _ | .control (.trackBoundary _) => True
  | _ => False

/-- Datagrams in order, with boundaries between them. -/
theorem packetized_of_audio {start : StreamStart} {frames : List ProtocolFrame} {n : ℕ}
    (hkinds : ∀ frame ∈ frames, IsPlaylistFrame frame)
    (hpackets : ∀ i packet, (frames.filter ProtocolFrame.isAudio)[i]? = some (.audio packet) →
      IsPacket start (n + i) 0 packet) : Packetized start n frames := by
  induction frames generalizing n with
  | nil => trivial
  | cons frame frames ih =>
    have hrest := fun other hmem => hkinds other (List.mem_cons_of_mem frame hmem)
    have hfirst := hkinds frame List.mem_cons_self
    cases frame with
    | audio packet =>
      refine ⟨hpackets 0 packet rfl, ih hrest fun i later hlater => ?_⟩
      rw [Nat.add_right_comm, Nat.add_assoc]
      exact hpackets (i + 1) later hlater
    | control message =>
      cases message with
      | trackBoundary => exact ih hrest hpackets
      | _ => exact False.elim hfirst
    | _ => exact False.elim hfirst

theorem isPlaylistFrame_of_isAudio {frame : ProtocolFrame} (h : frame.isAudio = true) :
    IsPlaylistFrame frame := by
  cases frame with
  | audio => trivial
  | _ => cases h

/-- The worker sends only datagrams and boundaries. -/
theorem isPlaylistFrame_of_sent {base : Packetizer} {s : PlaylistSession} {h : PlaylistTimeline}
    {event : PlaylistEvent} {frame : ProtocolFrame} (hflows : s.Flows base h)
    (hsent : playlist.out s event = .sent frame) : IsPlaylistFrame frame := by
  have hstep : s.control.Step event (playlist.next s event).control (playlist.out s event) :=
    s.step_refines event
  rw [hsent] at hstep
  obtain ⟨rest, recorded, site, hphase⟩ := hstep.phase_of_sent
  have hpoint := hflows.at_phase hphase
  cases site with
  | boundary =>
    obtain ⟨-, -, -, -, boundary, hframe, -⟩ := hpoint
    rw [hframe]
    trivial
  | chunk =>
    exact isPlaylistFrame_of_isAudio (hpoint.2.2.2.1 frame List.mem_cons_self)
  | flush => exact isPlaylistFrame_of_isAudio (hpoint.2 frame List.mem_cons_self)

/-- A frame was sent before, or it is the one that a step sends. -/
theorem mem_sent_observe {h : PlaylistTimeline} {s : PlaylistSession} {event : PlaylistEvent}
    {output : PlaylistOutput} {frame : ProtocolFrame}
    (hmem : frame ∈ (h.observe s event output).sent) : frame ∈ h.sent ∨ output = .sent frame := by
  unfold PlaylistTimeline.observe at hmem
  split at hmem
  · obtain hmem | hmem := List.mem_append.mp hmem
    · exact .inl hmem
    · exact .inr (congrArg _ (List.mem_singleton.mp hmem).symm)
  · exact .inl hmem
  · split at hmem <;> exact .inl hmem

theorem onWire_of_new {sessionId : SessionId} {streamId : StreamId} {format : AudioFormat}
    {packetDurationMs : UInt32} {hostStartTimeMs : MonotonicMillis} {p : Packetizer}
    (hnew : new sessionId streamId format packetDurationMs hostStartTimeMs = .ok p)
    (hrate : 8000 ≤ format.sampleRateHz ∧ format.sampleRateHz ≤ 384000)
    (hchannels : format.channels ≤ 8) : OnWire p := by
  unfold new at hnew
  dsimp only at hnew
  split_ifs at hnew with _ _ _ _ _ hfits
  cases hnew
  exact ⟨hrate, hchannels, Nat.not_lt.mp hfits⟩

/-- **The frames of a playlist are those of a packet source**, for the start that was announced
when its worker was spawned. -/
theorem playlist_packetized {decoder : StreamingDecodeHandle}
    {currentEntryId currentDisplayName : String} {upcoming : List StreamingPlaylistTrackFactory}
    {sessionId : SessionId} {streamId : StreamId} {hostStartTimeMs : MonotonicMillis}
    {config : StreamingPacketizeConfig} {reserved : Bool} {start : StreamStart}
    {s : PlaylistSession} (hspawn : spawnPlaylist decoder currentEntryId currentDisplayName upcoming
      sessionId streamId hostStartTimeMs config reserved = .ok (start, s))
    (hrate : 8000 ≤ decoder.format.sampleRateHz ∧ decoder.format.sampleRateHz ≤ 384000)
    (hchannels : decoder.format.channels ≤ 8) {events : List PlaylistEvent}
    (hdecoder : playlist.Along ChunksHaveFormat s events)
    (hedits : playlist.Along EditsOpen s events) :
    Packetized start 0 (playlistTimeline s events).sent := by
  have hinit : playlist.init s := ⟨_, _, _, _, _, _, _, _, _, _, hspawn⟩
  obtain ⟨hstreams, hkinds⟩ : (playlist.after s events).Streams s.worker.packetizer
      (playlistTimeline s events) ∧
      ∀ frame ∈ (playlistTimeline s events).sent, IsPlaylistFrame frame := by
    refine Machine.Along.invariant_record
      (I := fun t h => t.Streams s.worker.packetizer h ∧ ∀ frame ∈ h.sent, IsPlaylistFrame frame) ?_
      ⟨streams_of_init hinit, fun _ hmem => absurd hmem List.not_mem_nil⟩ (hdecoder.and hedits)
    intro t h event ⟨hstreams, hkinds⟩ hevent
    refine ⟨streams_next t h event hstreams hevent, fun frame hmem => ?_⟩
    obtain hmem | hsent := mem_sent_observe hmem
    · exact hkinds frame hmem
    · exact isPlaylistFrame_of_sent hstreams.flows hsent
  obtain ⟨payloads, -, hpackets, -⟩ := (PlaylistTimeline.FlowsAt.started hstreams.flows).continues
  unfold spawnPlaylist at hspawn
  simp only [Result.bind_eq_ok, Result.mapError_eq_ok] at hspawn
  obtain ⟨_, -, _, -, _, -, packetizer, hnew, hpure⟩ := hspawn
  cases hpure
  refine packetized_of_audio hkinds fun i packet hpacket => ?_
  rw [Nat.zero_add]
  change (playlistTimeline _ events).audio[i]? = _ at hpacket
  rw [show (playlistTimeline _ events).audio = _ from hpackets.frames, List.getElem?_mapIdx,
    Option.map_eq_some_iff] at hpacket
  obtain ⟨payload, hpayload, hpacket⟩ := hpacket
  have hi : i < payloads.length := (List.getElem?_eq_some_iff.mp hpayload).1
  exact isPacket_datagram (onWire_of_new hnew hrate hchannels)
    (hpackets.width payload (List.mem_of_getElem? hpayload))
    ((Nat.zero_add _).symm.trans_le (hpackets.index i hi)) ⟨rfl, rfl, rfl, rfl, rfl⟩ hpacket

open PlaylistScenario in
theorem playlist_packetized_flushing :
    ∃ start, spawned = .ok (start, session) ∧
      Packetized start 0 (playlistTimeline session (flushing ++ leaving)).sent :=
  have hspawned := Result.eq_ok_get (r := spawned) (by decide +kernel)
  ⟨_, hspawned, playlist_packetized hspawned (by decide) (by decide) (by decide +kernel)
    (by decide +kernel)⟩

/-! ## The packets of every configuration -/

/-- The packetizer of one stream, to which chunks are pushed at their own position or at the end
of the timeline. -/
def packetizing : Machine Packetizer (Bool × DecodedPcmChunk)
    (Except PacketizerError PacketizeOutcome) where
  init := packetizer.init
  step p push := (if push.1 then p.pushContiguousChunk push.2 else p.pushChunk push.2).swap

/-- One push emits datagrams of the stream, and keeps it. -/
theorem push_emits {p q : Packetizer} (hq : ∀ frame, q.Emits frame ↔ p.Emits frame)
    (push : Bool × DecodedPcmChunk) :
    (∀ outcome, packetizing.out q push = .ok outcome → ∀ frame ∈ outcome.frames, p.Emits frame) ∧
      ∀ frame, (packetizing.next q push).Emits frame ↔ p.Emits frame := by
  obtain ⟨contiguous, chunk⟩ := push
  cases contiguous with
  | true =>
    refine ⟨fun outcome hout frame hmem => (hq frame).mp ?_, fun frame => ?_⟩
    · exact pushContiguousChunk_emits (Prod.ext hout rfl) frame hmem
    · exact (q.pushContiguousChunk_stream chunk frame).trans (hq frame)
  | false =>
    refine ⟨fun outcome hout frame hmem => (hq frame).mp ?_, fun frame => ?_⟩
    · exact pushChunk_emits (Prod.ext hout rfl) frame hmem
    · exact (q.pushChunk_stream chunk frame).trans (hq frame)

/-- **Admitted packets fit the wire.** Every datagram of a packetizer is encoded, if its format is
one of the wire, and a configuration whose full packets have valid parameters and yet are not
encoded is rejected: they are too long. -/
theorem admitted_packets_fit {sessionId : SessionId} {streamId : StreamId} {format : AudioFormat}
    (hrate : 8000 ≤ format.sampleRateHz ∧ format.sampleRateHz ≤ 384000)
    (hchannels : 1 ≤ format.channels ∧ format.channels ≤ 8) (packetDurationMs : UInt32)
    (hostStartTimeMs : MonotonicMillis) :
    (∀ p, Packetizer.new sessionId streamId format packetDurationMs hostStartTimeMs = .ok p →
      ∀ pushes outcome, .ok outcome ∈ packetizing.outputs p pushes →
        ∀ frame ∈ outcome.frames, (encodeFrame frame).isOk = true) ∧
    ∀ packet, packet.sessionId = sessionId → packet.streamId = streamId →
      packet.payload.length =
        (Packetizer.packetSamples format packetDurationMs).toNat * format.samplesPerFrame * 2 →
      validateAudioParameters packet = .ok () → (encodeFrame (.audio packet)).isOk = false →
      ∃ error, Packetizer.new sessionId streamId format packetDurationMs hostStartTimeMs =
        .error error := by
  constructor
  · intro p hnew pushes outcome hmem frame hframe
    obtain ⟨-, hemits⟩ := Machine.invariant_outputs (M := packetizing)
      (I := fun q outputs => (∀ frame, q.Emits frame ↔ p.Emits frame) ∧
        ∀ outcome, .ok outcome ∈ outputs → ∀ frame ∈ outcome.frames, p.Emits frame)
      (fun q outputs push h => ⟨(push_emits h.1 push).2, fun outcome hmem => by
        rcases List.mem_append.mp hmem with hold | hnew
        · exact h.2 outcome hold
        · exact (push_emits h.1 push).1 outcome (List.mem_singleton.mp hnew).symm⟩)
      ⟨fun _ => Iff.rfl, fun _ hmem => absurd hmem List.not_mem_nil⟩ pushes
    obtain ⟨packet, rfl, hbuilds⟩ := hemits outcome hmem frame hframe
    exact isOk_encodeFrame_of_builds (onWire_of_new hnew hrate hchannels.2) hbuilds
  · intro packet hsession hstream hpayload hvalid hrefused
    cases hnew : Packetizer.new sessionId streamId format packetDurationMs hostStartTimeMs with
    | error error => exact ⟨error, rfl⟩
    | ok =>
      unfold Packetizer.new at hnew
      dsimp only at hnew
      split_ifs at hnew with _ _ _ _ _ hlong
      -- The constructor accounts for at least the bytes that the encoder writes.
      have hok := isOk_encodeFrame_audio hvalid <| by
        rw [hsession, hstream, hpayload]
        exact not_lt.mp hlong
      rw [hok] at hrefused
      cases hrefused

open PacketizerScenario in
theorem admitted_packets_fit_mono :
    ∃ p, created = .ok p ∧ ∀ pushes outcome, .ok outcome ∈ packetizing.outputs p pushes →
      ∀ frame ∈ outcome.frames, (encodeFrame frame).isOk = true :=
  have hcreated := Result.eq_ok_get (r := created) (by decide +kernel)
  ⟨_, hcreated, (admitted_packets_fit (by decide) (by decide) _ _).1 _ hcreated⟩

end SilentDisco.Desktop
