import SilentDisco.Audio.Properties.Packetizer
import SilentDisco.Audio.Properties.Promotions

/-!
# The timeline of a playlist

The datagrams of the playlist worker carry the samples of its tracks one after the other, as one
stream: the carry of the packetizer crosses the boundaries between tracks, and a boundary is
announced before the first datagram with a sample of its track. The last samples of a track are
not lost when its successor is removed, and when it cannot be opened, unless the successor came
with an edit.

## Main definitions

* `PlaylistTimeline`: the samples that the worker was given, by track, and the frames it sent
* `PlaylistTimeline.Gapless`: the datagrams carry the samples, the boundaries are in place

## Main results

* `playlist_is_gapless`: the datagrams and boundaries of a run
-/

namespace SilentDisco

open Result Protocol Packetizer PlaylistUpdateState

/-- What a run of the worker was given, and what it sent. -/
structure PlaylistTimeline where
  /-- The samples of the tracks before the current one. -/
  earlier : List (List Int16) := []
  /-- The samples of the current track. -/
  current : List Int16 := []
  sent : List ProtocolFrame := []
  /-- The decoder of the current track ended well. -/
  ended : Bool := false
  /-- A frame was not sent because the worker was cancelled or nobody receives. -/
  cut : Bool := false

namespace PlaylistTimeline

/-- The samples of the promoted tracks, in order. -/
def samples (h : PlaylistTimeline) : List Int16 := h.earlier.flatten ++ h.current

/-- The audio datagrams that were sent. -/
def audio (h : PlaylistTimeline) : List ProtocolFrame := h.sent.filter ProtocolFrame.isAudio

/-- The track's decoder, joined after the last chunk, ended well. -/
def endedWell (decoderResult : Except DecodeError Unit) : Bool :=
  match mergeDecoderShutdownResult (.ok ()) decoderResult with
  | .ok () => true
  | .error _ => false

/-- What a step adds. -/
def observe (h : PlaylistTimeline) (s : PlaylistSession) (event : PlaylistEvent)
    (output : PlaylistOutput) : PlaylistTimeline :=
  match output with
  | .sent frame => { h with sent := h.sent ++ [frame] }
  | .promoted _ =>
    { h with earlier := h.earlier ++ [h.current], current := [], ended := false }
  | _ =>
    match event, s.worker.phase with
    | .received (.chunk chunk), .receive => { h with current := h.current ++ chunk.frames }
    | .joined decoderResult, .join (.ok ()) => { h with ended := endedWell decoderResult }
    | .attempted attempt, .send _ _ _ _ =>
      { h with cut := s.cancelled || decide (attempt = .disconnected) }
    | _, _ => h

variable (p : Packetizer)

/-- All samples were sent, followed by less than one packet of silence. -/
def Complete (h : PlaylistTimeline) : Prop :=
  ∃ payloads silence, p.Packets 0 h.audio payloads ∧ p.Silence silence ∧
    payloads.flatten = h.samples ++ silence

/-- The first samples were sent; silence at most follows all of them. -/
def Continues (h : PlaylistTimeline) : Prop :=
  ∃ payloads silence, p.Packets 0 h.audio payloads ∧ p.Silence silence ∧
    payloads.flatten <+: h.samples ++ silence

/-- The boundary starts after the frames of the earlier tracks, and no datagram sent so far has
a frame of the new track. -/
structure InPlace (h : PlaylistTimeline) (boundary : TrackBoundary) : Prop where
  first : boundary.firstSampleIndex.get.toNat = p.frameCount h.earlier.flatten
  before : ∀ datagram, .audio datagram ∈ h.sent →
    datagram.firstSampleIndex.get.toNat + p.samplesPerPacket.toNat ≤
      boundary.firstSampleIndex.get.toNat

/-- The datagrams carry the samples of the tracks, and boundaries are sent in place. A worker that
returned a summary has sent all samples, and so has one that stopped after the end of a track,
unless it was cut off: neither a successor that was removed nor one that cannot be opened costs
the last samples of a track. -/
structure Gapless (s : PlaylistSession) (h : PlaylistTimeline) : Prop where
  continues : h.Continues p
  boundary : ∀ event boundary, playlist.out s event = .sent (.control (.trackBoundary boundary)) →
    h.InPlace p boundary
  completed : ∀ summary, s.worker.phase = .exit (.ok summary) ∨
    s.worker.phase = .exited (.ok summary) → h.Complete p
  stopped : ∀ result, s.worker.phase = .exit result ∨ s.worker.phase = .exited result →
    h.ended = true → h.cut = false → h.Complete p

end PlaylistTimeline

/-- The timeline of a run. -/
def playlistTimeline (s : PlaylistSession) (events : List PlaylistEvent) : PlaylistTimeline :=
  playlist.record (fun h t event => h.observe t event (playlist.out t event)) {} s events

/-- The decoder's chunks have the format that it announced. -/
def ChunksHaveFormat (s : PlaylistSession) : PlaylistEvent → Prop
  | .received (.chunk chunk) =>
    s.worker.phase = .receive → chunk.format = s.worker.decoder.format
  | _ => True

/-- The first track of a list can be opened. -/
def HeadOpens : List StreamingPlaylistTrackFactory → Prop
  | [] => True
  | track :: _ => track.opened.isOk = true

/-- An edit starts with a track that can be opened. -/
def EditsOpen (s : PlaylistSession) : PlaylistEvent → Prop
  | .replaceUpcoming upcoming => HeadOpens (s.updates.withoutShadow upcoming)
  | _ => True

instance : (upcoming : List StreamingPlaylistTrackFactory) → Decidable (HeadOpens upcoming)
  | [] => isTrue trivial
  | track :: _ => inferInstanceAs (Decidable (track.opened.isOk = true))

instance (s : PlaylistSession) (event : PlaylistEvent) : Decidable (ChunksHaveFormat s event) := by
  unfold ChunksHaveFormat
  split <;> infer_instance

instance (s : PlaylistSession) : (event : PlaylistEvent) → Decidable (EditsOpen s event)
  | .replaceUpcoming _ => inferInstanceAs (Decidable (HeadOpens _))
  | .cancel | .work | .received _ | .attempted _ | .joined _ | .reserved _ => isTrue trivial

/-! ## What is packetized and sent -/

namespace PlaylistTimeline

variable {base p : Packetizer} {h : PlaylistTimeline} {ended : Bool} {frame : ProtocolFrame}

/-- Everything that the worker was given is packetized, and `frames` are left to be sent. -/
structure Sending (base : Packetizer) (h : PlaylistTimeline) (p : Packetizer) (ended : Bool)
    (frames : List ProtocolFrame) : Prop where
  packetized : base.StreamsTo ended h.samples p
  audio : h.audio ++ frames = base.datagrams 0 ended h.samples

/-- Everything is packetized except for a chunk, and everything else is sent. -/
structure Holding (base : Packetizer) (h : PlaylistTimeline) (p : Packetizer)
    (decoder : StreamingDecodeHandle) (chunk : DecodedPcmChunk) (pushed : List Int16) : Prop where
  samples : h.samples = pushed ++ chunk.frames
  packetized : base.Streams pushed p
  audio : h.audio = base.datagrams 0 false pushed
  format : chunk.format = decoder.format

/-- The frames that were sent are the first of those of the samples. -/
def Started (base : Packetizer) (h : PlaylistTimeline) : Prop :=
  ∃ ended pushed, pushed <+: h.samples ∧ (ended = true → pushed = h.samples) ∧
    base.format.samplesPerFrame ∣ pushed.length ∧ base.frameCount pushed ≤ u64Max ∧
    h.audio <+: base.datagrams 0 ended pushed

/-- The boundary of the current track, before its first chunk. -/
structure Announced (base : Packetizer) (h : PlaylistTimeline) (boundary : TrackBoundary) :
    Prop where
  first : boundary.firstSampleIndex.get.toNat = base.frameCount h.earlier.flatten
  current : h.current = []

/-- A track is packetized; it is final unless its successor is ready. -/
structure OnTrack (h : PlaylistTimeline) (next : Option StagedPlaylistTrack)
    (finalTrack : Bool) : Prop where
  running : h.ended = false
  final : finalTrack = (next.bind StagedPlaylistTrack.ready).isNone

/-- A track has ended. Unless the stream has ended with it, no successor has failed to open. -/
structure PastTrack (base : Packetizer) (h : PlaylistTimeline) (terminal : Bool)
    (w : PlaylistWorker) (ended : Bool) : Prop where
  sent : Sending base h w.packetizer ended []
  boundary : w.boundary = none
  format : w.decoder.format = base.format
  hadSuccessor : w.hadSuccessor = true
  closed : ended = true → terminal = true ∧
    ∃ staged error, w.next = some staged ∧ staged.opened = .error error
  opens : ended = false → w.next = none ∨ w.readyNext.isSome = true

/-- The control point is no part of what follows a track. -/
theorem PastTrack.moved {terminal : Bool} {w : PlaylistWorker}
    (hpast : PastTrack base h terminal w ended) (phase : WorkerPhase) :
    PastTrack base h terminal { w with phase } ended :=
  ⟨hpast.sent, hpast.boundary, hpast.format, hpast.hadSuccessor, hpast.closed, hpast.opens⟩

/-- What is packetized and sent at a control point. -/
def FlowsAt (base : Packetizer) (h : PlaylistTimeline) (terminal : Bool)
    (w : PlaylistWorker) : WorkerPhase → Prop
  | .start =>
    Sending base h w.packetizer false [] ∧ h.ended = false ∧
      ∀ b, w.boundary = some b → Announced base h b
  | .refresh .track | .apply .track | .receive =>
    Sending base h w.packetizer false [] ∧ OnTrack h w.next w.finalTrack ∧
      ∀ b, w.boundary = some b → Announced base h b
  | .refresh (.sealing chunk) | .apply (.sealing chunk) | .seal chunk =>
    (∃ pushed, Holding base h w.packetizer w.decoder chunk pushed) ∧ OnTrack h w.next w.finalTrack ∧
      w.boundary = none
  | .send frame rest _ (.boundary chunk) =>
    Holding base h w.packetizer w.decoder chunk h.earlier.flatten ∧ OnTrack h w.next w.finalTrack ∧
      w.boundary = none ∧ rest = [] ∧ ∃ b, frame = .control (.trackBoundary b) ∧
        b.firstSampleIndex.get.toNat = base.frameCount h.earlier.flatten
  | .send frame rest _ (.chunk inputFinished ended) =>
    Sending base h w.packetizer ended (frame :: rest) ∧ OnTrack h w.next w.finalTrack ∧
      w.boundary = none ∧
      (∀ sent ∈ frame :: rest, sent.isAudio = true) ∧ ended = (inputFinished && w.finalTrack) ∧
      (ended = true → terminal = true) ∧ w.decoder.format = base.format
  | .send frame rest _ .flush =>
    Sending base h w.packetizer true (frame :: rest) ∧ ∀ sent ∈ frame :: rest, sent.isAudio = true
  | .join (.ok ()) =>
    Sending base h w.packetizer w.finalTrack [] ∧ OnTrack h w.next w.finalTrack ∧
      w.boundary = none ∧
      (w.finalTrack = true → terminal = true) ∧ w.decoder.format = base.format
  | .refresh .promotion | .apply .promotion => ∃ ended, PastTrack base h terminal w ended
  | .promote track => PastTrack base h terminal w false ∧ w.readyNext = some track
  | .reserve b =>
    Sending base h w.packetizer false [] ∧ h.ended = false ∧ w.boundary = none ∧ Announced base h b
  | .join (.error _) | .abandon _ => Started base h ∧ h.ended = false
  | .exit (.ok _) | .exited (.ok _) => Sending base h w.packetizer true []
  | .exit (.error _) | .exited (.error _) =>
    Started base h ∧ (h.ended = true → h.cut = false → h.Complete base)

/-! ### From the frames that were built to those that were sent -/

theorem Sending.started {frames : List ProtocolFrame} (hs : Sending base h p ended frames) :
    Started base h :=
  ⟨ended, h.samples, List.prefix_rfl, fun _ => rfl, hs.packetized.whole, hs.packetized.fits,
    ⟨frames, hs.audio⟩⟩

theorem Holding.started {decoder : StreamingDecodeHandle} {chunk : DecodedPcmChunk}
    {pushed : List Int16} (hs : Holding base h p decoder chunk pushed) : Started base h :=
  ⟨false, pushed, ⟨chunk.frames, hs.samples.symm⟩, nofun, hs.packetized.carries.whole,
    hs.packetized.fits, ⟨[], by rw [List.append_nil, hs.audio]⟩⟩

/-- Once the stream has ended, all samples were sent. -/
theorem Sending.complete (hs : Sending base h p true []) : h.Complete base := by
  obtain ⟨silence, hsilence, hflatten⟩ := flatten_blocks_ended hs.packetized.whole
  have haudio := hs.audio
  rw [List.append_nil] at haudio
  refine ⟨_, silence, ?_, hsilence, hflatten⟩
  rw [haudio]
  exact packets_datagrams (Nat.zero_add _ ▸ hs.packetized.fits)

theorem Started.continues (hs : Started base h) : h.Continues base := by
  obtain ⟨ended, pushed, hpushed, hall, hwhole, hfits, haudio⟩ := hs
  obtain ⟨payloads, hinitial, hpackets⟩ :=
    packets_of_prefix (Nat.zero_add _ ▸ hfits) haudio
  cases ended with
  | true =>
    obtain ⟨silence, hsilence, hflatten⟩ := flatten_blocks_ended hwhole
    refine ⟨payloads, silence, hpackets, hsilence, ?_⟩
    rw [← hall rfl, ← hflatten]
    exact hinitial.flatten
  | false =>
    have hfull : (base.blocks false pushed).flatten <+: pushed :=
      ⟨_, Blocks.flatten_full base.samplesPerFullPacket pushed⟩
    refine ⟨payloads, [], hpackets, ⟨0, base.samples_pos, ?_⟩, ?_⟩
    · rw [Nat.zero_mul, List.replicate_zero]
    · rw [List.append_nil]
      exact (hinitial.flatten.trans hfull).trans hpushed

/-- A boundary that is sent before the first chunk of its track is in place. -/
theorem Holding.inPlace {decoder : StreamingDecodeHandle} {chunk : DecodedPcmChunk}
    {boundary : TrackBoundary} (hs : Holding base h p decoder chunk h.earlier.flatten)
    (hfirst : boundary.firstSampleIndex.get.toNat = base.frameCount h.earlier.flatten) :
    h.InPlace base boundary := by
  refine ⟨hfirst, fun datagram hmem => ?_⟩
  rw [hfirst]
  refine first_add_le_of_mem hs.packetized.fits ?_
  rw [← hs.audio]
  exact List.mem_filter.mpr ⟨hmem, rfl⟩

theorem audio_sent (haudio : frame.isAudio = true) :
    audio { h with sent := h.sent ++ [frame] } = h.audio ++ [frame] := by
  rw [audio, List.filter_append, List.filter_singleton, haudio]
  rfl

theorem audio_sent_boundary (boundary : TrackBoundary) :
    audio { h with sent := h.sent ++ [.control (.trackBoundary boundary)] } = h.audio :=
  (List.filter_append _ _).trans (List.append_nil _)

/-- A datagram that was sent is the first of those to be sent. -/
theorem Sending.sent {p : Packetizer} {rest : List ProtocolFrame}
    (hsending : Sending base h p ended (frame :: rest)) (haudio : frame.isAudio = true) :
    Sending base { h with sent := h.sent ++ [frame] } p ended rest := by
  refine ⟨hsending.packetized, ?_⟩
  rw [audio_sent haudio, List.append_assoc]
  exact hsending.audio

/-- What is cut off does not change what was sent. -/
theorem FlowsAt.of_cut {terminal : Bool} {w : PlaylistWorker} {rest : List ProtocolFrame}
    {recorded : Bool} {site : SendSite}
    (hflows : FlowsAt base h terminal w (.send frame rest recorded site)) (recorded' cut : Bool) :
    FlowsAt base { h with cut } terminal w (.send frame rest recorded' site) := by
  cases site with
  | boundary =>
    obtain ⟨⟨hsamples, hpacketized, haudio, hformat⟩, ⟨hrunning, hfinal⟩, hothers⟩ := hflows
    exact ⟨⟨hsamples, hpacketized, haudio, hformat⟩, ⟨hrunning, hfinal⟩, hothers⟩
  | chunk =>
    obtain ⟨⟨hpacketized, haudio⟩, ⟨hrunning, hfinal⟩, hothers⟩ := hflows
    exact ⟨⟨hpacketized, haudio⟩, ⟨hrunning, hfinal⟩, hothers⟩
  | flush =>
    obtain ⟨⟨hpacketized, haudio⟩, hothers⟩ := hflows
    exact ⟨⟨hpacketized, haudio⟩, hothers⟩

end PlaylistTimeline

/-! ## The worker's local computations -/

namespace PlaylistWorker

open PlaylistTimeline

variable {base : Packetizer} {h : PlaylistTimeline} {terminal : Bool}
  {w : PlaylistWorker} {chunk : DecodedPcmChunk} {pushed : List Int16}

/-- What is packetized and sent at the worker's own control point. -/
def Flows (base : Packetizer) (h : PlaylistTimeline) (terminal : Bool)
    (w : PlaylistWorker) : Prop := FlowsAt base h terminal w w.phase

theorem chunkSent_flows {inputFinished ended : Bool} (hsent : Sending base h w.packetizer ended [])
    (htrack : OnTrack h w.next w.finalTrack) (hboundary : w.boundary = none)
    (hended : ended = (inputFinished && w.finalTrack))
    (hclosed : ended = true → terminal = true)
    (hformat : w.decoder.format = base.format) :
    Flows base h terminal (w.chunkSent inputFinished ended) := by
  unfold chunkSent
  cases inputFinished with
  | false =>
    rw [Bool.false_and] at hended
    subst hended
    refine ⟨hsent, htrack, fun b hb => ?_⟩
    cases hboundary.symm.trans hb
  | true =>
    rw [Bool.true_and] at hended
    subst hended
    rw [if_pos rfl, Bool.and_not_self, if_neg Bool.false_ne_true]
    exact ⟨hsent, htrack, hboundary, hclosed, hformat⟩

theorem pushChunk_flows (hhold : Holding base h w.packetizer w.decoder chunk pushed)
    (htrack : OnTrack h w.next w.finalTrack) (hboundary : w.boundary = none)
    (hclosed : (chunk.endOfStream && w.finalTrack) = true → terminal = true) :
    Flows base h terminal (w.pushChunk chunk) := by
  unfold pushChunk
  by_cases hadmits : w.packetizer.AdmitsNext
      { chunk with endOfStream := chunk.endOfStream && w.finalTrack }
  · obtain ⟨outcome, q, hpush, hended, hframes, hstreams⟩ := hhold.packetized.push hadmits
    have haudio := pushContiguousChunk_isAudio hpush
    have hformat : w.decoder.format = base.format :=
      hhold.format.symm.trans (hadmits.format.trans hhold.packetized.format)
    rw [← hhold.audio, ← hhold.samples] at hframes
    rw [← hhold.samples] at hstreams
    simp only [hpush, hended]
    cases hout : outcome.frames with
    | nil =>
      rw [hout] at hframes
      exact chunkSent_flows (w := { w with packetizer := q }) ⟨hstreams, hframes⟩ htrack hboundary
        rfl hclosed hformat
    | cons =>
      rw [hout] at hframes haudio
      exact ⟨⟨hstreams, hframes⟩, htrack, hboundary,
        haudio, rfl, hclosed, hformat⟩
  · obtain ⟨error, herror⟩ := pushContiguousChunk_of_not_admits hadmits
    rw [herror]
    exact ⟨hhold.started, htrack.running⟩

theorem chunkAnnounced_flows (hhold : Holding base h w.packetizer w.decoder chunk pushed)
    (htrack : OnTrack h w.next w.finalTrack)
    (hboundary : w.boundary = none) : Flows base h terminal (w.chunkAnnounced chunk) := by
  unfold chunkAnnounced
  split_ifs with hclosing
  · exact ⟨⟨pushed, hhold⟩, htrack, hboundary⟩
  · exact pushChunk_flows hhold htrack hboundary fun hfinal => absurd hfinal hclosing

/-- The flush ends the stream with what is carried. -/
theorem flush_flows (hpast : PastTrack base h terminal w false) :
    Flows base h terminal w.flush := by
  have hstreams := hpast.sent.packetized.streams rfl
  have hadmits : w.packetizer.AdmitsNext w.flushChunk :=
    ⟨hstreams.carries.unfinished, hpast.format.trans hstreams.format.symm, dvd_zero _, by
      rw [DecodedPcmChunk.frameCount, flushChunk, List.length_nil, Nat.zero_div, Nat.add_zero]
      exact Nat.le_of_lt_succ w.packetizer.contiguousSampleCursor.toNat_lt⟩
  obtain ⟨outcome, q, hpush, hended, hframes, hended'⟩ := hstreams.push hadmits
  have haudio := pushContiguousChunk_isAudio hpush
  have hsent := hpast.sent.audio
  rw [List.append_nil] at hsent
  change _ = base.datagrams 0 true (h.samples ++ []) at hframes
  change base.StreamsTo true (h.samples ++ []) q at hended'
  rw [List.append_nil, ← hsent] at hframes
  rw [List.append_nil] at hended'
  unfold flush
  rw [hstreams.carries.unfinished, if_neg Bool.false_ne_true]
  simp only [hpush]
  cases hout : outcome.frames with
  | nil =>
    rw [hout] at hframes
    exact ⟨hended', hframes⟩
  | cons =>
    rw [hout] at hframes haudio
    exact ⟨⟨hended', hframes⟩, haudio⟩

/-- After a track: its successor is promoted, or everything is sent. -/
theorem proceed_flows {ended : Bool} (hpast : PastTrack base h terminal w ended) :
    Flows base h terminal w.proceed := by
  unfold proceed
  cases hnext : w.next with
  | none =>
    cases ended with
    | true =>
      obtain ⟨-, staged, error, hsome, -⟩ := hpast.closed rfl
      cases hnext.symm.trans hsome
    | false =>
      dsimp only
      rw [hpast.hadSuccessor, if_pos rfl]
      exact flush_flows hpast
  | some staged =>
    cases hopened : staged.opened with
    | ok decoder =>
      simp only [hopened]
      cases ended with
      | true =>
        obtain ⟨-, failed, error, hsome, hfailed⟩ := hpast.closed rfl
        obtain rfl := Option.some.inj (hnext.symm.trans hsome)
        cases hopened.symm.trans hfailed
      | false =>
        have hready : (some staged).bind StagedPlaylistTrack.ready =
            some ⟨staged.entryId, staged.displayName, decoder⟩ := by
          rw [Option.bind_some, StagedPlaylistTrack.ready, hopened]
        exact ⟨⟨hpast.sent, hpast.boundary, hpast.format,
          hpast.hadSuccessor, nofun, fun _ => .inr (congrArg Option.isSome hready)⟩, hready⟩
    | error =>
      simp only [hopened]
      cases ended with
      | true => exact ⟨hpast.sent.started, fun _ _ => hpast.sent.complete⟩
      | false =>
        -- A successor that an edit brought is open.
        have hnone : w.readyNext = none := by
          rw [readyNext, hnext, Option.bind_some, StagedPlaylistTrack.ready, hopened]
        rcases hpast.opens rfl with hempty | hready
        · cases hnext.symm.trans hempty
        · rw [hnone] at hready
          cases hready

/-- The end of a track. -/
theorem endTrack_flows (hsent : Sending base h w.packetizer w.finalTrack [])
    (hready : w.finalTrack = w.readyNext.isNone) (hboundary : w.boundary = none)
    (hclosed : w.finalTrack = true → terminal = true)
    (hformat : w.decoder.format = base.format) : Flows base h terminal w.endTrack := by
  unfold endTrack
  cases hnext : w.next with
  | none =>
    have hfinal : w.finalTrack = true := by
      rw [hready, readyNext, hnext]
      rfl
    rw [hfinal] at hsent
    simp only [Option.isSome_none, proceed, Bool.false_eq_true, if_false]
    exact hsent
  | some staged =>
    refine ⟨w.finalTrack, hsent, hboundary, hformat, rfl, fun hfinal => ?_,
      fun hopen => .inr ?_⟩
    · refine ⟨hclosed hfinal, staged, ?_⟩
      rw [hready, readyNext, hnext, Option.bind_some, StagedPlaylistTrack.ready] at hfinal
      cases hopened : staged.opened with
      | ok =>
        rw [hopened] at hfinal
        cases hfinal
      | error error => exact ⟨error, rfl, rfl⟩
    · rw [hready, readyNext, hnext] at hopen
      exact Option.isNone_eq_false_iff.mp hopen

/-! ### Retargeting -/

/-- A track that is retargeted to a list keeps everything but the tracks to come. -/
theorem retarget_eq (w : PlaylistWorker) (upcoming : List StreamingPlaylistTrackFactory) :
    ∃ next rest, w.retarget upcoming =
      { w with next, upcoming := rest, finalTrack := next.isNone } := by
  unfold retarget restage openNextTrack
  split_ifs
  · exact ⟨_, _, rfl⟩
  · split <;> exact ⟨_, _, rfl⟩

theorem begin_eq (w : PlaylistWorker) (upcoming : List StreamingPlaylistTrackFactory) :
    ∃ next rest, w.begin upcoming =
      { w with
        next
        upcoming := rest
        finalTrack := (next.bind StagedPlaylistTrack.ready).isNone
        phase := .refresh .track } := by
  unfold PlaylistWorker.begin openNextTrack
  split <;> exact ⟨_, _, rfl⟩

theorem readyNext_of_keeps (h : w.keepsSuccessor = true) : w.readyNext.isSome = true := by
  unfold keepsSuccessor at h
  split at h
  · next ready _ _ hready _ =>
    rw [hready]
    rfl
  · cases h

/-- A list whose first track opens leaves no successor that failed to open. -/
theorem retarget_opens {upcoming : List StreamingPlaylistTrackFactory} (h : HeadOpens upcoming) :
    (w.retarget upcoming).next = none ∨ (w.retarget upcoming).readyNext.isSome = true := by
  unfold retarget restage
  split_ifs with hkeeps
  · have hready : ({ w with upcoming } : PlaylistWorker).readyNext.isSome = true :=
      readyNext_of_keeps hkeeps
    exact .inr hready
  · cases upcoming with
    | nil => exact .inl rfl
    | cons track =>
      refine .inr ?_
      change (StagedPlaylistTrack.ready ⟨track.entryId, track.displayName, track.opened⟩).isSome = _
      change track.opened.isOk = true at h
      rw [StagedPlaylistTrack.ready]
      cases hopened : track.opened with
      | ok => rfl
      | error =>
        rw [hopened] at h
        cases h

/-- Going on after a look for an edit. -/
theorem resume_flows {site : RefreshSite} (hflows : FlowsAt base h terminal w (.refresh site)) :
    Flows base h terminal (w.resume site) := by
  cases site with
  | track => exact hflows
  | sealing =>
    obtain ⟨⟨pushed, hhold⟩, htrack, hboundary⟩ := hflows
    unfold resume
    split_ifs with hfinal
    · exact ⟨⟨pushed, hhold⟩, htrack, hboundary⟩
    · refine pushChunk_flows hhold htrack hboundary fun hlast => absurd ?_ hfinal
      exact (Bool.and_eq_true_iff.mp hlast).2
  | promotion =>
    obtain ⟨ended, hpast⟩ := hflows
    exact proceed_flows hpast

/-- An edit whose first track opens leaves everything but the tracks to come. -/
theorem retarget_flows {site : RefreshSite} {upcoming : List StreamingPlaylistTrackFactory}
    {terminal' : Bool} (hopens : HeadOpens upcoming)
    (hterminal : terminal = false)
    (hflows : FlowsAt base h terminal w (.apply site)) :
    FlowsAt base h terminal' (w.retarget upcoming) (.refresh site) := by
  have hready := retarget_opens (w := w) hopens
  obtain ⟨next, rest, heq⟩ := w.retarget_eq upcoming
  rw [heq] at hready ⊢
  have hfinal : next.isNone = (next.bind StagedPlaylistTrack.ready).isNone := by
    rcases hready with hnone | hsome
    · change next = none at hnone
      rw [hnone]
      rfl
    · obtain ⟨ready, hbind⟩ := Option.isSome_iff_exists.mp hsome
      obtain ⟨staged, hnext, -⟩ := Option.bind_eq_some_iff.mp hbind
      change next = some staged at hnext
      change next.bind StagedPlaylistTrack.ready = some ready at hbind
      rw [hbind, hnext]
      rfl
  cases site with
  | track | sealing => exact ⟨hflows.1, ⟨hflows.2.1.running, hfinal⟩, hflows.2.2⟩
  | promotion =>
    obtain ⟨ended, hpast⟩ := hflows
    obtain rfl : ended = false := by
      refine eq_false_of_ne_true fun hended => ?_
      cases hterminal.symm.trans (hpast.closed hended).1
    exact ⟨false, hpast.sent, hpast.boundary, hpast.format, hpast.hadSuccessor, nofun,
      fun _ => hready⟩

end PlaylistWorker

/-! ## Steps of the session -/

namespace PlaylistSession

open PlaylistTimeline PlaylistControl PlaylistWorker

variable {base : Packetizer} {h : PlaylistTimeline} {s : PlaylistSession} {frame : ProtocolFrame}
  {rest : List ProtocolFrame} {recorded : Bool} {site : SendSite}

/-- What is packetized and sent. -/
def Flows (base : Packetizer) (h : PlaylistTimeline) (s : PlaylistSession) : Prop :=
  s.worker.Flows base h s.updates.terminal

/-- A step after which it still is. -/
def FlowsThrough (base : Packetizer) (h : PlaylistTimeline) (s : PlaylistSession)
    (event : PlaylistEvent) (result : PlaylistSession × PlaylistOutput) : Prop :=
  result.1.Flows base (h.observe s event result.2)

theorem Flows.at_phase {phase : WorkerPhase} (hflows : s.Flows base h)
    (hphase : s.worker.phase = phase) : FlowsAt base h s.updates.terminal s.worker phase := by
  unfold Flows PlaylistWorker.Flows at hflows
  rwa [hphase] at hflows

theorem goOn_flows {event : PlaylistEvent} {w : PlaylistWorker} {observed : PlaylistTimeline}
    (hobserve : h.observe s event .silent = observed)
    (hflows : w.Flows base observed s.updates.terminal) :
    s.FlowsThrough base h event (s.goOn w) := by
  rw [← hobserve] at hflows
  exact hflows

theorem takeUpdate_flows {fail : PacketizerWorkerError → PlaylistWorker}
    {succeed : List StreamingPlaylistTrackFactory → PlaylistWorker}
    (hfail : ∀ replacement error, s.updates.pending = some replacement →
      s.updates.validatePlaylistUpdate replacement ≠ .ok () →
      (fail error).Flows base h s.updates.terminal)
    (hsucceed : ∀ upcoming updates output,
      Takes s.updates s.worker.upcoming upcoming updates output →
      (succeed upcoming).Flows base h updates.terminal) :
    s.FlowsThrough base h .work (s.takeUpdate fail succeed) := by
  rcases s.takeUpdate_cases fail succeed with
    ⟨upcoming, updates, output, htakes, heq⟩ | ⟨replacement, error, hpending, hinvalid, heq⟩
  · have hflows := hsucceed upcoming updates output htakes
    rw [heq]
    cases htakes <;> exact hflows
  · rw [heq]
    exact hfail replacement error hpending hinvalid

theorem beginTrack_flows (hphase : s.worker.phase = .start) (hflows : s.Flows base h) :
    s.FlowsThrough base h .work s.beginTrack := by
  obtain ⟨hsent, hrunning, hboundary⟩ := hflows.at_phase hphase
  have hfails : ∀ error, (s.worker.failWorker error).Flows base h s.updates.terminal :=
    fun _ => ⟨hsent.started, fun hended => by cases hrunning.symm.trans hended⟩
  unfold beginTrack
  split_ifs
  · exact hfails workerCancelled
  · refine takeUpdate_flows (fun _ error _ _ => hfails error) fun upcoming updates _ _ => ?_
    obtain ⟨next, rest, hbegin⟩ := s.worker.begin_eq upcoming
    rw [hbegin]
    exact ⟨hsent, ⟨hrunning, rfl⟩, hboundary⟩

theorem refresh_flows {site : RefreshSite} (hphase : s.worker.phase = .refresh site)
    (hflows : s.Flows base h) : s.FlowsThrough base h .work (s.refresh site) := by
  have hpoint := hflows.at_phase hphase
  unfold refresh
  split_ifs with hcancelled hpending
  · obtain ⟨rfl, -⟩ := hcancelled
    exact ⟨hpoint.1.started, hpoint.2.1.running⟩
  · cases site with
    | track | sealing => exact hpoint
    | promotion =>
      obtain ⟨ended, hpast⟩ := hpoint
      exact ⟨ended, hpast.moved _⟩
  · exact resume_flows hpoint

theorem applyUpdate_flows {site : RefreshSite} (hphase : s.worker.phase = .apply site)
    (hsound : s.control.Sound) (hfresh : s.control.Fresh)
    (hopens : ∀ edit, s.updates.pending = some edit → HeadOpens edit)
    (hflows : s.Flows base h) : s.FlowsThrough base h .work (s.applyUpdate site) := by
  have hpoint := hflows.at_phase hphase
  refine takeUpdate_flows (fun replacement error hpending hinvalid => ?_)
    fun upcoming updates output htakes => ?_
  · -- A pending edit stays valid.
    exact absurd (hfresh.pending replacement hpending) hinvalid
  · cases htakes with
    | nothing hpending =>
      have happly := hsound.point
      change SoundAt _ s.worker.phase at happly
      rw [hphase] at happly
      cases site with
      | track | sealing => exact absurd hpending happly.2
      | promotion => exact absurd hpending happly
    | edit replacement hpending =>
      have hterminal : s.updates.terminal = false := by
        refine eq_false_of_ne_true fun hclosed => ?_
        cases (hsound.closed hclosed).symm.trans hpending
      exact resume_flows (retarget_flows (hopens upcoming hpending) hterminal hpoint)

theorem receive_flows (hphase : s.worker.phase = .receive) (result : Received)
    (hformat : ChunksHaveFormat s (.received result)) (hflows : s.Flows base h) :
    s.FlowsThrough base h (.received result) (s.receive result) := by
  obtain ⟨hsent, htrack, hboundary⟩ := hflows.at_phase hphase
  cases result with
  | timeout => exact ⟨hsent, htrack, hboundary⟩
  | disconnected => exact ⟨hsent.started, htrack.running⟩
  | chunk chunk =>
    let received : PlaylistTimeline := { h with current := h.current ++ chunk.frames }
    have hobserve : h.observe s (.received (.chunk chunk)) .silent = received := by
      unfold observe
      rw [hphase]
    have hsamples : received.samples = h.samples ++ chunk.frames :=
      (List.append_assoc _ _ _).symm
    have haudio : received.audio = base.datagrams 0 false h.samples :=
      (List.append_nil _).symm.trans hsent.audio
    have hhold : Holding base received s.worker.packetizer s.worker.decoder chunk h.samples :=
      ⟨hsamples, hsent.packetized.streams rfl, haudio, hformat hphase⟩
    have hon : OnTrack received s.worker.next s.worker.finalTrack := ⟨htrack.running, htrack.final⟩
    unfold receive
    dsimp only
    cases hnext : s.worker.boundary with
    | none => exact goOn_flows hobserve (chunkAnnounced_flows hhold hon hnext)
    | some boundary =>
      refine goOn_flows hobserve ?_
      have hannounced := hboundary boundary hnext
      have hearlier : h.samples = received.earlier.flatten := by
        rw [samples, hannounced.current, List.append_nil]
      exact ⟨hearlier ▸ hhold, hon, rfl, rfl, boundary, rfl, hannounced.first⟩

theorem sealTrack_flows {chunk : DecodedPcmChunk} (hphase : s.worker.phase = .seal chunk)
    (hflows : s.Flows base h) : s.FlowsThrough base h .work (s.sealTrack chunk) := by
  obtain ⟨⟨pushed, hhold⟩, htrack, hboundary⟩ := hflows.at_phase hphase
  unfold sealTrack sealFinalTrackIfUnmodified
  split_ifs
  · exact ⟨⟨pushed, hhold⟩, htrack, hboundary⟩
  · exact pushChunk_flows hhold htrack hboundary fun _ => rfl

theorem countBackpressure_eq (w : PlaylistWorker) (recorded : Bool) :
    ∃ backpressureEvents, w.countBackpressure recorded = { w with backpressureEvents } := by
  unfold countBackpressure
  split_ifs <;> exact ⟨_, rfl⟩

theorem countSent_eq (w : PlaylistWorker) (frame : ProtocolFrame) :
    ∃ emittedPackets, w.countSent frame = { w with emittedPackets } := by
  unfold countSent
  split <;> exact ⟨_, rfl⟩

theorem frameSent_flows (hphase : s.worker.phase = .send frame rest recorded site)
    (event : PlaylistEvent) (hflows : s.Flows base h) :
    s.FlowsThrough base h event (s.frameSent frame rest site) := by
  obtain ⟨emittedPackets, hcount⟩ := countSent_eq s.worker frame
  unfold FlowsThrough frameSent
  rw [hcount]
  cases site with
  | boundary =>
    obtain ⟨hhold, htrack, hboundary, rfl, boundary, rfl, hfirst⟩ := hflows.at_phase hphase
    have haudio := (audio_sent_boundary boundary).trans hhold.audio
    exact chunkAnnounced_flows (w := { s.worker with emittedPackets })
      ⟨hhold.samples, hhold.packetized, haudio, hhold.format⟩ ⟨htrack.running, htrack.final⟩
      hboundary
  | chunk =>
    obtain ⟨hsending, htrack, hboundary, haudio, hended, hclosed, hformat⟩ :=
      hflows.at_phase hphase
    obtain ⟨hframe, hrest⟩ := List.forall_mem_cons.mp haudio
    have hsent := hsending.sent hframe
    cases rest with
    | nil =>
      exact chunkSent_flows (w := { s.worker with emittedPackets }) hsent
        ⟨htrack.running, htrack.final⟩ hboundary hended hclosed hformat
    | cons =>
      exact ⟨hsent, ⟨htrack.running, htrack.final⟩, hboundary, hrest, hended, hclosed, hformat⟩
  | flush =>
    obtain ⟨hsending, haudio⟩ := hflows.at_phase hphase
    obtain ⟨hframe, hrest⟩ := List.forall_mem_cons.mp haudio
    have hsent := hsending.sent hframe
    cases rest with
    | nil => exact hsent
    | cons => exact ⟨hsent, hrest⟩

/-- A worker that was cut off. -/
theorem failSend_flows {terminal : Bool} {w : PlaylistWorker}
    (hflows : FlowsAt base h terminal w (.send frame rest recorded site)) (hcut : h.cut = true)
    (error : PacketizerWorkerError) : (w.failSend error site).Flows base h terminal := by
  cases site with
  | boundary | chunk => exact ⟨hflows.1.started, hflows.2.1.running⟩
  | flush =>
    refine ⟨hflows.1.started, fun _ huncut => ?_⟩
    cases hcut.symm.trans huncut

theorem send_flows (hphase : s.worker.phase = .send frame rest recorded site)
    (attempt : SendAttempt) (hflows : s.Flows base h) :
    s.FlowsThrough base h (.attempted attempt) (s.send frame rest recorded site attempt) := by
  have hpoint := hflows.at_phase hphase
  have hobserve : h.observe s (.attempted attempt) .silent =
      { h with cut := s.cancelled || decide (attempt = .disconnected) } := by
    unfold observe
    rw [hphase]
  unfold PlaylistSession.send
  split_ifs with hcancelled
  · refine goOn_flows hobserve (failSend_flows (hpoint.of_cut recorded _) ?_ workerCancelled)
    rw [hcancelled, Bool.true_or]
  · cases attempt with
    | unreserved =>
      obtain ⟨backpressureEvents, hcount⟩ := countBackpressure_eq s.worker recorded
      refine goOn_flows hobserve ?_
      rw [hcount]
      cases site <;> exact hpoint.of_cut true _
    | full =>
      have hsame := hpoint.of_cut recorded
        (s.cancelled || decide (SendAttempt.full = .disconnected))
      rw [← hphase] at hsame
      exact goOn_flows hobserve hsame
    | disconnected =>
      exact goOn_flows hobserve (failSend_flows (hpoint.of_cut recorded _) (Bool.or_true _) _)
    | sent => exact frameSent_flows hphase _ hflows

theorem joinTrack_flows {result : Except PacketizerWorkerError Unit}
    (hphase : s.worker.phase = .join result) (decoderResult : Except DecodeError Unit)
    (hflows : s.Flows base h) :
    s.FlowsThrough base h (.joined decoderResult) (s.joinTrack result decoderResult) := by
  have hpoint := hflows.at_phase hphase
  unfold joinTrack
  cases result with
  | ok =>
    obtain ⟨⟨hpacketized, haudio⟩, htrack, hboundary, hclosed, hformat⟩ := hpoint
    have hobserve : h.observe s (.joined decoderResult) .silent =
        { h with ended := endedWell decoderResult } := by
      unfold observe
      rw [hphase]
    have hsent : Sending base { h with ended := endedWell decoderResult } s.worker.packetizer
        s.worker.finalTrack [] := ⟨hpacketized, haudio⟩
    cases hmerged : mergeDecoderShutdownResult (.ok ()) decoderResult with
    | ok => exact goOn_flows hobserve (endTrack_flows hsent htrack.final hboundary hclosed hformat)
    | error =>
      have hbad : endedWell decoderResult = false := by rw [endedWell, hmerged]
      exact goOn_flows hobserve ⟨hsent.started, fun hended => by cases hbad.symm.trans hended⟩
  | error failure =>
    obtain ⟨merged, hmerged⟩ := merge_error failure decoderResult
    have hobserve : h.observe s (.joined decoderResult) .silent = h := by
      unfold observe
      rw [hphase]
    rw [hmerged]
    exact goOn_flows hobserve ⟨hpoint.1, fun hended => by cases hpoint.2.symm.trans hended⟩

theorem promote_flows {track : ReadyTrack} (hphase : s.worker.phase = .promote track)
    (hflows : s.Flows base h) : s.FlowsThrough base h .work (s.promote track) := by
  obtain ⟨hpast, hready⟩ := hflows.at_phase hphase
  unfold promote promoteCurrentEntryIfUnmodified
  by_cases hpending : s.updates.pending.isSome = true
  · rw [if_pos hpending]
    exact ⟨false, hpast.moved _⟩
  · rw [if_neg hpending]
    let promoted : PlaylistTimeline :=
      { h with earlier := h.earlier ++ [h.current], current := [], ended := false }
    have hsamples : promoted.samples = h.samples := by
      change (h.earlier ++ [h.current]).flatten ++ [] = _
      rw [List.append_nil, List.flatten_append, List.flatten_singleton]
      rfl
    have hsent : Sending base promoted s.worker.packetizer false [] := by
      refine ⟨hsamples ▸ hpast.sent.packetized, ?_⟩
      rw [hsamples]
      exact hpast.sent.audio
    have hannounced : Announced base promoted (s.worker.committedBoundary track) := by
      refine ⟨?_, rfl⟩
      have hcount : h.samples = promoted.earlier.flatten := by
        rw [← hsamples, samples, List.append_nil]
      rw [← hcount]
      exact (hpast.sent.packetized.streams rfl).cursor_toNat
    change PlaylistWorker.Flows base promoted s.updates.terminal (if s.reserved then _ else _)
    split_ifs
    · exact ⟨hsent, rfl, hpast.boundary, hannounced⟩
    · refine ⟨hsent, rfl, fun b hb => ?_⟩
      obtain rfl := Option.some.inj hb
      exact hannounced

theorem reserve_flows {boundary : TrackBoundary} (hphase : s.worker.phase = .reserve boundary)
    (result : Except PacketizerWorkerError Unit) (hflows : s.Flows base h) :
    s.FlowsThrough base h (.reserved result) (s.reserve boundary result) := by
  obtain ⟨hsent, hrunning, hboundary, hannounced⟩ := hflows.at_phase hphase
  cases result with
  | ok =>
    refine ⟨hsent, hrunning, fun b hb => ?_⟩
    obtain rfl := Option.some.inj hb
    exact hannounced
  | error => exact ⟨hsent.started, hrunning⟩

theorem abandon_flows {error : PacketizerWorkerError} (hphase : s.worker.phase = .abandon error)
    (decoderResult : Except DecodeError Unit) (hflows : s.Flows base h) :
    s.FlowsThrough base h (.joined decoderResult) (s.abandon error decoderResult) := by
  obtain ⟨hstarted, hrunning⟩ := hflows.at_phase hphase
  obtain ⟨merged, hmerged⟩ := merge_error error decoderResult
  have hobserve : h.observe s (.joined decoderResult) .silent = h := by
    unfold observe
    rw [hphase]
  unfold abandon
  rw [hmerged]
  exact goOn_flows hobserve ⟨hstarted, fun hended => by cases hrunning.symm.trans hended⟩

theorem leave_flows {result : Except PacketizerWorkerError PacketizerSummary}
    (hphase : s.worker.phase = .exit result) (hflows : s.Flows base h) :
    s.FlowsThrough base h .work (s.leave result) := by
  have hpoint := hflows.at_phase hphase
  cases result with
  | ok | error => exact hpoint

/-- An edit is left for the worker. -/
theorem replaceUpcoming_flows (upcoming : List StreamingPlaylistTrackFactory)
    (hflows : s.Flows base h) :
    s.FlowsThrough base h (.replaceUpcoming upcoming)
      ({ s with updates := (s.updates.replaceUpcoming upcoming).2 },
        .answered (s.updates.replaceUpcoming upcoming).1) := by
  have hterminal : (s.updates.replaceUpcoming upcoming).2.terminal = s.updates.terminal := by
    unfold replaceUpcoming
    split_ifs
    · rfl
    · split <;> rfl
  change PlaylistWorker.Flows base h _ s.worker
  rw [hterminal]
  exact hflows

theorem step_flows (event : PlaylistEvent) (hsound : s.control.Sound) (hfresh : s.control.Fresh)
    (hopens : ∀ edit, s.updates.pending = some edit → HeadOpens edit)
    (hformat : ChunksHaveFormat s event) (hflows : s.Flows base h) :
    s.FlowsThrough base h event (s.step event) := by
  unfold step
  split
  · exact replaceUpcoming_flows _ hflows
  · exact hflows
  · next hphase => exact beginTrack_flows hphase hflows
  · next hphase => exact refresh_flows hphase hflows
  · next hphase => exact applyUpdate_flows hphase hsound hfresh hopens hflows
  · next hphase => exact sealTrack_flows hphase hflows
  · next hphase => exact promote_flows hphase hflows
  · next hphase => exact leave_flows hphase hflows
  · next hphase => exact receive_flows hphase _ hformat hflows
  · next hphase => exact send_flows hphase _ hflows
  · next hphase => exact joinTrack_flows hphase _ hflows
  · next hphase => exact abandon_flows hphase _ hflows
  · next hphase => exact reserve_flows hphase _ hflows
  · -- The worker does not wait for this event.
    refine goOn_flows ?_ hflows
    unfold observe
    dsimp only
    split
    all_goals first
      | rfl
      | grind only

end PlaylistSession

namespace PlaylistControl

variable {c c' : PlaylistControl} {event : PlaylistEvent} {output : PlaylistOutput}

/-- A frame is sent from the control point that sends it. -/
theorem Step.phase_of_sent {frame : ProtocolFrame} (h : c.Step event c' (.sent frame)) :
    ∃ rest recorded site, c.phase = .send frame rest recorded site := by
  cases h with
  | began _ _ _ _ _ _ _ htakes | retargeted _ _ _ _ _ _ _ _ htakes => cases htakes
  | sentFrame _ _ _ _ _ _ hphase | sentBoundary _ _ _ _ _ hphase
  | sentChunk _ _ _ _ _ _ hphase | flushed _ _ _ _ hphase => exact ⟨_, _, _, hphase⟩

/-- A pending edit was pending, or is the one that just arrived. -/
theorem Step.pending_cases {edit : List StreamingPlaylistTrackFactory}
    (h : c.Step event c' output) (hedit : c'.updates.pending = some edit) :
    c.updates.pending = some edit ∨
      ∃ upcoming, event = .replaceUpcoming upcoming ∧ edit = c.updates.withoutShadow upcoming := by
  cases h with
  | accepted upcoming => exact .inr ⟨upcoming, rfl, (Option.some.inj hedit).symm⟩
  | takeFailed => cases hedit
  | began _ _ _ _ _ _ _ htakes | retargeted _ _ _ _ _ _ _ _ htakes =>
    cases htakes.closed.symm.trans hedit
  | reserving _ _ _ hpending | promoted _ _ _ hpending =>
    rw [promoteCurrentEntryIfUnmodified, hpending] at hedit
    cases hedit
  | left => cases hedit
  | _ => exact .inl hedit

end PlaylistControl

/-! ## Runs -/

namespace PlaylistTimeline

variable {base : Packetizer} {h : PlaylistTimeline} {s : PlaylistSession}

/-- At every control point the frames that were sent are the first of those of the samples. -/
theorem FlowsAt.started {terminal : Bool} {w : PlaylistWorker} :
    ∀ {phase : WorkerPhase}, FlowsAt base h terminal w phase → Started base h
  | .start, hflows | .refresh .track, hflows | .apply .track, hflows | .receive, hflows
  | .send _ _ _ (.boundary _), hflows | .send _ _ _ (.chunk _ _), hflows
  | .send _ _ _ .flush, hflows | .join (.ok ()), hflows | .reserve _, hflows => hflows.1.started
  | .refresh (.sealing _), ⟨⟨_, hhold⟩, _⟩ | .apply (.sealing _), ⟨⟨_, hhold⟩, _⟩
  | .seal _, ⟨⟨_, hhold⟩, _⟩ => hhold.started
  | .refresh .promotion, ⟨_, hpast⟩ | .apply .promotion, ⟨_, hpast⟩
  | .promote _, ⟨hpast, _⟩ => hpast.sent.started
  | .exit (.ok _), hflows | .exited (.ok _), hflows => Sending.started hflows
  | .join (.error _), hflows | .abandon _, hflows | .exit (.error _), hflows
  | .exited (.error _), hflows => hflows.1

/-- A worker that has returned after the end of a track has sent all samples. -/
theorem complete_of_exit {result : Except PacketizerWorkerError PacketizerSummary}
    (hflows : s.Flows base h)
    (hphase : s.worker.phase = .exit result ∨ s.worker.phase = .exited result) :
    match result with
    | .ok _ => h.Complete base
    | .error _ => h.ended = true → h.cut = false → h.Complete base := by
  rcases hphase with hphase | hphase
  all_goals
    have hpoint := hflows.at_phase hphase
    cases result with
    | ok => exact Sending.complete hpoint
    | error => exact hpoint.2

theorem inPlace_of_sent {event : PlaylistEvent} {boundary : TrackBoundary}
    (hflows : s.Flows base h)
    (hsent : playlist.out s event = .sent (.control (.trackBoundary boundary))) :
    h.InPlace base boundary := by
  have hstep : s.control.Step event (playlist.next s event).control (playlist.out s event) :=
    s.step_refines event
  rw [hsent] at hstep
  obtain ⟨rest, recorded, site, hphase⟩ := hstep.phase_of_sent
  have hpoint := hflows.at_phase hphase
  cases site with
  | boundary =>
    obtain ⟨hhold, -, -, -, b, hframe, hfirst⟩ := hpoint
    cases hframe
    exact hhold.inPlace hfirst
  | chunk => cases hpoint.2.2.2.1 _ List.mem_cons_self
  | flush => cases hpoint.2 _ List.mem_cons_self

theorem gapless_of_flows (hflows : s.Flows base h) : h.Gapless base s where
  continues := FlowsAt.started hflows |>.continues
  boundary _ _ := inPlace_of_sent hflows
  completed _ hphase := complete_of_exit hflows hphase
  stopped result hphase hended hcut := by
    have hcomplete := complete_of_exit hflows hphase
    cases result with
    | ok => exact hcomplete
    | error => exact hcomplete hended hcut

end PlaylistTimeline

/-- The invariant of a run whose edits start with a track that opens. -/
structure PlaylistSession.Streams (base : Packetizer) (s : PlaylistSession)
    (h : PlaylistTimeline) : Prop where
  sound : s.control.Sound
  fresh : s.control.Fresh
  opens : ∀ edit, s.updates.pending = some edit → HeadOpens edit
  flows : s.Flows base h

theorem streams_of_init {s : PlaylistSession} (hs : playlist.init s) :
    s.Streams s.worker.packetizer {} := by
  have hpromotes := promotes_of_init hs
  obtain ⟨hpending, -, hphase⟩ := PlaylistSession.control_of_init hs
  refine ⟨hpromotes.sound, hpromotes.fresh, fun edit hedit => ?_, ?_⟩
  · cases hpending.symm.trans hedit
  · obtain ⟨decoder, currentEntryId, currentDisplayName, upcoming, sessionId, streamId,
      hostStartTimeMs, config, reserved, streamStart, hspawn⟩ := hs
    unfold spawnPlaylist at hspawn
    simp only [Result.bind_eq_ok, Result.mapError_eq_ok] at hspawn
    obtain ⟨_, -, _, -, _, -, packetizer, hnew, hpure⟩ := hspawn
    cases hpure
    have hstreams := streams_nil (fresh_of_new hnew)
    exact ⟨⟨hstreams.streamsTo, (datagrams_nil packetizer 0).symm⟩, rfl, fun _ h => by cases h⟩

theorem streams_next {base : Packetizer} (s : PlaylistSession) (h : PlaylistTimeline)
    (event : PlaylistEvent) (hstreams : s.Streams base h)
    (hevent : ChunksHaveFormat s event ∧ EditsOpen s event) :
    (playlist.next s event).Streams base (h.observe s event (playlist.out s event)) := by
  have hstep : s.control.Step event (playlist.next s event).control (playlist.out s event) :=
    s.step_refines event
  refine ⟨hstep.sound hstreams.sound, hstep.fresh hstreams.sound hstreams.fresh,
    fun edit hedit => ?_, ?_⟩
  · rcases hstep.pending_cases hedit with hpending | ⟨upcoming, rfl, rfl⟩
    · exact hstreams.opens edit hpending
    · exact hevent.2
  · exact PlaylistSession.step_flows event hstreams.sound hstreams.fresh hstreams.opens hevent.1
      hstreams.flows

namespace PlaylistScenario

/-- A track that cannot be opened. -/
def missing : StreamingPlaylistTrackFactory :=
  ⟨"entry-3", "Track", .error ⟨.io, "no such file"⟩, valid_entry⟩

/-- An edit brings a successor that cannot be opened, and the first track ends. -/
def losing : List PlaylistEvent :=
  [.work, .replaceUpcoming [missing], .work, .work, lastChunk, .joined (.ok ()), .work]

end PlaylistScenario

end SilentDisco
