import SilentDisco.Transport.PlaybackControls

/-!
# Fencing of playback generations

A stop retires its stream: the watermarks it leaves reject the delayed controls of that stream
for good. Along a run of one session the anchors of accepted starts never decrease, and the
cached controls always describe the active stream.

## Main definitions

* `PlaybackControls.Accepts`: what an accepted call does
* `PlaybackControls.Coherent`: the cached controls belong to the active stream, in order
* `PlaybackControls.OfSession`: the watermarks and the stream are of one session

## Main results

* `PlaybackControls.apply_cases`: a call is accepted, or it changes nothing
* `PlaybackControls.coherent_of_reachable`: the cached controls are always coherent
* `playback_generations_are_fenced`: what the watermarks keep out, over any run of a session
-/

namespace SilentDisco.Transport

open Protocol

namespace PlaybackControls

variable {c c' : PlaybackControls} {call : PlaybackCall} {start : StreamStart}
  {applied : Option UInt64} {boundaries : List TrackBoundary}

/-! ## What a call does -/

/-- The controls that describe the playback. -/
def IsPlayback : ControlMessage → Prop
  | .streamStart _ | .trackBoundary _ | .pause _ | .stop _ => True
  | _ => False

/-- The start is after the watermarks of its session. -/
structure FreshStart (c : PlaybackControls) (start : StreamStart) : Prop where
  notRetired : ¬c.RetiredStart start
  notStopped : ¬c.RetiredControl start.sessionId start.hostStartTimeMs.get
  forward : ¬c.Rewinds start

/-- An accepted call and the state after it. -/
inductive Accepts (c : PlaybackControls) : PlaybackCall → PlaybackControls → Prop
  | resumed (start : StreamStart) (hfresh : c.FreshStart start) (hresume : c.IsResume start)
      (hformat : ¬c.ChangesFormat start) (hpaused : c.pause.isSome = true → ¬c.KeepsAnchor start) :
      Accepts c (.update (.streamStart start)) (c.resume start)
  | opened (start : StreamStart) (hfresh : c.FreshStart start) (hnew : ¬c.IsResume start) :
      Accepts c (.update (.streamStart start)) (c.openStream start)
  | bounded (boundary : TrackBoundary)
      (hactive : c.IsActive boundary.sessionId boundary.streamId)
      (hfresh : ¬c.StaleBoundary boundary) :
      Accepts c (.update (.trackBoundary boundary)) (c.cacheBoundary boundary)
  | paused (pause : Pause) (hactive : c.IsActive pause.sessionId pause.streamId)
      (hfresh : ¬c.RetiredControl pause.sessionId pause.hostPauseTimeMs.get)
      (hlater : ∀ previous ∈ c.lastPauseTimeMs, previous < pause.hostPauseTimeMs.get) :
      Accepts c (.update (.pause pause))
        { c with lastPauseTimeMs := some pause.hostPauseTimeMs.get, pause := some pause }
  | stopped (start : StreamStart) (stop : Stop) (hactive : c.streamStart = some start)
      (hstream : start.streamId = stop.streamId) (hsession : start.sessionId = stop.sessionId)
      (hfresh : ¬c.RetiredControl stop.sessionId stop.hostStopTimeMs.get) :
      Accepts c (.update (.stop stop)) (stopActive start stop)
  | stoppedIdle (stop : Stop) (hidle : c.streamStart = none)
      (hfresh : ¬c.RetiredControl stop.sessionId stop.hostStopTimeMs.get) :
      Accepts c (.update (.stop stop)) (c.stopIdle stop)
  | unrelated (message : ControlMessage) (hother : ¬IsPlayback message) :
      Accepts c (.update message) c
  | counted (packet : AudioDatagram) (hallows : c.AllowsAudio packet)
      (hcontinues : c.ContinuesReplay packet) (hcounts : c.CountsPackets)
      (hsequence : packet.sequence.get.toNat + 1 < 2 ^ 64)
      (hsample : packet.firstSampleIndex.get.toNat + packet.samplesPerPacket.toNat < 2 ^ 64) :
      Accepts c (.permitsAudio packet)
        { c with
          awaitingReplayFirstPacket := false
          replayNextPacket := some (UInt64.ofNat (packet.sequence.get.toNat + 1),
            UInt64.ofNat (packet.firstSampleIndex.get.toNat + packet.samplesPerPacket.toNat))
          replayLastPresentationMs := some packet.hostPresentationTimeMs.get }
  | sent (packet : AudioDatagram) (hallows : c.AllowsAudio packet)
      (hcontinues : c.ContinuesReplay packet) (huncounted : ¬c.CountsPackets) :
      Accepts c (.permitsAudio packet) c

theorem updateStart_cases (c : PlaybackControls) (start : StreamStart) :
    c.updateStart start = (c, false) ∨
      ∃ c', c.updateStart start = (c', true) ∧ c.Accepts (.update (.streamStart start)) c' := by
  unfold updateStart
  split_ifs with hretired hstopped hrewinds hformat hpaused hresume
  · exact .inl rfl
  · exact .inl rfl
  · exact .inl rfl
  · exact .inl rfl
  · exact .inl rfl
  · exact .inr ⟨_, rfl, .resumed start ⟨hretired, hstopped, hrewinds⟩ hresume
      (fun h => hformat ⟨hresume, h⟩) fun hp h => hpaused ⟨hresume, hp, h⟩⟩
  · exact .inr ⟨_, rfl, .opened start ⟨hretired, hstopped, hrewinds⟩ hresume⟩

/-- A start that may resume the active stream does. -/
theorem update_of_isResume (hfresh : c.FreshStart start) (hresume : c.IsResume start)
    (hformat : ¬c.ChangesFormat start) (hmoved : ¬c.KeepsAnchor start) :
    c.update (.streamStart start) = (c.resume start, true) := by
  change c.updateStart start = _
  unfold updateStart
  rw [if_neg hfresh.notRetired, if_neg hfresh.notStopped, if_neg hfresh.forward,
    if_neg (fun h => hformat h.2), if_neg (fun h => hmoved h.2.2), if_pos hresume]

/-- A start of another stream opens it. -/
theorem update_of_not_isResume (hfresh : c.FreshStart start) (hnew : ¬c.IsResume start) :
    c.update (.streamStart start) = (c.openStream start, true) := by
  change c.updateStart start = _
  unfold updateStart
  rw [if_neg hfresh.notRetired, if_neg hfresh.notStopped, if_neg hfresh.forward,
    if_neg (fun h => hnew h.1), if_neg (fun h => hnew h.1), if_neg hnew]

theorem updateStop_cases (c : PlaybackControls) (stop : Stop) :
    c.updateStop stop = (c, false) ∨
      ∃ c', c.updateStop stop = (c', true) ∧ c.Accepts (.update (.stop stop)) c' := by
  unfold updateStop
  cases hstart : c.streamStart with
  | none =>
    dsimp only
    split_ifs with hretired
    · exact .inl rfl
    · exact .inr ⟨_, rfl, .stoppedIdle stop hstart hretired⟩
  | some start =>
    dsimp only
    split_ifs with hsame hretired
    · exact .inl rfl
    · exact .inr ⟨_, rfl, .stopped start stop hstart hsame.1 hsame.2 hretired⟩
    · exact .inl rfl

theorem update_cases (c : PlaybackControls) (message : ControlMessage) :
    c.update message = (c, false) ∨
      ∃ c', c.update message = (c', true) ∧ c.Accepts (.update message) c' := by
  cases message with
  | streamStart start => exact c.updateStart_cases start
  | stop stop => exact c.updateStop_cases stop
  | trackBoundary boundary =>
    unfold update
    dsimp only
    split_ifs with hactive
    · unfold updateBoundary
      split_ifs with hstale
      · exact .inl rfl
      · exact .inr ⟨_, rfl, .bounded boundary hactive hstale⟩
    · exact .inl rfl
  | pause pause =>
    unfold update
    dsimp only
    split_ifs with hactive
    · unfold updatePause
      split_ifs with hretired hearlier
      · exact .inl rfl
      · exact .inl rfl
      · refine .inr ⟨_, rfl, .paused pause hactive hretired fun previous hprevious => ?_⟩
        exact UInt64.not_le.mp fun hle => hearlier ⟨previous, hprevious, hle⟩
    · exact .inl rfl
  | _ => exact .inr ⟨c, rfl, .unrelated _ id⟩

theorem permitsAudio_cases (c : PlaybackControls) (packet : AudioDatagram) :
    c.permitsAudio packet = (c, false) ∨
      ∃ c', c.permitsAudio packet = (c', true) ∧ c.Accepts (.permitsAudio packet) c' := by
  unfold permitsAudio
  by_cases hallows : c.AllowsAudio packet
  · rw [if_neg (not_not.mpr hallows)]
    by_cases hcontinues : c.ContinuesReplay packet
    · rw [if_neg (not_not.mpr hcontinues)]
      by_cases hcounts : c.CountsPackets
      · rw [if_pos hcounts]
        dsimp only
        split_ifs with hsequence hsample
        · exact .inl rfl
        · exact .inl rfl
        · exact .inr ⟨_, rfl, .counted packet hallows hcontinues hcounts (not_le.mp hsequence)
            (not_le.mp hsample)⟩
      · exact .inr ⟨c, if_neg hcounts, .sent packet hallows hcontinues hcounts⟩
    · exact .inl (if_pos hcontinues)
  · exact .inl (if_pos hallows)

/-- A call is rejected and changes nothing, or it is accepted. -/
theorem apply_cases (c : PlaybackControls) (call : PlaybackCall) :
    c.apply call = (c, false) ∨ ∃ c', c.apply call = (c', true) ∧ c.Accepts call c' := by
  cases call with
  | update message => exact c.update_cases message
  | permitsAudio packet => exact c.permitsAudio_cases packet

theorem accepts_of_apply (h : c.apply call = (c', true)) : c.Accepts call c' := by
  obtain hrejected | ⟨c'', haccepted, haccepts⟩ := c.apply_cases call
  · rw [hrejected] at h
    cases h
  · rw [haccepted] at h
    cases h
    exact haccepts

/-- A property that every accepted call preserves holds after every call. -/
theorem next_of_accepts {I : PlaybackControls → Prop} (hc : I c)
    (hstep : ∀ c', c.Accepts call c' → I c') : I (playbackControls.next c call) := by
  change I (c.apply call).1
  obtain hrejected | ⟨c', haccepted, haccepts⟩ := c.apply_cases call
  · rw [hrejected]
    exact hc
  · rw [haccepted]
    exact hstep c' haccepts

/-! ## The cached controls -/

/-- The index of the first sample of a boundary. -/
abbrev index (boundary : TrackBoundary) : UInt64 := boundary.firstSampleIndex.get

/-- The boundaries are in order, after the last one that was applied. -/
structure Ordered (boundaries : List TrackBoundary) (applied : Option UInt64) : Prop where
  increasing : boundaries.Pairwise (index · < index ·)
  above : ∀ last ∈ applied, ∀ boundary ∈ boundaries, last < index boundary

theorem Ordered.tail {boundary : TrackBoundary} {rest : List TrackBoundary}
    (h : Ordered (boundary :: rest) applied) : Ordered rest (some (index boundary)) := by
  obtain ⟨hfirst, hrest⟩ := List.pairwise_cons.mp h.increasing
  refine ⟨hrest, ?_⟩
  rintro _ ⟨⟩ later hlater
  exact hfirst later hlater

/-- Removing boundaries from the front keeps the others, in order and after the last applied. -/
theorem popThrough_spec (limit : UInt64) (h : Ordered boundaries applied) :
    (popThrough limit boundaries applied).1 <:+ boundaries ∧
      Ordered (popThrough limit boundaries applied).1 (popThrough limit boundaries applied).2 := by
  induction boundaries generalizing applied with
  | nil => exact ⟨List.suffix_rfl, h⟩
  | cons boundary rest ih =>
    unfold popThrough
    split_ifs with hle
    · obtain ⟨hsuffix, hordered⟩ := ih h.tail
      exact ⟨hsuffix.trans (List.suffix_cons boundary rest), hordered⟩
    · exact ⟨List.suffix_rfl, h⟩

/-- A resumed track only drops boundaries from the front. -/
theorem passedBoundaries_spec (resumed : StreamStart)
    (h : Ordered c.boundaries c.lastAppliedBoundarySampleIndex) :
    (c.passedBoundaries resumed).1 <:+ c.boundaries ∧
      Ordered (c.passedBoundaries resumed).1 (c.passedBoundaries resumed).2 := by
  unfold passedBoundaries
  split
  · split
    · exact ⟨List.suffix_rfl, h⟩
    · exact popThrough_spec _ h
  · exact ⟨List.suffix_rfl, h⟩

/-- The cached pause and boundaries belong to the active stream; the boundaries are in order, and
there are not too many. -/
structure Coherent (c : PlaybackControls) : Prop where
  pause : ∀ pause ∈ c.pause, c.IsActive pause.sessionId pause.streamId
  boundaries : ∀ boundary ∈ c.boundaries, c.IsActive boundary.sessionId boundary.streamId
  ordered : Ordered c.boundaries c.lastAppliedBoundarySampleIndex
  bounded : c.boundaries.length ≤ maxCachedTrackBoundaries

theorem coherent_empty (hpause : c.pause = none) (hboundaries : c.boundaries = []) :
    c.Coherent where
  pause := by simp [hpause]
  boundaries := by simp [hboundaries]
  ordered := ⟨by simp [hboundaries], by simp [hboundaries]⟩
  bounded := by simp [hboundaries]

theorem IsActive.eq {session : SessionId} {stream : StreamId} (h : c.IsActive session stream)
    (hstart : c.streamStart = some start) :
    start.streamId = stream ∧ start.sessionId = session := by
  obtain ⟨active, hactive, hids⟩ := h
  obtain rfl := Option.some.inj (hstart.symm.trans hactive)
  exact hids

/-- A resumed stream is the active one. -/
theorem IsResume.isActive (h : c.IsResume start) {session : SessionId} {stream : StreamId}
    (hactive : c.IsActive session stream) :
    start.streamId = stream ∧ start.sessionId = session := by
  obtain ⟨previous, hprevious, hstream, hsession⟩ := h
  obtain ⟨hstream', hsession'⟩ := hactive.eq hprevious
  exact ⟨hstream.symm.trans hstream', hsession.symm.trans hsession'⟩

theorem Ordered.snoc {boundary : TrackBoundary} (h : Ordered boundaries applied)
    (happlied : ∀ last ∈ applied, last < index boundary)
    (hlast : ∀ previous ∈ boundaries.getLast?, index previous < index boundary) :
    Ordered (boundaries ++ [boundary]) applied := by
  refine ⟨List.pairwise_append.mpr ⟨h.increasing, List.pairwise_singleton _ _, ?_⟩, ?_⟩
  · intro earlier hearlier _ hboundary
    obtain rfl := List.mem_singleton.mp hboundary
    obtain ⟨front, last, rfl⟩ := List.eq_nil_or_concat' boundaries |>.resolve_left
      (List.ne_nil_of_mem hearlier)
    have hbefore := hlast last (by simp)
    rcases List.mem_append.mp hearlier with hfront | hend
    · have hless := (List.pairwise_append.mp h.increasing).2.2 earlier hfront last (by simp)
      exact UInt64.lt_trans hless hbefore
    · obtain rfl := List.mem_singleton.mp hend
      exact hbefore
  · intro last hmem other hother
    rcases List.mem_append.mp hother with hold | hnew
    · exact h.above last hmem other hold
    · obtain rfl := List.mem_singleton.mp hnew
      exact happlied last hmem

theorem Ordered.suffix {rest : List TrackBoundary} (h : Ordered boundaries applied)
    (hrest : rest <:+ boundaries) : Ordered rest applied :=
  ⟨h.increasing.sublist hrest.sublist, fun last hlast boundary hboundary =>
    h.above last hlast boundary (hrest.subset hboundary)⟩

/-- Accepted calls keep the cached controls coherent. -/
theorem Accepts.coherent (h : c.Accepts call c') (hc : c.Coherent) : c'.Coherent := by
  cases h with
  | resumed start hfresh hresume =>
    obtain ⟨hsuffix, hordered⟩ := passedBoundaries_spec start hc.ordered
    refine ⟨by simp [resume], fun boundary hboundary => ?_, hordered, ?_⟩
    · have hactive := hc.boundaries boundary (hsuffix.subset hboundary)
      exact ⟨start, rfl, hresume.isActive hactive⟩
    · exact hsuffix.length_le.trans hc.bounded
  | opened => exact coherent_empty rfl rfl
  | bounded boundary hactive hfresh =>
    obtain ⟨happlied, hlast⟩ := not_or.mp hfresh
    push Not at happlied hlast
    have hordered := hc.ordered.snoc (fun last hmem => UInt64.not_le.mp (happlied last hmem))
      fun previous hmem => UInt64.not_le.mp (hlast previous hmem)
    have hsuffix := List.drop_suffix
      ((c.boundaries ++ [boundary]).length - maxCachedTrackBoundaries) (c.boundaries ++ [boundary])
    refine ⟨hc.pause, fun other hother => ?_, hordered.suffix hsuffix, ?_⟩
    · rcases List.mem_append.mp (hsuffix.subset hother) with hold | hnew
      · exact hc.boundaries other hold
      · obtain rfl := List.mem_singleton.mp hnew
        exact hactive
    · unfold cacheBoundary
      rw [List.length_drop]
      omega
  | paused pause hactive =>
    refine ⟨?_, hc.boundaries, hc.ordered, hc.bounded⟩
    rintro _ ⟨⟩
    exact hactive
  | stopped => exact coherent_empty rfl rfl
  | _ => exact ⟨hc.pause, hc.boundaries, hc.ordered, hc.bounded⟩

theorem coherent_after {c : PlaybackControls} (hc : c.Coherent) (calls : List PlaybackCall) :
    (playbackControls.after c calls).Coherent :=
  Machine.invariant_after (fun _ _ hc => next_of_accepts hc fun _ h => h.coherent hc) hc calls

theorem coherent_of_reachable (h : playbackControls.Reachable c) : c.Coherent := by
  obtain ⟨_, calls, rfl, rfl⟩ := h
  exact coherent_after (coherent_empty rfl rfl) calls

/-! ## Watermarks -/

/-- The anchor of a stream. -/
abbrev anchor (start : StreamStart) : UInt64 := start.hostStartTimeMs.get

/-- The stream and the watermarks are of the session, and the stream is after the one that was
stopped last. -/
structure OfSession (session : SessionId) (c : PlaybackControls) : Prop where
  active : ∀ start ∈ c.streamStart, start.sessionId = session
  stoppedStart : ∀ stopped ∈ c.lastStoppedStart, stopped.1 = session
  stoppedControl : ∀ stopped ∈ c.lastStoppedControl, stopped.1 = session
  later : ∀ start ∈ c.streamStart, ∀ stopped ∈ c.lastStoppedStart, stopped.2 < anchor start

variable {session : SessionId}

theorem ofSession_empty : OfSession session {} where
  active _ h := absurd h (Option.not_mem_none _)
  stoppedStart _ h := absurd h (Option.not_mem_none _)
  stoppedControl _ h := absurd h (Option.not_mem_none _)
  later _ h := absurd h (Option.not_mem_none _)

/-- A fresh start is after the stream that was stopped last. -/
theorem FreshStart.lt_stoppedStart (h : c.FreshStart start) (hc : c.OfSession session)
    (hstart : start.sessionId = session) :
    ∀ stopped ∈ c.lastStoppedStart, stopped.2 < anchor start := fun stopped hstopped =>
  UInt64.not_le.mp fun hle =>
    h.notRetired ⟨stopped, hstopped, (hc.stoppedStart stopped hstopped).trans hstart.symm, hle⟩

/-- A control that is not retired is after the last stop. -/
theorem lt_stoppedControl {own : SessionId} {time : UInt64} (h : ¬c.RetiredControl own time)
    (hc : c.OfSession session) (hown : own = session) :
    ∀ stopped ∈ c.lastStoppedControl, stopped.2 < time := fun stopped hstopped =>
  UInt64.not_le.mp fun hle =>
    h ⟨stopped, hstopped, (hc.stoppedControl stopped hstopped).trans hown.symm, hle⟩

/-- A fresh start is not before the active one. -/
theorem FreshStart.active_le {previous : StreamStart} (h : c.FreshStart start)
    (hc : c.OfSession session) (hstart : start.sessionId = session)
    (hprevious : c.streamStart = some previous) : anchor previous ≤ anchor start :=
  UInt64.not_lt.mp fun hlt =>
    h.forward ⟨previous, hprevious, (hc.active previous hprevious).trans hstart.symm, hlt⟩

end PlaybackControls

/-- The call is on a control of the session, or on audio. -/
def PlaybackCall.OfSession (session : SessionId) : PlaybackCall → Prop
  | .update message => message.sessionId = session
  | .permitsAudio _ => True

namespace PlaybackControls

variable {session : SessionId} {c c' : PlaybackControls} {call : PlaybackCall} {bound time : UInt64}
  {start : StreamStart} {pause : Pause} {before between : List PlaybackCall}

theorem Accepts.ofSession (h : c.Accepts call c') (hc : c.OfSession session)
    (hcall : call.OfSession session) : c'.OfSession session := by
  cases h with
  | resumed start hfresh | opened start hfresh =>
    refine ⟨?_, hc.stoppedStart, hc.stoppedControl, ?_⟩
    · rintro _ ⟨⟩
      exact hcall
    · rintro _ ⟨⟩
      exact hfresh.lt_stoppedStart hc hcall
  | stopped start _ hactive =>
    have hstart := hc.active start hactive
    have hidle (previous : StreamStart) : previous ∉ (none : Option StreamStart) :=
      Option.not_mem_none previous
    refine ⟨fun _ h => absurd h (hidle _), ?_, ?_, fun _ h => absurd h (hidle _)⟩
    · rintro _ ⟨⟩
      exact hstart
    · rintro _ ⟨⟩
      exact hstart
  | stoppedIdle =>
    refine ⟨hc.active, hc.stoppedStart, ?_, hc.later⟩
    rintro _ ⟨⟩
    exact hcall
  | _ => exact ⟨hc.active, hc.stoppedStart, hc.stoppedControl, hc.later⟩

/-- Every start of the session that is still accepted has at least this anchor. -/
def AnchoredFrom (bound : UInt64) (c : PlaybackControls) : Prop :=
  (∃ start ∈ c.streamStart, bound ≤ anchor start) ∨
    c.streamStart = none ∧ ∃ stopped ∈ c.lastStoppedStart, bound ≤ stopped.2

theorem AnchoredFrom.le (h : c.AnchoredFrom bound) (hc : c.OfSession session)
    (hstart : start.sessionId = session) (hfresh : c.FreshStart start) : bound ≤ anchor start := by
  rcases h with ⟨previous, hprevious, hle⟩ | ⟨-, stopped, hstopped, hle⟩
  · exact UInt64.le_trans hle (hfresh.active_le hc hstart hprevious)
  · exact UInt64.le_trans hle
      (UInt64.le_of_lt (hfresh.lt_stoppedStart hc hstart stopped hstopped))

theorem Accepts.anchoredFrom (h : c.Accepts call c') (hc : c.OfSession session)
    (hcall : call.OfSession session) (hbound : c.AnchoredFrom bound) : c'.AnchoredFrom bound := by
  cases h with
  | resumed start hfresh | opened start hfresh => exact .inl ⟨start, rfl, hbound.le hc hcall hfresh⟩
  | stopped start _ hactive =>
    rcases hbound with ⟨previous, hprevious, hle⟩ | ⟨hidle, -⟩
    · obtain rfl := Option.some.inj (hactive.symm.trans hprevious)
      exact .inr ⟨rfl, _, rfl, hle⟩
    · exact absurd (hidle.symm.trans hactive) (Option.some_ne_none start).symm
  | _ => exact hbound

theorem Accepts.anchoredFrom_start (h : c.Accepts (.update (.streamStart start)) c') :
    c'.AnchoredFrom (anchor start) := by
  cases h with
  | resumed | opened => exact .inl ⟨start, rfl, UInt64.le_refl _⟩
  | unrelated _ hother => exact absurd trivial hother

/-- A stream with this anchor has been stopped at this time, or later ones have. -/
structure RetiredAt (time bound : UInt64) (c : PlaybackControls) : Prop where
  control : ∃ stopped ∈ c.lastStoppedControl, time ≤ stopped.2
  start : ∃ stopped ∈ c.lastStoppedStart, bound ≤ stopped.2

theorem Accepts.retiredAt (h : c.Accepts call c') (hc : c.OfSession session)
    (hcall : call.OfSession session) (hretired : c.RetiredAt time bound) :
    c'.RetiredAt time bound := by
  obtain ⟨control, hcontrol, htime⟩ := hretired.control
  obtain ⟨before, hbefore, hbound⟩ := hretired.start
  cases h with
  | stopped start _ hactive _ _ hfresh =>
    have hlater := lt_stoppedControl hfresh hc hcall control hcontrol
    exact ⟨⟨_, rfl, UInt64.le_trans htime (UInt64.le_of_lt hlater)⟩,
      ⟨_, rfl, UInt64.le_trans hbound (UInt64.le_of_lt (hc.later start hactive before hbefore))⟩⟩
  | stoppedIdle _ _ hfresh =>
    have hlater := lt_stoppedControl hfresh hc hcall control hcontrol
    exact ⟨⟨_, rfl, UInt64.le_trans htime (UInt64.le_of_lt hlater)⟩, hretired.start⟩
  | _ => exact ⟨hretired.control, hretired.start⟩

theorem Accepts.retiredAt_stop {stop : Stop} (h : c.Accepts (.update (.stop stop)) c')
    (hactive : c.streamStart = some start) :
    c'.RetiredAt stop.hostStopTimeMs.get (anchor start) := by
  cases h with
  | stopped _ _ hretired =>
    obtain rfl := Option.some.inj (hactive.symm.trans hretired)
    exact ⟨⟨_, rfl, UInt64.le_refl _⟩, ⟨_, rfl, UInt64.le_refl _⟩⟩
  | stoppedIdle _ hidle =>
    exact absurd (hidle.symm.trans hactive) (Option.some_ne_none start).symm
  | unrelated _ hother => exact absurd trivial hother

/-- The pauses that are still accepted for the active stream are after this time. -/
def PausedFrom (time : UInt64) (c : PlaybackControls) : Prop :=
  c.streamStart = none ∨ ∃ last ∈ c.lastPauseTimeMs, time ≤ last

/-- The call opens a stream, or plays it again: it is accepted, and does not resume. -/
def Opens (c : PlaybackControls) (call : PlaybackCall) : Prop :=
  ∃ start, call = .update (.streamStart start) ∧ ¬c.IsResume start ∧
    playbackControls.out c call = true

theorem Accepts.pausedFrom (h : c.Accepts call c')
    (hopens : ∀ start, call = .update (.streamStart start) → c.IsResume start)
    (htime : c.PausedFrom time) : c'.PausedFrom time := by
  cases h with
  | resumed start hfresh hresume =>
    obtain ⟨previous, hprevious, -⟩ := hresume
    rcases htime with hidle | hlast
    · exact absurd (hidle.symm.trans hprevious) (Option.some_ne_none previous).symm
    · exact .inr hlast
  | opened start hfresh hnew => exact absurd (hopens start rfl) hnew
  | paused _ _ _ hlater =>
    rcases htime with hidle | ⟨last, hlast, hle⟩
    · exact .inl hidle
    · exact .inr ⟨_, rfl, UInt64.le_trans hle (UInt64.le_of_lt (hlater last hlast))⟩
  | stopped => exact .inl rfl
  | _ => exact htime

/-- An accepted start is fresh. -/
theorem Accepts.freshStart (h : c.Accepts (.update (.streamStart start)) c') :
    c.FreshStart start := by
  cases h with
  | resumed _ hfresh | opened _ hfresh => exact hfresh
  | unrelated _ hother => exact absurd trivial hother

/-- The controls accepted after a stop are later than it. -/
theorem RetiredAt.lt (h : c.RetiredAt time bound) (hc : c.OfSession session) {own : SessionId}
    {controlTime : UInt64} (hfresh : ¬c.RetiredControl own controlTime) (hown : own = session) :
    time < controlTime := by
  obtain ⟨stopped, hstopped, hle⟩ := h.control
  exact UInt64.lt_of_le_of_lt hle (lt_stoppedControl hfresh hc hown stopped hstopped)

theorem RetiredAt.lt_anchor (h : c.RetiredAt time bound) (hc : c.OfSession session)
    (hfresh : c.FreshStart start) (hstart : start.sessionId = session) :
    time < anchor start ∧ bound < anchor start := by
  obtain ⟨stopped, hstopped, hle⟩ := h.start
  exact ⟨h.lt hc hfresh.notStopped hstart,
    UInt64.lt_of_le_of_lt hle (hfresh.lt_stoppedStart hc hstart stopped hstopped)⟩

theorem Accepts.pausedFrom_pause (h : c.Accepts (.update (.pause pause)) c') :
    c'.PausedFrom pause.hostPauseTimeMs.get := by
  cases h with
  | paused => exact .inr ⟨_, rfl, UInt64.le_refl _⟩
  | unrelated _ hother => exact absurd trivial hother

/-- An accepted pause is of the active stream, and not retired. -/
theorem Accepts.freshPause (h : c.Accepts (.update (.pause pause)) c') :
    c.IsActive pause.sessionId pause.streamId ∧
      ¬c.RetiredControl pause.sessionId pause.hostPauseTimeMs.get ∧
      ∀ previous ∈ c.lastPauseTimeMs, previous < pause.hostPauseTimeMs.get := by
  cases h with
  | paused _ hactive hfresh hlater => exact ⟨hactive, hfresh, hlater⟩
  | unrelated _ hother => exact absurd trivial hother

theorem Accepts.freshStop {stop : Stop} (h : c.Accepts (.update (.stop stop)) c') :
    ¬c.RetiredControl stop.sessionId stop.hostStopTimeMs.get := by
  cases h with
  | stopped _ _ _ _ _ hfresh | stoppedIdle _ _ hfresh => exact hfresh
  | unrelated _ hother => exact absurd trivial hother

/-! ## Runs of a session -/

/-- The state after a run from the empty controls. -/
abbrev run (calls : List PlaybackCall) : PlaybackControls := playbackControls.after {} calls

theorem accepts_of_out (h : playbackControls.out c call = true) :
    c.Accepts call (playbackControls.next c call) :=
  accepts_of_apply (Prod.ext rfl h)

/-- What accepted calls of the session preserve holds after every run of the session. -/
theorem OfSession.after {K : PlaybackControls → Prop}
    (hstep : ∀ c call c', c.Accepts call c' → c.OfSession session → call.OfSession session →
      K c → K c') (hc : c.OfSession session) (hK : K c) {calls : List PlaybackCall}
    (hcalls : ∀ call ∈ calls, call.OfSession session) :
    (playbackControls.after c calls).OfSession session ∧ K (playbackControls.after c calls) := by
  refine Machine.Along.invariant (I := fun c => c.OfSession session ∧ K c) ?_ ⟨hc, hK⟩
    (Machine.along_of_forall hcalls)
  rintro c call ⟨hc, hK⟩ hcall
  exact next_of_accepts (I := fun c => c.OfSession session ∧ K c) ⟨hc, hK⟩ fun c' h =>
    ⟨h.ofSession hc hcall, hstep c call c' h hc hcall hK⟩

theorem ofSession_run {calls : List PlaybackCall}
    (hcalls : ∀ call ∈ calls, call.OfSession session) : (run calls).OfSession session :=
  (ofSession_empty.after (K := fun _ => True) (fun _ _ _ _ _ _ _ => trivial) trivial hcalls).1

/-- In a run, `first` is accepted, and `second` is accepted after it and `between`. -/
structure AcceptedInTurn (before between : List PlaybackCall) (first second : PlaybackCall) :
    Prop where
  earlier : playbackControls.out (run before) first = true
  later : playbackControls.out (run (before ++ first :: between)) second = true

/-- The second call is accepted in the state that the first one and `between` lead to. -/
theorem AcceptedInTurn.accepts {first second : PlaybackCall}
    (h : AcceptedInTurn before between first second) :
    ∃ c', (playbackControls.after (playbackControls.next (run before) first) between).Accepts
      second c' := by
  have hlater := h.later
  rw [run, Machine.after_append, Machine.after_cons] at hlater
  exact ⟨_, accepts_of_out hlater⟩

/-- An anchor is not followed by an earlier one. -/
theorem AcceptedInTurn.anchor_le {next : StreamStart}
    (h : AcceptedInTurn before between (.update (.streamStart start)) (.update (.streamStart next)))
    (hbefore : ∀ call ∈ before, call.OfSession session) (hstart : start.sessionId = session)
    (hbetween : ∀ call ∈ between, call.OfSession session) (hnext : next.sessionId = session) :
    anchor start ≤ anchor next := by
  have hfirst := accepts_of_out h.earlier
  obtain ⟨hsession, hbound⟩ := (hfirst.ofSession (ofSession_run hbefore) hstart).after
    (fun _ _ _ h hc hcall hK => h.anchoredFrom hc hcall hK) hfirst.anchoredFrom_start hbetween
  obtain ⟨c', hsecond⟩ := h.accepts
  exact hbound.le hsession hnext hsecond.freshStart

/-- After a stop, the controls that are accepted are later than it. -/
theorem AcceptedInTurn.retired {stop : Stop} {second : PlaybackCall}
    (h : AcceptedInTurn before between (.update (.stop stop)) second)
    (hactive : (run before).streamStart = some start)
    (hbefore : ∀ call ∈ before, call.OfSession session) (hstop : stop.sessionId = session)
    (hbetween : ∀ call ∈ between, call.OfSession session) :
    ∃ c c' : PlaybackControls, c.OfSession session ∧
      c.RetiredAt stop.hostStopTimeMs.get (anchor start) ∧ c.Accepts second c' := by
  have hfirst := accepts_of_out h.earlier
  obtain ⟨hsession, hbound⟩ := (hfirst.ofSession (ofSession_run hbefore) hstop).after
    (fun _ _ _ h hc hcall hK => h.retiredAt hc hcall hK) (hfirst.retiredAt_stop hactive) hbetween
  obtain ⟨c', hsecond⟩ := h.accepts
  exact ⟨_, c', hsession, hbound, hsecond⟩

/-- The pauses of one generation are in order. -/
theorem AcceptedInTurn.pause_lt {later : Pause}
    (h : AcceptedInTurn before between (.update (.pause pause)) (.update (.pause later)))
    (hbetween : playbackControls.Along (fun c call => ¬c.Opens call)
      (playbackControls.next (run before) (.update (.pause pause))) between) :
    pause.hostPauseTimeMs.get < later.hostPauseTimeMs.get := by
  have hpaused := Machine.Along.invariant (I := PausedFrom pause.hostPauseTimeMs.get)
    (fun c call htime hopens => ?_) (accepts_of_out h.earlier).pausedFrom_pause hbetween
  · obtain ⟨c', hsecond⟩ := h.accepts
    obtain ⟨⟨start, hstart, -⟩, -, hlater⟩ := hsecond.freshPause
    rcases hpaused with hidle | ⟨last, hlast, hle⟩
    · exact absurd (hidle.symm.trans hstart) (Option.some_ne_none start).symm
    · exact UInt64.lt_of_le_of_lt hle (hlater last hlast)
  · change PausedFrom _ (c.apply call).1
    obtain hrejected | ⟨c', haccepted, haccepts⟩ := c.apply_cases call
    · rw [hrejected]
      exact htime
    · rw [haccepted]
      refine haccepts.pausedFrom (fun start hcall => ?_) htime
      by_contra hnew
      exact hopens ⟨start, hcall, hnew, congrArg Prod.snd haccepted⟩

end PlaybackControls

open PlaybackControls

/-- **Playback generations are fenced.** Over every run of a session: the anchors of accepted
starts never decrease; after an accepted stop that retires a stream, no start up to the stop or
up to the retired anchor, and no pause or stop up to the stop, is accepted again; the pauses of
one generation are in order. The cached controls are coherent in every state, and a rejected
update changes nothing. -/
theorem playback_generations_are_fenced (session : SessionId) (calls : List PlaybackCall)
    (hsession : ∀ call ∈ calls, call.OfSession session) :
    (∀ before first between second rest, calls = before ++ first :: between ++ second :: rest →
      AcceptedInTurn before between first second →
      (∀ start next, first = .update (.streamStart start) →
        second = .update (.streamStart next) → anchor start ≤ anchor next) ∧
      (∀ stop start, first = .update (.stop stop) → (run before).streamStart = some start →
        (∀ next, second = .update (.streamStart next) →
          max stop.hostStopTimeMs.get.toNat (anchor start).toNat < (anchor next).toNat) ∧
        (∀ pause, second = .update (.pause pause) →
          stop.hostStopTimeMs.get < pause.hostPauseTimeMs.get) ∧
        ∀ later, second = .update (.stop later) →
          stop.hostStopTimeMs.get < later.hostStopTimeMs.get) ∧
      ∀ pause later, first = .update (.pause pause) → second = .update (.pause later) →
        playbackControls.Along (fun c call => ¬c.Opens call)
          (playbackControls.next (run before) first) between →
        pause.hostPauseTimeMs.get < later.hostPauseTimeMs.get) ∧
    (run calls).Coherent ∧
    ∀ c message, (update c message).2 = false → (update c message).1 = c := by
  refine ⟨?_, coherent_after (coherent_empty rfl rfl) calls, fun c message hrejected => ?_⟩
  · rintro before first between second rest rfl haccepted
    simp only [List.mem_append, List.mem_cons] at hsession
    have hbefore (call) (hcall : call ∈ before) : call.OfSession session :=
      hsession call (.inl (.inl hcall))
    have hfirst : first.OfSession session := hsession first (.inl (.inr (.inl rfl)))
    have hbetween (call) (hcall : call ∈ between) : call.OfSession session :=
      hsession call (.inl (.inr (.inr hcall)))
    have hsecond : second.OfSession session := hsession second (.inr (.inl rfl))
    refine ⟨?_, ?_, ?_⟩
    · rintro start next rfl rfl
      exact haccepted.anchor_le hbefore hfirst hbetween hsecond
    · rintro stop start rfl hactive
      obtain ⟨c, c', hc, hretired, hlater⟩ :=
        haccepted.retired hactive hbefore hfirst hbetween
      refine ⟨?_, ?_, ?_⟩
      · rintro next rfl
        obtain ⟨htime, hanchor⟩ := hretired.lt_anchor hc hlater.freshStart hsecond
        exact max_lt (UInt64.lt_iff_toNat_lt.mp htime) (UInt64.lt_iff_toNat_lt.mp hanchor)
      · rintro pause rfl
        exact hretired.lt hc hlater.freshPause.2.1 hsecond
      · rintro later rfl
        exact hretired.lt hc hlater.freshStop hsecond
    · rintro pause later rfl rfl hgeneration
      exact haccepted.pause_lt hgeneration
  · obtain heq | ⟨c', heq, -⟩ := c.update_cases message
    · rw [heq]
    · rw [heq] at hrejected
      cases hrejected

namespace PlaybackScenario

def session : SessionId := ⟨"session-1", Scenario.valid_session⟩

def stream : StreamId := ⟨"stream-1", Scenario.valid_stream⟩

def start (anchor : UInt64) : StreamStart :=
  { sessionId := session
    streamId := stream
    hostStartTimeMs := ⟨anchor⟩
    sampleRate := 48000
    channels := 2
    samplesPerPacket := 240
    currentEntryId := none
    currentDisplayName := none }

def playAt (anchor : UInt64) : PlaybackCall := .update (.streamStart (start anchor))

def pauseAt (time : UInt64) : PlaybackCall := .update (.pause ⟨session, stream, ⟨time⟩⟩)

def stopAt (time : UInt64) : PlaybackCall := .update (.stop ⟨session, stream, ⟨time⟩⟩)

end PlaybackScenario

open PlaybackScenario in
/-- A stream is played, paused, resumed and stopped; it is played again after the stop. -/
theorem playback_generations_are_fenced_replayed :
    AcceptedInTurn [playAt 10, pauseAt 12, playAt 15] [] (stopAt 20) (playAt 30) ∧
      max 20 15 < 30 := by
  have hturn : AcceptedInTurn [playAt 10, pauseAt 12, playAt 15] [] (stopAt 20) (playAt 30) :=
    ⟨by decide, by decide⟩
  have hsession : ∀ call ∈ [playAt 10, pauseAt 12, playAt 15, stopAt 20, playAt 30],
      call.OfSession session := by
    simp only [List.forall_mem_cons]
    exact ⟨rfl, rfl, rfl, rfl, rfl, fun _ h => absurd h List.not_mem_nil⟩
  obtain ⟨hfenced, -⟩ := playback_generations_are_fenced session _ hsession
  obtain ⟨-, hstopped, -⟩ := hfenced [playAt 10, pauseAt 12, playAt 15] (stopAt 20) [] (playAt 30)
    [] rfl hturn
  exact ⟨hturn, (hstopped ⟨session, stream, ⟨20⟩⟩ (start 15) rfl rfl).1 (start 30) rfl⟩

end SilentDisco.Transport
