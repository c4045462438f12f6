import SilentDisco.Desktop.Properties.Broadcast

/-!
# Carrying a stream

While a stream plays, the transport carries it: its start is the original one, moved by the time
of the pauses, and its next packet is the one that the pump hands over next. A resume is accepted
because it moves the anchor, and a packet is sent because its time is not before the anchor.

## Main definitions

* `Carried`: the transport has the stream
* `Counted`, `NextPacket`: the packet that the transport and the pump expect

## Main results

* `Carried.update_resume`, `Carried.resumedAt`: a resume is accepted, and the stream is carried on
* `Carried.permitsAudio`: the expected packet is sent
-/

namespace SilentDisco.Desktop

open Protocol Transport PlaybackControls PlaybackStreamer

/-! ## Anchors -/

namespace PlaybackStreamer

variable (p : PlaybackStreamer)

/-- The start of the stream, moved by the time of its pauses so far. -/
def currentStart : StreamStart := p.reanchoredStart p.accumulatedPauseOffsetMs

/-- The stream is the active one. -/
abbrev ActiveIn (c : PlaybackControls) : Prop :=
  c.IsActive p.streamStart.sessionId p.streamStart.streamId

/-- The original anchor. -/
abbrev anchorMs : ℕ := p.streamStart.hostStartTimeMs.get.toNat

variable {p}

theorem anchor_reanchoredStart (offsetMs : ℕ) :
    (anchor (p.reanchoredStart offsetMs)).toNat = min (p.anchorMs + offsetMs) u64Max := by
  change (UInt64.ofNat (min _ u64Max)).toNat = _
  refine UInt64.toNat_ofNat_of_lt' ?_
  exact Nat.lt_succ_of_le (min_le_right _ _)

/-- A stream that was never paused has its original start. -/
theorem reanchoredStart_zero : p.reanchoredStart 0 = p.streamStart := by
  have hanchor : anchor (p.reanchoredStart 0) = anchor p.streamStart := by
    refine UInt64.toNat_inj.mp ?_
    rw [anchor_reanchoredStart, Nat.add_zero]
    exact min_eq_left (Nat.le_of_lt_succ p.streamStart.hostStartTimeMs.get.toNat_lt)
  unfold reanchoredStart
  exact congrArg (fun time => { p.streamStart with hostStartTimeMs := ⟨time⟩ }) hanchor

/-- A resume after the pause moves the anchor. -/
theorem anchor_lt_reanchored {now : MonotonicMillis} (hlater : p.pausedAtMs < now.get.toNat)
    (hfits : p.anchorMs + p.accumulatedPauseOffsetMs < u64Max) :
    anchor p.currentStart < anchor (p.reanchoredStart (p.totalOffsetMs now)) := by
  rw [UInt64.lt_iff_toNat_lt, currentStart, anchor_reanchoredStart, anchor_reanchoredStart]
  unfold totalOffsetMs saturatingAdd
  omega

end PlaybackStreamer

/-! ## The stream in the transport -/

/-- The transport has the stream, and no stop retires it. -/
structure Carried (c : PlaybackControls) (p : PlaybackStreamer) : Prop where
  start : c.streamStart = some p.currentStart
  playing : p.paused = false → c.pause = none
  floor : ∀ floor ∈ c.resumeAnchorFloor, floor ≤ anchor p.currentStart
  notRetired : ¬c.RetiredStart p.currentStart
  notStopped : ¬c.RetiredControl p.streamStart.sessionId (anchor p.currentStart)

/-- The packets that the transport counts go on with this one. -/
structure Counted (c : PlaybackControls) (p : PlaybackStreamer) (n : ℕ) : Prop where
  first : c.awaitingReplayFirstPacket = true → n = 0
  next : ∀ next ∈ c.replayNextPacket,
    next.1.toNat = n ∧ next.2.toNat = n * p.streamStart.samplesPerPacket.toNat
  last : ∀ last ∈ c.replayLastPresentationMs,
    last.toNat ≤ packetTimeMs p.streamStart n p.accumulatedPauseOffsetMs
  uncounted : c.replayNextPacket = none → c.replayLastPresentationMs = none

/-- The pump is in its loop. -/
def Pump.Live (pump : Pump) : Prop := pump ≠ .ending ∧ pump ≠ .finished

/-- The frame that the pump holds, and the offset that was applied to it. -/
def Pump.held : Pump → Option (ProtocolFrame × ℕ)
  | .holding frame appliedMs | .unpaused frame appliedMs | .shifted frame appliedMs
  | .due frame appliedMs => some (frame, appliedMs)
  | _ => none

/-- A frame that the pump holds, before the rest of the packetizer's frames. -/
def HoldsPacket (start : StreamStart) (source : List ProtocolFrame) (n : ℕ) :
    Option (ProtocolFrame × ℕ) → Prop
  | some (.audio packet, appliedMs) =>
    IsPacket start n appliedMs packet ∧ Packetized start (n + 1) source
  | some (.control (.trackBoundary _), _) | none => Packetized start n source
  | _ => False

/-- The next packet that the pump hands over. -/
def NextPacket (p : PlaybackStreamer) (n : ℕ) : Prop :=
  HoldsPacket p.streamStart p.source n p.pump.held

/-- Until the first stop nothing is counted. -/
def Uncounting (c : PlaybackControls) : Prop :=
  c.lastStoppedControl = none → c.awaitingReplayFirstPacket = false ∧ c.replayNextPacket = none ∧
    c.replayLastPresentationMs = none

theorem uncounting_of_accepts {c c' : PlaybackControls} {call : PlaybackCall}
    (h : c.Accepts call c') (hc : Uncounting c) : Uncounting c' := by
  cases h with
  | opened =>
    intro hnone
    change c.lastStoppedControl = none at hnone
    obtain ⟨hawaiting, hnext, hlast⟩ := hc hnone
    simp [openStream, hnone, hawaiting, hnext, hlast]
  | stopped | stoppedIdle => exact fun h => absurd h (Option.some_ne_none _)
  | counted packet _ _ hcounts =>
    intro hnone
    obtain ⟨hawaiting, hnext, -⟩ := hc hnone
    rcases hcounts with hfirst | hlater
    · exact absurd (hawaiting.symm.trans hfirst) Bool.false_ne_true
    · rw [hnext] at hlater
      exact absurd hlater Bool.false_ne_true
  | _ => exact hc

theorem uncounting_broadcastFrame {session : SessionId} {c : PlaybackControls}
    (hc : Uncounting c) (frame : ProtocolFrame) :
    Uncounting (broadcastFrame session c frame).1 := by
  obtain ⟨delivery, -, heq⟩ | ⟨c', call, heq, -, -, haccepts⟩ :=
    broadcastFrame_cases session c frame
  · rw [heq]
    exact hc
  · rw [heq]
    exact uncounting_of_accepts haccepts hc

/-! ## What the frames of a stream do to it -/

section Frames

variable {c c' : PlaybackControls} {p : PlaybackStreamer} {n : ℕ}

theorem Carried.activeIn (h : Carried c p) : p.ActiveIn c := ⟨p.currentStart, h.start, rfl, rfl⟩

/-- The stream alone, not the pump, matters to the transport. -/
theorem Carried.setPump (h : Carried c p) (pump : Pump) (source : List ProtocolFrame) :
    Carried c { p with pump, source } :=
  ⟨h.start, h.playing, h.floor, h.notRetired, h.notStopped⟩

theorem Counted.setPump (h : Counted c p n) (pump : Pump) (source : List ProtocolFrame) :
    Counted c { p with pump, source } n :=
  ⟨h.first, h.next, h.last, h.uncounted⟩

/-- A new stream is carried, and its first packet is expected. -/
theorem carried_openStream {streamStart : StreamStart} (hfresh : c.FreshStart streamStart)
    (source : List ProtocolFrame) : Carried (c.openStream streamStart) { streamStart, source } := by
  have hcurrent : currentStart { streamStart, source } = streamStart :=
    reanchoredStart_zero
  refine ⟨?_, fun _ => rfl, fun _ h => absurd h (Option.not_mem_none _), ?_, ?_⟩
  · rw [hcurrent]
    rfl
  · rw [hcurrent]
    exact hfresh.notRetired
  · rw [hcurrent]
    exact hfresh.notStopped

theorem counted_openStream {streamStart : StreamStart} (hc : Uncounting c)
    (source : List ProtocolFrame) :
    Counted (c.openStream streamStart) { streamStart, source } 0 := by
  have hreset : (c.openStream streamStart).replayNextPacket = none ∧
      (c.openStream streamStart).replayLastPresentationMs = none := by
    unfold openStream
    dsimp only
    split_ifs with hstopped
    · exact ⟨rfl, rfl⟩
    · obtain ⟨-, hnext, hlast⟩ := hc (Option.not_isSome_iff_eq_none.mp hstopped)
      exact ⟨hnext, hlast⟩
  refine ⟨fun _ => rfl, fun next h => ?_, fun last h => ?_, fun _ => hreset.2⟩
  · rw [hreset.1] at h
    exact absurd h (Option.not_mem_none next)
  · rw [hreset.2] at h
    exact absurd h (Option.not_mem_none last)

/-- An accepted pause is noted. -/
theorem pause_of_accepts {pause : Pause} (h : c.Accepts (.update (.pause pause)) c') :
    c.IsActive pause.sessionId pause.streamId ∧
      c' = { c with lastPauseTimeMs := some pause.hostPauseTimeMs.get, pause := some pause } := by
  cases h with
  | paused _ hactive => exact ⟨hactive, rfl⟩
  | unrelated _ hother => exact absurd trivial hother

/-- A pause of the stream changes nothing else. -/
theorem Carried.pausedAt (h : Carried c p) (now : MonotonicMillis) (pause : Option Pause)
    (lastPauseTimeMs : Option UInt64) :
    Carried { c with pause, lastPauseTimeMs } (p.pausedAt now) :=
  ⟨h.start, fun hplaying => absurd hplaying.symm Bool.false_ne_true, h.floor, h.notRetired,
    h.notStopped⟩

/-- An accepted stop leaves no stream, and the one before it was of that name. -/
theorem idle_of_accepts {stop : Stop} (h : c.Accepts (.update (.stop stop)) c') :
    c'.streamStart = none ∧ ∀ start, c.streamStart = some start →
      start.streamId = stop.streamId ∧ start.sessionId = stop.sessionId := by
  refine ⟨h.idle_of_stop.1, fun start hstart => ?_⟩
  cases h with
  | stopped active _ hactive hstream hsession =>
    obtain rfl := Option.some.inj (hactive.symm.trans hstart)
    exact ⟨hstream, hsession⟩
  | stoppedIdle _ hidle => exact absurd (hidle.symm.trans hstart) (Option.some_ne_none _).symm
  | unrelated _ hother => exact absurd trivial hother

/-- An accepted boundary is cached. -/
theorem boundary_of_accepts {boundary : TrackBoundary}
    (h : c.Accepts (.update (.trackBoundary boundary)) c') : c' = c.cacheBoundary boundary := by
  cases h with
  | bounded => rfl
  | unrelated _ hother => exact absurd trivial hother

/-- A start of a stream that is not active opens it. -/
theorem openStream_of_accepts {start : StreamStart}
    (h : c.Accepts (.update (.streamStart start)) c') (hnew : ¬c.IsResume start) :
    c.FreshStart start ∧ c' = c.openStream start := by
  cases h with
  | resumed _ _ hresume => exact absurd hresume hnew
  | opened _ hfresh => exact ⟨hfresh, rfl⟩
  | unrelated _ hother => exact absurd trivial hother

section Resume

variable {now : MonotonicMillis} (hc : Carried c p) (hlater : p.pausedAtMs < now.get.toNat)
  (hfits : p.anchorMs + p.accumulatedPauseOffsetMs < u64Max)

include hc hlater hfits

/-- The start of a resume is after all watermarks. -/
theorem Carried.freshStart : c.FreshStart (p.reanchoredStart (p.totalOffsetMs now)) := by
  have hlt := anchor_lt_reanchored hlater hfits
  refine ⟨?_, ?_, ?_⟩
  · rintro ⟨stopped, hstopped, hsession, hle⟩
    exact hc.notRetired ⟨stopped, hstopped, hsession,
      UInt64.le_of_lt (UInt64.lt_of_lt_of_le hlt hle)⟩
  · rintro ⟨stopped, hstopped, hsession, hle⟩
    exact hc.notStopped ⟨stopped, hstopped, hsession,
      UInt64.le_of_lt (UInt64.lt_of_lt_of_le hlt hle)⟩
  · rintro ⟨previous, hprevious, -, hback⟩
    obtain rfl := Option.some.inj (hc.start.symm.trans hprevious)
    exact UInt64.lt_irrefl _ (UInt64.lt_trans hback hlt)

/-- The resume of a stream that the transport carries is accepted. -/
theorem Carried.update_resume :
    c.update (.streamStart (p.reanchoredStart (p.totalOffsetMs now))) =
      (c.resume (p.reanchoredStart (p.totalOffsetMs now)), true) := by
  refine update_of_isResume (hc.freshStart hlater hfits) hc.activeIn ?_ ?_
  · rintro ⟨previous, hprevious, hformat⟩
    obtain rfl := Option.some.inj (hc.start.symm.trans hprevious)
    rcases hformat with h | h | h
    · exact h rfl
    · exact h rfl
    · exact h rfl
  · rintro ⟨previous, hprevious, hle⟩
    obtain rfl := Option.some.inj (hc.start.symm.trans hprevious)
    exact UInt64.not_lt.mpr hle (anchor_lt_reanchored hlater hfits)

/-- The stream is carried on under the later anchor. -/
theorem Carried.resumedAt :
    Carried (c.resume (p.reanchoredStart (p.totalOffsetMs now))) (p.resumedAt now) := by
  have hfresh := hc.freshStart hlater hfits
  have hlt := anchor_lt_reanchored hlater hfits
  refine ⟨rfl, fun _ => rfl, fun lower hmem => ?_, hfresh.notRetired, hfresh.notStopped⟩
  rw [resumeAnchorFloor_resume] at hmem
  split_ifs at hmem with hkeeps
  · obtain ⟨previous, hprevious, hle⟩ := hkeeps
    obtain rfl := Option.some.inj (hc.start.symm.trans hprevious)
    exact absurd hlt (UInt64.not_lt.mpr hle)
  · obtain rfl := Option.some.inj hmem
    exact UInt64.le_refl _

end Resume

theorem packetTimeMs_mono {start : StreamStart} {n' offsetMs offsetMs' : ℕ} (hn : n ≤ n')
    (hoffset : offsetMs ≤ offsetMs') :
    packetTimeMs start n offsetMs ≤ packetTimeMs start n' offsetMs' := by
  refine min_le_min_right _ (Nat.add_le_add (Nat.add_le_add_left ?_ _) hoffset)
  refine Nat.div_le_div_right (Nat.add_le_add_right ?_ _)
  exact Nat.mul_le_mul_right _ (Nat.mul_le_mul_right _ hn)

/-- A resume keeps the packet that is expected. -/
theorem Counted.resumedAt {now : MonotonicMillis} (h : Counted c p n)
    (hacc : p.accumulatedPauseOffsetMs ≤ u64Max) (start : StreamStart) :
    Counted (c.resume start) (p.resumedAt now) n := by
  refine ⟨h.first, h.next, fun last hlast => (h.last last hlast).trans ?_, h.uncounted⟩
  refine packetTimeMs_mono le_rfl ?_
  exact le_min (Nat.le_add_right _ _) hacc

/-! ## Packets -/

section Packets

variable {packet : AudioDatagram}

theorem packetPositionMs_zero (start : StreamStart) : packetPositionMs start 0 = 0 := by
  unfold packetPositionMs
  rw [Nat.zero_mul, Nat.zero_mul, Nat.zero_add]
  rcases Nat.eq_zero_or_pos start.sampleRate.toNat with hzero | hpos
  · rw [hzero, Nat.div_zero]
  · exact Nat.div_eq_of_lt (Nat.div_lt_self hpos Nat.one_lt_two)

/-- A packet is not before the anchor that is in force; the first one is at it. -/
theorem IsPacket.anchor_le
    (h : IsPacket p.streamStart n p.accumulatedPauseOffsetMs packet) :
    anchor p.currentStart ≤ packet.hostPresentationTimeMs.get := by
  rw [UInt64.le_iff_toNat_le, h.time, currentStart, anchor_reanchoredStart]
  unfold packetTimeMs anchorMs
  omega

theorem IsPacket.time_eq (h : IsPacket p.streamStart 0 p.accumulatedPauseOffsetMs packet) :
    packet.hostPresentationTimeMs = p.currentStart.hostStartTimeMs := by
  have htime : packet.hostPresentationTimeMs.get = anchor p.currentStart := by
    refine UInt64.toNat_inj.mp ?_
    rw [h.time, currentStart, anchor_reanchoredStart,
      packetTimeMs, packetPositionMs_zero, Nat.add_zero]
  exact congrArg MonotonicMillis.mk htime

theorem Carried.allowsAudio (hc : Carried c p) (hplaying : p.paused = false)
    (hpacket : IsPacket p.streamStart n p.accumulatedPauseOffsetMs packet) :
    c.AllowsAudio packet := by
  refine ⟨fun start hstart => ?_, fun hnone => ?_⟩
  · obtain rfl := Option.some.inj (hc.start.symm.trans hstart)
    refine ⟨hpacket.sessionId.symm, hpacket.streamId.symm, hc.playing hplaying,
      fun lower hlower => UInt64.le_trans (hc.floor lower hlower) hpacket.anchor_le, ?_⟩
    rintro ⟨stopped, -, -, hbefore⟩
    exact UInt64.not_lt.mpr hpacket.anchor_le hbefore
  · rw [hc.start] at hnone
    exact absurd hnone (Option.some_ne_none _)

theorem Counted.continuesReplay (hc : Carried c p) (hn : Counted c p n)
    (hpacket : IsPacket p.streamStart n p.accumulatedPauseOffsetMs packet) :
    c.ContinuesReplay packet := by
  refine ⟨fun hfirst => ?_, fun last hlast => ?_, fun next hnext => ?_⟩
  · obtain rfl := hn.first hfirst
    refine ⟨UInt64.toNat_inj.mp hpacket.sequence, UInt64.toNat_inj.mp ?_, fun start hstart => ?_⟩
    · rw [hpacket.first, Nat.zero_mul]
      rfl
    · obtain rfl := Option.some.inj (hc.start.symm.trans hstart)
      exact hpacket.time_eq
  · rw [UInt64.le_iff_toNat_le, hpacket.time]
    exact hn.last last hlast
  · obtain ⟨hsequence, hsample⟩ := hn.next next hnext
    exact ⟨UInt64.toNat_inj.mp (hpacket.sequence.trans hsequence.symm),
      UInt64.toNat_inj.mp (hpacket.first.trans hsample.symm)⟩

/-- The next packet is sent, and its successor is expected. -/
theorem Carried.permitsAudio (hc : Carried c p) (hn : Counted c p n) (hplaying : p.paused = false)
    (hpacket : IsPacket p.streamStart n p.accumulatedPauseOffsetMs packet)
    (hcountable : ¬Uncountable packet) :
    ∃ c', c.permitsAudio packet = (c', true) ∧ Carried c' p ∧ Counted c' p (n + 1) := by
  obtain hrejected | ⟨c', haccepted, haccepts⟩ := c.permitsAudio_cases packet
  · have hfalse := permitsAudio_eq_false.mp (congrArg Prod.snd hrejected)
    rcases hfalse with hallows | hcontinues | ⟨-, huncountable⟩
    · exact absurd (hc.allowsAudio hplaying hpacket) hallows
    · exact absurd (hn.continuesReplay hc hpacket) hcontinues
    · exact absurd huncountable hcountable
  · refine ⟨c', haccepted, ?_⟩
    cases haccepts with
    | counted _ _ _ _ hsequence hsample =>
      refine ⟨⟨hc.start, hc.playing, hc.floor, hc.notRetired, hc.notStopped⟩,
        ⟨fun h => absurd h Bool.false_ne_true, ?_, ?_, fun h => absurd h (Option.some_ne_none _)⟩⟩
      · rintro _ ⟨⟩
        dsimp only
        rw [UInt64.toNat_ofNat_of_lt' hsequence, UInt64.toNat_ofNat_of_lt' hsample,
          hpacket.sequence, hpacket.first, hpacket.samples, Nat.succ_mul]
        exact ⟨rfl, rfl⟩
      · rintro _ ⟨⟩
        rw [hpacket.time]
        exact packetTimeMs_mono n.le_succ le_rfl
    | sent _ _ _ huncounted =>
      have hawaiting := fun h => huncounted (.inl h)
      have hnext : c.replayNextPacket = none :=
        Option.not_isSome_iff_eq_none.mp fun h => huncounted (.inr h)
      refine ⟨hc, fun h => absurd h hawaiting, fun next hmem => ?_, fun last hmem => ?_,
        hn.uncounted⟩
      · rw [hnext] at hmem
        exact absurd hmem (Option.not_mem_none next)
      · rw [hn.uncounted hnext] at hmem
        exact absurd hmem (Option.not_mem_none last)

/-- The offset of a packet adds up. -/
theorem IsPacket.applyPauseOffset {start : StreamStart} {appliedMs : ℕ}
    (h : IsPacket start n appliedMs packet) (offsetMs : ℕ) :
    ∃ shifted, applyPauseOffset offsetMs (.audio packet) = .audio shifted ∧
      IsPacket start n (appliedMs + offsetMs) shifted := by
  refine ⟨_, rfl, h.sessionId, h.streamId, h.sequence, h.first, h.samples, ?_, h.encodes⟩
  have hle : saturatingAdd packet.hostPresentationTimeMs.get.toNat offsetMs ≤ u64Max :=
    min_le_right _ _
  change (UInt64.ofNat _).toNat = _
  rw [UInt64.toNat_ofNat_of_lt' (Nat.lt_succ_of_le hle), h.time]
  unfold saturatingAdd packetTimeMs
  omega

/-- A held frame keeps its place when it is shifted. -/
theorem HoldsPacket.applyPauseOffset {start : StreamStart} {source : List ProtocolFrame}
    {frame : ProtocolFrame} {appliedMs : ℕ}
    (h : HoldsPacket start source n (some (frame, appliedMs)))
    (offsetMs : ℕ) :
    HoldsPacket start source n
      (some (Desktop.applyPauseOffset offsetMs frame, appliedMs + offsetMs)) := by
  cases frame with
  | audio =>
    obtain ⟨shifted, heq, hshifted⟩ := h.1.applyPauseOffset offsetMs
    rw [heq]
    exact ⟨hshifted, h.2⟩
  | control message =>
    cases message with
    | trackBoundary => exact h
    | _ => exact False.elim h
  | _ => exact False.elim h

/-- A frame is received at its place. -/
theorem holdsPacket_received {start : StreamStart} {frame : ProtocolFrame}
    {rest : List ProtocolFrame} (h : Packetized start n (frame :: rest)) :
    HoldsPacket start rest n (some (frame, 0)) := by
  cases frame with
  | audio => exact h
  | control message =>
    cases message with
    | trackBoundary => exact h
    | _ => exact False.elim h
  | _ => exact False.elim h

end Packets

end Frames

end SilentDisco.Desktop
