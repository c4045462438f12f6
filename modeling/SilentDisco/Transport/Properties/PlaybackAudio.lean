import SilentDisco.Transport.Properties.Playback

/-!
# The audio fence of the playback controls

After the first stop, audio is sent only for an active stream, and the packets of every play are
counted: what is sent between two plays is a contiguous run from packet zero. A resume moves the
anchor of its stream; packets of the earlier timeline are recognized by their time alone, so the
ones that were stamped after the new anchor still pass.

## Main definitions

* `PlaybackControls.sent`: the packets that a run sends, with the controls they were sent under
* `ContiguousRun`: packets in sequence, from the anchor on
* `PlaybackControls.Replays`: the counters describe the packets sent so far

## Main results

* `replayed_audio_is_contiguous`: what is sent after a stop
* `retired_timeline_rejected_iff`: which packets of the timeline before a resume are rejected
-/

namespace SilentDisco.Transport

open Protocol

namespace PlaybackControls

variable {c c' : PlaybackControls} {call : PlaybackCall}

/-! ## Histories -/

/-- The call sends a packet. -/
def Sends (c : PlaybackControls) (call : PlaybackCall) : Prop :=
  ∃ packet, call = .permitsAudio packet ∧ playbackControls.out c call = true

/-- The call is an accepted start. -/
def Starts (c : PlaybackControls) (call : PlaybackCall) : Prop :=
  ∃ start, call = .update (.streamStart start) ∧ playbackControls.out c call = true

/-- The call is an accepted stop. -/
def Stops (c : PlaybackControls) (call : PlaybackCall) : Prop :=
  ∃ stop, call = .update (.stop stop) ∧ playbackControls.out c call = true

/-- Note a packet that is sent, with the controls it is sent under. -/
def noteSent (sent : List (PlaybackControls × AudioDatagram)) (c : PlaybackControls) :
    PlaybackCall → List (PlaybackControls × AudioDatagram)
  | .permitsAudio packet => if (c.permitsAudio packet).2 then sent ++ [(c, packet)] else sent
  | .update _ => sent

/-- The packets that a run sends. -/
def sent (c : PlaybackControls) (calls : List PlaybackCall) :
    List (PlaybackControls × AudioDatagram) :=
  playbackControls.record noteSent [] c calls

end PlaybackControls

open PlaybackControls

/-- The samples of the packets of a history. -/
def samplesSent (sent : List (PlaybackControls × AudioDatagram)) : ℕ :=
  (sent.map fun entry => entry.2.samplesPerPacket.toNat).sum

/-- The packet is of the stream that is active under these controls, which plays. -/
def SentOn (start : StreamStart) (entry : PlaybackControls × AudioDatagram) : Prop :=
  entry.2.sessionId = start.sessionId ∧ entry.2.streamId = start.streamId ∧
    entry.1.pause = none ∧ entry.1.IsActive start.sessionId start.streamId

/-- Packets of one stream in sequence: numbered from zero, each after the samples of the ones
before it, the first one at the anchor in force, and never back in time. -/
structure ContiguousRun (start : StreamStart) (sent : List (PlaybackControls × AudioDatagram)) :
    Prop where
  positions : ∀ i (h : i < sent.length), sent[i].2.sequence.get.toNat = i ∧
    sent[i].2.firstSampleIndex.get.toNat = samplesSent (sent.take i)
  anchored : ∀ first ∈ sent.head?, ∃ current ∈ first.1.streamStart,
    first.2.hostPresentationTimeMs = current.hostStartTimeMs
  ordered : sent.Pairwise fun earlier later =>
    earlier.2.hostPresentationTimeMs.get ≤ later.2.hostPresentationTimeMs.get
  sentOn : ∀ entry ∈ sent, SentOn start entry

namespace ContiguousRun

variable {start : StreamStart} {sent : List (PlaybackControls × AudioDatagram)}

theorem nil : ContiguousRun start [] where
  positions i h := absurd h (Nat.not_lt_zero i)
  anchored _ h := absurd h (Option.not_mem_none _)
  ordered := .nil
  sentOn _ h := absurd h List.not_mem_nil

/-- One more packet of the run. -/
theorem snoc {entry : PlaybackControls × AudioDatagram} (h : ContiguousRun start sent)
    (hsequence : entry.2.sequence.get.toNat = sent.length)
    (hsample : entry.2.firstSampleIndex.get.toNat = samplesSent sent)
    (hfirst : sent = [] → ∃ current ∈ entry.1.streamStart,
      entry.2.hostPresentationTimeMs = current.hostStartTimeMs)
    (hlater : ∀ earlier ∈ sent,
      earlier.2.hostPresentationTimeMs.get ≤ entry.2.hostPresentationTimeMs.get)
    (hentry : SentOn start entry) : ContiguousRun start (sent ++ [entry]) where
  positions i hi := by
    rw [List.length_append, List.length_singleton] at hi
    rcases Nat.lt_succ_iff_lt_or_eq.mp hi with hlt | rfl
    · rw [List.getElem_append_left hlt, List.take_append_of_le_length hlt.le]
      exact h.positions i hlt
    · rw [List.getElem_concat_length rfl, List.take_left]
      exact ⟨hsequence, hsample⟩
  anchored first hmem := by
    cases sent with
    | nil =>
      obtain rfl := Option.some.inj hmem
      exact hfirst rfl
    | cons => exact h.anchored first hmem
  ordered := by
    refine List.pairwise_append.mpr ⟨h.ordered, List.pairwise_singleton _ _, ?_⟩
    intro earlier hearlier _ hmem
    obtain rfl := List.mem_singleton.mp hmem
    exact hlater earlier hearlier
  sentOn other hmem := by
    rcases List.mem_append.mp hmem with hold | hnew
    · exact h.sentOn other hold
    · obtain rfl := List.mem_singleton.mp hnew
      exact hentry

end ContiguousRun

/-! ## Counting the packets of a play -/

namespace PlaybackControls

/-- The stream plays after a stop, and the counters describe the packets sent so far. -/
structure Replays (start : StreamStart) (c : PlaybackControls)
    (sent : List (PlaybackControls × AudioDatagram)) : Prop where
  stopped : c.lastStoppedControl.isSome = true
  active : c.IsActive start.sessionId start.streamId
  run : ContiguousRun start sent
  counted : c.awaitingReplayFirstPacket = true ∧ c.replayNextPacket = none ∧ sent = [] ∨
    c.awaitingReplayFirstPacket = false ∧ sent ≠ [] ∧ ∃ next ∈ c.replayNextPacket,
      next.1.toNat = sent.length ∧ next.2.toNat = samplesSent sent
  latest : ∀ earlier ∈ sent, ∃ previous ∈ c.replayLastPresentationMs,
    earlier.2.hostPresentationTimeMs.get ≤ previous

section Replays

variable {c c' : PlaybackControls} {call : PlaybackCall} {start : StreamStart}
  {sent : List (PlaybackControls × AudioDatagram)}

/-- After a stop, opening a stream starts to count its packets. -/
theorem replays_openStream (hstopped : c.lastStoppedControl.isSome = true) :
    Replays start (c.openStream start) [] where
  stopped := hstopped
  active := ⟨start, rfl, rfl, rfl⟩
  run := .nil
  counted := .inl ⟨if_pos hstopped, if_pos hstopped, rfl⟩
  latest _ h := absurd h List.not_mem_nil

/-- What is allowed for an active stream is of this stream, which plays. -/
theorem AllowsAudio.sentOn {packet : AudioDatagram} (h : c.AllowsAudio packet)
    (hactive : c.IsActive start.sessionId start.streamId) : SentOn start (c, packet) := by
  obtain ⟨current, hcurrent, hstream, hsession⟩ := hactive
  obtain ⟨hsession', hstream', hpause, -⟩ := h.1 current hcurrent
  exact ⟨hsession'.symm.trans hsession, hstream'.symm.trans hstream, hpause, current, hcurrent,
    hstream, hsession⟩

/-- A counted packet continues the run. -/
theorem Replays.counts {packet : AudioDatagram} (h : Replays start c sent)
    (hallows : c.AllowsAudio packet) (hcontinues : c.ContinuesReplay packet)
    (hsequence : packet.sequence.get.toNat + 1 < 2 ^ 64)
    (hsample : packet.firstSampleIndex.get.toNat + packet.samplesPerPacket.toNat < 2 ^ 64) :
    Replays start
      { c with
        awaitingReplayFirstPacket := false
        replayNextPacket := some (UInt64.ofNat (packet.sequence.get.toNat + 1),
          UInt64.ofNat (packet.firstSampleIndex.get.toNat + packet.samplesPerPacket.toNat))
        replayLastPresentationMs := some packet.hostPresentationTimeMs.get }
      (sent ++ [(c, packet)]) := by
  obtain ⟨hawaiting, hlatest, hnext⟩ := hcontinues
  have hposition : packet.sequence.get.toNat = sent.length ∧
      packet.firstSampleIndex.get.toNat = samplesSent sent := by
    rcases h.counted with ⟨hfirst, -, rfl⟩ | ⟨-, -, next, hmem, hlength, hsamples⟩
    · obtain ⟨hzero, hzero', -⟩ := hawaiting hfirst
      rw [hzero, hzero']
      exact ⟨rfl, rfl⟩
    · obtain ⟨hseq, hsam⟩ := hnext next hmem
      rw [hseq, hsam]
      exact ⟨hlength, hsamples⟩
  have hlater : ∀ earlier ∈ sent,
      earlier.2.hostPresentationTimeMs.get ≤ packet.hostPresentationTimeMs.get := by
    intro earlier hearlier
    obtain ⟨previous, hprevious, hle⟩ := h.latest earlier hearlier
    exact UInt64.le_trans hle (hlatest previous hprevious)
  have hanchored : sent = [] → ∃ current ∈ c.streamStart,
      packet.hostPresentationTimeMs = current.hostStartTimeMs := by
    rintro rfl
    rcases h.counted with ⟨hfirst, -, -⟩ | ⟨-, hne, -⟩
    · obtain ⟨current, hcurrent, -⟩ := h.active
      exact ⟨current, hcurrent, (hawaiting hfirst).2.2 current hcurrent⟩
    · exact absurd rfl hne
  refine ⟨h.stopped, h.active, h.run.snoc hposition.1 hposition.2 hanchored hlater
    (hallows.sentOn h.active), .inr ⟨rfl, by simp, _, rfl, ?_, ?_⟩, ?_⟩
  · rw [UInt64.toNat_ofNat_of_lt' hsequence, List.length_append, hposition.1]
    rfl
  · rw [UInt64.toNat_ofNat_of_lt' hsample, hposition.2]
    simp [samplesSent]
  · intro earlier hmem
    refine ⟨_, rfl, ?_⟩
    rcases List.mem_append.mp hmem with hold | hnew
    · exact hlater earlier hold
    · obtain rfl := List.mem_singleton.mp hnew
      exact UInt64.le_refl _

/-- While no stream is opened and none is stopped, calls continue the run. -/
theorem Replays.next (h : Replays start c sent) (hopens : ¬c.Opens call) (hstops : ¬c.Stops call) :
    Replays start (playbackControls.next c call) (noteSent sent c call) := by
  obtain hrejected | ⟨c', haccepted, haccepts⟩ := c.apply_cases call
  · have hnext : playbackControls.next c call = c := congrArg Prod.fst hrejected
    have hnote : noteSent sent c call = sent := by
      cases call with
      | update => rfl
      | permitsAudio packet =>
        have hout : (c.permitsAudio packet).2 = false := congrArg Prod.snd hrejected
        simp [noteSent, hout]
    rw [hnext, hnote]
    exact h
  · have hout : playbackControls.out c call = true := congrArg Prod.snd haccepted
    rw [show playbackControls.next c call = c' from congrArg Prod.fst haccepted]
    cases haccepts with
    | resumed resumed hfresh hresume =>
      exact ⟨h.stopped, ⟨resumed, rfl, hresume.isActive h.active⟩, h.run, h.counted, h.latest⟩
    | opened opened hfresh hnew => exact absurd ⟨opened, rfl, hnew, hout⟩ hopens
    | stopped _ stop | stoppedIdle stop => exact absurd ⟨stop, rfl, hout⟩ hstops
    | counted packet hallows hcontinues hcounts hsequence hsample =>
      have hnote : noteSent sent c (.permitsAudio packet) = sent ++ [(c, packet)] := if_pos hout
      rw [hnote]
      exact h.counts hallows hcontinues hsequence hsample
    | sent _ _ _ huncounted =>
      rcases h.counted with ⟨hfirst, -⟩ | ⟨-, -, next, hnext, -⟩
      · exact absurd (.inl hfirst) huncounted
      · exact absurd (.inr (Option.isSome_iff_exists.mpr ⟨next, hnext⟩)) huncounted
    | _ => exact ⟨h.stopped, h.active, h.run, h.counted, h.latest⟩

/-- Between the opening of a stream and the next opening or stop, the packets sent are a
contiguous run. -/
theorem Replays.contiguousRun (h : Replays start c []) {segment : List PlaybackCall}
    (hsegment : playbackControls.Along (fun c call => ¬c.Opens call ∧ ¬c.Stops call) c segment) :
    ContiguousRun start (c.sent segment) :=
  (Machine.Along.invariant_record (I := Replays start)
    (fun _ _ _ h hcall => h.next hcall.1 hcall.2) h hsegment).run

end Replays

/-! ## Audio after a stop -/

section Stopped

variable {c c' : PlaybackControls} {call : PlaybackCall}

/-- No call forgets that playback was stopped. -/
theorem Accepts.stopped_isSome (h : c.Accepts call c') (hc : c.lastStoppedControl.isSome = true) :
    c'.lastStoppedControl.isSome = true := by
  cases h with
  | stopped | stoppedIdle => rfl
  | _ => exact hc

/-- An accepted stop leaves no active stream. -/
theorem Accepts.idle_of_stop {stop : Stop} (h : c.Accepts (.update (.stop stop)) c') :
    c'.streamStart = none ∧ c'.lastStoppedControl.isSome = true := by
  cases h with
  | stopped => exact ⟨rfl, rfl⟩
  | stoppedIdle _ hidle => exact ⟨hidle, rfl⟩
  | unrelated _ hother => exact absurd trivial hother

/-- Only a start makes a stream active. -/
theorem Accepts.idle (h : c.Accepts call c') (hidle : c.streamStart = none)
    (hstart : ∀ start, call ≠ .update (.streamStart start)) : c'.streamStart = none := by
  cases h with
  | resumed start | opened start => exact absurd rfl (hstart start)
  | stopped start stop hactive =>
    exact absurd (hidle.symm.trans hactive) (Option.some_ne_none start).symm
  | _ => exact hidle

theorem allowsAudio_of_sends {packet : AudioDatagram}
    (h : c.Accepts (.permitsAudio packet) c') : c.AllowsAudio packet := by
  cases h with
  | counted _ hallows | sent _ hallows => exact hallows

/-- After a stop, a packet is sent only for an active stream that plays. -/
theorem exists_sentOn {packet : AudioDatagram} (hc : c.lastStoppedControl.isSome = true)
    (h : c.AllowsAudio packet) : ∃ start ∈ c.streamStart, SentOn start (c, packet) := by
  cases hstart : c.streamStart with
  | none =>
    rw [h.2 hstart] at hc
    exact absurd hc Bool.false_ne_true
  | some start => exact ⟨start, rfl, h.sentOn ⟨start, hstart, rfl, rfl⟩⟩

/-- A packet is sent only while nothing is paused, and for no stream but the active one. -/
theorem Coherent.sentOn {packet : AudioDatagram} (hc : c.Coherent) (h : c.AllowsAudio packet) :
    c.pause = none ∧ ∀ start ∈ c.streamStart, SentOn start (c, packet) := by
  refine ⟨Option.eq_none_iff_forall_not_mem.mpr fun pause hpause => ?_, fun start hstart =>
    h.sentOn ⟨start, hstart, rfl, rfl⟩⟩
  -- A pause is one of the active stream, whose packets are not sent while it is paused.
  obtain ⟨start, hstart, -⟩ := hc.pause pause hpause
  obtain ⟨-, -, hnone, -⟩ := h.1 start hstart
  cases hnone.symm.trans hpause

end Stopped

end PlaybackControls

/-- **Replayed audio is contiguous.** After every run, packets are sent for no stream but the active
one, and none while it is paused. After an accepted stop nothing is sent until a start is accepted.
From then on there is an active stream whenever a packet is sent, and what is sent between the
opening of a stream and the next opening or stop is a contiguous run. -/
theorem replayed_audio_is_contiguous (before : List PlaybackCall) :
    (∀ packet, playbackControls.out (run before) (.permitsAudio packet) = true →
      (run before).pause = none ∧
        ∀ start ∈ (run before).streamStart, SentOn start (run before, packet)) ∧
    ∀ stop, playbackControls.out (run before) (.update (.stop stop)) = true → ∀ later,
    (playbackControls.Along (fun c call => ¬c.Starts call)
        (playbackControls.next (run before) (.update (.stop stop))) later →
      playbackControls.Along (fun c call => ¬c.Sends call)
        (playbackControls.next (run before) (.update (.stop stop))) later) ∧
    (∀ start segment,
      Opens (run (before ++ .update (.stop stop) :: later)) (.update (.streamStart start)) →
      playbackControls.Along (fun c call => ¬c.Opens call ∧ ¬c.Stops call)
        (playbackControls.next (run (before ++ .update (.stop stop) :: later))
          (.update (.streamStart start))) segment →
      ContiguousRun start
        (sent (playbackControls.next (run (before ++ .update (.stop stop) :: later))
          (.update (.streamStart start))) segment)) ∧
    playbackControls.Along
      (fun c call => ∀ packet, call = .permitsAudio packet → playbackControls.out c call = true →
        ∃ start ∈ c.streamStart, SentOn start (c, packet))
      (playbackControls.next (run before) (.update (.stop stop))) later := by
  refine ⟨fun packet hout => ?_, fun stop hstop later => ?_⟩
  · exact (coherent_of_reachable ⟨_, before, rfl, rfl⟩).sentOn
      (allowsAudio_of_sends (accepts_of_out hout))
  obtain ⟨hidle, hstopped⟩ := (accepts_of_out hstop).idle_of_stop
  have hkeeps (c : PlaybackControls) (call : PlaybackCall)
      (hc : c.lastStoppedControl.isSome = true) :
      (playbackControls.next c call).lastStoppedControl.isSome = true :=
    next_of_accepts (I := fun c => c.lastStoppedControl.isSome = true) hc
      fun _ h => h.stopped_isSome hc
  refine ⟨fun hstarts => ?_, fun start segment hopens hsegment => ?_, ?_⟩
  · refine Machine.along_of_invariant
      (I := fun c => c.streamStart = none ∧ c.lastStoppedControl.isSome = true) ?_
      ⟨hidle, hstopped⟩ hstarts
    rintro c call ⟨hnone, hsome⟩ hstart
    constructor
    · rintro ⟨packet, rfl, hout⟩
      have hnever := (allowsAudio_of_sends (accepts_of_out hout)).2 hnone
      rw [hnever] at hsome
      exact absurd hsome Bool.false_ne_true
    · refine ⟨?_, hkeeps c call hsome⟩
      change (c.apply call).1.streamStart = none
      obtain hrejected | ⟨c', haccepted, haccepts⟩ := c.apply_cases call
      · rw [hrejected]
        exact hnone
      · rw [haccepted]
        refine haccepts.idle hnone ?_
        rintro start rfl
        exact hstart ⟨start, rfl, congrArg Prod.snd haccepted⟩
  · obtain ⟨opened, hcall, hnew, hout⟩ := hopens
    cases hcall
    have hsome : (run (before ++ .update (.stop stop) :: later)).lastStoppedControl.isSome =
        true := by
      rw [run, Machine.after_append, Machine.after_cons]
      exact Machine.invariant_after hkeeps hstopped later
    refine Replays.contiguousRun ?_ hsegment
    have hnext := accepts_of_out hout
    generalize playbackControls.next (run (before ++ .update (.stop stop) :: later))
      (.update (.streamStart start)) = c' at hnext
    cases hnext with
    | resumed _ _ hresume => exact absurd hresume hnew
    | opened => exact replays_openStream hsome
    | unrelated _ hother => exact absurd trivial hother
  · refine Machine.along_of_preserved (I := fun c => c.lastStoppedControl.isSome = true) ?_
      hstopped later
    intro c call hsome
    refine ⟨?_, hkeeps c call hsome⟩
    rintro packet rfl hout
    exact exists_sentOn hsome (allowsAudio_of_sends (accepts_of_out hout))

namespace PlaybackScenario

/-- A packet of 240 samples of the scenario's stream. -/
def packet (sequence sample time : UInt64) : AudioDatagram :=
  { sessionId := session
    streamId := stream
    sequence := ⟨sequence⟩
    codec := .pcmS16Le
    sampleRate := 48000
    channels := 2
    samplesPerPacket := 240
    firstSampleIndex := ⟨sample⟩
    hostPresentationTimeMs := ⟨time⟩
    payload := [] }

def packetAt (sequence sample time : UInt64) : PlaybackCall :=
  .permitsAudio (packet sequence sample time)

end PlaybackScenario

open PlaybackScenario in
/-- A stream sends a packet, is stopped and played again, and sends two packets. -/
theorem replayed_audio_is_contiguous_two :
    SentOn (start 10) (run [playAt 10], packet 7 1680 45) ∧
      ∃ sent, ContiguousRun (start 30) sent ∧ sent.length = 2 := by
  obtain ⟨hplaying, hstops⟩ := replayed_audio_is_contiguous [playAt 10]
  refine ⟨(hplaying _ (by decide)).2 _ rfl, ?_⟩
  obtain ⟨-, hreplayed, -⟩ := hstops ⟨session, stream, ⟨20⟩⟩ (by decide) []
  have hopens : Opens (run [playAt 10, stopAt 20]) (playAt 30) :=
    ⟨start 30, rfl, by decide, by decide⟩
  have haudio (c : PlaybackControls) (sequence sample time : UInt64) :
      ¬c.Opens (packetAt sequence sample time) ∧ ¬c.Stops (packetAt sequence sample time) := by
    constructor
    · rintro ⟨_, h, -⟩
      cases h
    · rintro ⟨_, h, -⟩
      cases h
  exact ⟨_, hreplayed (start 30) [packetAt 0 0 30, packetAt 1 240 35] hopens
    ⟨haudio _ 0 0 30, haudio _ 1 240 35, trivial⟩, by decide⟩

/-! ## The timeline before a resume -/

namespace PlaybackControls

/-- The stream was resumed under a later anchor, and fences audio before its anchor. -/
def Reanchored (start : StreamStart) (c : PlaybackControls) : Prop :=
  ∃ current ∈ c.streamStart, current.streamId = start.streamId ∧
    current.sessionId = start.sessionId ∧ anchor start ≤ anchor current ∧
    c.resumeAnchorFloor = some (anchor current)

variable {c c' : PlaybackControls} {call : PlaybackCall} {start : StreamStart}

theorem resumeAnchorFloor_resume (c : PlaybackControls) (start : StreamStart) :
    (c.resume start).resumeAnchorFloor =
      if c.KeepsAnchor start then c.resumeAnchorFloor else some (anchor start) := rfl

/-- A resume under a later anchor fences the audio before it. -/
theorem reanchored_resume {previous : StreamStart} (hprevious : c.streamStart = some previous)
    (hmoved : anchor previous < anchor start) : (c.resume start).Reanchored start := by
  refine ⟨start, rfl, rfl, rfl, UInt64.le_refl _, ?_⟩
  rw [resumeAnchorFloor_resume, if_neg]
  rintro ⟨active, hactive, hle⟩
  obtain rfl := Option.some.inj (hprevious.symm.trans hactive)
  exact UInt64.not_lt.mpr hle hmoved

/-- Until the stream is opened again or stopped, its audio stays fenced by its anchor. -/
theorem Accepts.reanchored (h : c.Accepts call c') (hc : c.Reanchored start)
    (hopens : ∀ opened, call = .update (.streamStart opened) → c.IsResume opened)
    (hstops : ∀ stop, call ≠ .update (.stop stop)) : c'.Reanchored start := by
  cases h with
  | resumed resumed hfresh hresume =>
    obtain ⟨current, hcurrent, hstream, hsession, hle, hfloor⟩ := hc
    obtain ⟨hstream', hsession'⟩ := hresume.eq hcurrent
    have hforward : anchor current ≤ anchor resumed := UInt64.not_lt.mp fun hlt =>
      hfresh.forward ⟨current, hcurrent, hsession', hlt⟩
    refine ⟨resumed, rfl, hstream'.symm.trans hstream, hsession'.symm.trans hsession,
      UInt64.le_trans hle hforward, ?_⟩
    rw [resumeAnchorFloor_resume]
    split_ifs with hkeeps
    · -- the anchor is not moved back, so it is kept
      obtain ⟨active, hactive, hback⟩ := hkeeps
      obtain rfl := Option.some.inj (hcurrent.symm.trans hactive)
      rw [hfloor, UInt64.le_antisymm hforward hback]
    · rfl
  | opened opened hfresh hnew => exact absurd (hopens opened rfl) hnew
  | stopped _ stop | stoppedIdle stop => exact absurd rfl (hstops stop)
  | _ => exact hc

theorem reanchored_after (hc : c.Reanchored start) {later : List PlaybackCall}
    (hlater : playbackControls.Along (fun c call => ¬c.Opens call ∧ ¬c.Stops call) c later) :
    (playbackControls.after c later).Reanchored start := by
  refine Machine.Along.invariant (I := Reanchored start) (fun c call hc hcall => ?_) hc hlater
  change Reanchored start (c.apply call).1
  obtain hrejected | ⟨c', haccepted, haccepts⟩ := c.apply_cases call
  · rw [hrejected]
    exact hc
  · have hout : playbackControls.out c call = true := congrArg Prod.snd haccepted
    rw [haccepted]
    refine haccepts.reanchored hc (fun opened hopened => ?_) fun stop hstop => ?_
    · by_contra hnew
      exact hcall.1 ⟨opened, hopened, hnew, hout⟩
    · exact hcall.2 ⟨stop, hstop, hout⟩

/-- The packet cannot be counted: its successor has no number, or no position. -/
def Uncountable (packet : AudioDatagram) : Prop :=
  packet.sequence.get.toNat + 1 ≥ 2 ^ 64 ∨
    packet.firstSampleIndex.get.toNat + packet.samplesPerPacket.toNat ≥ 2 ^ 64

theorem permitsAudio_eq_false {packet : AudioDatagram} :
    (c.permitsAudio packet).2 = false ↔
      ¬c.AllowsAudio packet ∨ ¬c.ContinuesReplay packet ∨ c.CountsPackets ∧ Uncountable packet := by
  unfold permitsAudio Uncountable
  by_cases hallows : c.AllowsAudio packet
  · by_cases hcontinues : c.ContinuesReplay packet
    · by_cases hcounts : c.CountsPackets
      · simp only [hallows, hcontinues, hcounts, not_true_eq_false, if_true, if_false, false_or,
          true_and]
        split_ifs with hsequence hsample
        · exact iff_of_true rfl (.inl hsequence)
        · exact iff_of_true rfl (.inr hsample)
        · exact iff_of_false (by simp) (not_or.mpr ⟨hsequence, hsample⟩)
      · simp [hallows, hcontinues, hcounts]
    · simp [hallows, hcontinues]
  · simp [hallows]

/-- A fenced stream sends what is not before its anchor, while it plays. -/
theorem Reanchored.allowsAudio_iff {current : StreamStart} {packet : AudioDatagram}
    (h : c.Reanchored start) (hcurrent : c.streamStart = some current)
    (hsession : packet.sessionId = start.sessionId) (hstream : packet.streamId = start.streamId) :
    c.AllowsAudio packet ↔ c.pause = none ∧ anchor current ≤ packet.hostPresentationTimeMs.get := by
  obtain ⟨active, hactive, hstream', hsession', -, hfloor⟩ := h
  obtain rfl := Option.some.inj (hcurrent.symm.trans hactive)
  constructor
  · rintro ⟨hallows, -⟩
    obtain ⟨-, -, hpause, hanchor, -⟩ := hallows current hcurrent
    exact ⟨hpause, hanchor _ hfloor⟩
  · rintro ⟨hpause, hanchor⟩
    refine ⟨fun active hmem => ?_, fun hnone => ?_⟩
    · obtain rfl := Option.some.inj (hcurrent.symm.trans hmem)
      refine ⟨hsession'.trans hsession.symm, hstream'.trans hstream.symm, hpause, ?_, ?_⟩
      · intro floor hmem
        obtain rfl := Option.some.inj (hfloor.symm.trans hmem)
        exact hanchor
      · rintro ⟨stopped, -, -, hbefore⟩
        exact UInt64.not_lt.mpr hanchor hbefore
    · exact absurd (hnone.symm.trans hcurrent) (Option.some_ne_none current).symm

end PlaybackControls

/-- The time of a sample of a stream on the timeline from an anchor. -/
def timelineMs (anchor firstSampleIndex : UInt64) (sampleRate : UInt32) : ℕ :=
  anchor.toNat + firstSampleIndex.toNat * 1000 / sampleRate.toNat

/-- **The timeline before a resume.** After a resume has moved the anchor of a stream, a packet
that is stamped on the earlier timeline is rejected if and only if its time is before the anchor
in force, the stream is paused, or it does not continue the packets that are counted after a
stop. -/
theorem retired_timeline_rejected_iff {before later : List PlaybackCall}
    {previous start current : StreamStart} {packet : AudioDatagram}
    (hprevious : (run before).streamStart = some previous)
    (hresume : (run before).IsResume start)
    (haccepted : playbackControls.out (run before) (.update (.streamStart start)) = true)
    (hmoved : anchor previous < anchor start)
    (hlater : playbackControls.Along (fun c call => ¬c.Opens call ∧ ¬c.Stops call)
      (playbackControls.next (run before) (.update (.streamStart start))) later)
    (hcurrent : (run (before ++ .update (.streamStart start) :: later)).streamStart = some current)
    (hsession : packet.sessionId = start.sessionId) (hstream : packet.streamId = start.streamId)
    (hstamp : packet.hostPresentationTimeMs.get.toNat =
      timelineMs (anchor previous) packet.firstSampleIndex.get previous.sampleRate) :
    (permitsAudio (run (before ++ .update (.streamStart start) :: later)) packet).2 = false ↔
      timelineMs (anchor previous) packet.firstSampleIndex.get previous.sampleRate <
          (anchor current).toNat ∨
        (run (before ++ .update (.streamStart start) :: later)).pause ≠ none ∨
        ¬ContinuesReplay (run (before ++ .update (.streamStart start) :: later)) packet ∨
        CountsPackets (run (before ++ .update (.streamStart start) :: later)) ∧
          Uncountable packet := by
  have hreanchored : (run (before ++ .update (.streamStart start) :: later)).Reanchored start := by
    rw [run, Machine.after_append, Machine.after_cons]
    refine reanchored_after ?_ hlater
    have hnext := accepts_of_out haccepted
    generalize playbackControls.next (run before) (.update (.streamStart start)) = c' at hnext
    cases hnext with
    | resumed => exact reanchored_resume hprevious hmoved
    | opened _ _ hnew => exact absurd hresume hnew
    | unrelated _ hother => exact absurd trivial hother
  rw [permitsAudio_eq_false, hreanchored.allowsAudio_iff hcurrent hsession hstream, ← hstamp,
    not_and_or, UInt64.not_le, UInt64.lt_iff_toNat_lt]
  tauto

open PlaybackScenario in
/-- The first packet of the earlier timeline is rejected. -/
theorem retired_timeline_rejected_first :
    (permitsAudio (run [playAt 1000, pauseAt 3000, playAt 1500]) (packet 0 0 1000)).2 = false := by
  have hrejected := @retired_timeline_rejected_iff [playAt 1000, pauseAt 3000] [] (start 1000)
    (start 1500) (start 1500) (packet 0 0 1000) (by decide) ⟨start 1000, by decide⟩ (by decide)
    (by decide) trivial (by decide) rfl rfl (by decide)
  exact hrejected.mpr (.inl (by decide))

open PlaybackScenario in
/-- A stream is paused after two seconds and resumed half a second later. The packet of its
second second, stamped before the pause, is sent. -/
theorem not_retired_timeline_rejected :
    anchor (start 1000) < anchor (start 1500) ∧
      playbackControls.out (run [playAt 1000, pauseAt 3000]) (playAt 1500) = true ∧
      timelineMs 1000 48000 48000 = 2000 ∧ timelineMs 1500 48000 48000 = 2500 ∧
      (permitsAudio (run [playAt 1000, pauseAt 3000, playAt 1500])
        (packet 200 48000 2000)).2 = true := by
  decide

end SilentDisco.Transport
