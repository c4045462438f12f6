import SilentDisco.Desktop.Properties.Carrying

/-!
# Playing a stream

The host's queue stands between its calls and the transport. What the transport will carry once
it has taken the queue is the stream of the host, through every step that meets a condition: new
streams are ones that the transport opens, a paused stream is resumed after the clock has advanced,
and the pump keeps to the offset of the pauses.

## Main definitions

* `HostNetwork.KeepsPlaying`: the condition on a step
* `HostNetwork.Plays`, `HostNetwork.Playing`: the transport carries the stream of the host

## Main results

* `HostNetwork.Playing.next`, `HostNetwork.playing_after`: the stream plays in every such run
-/

namespace SilentDisco.Desktop

open Protocol Transport PlaybackControls

/-! ## The host -/

/-- The pump hands a packet over with the current offset, and the packet after it can be counted. -/
def PlaybackStreamer.KeepsAt (p : PlaybackStreamer) : Pump → Prop
  | .due (.audio packet) appliedMs =>
    p.paused = false → appliedMs = p.accumulatedPauseOffsetMs ∧ ¬Uncountable packet
  | _ => True

instance (packet : AudioDatagram) : Decidable (Uncountable packet) :=
  inferInstanceAs (Decidable (_ ∨ _))

instance (p : PlaybackStreamer) : (pump : Pump) → Decidable (p.KeepsAt pump)
  | .due (.audio _) _ => inferInstanceAs (Decidable (_ → _))
  | .polling | .receiving | .holding _ _ | .unpaused _ _ | .shifted _ _ | .draining | .clearing
  | .ending | .finished | .due (.control _) _ | .due (.syncRequest _) _
  | .due (.syncResponse _) _ =>
    isTrue trivial

def PlaybackStreamer.KeepsPlaying (p : PlaybackStreamer) : Prop := p.KeepsAt p.pump

namespace HostNetwork

/-- The stream is one that the transport will open: it has another identifier than the streams
that it has or that are being stopped, and a later anchor than those before it. -/
structure NewStream (s : HostNetwork) (start : StreamStart) : Prop where
  session : start.sessionId = s.session
  encodes : (encodeFrame (.control (.streamStart start))).isOk = true
  fresh : s.settled.FreshStart start
  new : ¬s.settled.IsResume start
  notStopping : (start.sessionId, start.streamId) ∉ s.stopping

/-- The condition on a step: streams are new, a paused stream is resumed after the clock has
advanced, and the pump keeps to the offset of the pauses. -/
def KeepsPlaying (s : HostNetwork) : HostStep → Prop
  | .start streamStart _ _ _ _ => ¬s.playbackIsActive → s.NewStream streamStart
  | .resume call => ∀ p ∈ s.playback, p.paused = true →
    p.pausedAtMs < call.now.get.toNat ∧ p.anchorMs + p.accumulatedPauseOffsetMs < u64Max
  | .pump _ => ∀ p ∈ s.playback, p.KeepsPlaying
  | _ => True

instance (s : HostNetwork) (start : StreamStart) : Decidable (s.NewStream start) :=
  decidable_of_iff
    (start.sessionId = s.session ∧ (encodeFrame (.control (.streamStart start))).isOk = true ∧
      (¬s.settled.RetiredStart start ∧
        ¬s.settled.RetiredControl start.sessionId start.hostStartTimeMs.get ∧
        ¬s.settled.Rewinds start) ∧
      ¬s.settled.IsResume start ∧ (start.sessionId, start.streamId) ∉ s.stopping)
    ⟨fun ⟨hsession, hencodes, ⟨hretired, hstopped, hforward⟩, hnew, hstopping⟩ =>
      ⟨hsession, hencodes, ⟨hretired, hstopped, hforward⟩, hnew, hstopping⟩,
    fun h => ⟨h.session, h.encodes, ⟨h.fresh.notRetired, h.fresh.notStopped, h.fresh.forward⟩,
      h.new, h.notStopping⟩⟩

instance (s : HostNetwork) : (x : HostStep) → Decidable (s.KeepsPlaying x)
  | .start _ _ _ _ _ => inferInstanceAs (Decidable (_ → _))
  | .resume call => inferInstanceAs (Decidable (∀ p ∈ s.playback, p.paused = true →
    p.pausedAtMs < call.now.get.toNat ∧ p.anchorMs + p.accumulatedPauseOffsetMs < u64Max))
  | .pump _ => inferInstanceAs (Decidable (∀ p ∈ s.playback, p.KeepsAt p.pump))
  | .pause _ | .stop | .stopped _ _ | .deliver => isTrue trivial

/-- The transport carries the stream as long as its pump runs, and expects the packet that the
pump hands over next. -/
structure Plays (s : HostNetwork) (p : PlaybackStreamer) : Prop where
  session : p.streamStart.sessionId = s.session
  encodes : (encodeFrame (.control (.streamStart p.streamStart))).isOk = true
  notStopping : (p.streamStart.sessionId, p.streamStart.streamId) ∉ s.stopping
  offset : p.accumulatedPauseOffsetMs ≤ u64Max
  active : p.pump ≠ .finished → p.ActiveIn s.settled
  carried : p.ActiveIn s.settled → Carried s.settled p
  packets : p.pump.Live → ∃ n, Counted s.settled p n ∧ NextPacket p n

/-- The stream of the host plays. -/
structure Playing (s : HostNetwork) : Prop where
  uncounting : Uncounting s.settled
  plays : ∀ p, s.playback = some p → s.Plays p

variable {s : HostNetwork} {p : PlaybackStreamer}

/-- Sending a frame keeps what is counted before the first stop. -/
theorem uncounting_send (h : Uncounting s.settled) (frame : ProtocolFrame) :
    Uncounting (s.send frame).settled := by
  rw [settled_send]
  exact uncounting_broadcastFrame h frame

/-- The same controls carry the same stream, whatever its pump does. -/
theorem Plays.congr {s' : HostNetwork} (h : s.Plays p) (hsession : s'.session = s.session)
    (hstopping : s'.stopping ⊆ s.stopping) (hsettled : s'.settled = s.settled) : s'.Plays p where
  session := h.session.trans hsession.symm
  encodes := h.encodes
  notStopping := fun hmem => h.notStopping (hstopping hmem)
  offset := h.offset
  active := fun hpump => hsettled ▸ h.active hpump
  carried := fun hactive => hsettled ▸ h.carried (hsettled ▸ hactive)
  packets := fun hlive => hsettled ▸ h.packets hlive

/-- The pump moves on before the same packet. -/
theorem Plays.setPump (h : s.Plays p) (hlive : p.pump.Live) {pump : Pump}
    {source : List ProtocolFrame}
    (hpackets : pump.Live → ∀ n, NextPacket p n → NextPacket { p with pump, source } n) :
    s.Plays { p with pump, source } where
  session := h.session
  encodes := h.encodes
  notStopping := h.notStopping
  offset := h.offset
  active := fun _ => h.active hlive.2
  carried := fun hactive => (h.carried hactive).setPump pump source
  packets := by
    intro hpump
    obtain ⟨n, hcounted, hnext⟩ := h.packets hlive
    exact ⟨n, hcounted.setPump pump source, hpackets hpump n hnext⟩

/-! ### Calls -/

/-- A new stream opens in the transport. -/
theorem NewStream.settled_send {start : StreamStart} (h : s.NewStream start) :
    (s.send (.control (.streamStart start))).settled = s.settled.openStream start := by
  rw [HostNetwork.settled_send, broadcastFrame_streamStart h.session h.encodes,
    update_of_not_isResume h.fresh h.new]

theorem NewStream.plays {start : StreamStart} (h : s.NewStream start)
    (hs : Uncounting s.settled) (source : PacketSource start) :
    (s.send (.control (.streamStart start))).Plays
      { streamStart := start, source := source.frames } where
  session := h.session
  encodes := h.encodes
  notStopping := h.notStopping
  offset := Nat.zero_le _
  active := fun _ => by
    rw [h.settled_send]
    exact ⟨start, rfl, rfl, rfl⟩
  carried := fun _ => by
    rw [h.settled_send]
    exact carried_openStream h.fresh source.frames
  packets := fun _ => by
    rw [h.settled_send]
    exact ⟨0, counted_openStream hs source.frames, source.packetized⟩

/-- A pause is noted, or the controls stay as they are. -/
theorem settled_send_pause (s : HostNetwork) (p : PlaybackStreamer) (now : MonotonicMillis) :
    ∃ pause last, (s.send (pauseFrame p now)).settled =
      { s.settled with pause, lastPauseTimeMs := last } := by
  obtain heq | haccepts := s.settled_send_cases (pauseFrame p now) rfl
  · exact ⟨s.settled.pause, s.settled.lastPauseTimeMs, heq⟩
  · exact ⟨_, _, (pause_of_accepts haccepts).2⟩

/-- A pause keeps the stream in the transport. -/
theorem Plays.pausedAt (h : s.Plays p) (now : MonotonicMillis) :
    (s.send (pauseFrame p now)).Plays (p.pausedAt now) := by
  obtain ⟨pause, last, hsettled⟩ := s.settled_send_pause p now
  constructor
  case session => exact h.session
  case encodes => exact h.encodes
  case notStopping => exact h.notStopping
  case offset => exact h.offset
  case active =>
    intro hpump
    rw [hsettled]
    exact h.active hpump
  case carried =>
    intro hactive
    rw [hsettled] at hactive ⊢
    exact (h.carried hactive).pausedAt now pause last
  case packets =>
    intro hlive
    rw [hsettled]
    obtain ⟨n, hcounted, hnext⟩ := h.packets hlive
    exact ⟨n, ⟨hcounted.first, hcounted.next, hcounted.last, hcounted.uncounted⟩, hnext⟩

/-- The start of a resume is encoded like the original one. -/
theorem Plays.encodes_reanchored (h : s.Plays p) (offsetMs : ℕ) :
    (encodeFrame (.control (.streamStart (p.reanchoredStart offsetMs)))).isOk = true := by
  rw [isOk_encodeFrame_streamStart]
  exact (isOk_encodeFrame_streamStart p.streamStart).mp h.encodes

section Resume

variable {now : MonotonicMillis} (hlater : p.pausedAtMs < now.get.toNat)
  (hfits : p.anchorMs + p.accumulatedPauseOffsetMs < u64Max)

include hlater hfits

/-- The transport accepts the resume of a stream that it has. -/
theorem Plays.broadcastFrame_resume (h : s.Plays p) (hactive : p.ActiveIn s.settled) :
    broadcastFrame s.session s.settled (resumeFrame p now) =
      (s.settled.resume (p.reanchoredStart (p.totalOffsetMs now)), .broadcast) := by
  have hsession : (p.reanchoredStart (p.totalOffsetMs now)).sessionId = s.session := h.session
  rw [resumeFrame, broadcastFrame_streamStart hsession (h.encodes_reanchored _),
    (h.carried hactive).update_resume hlater hfits]
  rfl

/-- A resume moves the stream in the transport, and may bring back one that has ended. -/
theorem Plays.resumedAt (h : s.Plays p) : (s.send (resumeFrame p now)).Plays (p.resumedAt now) := by
  have hoffset : (p.resumedAt now).accumulatedPauseOffsetMs ≤ u64Max := min_le_right _ _
  by_cases hactive : p.ActiveIn s.settled
  · have hsettled : (s.send (resumeFrame p now)).settled =
        s.settled.resume (p.reanchoredStart (p.totalOffsetMs now)) := by
      rw [HostNetwork.settled_send, h.broadcastFrame_resume hlater hfits hactive]
    have hcarried := (h.carried hactive).resumedAt hlater hfits
    refine ⟨h.session, h.encodes, h.notStopping, hoffset, fun _ => ?_, fun _ => ?_,
      fun hlive => ?_⟩
    · rw [hsettled]
      exact hcarried.activeIn
    · rw [hsettled]
      exact hcarried
    · obtain ⟨n, hcounted, hnext⟩ := h.packets hlive
      rw [hsettled]
      exact ⟨n, hcounted.resumedAt h.offset _, hnext⟩
  · have hfinished : p.pump = .finished := by
      by_contra hrunning
      exact hactive (h.active hrunning)
    refine ⟨h.session, h.encodes, h.notStopping, hoffset, fun hpump => absurd hfinished hpump,
      fun hopened => ?_, fun hlive => absurd hfinished hlive.2⟩
    obtain heq | haccepts := s.settled_send_cases (resumeFrame p now) rfl
    · rw [heq] at hopened
      exact absurd hopened hactive
    · obtain ⟨hfresh, heq⟩ := openStream_of_accepts haccepts hactive
      rw [heq]
      exact ⟨rfl, fun _ => rfl, fun _ h => absurd h (Option.not_mem_none _), hfresh.notRetired,
        hfresh.notStopped⟩

end Resume

/-! ### The pump -/

/-- The pump moves on without a frame being sent. -/
theorem Plays.goto (hp : s.Plays p) (hlive : p.pump.Live) {pump : Pump}
    (hheld : pump.Live → pump.held = p.pump.held) : s.Plays (p.goto pump) := by
  change s.Plays { p with pump, source := p.source }
  refine hp.setPump hlive fun hpump n hnext => ?_
  unfold NextPacket at hnext ⊢
  rw [hheld hpump]
  exact hnext

theorem Plays.receive (hp : s.Plays p) (hpump : p.pump = .receiving)
    (conditions : PumpConditions) : s.Plays (p.receive conditions) := by
  have hlive : p.pump.Live := by rw [hpump]; exact ⟨nofun, nofun⟩
  unfold PlaybackStreamer.receive
  split
  · exact hp.goto hlive fun _ => by rw [hpump]; rfl
  · next frame rest hsource =>
    split
    · exact hp.setPump hlive fun h => absurd rfl h.1
    · refine hp.setPump hlive fun _ n hnext => ?_
      unfold NextPacket at hnext ⊢
      rw [hpump, hsource] at hnext
      have hheld := (holdsPacket_received hnext).applyPauseOffset p.accumulatedPauseOffsetMs
      rw [Nat.zero_add] at hheld
      exact hheld

/-- Inside the loop, the pump holds the same frame until it hands it over. -/
theorem Plays.look (hp : s.Plays p) (conditions : PumpConditions) :
    s.Plays (p.look conditions) := by
  have hmoves {pump pump' : Pump} (hpump : p.pump = pump) (hlive : pump.Live)
      (hheld : pump'.Live → pump'.held = pump.held) : s.Plays (p.goto pump') :=
    hp.goto (hpump ▸ hlive) fun h => (hheld h).trans (hpump ▸ rfl)
  unfold PlaybackStreamer.look
  cases hpump : p.pump with
  | polling | holding | draining | shifted | clearing =>
    dsimp only
    split_ifs <;> first
      | exact hmoves hpump ⟨nofun, nofun⟩ fun _ => rfl
      | exact hmoves hpump ⟨nofun, nofun⟩ fun h => absurd rfl h.1
  | receiving =>
    dsimp only
    split_ifs
    · exact hp.receive hpump conditions
    · exact hmoves hpump ⟨nofun, nofun⟩ fun _ => rfl
    · exact hmoves hpump ⟨nofun, nofun⟩ fun h => absurd rfl h.1
  | unpaused frame appliedMs =>
    dsimp only
    split_ifs with hbehind
    · refine hp.setPump (hpump ▸ ⟨nofun, nofun⟩) fun _ n hnext => ?_
      unfold NextPacket at hnext ⊢
      rw [hpump] at hnext
      have hheld := hnext.applyPauseOffset (p.accumulatedPauseOffsetMs - appliedMs)
      rw [Nat.add_sub_of_le hbehind.le] at hheld
      exact hheld
    · exact hmoves hpump ⟨nofun, nofun⟩ fun _ => rfl
  | due | ending | finished => exact hp

/-- The transport sends the packet that the pump hands over, and expects its successor. -/
theorem Plays.broadcastFrame_due (hp : s.Plays p) {packet : AudioDatagram} {appliedMs : ℕ}
    (hpump : p.pump = .due (.audio packet) appliedMs) (hkeeps : p.KeepsPlaying)
    (hplaying : p.paused = false) :
    ∃ c' n, broadcastFrame s.session s.settled (.audio packet) = (c', .broadcast) ∧
      Carried c' p ∧ Counted c' p (n + 1) ∧ Packetized p.streamStart (n + 1) p.source := by
  have hlive : p.pump.Live := by rw [hpump]; exact ⟨Pump.noConfusion, Pump.noConfusion⟩
  obtain ⟨n, hcounted, hnext⟩ := hp.packets hlive
  unfold PlaybackStreamer.KeepsPlaying at hkeeps
  unfold NextPacket at hnext
  rw [hpump] at hkeeps hnext
  obtain ⟨rfl, hcountable⟩ := hkeeps hplaying
  obtain ⟨hpacket, hrest⟩ := hnext
  have hcarried := hp.carried (hp.active hlive.2)
  obtain ⟨c', hpermits, hcarried', hcounted'⟩ :=
    hcarried.permitsAudio hcounted hplaying hpacket hcountable
  refine ⟨c', n, ?_, hcarried', hcounted', hrest⟩
  rw [broadcastFrame_audio (hpacket.sessionId.trans hp.session) (hpacket.encodes _), hpermits]
  rfl

/-- A boundary does not change what the transport has of the stream. -/
theorem Plays.broadcastFrame_boundary (hp : s.Plays p) (hrunning : p.pump ≠ .finished) {n : ℕ}
    (hcounted : Counted s.settled p n) (boundary : TrackBoundary) :
    Carried (s.send (.control (.trackBoundary boundary))).settled p ∧
      Counted (s.send (.control (.trackBoundary boundary))).settled p n := by
  have hcarried := hp.carried (hp.active hrunning)
  obtain heq | haccepts := s.settled_send_cases (.control (.trackBoundary boundary)) rfl
  · rw [heq]
    exact ⟨hcarried, hcounted⟩
  · rw [boundary_of_accepts haccepts]
    exact ⟨⟨hcarried.start, hcarried.playing, hcarried.floor, hcarried.notRetired,
      hcarried.notStopped⟩, ⟨hcounted.first, hcounted.next, hcounted.last, hcounted.uncounted⟩⟩

/-- A stream of which a frame was sent goes on if the transport still carries it. -/
theorem Plays.sent (hp : s.Plays p) {frame : ProtocolFrame} {n : ℕ}
    (hcarried : Carried (s.send frame).settled p) (hcounted : Counted (s.send frame).settled p n)
    (hrest : Packetized p.streamStart n p.source) :
    (s.send frame).Plays (p.goto .polling) where
  session := hp.session
  encodes := hp.encodes
  notStopping := hp.notStopping
  offset := hp.offset
  active := fun _ => hcarried.activeIn
  carried := fun _ => hcarried.setPump _ _
  packets := fun _ => ⟨n, hcounted.setPump _ _, hrest⟩

/-- The frame that the pump hands over is of the stream, which goes on. -/
theorem Plays.handedOver (hp : s.Plays p) {frame : ProtocolFrame} {appliedMs : ℕ}
    (hpump : p.pump = .due frame appliedMs) (hkeeps : p.KeepsPlaying)
    (hplaying : p.paused = false) : (s.send frame).Plays (p.goto .polling) := by
  have hlive : p.pump.Live := by rw [hpump]; exact ⟨nofun, nofun⟩
  cases frame with
  | audio packet =>
    obtain ⟨c', n, heq, hcarried, hcounted, hrest⟩ := hp.broadcastFrame_due hpump hkeeps hplaying
    have hsettled : (s.send (.audio packet)).settled = c' := by
      rw [HostNetwork.settled_send, heq]
    exact hp.sent (hsettled ▸ hcarried) (hsettled ▸ hcounted) hrest
  | control message =>
    obtain ⟨n, hcounted, hnext⟩ := hp.packets hlive
    unfold NextPacket at hnext
    rw [hpump] at hnext
    cases message with
    | trackBoundary boundary =>
      obtain ⟨hcarried, hcounted'⟩ := hp.broadcastFrame_boundary hlive.2 hcounted boundary
      exact hp.sent hcarried hcounted' hnext
    | _ => exact False.elim hnext
  | _ =>
    obtain ⟨n, -, hnext⟩ := hp.packets hlive
    unfold NextPacket at hnext
    rw [hpump] at hnext
    exact False.elim hnext

/-! ### Stops -/

/-- A stop changes nothing, or the stream of that name is gone. -/
theorem settled_send_stop (s : HostNetwork) (session : SessionId) (stream : StreamId)
    (now : MonotonicMillis) :
    (s.send (stopFrame session stream now)).settled = s.settled ∨
      (s.send (stopFrame session stream now)).settled.streamStart = none ∧
        ∀ start, s.settled.streamStart = some start →
          start.streamId = stream ∧ start.sessionId = session := by
  exact (s.settled_send_cases (stopFrame session stream now) rfl).imp id idle_of_accepts

theorem not_activeIn_of_idle {c : PlaybackControls} (h : c.streamStart = none) : ¬p.ActiveIn c := by
  rintro ⟨start, hstart, -⟩
  exact absurd (h.symm.trans hstart) (Option.some_ne_none _).symm

/-- The pump has ended its stream, which the transport keeps or drops. -/
theorem Plays.finished (hp : s.Plays p) {line : Line PlaybackControls ProtocolFrame}
    (hsettled : { s with line }.settled = s.settled ∨
      { s with line }.settled.streamStart = none) :
    { s with line }.Plays (p.goto .finished) := by
  refine ⟨hp.session, hp.encodes, hp.notStopping, hp.offset, fun h => absurd rfl h,
    fun hactive => ?_, fun h => absurd rfl h.2⟩
  obtain hsame | hidle := hsettled
  · rw [hsame] at hactive ⊢
    exact (hp.carried hactive).setPump _ _
  · exact absurd hactive (not_activeIn_of_idle hidle)

/-- The stop of another stream leaves this one alone. -/
theorem Plays.otherStops (hp : s.Plays p) {session : SessionId} {stream : StreamId}
    (hstopping : (session, stream) ∈ s.stopping) (now : MonotonicMillis) :
    (s.send (stopFrame session stream now)).Plays p := by
  obtain hsame | ⟨hidle, hnamed⟩ := s.settled_send_stop session stream now
  · exact hp.congr rfl (List.Subset.refl _) hsame
  · have hinactive : ¬p.ActiveIn s.settled := by
      rintro ⟨start, hstart, hstream, hown⟩
      obtain ⟨hstream', hown'⟩ := hnamed start hstart
      refine hp.notStopping ?_
      rw [← hown, ← hstream, hown', hstream']
      exact hstopping
    have hfinished : p.pump = .finished := by
      by_contra hrunning
      exact hinactive (hp.active hrunning)
    exact ⟨hp.session, hp.encodes, hp.notStopping, hp.offset, fun h => absurd hfinished h,
      fun h => absurd h (not_activeIn_of_idle hidle), fun h => absurd hfinished h.2⟩

/-! ### Every step -/

theorem Playing.keeps (hs : s.Playing) (hp : s.Plays p) : (s.leave p none).Playing := by
  refine ⟨hs.uncounting, fun q hq => ?_⟩
  obtain rfl := Option.some.inj hq
  exact hp.congr rfl (List.Subset.refl _) rfl

theorem Playing.sends (hs : s.Playing) {frame : ProtocolFrame} (hp : (s.send frame).Plays p) :
    (s.leave p (some frame)).Playing := by
  refine ⟨uncounting_send hs.uncounting frame, fun q hq => ?_⟩
  obtain rfl := Option.some.inj hq
  exact hp.congr rfl (List.Subset.refl _) rfl

theorem Playing.runPump (hs : s.Playing) (hplayback : s.playback = some p)
    (hkeeps : p.KeepsPlaying) (conditions : PumpConditions) : (s.runPump p conditions).Playing := by
  have hp := hs.plays p hplayback
  unfold HostNetwork.runPump PlaybackStreamer.advance
  cases hpump : p.pump with
  | due frame appliedMs =>
    have hlive : p.pump.Live := by rw [hpump]; exact ⟨nofun, nofun⟩
    dsimp only
    split_ifs with hpaused
    · exact hs.keeps (hp.goto hlive fun _ => by rw [hpump]; rfl)
    · exact hs.sends (hp.handedOver hpump hkeeps (Bool.eq_false_of_not_eq_true hpaused))
    · exact hs.keeps (hp.goto hlive fun h => absurd rfl h.1)
  | ending =>
    dsimp only
    split_ifs
    · exact hs.sends (hp.finished ((s.settled_send_stop _ _ _).imp_right And.left))
    · exact hs.keeps (hp.finished (.inl rfl))
  | _ => exact hs.keeps (hp.look _)

/-- **The transport carries the stream through every step.** -/
theorem Playing.next (hs : s.Playing) {x : HostStep} (hkeeps : s.KeepsPlaying x) :
    (hostNetwork.next s x).Playing := by
  have htakes := s.takes_step x
  generalize hostNetwork.next s x = s' at htakes
  have hnone (t : HostNetwork) (ht : Uncounting t.settled) (hplayback : t.playback = none) :
      t.Playing :=
    ⟨ht, fun p hp => absurd (hplayback.symm.trans hp) (Option.some_ne_none p).symm⟩
  cases htakes with
  | unchanged => exact hs
  | idled => exact hnone _ hs.uncounting rfl
  | opened hidle => exact hs.sends ((hkeeps hidle).plays hs.uncounting _)
  | unspawned => exact hnone _ (uncounting_send hs.uncounting _) rfl
  | paused hp => exact hs.sends ((hs.plays _ hp).pausedAt _)
  | resumed hp hpaused =>
    obtain ⟨hlater, hfits⟩ := hkeeps _ hp hpaused
    exact hs.sends ((hs.plays _ hp).resumedAt hlater hfits)
  | detached => exact hnone _ hs.uncounting rfl
  | pumped hp => exact hs.runPump hp (hkeeps _ hp) _
  | stopped hstopping hline =>
    obtain rfl | rfl := hline
    · exact ⟨hs.uncounting, fun q hq => (hs.plays q hq).congr rfl List.eraseIdx_subset rfl⟩
    · exact ⟨uncounting_send hs.uncounting _, fun q hq =>
        ((hs.plays q hq).otherStops hstopping _).congr rfl List.eraseIdx_subset rfl⟩
  | delivered =>
    have hsettled := s.settled_delivered
    refine ⟨?_, fun q hq => ?_⟩
    · rw [hsettled]
      exact hs.uncounting
    · exact (hs.plays q hq).congr rfl (List.Subset.refl _) hsettled

theorem playing_of_init (h : hostNetwork.init s) : s.Playing := by
  obtain ⟨session, rfl⟩ := h
  exact ⟨fun _ => ⟨rfl, rfl, rfl⟩, fun p hp => absurd hp (Option.some_ne_none p).symm⟩

theorem playing_after (h : hostNetwork.init s) {steps : List HostStep}
    (hkeeps : hostNetwork.Along KeepsPlaying s steps) : (hostNetwork.after s steps).Playing :=
  hkeeps.invariant (fun _ _ hs hx => hs.next hx) (playing_of_init h)

end HostNetwork

end SilentDisco.Desktop
