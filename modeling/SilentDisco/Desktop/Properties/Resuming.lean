import SilentDisco.Desktop.Properties.PauseTime
import SilentDisco.Desktop.Properties.Playing
import SilentDisco.Desktop.Properties.Sources

/-!
# Resuming

In a run whose steps meet the condition, a resume is accepted by the transport and the packets
after it are sent. The transport rejects the start of a resume if the clock has not advanced since
the pause, and then it drops every packet of a stream that the host takes to be playing.

## Main results

* `resume_resumes`: a resume is accepted, and packets are sent, in every such run
-/

namespace SilentDisco.Desktop

open Protocol Transport PlaybackControls PlaybackStreamer

/-! ## From a pause to its resume -/

namespace HostNetwork

variable {s : HostNetwork} {p : PlaybackStreamer}

/-- The stream is paused. -/
def PausedOn (stream : StreamId) (s : HostNetwork) : Prop :=
  ∃ p ∈ s.playback, p.streamStart.streamId = stream ∧ p.paused = true

instance (stream : StreamId) (s : HostNetwork) : Decidable (s.PausedOn stream) :=
  inferInstanceAs (Decidable (∃ _ ∈ _, _))

/-- The pump does not end a stream that is paused. -/
def EndsUnpaused (s : HostNetwork) : HostStep → Prop
  | .pump _ => ∀ p ∈ s.playback, p.pump = .ending → p.paused = false
  | _ => True

/-- The transport has the stream. -/
abbrev Has (stream : StreamId) (s : HostNetwork) : Prop := s.settled.IsActive s.session stream

variable {stream : StreamId} {x : HostStep}

/-- The pump of a paused stream sends nothing, unless it ends the stream. -/
theorem settled_runPump_of_paused (hpaused : p.paused = true) (hending : p.pump ≠ .ending)
    (conditions : PumpConditions) : (s.runPump p conditions).settled = s.settled := by
  unfold HostNetwork.runPump PlaybackStreamer.advance
  cases hpump : p.pump with
  | ending => exact absurd hpump hending
  | due =>
    dsimp only
    rw [if_pos hpaused]
    rfl
  | _ => rfl

/-- While a stream stays paused, the transport keeps it. -/
theorem Playing.has_next (hs : s.Playing) (hends : s.EndsUnpaused x) (hpaused : s.PausedOn stream)
    (hstays : (hostNetwork.next s x).PausedOn stream) (hhas : s.Has stream) :
    (hostNetwork.next s x).Has stream := by
  have htakes := s.takes_step x
  generalize hostNetwork.next s x = s' at htakes hstays
  obtain ⟨q, hq, hstream, hflag⟩ := hpaused
  cases htakes with
  | unchanged => exact hhas
  | paused =>
    obtain ⟨pause, last, hsettled⟩ := s.settled_send_pause _ _
    change (s.send _).settled.IsActive s.session stream
    rw [hsettled]
    exact hhas
  | @pumped q' conditions hp =>
    obtain rfl := Option.some.inj (hq.symm.trans hp)
    have hending : q.pump ≠ .ending := fun hpump =>
      Bool.false_ne_true ((hends q hp hpump).symm.trans hflag)
    change (s.runPump q conditions).settled.IsActive s.session stream
    rw [settled_runPump_of_paused hflag hending]
    exact hhas
  | @stopped index conditions session other line hstopping hline =>
    obtain rfl | rfl := hline
    · exact hhas
    have hp := hs.plays q hq
    change (s.send (stopFrame session other conditions.now)).settled.IsActive s.session stream
    obtain hsame | ⟨-, hnamed⟩ := s.settled_send_stop session other conditions.now
    · rw [hsame]
      exact hhas
    · -- the stream that is stopped is another one
      obtain ⟨start, hstart, hown, hsession'⟩ := hhas
      obtain ⟨hother, hother'⟩ := hnamed start hstart
      refine absurd hstopping ?_
      rw [← hother, ← hother', hown, hsession', ← hstream, ← hp.session]
      exact hp.notStopping
  | delivered =>
    unfold Has
    rw [settled_delivered]
    exact hhas
  | idled | unspawned | detached =>
    obtain ⟨r, hr, -⟩ := hstays
    exact absurd hr (Option.not_mem_none r)
  | opened | resumed =>
    obtain ⟨r, hr, -, hset⟩ := hstays
    obtain rfl := Option.some.inj hr
    exact absurd hset Bool.false_ne_true

theorem Playing.has_after {steps : List HostStep} (hs : s.Playing)
    (hkeeps : hostNetwork.Along KeepsPlaying s steps)
    (hends : hostNetwork.Along EndsUnpaused s steps)
    (hpaused : hostNetwork.Along (fun s _ => s.PausedOn stream) s (steps ++ [x]))
    (hhas : s.Has stream) : (hostNetwork.after s steps).Has stream := by
  induction steps generalizing s with
  | nil => exact hhas
  | cons y steps ih =>
    obtain ⟨hfirst, hrest⟩ := hpaused
    have hstays : (hostNetwork.next s y).PausedOn stream := by
      cases steps with
      | nil | cons => exact hrest.1
    exact ih (hs.next hkeeps.1) hkeeps.2 hends.2 hrest (hs.has_next hends.1 hfirst hstays hhas)

end HostNetwork

open HostNetwork

variable {s : HostNetwork} {call : CallConditions}

/-- What a pause that succeeds sends. -/
theorem send_of_pause (h : hostNetwork.out s (.pause call) = .returned (.ok ())) :
    ∃ p, s.playback = some p ∧
      hostNetwork.next s (.pause call) =
        { s.send (pauseFrame p call.now) with playback := some (p.pausedAt call.now) } := by
  change (s.call pausePlayback call).2 = _ at h
  change ∃ p, _ ∧ (s.call pausePlayback call).1 = _
  unfold HostNetwork.call at h ⊢
  cases hp : s.playback with
  | none =>
    rw [hp] at h
    cases h
  | some p =>
    rw [hp] at h
    refine ⟨p, rfl, ?_⟩
    obtain ⟨error, hfailed⟩ | ⟨-, houtcome⟩ := @pausePlayback_cases p
      { call with queued := call.queued && s.room }
    · dsimp only at h
      rw [hfailed] at h
      cases h
    · dsimp only
      rw [houtcome]
      rfl

/-- What a resume of a paused stream that succeeds sends. -/
theorem send_of_resume {p : PlaybackStreamer} (hp : s.playback = some p) (hpaused : p.paused = true)
    (h : hostNetwork.out s (.resume call) = .returned (.ok ())) :
    (hostNetwork.next s (.resume call)).line = s.line.send (resumeFrame p call.now) := by
  change (s.call resumePlayback call).2 = _ at h
  change (s.call resumePlayback call).1.line = _
  unfold HostNetwork.call at h ⊢
  rw [hp] at h ⊢
  obtain ⟨result, hfailed, hresult⟩ | ⟨-, -, houtcome⟩ := @resumePlayback_cases p
    { call with queued := call.queued && s.room }
  · dsimp only at h
    rw [hfailed] at h
    exact absurd (HostOutput.returned.inj h) (hresult hpaused)
  · dsimp only
    rw [houtcome]
    rfl

/-- The pump hands over a packet. -/
def HandsOver (s : HostNetwork) (conditions : PumpConditions) (packet : AudioDatagram) : Prop :=
  ∃ p ∈ s.playback, ∃ appliedMs, p.pump = .due (.audio packet) appliedMs ∧ p.paused = false ∧
    (conditions.queued && s.room) = true

theorem send_of_handsOver {conditions : PumpConditions} {packet : AudioDatagram}
    (h : HandsOver s conditions packet) :
    (hostNetwork.next s (.pump conditions)).line = s.line.send (.audio packet) := by
  obtain ⟨p, hp, appliedMs, hpump, hplaying, hqueued⟩ := h
  have hnext : hostNetwork.next s (.pump conditions) = s.runPump p conditions := by
    change (s.step (.pump conditions)).1 = _
    unfold HostNetwork.step
    rw [show s.playback = some p from hp]
  rw [hnext]
  unfold HostNetwork.runPump PlaybackStreamer.advance
  simp only [hpump, hplaying, hqueued]
  rfl

/-- Every packet that the pump hands over is sent. -/
theorem answersWith_of_handsOver (hs : s.Playing) {conditions : PumpConditions}
    {packet : AudioDatagram} (hkeeps : s.KeepsPlaying (.pump conditions))
    (h : HandsOver s conditions packet) (later : List HostStep) :
    s.AnswersWith (.pump conditions) later
      (fun answer => answer.item = .audio packet ∧ answer.answer = .broadcast) := by
  refine answersWith_of_send (send_of_handsOver h) later ⟨rfl, ?_⟩
  obtain ⟨p, hp, appliedMs, hpump, hplaying, -⟩ := h
  obtain ⟨c', n, heq, -⟩ := (hs.plays p hp).broadcastFrame_due hpump (hkeeps p hp) hplaying
  rw [heq]

/-- A pause that the transport accepts is one of a stream that it has. -/
theorem has_of_pause {stream : StreamId} (hs : s.Playing)
    (hpause : hostNetwork.out s (.pause call) = .returned (.ok ())) {later : List HostStep}
    {answer : Answer} (hanswered : s.Answered (.pause call :: later) answer)
    (haccepted : answer.answer = .broadcast)
    (hpaused : (hostNetwork.next s (.pause call)).PausedOn stream) :
    (hostNetwork.next s (.pause call)).Has stream := by
  obtain ⟨p, hp, hnext⟩ := send_of_pause hpause
  have hsend : (hostNetwork.next s (.pause call)).line = s.line.send (pauseFrame p call.now) := by
    rw [hnext]
    rfl
  obtain rfl := (answersWith_of_send (P := (· = _)) hsend later rfl).1 answer hanswered
  rw [hnext] at hpaused ⊢
  obtain ⟨q, hq, hstream, -⟩ := hpaused
  obtain rfl := Option.some.inj hq
  obtain ⟨delivery, hnot, heq⟩ | ⟨c', message, heq, -, hcall, haccepts⟩ :=
    broadcastFrame_cases s.session s.settled (pauseFrame p call.now)
  · rw [heq] at haccepted
    exact absurd haccepted hnot
  · obtain rfl := Option.some.inj hcall
    obtain ⟨hactive, rfl⟩ := pause_of_accepts haccepts
    have hsession := (hs.plays p hp).session
    change (s.send (pauseFrame p call.now)).settled.IsActive s.session stream
    rw [settled_send, heq, ← hsession, ← hstream]
    exact hactive

/-- **A resume resumes.** In a run of the host whose steps meet the condition, a stream is paused,
the transport accepts the pause, and the stream stays paused until it is resumed, and is not ended
meanwhile. Then the start that the resume broadcasts is accepted and ends the pause of the
transport, and every packet that the pump hands over afterwards is sent. -/
theorem resume_resumes {s₀ s₁ s₂ : HostNetwork} (hinit : hostNetwork.init s₀)
    {before between later : List HostStep} {pausing resuming : CallConditions} {stream : StreamId}
    (hkeeps : hostNetwork.Along KeepsPlaying s₀
      (before ++ .pause pausing :: (between ++ .resume resuming :: later)))
    (hs₁ : hostNetwork.after s₀ before = s₁)
    (hpause : hostNetwork.out s₁ (.pause pausing) = .returned (.ok ()))
    (haccepted : ∃ answer,
      s₁.Answered (.pause pausing :: (between ++ .resume resuming :: later)) answer ∧
        answer.answer = .broadcast)
    (hpaused : hostNetwork.Along (fun s _ => s.PausedOn stream)
      (hostNetwork.next s₁ (.pause pausing)) (between ++ [.resume resuming]))
    (hends : hostNetwork.Along EndsUnpaused (hostNetwork.next s₁ (.pause pausing)) between)
    (hs₂ : hostNetwork.after s₁ (.pause pausing :: between) = s₂)
    (hresume : hostNetwork.out s₂ (.resume resuming) = .returned (.ok ())) :
    s₂.AnswersWith (.resume resuming) later
      (fun answer => (∃ start : StreamStart, start.streamId = stream ∧
        answer.item = .control (.streamStart start)) ∧
          answer.answer = .broadcast ∧ answer.consumer.pause = none) ∧
    ∀ mid conditions rest packet, later = mid ++ .pump conditions :: rest →
      HandsOver (hostNetwork.after s₂ (.resume resuming :: mid)) conditions packet →
      HostNetwork.AnswersWith (hostNetwork.after s₂ (.resume resuming :: mid)) (.pump conditions)
        rest (fun answer => answer.item = .audio packet ∧ answer.answer = .broadcast) := by
  obtain ⟨hbefore, hkeeps⟩ := Machine.along_append.mp hkeeps
  have hplaying₁ := playing_after hinit hbefore
  rw [hs₁] at hkeeps hplaying₁
  obtain ⟨hpausing, hkeeps⟩ := hkeeps
  obtain ⟨hbetween, hresuming, hlater⟩ := Machine.along_append.mp hkeeps
  have hplaying : (hostNetwork.next s₁ (.pause pausing)).Playing := hplaying₁.next hpausing
  have hplaying₂ : s₂.Playing := by
    rw [← hs₂]
    exact hbetween.invariant (fun _ _ hs hx => hs.next hx) hplaying
  rw [← Machine.after_cons, hs₂] at hresuming hlater
  refine ⟨?_, fun mid conditions rest packet hsplit hhands => ?_⟩
  · -- the transport has kept the stream since it accepted the pause
    obtain ⟨answer, hanswered, hbroadcast⟩ := haccepted
    have hfirst : (hostNetwork.next s₁ (.pause pausing)).PausedOn stream := by
      cases between with
      | nil | cons => exact hpaused.1
    have hhas := hplaying.has_after hbetween hends hpaused
      (has_of_pause hplaying₁ hpause hanswered hbroadcast hfirst)
    obtain ⟨-, hlast, -⟩ := Machine.along_append.mp hpaused
    rw [← Machine.after_cons, hs₂] at hhas hlast
    obtain ⟨p, hp, hstream, hflag⟩ := hlast
    have hplays := hplaying₂.plays p hp
    obtain ⟨hclock, hfits⟩ := hresuming p hp hflag
    have hactive : p.ActiveIn s₂.settled := by
      unfold PlaybackStreamer.ActiveIn
      rw [hplays.session, hstream]
      exact hhas
    refine answersWith_of_send (send_of_resume hp hflag hresume) later ?_
    rw [hplays.broadcastFrame_resume hclock hfits hactive]
    exact ⟨⟨p.reanchoredStart (p.totalOffsetMs resuming.now), hstream, rfl⟩, rfl, rfl⟩
  · subst hsplit
    obtain ⟨hmid, hpump, -⟩ := Machine.along_append.mp hlater
    have hplaying₃ : (hostNetwork.after s₂ (.resume resuming :: mid)).Playing :=
      hmid.invariant (fun _ _ hs hx => hs.next hx) (hplaying₂.next hresuming)
    exact answersWith_of_handsOver hplaying₃ hpump hhands rest

/-- **The transport follows the host.** In a run whose steps meet the condition, the transport has
the stream whose pump runs, once it has taken the queue: under the anchor moved by the time of the
pauses, unpaused if the host plays, and expecting the packet that the pump hands over next. -/
theorem transport_follows_host {s₀ : HostNetwork} (hinit : hostNetwork.init s₀)
    {steps : List HostStep} (hkeeps : hostNetwork.Along KeepsPlaying s₀ steps)
    {p : PlaybackStreamer} (hp : (hostNetwork.after s₀ steps).playback = some p)
    (hrunning : p.pump ≠ .finished) :
    (hostNetwork.after s₀ steps).settled.streamStart = some p.currentStart ∧
      (p.paused = false → (hostNetwork.after s₀ steps).settled.pause = none) ∧
      (p.pump.Live → ∃ n, Counted (hostNetwork.after s₀ steps).settled p n ∧ NextPacket p n) := by
  have hplays := (playing_after hinit hkeeps).plays p hp
  have hcarried := hplays.carried (hplays.active hrunning)
  exact ⟨hcarried.start, hcarried.playing, hplays.packets⟩

namespace PauseScenario

/-- A stream with one sample in a packet. -/
def monoStart : StreamStart := { streamStart with channels := 1, samplesPerPacket := 1 }

/-- The first packet of the stream. -/
def packet (time : UInt64) : AudioDatagram :=
  { sessionId := streamStart.sessionId
    streamId := streamStart.streamId
    sequence := ⟨0⟩
    codec := .pcmS16Le
    sampleRate := 48000
    channels := 1
    samplesPerPacket := 1
    firstSampleIndex := ⟨0⟩
    hostPresentationTimeMs := ⟨time⟩
    payload := [0, 0] }

theorem packet_fits : Packetizer.encodedBytes streamStart.sessionId streamStart.streamId 2 ≤
    maxAudioDatagramBytes - frameHeaderBytes := by decide +kernel

theorem isPacket_packet : IsPacket monoStart 0 0 (packet 1000) :=
  ⟨rfl, rfl, rfl, rfl, rfl, by decide +kernel, fun _ => isOk_encodeFrame_audio rfl packet_fits⟩

def source : PacketSource monoStart := ⟨[.audio (packet 1000)], isPacket_packet, trivial⟩

def host : HostNetwork := { session := streamStart.sessionId }

/-- The stream is started, and the transport opens it. -/
def starting : List HostStep := [.start monoStart source { now := ⟨900⟩ } true true, .deliver]

/-- The pump takes steps, from the top of its loop. -/
def pumps (steps : ℕ) : List HostStep := List.replicate steps (.pump { now := ⟨2500⟩ })

/-- The stream is paused for half a second, and the pump is about to hand over its packet. -/
def resuming : List HostStep :=
  starting ++ [.pause { now := ⟨2000⟩ }, .deliver, .resume { now := ⟨2500⟩ }] ++ pumps 5

def resumed : PlaybackStreamer :=
  { streamStart := monoStart
    accumulatedPauseOffsetMs := 500
    source := []
    pump := .due (.audio (packet 1500)) 500 }

end PauseScenario

open PauseScenario in
/-- The transport follows a stream through a pause to its first packet. -/
theorem transport_follows_host_resumed :
    (hostNetwork.after host resuming).settled.streamStart = some resumed.currentStart ∧
      (hostNetwork.after host resuming).settled.pause = none ∧
      ∃ n, Counted (hostNetwork.after host resuming).settled resumed n ∧ NextPacket resumed n := by
  have hfollows := @transport_follows_host host ⟨_, rfl⟩ resuming (by decide +kernel) resumed
    (by decide +kernel) (by decide)
  exact ⟨hfollows.1, hfollows.2.1 rfl, hfollows.2.2 ⟨by decide, by decide⟩⟩

open PauseScenario in
/-- A stream is resumed half a second after its pause. -/
theorem resume_resumes_later :
    (hostNetwork.after host (starting ++ [.pause { now := ⟨2000⟩ }, .deliver])).AnswersWith
      (.resume { now := ⟨2500⟩ }) (pumps 6)
      (fun answer => (∃ start : StreamStart, start.streamId = streamStart.streamId ∧
        answer.item = .control (.streamStart start)) ∧
          answer.answer = .broadcast ∧ answer.consumer.pause = none) ∧
    HostNetwork.AnswersWith (hostNetwork.after host resuming) (.pump { now := ⟨2500⟩ }) []
      (fun answer => answer.item = .audio (packet 1500) ∧ answer.answer = .broadcast) := by
  have hresumes := @resume_resumes host _ _ ⟨_, rfl⟩ starting [.deliver] (pumps 6) { now := ⟨2000⟩ }
    { now := ⟨2500⟩ } streamStart.streamId (by decide +kernel) rfl (by decide +kernel)
    ⟨_, rfl, rfl⟩ (by decide +kernel) ⟨trivial, trivial⟩ rfl (by decide +kernel)
  exact ⟨hresumes.1, hresumes.2 (pumps 5) _ [] (packet 1500) rfl
    ⟨resumed, by decide +kernel, 500, rfl, rfl, rfl⟩⟩

open PauseScenario in
/-- A stream is paused and resumed within one millisecond. Both calls return, and the transport
accepts the pause. It drops the start of the resume and keeps the pause, and so it drops the
packets of a stream that is not paused. -/
theorem not_resume_resumes :
    let paused := hostNetwork.after host (starting ++ [.pause { now := ⟨2000⟩ }])
    let resumed := hostNetwork.after paused [.deliver, .resume { now := ⟨2000⟩ }]
    hostNetwork.out (hostNetwork.after host starting) (.pause { now := ⟨2000⟩ }) =
        .returned (.ok ()) ∧
      (∃ answer, hostNetwork.out paused .deliver = .delivered (some answer) ∧
        answer.answer = .broadcast) ∧
      hostNetwork.out (hostNetwork.next paused .deliver) (.resume { now := ⟨2000⟩ }) =
        .returned (.ok ()) ∧
      (∃ p ∈ resumed.playback, p.paused = false) ∧
      (∃ answer, hostNetwork.out resumed .deliver = .delivered (some answer) ∧
        answer.answer = .dropped ∧ answer.consumer.pause.isSome = true) ∧
      ∃ answer, hostNetwork.out (hostNetwork.after resumed (.deliver :: pumps 6)) .deliver =
        .delivered (some answer) ∧ answer.item = .audio (packet 1000) ∧ answer.answer = .dropped :=
  ⟨by decide +kernel, ⟨_, rfl, by decide +kernel⟩, by decide +kernel, by decide +kernel,
    ⟨_, rfl, by decide +kernel⟩, ⟨_, rfl, by decide +kernel⟩⟩

end SilentDisco.Desktop
