import SilentDisco.Audio.Properties.Announcements
import SilentDisco.Desktop.Playback
import SilentDisco.Transport.Properties.PlaybackAudio

/-!
# What the host broadcasts

The transport answers a frame after all frames that were queued before it. The host can therefore
be followed through the *settled* controls, those of the transport once the queue is empty: a
frame is answered as the settled controls answer it when it is sent, and only sending changes
them.

## Main definitions

* `HostNetwork.settled`: the controls once the queue is empty
* `HostNetwork.Answered`: how a frame that a step sends is answered later

## Main results

* `HostNetwork.move_step`: what a step does to the queue
* `HostNetwork.answersWith_of_send`: frames are answered by the settled controls
-/

namespace SilentDisco.Desktop

open Protocol Transport PlaybackControls

/-! ## Frames that can be encoded -/

theorem isOk_encodeFrame_iff {frame : ProtocolFrame} :
    (encodeFrame frame).isOk = true ↔ ∃ bytes, encodeFrame frame = .ok bytes := by
  cases encodeFrame frame with
  | error | ok => simp [Except.isOk, Except.toBool]

/-- An optional text that follows the rule of the wire. -/
def IsWireText (maximum : ℕ) (text : Option String) : Prop :=
  ∀ value ∈ text, value ≠ "" ∧ value.utf8ByteSize ≤ maximum ∧ IsCleanText value

theorem emits_putOptionalString {field : String} {maximum : ℕ} (hm : maximum < 2 ^ 16)
    (text : Option String) :
    Wire.Emits (putOptionalString field maximum false text) (IsWireText maximum text)
      (1 + (2 + maximum)) := by
  cases text with
  | none =>
    have hnone : IsWireText maximum none := fun _ h => absurd h (Option.not_mem_none _)
    have hemits : Wire.Emits (putU8 0) True (1 + (2 + maximum)) :=
      Wire.emits_putBytes (by simp)
    exact hemits.congr (iff_of_true trivial hnone)
  | some value =>
    refine ((emits_putU8 1).then (emits_putString hm)).congr ?_
    rw [true_and]
    constructor
    · rintro htext _ ⟨⟩
      exact htext
    · intro htext
      exact htext value rfl

/-- The anchor of a start does not matter for its encoding. -/
theorem isOk_encodeFrame_streamStart (start : StreamStart) :
    (encodeFrame (.control (.streamStart start))).isOk = true ↔
      IsWireText maxIdentifierBytes start.currentEntryId ∧
        IsWireText maxDisplayNameBytes start.currentDisplayName := by
  have hfields := (emits_putIdentifier "session_id" start.sessionId).then <|
    (emits_putIdentifier "stream_id" start.streamId).then <|
    (emits_putU64 start.hostStartTimeMs.get).then <|
    (emits_putU32 start.sampleRate).then <|
    (emits_putU16 start.channels).then <|
    (emits_putU32 start.samplesPerPacket).then <|
    (@emits_putOptionalString "current_entry_id" maxIdentifierBytes (by decide)
      start.currentEntryId).then <|
    @emits_putOptionalString "current_display_name" maxDisplayNameBytes (by decide)
      start.currentDisplayName
  have hmessage : Wire.Emits (putControl (.streamStart start))
      (IsWireText maxIdentifierBytes start.currentEntryId ∧
        IsWireText maxDisplayNameBytes start.currentDisplayName) _ :=
    hfields.congr (by simp only [true_and])
  rw [isOk_encodeFrame_iff]
  exact encodeFrame_control_iff hmessage (by decide)

/-! ## What the transport does with a frame -/

variable {session : SessionId} {c c' : PlaybackControls}

/-- The call that a frame makes on the controls. -/
def callOf : ProtocolFrame → Option PlaybackCall
  | .control message => some (.update message)
  | .audio packet => some (.permitsAudio packet)
  | _ => none

/-- A frame that the controls get is answered by them. -/
theorem broadcastFrame_eq {frame : ProtocolFrame} {call : PlaybackCall}
    (hsession : frame.sessionId = session) (hencodes : (encodeFrame frame).isOk = true)
    (hcall : callOf frame = some call) :
    broadcastFrame session c frame = ((c.apply call).1, .ofAnswer (c.apply call).2) := by
  unfold broadcastFrame
  rw [if_neg (not_not.mpr hsession), if_neg (by rw [hencodes]; simp)]
  cases frame with
  | control | audio =>
    cases hcall
    rfl
  | _ => cases hcall

theorem broadcastFrame_streamStart {start : StreamStart} (hsession : start.sessionId = session)
    (hencodes : (encodeFrame (.control (.streamStart start))).isOk = true) :
    broadcastFrame session c (.control (.streamStart start)) =
      ((c.update (.streamStart start)).1, .ofAnswer (c.update (.streamStart start)).2) :=
  @broadcastFrame_eq session c (.control (.streamStart start)) (.update (.streamStart start))
    hsession hencodes rfl

theorem broadcastFrame_audio {packet : AudioDatagram} (hsession : packet.sessionId = session)
    (hencodes : (encodeFrame (.audio packet)).isOk = true) :
    broadcastFrame session c (.audio packet) =
      ((c.permitsAudio packet).1, .ofAnswer (c.permitsAudio packet).2) :=
  @broadcastFrame_eq session c (.audio packet) (.permitsAudio packet) hsession hencodes rfl

/-- A frame changes nothing, or it is broadcast and the controls accept it. -/
theorem broadcastFrame_cases (session : SessionId) (c : PlaybackControls) (frame : ProtocolFrame) :
    (∃ delivery, delivery ≠ .broadcast ∧ broadcastFrame session c frame = (c, delivery)) ∨
      ∃ c' call, broadcastFrame session c frame = (c', .broadcast) ∧
        frame.sessionId = session ∧ callOf frame = some call ∧ c.Accepts call c' := by
  by_cases hsession : frame.sessionId = session
  · by_cases hencodes : (encodeFrame frame).isOk = true
    · cases hcall : callOf frame with
      | none =>
        refine .inl ⟨.failed, Delivery.noConfusion, ?_⟩
        unfold broadcastFrame
        rw [if_neg (not_not.mpr hsession), if_neg (by rw [hencodes]; simp)]
        cases frame with
        | control | audio => cases hcall
        | _ => rfl
      | some call =>
        have heq := broadcastFrame_eq (c := c) hsession hencodes hcall
        obtain hrejected | ⟨c', haccepted, haccepts⟩ := c.apply_cases call
        · rw [hrejected] at heq
          exact .inl ⟨.dropped, Delivery.noConfusion, heq⟩
        · rw [haccepted] at heq
          exact .inr ⟨c', call, heq, hsession, rfl, haccepts⟩
    · refine .inl ⟨.failed, Delivery.noConfusion, ?_⟩
      unfold broadcastFrame
      rw [if_neg (not_not.mpr hsession), if_pos (Bool.eq_false_of_not_eq_true hencodes)]
  · refine .inl ⟨.failed, Delivery.noConfusion, ?_⟩
    unfold broadcastFrame
    rw [if_pos hsession]

/-! ## What a step does -/

namespace HostNetwork

variable {s s' : HostNetwork} {x : HostStep}

/-- The controls of the transport once the queue is empty. -/
def settled (s : HostNetwork) : PlaybackControls := s.line.settled (broadcastFrame s.session)

variable (p : PlaybackStreamer)

/-- The pause and the start that the two calls broadcast. -/
def pauseFrame (now : MonotonicMillis) : ProtocolFrame :=
  .control (.pause ⟨p.streamStart.sessionId, p.streamStart.streamId, now⟩)

def resumeFrame (now : MonotonicMillis) : ProtocolFrame :=
  .control (.streamStart (p.reanchoredStart (p.totalOffsetMs now)))

/-- The host after a step. -/
inductive Takes (s : HostNetwork) : HostStep → HostNetwork → Prop
  | unchanged (x : HostStep) : Takes s x s
  | idled {streamStart : StreamStart} {source : PacketSource streamStart} {call : CallConditions}
      {joined spawned : Bool} (hidle : ¬s.playbackIsActive) :
      Takes s (.start streamStart source call joined spawned) { s with playback := none }
  | opened {streamStart : StreamStart} {source : PacketSource streamStart} {call : CallConditions}
      {joined : Bool} (hidle : ¬s.playbackIsActive) :
      Takes s (.start streamStart source call joined true)
        { s.send (.control (.streamStart streamStart)) with
          playback := some { streamStart, source := source.frames } }
  | unspawned {streamStart : StreamStart} {source : PacketSource streamStart}
      {call : CallConditions} {joined : Bool} (hidle : ¬s.playbackIsActive) :
      Takes s (.start streamStart source call joined false)
        { s.send (.control (.streamStart streamStart)) with playback := none }
  | paused {p : PlaybackStreamer} {call : CallConditions} (hp : s.playback = some p) :
      Takes s (.pause call)
        { s.send (pauseFrame p call.now) with playback := some (p.pausedAt call.now) }
  | resumed {p : PlaybackStreamer} {call : CallConditions} (hp : s.playback = some p)
      (hpaused : p.paused = true) :
      Takes s (.resume call)
        { s.send (resumeFrame p call.now) with playback := some (p.resumedAt call.now) }
  | detached {p : PlaybackStreamer} (hp : s.playback = some p)
      (stopping : List (SessionId × StreamId)) : Takes s .stop { s with playback := none, stopping }
  | pumped {p : PlaybackStreamer} {conditions : PumpConditions} (hp : s.playback = some p) :
      Takes s (.pump conditions) (s.runPump p conditions)
  | stopped {index : ℕ} {conditions : PumpConditions} {session : SessionId} {stream : StreamId}
      {line : Line PlaybackControls ProtocolFrame} (hstopping : (session, stream) ∈ s.stopping)
      (hline : line = s.line ∨ line = s.line.send (stopFrame session stream conditions.now)) :
      Takes s (.stopped index conditions) { s with line, stopping := s.stopping.eraseIdx index }
  | delivered :
      Takes s .deliver { s with line := (s.line.serveNext (broadcastFrame s.session)).1 }

theorem enqueue_cases (s : HostNetwork) (queued : Bool) (frame : ProtocolFrame) :
    s.enqueue queued frame = none ∨ s.enqueue queued frame = some (s.send frame) := by
  unfold enqueue
  split_ifs
  · exact .inr rfl
  · exact .inl rfl

theorem takes_startPlayback (s : HostNetwork) (streamStart : StreamStart)
    (source : PacketSource streamStart) (call : CallConditions) (joined spawned : Bool) :
    Takes s (.start streamStart source call joined spawned)
      (s.startPlayback streamStart source call joined spawned).1 := by
  unfold startPlayback
  dsimp only
  obtain hnone | hsome := ({ s with playback := none } : HostNetwork).enqueue_cases call.queued
    (.control (.streamStart streamStart))
  · rw [hnone]
    split_ifs with hactive
    · exact .unchanged _
    all_goals exact .idled hactive
  · rw [hsome]
    split_ifs with hactive hjoined hsubmitted hspawned
    · exact .unchanged _
    · exact .idled hactive
    · exact .idled hactive
    · obtain rfl := hspawned
      exact .opened hactive
    · obtain rfl := Bool.eq_false_of_not_eq_true hspawned
      exact .unspawned hactive

theorem takes_call {run : PlaybackStreamer → CallConditions → CallOutcome} {call : CallConditions}
    (hnone : s.playback = none → Takes s x s)
    (hsome : ∀ p, s.playback = some p →
      Takes s x (s.apply (run p { call with queued := call.queued && s.room }))) :
    Takes s x (s.call run call).1 := by
  unfold HostNetwork.call
  cases hp : s.playback with
  | none => exact hnone hp
  | some p => exact hsome p hp

/-- A call that broadcasts nothing and leaves the stream changes nothing. -/
theorem apply_unchanged {p : PlaybackStreamer} (hp : s.playback = some p)
    (result : Except PlaybackError Unit) : s.apply ⟨p, none, result⟩ = s := by
  unfold apply leave
  rw [← hp]
  rfl

theorem takes_step (s : HostNetwork) (x : HostStep) : Takes s x (hostNetwork.next s x) := by
  cases x with
  | start streamStart source call joined spawned =>
    exact s.takes_startPlayback streamStart source call joined spawned
  | pause call =>
    refine takes_call (fun _ => .unchanged _) fun p hp => ?_
    obtain ⟨error, hfailed⟩ | ⟨-, houtcome⟩ := @PlaybackStreamer.pausePlayback_cases p
      { call with queued := call.queued && s.room }
    · rw [hfailed, apply_unchanged hp]
      exact .unchanged _
    · rw [houtcome]
      exact .paused hp
  | resume call =>
    refine takes_call (fun _ => .unchanged _) fun p hp => ?_
    obtain ⟨result, hfailed, -⟩ | ⟨hpaused, -, houtcome⟩ := @PlaybackStreamer.resumePlayback_cases p
      { call with queued := call.queued && s.room }
    · rw [hfailed, apply_unchanged hp]
      exact .unchanged _
    · rw [houtcome]
      exact .resumed hp hpaused
  | stop =>
    change Takes s .stop s.stopPlayback.1
    unfold stopPlayback
    cases hp : s.playback with
    | none => exact .unchanged _
    | some => exact .detached hp _
  | pump conditions =>
    change Takes s (.pump conditions) (s.step (.pump conditions)).1
    unfold step
    cases hp : s.playback with
    | none => exact .unchanged _
    | some => exact .pumped hp
  | stopped index conditions =>
    change Takes s (.stopped index conditions) (s.finishStopping index conditions)
    unfold finishStopping
    cases hstopping : s.stopping[index]? with
    | none => exact .unchanged _
    | some =>
      have hmem := List.mem_of_getElem? hstopping
      dsimp only
      split_ifs
      · exact .stopped hmem (.inr rfl)
      · exact .stopped hmem (.inl rfl)
  | deliver => exact .delivered

/-- A frame is sent, or the line is left alone. -/
def Sends (s s' : HostNetwork) : Prop :=
  s'.session = s.session ∧ (s'.line = s.line ∨ ∃ frame, s'.line = s.line.send frame)

theorem sends_leave (p : PlaybackStreamer) (frame : Option ProtocolFrame) :
    Sends s (s.leave p frame) := by
  cases frame with
  | none => exact ⟨rfl, .inl rfl⟩
  | some frame => exact ⟨rfl, .inr ⟨frame, rfl⟩⟩

/-- A step serves a frame, sends one, or leaves the line alone. -/
theorem Takes.sends (h : Takes s x s') (hx : x ≠ .deliver) : Sends s s' := by
  cases h with
  | pumped => exact sends_leave _ _
  | stopped _ hline => exact ⟨rfl, hline.imp_right fun h => ⟨_, h⟩⟩
  | delivered => exact absurd rfl hx
  | unchanged | idled | detached => exact ⟨rfl, .inl rfl⟩
  | _ => exact ⟨rfl, .inr ⟨_, rfl⟩⟩

theorem session_next (s : HostNetwork) (x : HostStep) :
    (hostNetwork.next s x).session = s.session := by
  by_cases hx : x = .deliver
  · subst hx
    rfl
  · exact ((s.takes_step x).sends hx).1

/-- Only the worker's steps answer frames. -/
theorem answer_eq_none (hx : x ≠ .deliver) : (hostNetwork.out s x).answer = none := by
  cases x with
  | deliver => exact absurd rfl hx
  | start streamStart source call joined spawned =>
    change (s.startPlayback streamStart source call joined spawned).2.answer = none
    unfold startPlayback
    dsimp only
    split_ifs <;> first | rfl | split <;> rfl
  | pause call | resume call =>
    change (s.call _ call).2.answer = none
    unfold HostNetwork.call
    split <;> rfl
  | stop =>
    change s.stopPlayback.2.answer = none
    unfold stopPlayback
    split <;> rfl
  | pump conditions =>
    change (s.step (.pump conditions)).2.answer = none
    unfold step
    dsimp only
    split <;> rfl
  | stopped => rfl

theorem move_step (s : HostNetwork) (x : HostStep) :
    Line.Move (broadcastFrame s.session) s.line (hostNetwork.next s x).line
      (hostNetwork.out s x).answer := by
  by_cases hx : x = .deliver
  · subst hx
    exact Line.move_serveNext s.line
  · rw [answer_eq_none hx]
    obtain ⟨-, hsame | ⟨frame, hsent⟩⟩ := (s.takes_step x).sends hx
    · rw [hsame]
      exact .idle
    · rw [hsent]
      exact .send frame

/-! ## Answers -/

/-- In a run, the frame that its first step sends is answered like this. -/
def Answered (s : HostNetwork) (steps : List HostStep) (answer : Answer) : Prop :=
  (Line.servedBy hostNetwork HostOutput.answer s steps)[s.line.queue.length]? = some answer

/-- The worker sends nothing. -/
theorem ne_deliver_of_send {frame : ProtocolFrame}
    (hsend : (hostNetwork.next s x).line = s.line.send frame) : x ≠ .deliver := by
  rintro rfl
  have hlength := congrArg (fun line => line.queue.length) hsend
  change (s.line.serveNext _).1.queue.length = (s.line.queue ++ [frame]).length at hlength
  rw [List.length_append, List.length_singleton] at hlength
  unfold Line.serveNext at hlength
  split at hlength
  · exact absurd hlength (Nat.lt_succ_self _).ne
  · next hqueue =>
    dsimp only at hlength
    rw [hqueue, List.length_cons] at hlength
    omega

theorem move_of_session (session : SessionId) (s : HostNetwork) (x : HostStep)
    (hs : s.session = session) :
    Line.Move (broadcastFrame session) s.line (hostNetwork.next s x).line
      (hostNetwork.out s x).answer :=
  hs ▸ s.move_step x

/-- The worker serves a frame if there is one. -/
theorem answer_deliver (h : s.line.queue ≠ []) : (hostNetwork.out s .deliver).answer ≠ none := by
  change (s.line.serveNext _).2 ≠ none
  unfold Line.serveNext
  split
  · next hnil => exact absurd hnil h
  · exact Option.some_ne_none _

/-- The frame that a step sends gets such an answer: in every run in which it is answered, and it
is answered once the worker has taken enough further steps. -/
def AnswersWith (s : HostNetwork) (x : HostStep) (later : List HostStep) (P : Answer → Prop) :
    Prop :=
  (∀ answer, s.Answered (x :: later) answer → P answer) ∧
    ∃ k answer, s.Answered (x :: (later ++ List.replicate k .deliver)) answer ∧ P answer

/-- A frame is answered by the settled controls of the moment it is sent. -/
theorem answersWith_of_send {frame : ProtocolFrame}
    (hsend : (hostNetwork.next s x).line = s.line.send frame) (later : List HostStep)
    {P : Answer → Prop}
    (hP : P ⟨frame, (broadcastFrame s.session s.settled frame).1,
      (broadcastFrame s.session s.settled frame).2⟩) : s.AnswersWith x later P := by
  obtain ⟨hall, k, hanswered⟩ := Line.answer_of_sent (fun t y ht => (t.session_next y).trans ht)
    (move_of_session s.session) (d := .deliver) (fun t _ ht => answer_deliver ht) rfl hsend
    (answer_eq_none (ne_deliver_of_send hsend)) later
  exact ⟨fun answer h => hall answer h ▸ hP, k, _, hanswered, hP⟩

/-- Sending a frame hands it to the settled controls. -/
theorem settled_send (s : HostNetwork) (frame : ProtocolFrame) :
    (s.send frame).settled = (broadcastFrame s.session s.settled frame).1 :=
  Line.settled_send frame

/-- The transport accepts the call of a frame that is sent, or its controls stay as they are. -/
theorem settled_send_cases (s : HostNetwork) (frame : ProtocolFrame) {call : PlaybackCall}
    (hcall : callOf frame = some call) : (s.send frame).settled = s.settled ∨
      s.settled.Accepts call (s.send frame).settled := by
  rw [settled_send]
  obtain ⟨delivery, -, heq⟩ | ⟨c', call', heq, -, hcall', haccepts⟩ :=
    broadcastFrame_cases s.session s.settled frame
  · exact .inl (congrArg Prod.fst heq)
  · obtain rfl := Option.some.inj (hcall.symm.trans hcall')
    rw [heq]
    exact .inr haccepts

theorem settled_delivered (s : HostNetwork) :
    settled { s with line := (s.line.serveNext (broadcastFrame s.session)).1 } = s.settled :=
  Line.settled_serveNext

end HostNetwork

end SilentDisco.Desktop
