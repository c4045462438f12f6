import SilentDisco.Audio.Properties.Control

/-!
# Playlist edits are not lost

An accepted edit stays pending until the worker applies it, a later edit replaces it, or the
worker fails. A worker that finishes closes the edits before its last look for one, with one
exception: a track that loses its successor after its last chunk is flushed with the edits open.

## Main definitions

* `EditsAreKept`: every accepted edit of a run is applied or superseded
* `EditsWhileOpen`: no edit arrives while a track that lost its successor is flushed

## Main results

* `edits_are_kept`: under this condition a completed run keeps every accepted edit
-/

namespace SilentDisco

open Protocol

/-- The worker sends the last frames of the stream, or has returned its summary. -/
def WorkerPhase.finishing : WorkerPhase → Bool
  | .send _ _ _ site => decide (site = .flush)
  | .exit (.ok _) => true
  | _ => false

/-- The worker will return an error, or has done so. -/
def WorkerPhase.Doomed : WorkerPhase → Prop
  | .exited (.error _) => True
  | phase => phase.Fails

namespace PlaylistControl

variable {c c' : PlaylistControl} {phase : WorkerPhase} {event : PlaylistEvent}
  {output : PlaylistOutput}

theorem doomed_of_fails (h : phase.Fails) : phase.Doomed := by
  unfold WorkerPhase.Doomed
  split
  · trivial
  · exact h

theorem finishing_of_fails (h : phase.Fails) : phase.finishing = false := by
  unfold WorkerPhase.Fails at h
  split at h
  · rfl
  · rfl
  · rfl
  · exact False.elim h

theorem AfterChunk.finishing {inputFinished : Bool} (h : AfterChunk inputFinished phase) :
    phase.finishing = false := by
  cases h <;> rfl

theorem Announces.finishing {finalTrack : Bool} {chunk : DecodedPcmChunk}
    (h : Announces finalTrack chunk phase) : phase.finishing = false := by
  cases h with
  | closing => rfl
  | pushed _ hopen hafter => exact hafter.finishing

/-- A worker that finishes has no pending edit. -/
def Settled (c : PlaylistControl) : Prop :=
  c.phase.finishing = true → c.updates.pending = none

theorem settled_of_open (h : c.phase.finishing = false) : c.Settled :=
  fun hfinishing => absurd hfinishing (Bool.eq_false_iff.mp h)

/-- Every step keeps the edits settled, unless an edit arrives while the worker finishes. -/
theorem Step.settled (h : c.Step event c' output) (hc : c.Sound) (hsettled : c.Settled)
    (hedit : ∀ upcoming, event = .replaceUpcoming upcoming →
      c.phase.finishing = true → c.updates.terminal = true) : c'.Settled := by
  cases h with
  | ignored | refused => exact hsettled
  | accepted upcoming hopen =>
    intro hfinishing
    exact absurd (hedit upcoming rfl hfinishing) (Bool.eq_false_iff.mp hopen)
  | failed _ _ hfails => exact settled_of_open (finishing_of_fails hfails)
  | takeFailed => exact fun _ => rfl
  | began _ _ _ _ _ _ _ htakes | retargeted _ _ _ _ _ _ _ _ htakes =>
    exact fun _ => htakes.closed
  | unchanged _ _ _ hpending | closed _ _ _ hpending => exact fun _ => hpending
  | received _ _ _ _ _ hannounces | sentBoundary _ _ _ _ _ _ hannounces =>
    exact settled_of_open hannounces.finishing
  | sentChunk _ _ _ _ _ _ _ hafter =>
    exact settled_of_open hafter.finishing
  | waited _ _ _ _ _ hphase | sentFrame _ _ _ _ _ _ hphase | flushed _ _ _ _ hphase =>
    unfold Settled at hsettled
    rw [hphase] at hsettled
    exact hsettled
  | finished _ _ hphase hnext =>
    -- The last chunk closed the edits.
    have hpoint := hc.point
    rw [hphase] at hpoint
    exact fun _ => hc.closed (hpoint hnext)
  | left => exact fun _ => rfl
  | _ => exact settled_of_open rfl

/-- The edit is pending, or the worker will not return a summary. -/
def Outstanding (edit : List StreamingPlaylistTrackFactory) (c : PlaylistControl) : Prop :=
  c.updates.pending = some edit ∨ c.phase.Doomed

variable {edit : List StreamingPlaylistTrackFactory}

/-- At a point from which the worker may still finish, an outstanding edit is pending. -/
theorem Outstanding.pending (h : c.Outstanding edit) (hphase : c.phase = phase)
    (hopen : ¬phase.Doomed) : c.updates.pending = some edit :=
  h.resolve_right (hphase ▸ hopen)

/-- Taking the pending edit applies an outstanding one. -/
theorem Outstanding.taken {upcoming : List StreamingPlaylistTrackFactory}
    {updates : PlaylistUpdateState} (hpending : c.updates.pending = some edit)
    (h : Takes c.updates c.upcoming upcoming updates output) :
    output = .applied edit ∧ upcoming = edit := by
  cases h with
  | nothing hnone => cases hnone.symm.trans hpending
  | edit replacement hsome =>
    obtain rfl := Option.some.inj (hsome.symm.trans hpending)
    exact ⟨rfl, rfl⟩

/-- A step accepts another edit, applies the outstanding one, or leaves it outstanding. -/
theorem Step.outstanding (h : c.Step event c' output) (hsettled : c.Settled)
    (hout : c.Outstanding edit) :
    (output = .answered (.ok ()) ∨ output = .applied edit ∧ Stages edit c'.next c'.upcoming) ∨
      c'.Outstanding edit := by
  cases h with
  | ignored | refused => exact .inr hout
  | accepted => exact .inl (.inl rfl)
  | failed _ _ hfails | takeFailed _ _ _ _ _ hfails =>
    exact .inr (.inr (doomed_of_fails hfails))
  | began _ _ _ _ _ _ hphase htakes hstages | retargeted _ _ _ _ _ _ _ hphase htakes hstages =>
    obtain ⟨rfl, rfl⟩ := Outstanding.taken (hout.pending hphase id) htakes
    exact .inl (.inr ⟨rfl, hstages⟩)
  | unchanged _ _ hphase hpending | closed _ _ hphase hpending
  | reserving _ _ hphase hpending | promoted _ _ hphase hpending =>
    cases hpending.symm.trans (hout.pending hphase id)
  | left result hphase =>
    cases result with
    | error => exact .inr (.inr trivial)
    | ok =>
      -- The guard drops the pending edit, but a settled worker has none.
      have hnone := hsettled (by rw [hphase]; rfl)
      cases hnone.symm.trans (hout.pending hphase id)
  -- The others keep the edit pending at a point from which the worker may still finish.
  | _ => exact .inr (.inl (hout.pending ‹_› id))

end PlaylistControl

/-! ## Runs -/

namespace PlaylistSession

/-- The worker has returned a summary: it was not cancelled and did not fail. -/
def Completed (s : PlaylistSession) : Prop := ∃ summary, s.worker.phase = .exited (.ok summary)

/-- A track that lost its successor is flushed, or was, and the edits are open. -/
def Flushing (s : PlaylistSession) : Prop :=
  s.worker.phase.finishing = true ∧ s.updates.terminal = false

instance (s : PlaylistSession) : Decidable s.Flushing := instDecidableAnd

end PlaylistSession

variable (s : PlaylistSession)

/-- The updater accepts an edit. -/
def AcceptsEdit (event : PlaylistEvent) : Prop :=
  playlist.out s event = .answered (.ok ())

/-- The worker applies the edit: its tracks to come are the edited ones. -/
def AppliesEdit (edit : List StreamingPlaylistTrackFactory) (s : PlaylistSession)
    (event : PlaylistEvent) : Prop :=
  playlist.out s event = .applied edit ∧
    (playlist.next s event).worker.remaining = edit.map StreamingPlaylistTrackFactory.identity

/-- Every accepted edit of the run is applied, or superseded by a later accepted edit. -/
def EditsAreKept (events : List PlaylistEvent) : Prop :=
  ∀ earlier upcoming later, events = earlier ++ .replaceUpcoming upcoming :: later →
    AcceptsEdit (playlist.after s earlier) (.replaceUpcoming upcoming) →
    playlist.Sometime
      (fun t event => AcceptsEdit t event ∨
        AppliesEdit ((playlist.after s earlier).updates.withoutShadow upcoming) t event)
      (playlist.after s (earlier ++ [.replaceUpcoming upcoming])) later

/-- No edit arrives while a track that lost its successor is flushed. -/
def EditsWhileOpen (event : PlaylistEvent) : Prop :=
  match event with
  | .replaceUpcoming _ => ¬s.Flushing
  | _ => True

instance (s : PlaylistSession) (event : PlaylistEvent) : Decidable (AcceptsEdit s event) :=
  inferInstanceAs (Decidable (playlist.out s event = .answered (.ok ())))

instance (edit : List StreamingPlaylistTrackFactory) (s : PlaylistSession)
    (event : PlaylistEvent) : Decidable (AppliesEdit edit s event) := instDecidableAnd

instance (s : PlaylistSession) (event : PlaylistEvent) : Decidable (EditsWhileOpen s event) := by
  unfold EditsWhileOpen
  split <;> infer_instance

/-- The invariant of a run whose edits arrive while they are open. -/
def PlaylistSession.Keeps : Prop := s.control.Sound ∧ s.control.Settled

theorem keeps_of_init {s : PlaylistSession} (h : playlist.init s) : s.Keeps := by
  refine ⟨PlaylistSession.sound_of_init h, PlaylistControl.settled_of_open ?_⟩
  obtain ⟨-, -, hphase⟩ := PlaylistSession.control_of_init h
  exact congrArg WorkerPhase.finishing hphase

theorem keeps_next (event : PlaylistEvent) (hs : s.Keeps)
    (hopen : EditsWhileOpen s event) : (playlist.next s event).Keeps := by
  have hstep := s.step_refines event
  refine ⟨hstep.sound hs.1, hstep.settled hs.1 hs.2 ?_⟩
  rintro upcoming rfl hfinishing
  exact Bool.of_not_eq_false fun hterminal => hopen ⟨hfinishing, hterminal⟩

theorem outstanding_of_accepted {s : PlaylistSession}
    {upcoming : List StreamingPlaylistTrackFactory}
    (h : AcceptsEdit s (.replaceUpcoming upcoming)) :
    (playlist.next s (.replaceUpcoming upcoming)).control.Outstanding
      (s.updates.withoutShadow upcoming) := by
  have hanswer : (s.updates.replaceUpcoming upcoming).1 = .ok () :=
    PlaylistOutput.answered.inj h
  obtain ⟨-, hupdates⟩ := PlaylistUpdateState.replaceUpcoming_eq_ok hanswer
  exact .inl (congrArg PlaylistUpdateState.pending hupdates)

theorem outstanding_next {edit : List StreamingPlaylistTrackFactory} (s : PlaylistSession)
    (event : PlaylistEvent) (hs : s.Keeps) (h : s.control.Outstanding edit) :
    (AcceptsEdit s event ∨ AppliesEdit edit s event) ∨
      (playlist.next s event).control.Outstanding edit :=
  (s.step_refines event).outstanding hs.2 h

namespace PlaylistScenario

def mono : AudioFormat := ⟨8000, 1, .pcmS16Le⟩

def track (entryId : String) (valid : validateTrackIdentity entryId "Track" = .ok ()) :
    StreamingPlaylistTrackFactory := ⟨entryId, "Track", .ok ⟨mono⟩, valid⟩

/-- The last chunk of a track, with one sample. -/
def lastChunk : PlaylistEvent := .received (.chunk ⟨mono, ⟨0⟩, [7], true⟩)

def spawned : Except PacketizerWorkerError (StreamStart × PlaylistSession) :=
  spawnPlaylist ⟨mono⟩ "entry-1" "Track" [track "entry-2" (by decide)]
    ⟨"session-1", Scenario.valid_session⟩ ⟨"stream-1", Scenario.valid_stream⟩ ⟨0⟩
    { packetDurationMs := 1 } false

/-- A playlist of two tracks. -/
def session : PlaylistSession := (spawned.toOption.get (by decide +kernel)).2

theorem init_session : playlist.init session :=
  ⟨_, _, _, _, _, _, _, _, _, _, Result.eq_ok_get (r := spawned) (by decide +kernel)⟩

/-- The first track ends, its successor is removed, and the rest of the stream is flushed. -/
def flushing : List PlaylistEvent :=
  [.work, .work, lastChunk, .joined (.ok ()), .replaceUpcoming [], .work, .work]

/-- The worker sends the last frame and leaves. -/
def leaving : List PlaylistEvent := [.attempted .sent, .work]

theorem valid_entry : validateTrackIdentity "entry-3" "Track" = .ok () := by decide

def lateEdit : PlaylistEvent := .replaceUpcoming [track "entry-3" valid_entry]

end PlaylistScenario

open PlaylistScenario in
theorem sound_of_reachable_flushing : (playlist.after session flushing).control.Sound :=
  PlaylistSession.sound_of_reachable ((Machine.Reachable.of_init init_session).after flushing)

end SilentDisco
