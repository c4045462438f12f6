import SilentDisco.Audio.PlaylistWorker

/-!
# Control of the playlist worker

The worker without its packetizer, decoder and counters: the shared edits, the tracks to come,
the boundary to announce, and the control point. Every step of the playlist is a step of this
control, and invariants of edits and promotions need no more than that.

## Main definitions

* `PlaylistControl`: the abstract state
* `PlaylistControl.Step`: what one event can do

## Main results

* `PlaylistSession.step_refines`: every step of the playlist is a step of its control
* `playlist_refines_control`: every run is a trace of control steps
-/

namespace SilentDisco

open Protocol PlaylistUpdateState

structure PlaylistControl where
  updates : PlaylistUpdateState
  next : Option StagedPlaylistTrack
  upcoming : List StreamingPlaylistTrackFactory
  finalTrack : Bool
  boundary : Option TrackBoundary
  phase : WorkerPhase

/-- The control of a worker with its shared edits. -/
def PlaylistWorker.control (w : PlaylistWorker) (updates : PlaylistUpdateState) :
    PlaylistControl where
  updates := updates
  next := w.next
  upcoming := w.upcoming
  finalTrack := w.finalTrack
  boundary := w.boundary
  phase := w.phase

def PlaylistSession.control (s : PlaylistSession) : PlaylistControl := s.worker.control s.updates

/-- The phases of a worker that will return an error. -/
def WorkerPhase.Fails : WorkerPhase → Prop
  | .join (.error _) | .exit (.error _) | .abandon _ => True
  | _ => False

namespace PlaylistControl

/-- What follows a chunk: a failure, its packets, the end of the track, or the next chunk. -/
inductive AfterChunk (inputFinished : Bool) : WorkerPhase → Prop
  | failed (error : PacketizerWorkerError) : AfterChunk inputFinished (.join (.error error))
  | sending (frame : ProtocolFrame) (rest : List ProtocolFrame) (endOfStream : Bool)
      (haudio : ∀ sent ∈ frame :: rest, sent.isAudio = true) :
      AfterChunk inputFinished (.send frame rest false (.chunk inputFinished endOfStream))
  | ended (hfinished : inputFinished = true) : AfterChunk inputFinished (.join (.ok ()))
  | polling (hfinished : inputFinished = false) : AfterChunk inputFinished (.refresh .track)

/-- What follows a track: a failure, the promotion of its successor, or the end. -/
inductive AfterTrack (next : Option StagedPlaylistTrack) : WorkerPhase → Prop
  | failed (error : PacketizerWorkerError) : AfterTrack next (.exit (.error error))
  | finished (summary : PacketizerSummary) (hnext : next = none) :
      AfterTrack next (.exit (.ok summary))
  | flushing (frame : ProtocolFrame) (rest : List ProtocolFrame) (hnext : next = none)
      (haudio : ∀ sent ∈ frame :: rest, sent.isAudio = true) :
      AfterTrack next (.send frame rest false .flush)
  | promoting (track : ReadyTrack)
      (hnext : next = some ⟨track.entryId, track.displayName, .ok track.decoder⟩) :
      AfterTrack next (.promote track)

/-- What follows the arrival of a chunk, once its boundary is announced. -/
inductive Announces (finalTrack : Bool) (chunk : DecodedPcmChunk) : WorkerPhase → Prop
  | closing (hfinished : chunk.endOfStream = true) (hfinal : finalTrack = true) :
      Announces finalTrack chunk (.seal chunk)
  | pushed (phase : WorkerPhase) (hopen : chunk.endOfStream = true → finalTrack = false)
      (hafter : AfterChunk chunk.endOfStream phase) : Announces finalTrack chunk phase

/-- What follows a look for a pending edit. -/
inductive Resumes (next : Option StagedPlaylistTrack) (finalTrack : Bool) :
    RefreshSite → WorkerPhase → Prop
  | track : Resumes next finalTrack .track .receive
  | closing (chunk : DecodedPcmChunk) (hfinal : finalTrack = true) :
      Resumes next finalTrack (.sealing chunk) (.seal chunk)
  | pushed (chunk : DecodedPcmChunk) (phase : WorkerPhase) (hopen : finalTrack = false)
      (hafter : AfterChunk chunk.endOfStream phase) :
      Resumes next finalTrack (.sealing chunk) phase
  | promotion (phase : WorkerPhase) (hafter : AfterTrack next phase) :
      Resumes next finalTrack .promotion phase

/-- The worker takes the pending edit, if there is one. -/
inductive Takes (updates : PlaylistUpdateState) (upcoming : List StreamingPlaylistTrackFactory) :
    List StreamingPlaylistTrackFactory → PlaylistUpdateState → PlaylistOutput → Prop
  | nothing (hpending : updates.pending = none) : Takes updates upcoming upcoming updates .silent
  | edit (replacement : List StreamingPlaylistTrackFactory)
      (hpending : updates.pending = some replacement)
      (hvalid : updates.validatePlaylistUpdate replacement = .ok ()) :
      Takes updates upcoming replacement { updates with pending := none } (.applied replacement)

/-- The successor and the rest are the upcoming tracks. -/
def Stages (upcoming : List StreamingPlaylistTrackFactory) (next : Option StagedPlaylistTrack)
    (rest : List StreamingPlaylistTrackFactory) : Prop :=
  (next.map StagedPlaylistTrack.identity).toList ++
      rest.map StreamingPlaylistTrackFactory.identity =
    upcoming.map StreamingPlaylistTrackFactory.identity

/-- What one event can do. -/
inductive Step (c : PlaylistControl) : PlaylistEvent → PlaylistControl → PlaylistOutput → Prop
  | ignored (event : PlaylistEvent) : Step c event c .silent
  | refused (upcoming : List StreamingPlaylistTrackFactory) (error : PacketizerWorkerError) :
      Step c (.replaceUpcoming upcoming) c (.answered (.error error))
  | accepted (upcoming : List StreamingPlaylistTrackFactory)
      (hopen : c.updates.terminal = false)
      (hvalid : c.updates.validatePlaylistUpdate (c.updates.withoutShadow upcoming) = .ok ()) :
      Step c (.replaceUpcoming upcoming)
        { c with
          updates.pending := some (c.updates.withoutShadow upcoming) }
        (.answered (.ok ()))
  | failed (event : PlaylistEvent) (phase : WorkerPhase) (hfails : phase.Fails) :
      Step c event { c with phase } .silent
  | takeFailed (event : PlaylistEvent) (phase : WorkerPhase)
      (replacement : List StreamingPlaylistTrackFactory)
      (hpending : c.updates.pending = some replacement)
      (hinvalid : c.updates.validatePlaylistUpdate replacement ≠ .ok ())
      (hfails : phase.Fails) :
      Step c event { c with updates.pending := none, phase } .silent
  -- The head of the loop.
  | began (upcoming rest : List StreamingPlaylistTrackFactory) (updates : PlaylistUpdateState)
      (next : Option StagedPlaylistTrack) (finalTrack : Bool) (output : PlaylistOutput)
      (hphase : c.phase = .start) (htakes : Takes c.updates c.upcoming upcoming updates output)
      (hstages : Stages upcoming next rest) (hfinal : next = none → finalTrack = true) :
      Step c .work
        { c with updates, next, upcoming := rest, finalTrack, phase := .refresh .track } output
  -- The look for a pending edit.
  | noticed (site : RefreshSite) (hphase : c.phase = .refresh site)
      (hpending : c.updates.pending ≠ none) : Step c .work { c with phase := .apply site } .silent
  | unchanged (site : RefreshSite) (phase : WorkerPhase) (hphase : c.phase = .refresh site)
      (hpending : c.updates.pending = none) (hresumes : Resumes c.next c.finalTrack site phase) :
      Step c .work { c with phase } .silent
  | retargeted (site : RefreshSite) (upcoming rest : List StreamingPlaylistTrackFactory)
      (updates : PlaylistUpdateState) (next : Option StagedPlaylistTrack) (phase : WorkerPhase)
      (output : PlaylistOutput) (hphase : c.phase = .apply site)
      (htakes : Takes c.updates c.upcoming upcoming updates output)
      (hstages : Stages upcoming next rest)
      (hresumes : Resumes next next.isNone site phase) :
      Step c .work
        { c with updates, next, upcoming := rest, finalTrack := next.isNone, phase } output
  -- The chunks of a track.
  | timedOut (event : PlaylistEvent) (hphase : c.phase = .receive) :
      Step c event { c with phase := .refresh .track } .silent
  | received (event : PlaylistEvent) (chunk : DecodedPcmChunk) (phase : WorkerPhase)
      (hphase : c.phase = .receive) (hboundary : c.boundary = none)
      (hannounces : Announces c.finalTrack chunk phase) : Step c event { c with phase } .silent
  | announcing (event : PlaylistEvent) (chunk : DecodedPcmChunk) (boundary : TrackBoundary)
      (hphase : c.phase = .receive) (hboundary : c.boundary = some boundary) :
      Step c event
        { c with
          boundary := none
          phase := .send (.control (.trackBoundary boundary)) [] false (.boundary chunk) } .silent
  | closed (chunk : DecodedPcmChunk) (phase : WorkerPhase) (hphase : c.phase = .seal chunk)
      (hpending : c.updates.pending = none) (hafter : AfterChunk chunk.endOfStream phase) :
      Step c .work { c with updates.terminal := true, phase } .silent
  | keptOpen (chunk : DecodedPcmChunk) (hphase : c.phase = .seal chunk)
      (hpending : c.updates.pending ≠ none) :
      Step c .work { c with phase := .refresh (.sealing chunk) } .silent
  -- The frames of a chunk.
  | waited (event : PlaylistEvent) (frame : ProtocolFrame) (rest : List ProtocolFrame)
      (recorded : Bool) (site : SendSite) (hphase : c.phase = .send frame rest recorded site) :
      Step c event { c with phase := .send frame rest true site } .silent
  | sentFrame (event : PlaylistEvent) (frame following : ProtocolFrame)
      (others : List ProtocolFrame) (recorded : Bool) (site : SendSite)
      (hphase : c.phase = .send frame (following :: others) recorded site) :
      Step c event { c with phase := .send following others false site } (.sent frame)
  | sentBoundary (event : PlaylistEvent) (frame : ProtocolFrame) (recorded : Bool)
      (chunk : DecodedPcmChunk) (phase : WorkerPhase)
      (hphase : c.phase = .send frame [] recorded (.boundary chunk))
      (hannounces : Announces c.finalTrack chunk phase) :
      Step c event { c with phase } (.sent frame)
  | sentChunk (event : PlaylistEvent) (frame : ProtocolFrame)
      (recorded inputFinished endOfStream : Bool) (phase : WorkerPhase)
      (hphase : c.phase = .send frame [] recorded (.chunk inputFinished endOfStream))
      (hafter : AfterChunk inputFinished phase) : Step c event { c with phase } (.sent frame)
  | flushed (event : PlaylistEvent) (frame : ProtocolFrame) (recorded : Bool)
      (summary : PacketizerSummary) (hphase : c.phase = .send frame [] recorded .flush) :
      Step c event { c with phase := .exit (.ok summary) } (.sent frame)
  -- The end of a track.
  | finished (event : PlaylistEvent) (summary : PacketizerSummary)
      (hphase : c.phase = .join (.ok ())) (hnext : c.next = none) :
      Step c event { c with phase := .exit (.ok summary) } .silent
  | joined (event : PlaylistEvent) (hphase : c.phase = .join (.ok ())) (hnext : c.next ≠ none) :
      Step c event { c with phase := .refresh .promotion } .silent
  | unpromoted (track : ReadyTrack) (hphase : c.phase = .promote track)
      (hpending : c.updates.pending ≠ none) :
      Step c .work { c with phase := .refresh .promotion } .silent
  | reserving (track : ReadyTrack) (boundary : TrackBoundary) (hphase : c.phase = .promote track)
      (hpending : c.updates.pending = none) (hboundary : boundary.entryId = track.entryId) :
      Step c .work
        { c with
          updates := (c.updates.promoteCurrentEntryIfUnmodified track.entryId true).2
          next := none
          phase := .reserve boundary } (.promoted track.entryId)
  | promoted (track : ReadyTrack) (boundary : TrackBoundary) (hphase : c.phase = .promote track)
      (hpending : c.updates.pending = none) (hboundary : boundary.entryId = track.entryId) :
      Step c .work
        { c with
          updates := (c.updates.promoteCurrentEntryIfUnmodified track.entryId false).2
          next := none
          boundary := some boundary
          phase := .start } (.promoted track.entryId)
  | reserved (event : PlaylistEvent) (boundary : TrackBoundary)
      (hphase : c.phase = .reserve boundary) :
      Step c event { c with boundary := some boundary, phase := .start } .silent
  | left (result : Except PacketizerWorkerError PacketizerSummary)
      (hphase : c.phase = .exit result) :
      Step c .work { c with updates := c.updates.close, phase := .exited result } .silent

end PlaylistControl

/-! ## The worker's local computations -/

namespace PlaylistWorker

open PlaylistControl

/-- The worker changes its packetizer, its counters and its control point only. -/
def MovesTo (w w' : PlaylistWorker) (phase : WorkerPhase) : Prop :=
  ∀ updates, w'.control updates = { w.control updates with phase }

variable (w : PlaylistWorker)

theorem chunkSent_moves (inputFinished endOfStream : Bool) :
    ∃ phase, w.MovesTo (w.chunkSent inputFinished endOfStream) phase ∧
      AfterChunk inputFinished phase := by
  unfold chunkSent
  split_ifs with hfinished herror
  · exact ⟨_, fun _ => rfl, .failed _⟩
  · exact ⟨_, fun _ => rfl, .ended hfinished⟩
  · exact ⟨_, fun _ => rfl, .polling (eq_false_of_ne_true hfinished)⟩

theorem pushChunk_moves (chunk : DecodedPcmChunk) :
    ∃ phase, w.MovesTo (w.pushChunk chunk) phase ∧ AfterChunk chunk.endOfStream phase := by
  unfold pushChunk
  split
  · exact ⟨_, fun _ => rfl, .failed _⟩
  · next outcome packetizer hpush =>
    have haudio := Packetizer.pushContiguousChunk_isAudio hpush
    split
    · exact { w with packetizer }.chunkSent_moves chunk.endOfStream outcome.endOfStream
    · next frame rest hframes =>
      rw [hframes] at haudio
      exact ⟨_, fun _ => rfl, .sending frame rest _ haudio⟩

theorem chunkAnnounced_moves (chunk : DecodedPcmChunk) :
    ∃ phase, w.MovesTo (w.chunkAnnounced chunk) phase ∧ Announces w.finalTrack chunk phase := by
  unfold chunkAnnounced
  split_ifs with hclosing
  · rw [Bool.and_eq_true] at hclosing
    exact ⟨_, fun _ => rfl, .closing hclosing.1 hclosing.2⟩
  · obtain ⟨phase, hmoves, hafter⟩ := w.pushChunk_moves chunk
    refine ⟨phase, hmoves, .pushed phase (fun hfinished => ?_) hafter⟩
    rw [hfinished, Bool.true_and] at hclosing
    exact eq_false_of_ne_true hclosing

theorem flush_moves (hnext : w.next = none) :
    ∃ phase, w.MovesTo w.flush phase ∧ AfterTrack w.next phase := by
  unfold flush
  split_ifs
  · exact ⟨_, fun _ => rfl, .failed _⟩
  · split
    · exact ⟨_, fun _ => rfl, .failed _⟩
    · next outcome packetizer hpush =>
      have haudio := Packetizer.pushContiguousChunk_isAudio hpush
      split
      · exact ⟨_, fun _ => rfl, .finished _ hnext⟩
      · next frame rest hframes =>
        rw [hframes] at haudio
        exact ⟨_, fun _ => rfl, .flushing frame rest hnext haudio⟩

theorem proceed_moves : ∃ phase, w.MovesTo w.proceed phase ∧ AfterTrack w.next phase := by
  unfold proceed
  split
  · next hnext =>
    split_ifs
    · exact w.flush_moves hnext
    · exact ⟨_, fun _ => rfl, .finished _ hnext⟩
  · next staged hnext =>
    split
    · next decoder hopened =>
      refine ⟨_, fun _ => rfl, .promoting ⟨staged.entryId, staged.displayName, decoder⟩ ?_⟩
      rw [hnext, ← hopened]
    · exact ⟨_, fun _ => rfl, .failed _⟩

theorem resume_moves (site : RefreshSite) :
    ∃ phase, w.MovesTo (w.resume site) phase ∧ Resumes w.next w.finalTrack site phase := by
  cases site with
  | track => exact ⟨_, fun _ => rfl, .track⟩
  | sealing chunk =>
    unfold resume
    split_ifs with hfinal
    · exact ⟨_, fun _ => rfl, .closing chunk hfinal⟩
    · obtain ⟨phase, hmoves, hafter⟩ := w.pushChunk_moves chunk
      exact ⟨phase, hmoves, .pushed chunk phase (eq_false_of_ne_true hfinal) hafter⟩
  | promotion =>
    obtain ⟨phase, hmoves, hafter⟩ := w.proceed_moves
    exact ⟨phase, hmoves, .promotion phase hafter⟩

theorem failRefresh_moves (error : PacketizerWorkerError) (site : RefreshSite) :
    ∃ phase, w.MovesTo (w.failRefresh error site) phase ∧ phase.Fails := by
  cases site <;> exact ⟨_, fun _ => rfl, trivial⟩

theorem failSend_moves (error : PacketizerWorkerError) (site : SendSite) :
    ∃ phase, w.MovesTo (w.failSend error site) phase ∧ phase.Fails := by
  cases site <;> exact ⟨_, fun _ => rfl, trivial⟩

@[simp] theorem countBackpressure_control (backpressureRecorded : Bool)
    (updates : PlaylistUpdateState) :
    (w.countBackpressure backpressureRecorded).control updates = w.control updates := by
  unfold countBackpressure
  split_ifs <;> rfl

@[simp] theorem countSent_control (frame : ProtocolFrame) (updates : PlaylistUpdateState) :
    (w.countSent frame).control updates = w.control updates := by
  unfold countSent
  split <;> rfl

theorem openNextTrack_stages : Stages w.upcoming w.openNextTrack.next w.openNextTrack.upcoming := by
  unfold openNextTrack Stages
  split
  · next hnone => simp [hnone]
  · next track rest hsome =>
    rw [hsome]
    rfl

theorem keepsSuccessor_stages (h : w.keepsSuccessor = true) :
    Stages w.upcoming w.next w.upcoming.tail := by
  unfold keepsSuccessor readyNext StagedPlaylistTrack.ready at h
  split at h
  · next ready track rest hready hupcoming =>
    obtain ⟨staged, hnext, hstaged⟩ := Option.bind_eq_some_iff.mp hready
    rw [Bool.and_eq_true, decide_eq_true_iff, decide_eq_true_iff] at h
    split at hstaged
    · obtain rfl := Option.some.inj hstaged
      unfold Stages
      rw [hnext, hupcoming]
      simp only [Option.map_some, Option.toList_some, List.tail_cons, List.map_cons,
        List.singleton_append, List.cons.injEq, and_true]
      exact Prod.ext h.1 h.2
    · cases hstaged
  · cases h

theorem restage_stages : Stages w.upcoming w.restage.next w.restage.upcoming := by
  unfold restage
  split_ifs with hkeeps
  · exact w.keepsSuccessor_stages hkeeps
  · exact w.openNextTrack_stages

theorem openNextTrack_control (updates : PlaylistUpdateState) :
    w.openNextTrack.control updates =
      { w.control updates with
        next := w.openNextTrack.next
        upcoming := w.openNextTrack.upcoming } := by
  unfold openNextTrack
  split <;> rfl

theorem restage_control (updates : PlaylistUpdateState) :
    w.restage.control updates =
      { w.control updates with next := w.restage.next, upcoming := w.restage.upcoming } := by
  unfold restage
  split_ifs
  · rfl
  · exact w.openNextTrack_control updates

theorem retarget_control (upcoming : List StreamingPlaylistTrackFactory)
    (updates : PlaylistUpdateState) :
    (w.retarget upcoming).control updates =
      { w.control updates with
        next := (w.retarget upcoming).next
        upcoming := (w.retarget upcoming).upcoming
        finalTrack := (w.retarget upcoming).next.isNone } :=
  congrArg
    (fun c : PlaylistControl => { c with finalTrack := (w.retarget upcoming).next.isNone })
    ({ w with upcoming }.restage_control updates)

theorem begin_control (upcoming : List StreamingPlaylistTrackFactory)
    (updates : PlaylistUpdateState) :
    (w.begin upcoming).control updates =
      { w.control updates with
        next := (w.begin upcoming).next
        upcoming := (w.begin upcoming).upcoming
        finalTrack := (w.begin upcoming).finalTrack
        phase := .refresh .track } :=
  congrArg
    (fun c : PlaylistControl =>
      { c with finalTrack := (w.begin upcoming).finalTrack, phase := .refresh .track })
    ({ w with upcoming }.openNextTrack_control updates)

theorem begin_final {upcoming : List StreamingPlaylistTrackFactory}
    (hnext : (w.begin upcoming).next = none) : (w.begin upcoming).finalTrack = true := by
  change (((w.begin upcoming).next).bind _).isNone = true
  rw [hnext]
  rfl

end PlaylistWorker

/-! ## Refinement -/

namespace PlaylistSession

open PlaylistControl PlaylistWorker

variable (s : PlaylistSession)

/-- A step that a control step describes. -/
def Refines (event : PlaylistEvent) (result : PlaylistSession × PlaylistOutput) : Prop :=
  s.control.Step event result.1.control result.2

variable {s} {frame : ProtocolFrame} {recorded : Bool} {site : SendSite}

theorem Refines.of_moves {event : PlaylistEvent} {w : PlaylistWorker} (phase : WorkerPhase)
    (hmoves : s.worker.MovesTo w phase)
    (h : s.control.Step event { s.control with phase } .silent) : s.Refines event (s.goOn w) := by
  have hcontrol : (s.goOn w).1.control = { s.control with phase } := hmoves s.updates
  unfold Refines
  rw [hcontrol]
  exact h

theorem Refines.of_fails {event : PlaylistEvent} {w : PlaylistWorker} (phase : WorkerPhase)
    (hmoves : s.worker.MovesTo w phase) (hfails : phase.Fails) : s.Refines event (s.goOn w) :=
  .of_moves phase hmoves (.failed event phase hfails)

/-- What `takeUpdate` does to the control. -/
theorem takeUpdate_cases (fail : PacketizerWorkerError → PlaylistWorker)
    (succeed : List StreamingPlaylistTrackFactory → PlaylistWorker) :
    (∃ upcoming updates output, Takes s.updates s.worker.upcoming upcoming updates output ∧
      s.takeUpdate fail succeed = ({ s with updates, worker := succeed upcoming }, output)) ∨
    ∃ replacement error, s.updates.pending = some replacement ∧
      s.updates.validatePlaylistUpdate replacement ≠ .ok () ∧
      s.takeUpdate fail succeed =
        ({ s with updates.pending := none, worker := fail error }, .silent) := by
  unfold takeUpdate applyPlaylistUpdate
  cases hpending : s.updates.pending with
  | none => exact .inl ⟨_, _, _, .nothing hpending, rfl⟩
  | some replacement =>
    cases hvalid : s.updates.validatePlaylistUpdate replacement with
    | error error =>
      exact .inr ⟨replacement, error, rfl, by simp [hvalid], by simp [Except.map, hvalid]⟩
    | ok => exact .inl ⟨_, _, _, .edit replacement hpending hvalid, by simp [Except.map, hvalid]⟩

theorem beginTrack_refines (hphase : s.worker.phase = .start) : s.Refines .work s.beginTrack := by
  unfold beginTrack
  split_ifs
  · exact .of_fails (.exit (.error workerCancelled)) (fun _ => rfl) trivial
  · rcases s.takeUpdate_cases s.worker.failWorker s.worker.begin with
      ⟨upcoming, updates, output, htakes, heq⟩ | ⟨replacement, error, hpending, hinvalid, heq⟩
    · have hstages := { s.worker with upcoming }.openNextTrack_stages
      unfold Refines
      rw [heq]
      change s.control.Step .work ((s.worker.begin upcoming).control updates) output
      rw [s.worker.begin_control upcoming updates]
      exact .began upcoming _ updates _ _ output hphase htakes hstages s.worker.begin_final
    · rw [heq]
      exact .takeFailed .work _ replacement hpending hinvalid trivial

theorem refresh_refines {site : RefreshSite} (hphase : s.worker.phase = .refresh site) :
    s.Refines .work (s.refresh site) := by
  unfold refresh
  split_ifs with hcancelled hpending
  · exact .of_fails (.join (.error workerCancelled)) (fun _ => rfl) trivial
  · refine .of_moves (.apply site) (fun _ => rfl) (.noticed site hphase ?_)
    exact Option.isSome_iff_ne_none.mp hpending
  · obtain ⟨phase, hmoves, hresumes⟩ := s.worker.resume_moves site
    exact .of_moves phase hmoves
      (.unchanged site phase hphase (Option.not_isSome_iff_eq_none.mp hpending) hresumes)

theorem applyUpdate_refines {site : RefreshSite} (hphase : s.worker.phase = .apply site) :
    s.Refines .work (s.applyUpdate site) := by
  rcases s.takeUpdate_cases (s.worker.failRefresh · site) fun upcoming =>
      (s.worker.retarget upcoming).resume site with
    ⟨upcoming, updates, output, htakes, heq⟩ | ⟨replacement, error, hpending, hinvalid, heq⟩
  · obtain ⟨phase, hmoves, hresumes⟩ := (s.worker.retarget upcoming).resume_moves site
    have hstages := { s.worker with upcoming }.restage_stages
    unfold Refines applyUpdate
    rw [heq]
    change s.control.Step .work
      (((s.worker.retarget upcoming).resume site).control updates) output
    rw [hmoves updates, s.worker.retarget_control upcoming updates]
    exact .retargeted site upcoming _ updates _ phase output hphase htakes hstages hresumes
  · obtain ⟨phase, hmoves, hfails⟩ := s.worker.failRefresh_moves error site
    unfold Refines applyUpdate
    rw [heq]
    change s.control.Step .work ((s.worker.failRefresh error site).control _) .silent
    rw [hmoves]
    exact .takeFailed .work phase replacement hpending hinvalid hfails

theorem receive_refines (hphase : s.worker.phase = .receive) (event : PlaylistEvent)
    (result : Received) : s.Refines event (s.receive result) := by
  cases result with
  | timeout =>
    exact .of_moves (.refresh .track) (fun _ => rfl) (.timedOut event hphase)
  | disconnected => exact .of_fails (.join (.error _)) (fun _ => rfl) trivial
  | chunk chunk =>
    unfold receive
    dsimp only
    split
    · next hboundary =>
      obtain ⟨phase, hmoves, hannounces⟩ := s.worker.chunkAnnounced_moves chunk
      exact .of_moves phase hmoves (.received event chunk phase hphase hboundary hannounces)
    · next announced hboundary => exact .announcing event chunk announced hphase hboundary

theorem sealTrack_refines {chunk : DecodedPcmChunk} (hphase : s.worker.phase = .seal chunk) :
    s.Refines .work (s.sealTrack chunk) := by
  unfold sealTrack sealFinalTrackIfUnmodified
  split_ifs with hpending
  · exact .keptOpen chunk hphase (Option.isSome_iff_ne_none.mp hpending)
  · obtain ⟨phase, hmoves, hafter⟩ := s.worker.pushChunk_moves chunk
    unfold Refines
    change s.control.Step .work ((s.worker.pushChunk chunk).control _) .silent
    rw [hmoves]
    exact .closed chunk phase hphase (Option.not_isSome_iff_eq_none.mp hpending) hafter

theorem sent_refines (hphase : s.worker.phase = .send frame [] recorded site)
    (event : PlaylistEvent) :
    s.Refines event ({ s with worker := (s.worker.countSent frame).sent site }, .sent frame) := by
  let w := s.worker.countSent frame
  have hcontrol : w.control s.updates = s.control := s.worker.countSent_control frame s.updates
  have hfinal : w.finalTrack = s.control.finalTrack :=
    congrArg PlaylistControl.finalTrack hcontrol
  unfold Refines
  cases site with
  | boundary chunk =>
    obtain ⟨phase, hannounced, hannounces⟩ := w.chunkAnnounced_moves chunk
    change s.control.Step event ((w.chunkAnnounced chunk).control s.updates) (.sent frame)
    rw [hannounced, hcontrol]
    exact .sentBoundary event frame recorded chunk phase hphase (hfinal ▸ hannounces)
  | chunk inputFinished endOfStream =>
    obtain ⟨phase, hsent, hafter⟩ := w.chunkSent_moves inputFinished endOfStream
    change s.control.Step event ((w.chunkSent _ _).control s.updates) (.sent frame)
    rw [hsent, hcontrol]
    exact .sentChunk event frame recorded inputFinished endOfStream phase hphase hafter
  | flush =>
    change s.control.Step event
      { w.control s.updates with phase := .exit (.ok w.playlistCompletedSummary) } (.sent frame)
    rw [hcontrol]
    exact .flushed event frame recorded _ hphase

theorem frameSent_refines {rest : List ProtocolFrame}
    (hphase : s.worker.phase = .send frame rest recorded site) (event : PlaylistEvent) :
    s.Refines event (s.frameSent frame rest site) := by
  cases rest with
  | nil => exact sent_refines hphase event
  | cons following others =>
    unfold Refines
    change s.control.Step event
      { (s.worker.countSent frame).control s.updates with
        phase := .send following others false site } (.sent frame)
    rw [countSent_control]
    exact .sentFrame event frame following others recorded site hphase

theorem send_refines {rest : List ProtocolFrame}
    (hphase : s.worker.phase = .send frame rest recorded site) (event : PlaylistEvent)
    (attempt : SendAttempt) : s.Refines event (s.send frame rest recorded site attempt) := by
  unfold send
  split_ifs
  · obtain ⟨phase, hmoves, hfails⟩ := s.worker.failSend_moves workerCancelled site
    exact .of_fails phase hmoves hfails
  · cases attempt with
    | unreserved =>
      refine .of_moves (.send frame rest true site) (fun updates => ?_)
        (.waited event frame rest recorded site hphase)
      rw [← s.worker.countBackpressure_control recorded updates]
      rfl
    | full => exact .ignored event
    | disconnected =>
      obtain ⟨phase, hmoves, hfails⟩ := s.worker.failSend_moves _ site
      exact .of_fails phase hmoves hfails
    | sent => exact frameSent_refines hphase event

theorem merge_error (error : PacketizerWorkerError) (decoderResult : Except DecodeError Unit) :
    ∃ merged, mergeDecoderShutdownResult (.error error) decoderResult = .error merged := by
  cases decoderResult with
  | ok => exact ⟨error, rfl⟩
  | error =>
    unfold mergeDecoderShutdownResult
    dsimp only
    split_ifs <;> exact ⟨_, rfl⟩

theorem joinTrack_refines {result : Except PacketizerWorkerError Unit}
    (hphase : s.worker.phase = .join result) (event : PlaylistEvent)
    (decoderResult : Except DecodeError Unit) :
    s.Refines event (s.joinTrack result decoderResult) := by
  unfold joinTrack
  split
  · next hmerged =>
    -- A failed track does not end well.
    obtain rfl : result = .ok () := by
      cases result with
      | ok => rfl
      | error error =>
        obtain ⟨merged, herror⟩ := merge_error error decoderResult
        cases herror.symm.trans hmerged
    cases hnext : s.worker.next with
    | none =>
      have hproceed : s.worker.endTrack =
          { s.worker with
            hadSuccessor := false
            phase := .exit (.ok s.worker.playlistCompletedSummary) } := by
        simp [endTrack, proceed, hnext, playlistCompletedSummary]
      rw [hproceed]
      exact .of_moves _ (fun _ => rfl) (.finished event _ hphase hnext)
    | some =>
      have hrefresh : s.worker.endTrack =
          { s.worker with hadSuccessor := true, phase := .refresh .promotion } := by
        simp [endTrack, hnext]
      rw [hrefresh]
      refine .of_moves _ (fun _ => rfl) (.joined event hphase fun hnone => ?_)
      cases hnext.symm.trans hnone
  · exact .of_fails (.exit (.error _)) (fun _ => rfl) trivial

theorem promote_refines {track : ReadyTrack} (hphase : s.worker.phase = .promote track) :
    s.Refines .work (s.promote track) := by
  unfold promote
  cases hpending : s.updates.pending with
  | some =>
    have hno : s.updates.promoteCurrentEntryIfUnmodified track.entryId s.reserved =
        (false, s.updates) := by simp [promoteCurrentEntryIfUnmodified, hpending]
    rw [hno]
    refine .unpromoted track hphase fun hnone => ?_
    cases hpending.symm.trans hnone
  | none =>
    have hyes : s.updates.promoteCurrentEntryIfUnmodified track.entryId s.reserved =
        (true, (s.updates.promoteCurrentEntryIfUnmodified track.entryId s.reserved).2) := by
      simp [promoteCurrentEntryIfUnmodified, hpending]
    rw [hyes]
    cases hreserved : s.reserved with
    | true => exact .reserving track (s.worker.committedBoundary track) hphase hpending rfl
    | false => exact .promoted track (s.worker.committedBoundary track) hphase hpending rfl

theorem abandon_refines (error : PacketizerWorkerError) (event : PlaylistEvent)
    (decoderResult : Except DecodeError Unit) :
    s.Refines event (s.abandon error decoderResult) := by
  obtain ⟨merged, herror⟩ := merge_error error decoderResult
  unfold abandon
  rw [herror]
  exact .of_fails (.exit (.error merged)) (fun _ => rfl) trivial

theorem replaceUpcoming_refines (upcoming : List StreamingPlaylistTrackFactory) :
    s.Refines (.replaceUpcoming upcoming)
      ({ s with updates := (s.updates.replaceUpcoming upcoming).2 },
        .answered (s.updates.replaceUpcoming upcoming).1) := by
  unfold replaceUpcoming
  split_ifs with hterminal
  · exact .refused upcoming _
  · split
    · exact .refused upcoming _
    · next hvalid => exact .accepted upcoming (eq_false_of_ne_true hterminal) hvalid

/-- **Every step of the playlist is a step of its control.** -/
theorem step_refines (s : PlaylistSession) (event : PlaylistEvent) :
    s.Refines event (s.step event) := by
  unfold step
  split
  · exact replaceUpcoming_refines _
  · exact .ignored _
  · next hphase => exact beginTrack_refines hphase
  · next hphase => exact refresh_refines hphase
  · next hphase => exact applyUpdate_refines hphase
  · next hphase => exact sealTrack_refines hphase
  · next hphase => exact promote_refines hphase
  · next result hphase => exact .left result hphase
  · next hphase => exact receive_refines hphase _ _
  · next hphase => exact send_refines hphase _ _
  · next hphase => exact joinTrack_refines hphase _ _
  · next error hphase => exact abandon_refines error _ _
  · next result boundary hphase =>
    cases result with
    | ok => exact .reserved _ boundary hphase
    | error error => exact .of_fails (.abandon error) (fun _ => rfl) trivial
  · exact .ignored _

end PlaylistSession

/-- **The playlist refines its control.** Every run of the worker, with edits in any order, is a
trace of control steps with the same outputs. -/
theorem playlist_refines_control (s : PlaylistSession) (events : List PlaylistEvent) :
    Machine.Traces PlaylistControl.Step s.control events (playlist.outputs s events)
      (playlist.after s events).control :=
  Machine.traces_of_step (M := playlist) PlaylistSession.step_refines s events

end SilentDisco
