import SilentDisco.Audio.PlaylistControl

/-!
# Invariants of the playlist worker

What holds at each control point of the worker in every interleaving with edits: a track
without a successor is its final one, the edits are closed once the last chunk of the final track
is on its way, and the track to be promoted is the prepared successor.

## Main definitions

* `PlaylistControl.SoundAt`: what holds at a control point
* `PlaylistControl.Sound`: that, and a closed state has no pending edit

## Main results

* `PlaylistControl.Step.sound`: every step keeps the invariant
* `PlaylistSession.sound_of_reachable`: it holds in every reachable state
-/

namespace SilentDisco

open Protocol

namespace PlaylistControl

/-- A track without a successor is the final one. -/
def HasFinal (c : PlaylistControl) : Prop := c.next = none → c.finalTrack = true

/-- What holds at a control point. -/
def SoundAt (c : PlaylistControl) : WorkerPhase → Prop
  | .start | .reserve _ => c.next = none
  | .refresh .track | .receive => c.HasFinal
  | .refresh (.sealing _) | .seal _ => c.HasFinal ∧ c.boundary = none
  | .apply .track => c.HasFinal ∧ c.updates.pending ≠ none
  | .apply (.sealing _) => (c.HasFinal ∧ c.boundary = none) ∧ c.updates.pending ≠ none
  | .apply .promotion => c.updates.pending ≠ none
  | .send _ rest _ (.boundary _) => (c.HasFinal ∧ c.boundary = none) ∧ rest = []
  | .send frame rest _ (.chunk inputFinished _) =>
    (c.HasFinal ∧ c.boundary = none) ∧
      (inputFinished = true → c.next = none → c.updates.terminal = true) ∧
      ∀ sent ∈ frame :: rest, sent.isAudio = true
  | .send frame rest _ .flush => ∀ sent ∈ frame :: rest, sent.isAudio = true
  | .join (.ok ()) => c.next = none → c.updates.terminal = true
  | .promote track => c.next = some ⟨track.entryId, track.displayName, .ok track.decoder⟩
  | .exited _ => c.updates.terminal = true
  | _ => True

structure Sound (c : PlaylistControl) : Prop where
  /-- A closed state has no pending edit. -/
  closed : c.updates.terminal = true → c.updates.pending = none
  point : c.SoundAt c.phase

variable {c : PlaylistControl} {phase : WorkerPhase}

theorem soundAt_of_fails (h : phase.Fails) : c.SoundAt phase := by
  unfold WorkerPhase.Fails at h
  split at h
  · trivial
  · trivial
  · trivial
  · exact False.elim h

theorem AfterChunk.soundAt {inputFinished : Bool} (h : AfterChunk inputFinished phase)
    (hfinal : c.HasFinal) (hboundary : c.boundary = none)
    (hclosed : inputFinished = true → c.next = none → c.updates.terminal = true) :
    c.SoundAt phase := by
  cases h with
  | failed => trivial
  | sending _ _ _ haudio => exact ⟨⟨hfinal, hboundary⟩, hclosed, haudio⟩
  | ended hfinished => exact hclosed hfinished
  | polling => exact hfinal

theorem AfterTrack.soundAt (h : AfterTrack c.next phase) : c.SoundAt phase := by
  cases h with
  | failed => trivial
  | finished => trivial
  | flushing _ _ _ haudio => exact haudio
  | promoting track hnext => exact hnext

theorem Announces.soundAt {chunk : DecodedPcmChunk} (h : Announces c.finalTrack chunk phase)
    (hfinal : c.HasFinal) (hboundary : c.boundary = none) : c.SoundAt phase := by
  cases h with
  | closing => exact ⟨hfinal, hboundary⟩
  | pushed _ hopen hafter =>
    refine hafter.soundAt hfinal hboundary fun hfinished hnext => ?_
    -- The last chunk was pushed unclosed because the track is not the final one.
    exact absurd (hfinal hnext) (Bool.eq_false_iff.mp (hopen hfinished))

theorem Resumes.soundAt {site : RefreshSite} (h : Resumes c.next c.finalTrack site phase)
    (hfinal : site ≠ .promotion → c.HasFinal)
    (hboundary : ∀ chunk, site = .sealing chunk → c.boundary = none) : c.SoundAt phase := by
  cases h with
  | track => exact hfinal (by simp)
  | closing chunk => exact ⟨hfinal (by simp), hboundary chunk rfl⟩
  | pushed chunk _ hopen hafter =>
    have hsome : c.HasFinal := hfinal (by simp)
    refine hafter.soundAt hsome (hboundary chunk rfl) fun _ hnext => ?_
    exact absurd (hsome hnext) (Bool.eq_false_iff.mp hopen)
  | promotion _ hafter => exact hafter.soundAt

/-- A worker with a pending edit is sound where it was without it. -/
theorem SoundAt.accepted {edit : List StreamingPlaylistTrackFactory} (h : c.SoundAt phase) :
    SoundAt { c with updates.pending := some edit } phase := by
  unfold SoundAt at h ⊢
  split at h
  all_goals first
    | exact h
    | exact ⟨h.1, Option.some_ne_none edit⟩
    | exact Option.some_ne_none edit

theorem Takes.closed {updates updates' : PlaylistUpdateState}
    {upcoming upcoming' : List StreamingPlaylistTrackFactory} {output : PlaylistOutput}
    (h : Takes updates upcoming upcoming' updates' output) : updates'.pending = none := by
  cases h with
  | nothing hpending => exact hpending
  | edit => rfl

variable {c' : PlaylistControl} {event : PlaylistEvent} {output : PlaylistOutput}

/-- Every step keeps the invariant. -/
theorem Step.sound (h : c.Step event c' output) (hc : c.Sound) : c'.Sound := by
  have hpoint := hc.point
  cases h with
  | ignored | refused => exact hc
  | accepted upcoming hopen =>
    exact ⟨fun hterminal => absurd hterminal (Bool.eq_false_iff.mp hopen), hpoint.accepted⟩
  | failed _ _ hfails => exact ⟨hc.closed, soundAt_of_fails hfails⟩
  | takeFailed _ _ _ _ _ hfails => exact ⟨fun _ => rfl, soundAt_of_fails hfails⟩
  | began _ _ _ _ _ _ _ htakes _ hfinal => exact ⟨fun _ => htakes.closed, hfinal⟩
  | noticed site hphase hpending =>
    rw [hphase] at hpoint
    refine ⟨hc.closed, ?_⟩
    cases site with
    | track | sealing => exact ⟨hpoint, hpending⟩
    | promotion => exact hpending
  | unchanged site phase hphase hpending hresumes =>
    rw [hphase] at hpoint
    refine ⟨hc.closed, Resumes.soundAt (c := { c with phase }) hresumes (fun hsite => ?_) ?_⟩
    · cases site with
      | track => exact hpoint
      | sealing => exact hpoint.1
      | promotion => exact absurd rfl hsite
    · rintro chunk rfl
      exact hpoint.2
  | retargeted _ upcoming rest updates next phase _ hphase htakes _ hresumes =>
    rw [hphase] at hpoint
    refine ⟨fun _ => htakes.closed, hresumes.soundAt
      (c := { c with updates, next, upcoming := rest, finalTrack := next.isNone, phase })
      (fun _ hnone => ?_) ?_⟩
    · exact Option.isNone_iff_eq_none.mpr hnone
    · rintro chunk rfl
      exact hpoint.1.2
  | timedOut _ hphase | keptOpen _ hphase | reserved _ _ hphase =>
    rw [hphase] at hpoint
    exact ⟨hc.closed, hpoint⟩
  | received _ _ phase hphase hboundary hannounces =>
    rw [hphase] at hpoint
    exact ⟨hc.closed, Announces.soundAt (c := { c with phase }) hannounces hpoint hboundary⟩
  | announcing _ _ _ hphase =>
    rw [hphase] at hpoint
    exact ⟨hc.closed, ⟨hpoint, rfl⟩, rfl⟩
  | closed _ _ hphase hpending hafter =>
    rw [hphase] at hpoint
    exact ⟨fun _ => hpending, hafter.soundAt hpoint.1 hpoint.2 fun _ _ => rfl⟩
  | waited _ _ _ _ site hphase =>
    rw [hphase] at hpoint
    refine ⟨hc.closed, ?_⟩
    cases site <;> exact hpoint
  | sentFrame _ _ _ _ _ site hphase =>
    rw [hphase] at hpoint
    refine ⟨hc.closed, ?_⟩
    cases site with
    | boundary => exact absurd hpoint.2 (List.cons_ne_nil _ _)
    | chunk =>
      exact ⟨hpoint.1, hpoint.2.1, fun sent hmem => hpoint.2.2 sent (List.mem_cons_of_mem _ hmem)⟩
    | flush => exact fun sent hmem => hpoint sent (List.mem_cons_of_mem _ hmem)
  | sentBoundary _ _ _ _ phase hphase hannounces =>
    rw [hphase] at hpoint
    exact ⟨hc.closed, Announces.soundAt (c := { c with phase }) hannounces hpoint.1.1 hpoint.1.2⟩
  | sentChunk _ _ _ _ _ _ hphase hafter =>
    rw [hphase] at hpoint
    exact ⟨hc.closed, hafter.soundAt hpoint.1.1 hpoint.1.2 hpoint.2.1⟩
  | flushed | finished | joined | unpromoted => exact ⟨hc.closed, trivial⟩
  | reserving _ _ _ hpending | promoted _ _ _ hpending =>
    refine ⟨fun _ => ?_, rfl⟩
    unfold PlaylistUpdateState.promoteCurrentEntryIfUnmodified
    simp [hpending]
  | left => exact ⟨fun _ => rfl, rfl⟩

end PlaylistControl

namespace PlaylistSession

variable {s : PlaylistSession}

/-- The control of a fresh session. -/
theorem control_of_init (h : playlist.init s) :
    s.updates.pending = none ∧ s.worker.next = none ∧ s.worker.phase = .start := by
  obtain ⟨decoder, currentEntryId, currentDisplayName, upcoming, sessionId, streamId,
    hostStartTimeMs, config, reserved, streamStart, hspawn⟩ := h
  unfold spawnPlaylist at hspawn
  simp only [Result.bind_eq_ok] at hspawn
  obtain ⟨_, -, _, -, _, -, packetizer, -, hpure⟩ := hspawn
  cases hpure
  exact ⟨rfl, rfl, rfl⟩

theorem sound_of_init (h : playlist.init s) : s.control.Sound := by
  obtain ⟨hpending, hnext, hphase⟩ := control_of_init h
  refine ⟨fun _ => hpending, ?_⟩
  change s.control.SoundAt s.worker.phase
  rw [hphase]
  exact hnext

/-- The invariant holds in every reachable state. -/
theorem sound_of_reachable (h : playlist.Reachable s) : s.control.Sound :=
  h.invariant (fun _ => sound_of_init) fun s event hs => (s.step_refines event).sound hs

end PlaylistSession

end SilentDisco
