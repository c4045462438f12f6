import SilentDisco.Audio.Properties.Edits

/-!
# Promotions of the playlist worker

The entries that were played, the current one and those to come form one timeline. A promotion
moves the current entry along it; an edit replaces what comes after the current entry, and is
checked against what comes before. So the timeline never repeats an entry, an accepted edit stays
valid until it is taken, and a boundary announces each entry at most once.

## Main definitions

* `PlaylistControl.timeline`: the entries that were played, the current one, those to come
* `PlaylistControl.inForce`: the upcoming list with the pending edit

## Main results

* `promotions_are_fresh`: promotions and boundaries of a run
-/

namespace SilentDisco

open Protocol StreamingPlaylistTrackFactory PlaylistControl

namespace PlaylistUpdateState

/-- The entries up to the current one, in the order in which they were played. -/
def played (state : PlaylistUpdateState) : List String :=
  state.retiredEntryIds.reverse ++ [state.currentEntryId]

variable {state : PlaylistUpdateState} {upcoming : List StreamingPlaylistTrackFactory}

/-- A valid edit continues what was played without a repetition. -/
theorem nodup_of_validate (hplayed : state.played.Nodup)
    (h : state.validatePlaylistUpdate upcoming = .ok ()) :
    (state.played ++ upcoming.map (·.entryId)).Nodup := by
  unfold validatePlaylistUpdate validatePlaylistEntries at h
  simp only [Result.bind_eq_ok, Result.check_eq_ok, Result.rejectIf_eq_ok] at h
  obtain ⟨_, ⟨_, -, hcurrent⟩, hretired⟩ := h
  obtain ⟨hnotCurrent, hupcoming⟩ := List.nodup_cons.mp hcurrent
  refine hplayed.append hupcoming fun entryId hmem hnew => ?_
  rcases List.mem_append.mp hmem with hold | hsame
  · obtain ⟨track, htrack, rfl⟩ := List.mem_map.mp hnew
    exact hretired ⟨track, htrack, List.mem_reverse.mp hold⟩
  · obtain rfl := List.mem_singleton.mp hsame
    exact hnotCurrent hnew

/-- Making another entry current extends what was played. -/
theorem played_promote {entryId : String} {reserved : Bool} (hpending : state.pending = none)
    (hfresh : (state.played ++ [entryId]).Nodup) :
    (state.promoteCurrentEntryIfUnmodified entryId reserved).2.played =
      state.played ++ [entryId] := by
  have hparts := List.nodup_append.mp hfresh
  have hcurrent : state.currentEntryId ≠ entryId :=
    hparts.2.2 _ (List.mem_append_right _ (List.mem_singleton_self _)) _
      (List.mem_singleton_self _)
  have hretired : state.currentEntryId ∉ state.retiredEntryIds := fun hmem =>
    (List.nodup_append.mp hparts.1).2.2 _ (List.mem_reverse.mpr hmem) _
      (List.mem_singleton_self _) rfl
  simp [promoteCurrentEntryIfUnmodified, hpending, played, hcurrent,
    List.insert_of_not_mem hretired]

end PlaylistUpdateState

namespace PlaylistControl

variable {c c' : PlaylistControl} {phase : WorkerPhase} {event : PlaylistEvent}
  {output : PlaylistOutput}

/-- The identities of the tracks to come. -/
def remaining (c : PlaylistControl) : List (String × String) :=
  (c.next.map StagedPlaylistTrack.identity).toList ++
    c.upcoming.map identity

def timeline (c : PlaylistControl) : List String := c.updates.played ++ c.remaining.map Prod.fst

/-- The timeline repeats no entry, and a pending edit is valid. -/
structure Fresh (c : PlaylistControl) : Prop where
  nodup : c.timeline.Nodup
  pending : ∀ edit, c.updates.pending = some edit →
    c.updates.validatePlaylistUpdate edit = .ok ()

theorem Fresh.played (h : c.Fresh) : c.updates.played.Nodup :=
  (List.nodup_append.mp h.nodup).1

theorem map_fst_identity (tracks : List StreamingPlaylistTrackFactory) :
    (tracks.map identity).map Prod.fst = tracks.map (·.entryId) := by
  rw [List.map_map]
  rfl

theorem remaining_of_next_none (h : c.next = none) : c.remaining = c.upcoming.map identity := by
  unfold remaining
  rw [h]
  rfl

theorem Takes.played {updates updates' : PlaylistUpdateState}
    {upcoming upcoming' : List StreamingPlaylistTrackFactory}
    (h : Takes updates upcoming upcoming' updates' output) : updates'.played = updates.played := by
  cases h <;> rfl

/-- Taking an edit keeps the timeline fresh. -/
theorem Fresh.taken {upcoming : List StreamingPlaylistTrackFactory} {updates : PlaylistUpdateState}
    (hc : c.Fresh) (htakes : Takes c.updates c.upcoming upcoming updates output)
    (hidle : c.updates.pending = none → c.next = none)
    (hstages : Stages upcoming c'.next c'.upcoming)
    (hupdates : c'.updates = updates) : c'.Fresh := by
  have hremaining : c'.remaining = upcoming.map identity := hstages
  subst hupdates
  constructor
  · unfold timeline
    rw [hremaining, htakes.played]
    rcases c' with ⟨updates, next, rest, finalTrack, boundary, phase⟩
    cases htakes with
    | nothing hpending =>
      rw [← remaining_of_next_none (hidle hpending)]
      exact hc.nodup
    | edit _ _ hvalid =>
      rw [map_fst_identity]
      exact PlaylistUpdateState.nodup_of_validate hc.played hvalid
  · intro edit hsome
    cases htakes.closed.symm.trans hsome

/-- The first entry to come, once a successor is about to be promoted. -/
theorem remaining_of_promote {track : ReadyTrack} (hc : c.Sound)
    (hphase : c.phase = .promote track) :
    c.remaining = (track.entryId, track.displayName) :: c.upcoming.map identity := by
  have hpoint := hc.point
  rw [hphase] at hpoint
  unfold remaining
  rw [show c.next = _ from hpoint]
  rfl

/-- A promotion extends what was played by the first entry to come. -/
theorem Fresh.played_promote {track : ReadyTrack} {reserved : Bool} (hc : c.Fresh) (hs : c.Sound)
    (hphase : c.phase = .promote track) (hpending : c.updates.pending = none) :
    (c.updates.promoteCurrentEntryIfUnmodified track.entryId reserved).2.played =
      c.updates.played ++ [track.entryId] := by
  refine PlaylistUpdateState.played_promote hpending ?_
  have htimeline := hc.nodup
  unfold timeline at htimeline
  rw [remaining_of_promote hs hphase, List.map_cons, List.append_cons] at htimeline
  exact (List.nodup_append.mp htimeline).1

/-- A promotion does not change the timeline. -/
theorem Fresh.promoted {track : ReadyTrack} {reserved : Bool} (hc : c.Fresh) (hs : c.Sound)
    (hphase : c.phase = .promote track) (hpending : c.updates.pending = none)
    (hupdates : c'.updates = (c.updates.promoteCurrentEntryIfUnmodified track.entryId reserved).2)
    (hnext : c'.next = none) (hupcoming : c'.upcoming = c.upcoming) : c'.Fresh := by
  constructor
  · have htimeline : c'.timeline = c.timeline := by
      unfold timeline
      rw [hupdates, hc.played_promote hs hphase hpending, remaining_of_next_none hnext, hupcoming,
        remaining_of_promote hs hphase, List.map_cons, List.append_cons _ _ (List.map _ _)]
    rw [htimeline]
    exact hc.nodup
  · intro edit hsome
    rw [hupdates, PlaylistUpdateState.promoteCurrentEntryIfUnmodified, hpending] at hsome
    cases hsome

/-- Steps that leave the edits and the tracks to come alone keep the timeline fresh. -/
theorem Fresh.of_same (hc : c.Fresh) (hupdates : c'.updates = c.updates)
    (hnext : c'.next = c.next) (hupcoming : c'.upcoming = c.upcoming) : c'.Fresh := by
  have hremaining : c'.remaining = c.remaining := by
    unfold remaining
    rw [hnext, hupcoming]
  constructor
  · unfold timeline
    rw [hupdates, hremaining]
    exact hc.nodup
  · rw [hupdates]
    exact hc.pending

/-- The timeline never repeats an entry, and a pending edit stays valid. -/
theorem Step.fresh (h : c.Step event c' output) (hs : c.Sound) (hc : c.Fresh) : c'.Fresh := by
  have hpoint := hs.point
  cases h with
  | accepted _ _ hvalid =>
    refine ⟨hc.nodup, fun edit hsome => ?_⟩
    obtain rfl := Option.some.inj hsome
    exact hvalid
  | takeFailed _ _ replacement hpending hinvalid =>
    exact absurd (hc.pending replacement hpending) hinvalid
  | began _ _ _ _ _ _ hphase htakes hstages =>
    rw [hphase] at hpoint
    exact hc.taken htakes (fun _ => hpoint) hstages rfl
  | retargeted site _ _ _ _ _ _ hphase htakes hstages =>
    -- An edit was seen, and only this worker takes it.
    rw [hphase] at hpoint
    refine hc.taken htakes (fun hnone => ?_) hstages rfl
    cases site with
    | track | sealing => exact absurd hnone hpoint.2
    | promotion => exact absurd hnone hpoint
  | closed => exact ⟨hc.nodup, hc.pending⟩
  | reserving _ _ hphase hpending | promoted _ _ hphase hpending =>
    exact hc.promoted hs hphase hpending rfl rfl rfl
  | left =>
    refine ⟨hc.nodup, fun edit hsome => ?_⟩
    cases hsome
  | _ => exact hc.of_same rfl rfl rfl

end PlaylistControl

/-! ## Promotions and boundaries -/

/-- The entry that a step promotes. -/
def PlaylistOutput.promotedId : PlaylistOutput → List String
  | .promoted entryId => [entryId]
  | _ => []

/-- The entry that a frame announces. -/
def boundaryId : ProtocolFrame → List String
  | .control (.trackBoundary boundary) => [boundary.entryId]
  | _ => []

/-- The entry that a step announces. -/
def PlaylistOutput.boundaryId : PlaylistOutput → List String
  | .sent frame => SilentDisco.boundaryId frame
  | _ => []

variable (outputs : List PlaylistOutput)

/-- The entries that are promoted, in order. -/
def promotedIds : List String :=
  outputs.flatMap PlaylistOutput.promotedId

/-- The entries of the boundaries that are sent, in order. -/
def boundaryIds : List String :=
  outputs.flatMap PlaylistOutput.boundaryId

@[simp] theorem promotedIds_concat (output : PlaylistOutput) :
    promotedIds (outputs ++ [output]) = promotedIds outputs ++ output.promotedId := by
  simp [promotedIds]

@[simp] theorem boundaryIds_concat (output : PlaylistOutput) :
    boundaryIds (outputs ++ [output]) = boundaryIds outputs ++ output.boundaryId := by
  simp [boundaryIds]

theorem boundaryId_of_isAudio {frame : ProtocolFrame} (h : frame.isAudio = true) :
    boundaryId frame = [] := by
  cases frame with
  | audio => rfl
  | _ => cases h

/-- The boundary that the worker is about to announce, by its control point. -/
def WorkerPhase.boundaryId : WorkerPhase → List String
  | .send frame _ _ (.boundary _) => SilentDisco.boundaryId frame
  | .reserve boundary => [boundary.entryId]
  | _ => []

namespace PlaylistControl

variable {c c' : PlaylistControl} {phase : WorkerPhase} {event : PlaylistEvent}
  {output : PlaylistOutput}

/-- What was played grows by the promoted entry. -/
theorem Step.played (h : c.Step event c' output) (hs : c.Sound) (hc : c.Fresh) :
    c'.updates.played = c.updates.played ++ output.promotedId := by
  cases h with
  | began _ _ updates _ _ _ _ htakes | retargeted _ _ _ updates _ _ _ _ htakes =>
    change updates.played = _
    rw [htakes.played]
    cases htakes <;> exact (List.append_nil _).symm
  | reserving _ _ hphase hpending | promoted _ _ hphase hpending =>
    exact hc.played_promote hs hphase hpending
  | _ => exact (List.append_nil _).symm

/-- The entries whose boundaries are yet to be announced. -/
def unannounced (c : PlaylistControl) : List String :=
  c.boundary.toList.map TrackBoundary.entryId ++ c.phase.boundaryId

theorem boundaryId_of_fails (h : phase.Fails) : phase.boundaryId = [] := by
  unfold WorkerPhase.Fails at h
  split at h
  · rfl
  · rfl
  · rfl
  · exact False.elim h

theorem AfterChunk.boundaryId {inputFinished : Bool} (h : AfterChunk inputFinished phase) :
    phase.boundaryId = [] := by
  cases h <;> rfl

theorem AfterTrack.boundaryId {next : Option StagedPlaylistTrack} (h : AfterTrack next phase) :
    phase.boundaryId = [] := by
  cases h <;> rfl

theorem Announces.boundaryId {finalTrack : Bool} {chunk : DecodedPcmChunk}
    (h : Announces finalTrack chunk phase) : phase.boundaryId = [] := by
  cases h with
  | closing => rfl
  | pushed _ hopen hafter => exact hafter.boundaryId

theorem Resumes.boundaryId {next : Option StagedPlaylistTrack} {finalTrack : Bool}
    {site : RefreshSite} (h : Resumes next finalTrack site phase) : phase.boundaryId = [] := by
  cases h with
  | track | closing => rfl
  | pushed _ _ _ hafter | promotion _ hafter => exact hafter.boundaryId

/-- A control point that is not about to announce a boundary. -/
theorem unannounced_of_boundaryId (h : c.phase.boundaryId = []) :
    c.unannounced = c.boundary.toList.map TrackBoundary.entryId := by
  unfold unannounced
  rw [h, List.append_nil]

/-- A step that announces nothing and leaves the next boundary alone. -/
theorem announces_of_quiet (hquiet : output.boundaryId = []) (hboundary : c'.boundary = c.boundary)
    (hphase : c'.phase.boundaryId = []) :
    (output.boundaryId ++ c'.unannounced).Sublist (c.unannounced ++ output.promotedId) := by
  rw [hquiet, List.nil_append, unannounced_of_boundaryId hphase, hboundary]
  unfold unannounced
  rw [List.append_assoc]
  exact List.sublist_append_left _ _

/-- What a step announces, and what then is yet to be announced, was yet to be announced
before, or is promoted by the step. -/
theorem Step.announces (h : c.Step event c' output) (hs : c.Sound) :
    (output.boundaryId ++ c'.unannounced).Sublist (c.unannounced ++ output.promotedId) := by
  have hpoint := hs.point
  cases h with
  | ignored | refused | accepted => exact List.sublist_append_left _ _
  | failed _ _ hfails | takeFailed _ _ _ _ _ hfails =>
    exact announces_of_quiet rfl rfl (boundaryId_of_fails hfails)
  | began _ _ _ _ _ _ _ htakes =>
    cases htakes <;> exact announces_of_quiet rfl rfl rfl
  | unchanged _ _ _ _ hresumes =>
    exact announces_of_quiet rfl rfl hresumes.boundaryId
  | retargeted _ _ _ _ _ _ _ _ htakes _ hresumes =>
    cases htakes <;> exact announces_of_quiet rfl rfl hresumes.boundaryId
  | received _ _ _ _ _ hannounces =>
    exact announces_of_quiet rfl rfl hannounces.boundaryId
  | announcing _ _ _ hphase hboundary =>
    unfold unannounced
    rw [hboundary, hphase]
    exact .refl _
  | closed _ _ _ _ hafter =>
    exact announces_of_quiet rfl rfl hafter.boundaryId
  | waited _ _ _ _ site hphase =>
    unfold unannounced
    rw [hphase]
    cases site <;> exact List.sublist_append_left _ _
  | sentFrame _ frame _ _ _ site hphase =>
    rw [hphase] at hpoint
    have haudio : frame.isAudio = true ∧ ∀ chunk, site ≠ .boundary chunk := by
      cases site with
      | boundary => exact absurd hpoint.2 (List.cons_ne_nil _ _)
      | chunk => exact ⟨hpoint.2.2 _ List.mem_cons_self, nofun⟩
      | flush => exact ⟨hpoint _ List.mem_cons_self, nofun⟩
    refine announces_of_quiet (boundaryId_of_isAudio haudio.1) rfl ?_
    cases site with
    | boundary chunk => exact absurd rfl (haudio.2 chunk)
    | chunk | flush => rfl
  | sentBoundary _ _ _ _ phase hphase hannounces =>
    rw [hphase] at hpoint
    rw [unannounced_of_boundaryId (c := { c with phase }) hannounces.boundaryId]
    unfold unannounced
    rw [hphase, hpoint.1.2]
    simp [PlaylistOutput.boundaryId, WorkerPhase.boundaryId, PlaylistOutput.promotedId]
  | sentChunk _ _ _ _ _ _ hphase hafter =>
    rw [hphase] at hpoint
    have haudio := hpoint.2.2 _ List.mem_cons_self
    exact announces_of_quiet (boundaryId_of_isAudio haudio) rfl hafter.boundaryId
  | flushed _ _ _ _ hphase =>
    rw [hphase] at hpoint
    exact announces_of_quiet (boundaryId_of_isAudio (hpoint _ List.mem_cons_self)) rfl rfl
  | reserving _ _ hphase _ hboundary | promoted _ _ hphase _ hboundary =>
    unfold unannounced
    rw [hphase]
    simp [PlaylistOutput.boundaryId, WorkerPhase.boundaryId, PlaylistOutput.promotedId, hboundary]
  | reserved _ _ hphase =>
    unfold unannounced
    rw [hphase]
    simp [PlaylistOutput.boundaryId, WorkerPhase.boundaryId, PlaylistOutput.promotedId]
  | _ => exact announces_of_quiet rfl rfl rfl

end PlaylistControl

/-! ## The list in force -/

/-- The worker has returned, or will return an error. -/
def WorkerPhase.Ended : WorkerPhase → Prop
  | .exited _ => True
  | phase => phase.Fails

/-- The upcoming list in force after a step: an accepted edit replaces it, and a promotion takes
its first entry. -/
def nextInForce (inForce : List (String × String)) (updates : PlaylistUpdateState)
    (event : PlaylistEvent) (output : PlaylistOutput) : List (String × String) :=
  match output with
  | .promoted _ => inForce.tail
  | .answered (.ok ()) =>
    match event with
    | .replaceUpcoming upcoming =>
      (updates.withoutShadow upcoming).map identity
    | _ => inForce
  | _ => inForce

namespace PlaylistControl

variable {c c' : PlaylistControl} {phase : WorkerPhase} {event : PlaylistEvent}
  {output : PlaylistOutput} {list : List (String × String)}

/-- The tracks to come, once the pending edit is taken. -/
def inForce (c : PlaylistControl) : List (String × String) :=
  match c.updates.pending with
  | some edit => edit.map identity
  | none => c.remaining

theorem inForce_of_pending_none (h : c.updates.pending = none) : c.inForce = c.remaining := by
  unfold inForce
  rw [h]

theorem ended_of_fails (h : phase.Fails) : phase.Ended := by
  unfold WorkerPhase.Ended
  split
  · trivial
  · exact h

/-- A list that is in force until the worker has ended. -/
def Follows (list : List (String × String)) (c : PlaylistControl) : Prop :=
  c.phase.Ended ∨ list = c.inForce

theorem Follows.eq (h : c.Follows list) (hphase : c.phase = phase) (hopen : ¬phase.Ended) :
    list = c.inForce :=
  h.resolve_left (hphase ▸ hopen)

/-- Taking the pending edit does not change the list in force. -/
theorem Takes.inForce {upcoming : List StreamingPlaylistTrackFactory}
    {updates : PlaylistUpdateState} (h : Takes c.updates c.upcoming upcoming updates output)
    (list : List (String × String)) (hidle : c.updates.pending = none → c.next = none) :
    c.inForce = upcoming.map identity ∧
      ∀ updates' event, nextInForce list updates' event output = list := by
  cases h with
  | nothing hpending =>
    rw [inForce_of_pending_none hpending, remaining_of_next_none (hidle hpending)]
    exact ⟨rfl, fun _ _ => rfl⟩
  | edit replacement hpending =>
    unfold inForce
    rw [hpending]
    exact ⟨rfl, fun _ _ => rfl⟩

/-- After an edit was taken, the staged tracks are in force. -/
theorem inForce_of_stages {upcoming : List StreamingPlaylistTrackFactory}
    (hpending : c.updates.pending = none) (h : Stages upcoming c.next c.upcoming) :
    c.inForce = upcoming.map identity := by
  rw [inForce_of_pending_none hpending]
  exact h

/-- A promotion takes the first entry of the list in force. -/
theorem inForce_of_promote {track : ReadyTrack} (hs : c.Sound) (hphase : c.phase = .promote track)
    (hpending : c.updates.pending = none) :
    c.inForce = (track.entryId, track.displayName) :: c.upcoming.map identity := by
  rw [inForce_of_pending_none hpending]
  exact remaining_of_promote hs hphase

theorem inForce_of_promoted {entryId : String} {reserved : Bool}
    (hpending : c.updates.pending = none)
    (hupdates : c'.updates = (c.updates.promoteCurrentEntryIfUnmodified entryId reserved).2)
    (hnext : c'.next = none) : c'.inForce = c'.upcoming.map identity := by
  refine (inForce_of_pending_none ?_).trans (remaining_of_next_none hnext)
  rw [hupdates, PlaylistUpdateState.promoteCurrentEntryIfUnmodified, hpending]
  rfl

/-- Every step follows the list in force. -/
theorem Step.follows (h : c.Step event c' output) (hs : c.Sound)
    (hlist : c.Follows list) : c'.Follows (nextInForce list c.updates event output) := by
  have hpoint := hs.point
  cases h with
  | ignored | refused => exact hlist
  | accepted => exact .inr rfl
  | failed _ _ hfails | takeFailed _ _ _ _ _ hfails => exact .inl (ended_of_fails hfails)
  | began _ _ _ _ _ _ hphase htakes hstages =>
    rw [hphase] at hpoint
    obtain ⟨hbefore, hsame⟩ := htakes.inForce list fun _ => hpoint
    right
    rw [hsame, hlist.eq hphase id, hbefore]
    exact (inForce_of_stages htakes.closed hstages).symm
  | retargeted site _ _ updates _ _ _ hphase htakes hstages =>
    rw [hphase] at hpoint
    have hseen : c.updates.pending ≠ none := by
      cases site with
      | track | sealing => exact hpoint.2
      | promotion => exact hpoint
    obtain ⟨hbefore, hsame⟩ := htakes.inForce list fun hnone => absurd hnone hseen
    right
    rw [hsame, hlist.eq hphase id, hbefore]
    exact (inForce_of_stages htakes.closed hstages).symm
  | reserving _ _ hphase hpending | promoted _ _ hphase hpending =>
    right
    rw [hlist.eq hphase id, inForce_of_promote hs hphase hpending]
    symm
    exact inForce_of_promoted hpending rfl rfl
  | left => exact .inl trivial
  | _ => exact .inr (hlist.eq ‹_› id)

/-- A promoted entry is the first one of the list in force. -/
theorem Step.promotes_head {entryId : String} (h : c.Step event c' (.promoted entryId))
    (hs : c.Sound) (hlist : c.Follows list) : list.head?.map Prod.fst = some entryId := by
  cases h with
  | began _ _ _ _ _ _ _ htakes | retargeted _ _ _ _ _ _ _ _ htakes => cases htakes
  | reserving _ _ hphase hpending | promoted _ _ hphase hpending =>
    rw [hlist.eq hphase id, inForce_of_promote hs hphase hpending]
    rfl

end PlaylistControl

/-! ## Runs -/

/-- The playlist with the list in force, which starts as the list that it was spawned with. -/
def inForcePlaylist :
    Machine (List (String × String) × PlaylistSession) PlaylistEvent PlaylistOutput :=
  playlist.instrument
    (fun inForce s event _ => nextInForce inForce s.updates event (playlist.out s event)) []

/-- The entry that the worker promotes is the first one of the list in force. -/
def PromotesHead (p : List (String × String) × PlaylistSession) (event : PlaylistEvent) : Prop :=
  ∀ entryId, playlist.out p.2 event = .promoted entryId →
    p.1.head?.map Prod.fst = some entryId

/-- The invariant of a run of the worker, with what it has promoted and announced. -/
structure PlaylistSession.Promotes (first : String) (s : PlaylistSession)
    (outputs : List PlaylistOutput) : Prop where
  sound : s.control.Sound
  fresh : s.control.Fresh
  played : s.updates.played = first :: promotedIds outputs
  announced : (boundaryIds outputs ++ s.control.unannounced).Sublist (promotedIds outputs)

theorem promotes_next {first : String} (s : PlaylistSession) (outputs : List PlaylistOutput)
    (event : PlaylistEvent) (h : s.Promotes first outputs) :
    (playlist.next s event).Promotes first (outputs ++ [playlist.out s event]) := by
  have hstep : s.control.Step event (playlist.next s event).control (playlist.out s event) :=
    s.step_refines event
  refine ⟨hstep.sound h.sound, hstep.fresh h.sound h.fresh, ?_, ?_⟩
  · have hplayed : (playlist.next s event).updates.played = _ := hstep.played h.sound h.fresh
    change _ = s.updates.played ++ _ at hplayed
    rw [hplayed, h.played, promotedIds_concat, List.cons_append]
  · rw [promotedIds_concat, boundaryIds_concat, List.append_assoc]
    calc (boundaryIds outputs ++ ((playlist.out s event).boundaryId ++
            (playlist.next s event).control.unannounced)).Sublist
          (boundaryIds outputs ++ (s.control.unannounced ++ (playlist.out s event).promotedId)) :=
        (List.append_sublist_append_left _).mpr (hstep.announces h.sound)
      _ = boundaryIds outputs ++ s.control.unannounced ++ (playlist.out s event).promotedId :=
        (List.append_assoc _ _ _).symm
      List.Sublist _ (promotedIds outputs ++ (playlist.out s event).promotedId) :=
        (List.append_sublist_append_right _).mpr h.announced

theorem promotes_of_init {s : PlaylistSession} (h : playlist.init s) :
    s.Promotes s.updates.currentEntryId [] := by
  have hsound := PlaylistSession.sound_of_init h
  obtain ⟨decoder, currentEntryId, currentDisplayName, upcoming, sessionId, streamId,
    hostStartTimeMs, config, reserved, streamStart, hspawn⟩ := h
  unfold spawnPlaylist at hspawn
  simp only [Result.bind_eq_ok] at hspawn
  obtain ⟨_, -, _, -, _, hentries, packetizer, -, hpure⟩ := hspawn
  cases hpure
  refine ⟨hsound, ⟨?_, fun edit hsome => by cases hsome⟩, rfl, List.Sublist.refl []⟩
  unfold validatePlaylistEntries at hentries
  simp only [Result.bind_eq_ok, Result.check_eq_ok] at hentries
  obtain ⟨_, -, hnodup⟩ := hentries
  rw [← map_fst_identity] at hnodup
  exact hnodup

theorem follows_of_init {s : PlaylistSession} (h : playlist.init s) :
    s.control.Follows (s.worker.upcoming.map identity) := by
  obtain ⟨hpending, hnext, -⟩ := PlaylistSession.control_of_init h
  right
  rw [inForce_of_pending_none hpending, remaining_of_next_none hnext]
  rfl

/-- **Promotions do not repeat an entry.** In every run the entries that the worker promotes, and
those that it announces, are new and distinct; it announces what it promotes, in order; each
promoted entry is the first one of the list in force; and taking an accepted edit never fails. -/
theorem promotions_are_fresh {s : PlaylistSession} (hs : playlist.init s)
    (events : List PlaylistEvent) :
    (s.updates.currentEntryId :: promotedIds (playlist.outputs s events)).Nodup ∧
      (s.updates.currentEntryId :: boundaryIds (playlist.outputs s events)).Nodup ∧
      (boundaryIds (playlist.outputs s events)).Sublist
        (promotedIds (playlist.outputs s events)) ∧
      inForcePlaylist.Along PromotesHead
        (s.worker.upcoming.map StreamingPlaylistTrackFactory.identity, s) events ∧
      ∀ upcoming, ∃ taken,
        ((playlist.after s events).updates.applyPlaylistUpdate upcoming).1 = .ok taken := by
  have hrun := Machine.invariant_outputs promotes_next (promotes_of_init hs) events
  rw [List.nil_append] at hrun
  have hnodup := hrun.fresh.played
  change (playlist.after s events).updates.played.Nodup at hnodup
  rw [hrun.played] at hnodup
  have hannounced := (List.sublist_append_left _ _).trans hrun.announced
  refine ⟨hnodup, hnodup.sublist (hannounced.cons_cons _), hannounced, ?_, fun upcoming => ?_⟩
  · refine Machine.along_of_preserved
      (I := fun p => p.2.control.Sound ∧ p.2.control.Follows p.1) ?_
      ⟨PlaylistSession.sound_of_init hs, follows_of_init hs⟩ events
    rintro ⟨inForce, s⟩ event ⟨hsound, hfollows⟩
    have hstep : s.control.Step event (playlist.next s event).control (playlist.out s event) :=
      s.step_refines event
    refine ⟨fun entryId hout => ?_, hstep.sound hsound, hstep.follows hsound hfollows⟩
    change playlist.out s event = _ at hout
    rw [hout] at hstep
    exact hstep.promotes_head hsound hfollows
  · unfold PlaylistUpdateState.applyPlaylistUpdate
    cases hpending : (playlist.after s events).updates.pending with
    | none => exact ⟨upcoming, rfl⟩
    | some edit =>
      have hvalid := hrun.fresh.pending edit hpending
      exact ⟨edit, congrArg (Except.map fun _ => edit) hvalid⟩

/-- The first track ends, and its successor is promoted and announced. -/
def PlaylistScenario.promoting : List PlaylistEvent :=
  [.work, .work, lastChunk, .joined (.ok ()), .work, .work, .work, .work, lastChunk,
    .attempted .sent]

open PlaylistScenario in
theorem promotions_are_fresh_promoting :
    boundaryIds (playlist.outputs session promoting) = ["entry-2"] ∧
      (session.updates.currentEntryId :: boundaryIds (playlist.outputs session promoting)).Nodup ∧
      inForcePlaylist.Along PromotesHead
        (session.worker.upcoming.map StreamingPlaylistTrackFactory.identity, session) promoting :=
  have hfresh := promotions_are_fresh init_session promoting
  ⟨by decide +kernel, hfresh.2.1, hfresh.2.2.2.1⟩

end SilentDisco
