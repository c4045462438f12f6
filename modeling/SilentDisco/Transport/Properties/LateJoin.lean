import SilentDisco.Transport.Properties.Playback

/-!
# Late joiners

A listener that joins late receives the controls of a snapshot. Feeding them into empty controls
reproduces the playback: every later snapshot of the copy is the one of the original. The
boundaries that are audible at a time are the first ones of the cache, so the ones that become
audible later are still to come in the copy.

## Main definitions

* `PlaybackControls.replayed`: the controls after a replay

## Main results

* `PlaybackControls.feed_snapshotAt`: a replay is accepted in full
* `late_joiners_see_the_same_playback`: the snapshots of a copy
-/

namespace SilentDisco.Transport

open Protocol

namespace PlaybackControls

variable {c : PlaybackControls} {start : StreamStart}

/-! ## Snapshots -/

/-- The start with a boundary as its current track. -/
def showTrack (start : StreamStart) (boundary : TrackBoundary) : StreamStart :=
  { start with
    currentEntryId := some boundary.entryId
    currentDisplayName := some boundary.displayName }

/-- The start with the last of the boundaries as its current track. -/
abbrev showTracks (start : StreamStart) (boundaries : List TrackBoundary) : StreamStart :=
  boundaries.foldl showTrack start

/-- Showing tracks changes only the metadata of a start. -/
theorem showTracks_frame (start : StreamStart) (boundaries : List TrackBoundary) :
    ∃ entryId displayName, showTracks start boundaries =
      { start with currentEntryId := entryId, currentDisplayName := displayName } := by
  induction boundaries generalizing start with
  | nil => exact ⟨_, _, rfl⟩
  | cons boundary rest ih =>
    obtain ⟨entryId, displayName, h⟩ := ih (showTrack start boundary)
    exact ⟨entryId, displayName, h⟩

/-- The boundaries that are audible, and those that are not. -/
abbrev audible (played : ℕ) (boundaries : List TrackBoundary) : List TrackBoundary :=
  boundaries.filter fun boundary => Audible played boundary

abbrev upcoming (played : ℕ) (boundaries : List TrackBoundary) : List TrackBoundary :=
  boundaries.filter fun boundary => ¬Audible played boundary

section Cons

variable {played : ℕ} {boundary : TrackBoundary} {rest : List TrackBoundary}

theorem audible_cons_of_pos (h : Audible played boundary) :
    audible played (boundary :: rest) = boundary :: audible played rest :=
  List.filter_cons_of_pos (by simpa using h)

theorem audible_cons_of_neg (h : ¬Audible played boundary) :
    audible played (boundary :: rest) = audible played rest :=
  List.filter_cons_of_neg (by simpa using h)

theorem upcoming_cons_of_pos (h : Audible played boundary) :
    upcoming played (boundary :: rest) = upcoming played rest :=
  List.filter_cons_of_neg (by simpa using h)

theorem upcoming_cons_of_neg (h : ¬Audible played boundary) :
    upcoming played (boundary :: rest) = boundary :: upcoming played rest :=
  List.filter_cons_of_pos (by simpa using h)

end Cons

theorem foldl_placeBoundary (played : ℕ) (start : StreamStart)
    (pending boundaries : List TrackBoundary) :
    boundaries.foldl (placeBoundary played) (start, pending) =
      (showTracks start (audible played boundaries), pending ++ upcoming played boundaries) := by
  induction boundaries generalizing start pending with
  | nil => simp
  | cons boundary rest ih =>
    rw [List.foldl_cons, placeBoundary]
    by_cases haudible : Audible played boundary
    · rw [if_pos haudible, ih, audible_cons_of_pos haudible, upcoming_cons_of_pos haudible]
      rfl
    · rw [if_neg haudible, ih, audible_cons_of_neg haudible, upcoming_cons_of_neg haudible,
        List.append_assoc]
      rfl

/-- The controls of a snapshot: the start with the audible track, the upcoming boundaries and
the pause. -/
theorem snapshotAt_eq (hstart : c.streamStart = some start) (now : MonotonicMillis) :
    c.snapshotAt now =
      .streamStart (showTracks start (audible (c.elapsedSamples start now) c.boundaries)) ::
        (upcoming (c.elapsedSamples start now) c.boundaries).map .trackBoundary ++
          (c.pause.map .pause).toList := by
  unfold snapshotAt
  rw [hstart]
  dsimp only
  rw [foldl_placeBoundary]
  rfl

/-- The boundaries that become audible later are after those that are audible. -/
theorem audible_append {boundaries : List TrackBoundary} {applied : Option UInt64}
    (h : Ordered boundaries applied) {played later : ℕ} (hle : played ≤ later) :
    audible later boundaries =
      audible played boundaries ++ audible later (upcoming played boundaries) := by
  induction boundaries generalizing applied with
  | nil => rfl
  | cons boundary rest ih =>
    by_cases haudible : Audible played boundary
    · have hlater : Audible later boundary := Nat.le_trans haudible hle
      rw [audible_cons_of_pos hlater, audible_cons_of_pos haudible, upcoming_cons_of_pos haudible,
        ih h.tail, List.cons_append]
    · -- in order, none of the rest is audible either
      have hnone : ∀ other ∈ boundary :: rest, ¬Audible played other := by
        intro other hother haudible'
        rcases List.mem_cons.mp hother with rfl | hmem
        · exact haudible haudible'
        · have hlt := (List.pairwise_cons.mp h.increasing).1 other hmem
          have hlt' := UInt64.lt_iff_toNat_lt.mp hlt
          unfold Audible index at *
          omega
      have haudible : audible played (boundary :: rest) = [] :=
        List.filter_eq_nil_iff.mpr fun other hother => by simpa using hnone other hother
      have hupcoming : upcoming played (boundary :: rest) = boundary :: rest :=
        List.filter_eq_self.mpr fun other hother => by simpa using hnone other hother
      rw [haudible, hupcoming, List.nil_append]

theorem upcoming_upcoming (boundaries : List TrackBoundary) {played later : ℕ}
    (hle : played ≤ later) :
    upcoming later (upcoming played boundaries) = upcoming later boundaries := by
  unfold upcoming
  rw [List.filter_filter]
  refine List.filter_congr fun boundary _ => ?_
  have himp : ¬Audible later boundary → ¬Audible played boundary := fun hnot haudible =>
    hnot (Nat.le_trans haudible hle)
  by_cases hlater : Audible later boundary
  · simp [hlater]
  · simp [hlater, himp hlater]

/-! ## Replays -/

/-- The controls after the replay of a start, its boundaries and its pause. -/
def replayed (start : StreamStart) (boundaries : List TrackBoundary) (pause : Option Pause) :
    PlaybackControls :=
  { streamStart := some start
    boundaries
    pause
    lastPauseTimeMs := pause.map (·.hostPauseTimeMs.get) }

/-- The messages are accepted one after the other, and lead to this state. -/
def Feeds (c : PlaybackControls) (messages : List ControlMessage) (c' : PlaybackControls) : Prop :=
  (∀ accepted ∈ playbackControls.outputs c (messages.map .update), accepted = true) ∧
    playbackControls.after c (messages.map .update) = c'

theorem Feeds.nil : Feeds c [] c := ⟨fun _ h => absurd h List.not_mem_nil, rfl⟩

theorem Feeds.cons {c' c'' : PlaybackControls} {message : ControlMessage}
    {messages : List ControlMessage} (hfirst : c.update message = (c', true))
    (hrest : Feeds c' messages c'') : Feeds c (message :: messages) c'' := by
  have hnext : playbackControls.next c (.update message) = c' := congrArg Prod.fst hfirst
  have hout : playbackControls.out c (.update message) = true := congrArg Prod.snd hfirst
  constructor
  · intro accepted hmem
    rw [List.map_cons, Machine.outputs, hnext] at hmem
    rcases List.mem_cons.mp hmem with rfl | hlater
    · exact hout
    · exact hrest.1 accepted hlater
  · rw [List.map_cons, Machine.after_cons, hnext]
    exact hrest.2

/-- Empty controls accept any start. -/
theorem update_streamStart_empty (start : StreamStart) :
    update {} (.streamStart start) = (replayed start [] none, true) := by
  have hnone {α : Type} (p : α → Prop) : ¬∃ a ∈ (none : Option α), p a := by simp
  have hretired : ¬RetiredStart {} start := hnone _
  have hstopped : ¬RetiredControl {} start.sessionId start.hostStartTimeMs.get := hnone _
  have hrewinds : ¬Rewinds {} start := hnone _
  have hresume : ¬IsResume {} start := hnone _
  change updateStart {} start = _
  unfold updateStart
  rw [if_neg hretired, if_neg hstopped, if_neg hrewinds, if_neg (fun h => hresume h.1),
    if_neg (fun h => hresume h.1), if_neg hresume]
  rfl

/-- The boundaries of the active stream are accepted in order. -/
theorem feeds_boundaries {cached boundaries : List TrackBoundary}
    {messages : List ControlMessage} {c' : PlaybackControls}
    (hactive : ∀ boundary ∈ boundaries,
      start.streamId = boundary.streamId ∧ start.sessionId = boundary.sessionId)
    (hordered : Ordered (cached ++ boundaries) none)
    (hbounded : (cached ++ boundaries).length ≤ maxCachedTrackBoundaries)
    (hrest : Feeds (replayed start (cached ++ boundaries) none) messages c') :
    Feeds (replayed start cached none) (boundaries.map .trackBoundary ++ messages) c' := by
  induction boundaries generalizing cached with
  | nil =>
    rw [List.append_nil] at hrest
    exact hrest
  | cons boundary rest ih =>
    obtain ⟨hfirst, hothers⟩ := List.forall_mem_cons.mp hactive
    rw [List.append_cons] at hordered hbounded hrest
    refine .cons ?_ (ih hothers hordered hbounded hrest)
    have hcached : ∀ previous ∈ cached, index previous < index boundary := fun previous hmem =>
      (List.pairwise_append.mp (List.pairwise_append.mp hordered.increasing).1).2.2 previous hmem
        boundary (List.mem_singleton_self boundary)
    have hstale : ¬StaleBoundary (replayed start cached none) boundary := by
      rintro (⟨applied, happlied, -⟩ | ⟨previous, hprevious, hle⟩)
      · exact absurd happlied (Option.not_mem_none applied)
      · exact UInt64.not_lt.mpr hle (hcached previous (List.mem_of_getLast? hprevious))
    have hroom : (cached ++ [boundary]).length - maxCachedTrackBoundaries = 0 := by
      rw [List.length_append] at hbounded
      omega
    have hcache : cacheBoundary (replayed start cached none) boundary =
        replayed start (cached ++ [boundary]) none := by
      have hdrop : (cached ++ [boundary]).drop
          ((cached ++ [boundary]).length - maxCachedTrackBoundaries) = cached ++ [boundary] := by
        rw [hroom, List.drop_zero]
      exact congrArg (replayed start · none) hdrop
    change (if IsActive _ _ _ then updateBoundary _ boundary else _) = _
    rw [if_pos ⟨start, rfl, hfirst⟩, updateBoundary, if_neg hstale, hcache]

/-- The pause of the active stream is accepted. -/
theorem feeds_pause {boundaries : List TrackBoundary} {pause : Option Pause}
    (hactive : ∀ p ∈ pause, start.streamId = p.streamId ∧ start.sessionId = p.sessionId) :
    Feeds (replayed start boundaries none) (pause.map .pause).toList
      (replayed start boundaries pause) := by
  cases pause with
  | none => exact .nil
  | some pause =>
    refine .cons ?_ .nil
    have hretired : ¬RetiredControl (replayed start boundaries none) pause.sessionId
        pause.hostPauseTimeMs.get := by
      rintro ⟨stopped, hstopped, -⟩
      exact absurd hstopped (Option.not_mem_none stopped)
    have hfirst : ¬∃ previous ∈ (replayed start boundaries none).lastPauseTimeMs,
        pause.hostPauseTimeMs.get ≤ previous := by
      rintro ⟨previous, hprevious, -⟩
      exact absurd hprevious (Option.not_mem_none previous)
    change (if IsActive _ _ _ then updatePause _ pause else _) = _
    rw [if_pos ⟨start, rfl, hactive pause rfl⟩, updatePause, if_neg hretired, if_neg hfirst]
    rfl

/-- A snapshot is accepted in full by empty controls. -/
theorem feed_snapshotAt (hc : c.Coherent) (hstart : c.streamStart = some start)
    (now : MonotonicMillis) :
    Feeds {} (c.snapshotAt now)
      (replayed (showTracks start (audible (c.elapsedSamples start now) c.boundaries))
        (upcoming (c.elapsedSamples start now) c.boundaries) c.pause) := by
  obtain ⟨entryId, displayName, hframe⟩ :=
    showTracks_frame start (audible (c.elapsedSamples start now) c.boundaries)
  rw [snapshotAt_eq hstart, hframe]
  have hids {sessionId : SessionId} {streamId : StreamId}
      (hactive : c.IsActive sessionId streamId) :
      start.streamId = streamId ∧ start.sessionId = sessionId := hactive.eq hstart
  have hsublist : (upcoming (c.elapsedSamples start now) c.boundaries).Sublist c.boundaries :=
    List.filter_sublist
  have hordered : Ordered (upcoming (c.elapsedSamples start now) c.boundaries) none :=
    ⟨hc.ordered.increasing.sublist hsublist, fun _ h => absurd h (Option.not_mem_none _)⟩
  refine .cons (update_streamStart_empty _) ?_
  refine @feeds_boundaries _ [] _ _ _ (fun boundary hmem => ?_) hordered
    (hsublist.length_le.trans hc.bounded) (feeds_pause fun pause hpause => ?_)
  · exact hids (hc.boundaries boundary (hsublist.subset hmem))
  · exact hids (hc.pause pause hpause)

/-- More is played later, unless the stream is paused. -/
theorem elapsedSamples_mono (start : StreamStart) {now later : MonotonicMillis}
    (hle : now.get ≤ later.get) : c.elapsedSamples start now ≤ c.elapsedSamples start later := by
  have hle' : now.get.toNat ≤ later.get.toNat := UInt64.le_iff_toNat_le.mp hle
  unfold elapsedSamples
  refine Nat.mul_le_mul_right _ (Nat.sub_le_sub_right ?_ _)
  cases c.pause with
  | none => exact hle'
  | some => exact min_le_min_right _ hle'

/-- The copy made from a snapshot plays as much as the original. -/
theorem elapsedSamples_replayed (start : StreamStart) (shown boundaries : List TrackBoundary)
    (now : MonotonicMillis) :
    (replayed (showTracks start shown) boundaries c.pause).elapsedSamples (showTracks start shown)
      now = c.elapsedSamples start now := by
  obtain ⟨entryId, displayName, hframe⟩ := showTracks_frame start shown
  rw [hframe]
  rfl

/-- A later snapshot of the copy is the one of the original. -/
theorem snapshotAt_replayed (hc : c.Coherent) (hstart : c.streamStart = some start)
    {now later : MonotonicMillis} (hle : now.get ≤ later.get) :
    (replayed (showTracks start (audible (c.elapsedSamples start now) c.boundaries))
      (upcoming (c.elapsedSamples start now) c.boundaries) c.pause).snapshotAt later =
        c.snapshotAt later := by
  have hmono := elapsedSamples_mono (c := c) start hle
  rw [snapshotAt_eq rfl, snapshotAt_eq hstart, elapsedSamples_replayed,
    audible_append hc.ordered hmono]
  dsimp only [replayed]
  rw [upcoming_upcoming c.boundaries hmono, showTracks, showTracks, showTracks, List.foldl_append]

end PlaybackControls

/-! ## Any playback -/

/-- A listener that joins at a time is sent the snapshot of that time. Fresh controls accept it
in full and show the same playback from then on. -/
theorem late_joiners_see_the_same_playback (c : PlaybackControls)
    (hc : playbackControls.Reachable c) (now now2 : MonotonicMillis) (hle : now.get ≤ now2.get) :
    ∃ c' : PlaybackControls, PlaybackControls.Feeds {} (c.snapshotAt now) c' ∧
      c'.snapshotAt now2 = c.snapshotAt now2 := by
  have hcoherent := PlaybackControls.coherent_of_reachable hc
  cases hstart : c.streamStart with
  | none =>
    -- nothing plays, and nothing is sent
    have hempty (time : MonotonicMillis) : c.snapshotAt time = [] := by
      unfold PlaybackControls.snapshotAt
      rw [hstart]
    rw [hempty, hempty]
    exact ⟨{}, .nil, rfl⟩
  | some =>
    exact ⟨_, PlaybackControls.feed_snapshotAt hcoherent hstart now,
      PlaybackControls.snapshotAt_replayed hcoherent hstart hle⟩

namespace PlaybackScenario

def boundary (entryId : String) (index : UInt64) : TrackBoundary :=
  { sessionId := session
    streamId := stream
    entryId
    displayName := entryId
    firstSampleIndex := ⟨index⟩ }

/-- Two tracks follow the one that plays. -/
def queued : PlaybackControls :=
  playbackControls.after {}
    [playAt 10, .update (.trackBoundary (boundary "second" 48000)),
      .update (.trackBoundary (boundary "third" 96000))]

end PlaybackScenario

open PlaybackScenario in
/-- A listener that joins in the second track sees the third one start. -/
theorem late_joiners_see_the_same_playback_third :
    ∃ c' : PlaybackControls, PlaybackControls.Feeds {} (queued.snapshotAt ⟨1500⟩) c' ∧
      c'.snapshotAt ⟨2500⟩ =
        [.streamStart { start 10 with
          currentEntryId := some "third", currentDisplayName := some "third" }] := by
  obtain ⟨c', hfeeds, hsame⟩ := late_joiners_see_the_same_playback queued
    ⟨_, _, rfl, rfl⟩ ⟨1500⟩ ⟨2500⟩ (by decide)
  have hthird : queued.snapshotAt ⟨2500⟩ = [.streamStart { start 10 with
      currentEntryId := some "third", currentDisplayName := some "third" }] := by decide +kernel
  exact ⟨c', hfeeds, hsame.trans hthird⟩

end SilentDisco.Transport
