import SilentDisco.Runtime.Actor.Process

/-!
# The deck

The part of the actor's state that plays the queue: the queue with its reserved boundaries, the
source of the draft, and the state of playback. Most inputs leave it alone; the relations here
say what the others do.

## Main definitions

* `Deck`, `ActorState.deck`: the deck of a state
* `Deck.retire`, `Deck.change`, `Deck.dropStale`: the end of a stream, a change of the playback
  state, and the reservations after an edit
* `Deck.Plays`: what an audio event does to the deck
* `QueueEdit`, `DeckStep`: what any input does to it
-/

namespace SilentDisco

open Result

structure Deck where
  revision : SnapshotRevision
  queue : HostQueue
  /-- The audio source of the draft. -/
  source : Option AudioSourceDescriptor
  reserved : List HostQueueBoundary
  nextBoundary : Option HostQueueBoundary
  playback : PlaybackState
  position : UInt64
  stream : Option StreamId
  retired : List StreamId

def ActorState.deck (s : ActorState) : Deck where
  revision := s.snapshot.revision
  queue := s.snapshot.hostQueue
  source := s.snapshot.hostDraft.audioSource
  reserved := s.pendingHostBoundaries
  nextBoundary := s.snapshot.hostQueueNextBoundary
  playback := s.snapshot.playbackState
  position := s.snapshot.playbackPositionMs
  stream := s.activeAudioStreamId
  retired := s.retiredAudioStreamIds

namespace Deck

variable (d : Deck)

/-- Drop the reservations. -/
def unreserve : Deck := { d with reserved := [], nextBoundary := none }

/-- End the active stream. -/
def retire : Deck :=
  { d.unreserve with
    stream := none
    retired :=
      match d.stream with
      | some streamId => ActorState.retiredWith d.retired streamId
      | none => d.retired }

/-- The reservations are for the first entries to come, in order. -/
def Matches : Prop :=
  d.reserved.map HostQueueBoundary.entryId <+: d.queue.upcoming.map QueueEntry.entryId

instance (d : Deck) : Decidable d.Matches :=
  inferInstanceAs (Decidable (List.IsPrefix _ _))

/-- Drop the reservations unless they match the queue. -/
def dropStale : Deck := if d.Matches then d else d.unreserve

/-- Change the playback state. A stream that starts to play from another state than paused is a
new one. -/
def change : PlaybackState → Deck
  | .playing =>
    if d.playback = .paused ∨ d.playback = .playing then { d with playback := .playing }
    else { d.retire with playback := .playing, position := 0 }
  | .stopped => { d.retire with playback := .stopped, position := 0 }
  | .error => { d.retire with playback := .error }
  | state => { d with playback := state }

theorem playback_change (state : PlaybackState) : (d.change state).playback = state := by
  cases state with
  | playing =>
    unfold change
    split_ifs <;> rfl
  | _ => rfl

/-- Forget the session of the queue. -/
def reset : Deck :=
  { d.retire with queue := {}, source := none, playback := .stopped, position := 0 }

end Deck

/-! ## Audio events -/

/-- The stream of an event may be the active one. -/
def Deck.Accepts (d : Deck) (streamId : StreamId) : Prop :=
  streamId ∉ d.retired ∧ ∀ active ∈ d.stream, active = streamId

/-- What an accepted audio event does to the deck. -/
inductive Deck.Plays (d : Deck) : AudioEvent → Deck → Prop
  | changed (state : PlaybackState) : Plays d (.playbackStateChanged state) (d.change state)
  | advanced (streamId : StreamId) (positionMs : UInt64)
      (hplaying : d.playback = .playing ∨ d.playback = .paused) (haccepts : d.Accepts streamId)
      (hforward : d.position ≤ positionMs) :
      Plays d (.positionAdvanced streamId positionMs)
        { d with stream := some streamId, position := positionMs }
  /-- The first report of a buffered stream starts to play it. -/
  | started (streamId : StreamId) (hbuffering : d.playback = .buffering)
      (haccepts : (d.change .playing).Accepts streamId) :
      Plays d (.positionAdvanced streamId 0)
        { d.change .playing with stream := some streamId, position := 0 }
  | applied (boundary : HostQueueBoundary) (queue : HostQueue) (hplaying : d.playback = .playing)
      (hnext : d.queue.upcoming.head?.map QueueEntry.entryId = some boundary.entryId)
      (hreserved : d.reserved.head? = some boundary)
      (hqueue : d.queue.completeCurrent d.queue.revision = .ok queue) :
      Plays d (.trackBoundaryApplied boundary.entryId boundary.firstSampleIndex)
        { d with
          queue
          source := queue.current.map QueueEntry.source
          reserved := d.reserved.drop 1
          nextBoundary := (d.reserved.drop 1).head? }
  | scheduledAgain (boundary : HostQueueBoundary) (hmem : boundary ∈ d.reserved) :
      Plays d (.trackBoundaryScheduled boundary.entryId boundary.firstSampleIndex) d
  | scheduled (boundary : HostQueueBoundary)
      (hplaying : d.playback = .playing ∨ d.playback = .paused)
      (hnew : ∀ reserved ∈ d.reserved, reserved.entryId ≠ boundary.entryId)
      (hnext : d.queue.upcoming[d.reserved.length]?.map QueueEntry.entryId =
        some boundary.entryId)
      (hpositive : boundary.firstSampleIndex ≠ 0)
      (hlater : ∀ previous ∈ d.reserved.getLast?,
        previous.firstSampleIndex < boundary.firstSampleIndex) :
      Plays d (.trackBoundaryScheduled boundary.entryId boundary.firstSampleIndex)
        { d with
          reserved := d.reserved ++ [boundary]
          nextBoundary := (d.reserved ++ [boundary]).head? }
  | synchronized (deviceId : DeviceId) (summary : SynchronizationSummary) :
      Plays d (.synchronizationUpdated deviceId summary) d
  /-- The stream ends before the playlist. -/
  | exhausted (streamId : StreamId) (hplaying : d.playback = .playing)
      (haccepts : d.Accepts streamId)
      (hleft : d.queue.upcoming ≠ [] ∨ d.nextBoundary ≠ none) :
      Plays d (.endOfStream streamId) { d.retire with playback := .stopped, position := 0 }
  | finished (streamId : StreamId) (queue : HostQueue) (hplaying : d.playback = .playing)
      (haccepts : d.Accepts streamId) (hleft : d.queue.upcoming = [] ∧ d.nextBoundary = none)
      (hqueue : d.queue.clear d.queue.revision false = .ok queue) :
      Plays d (.endOfStream streamId)
        { d.retire with queue, source := none, playback := .stopped }
  | underran (missingFrames : UInt32) :
      Plays d (.underrun missingFrames) { d.unreserve with playback := .underrun }
  | failed (error : CoreError) : Plays d (.failed error) { d.retire with playback := .error }

/-! ## Inputs -/

/-- The edits of the queue that keep the reservations of its first entries. -/
inductive QueueEdit (s : ActorState) : CoreCommand → HostQueue → Prop
  | appended (expected : UInt64) (entries : List QueueEntry) (queue : HostQueue)
      (hqueue : s.snapshot.hostQueue.append expected entries = .ok queue) :
      QueueEdit s (.appendHostQueue expected entries) queue
  | reordered (expected : UInt64) (orderedEntryIds : List String) (queue : HostQueue)
      (hqueue : s.snapshot.hostQueue.reorder expected orderedEntryIds s.currentLocked =
        .ok queue) :
      QueueEdit s (.reorderHostQueue expected orderedEntryIds) queue
  | removed (expected : UInt64) (entryId : String) (queue : HostQueue)
      (hqueue : s.snapshot.hostQueue.remove expected entryId s.currentLocked = .ok queue) :
      QueueEdit s (.removeHostQueueEntry expected entryId) queue

/-- What a handled input does to the deck. -/
inductive DeckStep (s : ActorState) : CoreActorInput → Deck → Prop
  | kept (input : CoreActorInput) : DeckStep s input s.deck
  | edited (operationId : OperationId) (revision : SnapshotRevision) (command : CoreCommand)
      (queue : HostQueue) (hedit : QueueEdit s command queue) :
      DeckStep s (.command operationId ⟨revision, command⟩)
        { s.deck with queue, source := queue.current.map QueueEntry.source }.dropStale
  | cleared (operationId : OperationId) (revision : SnapshotRevision) (expected : UInt64)
      (queue : HostQueue) (hunreserved : s.pendingHostBoundaries = [])
      (hqueue : s.snapshot.hostQueue.clear expected s.currentLocked = .ok queue) :
      DeckStep s (.command operationId ⟨revision, .clearHostQueue expected⟩)
        { s.deck with queue, source := queue.current.map QueueEntry.source }.unreserve
  /-- The draft names another source: the queue becomes its only entry. -/
  | redrafted (operationId : OperationId) (revision : SnapshotRevision) (patch : HostDraftPatch)
      (entries : List QueueEntry) (queue : HostQueue) (hpatch : patch.audioSource ≠ .unchanged)
      (heditable : s.snapshot.hostLifecycle = .idle ∨ s.snapshot.hostLifecycle = .error ∨
        s.snapshot.playbackState = .stopped)
      (hentries : ActorState.queueEntriesOf
        (s.snapshot.hostDraft.patchedAudioSource patch.audioSource) = .ok entries)
      (hqueue : s.snapshot.hostQueue.replaceAll s.snapshot.hostQueue.revision entries =
        .ok queue) :
      DeckStep s (.command operationId ⟨revision, .updateHostDraft patch⟩)
        { ({ s.deck with queue } : Deck).dropStale with
          source := s.snapshot.hostDraft.patchedAudioSource patch.audioSource }
  | sessionReset (operationId : OperationId) :
      DeckStep s (.platform (.operationSucceeded operationId .advertisingStopped)) s.deck.reset
  | networkReleased (operationId : OperationId) :
      DeckStep s (.platform (.operationSucceeded operationId .networkReleased))
        { s.deck.retire with playback := .stopped }
  | sessionEnded (sessionId : SessionId) :
      DeckStep s (.transport (.sessionEnded sessionId)) { s.deck with playback := .stopped }
  | played (event : AudioEvent) (d : Deck) (hplays : s.deck.Plays event d) :
      DeckStep s (.audio event) d

/-! ## The revision

Only a commit changes the revision. -/

namespace Deck

variable {d d' : Deck} {event : AudioEvent}

theorem revision_dropStale (d : Deck) : d.dropStale.revision = d.revision := by
  unfold dropStale
  split_ifs <;> rfl

theorem revision_change (d : Deck) (state : PlaybackState) :
    (d.change state).revision = d.revision := by
  cases state with
  | playing =>
    unfold change
    split_ifs <;> rfl
  | _ => rfl

theorem Plays.revision_eq (h : d.Plays event d') : d'.revision = d.revision := by
  cases h with
  | changed state => exact d.revision_change state
  | started => exact d.revision_change .playing
  | _ => rfl

end Deck

theorem DeckStep.revision_eq {s : ActorState} {input : CoreActorInput} {d : Deck}
    (h : DeckStep s input d) : d.revision = s.snapshot.revision := by
  cases h with
  | edited => exact Deck.revision_dropStale _
  | redrafted =>
    exact Deck.revision_dropStale _
  | played _ _ hplays => exact hplays.revision_eq
  | _ => rfl

end SilentDisco
