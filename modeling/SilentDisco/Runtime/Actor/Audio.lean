import SilentDisco.Runtime.Actor.State

/-!
# Audio events

Playback facts, the host lifecycle that follows them, and the reservation of track boundaries.

## Main definitions

* `applyAudio`: the effect of an event on playback, the queue and the boundaries
* `applyAudioWithHostLifecycle`: the lifecycle transition that follows
* `applyAudioControl`: the guards on the events of an active host session
-/

namespace SilentDisco

open Result

namespace AudioEvent

/-- The playback state an event leads to. -/
def transition : AudioEvent → Option PlaybackState
  | .playbackStateChanged state => some state
  | .endOfStream _ => some .stopped
  | .failed _ => some .error
  | .positionAdvanced _ _ | .trackBoundaryScheduled _ _ | .trackBoundaryApplied _ _
  | .synchronizationUpdated _ _ | .underrun _ => none

/-- A failure that may be retried. -/
def retryableFailure : AudioEvent → Bool
  | .failed error => error.retryable
  | _ => false

/-- The report of position zero. -/
def reportsStart : AudioEvent → Bool
  | .positionAdvanced _ positionMs => positionMs = 0
  | _ => false

end AudioEvent

namespace ActorState

variable (s : ActorState)

/-! ## Playback -/

def changePlaybackState (state : PlaybackState) : ActorState :=
  let s := if state = .buffering then s.clearFailure else s
  -- A new stream starts from a state other than paused or playing; a resume keeps its position.
  let s : ActorState :=
    if state = .playing ∧ s.snapshot.playbackState ≠ .paused ∧
        s.snapshot.playbackState ≠ .playing then
      ({ s with
        snapshot.playbackPositionMs := 0
        snapshot.streamEndedNaturally := false }
      ).retireActiveAudioStream
    else s
  let s := if state = .stopped ∨ state = .error then s.retireActiveAudioStream else s
  let s : ActorState :=
    if state = .stopped then { s with snapshot.playbackPositionMs := 0 } else s
  { s with snapshot.playbackState := state }

def advancePosition (streamId : StreamId) (positionMs : UInt64) : Applied := do
  check (s.snapshot.playbackState = .playing ∨ s.snapshot.playbackState = .paused)
    (invalidState "playback position advanced while playback was inactive" none)
  rejectIf (streamId ∈ s.retiredAudioStreamIds)
    (invalidState "playback position belongs to a retired stream" none)
  rejectIf (∃ active ∈ s.activeAudioStreamId, active ≠ streamId)
    (invalidState "playback position belongs to a different stream" none)
  rejectIf (positionMs < s.snapshot.playbackPositionMs)
    (invalidState "playback position moved backward" none)
  return ({ s with
    activeAudioStreamId := some streamId
    snapshot.playbackPositionMs := positionMs }, .changedOnly)

/-! ## Track boundaries -/

def publishEarliestHostBoundary : ActorState :=
  { s with snapshot.hostQueueNextBoundary := s.pendingHostBoundaries.head? }

/-- The next queued entry is the one a boundary names. -/
def expectQueuedEntry (expected : Option QueueEntry) (entryId mismatch : String) :
    Except CoreError Unit :=
  match expected with
  | none => .error (invalidState "track boundary has no matching queued entry" none)
  | some expected => check (expected.entryId = entryId) (invalidState mismatch none)

/-- The earliest reservation is the boundary that was applied. -/
def expectReserved (reserved : Option HostQueueBoundary) (applied : HostQueueBoundary) :
    Except CoreError Unit :=
  match reserved with
  | none => .error (invalidState "track boundary was applied without being scheduled" none)
  | some reserved =>
    check (reserved = applied)
      (invalidState "applied track boundary differs from the announced queue boundary" none)

variable (boundary : HostQueueBoundary)

def applyTrackBoundary : Applied := do
  check (s.snapshot.playbackState = .playing)
    (invalidState "track boundary applied while playback was inactive" none)
  expectQueuedEntry s.snapshot.hostQueue.upcoming.head? boundary.entryId
    "track boundary does not match the next queued entry"
  expectReserved s.pendingHostBoundaries.head? boundary
  let queue ← (s.snapshot.hostQueue.completeCurrent s.snapshot.hostQueue.revision).mapError
    fun error => invalidState error.message none
  let s : ActorState :=
    { s with
      pendingHostBoundaries := s.pendingHostBoundaries.drop 1
      snapshot.hostQueue := queue
      snapshot.hostDraft :=
        { s.snapshot.hostDraft with
          audioSource := queue.current.map QueueEntry.source } }
  return (s.publishEarliestHostBoundary, .changedOnly)

/-- Reserve a boundary after the ones that are reserved already. -/
def reserveBoundary : Applied := do
  expectQueuedEntry s.snapshot.hostQueue.upcoming[s.pendingHostBoundaries.length]?
    boundary.entryId "track boundary does not match the next unreserved queued entry"
  rejectIf (boundary.firstSampleIndex = 0 ∨ ∃ previous ∈ s.pendingHostBoundaries.getLast?,
      boundary.firstSampleIndex ≤ previous.firstSampleIndex)
    (invalidState "track boundaries must advance in sample order" none)
  let s : ActorState := { s with pendingHostBoundaries := s.pendingHostBoundaries ++ [boundary] }
  return (s.publishEarliestHostBoundary, .changedOnly)

def scheduleTrackBoundary : Applied := do
  -- The producer may reach a boundary while playback is paused.
  check (s.snapshot.playbackState = .playing ∨ s.snapshot.playbackState = .paused)
    (invalidState "track boundary scheduled while playback was inactive" none)
  match s.pendingHostBoundaries.find? fun reserved => reserved.entryId = boundary.entryId with
  | some reserved =>
    if reserved.firstSampleIndex = boundary.firstSampleIndex then return (s, {})
    else
      .error (invalidState "track boundary already reserved at another sample index" none)
  | none => s.reserveBoundary boundary

/-! ## Synchronization, end and failure of a stream -/

def updateSynchronization (deviceId : DeviceId) (summary : SynchronizationSummary) : ActorState :=
  { s with
    snapshot.synchronization := some summary
    snapshot.listeners := s.snapshot.listeners.modify
      (s.snapshot.listeners.findIdx fun listener => listener.deviceId = deviceId)
      fun listener => { listener with synchronization := some summary } }

def endStream (streamId : StreamId) : Applied := do
  rejectIf (streamId ∈ s.retiredAudioStreamIds)
    (invalidState "end of stream belongs to a retired playback stream" none)
  rejectIf (∃ active ∈ s.activeAudioStreamId, active ≠ streamId)
    (invalidState "end of stream belongs to a different playback stream" none)
  check (s.snapshot.playbackState = .playing)
    (invalidState "end of stream received while playback was inactive" none)
  -- With entries left the queue is kept for a replay; otherwise the playlist is complete.
  if s.snapshot.hostQueue.upcoming ≠ [] ∨ s.snapshot.hostQueueNextBoundary ≠ none then
    let s : ActorState :=
      { s with
        snapshot.playbackState := .stopped
        snapshot.playbackPositionMs := 0
        snapshot.streamEndedNaturally := false }
    return (s.retireActiveAudioStream, .changedOnly)
  else
    let queue ← (s.snapshot.hostQueue.clear s.snapshot.hostQueue.revision false).mapError
      fun error => invalidState error.message none
    let s : ActorState :=
      { s with
        snapshot.hostQueue := queue
        snapshot.hostDraft := { s.snapshot.hostDraft with audioSource := none }
        snapshot.playbackState := .stopped
        snapshot.streamEndedNaturally := true }
    return (s.retireActiveAudioStream, .changedOnly)

def recordUnderrun (missingFrames : UInt32) : Applied := do
  let missing ← field "missing_frames" missingFrames.toNat.repr
  let outcome ← diagnostic "audio_underrun" [missing]
  let s : ActorState := { s with snapshot.playbackState := .underrun }
  return (s.clearHostBoundaryReservations, { outcome with changed := true })

def failStream (error : CoreError) : ActorState :=
  let s : ActorState :=
    { s with
      snapshot.playbackState := .error
      snapshot.lastError := some error }
  s.retireActiveAudioStream

def applyAudio : AudioEvent → Applied
  | .playbackStateChanged state => .ok (s.changePlaybackState state, .changedOnly)
  | .positionAdvanced streamId positionMs => s.advancePosition streamId positionMs
  | .trackBoundaryApplied entryId firstSampleIndex =>
    s.applyTrackBoundary { entryId, firstSampleIndex }
  | .trackBoundaryScheduled entryId firstSampleIndex =>
    s.scheduleTrackBoundary { entryId, firstSampleIndex }
  | .synchronizationUpdated deviceId summary =>
    .ok (s.updateSynchronization deviceId summary, .changedOnly)
  | .endOfStream streamId => s.endStream streamId
  | .underrun missingFrames => s.recordUnderrun missingFrames
  | .failed error => .ok (s.failStream error, .error error)

/-! ## The host lifecycle -/

/-- The host session is active and this device hosts it. -/
def HostsSession : Prop :=
  s.snapshot.selectedRole = some .host ∧ s.hostSessionId ≠ none

instance (s : ActorState) : Decidable s.HostsSession := inferInstanceAs (Decidable (_ ∧ _))

/-- The hosting lifecycle without playback: ready if anyone is connected. -/
def stoppedLifecycle : HostLifecycle :=
  if s.snapshot.listeners = [] then .waitingForListeners else .ready

/-- The lifecycle and the recovery that follow a playback transition of the host. -/
def followTransition (retryable : Bool) :
    Option PlaybackState → Except CoreError ActorState
  | some .playing => do
    check (s.snapshot.hostLifecycle = .ready ∨ s.snapshot.hostLifecycle = .paused ∨
        s.snapshot.hostLifecycle = .streaming)
      (invalidState "host playback entered playing outside an active ready session" none)
    return { s with snapshot.hostLifecycle := .streaming }
  | some .paused => do
    check (s.snapshot.hostLifecycle = .streaming ∨ s.snapshot.hostLifecycle = .paused)
      (invalidState "host playback entered paused outside a streaming session" none)
    return { s with snapshot.hostLifecycle := .paused }
  | some .stopped =>
    if s.snapshot.hostLifecycle = .ready ∨ s.snapshot.hostLifecycle = .streaming ∨
        s.snapshot.hostLifecycle = .paused ∨
        s.snapshot.hostLifecycle = .waitingForListeners then
      .ok { s with snapshot.hostLifecycle := s.stoppedLifecycle }
    else .ok s
  | some .error =>
    -- A retryable failure returns to hosting from any lifecycle.
    if retryable then
      .ok { s with
        snapshot.hostLifecycle := s.stoppedLifecycle
        snapshot.recoverableAction := some .retry }
    else
      .ok { s with
        snapshot.hostLifecycle := .error
        snapshot.recoverableAction := some .reselectAudioSource }
  | some .buffering | some .ready | some .underrun | none => .ok s

variable (event : AudioEvent)

def applyAudioWithHostLifecycle : Applied := do
  let (s, outcome) ← s.applyAudio event
  if s.HostsSession then
    let s ← s.followTransition event.retryableFailure event.transition
    return (s, outcome)
  else return (s, outcome)

/-- The playback events that an active host session accepts. -/
def checkHostAudio : AudioEvent → Except CoreError Unit
  | .playbackStateChanged .buffering =>
    check ((s.snapshot.hostLifecycle = .ready ∨
        s.snapshot.hostLifecycle = .waitingForListeners) ∧
        (s.snapshot.playbackState = .stopped ∨ s.snapshot.playbackState = .ready ∨
          s.snapshot.playbackState = .error))
      (invalidState "host playback can begin buffering only from an active stopped session" none)
  | .playbackStateChanged .playing =>
    check ((s.snapshot.hostLifecycle = .ready ∨
        s.snapshot.hostLifecycle = .waitingForListeners ∨ s.snapshot.hostLifecycle = .paused ∨
        s.snapshot.hostLifecycle = .streaming) ∧
        (s.snapshot.playbackState = .stopped ∨ s.snapshot.playbackState = .ready ∨
          s.snapshot.playbackState = .buffering ∨ s.snapshot.playbackState = .paused ∨
          s.snapshot.playbackState = .playing))
      (invalidState ("host playback can enter playing only from an active stopped, buffered, " ++
        "or paused session") none)
  | .playbackStateChanged .paused =>
    check (s.snapshot.hostLifecycle = .streaming ∧ s.snapshot.playbackState = .playing)
      (invalidState "host playback can pause only while streaming" none)
  | .playbackStateChanged .stopped | .endOfStream _ =>
    check (s.snapshot.hostLifecycle = .ready ∨
        s.snapshot.hostLifecycle = .waitingForListeners ∨
        s.snapshot.hostLifecycle = .streaming ∨ s.snapshot.hostLifecycle = .paused)
      (invalidState "host playback can stop only during an active host session" none)
  | .playbackStateChanged .ready =>
    check (s.snapshot.playbackState = .buffering ∨ s.snapshot.playbackState = .ready)
      (invalidState "host playback can become ready only after buffering" none)
  | .playbackStateChanged .error | .playbackStateChanged .underrun | .failed _
  | .positionAdvanced _ _ | .trackBoundaryScheduled _ _ | .trackBoundaryApplied _ _
  | .synchronizationUpdated _ _ | .underrun _ => .ok ()

/-- An accepted playback event of an active host session. Playing without listeners also
starts streaming. -/
def applyHostAudio : Applied := do
  s.checkHostAudio event
  if s.snapshot.hostLifecycle = .waitingForListeners ∧
      event = .playbackStateChanged .playing then
    let (s, outcome) ← s.applyAudio event
    return ({ s with snapshot.hostLifecycle := .streaming }, outcome)
  else s.applyAudioWithHostLifecycle event

/-- The first position report of a buffered stream also starts playing it. -/
def StartsBuffered : Prop :=
  event.reportsStart = true ∧ s.snapshot.playbackState = .buffering

instance (s : ActorState) (event : AudioEvent) : Decidable (s.StartsBuffered event) :=
  inferInstanceAs (Decidable (_ ∧ _))

def applyAudioControl : Applied := do
  if ¬s.HostsSession then s.applyAudioWithHostLifecycle event
  else if s.StartsBuffered event then
    let (candidate, _) ← s.applyHostAudio (.playbackStateChanged .playing)
    candidate.applyAudio event
  else s.applyHostAudio event

end ActorState

end SilentDisco
