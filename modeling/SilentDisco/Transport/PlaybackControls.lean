import SilentDisco.Library.Runs
import SilentDisco.Protocol.Types

/-!
# The playback controls of the host

The host's transport keeps the controls that describe its playback: the start of the active
stream, the boundaries of its next tracks and its pause. They are replayed to listeners that join
late, and they decide which controls are still broadcast and which audio is still sent. Delayed
controls and packets of an earlier play are recognized by watermarks.

## Main definitions

* `PlaybackControls`: the cached controls and the watermarks
* `PlaybackControls.update`: a control to be broadcast
* `PlaybackControls.permitsAudio`: a packet to be broadcast
* `PlaybackControls.snapshotAt`: the controls replayed to a listener
* `playbackControls`: the machine of all calls
-/

namespace SilentDisco.Transport

open Protocol

def maxCachedTrackBoundaries : ℕ := 100

structure PlaybackControls where
  streamStart : Option StreamStart := none
  boundaries : List TrackBoundary := []
  pause : Option Pause := none
  lastStop : Option Stop := none
  /-- The latest pause of the stream; it outlives a resume. -/
  lastPauseTimeMs : Option UInt64 := none
  /-- The anchor of the stream that was stopped last. -/
  lastStoppedStart : Option (SessionId × UInt64) := none
  /-- The time of the last stop. -/
  lastStoppedControl : Option (SessionId × UInt64) := none
  awaitingReplayFirstPacket : Bool := false
  replayNextPacket : Option (UInt64 × UInt64) := none
  replayLastPresentationMs : Option UInt64 := none
  /-- The anchor of a stream that was resumed under a later one. -/
  resumeAnchorFloor : Option UInt64 := none
  lastAppliedBoundarySampleIndex : Option UInt64 := none
  deriving DecidableEq

namespace PlaybackControls

variable (c : PlaybackControls)

/-! ## Resuming a track -/

/-- Remove the boundaries up to an index from the front; the last one removed is applied. -/
def popThrough (index : UInt64) :
    List TrackBoundary → Option UInt64 → List TrackBoundary × Option UInt64
  | [], applied => ([], applied)
  | boundary :: rest, applied =>
    if boundary.firstSampleIndex.get ≤ index then
      popThrough index rest (some boundary.firstSampleIndex.get)
    else (boundary :: rest, applied)

/-- The boundary is audible once this many samples, times a thousand, have been played. -/
abbrev Audible (playedSamples : ℕ) (boundary : TrackBoundary) : Prop :=
  boundary.firstSampleIndex.get.toNat * 1000 ≤ playedSamples

/-- The last boundary that was audible at the pause and starts the resumed entry. -/
def confirmedIndex (previous : StreamStart) (pause : Pause) (currentEntry : String) :
    Option UInt64 :=
  let elapsedMs := pause.hostPauseTimeMs.get.toNat - previous.hostStartTimeMs.get.toNat
  let playedSamples := elapsedMs * previous.sampleRate.toNat
  ((c.boundaries.filter fun boundary =>
    boundary.entryId = currentEntry ∧ Audible playedSamples boundary).map
      (·.firstSampleIndex.get)).getLast?

/-- The boundaries that a resumed stream still has before it, and the last one it has passed. -/
def passedBoundaries (resumed : StreamStart) : List TrackBoundary × Option UInt64 :=
  match c.streamStart, c.pause, resumed.currentEntryId with
  | some previous, some pause, some currentEntry =>
    match c.confirmedIndex previous pause currentEntry with
    | none => (c.boundaries, c.lastAppliedBoundarySampleIndex)
    | some index => popThrough index c.boundaries c.lastAppliedBoundarySampleIndex
  | _, _, _ => (c.boundaries, c.lastAppliedBoundarySampleIndex)

/-- A resumed stream drops the boundaries that its current entry has passed. -/
def advancePausedTrack (resumed : StreamStart) : PlaybackControls :=
  { c with
    boundaries := (c.passedBoundaries resumed).1
    lastAppliedBoundarySampleIndex := (c.passedBoundaries resumed).2 }

/-! ## Controls -/

/-- The control is not later than the last stop of its session. -/
def RetiredControl (session : SessionId) (controlTimeMs : UInt64) : Prop :=
  ∃ stopped ∈ c.lastStoppedControl, stopped.1 = session ∧ controlTimeMs ≤ stopped.2

/-- The stream of this session is active. -/
def IsActive (sessionId : SessionId) (streamId : StreamId) : Prop :=
  ∃ start ∈ c.streamStart, start.streamId = streamId ∧ start.sessionId = sessionId

variable (start : StreamStart)

/-- The start belongs to the stream that was stopped last, or to an earlier one. -/
def RetiredStart : Prop :=
  ∃ stopped ∈ c.lastStoppedStart,
    stopped.1 = start.sessionId ∧ start.hostStartTimeMs.get ≤ stopped.2

/-- The start would move the anchor of its session back. -/
def Rewinds : Prop :=
  ∃ previous ∈ c.streamStart, previous.sessionId = start.sessionId ∧
    start.hostStartTimeMs.get < previous.hostStartTimeMs.get

/-- The start resumes the active stream. -/
abbrev IsResume : Prop := c.IsActive start.sessionId start.streamId

/-- The start changes the audio format. -/
def ChangesFormat : Prop :=
  ∃ previous ∈ c.streamStart, previous.sampleRate ≠ start.sampleRate ∨
    previous.channels ≠ start.channels ∨ previous.samplesPerPacket ≠ start.samplesPerPacket

/-- The start keeps the anchor, or moves it back. -/
def KeepsAnchor : Prop :=
  ∃ previous ∈ c.streamStart, start.hostStartTimeMs.get ≤ previous.hostStartTimeMs.get

instance (session : SessionId) (time : UInt64) : Decidable (c.RetiredControl session time) :=
  inferInstanceAs (Decidable (∃ _ ∈ _, _))
instance (session : SessionId) (stream : StreamId) : Decidable (c.IsActive session stream) :=
  inferInstanceAs (Decidable (∃ _ ∈ _, _))
instance (start : StreamStart) : Decidable (c.RetiredStart start) :=
  inferInstanceAs (Decidable (∃ _ ∈ _, _))
instance (start : StreamStart) : Decidable (c.Rewinds start) :=
  inferInstanceAs (Decidable (∃ _ ∈ _, _))
instance (start : StreamStart) : Decidable (c.ChangesFormat start) :=
  inferInstanceAs (Decidable (∃ _ ∈ _, _))
instance (start : StreamStart) : Decidable (c.KeepsAnchor start) :=
  inferInstanceAs (Decidable (∃ _ ∈ _, _))

/-- The active stream is resumed, under a later anchor or with other metadata. -/
def resume : PlaybackControls :=
  let advanced := c.advancePausedTrack start
  { advanced with
    resumeAnchorFloor :=
      if c.KeepsAnchor start then advanced.resumeAnchorFloor
      else some start.hostStartTimeMs.get
    streamStart := some start
    pause := none }

/-- A new play, or a stream in place of another one. After a stop its packets are counted. -/
def openStream : PlaybackControls :=
  { c with
    lastStop := none
    resumeAnchorFloor := none
    boundaries := []
    lastAppliedBoundarySampleIndex := none
    lastPauseTimeMs := none
    awaitingReplayFirstPacket :=
      if c.lastStoppedControl.isSome then true else c.awaitingReplayFirstPacket
    replayNextPacket := if c.lastStoppedControl.isSome then none else c.replayNextPacket
    replayLastPresentationMs :=
      if c.lastStoppedControl.isSome then none else c.replayLastPresentationMs
    streamStart := some start
    pause := none }

def updateStart : PlaybackControls × Bool :=
  if c.RetiredStart start then (c, false)
  else if c.RetiredControl start.sessionId start.hostStartTimeMs.get then (c, false)
  else if c.Rewinds start then (c, false)
  else if c.IsResume start ∧ c.ChangesFormat start then (c, false)
  else if c.IsResume start ∧ c.pause.isSome ∧ c.KeepsAnchor start then (c, false)
  else if c.IsResume start then (c.resume start, true)
  else (c.openStream start, true)

variable (boundary : TrackBoundary)

/-- The boundary is not after the ones that were applied or are cached. -/
def StaleBoundary : Prop :=
  (∃ applied ∈ c.lastAppliedBoundarySampleIndex, boundary.firstSampleIndex.get ≤ applied) ∨
    ∃ previous ∈ c.boundaries.getLast?,
      boundary.firstSampleIndex.get ≤ previous.firstSampleIndex.get

instance (boundary : TrackBoundary) : Decidable (c.StaleBoundary boundary) :=
  inferInstanceAs (Decidable (_ ∨ _))

/-- Add a boundary; the oldest ones make room for it. -/
def cacheBoundary : PlaybackControls :=
  let boundaries := c.boundaries ++ [boundary]
  { c with boundaries := boundaries.drop (boundaries.length - maxCachedTrackBoundaries) }

def updateBoundary : PlaybackControls × Bool :=
  if c.StaleBoundary boundary then (c, false) else (c.cacheBoundary boundary, true)

def updatePause (pause : Pause) : PlaybackControls × Bool :=
  if c.RetiredControl pause.sessionId pause.hostPauseTimeMs.get then (c, false)
  else if ∃ previous ∈ c.lastPauseTimeMs, pause.hostPauseTimeMs.get ≤ previous then (c, false)
  else
    ({ c with lastPauseTimeMs := some pause.hostPauseTimeMs.get, pause := some pause }, true)

/-- Stop the active stream, which is retired with its anchor; nothing else of it is kept. -/
def stopActive (retired : StreamStart) (stop : Stop) : PlaybackControls where
  streamStart := none
  lastStoppedStart := some (retired.sessionId, retired.hostStartTimeMs.get)
  lastStoppedControl := some (retired.sessionId, stop.hostStopTimeMs.get)
  lastStop := some stop
  boundaries := []
  lastAppliedBoundarySampleIndex := none
  pause := none
  lastPauseTimeMs := none
  resumeAnchorFloor := none
  awaitingReplayFirstPacket := true
  replayNextPacket := none
  replayLastPresentationMs := none

/-- A stop without an active stream is remembered. -/
def stopIdle (stop : Stop) : PlaybackControls :=
  { c with
    lastStoppedControl := some (stop.sessionId, stop.hostStopTimeMs.get)
    lastStop := some stop
    awaitingReplayFirstPacket := true
    replayNextPacket := none
    replayLastPresentationMs := none }

def updateStop (stop : Stop) : PlaybackControls × Bool :=
  match c.streamStart with
  | none =>
    if c.RetiredControl stop.sessionId stop.hostStopTimeMs.get then (c, false)
    else (c.stopIdle stop, true)
  | some start =>
    if start.streamId = stop.streamId ∧ start.sessionId = stop.sessionId then
      if c.RetiredControl stop.sessionId stop.hostStopTimeMs.get then (c, false)
      else (stopActive start stop, true)
    else (c, false)

/-- Whether a control is still broadcast; the accepted ones are cached. -/
def update : ControlMessage → PlaybackControls × Bool
  | .streamStart start => c.updateStart start
  | .trackBoundary boundary =>
    if c.IsActive boundary.sessionId boundary.streamId then c.updateBoundary boundary
    else (c, false)
  | .pause pause =>
    if c.IsActive pause.sessionId pause.streamId then c.updatePause pause else (c, false)
  | .stop stop => c.updateStop stop
  | _ => (c, true)

/-! ## Audio -/

variable (packet : AudioDatagram)

/-- The packet is of the active stream, which plays, and after the anchors that fence it. Without
a stream, audio is sent until the first stop. -/
def AllowsAudio : Prop :=
  (∀ start ∈ c.streamStart,
    start.sessionId = packet.sessionId ∧ start.streamId = packet.streamId ∧ c.pause = none ∧
      (∀ anchor ∈ c.resumeAnchorFloor, anchor ≤ packet.hostPresentationTimeMs.get) ∧
      ¬∃ stopped ∈ c.lastStoppedControl, stopped.1 = packet.sessionId ∧
        packet.hostPresentationTimeMs.get < start.hostStartTimeMs.get) ∧
  (c.streamStart = none → c.lastStoppedControl = none)

-- Without the instance of the inner quantifier all anchors would be tried.
instance (packet : AudioDatagram) : Decidable (c.AllowsAudio packet) :=
  haveI : Decidable (∀ anchor ∈ c.resumeAnchorFloor, anchor ≤ packet.hostPresentationTimeMs.get) :=
    Option.decidableForallMem _
  inferInstanceAs (Decidable (_ ∧ _))

/-- The packet continues the packets that were sent since the last play. -/
def ContinuesReplay : Prop :=
  (c.awaitingReplayFirstPacket = true →
    packet.sequence.get = 0 ∧ packet.firstSampleIndex.get = 0 ∧
      ∀ start ∈ c.streamStart, packet.hostPresentationTimeMs = start.hostStartTimeMs) ∧
  (∀ previous ∈ c.replayLastPresentationMs, previous ≤ packet.hostPresentationTimeMs.get) ∧
  ∀ next ∈ c.replayNextPacket, packet.sequence.get = next.1 ∧ packet.firstSampleIndex.get = next.2

instance (packet : AudioDatagram) : Decidable (c.ContinuesReplay packet) :=
  haveI : Decidable (∀ previous ∈ c.replayLastPresentationMs,
      previous ≤ packet.hostPresentationTimeMs.get) := Option.decidableForallMem _
  haveI : Decidable (∀ next ∈ c.replayNextPacket,
      packet.sequence.get = next.1 ∧ packet.firstSampleIndex.get = next.2) :=
    Option.decidableForallMem _
  inferInstanceAs (Decidable (_ ∧ _ ∧ _))

/-- The packets since the last play are counted. -/
def CountsPackets : Prop := c.awaitingReplayFirstPacket = true ∨ c.replayNextPacket.isSome = true

instance : Decidable c.CountsPackets := inferInstanceAs (Decidable (_ ∨ _))

/-- Whether a packet is sent. -/
def permitsAudio : PlaybackControls × Bool :=
  if ¬c.AllowsAudio packet then (c, false)
  else if ¬c.ContinuesReplay packet then (c, false)
  else if c.CountsPackets then
    let sequence := packet.sequence.get.toNat + 1
    let sample := packet.firstSampleIndex.get.toNat + packet.samplesPerPacket.toNat
    -- the two checked additions
    if sequence ≥ 2 ^ 64 then (c, false)
    else if sample ≥ 2 ^ 64 then (c, false)
    else
      ({ c with
          awaitingReplayFirstPacket := false
          replayNextPacket := some (UInt64.ofNat sequence, UInt64.ofNat sample)
          replayLastPresentationMs := some packet.hostPresentationTimeMs.get }, true)
  else (c, true)

/-! ## Replay to listeners -/

/-- The samples, times a thousand, that the stream has played; a pause holds the clock. -/
def elapsedSamples (now : MonotonicMillis) : ℕ :=
  let effectiveNow := match c.pause with
    | none => now.get.toNat
    | some pause => min now.get.toNat pause.hostPauseTimeMs.get.toNat
  (effectiveNow - start.hostStartTimeMs.get.toNat) * start.sampleRate.toNat

/-- An audible boundary is the current track of the start; the others are upcoming. -/
def placeBoundary (elapsedSamples : ℕ) (placed : StreamStart × List TrackBoundary)
    (boundary : TrackBoundary) : StreamStart × List TrackBoundary :=
  if Audible elapsedSamples boundary then
    ({ placed.1 with
        currentEntryId := some boundary.entryId
        currentDisplayName := some boundary.displayName }, placed.2)
  else (placed.1, placed.2 ++ [boundary])

/-- The controls that show a listener the playback at a time. -/
def snapshotAt (now : MonotonicMillis) : List ControlMessage :=
  match c.streamStart with
  | none => []
  | some start =>
    let (current, upcoming) :=
      c.boundaries.foldl (placeBoundary (c.elapsedSamples start now)) (start, [])
    .streamStart current :: upcoming.map .trackBoundary ++ (c.pause.map .pause).toList

end PlaybackControls

/-! ## Runs -/

/-- A call on the playback controls. -/
inductive PlaybackCall
  | update (message : ControlMessage)
  | permitsAudio (packet : AudioDatagram)
  deriving DecidableEq

def PlaybackControls.apply (c : PlaybackControls) : PlaybackCall → PlaybackControls × Bool
  | .update message => c.update message
  | .permitsAudio packet => c.permitsAudio packet

/-- The playback controls under any sequence of calls; the output tells whether the control or
the packet is broadcast. -/
def playbackControls : Machine PlaybackControls PlaybackCall Bool where
  init c := c = {}
  step := PlaybackControls.apply

end SilentDisco.Transport
