import SilentDisco.Audio.PlaylistUpdates
import SilentDisco.Library.Runs

/-!
# Playlist worker

The worker that packetizes a playlist as one continuous stream, as a state machine. One step of
the worker is one region under the lock of the shared edits, or one exchange with the decoder,
the output channel or the actor, together with the local computation up to the next one; edits
and a cancellation may come between any two steps.

## Main definitions

* `WorkerPhase`: where the worker is
* `PlaylistWorker`: the worker's variables
* `PlaylistSession`, `spawnPlaylist`: the worker with the state that it shares
* `PlaylistEvent`, `PlaylistOutput`: what may happen, and what is observed
* `playlist`: the machine
-/

namespace SilentDisco

open Result Protocol

/-- A prepared successor: its identity, and its decoder unless it could not be opened. -/
structure StagedPlaylistTrack where
  entryId : String
  displayName : String
  opened : Except DecodeError StreamingDecodeHandle
  deriving DecidableEq

/-- A successor whose decoder is open. -/
structure ReadyTrack where
  entryId : String
  displayName : String
  decoder : StreamingDecodeHandle
  deriving DecidableEq

def StagedPlaylistTrack.ready (staged : StagedPlaylistTrack) : Option ReadyTrack :=
  match staged.opened with
  | .ok decoder => some ⟨staged.entryId, staged.displayName, decoder⟩
  | .error _ => none

def StagedPlaylistTrack.identity (staged : StagedPlaylistTrack) : String × String :=
  (staged.entryId, staged.displayName)

/-- Where the worker looks for a pending edit: before each chunk, before it closes the final
track on its last chunk, and after the end of a track, before the successor is promoted. -/
inductive RefreshSite
  | track
  | sealing (chunk : DecodedPcmChunk)
  | promotion
  deriving DecidableEq

/-- Why the worker sends frames: a boundary before the first chunk of its track, the packets of
a chunk, or the last packet of a track that lost its successor. -/
inductive SendSite
  | boundary (chunk : DecodedPcmChunk)
  | chunk (inputFinished endOfStream : Bool)
  | flush
  deriving DecidableEq

/-- The control points of the worker. -/
inductive WorkerPhase
  /-- The head of the loop over tracks. -/
  | start
  /-- About to look for a pending edit. -/
  | refresh (site : RefreshSite)
  /-- About to take the edit that it saw. -/
  | apply (site : RefreshSite)
  /-- Waiting for the decoder. -/
  | receive
  /-- About to close the edits on the last chunk of the final track. -/
  | seal (chunk : DecodedPcmChunk)
  /-- Sending a frame, and then the rest. -/
  | send (frame : ProtocolFrame) (rest : List ProtocolFrame) (backpressureRecorded : Bool)
      (site : SendSite)
  /-- Joining the decoder of the track. -/
  | join (result : Except PacketizerWorkerError Unit)
  /-- About to promote the successor. -/
  | promote (track : ReadyTrack)
  /-- Reserving the boundary with the actor. -/
  | reserve (boundary : TrackBoundary)
  /-- Joining the decoder of a successor whose boundary was refused. -/
  | abandon (error : PacketizerWorkerError)
  /-- Returned, before the terminal guard. -/
  | exit (result : Except PacketizerWorkerError PacketizerSummary)
  | exited (result : Except PacketizerWorkerError PacketizerSummary)
  deriving DecidableEq

structure PlaylistWorker where
  decoder : StreamingDecodeHandle
  currentDisplayName : String
  upcoming : List StreamingPlaylistTrackFactory
  next : Option StagedPlaylistTrack
  /-- No successor was ready when the track was last retargeted. -/
  finalTrack : Bool
  /-- The track had a successor at its end. -/
  hadSuccessor : Bool
  /-- The boundary to send before the first chunk. -/
  boundary : Option TrackBoundary
  packetizer : Packetizer
  backpressureEvents : UInt64
  emittedPackets : UInt64
  phase : WorkerPhase
  deriving DecidableEq

/-- The result of merging the end of a decoder into the result of its track. -/
def mergeDecoderShutdownResult (packetizerResult : Except PacketizerWorkerError Unit)
    (decoderResult : Except DecodeError Unit) : Except PacketizerWorkerError Unit :=
  match decoderResult with
  | .ok () => packetizerResult
  | .error failure =>
    if failure.kind = .cancelled then packetizerResult
    else
      let kind := if failure.kind = .workerPanicked then .workerPanicked else .source
      let message := "streaming decoder worker failed: " ++ failure.message
      match packetizerResult with
      | .ok () => .error ⟨kind, message⟩
      | .error primary =>
        if primary.kind = .cancelled then .error ⟨kind, message⟩
        else .error { primary with message := primary.message ++ "; " ++ message }

def mapPlaylistDecodeError (error : DecodeError) (displayName : String) : PacketizerWorkerError :=
  ⟨match error.kind with
    | .workerPanicked => .workerPanicked
    | .cancelled => .cancelled
    | _ => .source,
    displayName ++ ": streaming playlist decoder failed: " ++ error.message⟩

def workerCancelled : PacketizerWorkerError :=
  ⟨.cancelled, "streaming packetizer worker was cancelled"⟩

namespace PlaylistWorker

variable (w : PlaylistWorker)

def playlistCompletedSummary : PacketizerSummary :=
  ⟨.completed, w.emittedPackets, w.backpressureEvents⟩

/-- The identities of the tracks to come. -/
def remaining : List (String × String) :=
  (w.next.map StagedPlaylistTrack.identity).toList ++
    w.upcoming.map StreamingPlaylistTrackFactory.identity

/-- The successor, if its decoder is open. -/
def readyNext : Option ReadyTrack := w.next.bind StagedPlaylistTrack.ready

/-- Open the first upcoming track. -/
def openNextTrack : PlaylistWorker :=
  match w.upcoming with
  | [] => { w with next := none }
  | track :: rest =>
    { w with next := some ⟨track.entryId, track.displayName, track.opened⟩, upcoming := rest }

/-- The prepared successor is the first upcoming track. -/
def keepsSuccessor : Bool :=
  match w.readyNext, w.upcoming with
  | some ready, track :: _ =>
    ready.entryId = track.entryId && ready.displayName = track.displayName
  | _, _ => false

/-- Prepare the first upcoming track. A successor that stays first keeps its decoder. -/
def restage : PlaylistWorker :=
  if w.keepsSuccessor then { w with upcoming := w.upcoming.tail } else w.openNextTrack

/-- Retarget the track to an edited list. -/
def retarget (upcoming : List StreamingPlaylistTrackFactory) : PlaylistWorker :=
  let staged := { w with upcoming }.restage
  { staged with finalTrack := staged.next.isNone }

/-- Start the track on the list of upcoming tracks. -/
def begin (upcoming : List StreamingPlaylistTrackFactory) : PlaylistWorker :=
  let staged := { w with upcoming }.openNextTrack
  { staged with finalTrack := staged.readyNext.isNone, phase := .refresh .track }

variable (error : PacketizerWorkerError)

/-- A failure inside a track joins the decoder of the track first. -/
def failTrack : PlaylistWorker :=
  { w with phase := .join (.error error) }

def failWorker : PlaylistWorker :=
  { w with phase := .exit (.error error) }

/-- A chunk has been sent. -/
def chunkSent (inputFinished endOfStream : Bool) : PlaylistWorker :=
  if inputFinished then
    if w.finalTrack && !endOfStream then
      w.failTrack ⟨.packetize, "final playlist track did not finish the packetizer stream"⟩
    else { w with phase := .join (.ok ()) }
  else { w with phase := .refresh .track }

/-- Packetize a chunk. Only the last chunk of the final track ends the stream. -/
def pushChunk (chunk : DecodedPcmChunk) : PlaylistWorker :=
  match w.packetizer.pushContiguousChunk
      { chunk with endOfStream := chunk.endOfStream && w.finalTrack } with
  | (.error error, packetizer) =>
    { w with packetizer := packetizer }.failTrack (.ofPacketizer error)
  | (.ok outcome, packetizer) =>
    match outcome.frames with
    | [] => { w with packetizer := packetizer }.chunkSent chunk.endOfStream outcome.endOfStream
    | frame :: rest =>
      { w with
        packetizer := packetizer
        phase := .send frame rest false (.chunk chunk.endOfStream outcome.endOfStream) }

/-- The last chunk of the final track closes the edits first. -/
def chunkAnnounced (chunk : DecodedPcmChunk) : PlaylistWorker :=
  if chunk.endOfStream && w.finalTrack then { w with phase := .seal chunk } else w.pushChunk chunk

/-- The chunk that ends the stream without samples. -/
def flushChunk : DecodedPcmChunk := ⟨w.decoder.format, ⟨0⟩, [], true⟩

/-- Finish the stream of a track that lost its successor after its last chunk. -/
def flush : PlaylistWorker :=
  if w.packetizer.finished then
    w.failWorker ⟨.packetize, "cannot retarget a playlist whose packetizer already finished"⟩
  else
    match w.packetizer.pushContiguousChunk w.flushChunk with
    | (.error error, packetizer) =>
      { w with packetizer := packetizer }.failWorker (.ofPacketizer error)
    | (.ok outcome, packetizer) =>
      match outcome.frames with
      | [] =>
        { w with packetizer := packetizer, phase := .exit (.ok w.playlistCompletedSummary) }
      | frame :: rest =>
        { w with packetizer := packetizer, phase := .send frame rest false .flush }

/-- After the end of a track: promote the successor, or finish. -/
def proceed : PlaylistWorker :=
  match w.next with
  | none =>
    if w.hadSuccessor then w.flush
    else { w with phase := .exit (.ok w.playlistCompletedSummary) }
  | some staged =>
    match staged.opened with
    | .ok decoder => { w with phase := .promote ⟨staged.entryId, staged.displayName, decoder⟩ }
    | .error error => w.failWorker (mapPlaylistDecodeError error staged.displayName)

/-- Continue after a look for a pending edit. -/
def resume : RefreshSite → PlaylistWorker
  | .track => { w with phase := .receive }
  | .sealing chunk => if w.finalTrack then { w with phase := .seal chunk } else w.pushChunk chunk
  | .promotion => w.proceed

/-- A failed look for a pending edit. -/
def failRefresh : RefreshSite → PlaylistWorker
  | .track | .sealing _ => w.failTrack error
  | .promotion => w.failWorker error

/-- Continue after the last frame. -/
def sent : SendSite → PlaylistWorker
  | .boundary chunk => w.chunkAnnounced chunk
  | .chunk inputFinished endOfStream => w.chunkSent inputFinished endOfStream
  | .flush => { w with phase := .exit (.ok w.playlistCompletedSummary) }

def failSend : SendSite → PlaylistWorker
  | .boundary _ | .chunk _ _ => w.failTrack error
  | .flush => w.failWorker error

/-- Backpressure is counted once for each frame. -/
def countBackpressure (backpressureRecorded : Bool) : PlaylistWorker :=
  if backpressureRecorded then w else { w with backpressureEvents := w.backpressureEvents + 1 }

/-- A boundary uses the same channel, but it is no audio. -/
def countSent (frame : ProtocolFrame) : PlaylistWorker :=
  match frame with
  | .audio _ => { w with emittedPackets := w.emittedPackets + 1 }
  | _ => w

/-- The announcement of the next track, at the end of the timeline. -/
def committedBoundary (track : ReadyTrack) : TrackBoundary where
  sessionId := w.packetizer.sessionId
  streamId := w.packetizer.streamId
  firstSampleIndex := ⟨w.packetizer.nextContiguousSampleIndex⟩
  entryId := track.entryId
  displayName := track.displayName

/-- The next track starts. -/
def startTrack (boundary : TrackBoundary) : PlaylistWorker :=
  { w with
    currentDisplayName := boundary.displayName
    boundary := some boundary
    phase := .start }

/-- The end of a track. -/
def endTrack : PlaylistWorker :=
  let ended := { w with hadSuccessor := w.next.isSome }
  if ended.hadSuccessor then { ended with phase := .refresh .promotion } else ended.proceed

end PlaylistWorker

/-! ## The session -/

/-- The worker and what it shares: the edits with the updater, the cancellation flag with the
owner of the handle. -/
structure PlaylistSession where
  updates : PlaylistUpdateState
  worker : PlaylistWorker
  cancelled : Bool
  /-- Boundaries are reserved with the actor. -/
  reserved : Bool
  deriving DecidableEq

/-- What the decoder answers within the poll interval. -/
inductive Received
  | chunk (chunk : DecodedPcmChunk)
  | timeout
  | disconnected
  deriving DecidableEq

/-- One attempt to send a frame: no slot was free, the channel was full, nobody receives, or
the frame was sent. -/
inductive SendAttempt
  | unreserved | full | disconnected | sent
  deriving DecidableEq

/-- What may happen next: an edit, a cancellation, a step of the worker alone, or one in which
the decoder, the output channel or the actor answers. -/
inductive PlaylistEvent
  | replaceUpcoming (upcoming : List StreamingPlaylistTrackFactory)
  | cancel
  | work
  | received (result : Received)
  | attempted (attempt : SendAttempt)
  | joined (result : Except DecodeError Unit)
  | reserved (result : Except PacketizerWorkerError Unit)
  deriving DecidableEq

/-- What is observed: the answer to an edit, the edit that the worker applies, the entry that it
promotes, and the frame that it sends. -/
inductive PlaylistOutput
  | answered (result : Except PacketizerWorkerError Unit)
  | applied (upcoming : List StreamingPlaylistTrackFactory)
  | promoted (entryId : String)
  | sent (frame : ProtocolFrame)
  | silent
  deriving DecidableEq

namespace PlaylistSession

variable (s : PlaylistSession)

/-- The worker goes on without touching the shared state. -/
def goOn (w : PlaylistWorker) : PlaylistSession × PlaylistOutput :=
  ({ s with worker := w }, .silent)

/-- Take the pending edit into the worker's list, and continue with it. -/
def takeUpdate (fail : PacketizerWorkerError → PlaylistWorker)
    (succeed : List StreamingPlaylistTrackFactory → PlaylistWorker) :
    PlaylistSession × PlaylistOutput :=
  match s.updates.applyPlaylistUpdate s.worker.upcoming with
  | (.error error, updates) => ({ s with updates, worker := fail error }, .silent)
  | (.ok upcoming, updates) =>
    ({ s with updates, worker := succeed upcoming },
      match s.updates.pending with
      | none => .silent
      | some replacement => .applied replacement)

/-- The head of the loop: the pending edit is taken and the successor is opened. -/
def beginTrack : PlaylistSession × PlaylistOutput :=
  if s.cancelled then s.goOn (s.worker.failWorker workerCancelled)
  else s.takeUpdate s.worker.failWorker s.worker.begin

/-- The look for a pending edit. Before a chunk the cancellation comes first. -/
def refresh (site : RefreshSite) : PlaylistSession × PlaylistOutput :=
  if site = .track ∧ s.cancelled = true then s.goOn (s.worker.failTrack workerCancelled)
  else if s.updates.pending.isSome then s.goOn { s.worker with phase := .apply site }
  else s.goOn (s.worker.resume site)

/-- The edit that was seen is taken, and the track is retargeted. -/
def applyUpdate (site : RefreshSite) : PlaylistSession × PlaylistOutput :=
  s.takeUpdate (s.worker.failRefresh · site) fun upcoming =>
    (s.worker.retarget upcoming).resume site

/-- The decoder answers. -/
def receive : Received → PlaylistSession × PlaylistOutput
  | .timeout => s.goOn { s.worker with phase := .refresh .track }
  | .disconnected =>
    s.goOn (s.worker.failTrack
      ⟨.source, "playlist decoder disconnected before its final chunk"⟩)
  | .chunk chunk =>
    match s.worker.boundary with
    | none => s.goOn (s.worker.chunkAnnounced chunk)
    | some boundary =>
      s.goOn
        { s.worker with
          boundary := none
          phase := .send (.control (.trackBoundary boundary)) [] false (.boundary chunk) }

/-- The edits are closed, unless one is pending. -/
def sealTrack (chunk : DecodedPcmChunk) : PlaylistSession × PlaylistOutput :=
  match s.updates.sealFinalTrackIfUnmodified with
  | (true, updates) => ({ s with updates, worker := s.worker.pushChunk chunk }, .silent)
  | (false, updates) =>
    ({ s with updates, worker.phase := .refresh (.sealing chunk) }, .silent)

/-- A frame has been sent. -/
def frameSent (frame : ProtocolFrame) (rest : List ProtocolFrame) (site : SendSite) :
    PlaylistSession × PlaylistOutput :=
  match rest with
  | [] => ({ s with worker := (s.worker.countSent frame).sent site }, .sent frame)
  | following :: others =>
    ({ s with
        worker := { s.worker.countSent frame with phase := .send following others false site } },
      .sent frame)

/-- One attempt to send the next frame. -/
def send (frame : ProtocolFrame) (rest : List ProtocolFrame) (backpressureRecorded : Bool)
    (site : SendSite) (attempt : SendAttempt) : PlaylistSession × PlaylistOutput :=
  if s.cancelled then s.goOn (s.worker.failSend workerCancelled site)
  else
    match attempt with
    | .unreserved =>
      s.goOn
        { s.worker.countBackpressure backpressureRecorded with
          phase := .send frame rest true site }
    | .full => s.goOn s.worker
    | .disconnected =>
      s.goOn (s.worker.failSend ⟨.cancelled, "packetizer output receiver disconnected"⟩ site)
    | .sent => s.frameSent frame rest site

/-- The decoder of the track has ended. -/
def joinTrack (result : Except PacketizerWorkerError Unit)
    (decoderResult : Except DecodeError Unit) : PlaylistSession × PlaylistOutput :=
  match mergeDecoderShutdownResult result decoderResult with
  | .ok () => s.goOn s.worker.endTrack
  | .error error =>
    s.goOn (s.worker.failWorker
      { error with message := s.worker.currentDisplayName ++ ": " ++ error.message })

/-- The successor becomes current, unless an edit is pending. -/
def promote (track : ReadyTrack) : PlaylistSession × PlaylistOutput :=
  match s.updates.promoteCurrentEntryIfUnmodified track.entryId s.reserved with
  | (false, updates) =>
    ({ s with updates, worker.phase := .refresh .promotion }, .silent)
  | (true, updates) =>
    let boundary := s.worker.committedBoundary track
    let promoted := { s.worker with decoder := track.decoder, next := none }
    ({ s with
        updates
        worker :=
          if s.reserved then { promoted with phase := .reserve boundary }
          else promoted.startTrack boundary },
      .promoted track.entryId)

/-- The actor answers the reservation. -/
def reserve (boundary : TrackBoundary) :
    Except PacketizerWorkerError Unit → PlaylistSession × PlaylistOutput
  | .ok () => s.goOn (s.worker.startTrack boundary)
  | .error error => s.goOn { s.worker with phase := .abandon error }

/-- The decoder of the refused successor has ended. -/
def abandon (error : PacketizerWorkerError) (decoderResult : Except DecodeError Unit) :
    PlaylistSession × PlaylistOutput :=
  s.goOn
    { s.worker with
      phase := .exit ((mergeDecoderShutdownResult (.error error) decoderResult).map
        fun _ => s.worker.playlistCompletedSummary) }

/-- The terminal guard. -/
def leave (result : Except PacketizerWorkerError PacketizerSummary) :
    PlaylistSession × PlaylistOutput :=
  ({ s with updates := s.updates.close, worker.phase := .exited result },
    .silent)

/-- One step. An event that the worker does not wait for changes nothing. -/
def step (event : PlaylistEvent) : PlaylistSession × PlaylistOutput :=
  match event, s.worker.phase with
  | .replaceUpcoming upcoming, _ =>
    let (result, updates) := s.updates.replaceUpcoming upcoming
    ({ s with updates }, .answered result)
  | .cancel, _ => ({ s with cancelled := true }, .silent)
  | .work, .start => s.beginTrack
  | .work, .refresh site => s.refresh site
  | .work, .apply site => s.applyUpdate site
  | .work, .seal chunk => s.sealTrack chunk
  | .work, .promote track => s.promote track
  | .work, .exit result => s.leave result
  | .received result, .receive => s.receive result
  | .attempted attempt, .send frame rest recorded site => s.send frame rest recorded site attempt
  | .joined decoderResult, .join result => s.joinTrack result decoderResult
  | .joined decoderResult, .abandon error => s.abandon error decoderResult
  | .reserved result, .reserve boundary => s.reserve boundary result
  | _, _ => (s, .silent)

end PlaylistSession

/-- Start a playlist on an open decoder, with or without reserved boundaries. -/
def spawnPlaylist (decoder : StreamingDecodeHandle) (currentEntryId currentDisplayName : String)
    (upcoming : List StreamingPlaylistTrackFactory) (sessionId : SessionId)
    (streamId : StreamId) (hostStartTimeMs : MonotonicMillis) (config : StreamingPacketizeConfig)
    (reserved : Bool) : Except PacketizerWorkerError (StreamStart × PlaylistSession) := do
  config.validate
  validateTrackIdentity currentEntryId currentDisplayName
  validatePlaylistEntries (some currentEntryId) upcoming
  let packetizer ← (Packetizer.new sessionId streamId decoder.format config.packetDurationMs
    hostStartTimeMs).mapError .ofPacketizer
  let streamStart :=
    { packetizer.streamStart with
      currentEntryId := some currentEntryId
      currentDisplayName := some currentDisplayName }
  return (streamStart,
    { updates :=
        { currentEntryId
          retiredEntryIds := []
          reservationShadowEntryId := none
          pending := none
          terminal := false }
      worker :=
        { decoder, currentDisplayName, upcoming, packetizer
          next := none
          finalTrack := false
          hadSuccessor := false
          boundary := none
          backpressureEvents := 0
          emittedPackets := 0
          phase := .start }
      cancelled := false
      reserved })

/-- The playlist worker and its updater. -/
def playlist : Machine PlaylistSession PlaylistEvent PlaylistOutput where
  init s := ∃ decoder currentEntryId currentDisplayName upcoming sessionId streamId
    hostStartTimeMs config reserved streamStart,
    spawnPlaylist decoder currentEntryId currentDisplayName upcoming sessionId streamId
      hostStartTimeMs config reserved = .ok (streamStart, s)
  step := PlaylistSession.step

end SilentDisco
