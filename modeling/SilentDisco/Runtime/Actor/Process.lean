import SilentDisco.Library.Runs
import SilentDisco.Runtime.Actor.Commands
import SilentDisco.Runtime.Actor.Audio
import SilentDisco.Runtime.Actor.Events

/-!
# The serialized actor

Dispatch of the inputs to their handlers, the commit of what a handler did, and the actor as a
state machine.

## Main definitions

* `ActorState.apply`: the handler of an input
* `ActorState.commit`: the new revision, the check of the snapshot and its publication
* `ActorState.process`, `ActorState.reserveTrackBoundary`: one message
* `actor`: the machine of all messages

## Main results

* `receive_cases`: a message is refused, or its handler's candidate is committed
-/

namespace SilentDisco

open Result

structure ProcessResult where
  notifications : List CoreNotification := []
  stopRequested : Bool := false

/-- Why a candidate is not committed. -/
inductive CommitFailure
  | revisionOverflow
  | invalidSnapshot (error : RuntimeContractError)
  deriving DecidableEq

def CommitFailure.coreError : CommitFailure → CoreError
  | .revisionOverflow => resourceLimit "snapshot revision overflow" none
  | .invalidSnapshot error => invalidArgument error.message none

/-- What the actor's queue holds: an input, or the reservation of a track boundary. -/
inductive ActorMessage
  | input (input : CoreActorInput)
  | reserveBoundary (streamId : StreamId) (entryId : String) (firstSampleIndex : UInt64)

/-- The input whose handler a message runs. -/
def ActorMessage.asInput : ActorMessage → CoreActorInput
  | .input given => given
  | .reserveBoundary _ entryId firstSampleIndex =>
    .audio (.trackBoundaryScheduled entryId firstSampleIndex)

theorem ActorMessage.eq_of_asInput {message : ActorMessage} {input : CoreActorInput}
    (h : message.asInput = input) (hnot : ∀ event, input ≠ .audio event) :
    message = .input input := by
  cases message with
  | input => exact congrArg _ h
  | reserveBoundary => exact absurd h.symm (hnot _)

/-- The notifications of a message, and the reply to a reservation. -/
structure ActorOutput extends ProcessResult where
  reply : Option (Except CoreError Unit) := none

namespace ActorState

variable (s : ActorState)

def applyCommand (operationId : OperationId) : CoreCommand → Applied
  | .selectRole role => s.selectRole operationId role
  | .updateHostDraft patch => s.updateHostDraft operationId patch
  | .appendHostQueue expectedQueueRevision entries =>
    s.appendHostQueue operationId expectedQueueRevision entries
  | .reorderHostQueue expectedQueueRevision orderedEntryIds =>
    s.reorderHostQueue operationId expectedQueueRevision orderedEntryIds
  | .removeHostQueueEntry expectedQueueRevision entryId =>
    s.removeHostQueueEntry operationId expectedQueueRevision entryId
  | .clearHostQueue expectedQueueRevision => s.clearHostQueue operationId expectedQueueRevision
  | .createHostSession => s.createHostSession operationId
  | .endHostSession => s.endHostSession operationId
  | .startDiscovery => s.startDiscovery operationId
  | .stopDiscovery => s.stopDiscovery operationId
  | .selectSession sessionId => s.selectSession operationId sessionId
  | .submitJoin _ => s.submitJoin operationId
  | .cancelJoin => s.cancelJoin operationId
  | .exportDiagnostics => s.exportDiagnostics
  | .retryRecoverableFailure => s.retryRecoverable operationId
  | .updateTuning patch => s.updateTuning operationId patch
  | .shutdown =>
    .ok ({ s with snapshot.shuttingDown := true }, { changed := true, stopRequested := true })
  | .approveJoin requestId rememberForFuture =>
    s.approveJoin operationId requestId rememberForFuture
  | .rejectJoin requestId => s.rejectJoin operationId requestId
  | .removeListener listenerId => s.removeListener operationId listenerId
  | .startPlayback _ | .pausePlayback | .resumePlayback | .stopPlayback | .setLocalVolume _
  | .requestResync =>
    .error (invalidState "playback requires the shared packetizer and scheduler blocks"
      (some operationId))

/-- A command is made on the current revision, except the one that ends the session. -/
def checkRevision (operationId : OperationId) (request : CoreCommandRequest) :
    Except CoreError Unit :=
  rejectIf (request.expectedRevision ≠ s.snapshot.revision ∧ request.command ≠ .endHostSession)
    (invalidState ("command expected snapshot revision " ++
      request.expectedRevision.get.toNat.repr ++ ", but current revision is " ++
      s.snapshot.revision.get.toNat.repr) (some operationId))

/-- The completion of a trust write, or a report that looks like one. -/
def isAdmissionCompletion (event : StorageEvent) : Bool :=
  match s.pendingStorageOperation event.operationId, event with
  | some (.persistApprovalTrust _), _ => true
  | _, .operationSucceeded _ (.trustedDeviceUpdated _) => true
  | _, _ => false

/-- Storage completions are routed by the operation they complete. -/
def routeStorage (event : StorageEvent) : Applied :=
  if ∃ op ∈ s.pendingStorageOperation event.operationId, op.isTuning = true then
    s.applyTuningStorage event
  else if s.isAdmissionCompletion event then s.applyAdmissionStorage event
  else s.applyStorage event

def apply : CoreActorInput → Applied
  | .command operationId request => do
    s.checkRevision operationId request
    s.applyCommand operationId request.command
  | .platform event => s.applyPlatform event
  | .transport event => s.applyTransport event
  | .audio event => s.applyAudioControl event
  | .storage event => s.routeStorage event

/-- A changed snapshot gets the next revision, is checked, and is published first. -/
def commit (candidate : ActorState) (outcome : ApplyOutcome) :
    Except CommitFailure (ActorState × ProcessResult) :=
  if outcome.changed then do
    let revision ← candidate.snapshot.revision.checkedNext.mapError fun _ =>
      CommitFailure.revisionOverflow
    let candidate : ActorState := { candidate with snapshot.revision := revision }
    candidate.snapshot.validate.mapError CommitFailure.invalidSnapshot
    return (candidate,
      { notifications := .snapshot candidate.snapshot :: outcome.notifications
        stopRequested := outcome.stopRequested })
  else
    .ok (candidate,
      { notifications := outcome.notifications, stopRequested := outcome.stopRequested })

/-- The state is replaced only by a committed candidate; otherwise the error is reported. -/
def process (input : CoreActorInput) : ActorState × ProcessResult :=
  match s.apply input with
  | .error error => (s, { notifications := [.error error] })
  | .ok (candidate, outcome) =>
    match candidate.commit outcome with
    | .ok committed => committed
    | .error .revisionOverflow =>
      (s,
        { notifications := [.error (resourceLimit "snapshot revision overflow" input.operationId)]
          stopRequested := true })
    | .error (.invalidSnapshot error) =>
      (s, { notifications := [.error (invalidArgument error.message input.operationId)] })

/-- Apply a reservation for the active stream. -/
def applyReservation (streamId : StreamId) (entryId : String)
    (firstSampleIndex : UInt64) : Applied := do
  check (s.activeAudioStreamId = some streamId)
    (invalidState "track boundary reservation does not match the active stream" none)
  s.applyAudioControl (.trackBoundaryScheduled entryId firstSampleIndex)

def reserveTrackBoundary (streamId : StreamId) (entryId : String)
    (firstSampleIndex : UInt64) : Except CoreError (ActorState × ProcessResult) := do
  let (candidate, outcome) ← s.applyReservation streamId entryId firstSampleIndex
  (candidate.commit outcome).mapError CommitFailure.coreError

/-- One message of the queue. A refused reservation is only reported to its caller. -/
def receive : ActorMessage → ActorState × ActorOutput
  | .input input => ((s.process input).1, { toProcessResult := (s.process input).2 })
  | .reserveBoundary streamId entryId firstSampleIndex =>
    match s.reserveTrackBoundary streamId entryId firstSampleIndex with
    | .ok (s', result) => (s', { toProcessResult := result, reply := some (.ok ()) })
    | .error error => (s, { reply := some (.error error) })

/-- The handler of a message. -/
def handle : ActorMessage → Applied
  | .input input => s.apply input
  | .reserveBoundary streamId entryId firstSampleIndex =>
    s.applyReservation streamId entryId firstSampleIndex

end ActorState

/-- The authoritative actor: it starts empty and takes one message at a time. -/
def actor : Machine ActorState ActorMessage ActorOutput where
  init s := ∃ localDeviceId sessionIdNamespace, s = .new localDeviceId sessionIdNamespace
  step s message := s.receive message

namespace ActorState

/-! ## Commits -/

variable {s s' candidate : ActorState} {outcome : ApplyOutcome} {result : ProcessResult}
  {message : ActorMessage}

/-- A handled message is a handled input. -/
theorem apply_of_handle (h : s.handle message = .ok (s', outcome)) :
    s.apply message.asInput = .ok (s', outcome) := by
  cases message with
  | input => exact h
  | reserveBoundary =>
    obtain ⟨⟨⟩, -, hschedule⟩ := bind_eq_ok.mp h
    exact hschedule

/-- The candidate as it is committed: a changed one gets the next revision. -/
def published (candidate : ActorState) (outcome : ApplyOutcome) : ActorState :=
  if outcome.changed then
    { candidate with snapshot.revision := ⟨candidate.snapshot.revision.get + 1⟩ }
  else candidate

/-- The notifications of a committed candidate. -/
def publication (candidate : ActorState) (outcome : ApplyOutcome) : List CoreNotification :=
  if outcome.changed then
    .snapshot (candidate.published outcome).snapshot :: outcome.notifications
  else outcome.notifications

/-- A changed candidate needs a next revision and a valid snapshot. -/
def Committable (candidate : ActorState) (outcome : ApplyOutcome) : Prop :=
  outcome.changed = true →
    candidate.snapshot.revision.get.toNat + 1 < 2 ^ 64 ∧ candidate.snapshot.Valid

theorem valid_revision {snapshot : CoreSnapshot} (revision : SnapshotRevision) :
    CoreSnapshot.Valid { snapshot with revision } ↔ snapshot.Valid := by
  simp only [CoreSnapshot.valid_iff]

theorem checkedNext_eq_ok {revision next : SnapshotRevision} :
    revision.checkedNext = .ok next ↔
      revision.get.toNat + 1 < 2 ^ 64 ∧ next = ⟨revision.get + 1⟩ := by
  unfold SnapshotRevision.checkedNext
  split_ifs with h
  · simp only [Except.ok.injEq, h, true_and]
    exact eq_comm
  · simp only [h, false_and]

theorem commit_eq_ok :
    candidate.commit outcome = .ok (s', result) ↔
      candidate.Committable outcome ∧ s' = candidate.published outcome ∧
        result = ⟨candidate.publication outcome, outcome.stopRequested⟩ := by
  unfold commit Committable publication published
  by_cases hchanged : outcome.changed = true
  · simp only [hchanged, if_true, bind_eq_ok, mapError_eq_ok, checkedNext_eq_ok,
      CoreSnapshot.validate_eq_ok, Unique.exists_iff, pure, Except.pure, Except.ok.injEq,
      Prod.mk.injEq, true_implies]
    constructor
    · rintro ⟨_, ⟨hnext, rfl⟩, hvalid, rfl, rfl⟩
      exact ⟨⟨hnext, (valid_revision _).mp hvalid⟩, rfl, rfl⟩
    · rintro ⟨⟨hnext, hvalid⟩, rfl, rfl⟩
      exact ⟨_, ⟨hnext, rfl⟩, (valid_revision _).mpr hvalid, rfl, rfl⟩
  · simp only [hchanged, Bool.false_eq_true, if_false, Except.ok.injEq, Prod.mk.injEq,
      false_implies, true_and]
    exact and_congr eq_comm eq_comm

/-- A candidate that can be committed replaces the state. -/
theorem receive_of_committable (hhandle : s.handle message = .ok (candidate, outcome))
    (hcommit : candidate.Committable outcome) :
    (s.receive message).1 = candidate.published outcome ∧
      (s.receive message).2.notifications = candidate.publication outcome := by
  have hok := commit_eq_ok.mpr ⟨hcommit, rfl, rfl⟩
  cases message with
  | input input =>
    have happly : s.apply input = .ok (candidate, outcome) := hhandle
    simp only [receive, process, happly, hok, and_self]
  | reserveBoundary streamId entryId firstSampleIndex =>
    have hreserve : s.reserveTrackBoundary streamId entryId firstSampleIndex =
        .ok (candidate.published outcome, _) :=
      bind_eq_ok.mpr ⟨_, hhandle, mapError_eq_ok.mpr hok⟩
    simp only [receive, hreserve, and_self]

/-- The candidate of the message cannot be committed, or there is none. -/
def Refused (s : ActorState) (message : ActorMessage) : Prop :=
  ∀ candidate outcome, s.handle message = .ok (candidate, outcome) →
    ¬candidate.Committable outcome

theorem not_refused : ¬s.Refused message ↔
    ∃ candidate outcome, s.handle message = .ok (candidate, outcome) ∧
      candidate.Committable outcome := by
  simp only [Refused, not_forall, not_not, exists_prop]

theorem Refused.commit (h : s.Refused message)
    (hhandle : s.handle message = .ok (candidate, outcome))
    (committed : ActorState × ProcessResult) : candidate.commit outcome ≠ .ok committed :=
  fun hok => h candidate outcome hhandle (commit_eq_ok.mp hok).1

theorem process_refused {input : CoreActorInput} (h : s.Refused (.input input)) :
    ∃ error stop, s.process input = (s, ⟨[.error error], stop⟩) := by
  unfold process
  split
  · exact ⟨_, _, rfl⟩
  · next candidate outcome happly =>
    split
    · next committed hok => exact absurd hok (h.commit happly _)
    · exact ⟨_, _, rfl⟩
    · exact ⟨_, _, rfl⟩

theorem reserveTrackBoundary_refused {streamId : StreamId} {entryId : String} {index : UInt64}
    (h : s.Refused (.reserveBoundary streamId entryId index)) :
    ∃ error, s.reserveTrackBoundary streamId entryId index = .error error := by
  cases hreserve : s.reserveTrackBoundary streamId entryId index with
  | error error => exact ⟨error, rfl⟩
  | ok =>
    obtain ⟨⟨candidate, outcome⟩, hhandle, hcommit⟩ := bind_eq_ok.mp hreserve
    exact absurd (mapError_eq_ok.mp hcommit) (h.commit hhandle _)

/-- A refused message leaves the state alone, and only errors are reported. -/
theorem receive_of_refused (h : s.Refused message) :
    (s.receive message).1 = s ∧
      ∀ notification ∈ (s.receive message).2.notifications, ∃ e, notification = .error e := by
  cases message with
  | input =>
    obtain ⟨error, stop, hprocess⟩ := process_refused h
    simp [receive, hprocess]
  | reserveBoundary =>
    obtain ⟨error, hreserve⟩ := reserveTrackBoundary_refused h
    simp [receive, hreserve]

/-- A message is refused, or its handler's candidate is committed. -/
theorem receive_cases (s : ActorState) (message : ActorMessage) :
    ((s.receive message).1 = s ∧
      ∀ notification ∈ (s.receive message).2.notifications, ∃ e, notification = .error e) ∨
    ∃ candidate outcome, s.handle message = .ok (candidate, outcome) ∧
      candidate.Committable outcome ∧
      (s.receive message).1 = candidate.published outcome ∧
      (s.receive message).2.notifications = candidate.publication outcome := by
  by_cases h : s.Refused message
  · exact .inl (receive_of_refused h)
  · obtain ⟨candidate, outcome, hhandle, hcommit⟩ := not_refused.mp h
    exact .inr ⟨candidate, outcome, hhandle, hcommit, receive_of_committable hhandle hcommit⟩

end ActorState

end SilentDisco
