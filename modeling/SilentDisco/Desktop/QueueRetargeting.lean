import Mathlib.Logic.Function.Basic
import SilentDisco.Audio.PlaylistUpdates
import SilentDisco.Runtime.Actor.Process

/-!
# Edits of the queue during playback

A desktop command that edits the queue submits the edit to the actor, waits until a snapshot shows
another revision of the queue, and gives the entries after the current one to the packetizer of the
active stream. Commands run on their own threads, so the steps of several commands, of the actor and
of the packetizer's worker come in any order. The actor may also take messages of others in between;
those that may edit the queue themselves are left out.

## Main definitions

* `QueueEditRequest`: the edits
* `trackFactory`: the track of an entry
* `QueueDesk.submit`, `observe`, `retarget`: the steps of a command
* `queueDesk`: the machine of all threads
-/

namespace SilentDisco

/-- The inputs that may edit the queue. -/
def CoreActorInput.editsQueue : CoreActorInput → Bool
  | .command _ request =>
    match request.command with
    | .appendHostQueue _ _ | .reorderHostQueue _ _ | .removeHostQueueEntry _ _
    | .clearHostQueue _ | .updateHostDraft _ => true
    | _ => false
  | .platform (.operationSucceeded _ .advertisingStopped) => true
  | .audio (.trackBoundaryApplied _ _) | .audio (.endOfStream _) => true
  | _ => false

namespace Desktop

/-! ## Commands -/

/-- An edit of the queue. -/
inductive QueueEditRequest
  | append (entries : List QueueEntry)
  | reorder (orderedEntryIds : List String)
  | remove (entryId : String)
  | clear
  deriving DecidableEq

def QueueEditRequest.command (expectedQueueRevision : UInt64) : QueueEditRequest → CoreCommand
  | .append entries => .appendHostQueue expectedQueueRevision entries
  | .reorder orderedEntryIds => .reorderHostQueue expectedQueueRevision orderedEntryIds
  | .remove entryId => .removeHostQueueEntry expectedQueueRevision entryId
  | .clear => .clearHostQueue expectedQueueRevision

/-- An edit with the revisions that it expects. -/
structure QueueEditCommand where
  operationId : OperationId
  expectedRevision : SnapshotRevision
  expectedQueueRevision : UInt64
  request : QueueEditRequest
  deriving DecidableEq

def QueueEditCommand.message (edit : QueueEditCommand) : ActorMessage :=
  .input (.command edit.operationId
    ⟨edit.expectedRevision, edit.request.command edit.expectedQueueRevision⟩)

inductive RetargetError
  /-- The actor did not take the command, or could not be asked for its snapshot. -/
  | actor
  | sourceUnavailable
  | invalidSource
  | queueUpdateFailed (message : String)
  deriving DecidableEq

/-- The staged sources: what opening the file of a source results in. -/
abbrev SourceRegistry := String → Option (Except DecodeError StreamingDecodeHandle)

/-- The track of an entry. A failure to open it names the entry. -/
def trackFactory (registry : SourceRegistry) (entry : QueueEntry) :
    Except RetargetError StreamingPlaylistTrackFactory :=
  match registry entry.source.sourceId with
  | none => .error .sourceUnavailable
  | some opened =>
    if h : validateTrackIdentity entry.entryId entry.source.displayName = .ok () then
      .ok
        { entryId := entry.entryId
          displayName := entry.source.displayName
          opened := opened.mapError fun error =>
            { error with message := entry.source.displayName ++ ": " ++ error.message }
          valid := h }
    else .error .invalidSource

/-- Where a command is. -/
inductive EditPhase
  | idle
  /-- The edit is submitted, for a revision of the queue. -/
  | waiting (previousRevision : UInt64)
  /-- A snapshot with another revision of the queue was read. -/
  | retargeting (queue : HostQueue)
  | returned (result : Except RetargetError Unit)
  deriving DecidableEq

/-! ## The desk -/

/-- A message that the actor has not processed, and the command that waits for it. -/
structure PendingInput where
  source : Option ℕ
  message : ActorMessage

structure QueueDesk where
  actor : ActorState
  inputs : List PendingInput := []
  /-- What the packetizer shares with its updater. -/
  updates : PlaylistUpdateState
  /-- The list of tracks that the packetizer has accepted last. -/
  accepted : List StreamingPlaylistTrackFactory
  commands : ℕ → EditPhase := fun _ => .idle

inductive DeskStep
  /-- A command submits its edit, which the actor may refuse to take. -/
  | submit (command : ℕ) (edit : QueueEditCommand) (taken : Bool)
  /-- A command looks at the snapshot, which may fail; the deadline may have passed. -/
  | observe (command : ℕ) (reads deadline : Bool)
  | retarget (command : ℕ) (registry : SourceRegistry)
  /-- The actor processes the next message. -/
  | process
  /-- Another message for the actor. -/
  | message (message : ActorMessage)
  /-- The worker of the packetizer holds the lock. -/
  | work (updates : PlaylistUpdateState)

namespace QueueDesk

variable (desk : QueueDesk)

def queue : HostQueue := desk.actor.snapshot.hostQueue

def setPhase (command : ℕ) (phase : EditPhase) : QueueDesk :=
  { desk with commands := Function.update desk.commands command phase }

def submit (command : ℕ) (edit : QueueEditCommand) (taken : Bool) : QueueDesk :=
  match desk.commands command, taken with
  | .idle, true =>
    { desk.setPhase command (.waiting edit.expectedQueueRevision) with
      inputs := desk.inputs ++ [⟨some command, edit.message⟩] }
  | .idle, false => desk.setPhase command (.returned (.error .actor))
  | _, _ => desk

/-- One round of `wait_for_queue_revision_change`. A command whose time is over leaves the
packetizer alone. -/
def observe (command : ℕ) (reads deadline : Bool) : QueueDesk :=
  match desk.commands command with
  | .waiting previousRevision =>
    if reads = false then desk.setPhase command (.returned (.error .actor))
    else if desk.queue.revision ≠ previousRevision then
      desk.setPhase command (.retargeting desk.queue)
    else if deadline then desk.setPhase command (.returned (.ok ()))
    else desk
  | _ => desk

/-- Give the tracks after the current one to the packetizer. -/
def replaceUpcoming (tracks : List StreamingPlaylistTrackFactory) (command : ℕ) : QueueDesk :=
  match desk.updates.replaceUpcoming tracks with
  | (.ok (), updates) =>
    { desk.setPhase command (.returned (.ok ())) with updates, accepted := tracks }
  | (.error error, _) =>
    desk.setPhase command (.returned (.error (.queueUpdateFailed error.message)))

/-- `retarget_active_host_queue` with the snapshot that was read. -/
def retarget (command : ℕ) (registry : SourceRegistry) : QueueDesk :=
  match desk.commands command with
  | .retargeting queue =>
    match queue.upcoming.mapM (trackFactory registry) with
    | .ok tracks => desk.replaceUpcoming tracks command
    | .error error => desk.setPhase command (.returned (.error error))
  | _ => desk

def process : QueueDesk :=
  match desk.inputs with
  | [] => desk
  | input :: inputs => { desk with actor := (desk.actor.receive input.message).1, inputs }

def step : DeskStep → QueueDesk
  | .submit command edit taken => desk.submit command edit taken
  | .observe command reads deadline => desk.observe command reads deadline
  | .retarget command registry => desk.retarget command registry
  | .process => desk.process
  | .message message =>
    if message.asInput.editsQueue then desk
    else { desk with inputs := desk.inputs ++ [⟨none, message⟩] }
  | .work updates => { desk with updates }

end QueueDesk

/-- The tracks are those of the entries after the current one. -/
def FollowsQueue (tracks : List StreamingPlaylistTrackFactory) (queue : HostQueue) : Prop :=
  tracks.map (·.identity) =
    queue.upcoming.map fun entry => (entry.entryId, entry.source.displayName)

instance (tracks : List StreamingPlaylistTrackFactory) (queue : HostQueue) :
    Decidable (FollowsQueue tracks queue) := inferInstanceAs (Decidable (_ = _))

/-- Commands that start while the packetizer has the tracks of the queue. -/
def queueDesk : Machine QueueDesk DeskStep Unit where
  init desk := desk.inputs = [] ∧ (∀ command, desk.commands command = .idle) ∧
    FollowsQueue desk.accepted desk.queue
  step desk x := (desk.step x, ())

end Desktop

end SilentDisco
