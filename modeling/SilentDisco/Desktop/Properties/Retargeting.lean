import SilentDisco.Desktop.QueueRetargeting
import SilentDisco.Runtime.Properties.Locking

/-!
# Retargeting keeps up with the queue

An edit that the actor accepts makes its command owe the packetizer a list: the command sees
another revision than the one it expected, as its edit was accepted at that revision. When the
snapshot that a command has read is still the actor's queue at the moment it retargets, the last
list that the packetizer accepted is that of the actor's queue whenever no command owes one. A
command that retargets with an older snapshot takes the packetizer back behind another command.

## Main definitions

* `QueueDesk.KeepsUp`: no retargeting with an older snapshot
* `QueueDesk.Owes`: a command is to retarget the packetizer

## Main results

* `retargeting_keeps_up`: when all commands have returned, the packetizer has the actor's queue
-/

namespace SilentDisco

/-! ## Messages and the queue -/

/-- The revision of the queue that an edit expects. -/
def CoreCommand.expectedQueueRevision : CoreCommand → Option UInt64
  | .appendHostQueue expected _ | .reorderHostQueue expected _ | .removeHostQueueEntry expected _
  | .clearHostQueue expected => some expected
  | _ => none

theorem Desktop.QueueEditRequest.expectedQueueRevision_command (expected : UInt64)
    (request : QueueEditRequest) :
    (request.command expected).expectedQueueRevision = some expected := by
  cases request <;> rfl

theorem QueueEdit.performs {s : ActorState} {command : CoreCommand} {queue : HostQueue}
    (h : QueueEdit s command queue) :
    ∃ operation, s.snapshot.hostQueue.perform operation = .ok queue ∧
      command.expectedQueueRevision = some operation.expectedRevision := by
  cases h with
  | appended expected entries queue hqueue => exact ⟨.append expected entries, hqueue, rfl⟩
  | reordered expected ids queue hqueue =>
    exact ⟨.reorder expected ids s.currentLocked, hqueue, rfl⟩
  | removed expected entryId queue hqueue =>
    exact ⟨.remove expected entryId s.currentLocked, hqueue, rfl⟩

/-- A command that expects a revision of the queue keeps the queue, or performs an operation at
that revision. -/
theorem DeckStep.performs {s : ActorState} {operationId : OperationId}
    {request : CoreCommandRequest} {d : Deck} {expected : UInt64}
    (h : DeckStep s (.command operationId request) d)
    (hexpected : request.command.expectedQueueRevision = some expected) :
    d.queue = s.snapshot.hostQueue ∨
      ∃ operation, s.snapshot.hostQueue.perform operation = .ok d.queue ∧
        operation.expectedRevision = expected := by
  cases h with
  | kept => exact .inl rfl
  | edited _ _ _ _ hedit =>
    obtain ⟨operation, hperform, hcommand⟩ := hedit.performs
    refine .inr ⟨operation, ?_, Option.some.inj (hcommand.symm.trans hexpected)⟩
    rw [Deck.queue_dropStale]
    exact hperform
  | cleared _ _ expected _ _ hqueue =>
    exact .inr ⟨.clear expected s.currentLocked, hqueue, Option.some.inj hexpected⟩
  | redrafted => cases hexpected

namespace ActorState

/-- A message that is no edit keeps the queue. -/
theorem queue_receive_of_not_editsQueue (s : ActorState) {message : ActorMessage}
    (h : message.asInput.editsQueue = false) :
    (s.receive message).1.snapshot.hostQueue = s.snapshot.hostQueue := by
  rcases s.receive_deck message with hsame | ⟨d, revision, hstep, hdeck⟩
  · exact congrArg (fun s' => s'.snapshot.hostQueue) hsame
  · have hqueue : (s.receive message).1.snapshot.hostQueue = d.queue := congrArg Deck.queue hdeck
    rw [hqueue]
    generalize message.asInput = input at hstep h
    cases hstep with
    | kept => rfl
    | edited _ _ _ _ hedit => cases hedit <;> cases h
    | cleared | redrafted | sessionReset => cases h
    | networkReleased | sessionEnded => rfl
    | played event d hplays =>
      refine hplays.queue_eq ?_
      cases event <;> first | rfl | cases h

/-- An edit is made at the revision that it expects, and leads to a later one. -/
theorem queue_receive_edit (s : ActorState) (edit : Desktop.QueueEditCommand) :
    (s.receive edit.message).1.snapshot.hostQueue = s.snapshot.hostQueue ∨
      edit.expectedQueueRevision = s.snapshot.hostQueue.revision ∧
        s.snapshot.hostQueue.revision < (s.receive edit.message).1.snapshot.hostQueue.revision := by
  rcases s.receive_deck edit.message with hsame | ⟨d, revision, hstep, hdeck⟩
  · exact .inl (congrArg (fun s' => s'.snapshot.hostQueue) hsame)
  · have hqueue : (s.receive edit.message).1.snapshot.hostQueue = d.queue :=
      congrArg Deck.queue hdeck
    rw [hqueue]
    rcases hstep.performs (edit.request.expectedQueueRevision_command edit.expectedQueueRevision)
      with hsame | ⟨operation, hperform, hexpected⟩
    · exact .inl hsame
    · obtain ⟨hrevision, hcases⟩ := HostQueue.perform_revision hperform
      exact hcases.imp id fun hlt => ⟨hexpected.symm.trans hrevision, hlt⟩

end ActorState

namespace Desktop

/-! ## Tracks of a queue -/

theorem identity_of_trackFactory {registry : SourceRegistry} {entry : QueueEntry}
    {track : StreamingPlaylistTrackFactory} (h : trackFactory registry entry = .ok track) :
    track.identity = (entry.entryId, entry.source.displayName) := by
  unfold trackFactory at h
  split at h
  · cases h
  · split_ifs at h
    cases h
    rfl

theorem followsQueue_of_mapM {registry : SourceRegistry} {queue : HostQueue}
    {tracks : List StreamingPlaylistTrackFactory}
    (h : queue.upcoming.mapM (trackFactory registry) = .ok tracks) : FollowsQueue tracks queue := by
  unfold FollowsQueue
  generalize queue.upcoming = entries at h
  induction entries generalizing tracks with
  | nil =>
    cases h
    rfl
  | cons entry entries ih =>
    rw [List.mapM_cons] at h
    obtain ⟨track, htrack, h⟩ := Result.bind_eq_ok.mp h
    obtain ⟨rest, hrest, h⟩ := Result.bind_eq_ok.mp h
    cases h
    rw [List.map_cons, List.map_cons, identity_of_trackFactory htrack, ih hrest]

namespace QueueDesk

variable {desk : QueueDesk}

/-- The steps of commands that keep up with the queue. A command expects a revision that the queue
has had, it does not give up while its edit is pending, and it retargets with the actor's queue. -/
def KeepsUp (desk : QueueDesk) : DeskStep → Prop
  | .submit _ edit _ => edit.expectedQueueRevision ≤ desk.queue.revision
  | .observe command _ deadline =>
    deadline = true → ∀ input ∈ desk.inputs, input.source ≠ some command
  | .retarget command _ => ∀ queue, desk.commands command = .retargeting queue → queue = desk.queue
  | _ => True

/-- A command that will retarget the packetizer, or has failed. -/
def Owes (desk : QueueDesk) : EditPhase → Prop
  | .waiting previousRevision => previousRevision < desk.queue.revision
  | .retargeting _ => True
  | .returned (.error _) => True
  | _ => False

/-- A command has failed. -/
def Failed (desk : QueueDesk) (command : ℕ) : Prop :=
  ∃ error, desk.commands command = .returned (.error error)

/-- A pending edit has a command that waits for it or has failed, or it comes too late. -/
def Awaits (desk : QueueDesk) (command : ℕ) (expected : UInt64) : Prop :=
  desk.commands command = .waiting expected ∨ expected < desk.queue.revision ∨ desk.Failed command

/-- A message that waits for the actor: the edit of a command, or one that keeps the queue. -/
def Expected (desk : QueueDesk) (input : PendingInput) : Prop :=
  (∃ (command : ℕ) (edit : QueueEditCommand), input.source = some command ∧
    input.message = edit.message ∧ desk.Awaits command edit.expectedQueueRevision) ∨
  input.source = none ∧ input.message.asInput.editsQueue = false

/-- The packetizer has the queue of the actor, unless a command owes it. -/
structure Follows (desk : QueueDesk) : Prop where
  waiting : ∀ command previousRevision, desk.commands command = .waiting previousRevision →
    previousRevision ≤ desk.queue.revision
  inputs : ∀ input ∈ desk.inputs, desk.Expected input
  accepted : FollowsQueue desk.accepted desk.queue ∨ ∃ command, desk.Owes (desk.commands command)

theorem commands_setPhase (desk : QueueDesk) (command other : ℕ) (phase : EditPhase) :
    (desk.setPhase command phase).commands other =
      if other = command then phase else desk.commands other := by
  unfold setPhase
  exact Function.update_apply _ _ _ _

/-- A command may go on: its edit comes too late or is not pending any more, or it fails. -/
def MayAdvance (desk : QueueDesk) (command : ℕ) (phase : EditPhase) : Prop :=
  (∀ e, phase ≠ .waiting e) ∧ ¬desk.Failed command ∧
    ((∃ error, phase = .returned (.error error)) ∨
      ∀ e, desk.commands command = .waiting e → e < desk.queue.revision ∨
        ∀ input ∈ desk.inputs, input.source ≠ some command)

theorem Awaits.setPhase {command other : ℕ} {expected : UInt64} {phase : EditPhase}
    (h : desk.Awaits other expected) (hmay : desk.MayAdvance command phase)
    {input : PendingInput} (hinput : input ∈ desk.inputs) (hsource : input.source = some other) :
    (desk.setPhase command phase).Awaits other expected := by
  obtain ⟨-, hnot, hgone⟩ := hmay
  unfold Awaits Failed
  rw [commands_setPhase]
  split_ifs with hother
  · subst hother
    rcases h with hwaiting | hlate | hfailed
    · rcases hgone with hfails | hgone
      · exact .inr (.inr hfails)
      · rcases hgone expected hwaiting with hlate | hnone
        · exact .inr (.inl hlate)
        · exact absurd hsource (hnone input hinput)
    · exact .inr (.inl hlate)
    · exact absurd hfailed hnot
  · exact h

namespace Follows

variable (h : desk.Follows)
include h

/-- A command goes on. What it owes is given to the packetizer, or is still owed. -/
theorem advance {command : ℕ} {phase : EditPhase} {updates : PlaylistUpdateState}
    {accepted : List StreamingPlaylistTrackFactory} (hmay : desk.MayAdvance command phase)
    (haccepted : FollowsQueue accepted desk.queue ∨ accepted = desk.accepted ∧
      (desk.Owes (desk.commands command) → desk.Owes phase)) :
    Follows { desk.setPhase command phase with updates, accepted } := by
  refine ⟨fun other e hother => ?_, fun input hinput => ?_, ?_⟩
  · change (desk.setPhase command phase).commands other = .waiting e at hother
    rw [commands_setPhase] at hother
    split_ifs at hother
    · exact absurd hother (hmay.1 e)
    · exact h.waiting other e hother
  · rcases h.inputs input hinput with ⟨other, edit, hsource, hmessage, hawaits⟩ | hkeeps
    · exact .inl ⟨other, edit, hsource, hmessage, hawaits.setPhase hmay hinput hsource⟩
    · exact .inr hkeeps
  · rcases haccepted with hfollows | ⟨rfl, howes⟩
    · exact .inl hfollows
    · refine h.accepted.imp id fun ⟨other, hother⟩ => ⟨other, ?_⟩
      change desk.Owes ((desk.setPhase command phase).commands other)
      rw [commands_setPhase]
      split_ifs with heq
      · rw [heq] at hother
        exact howes hother
      · exact hother

theorem setPhase {command : ℕ} {phase : EditPhase}
    (hmay : desk.MayAdvance command phase)
    (howes : desk.Owes (desk.commands command) → desk.Owes phase) :
    (desk.setPhase command phase).Follows :=
  h.advance hmay (.inr ⟨rfl, howes⟩)

theorem submit (command : ℕ) (edit : QueueEditCommand) (taken : Bool)
    (hexpected : edit.expectedQueueRevision ≤ desk.queue.revision) :
    (desk.submit command edit taken).Follows := by
  unfold QueueDesk.submit
  split
  · next hidle =>
    have hnot : ¬desk.Failed command := by
      rintro ⟨error, herror⟩
      rw [hidle] at herror
      cases herror
    refine ⟨fun other e hother => ?_, fun input hinput => ?_, ?_⟩
    · change (desk.setPhase command _).commands other = .waiting e at hother
      rw [commands_setPhase] at hother
      split_ifs at hother
      · cases hother
        exact hexpected
      · exact h.waiting other e hother
    · rcases List.mem_append.mp hinput with hold | hnew
      · rcases h.inputs input hold with ⟨other, edit', hsource, hmessage, hawaits⟩ | hkeeps
        · refine .inl ⟨other, edit', hsource, hmessage, ?_⟩
          change (desk.setPhase command _).Awaits other _
          by_cases hother : other = command
          · -- An earlier edit of an idle command comes too late.
            subst hother
            rcases hawaits with hwaiting | hlate | hfailed
            · rw [hidle] at hwaiting
              cases hwaiting
            · exact .inr (.inl hlate)
            · exact absurd hfailed hnot
          · unfold Awaits Failed
            rw [commands_setPhase, if_neg hother]
            exact hawaits
        · exact .inr hkeeps
      · rw [List.mem_singleton] at hnew
        subst hnew
        refine .inl ⟨command, edit, rfl, rfl, .inl ?_⟩
        change (desk.setPhase command _).commands command = _
        rw [commands_setPhase, if_pos rfl]
    · refine h.accepted.imp id fun ⟨other, hother⟩ => ⟨other, ?_⟩
      change desk.Owes ((desk.setPhase command _).commands other)
      rw [commands_setPhase]
      split_ifs with heq
      · rw [heq, hidle] at hother
        exact hother.elim
      · exact hother
  · next hidle =>
    refine h.setPhase ⟨fun _ => EditPhase.noConfusion, ?_, .inl ⟨_, rfl⟩⟩ fun _ => trivial
    rintro ⟨error, herror⟩
    rw [hidle] at herror
    cases herror
  · exact h

theorem observe (command : ℕ) (reads deadline : Bool)
    (hdeadline : deadline = true → ∀ input ∈ desk.inputs, input.source ≠ some command) :
    (desk.observe command reads deadline).Follows := by
  unfold QueueDesk.observe
  split
  · next previousRevision hwaiting =>
    have hle := h.waiting command previousRevision hwaiting
    have hnot : ¬desk.Failed command := by
      rintro ⟨error, herror⟩
      rw [hwaiting] at herror
      cases herror
    split_ifs with hreads hchanged hover
    · exact h.setPhase ⟨fun _ => EditPhase.noConfusion, hnot, .inl ⟨_, rfl⟩⟩ fun _ => trivial
    · refine h.setPhase ⟨fun _ => EditPhase.noConfusion, hnot, .inr fun e he => .inl ?_⟩
        fun _ => trivial
      rw [hwaiting] at he
      cases he
      exact UInt64.lt_of_le_of_ne hle (Ne.symm hchanged)
    · refine h.setPhase ⟨fun _ => EditPhase.noConfusion, hnot,
        .inr fun e he => .inr (hdeadline hover)⟩ fun howes => ?_
      rw [hwaiting] at howes
      exact absurd (not_not.mp hchanged) (UInt64.ne_of_lt howes).symm
    · exact h
  · exact h

theorem retarget (command : ℕ) (registry : SourceRegistry)
    (hcurrent : ∀ queue, desk.commands command = .retargeting queue → queue = desk.queue) :
    (desk.retarget command registry).Follows := by
  unfold QueueDesk.retarget
  split
  · next queue hphase =>
    obtain rfl := hcurrent queue hphase
    have hnot : ¬desk.Failed command := by
      rintro ⟨error, herror⟩
      rw [hphase] at herror
      cases herror
    have hgone : ∀ e, desk.commands command = .waiting e → e < desk.queue.revision ∨
        ∀ input ∈ desk.inputs, input.source ≠ some command := by
      intro e he
      rw [hphase] at he
      cases he
    have hfailing : ∀ error, (desk.setPhase command (.returned (.error error))).Follows := fun _ =>
      h.setPhase ⟨fun _ => EditPhase.noConfusion, hnot, .inl ⟨_, rfl⟩⟩ fun _ => trivial
    split
    · next tracks htracks =>
      unfold QueueDesk.replaceUpcoming
      split
      · exact h.advance ⟨fun _ => EditPhase.noConfusion, hnot, .inr hgone⟩
          (.inl (followsQueue_of_mapM htracks))
      · exact hfailing _
    · exact hfailing _
  · exact h

/-- The actor goes on to a later revision of the queue, which some command owes unless it is the
same queue. -/
theorem setActor {actor : ActorState} {inputs : List PendingInput}
    (hinputs : ∀ input ∈ inputs, desk.Expected input)
    (hle : desk.queue.revision ≤ actor.snapshot.hostQueue.revision)
    (hqueue : actor.snapshot.hostQueue = desk.queue ∨
      ∃ command, Owes { desk with actor } (desk.commands command)) :
    Follows { desk with actor, inputs } := by
  refine ⟨fun command e hwaiting => ?_, fun input hinput => ?_, ?_⟩
  · exact UInt64.le_trans (h.waiting command e hwaiting) hle
  · rcases hinputs input hinput with ⟨command, edit, hsource, hmessage, hawaits⟩ | hkeeps
    · refine .inl ⟨command, edit, hsource, hmessage, ?_⟩
      rcases hawaits with hwaiting | hlate | hfailed
      · exact .inl hwaiting
      · exact .inr (.inl (UInt64.lt_of_lt_of_le hlate hle))
      · exact .inr (.inr hfailed)
    · exact .inr hkeeps
  · rcases hqueue with hsame | howes
    · rcases h.accepted with hfollows | ⟨command, howes⟩
      · left
        change FollowsQueue desk.accepted actor.snapshot.hostQueue
        rwa [hsame]
      · refine .inr ⟨command, ?_⟩
        change Owes { desk with actor, inputs } (desk.commands command)
        generalize desk.commands command = phase at howes
        cases phase with
        | waiting => exact UInt64.lt_of_lt_of_le howes hle
        | returned result => cases result <;> exact howes
        | _ => exact howes
    · exact .inr howes

/-- The actor keeps the queue, or accepts an edit whose command then owes the packetizer the new
queue. -/
theorem process : desk.process.Follows := by
  unfold QueueDesk.process
  split
  · exact h
  · next input inputs hinputs =>
    have hrest : ∀ other ∈ inputs, desk.Expected other := fun other hother =>
      h.inputs other (by rw [hinputs]; exact List.mem_cons_of_mem input hother)
    have hkeep : ∀ actor : ActorState, actor.snapshot.hostQueue = desk.queue →
        Follows { desk with actor, inputs } := fun actor hsame =>
      h.setActor hrest (hsame ▸ UInt64.le_refl _) (.inl hsame)
    rcases h.inputs input (by rw [hinputs]; exact List.mem_cons_self) with
      ⟨command, edit, -, hmessage, hawaits⟩ | ⟨-, hkeeps⟩
    · rw [hmessage]
      rcases desk.actor.queue_receive_edit edit with hsame | ⟨hexpected, hlt⟩
      · exact hkeep _ hsame
      · refine h.setActor hrest (UInt64.le_of_lt hlt) (.inr ⟨command, ?_⟩)
        -- The edit was accepted at the revision that its command expects.
        rcases hawaits with hwaiting | hlate | ⟨error, hfailed⟩
        · rw [hwaiting, hexpected]
          exact hlt
        · exact absurd (hexpected ▸ hlate) (UInt64.lt_irrefl _)
        · rw [hfailed]
          trivial
    · exact hkeep _ (desk.actor.queue_receive_of_not_editsQueue hkeeps)

/-- **One step** of any thread. -/
theorem step (x : DeskStep) (hx : desk.KeepsUp x) : (desk.step x).Follows := by
  cases x with
  | submit command edit taken => exact h.submit command edit taken hx
  | observe command reads deadline => exact h.observe command reads deadline hx
  | retarget command registry => exact h.retarget command registry hx
  | process => exact h.process
  | message =>
    unfold QueueDesk.step
    dsimp only
    split_ifs with hedits
    · exact h
    · refine ⟨h.waiting, fun input hinput => ?_, h.accepted⟩
      rcases List.mem_append.mp hinput with hold | hnew
      · exact h.inputs input hold
      · rw [List.mem_singleton.mp hnew]
        exact .inr ⟨rfl, Bool.of_not_eq_true hedits⟩
  | work => exact ⟨h.waiting, h.inputs, h.accepted⟩

end Follows

end QueueDesk

/-- **Retargeting keeps up with the queue**: when every command has returned without an error and
no message is pending, the last list that the packetizer accepted is that of the actor's queue. -/
theorem retargeting_keeps_up {desk : QueueDesk} {steps : List DeskStep}
    (hinit : queueDesk.init desk) (hkeeps : queueDesk.Along QueueDesk.KeepsUp desk steps)
    (hreturned : ∀ command, (queueDesk.after desk steps).commands command = .idle ∨
      (queueDesk.after desk steps).commands command = .returned (.ok ())) :
    FollowsQueue (queueDesk.after desk steps).accepted (queueDesk.after desk steps).queue := by
  obtain ⟨hinputs, hidle, hfollows⟩ := hinit
  have hstart : desk.Follows := by
    refine ⟨fun command e hwaiting => ?_, fun input hinput => ?_, .inl hfollows⟩
    · rw [hidle command] at hwaiting
      cases hwaiting
    · rw [hinputs] at hinput
      exact absurd hinput List.not_mem_nil
  have hrun := Machine.Along.invariant (M := queueDesk) (I := QueueDesk.Follows)
    (fun _ x h => h.step x) hstart hkeeps
  refine hrun.accepted.resolve_right fun ⟨command, howes⟩ => ?_
  rcases hreturned command with hphase | hphase
  · rw [hphase] at howes
    exact howes
  · rw [hphase] at howes
    exact howes

/-! ## Two commands -/

/-- The command that takes a step. -/
def DeskStep.command : DeskStep → Option ℕ
  | .submit command _ _ | .observe command _ _ | .retarget command _ => some command
  | _ => none

namespace QueueDesk

variable {desk : QueueDesk}

/-- A command stays where it is while others go on. -/
theorem commands_step {x : DeskStep} {command : ℕ} (h : x.command ≠ some command) :
    (desk.step x).commands command = desk.commands command := by
  have hset : ∀ {other : ℕ} (phase : EditPhase), some other ≠ some command →
      (desk.setPhase other phase).commands command = desk.commands command := by
    intro other phase hne
    rw [commands_setPhase, if_neg fun heq => hne (congrArg some heq.symm)]
  unfold step submit observe retarget replaceUpcoming process
  cases x <;> dsimp only <;> repeat' split
  -- only the phase of the step's own command is set
  all_goals first
    | exact hset _ h
    | rfl

theorem commands_after {steps : List DeskStep} {command : ℕ}
    (h : ∀ x ∈ steps, x.command ≠ some command) :
    (queueDesk.after desk steps).commands command = desk.commands command := by
  induction steps generalizing desk with
  | nil => rfl
  | cons x steps ih =>
    refine (ih fun y hy => h y (List.mem_cons_of_mem x hy)).trans ?_
    exact commands_step (h x List.mem_cons_self)

theorem keepsUp_submit {command : ℕ} {edit : QueueEditCommand} {taken : Bool}
    (h : edit.expectedQueueRevision ≤ desk.queue.revision) :
    desk.KeepsUp (.submit command edit taken) := h

/-- A command that has read the actor's queue. -/
theorem keepsUp_retarget {command : ℕ} {registry : SourceRegistry}
    (h : desk.commands command = .retargeting desk.queue) :
    desk.KeepsUp (.retarget command registry) := by
  intro queue hqueue
  rw [h] at hqueue
  exact (EditPhase.retargeting.inj hqueue).symm

end QueueDesk

namespace RetargetScenario

/-- Every source is staged, and opens. -/
def registry : SourceRegistry := fun _ => some (.ok ⟨.canonical⟩)

theorem valid_next : validateTrackIdentity "entry-2" "Next" = .ok () := by decide

theorem valid_add : validateIdentifier .operation "add-1" = .ok () := by decide

theorem valid_remove : validateIdentifier .operation "remove-1" = .ok () := by decide

/-- The host plays its first track, and the packetizer has the second one. -/
def desk : QueueDesk where
  actor := actor.after Scenario.device Scenario.playing
  updates := ⟨"source-1", [], none, none, false⟩
  accepted := [⟨"entry-2", "Next", .ok ⟨.canonical⟩, valid_next⟩]

/-- Songs are added. -/
def adding : QueueEditCommand :=
  ⟨⟨"add-1", valid_add⟩, ⟨6⟩, 2, .append [⟨"entry-3", ⟨"source-3", "Last", some 1000, none⟩⟩]⟩

/-- The second track is removed from the queue with the added songs. -/
def removing : QueueEditCommand := ⟨⟨"remove-1", valid_remove⟩, ⟨7⟩, 3, .remove "entry-2"⟩

/-- One command after the other. -/
def inTurn : List DeskStep :=
  [.submit 0 adding true, .process, .observe 0 true false, .retarget 0 registry,
    .submit 1 removing true, .process, .observe 1 true false, .retarget 1 registry]

/-- The first command has read the snapshot when the second one runs. -/
def overtaken : List DeskStep :=
  [.submit 0 adding true, .process, .observe 0 true false, .submit 1 removing true, .process,
    .observe 1 true false, .retarget 1 registry, .retarget 0 registry]

theorem init_desk : queueDesk.init desk := ⟨rfl, fun _ => rfl, by decide +kernel⟩

end RetargetScenario

open RetargetScenario in
theorem retargeting_keeps_up_in_turn :
    (queueDesk.after desk inTurn).queue.upcoming.map QueueEntry.entryId = ["entry-3"] ∧
      FollowsQueue (queueDesk.after desk inTurn).accepted (queueDesk.after desk inTurn).queue := by
  refine ⟨by decide +kernel, retargeting_keeps_up init_desk
    ⟨QueueDesk.keepsUp_submit (by decide +kernel), trivial,
      fun h => absurd h Bool.false_ne_true, QueueDesk.keepsUp_retarget (by decide +kernel),
      QueueDesk.keepsUp_submit (by decide +kernel), trivial,
      fun h => absurd h Bool.false_ne_true, QueueDesk.keepsUp_retarget (by decide +kernel),
      trivial⟩ ?_⟩
  intro command
  by_cases hzero : command = 0
  · subst hzero
    exact .inr (by decide +kernel)
  by_cases hone : command = 1
  · subst hone
    exact .inr (by decide +kernel)
  left
  refine QueueDesk.commands_after fun x hx => ?_
  simp only [inTurn, List.mem_cons, List.not_mem_nil, or_false] at hx
  rcases hx with rfl | rfl | rfl | rfl | rfl | rfl | rfl | rfl
  all_goals simp [DeskStep.command, Ne.symm hzero, Ne.symm hone]

open RetargetScenario in
/-- A command that retargets with an older snapshot takes the packetizer back. -/
theorem not_retargeting_keeps_up :
    queueDesk.init desk ∧ (queueDesk.after desk overtaken).inputs.length = 0 ∧
      (queueDesk.after desk overtaken).commands 0 = .returned (.ok ()) ∧
      (queueDesk.after desk overtaken).commands 1 = .returned (.ok ()) ∧
      (queueDesk.after desk overtaken).queue.upcoming.map QueueEntry.entryId = ["entry-3"] ∧
      (queueDesk.after desk overtaken).accepted.map (·.entryId) = ["entry-2", "entry-3"] :=
  ⟨init_desk, by decide +kernel, by decide +kernel, by decide +kernel, by decide +kernel,
    by decide +kernel⟩

end Desktop

end SilentDisco
