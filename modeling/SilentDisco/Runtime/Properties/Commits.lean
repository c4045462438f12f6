import SilentDisco.Runtime.Actor.Refinement.Deck
import SilentDisco.Runtime.Actor.Refinement.Dispatch
import SilentDisco.Runtime.Properties.Admission

/-!
# Atomic commits and revisions

A message is refused with one error, or committed; a commit publishes a changed snapshot under
the next revision, or leaves the snapshot alone. So a revision names one snapshot in every run.

The start command reports that the host is buffering, and so does the streamer that it starts,
before the first position. The session is buffering by then, so the second report is refused.

## Main definitions

* `RefusedWith`, `Published`, `Retained`: what a message may do
* `StartsCleanly`: no event of a new streamer is refused, and the stream plays from its start

## Main results

* `commits_are_atomic`: that, and what the revisions of a run mean
* `start_is_never_clean`: every start reports an error
-/

namespace SilentDisco

open Result

/-- The message is refused: the state stays, and one error is reported. The error of a
reservation goes to its caller. -/
def RefusedWith (s : ActorState) (message : ActorMessage) (error : CoreError) : Prop :=
  actor.next s message = s ∧
    match message with
    | .input _ =>
      (actor.out s message).notifications = [.error error] ∧ (actor.out s message).reply = none
    | .reserveBoundary _ _ _ =>
      (actor.out s message).notifications = [] ∧
        (actor.out s message).reply = some (.error error)

/-- The message is committed under the next revision, and the new snapshot is published first. -/
def Published (s : ActorState) (message : ActorMessage) : Prop :=
  (actor.next s message).snapshot.revision.get.toNat = s.snapshot.revision.get.toNat + 1 ∧
    (actor.out s message).notifications.head? =
      some (.snapshot (actor.next s message).snapshot)

/-- What the handler of the message did is committed, with the same snapshot. -/
def Retained (s : ActorState) (message : ActorMessage) : Prop :=
  (∃ outcome, s.handle message = .ok (actor.next s message, outcome) ∧
      (actor.out s message).notifications = outcome.notifications) ∧
    (actor.next s message).snapshot = s.snapshot

namespace ActorState

variable {s candidate : ActorState} {outcome : ApplyOutcome} {message : ActorMessage}

/-- A message whose candidate is not committed is refused with one error. -/
theorem receive_refusedWith (h : s.Refused message) : ∃ error, RefusedWith s message error := by
  cases message with
  | input =>
    obtain ⟨error, stop, hprocess⟩ := process_refused h
    refine ⟨error, congrArg Prod.fst hprocess, ?_, rfl⟩
    exact congrArg (fun result => result.2.notifications) hprocess
  | reserveBoundary streamId entryId index =>
    obtain ⟨error, hreserve⟩ := reserveTrackBoundary_refused h
    have hreceive : s.receive (.reserveBoundary streamId entryId index) =
        (s, { reply := some (.error error) }) := by
      simp only [receive, hreserve]
    exact ⟨error, congrArg Prod.fst hreceive,
      congrArg (fun result => result.2.notifications) hreceive,
      congrArg (fun result => result.2.reply) hreceive⟩

/-- A changed candidate is published under the next revision. -/
theorem published_of_changed (hhandle : s.handle message = .ok (candidate, outcome))
    (hcommit : candidate.Committable outcome) (hchanged : outcome.changed = true) :
    Published s message := by
  have hrevision : candidate.snapshot.revision = s.snapshot.revision :=
    (handle_deck hhandle).revision_eq
  obtain ⟨hnext, hout⟩ := receive_of_committable hhandle hcommit
  obtain ⟨hfits, -⟩ := hcommit hchanged
  change actor.next s message = _ at hnext
  change (actor.out s message).notifications = _ at hout
  unfold publication at hout
  rw [if_pos hchanged, ← hnext] at hout
  refine ⟨?_, congrArg List.head? hout⟩
  rw [hnext, published, if_pos hchanged]
  change (candidate.snapshot.revision.get + 1).toNat = _
  rw [UInt64.toNat_add, UInt64.toNat_one, Nat.mod_eq_of_lt hfits, hrevision]

/-- An unchanged candidate is committed with the same snapshot. -/
theorem retained_of_unchanged (hhandle : s.handle message = .ok (candidate, outcome))
    (hcommit : candidate.Committable outcome) (hunchanged : outcome.changed = false) :
    Retained s message := by
  obtain ⟨hnext, hout⟩ := receive_of_committable hhandle hcommit
  unfold published at hnext
  unfold publication at hout
  rw [if_neg (by simp [hunchanged])] at hnext hout
  change actor.next s message = _ at hnext
  refine ⟨⟨outcome, hnext ▸ hhandle, hout⟩, ?_⟩
  rw [hnext]
  exact (apply_refines _ (apply_of_handle hhandle)).unchanged hunchanged

/-- **Every message is refused, published or retained.** -/
theorem receive_atomic (s : ActorState) (message : ActorMessage) :
    (∃ error, RefusedWith s message error) ∨ Published s message ∨ Retained s message := by
  by_cases h : s.Refused message
  · exact .inl (receive_refusedWith h)
  · obtain ⟨candidate, outcome, hhandle, hcommit⟩ := not_refused.mp h
    right
    cases hchanged : outcome.changed with
    | false => exact .inr (retained_of_unchanged hhandle hcommit hchanged)
    | true => exact .inl (published_of_changed hhandle hcommit hchanged)

/-! ## Revisions of a run -/

/-- A message increases the revision, or keeps the snapshot. -/
theorem next_revision (s : ActorState) (message : ActorMessage) :
    s.snapshot.revision.get.toNat < (actor.next s message).snapshot.revision.get.toNat ∨
      (actor.next s message).snapshot.revision.get.toNat = s.snapshot.revision.get.toNat ∧
        (actor.next s message).snapshot = s.snapshot := by
  rcases receive_atomic s message with ⟨error, hsame, -⟩ | ⟨hincreased, -⟩ | ⟨-, hsame⟩
  · rw [hsame]
    exact .inr ⟨rfl, rfl⟩
  · exact .inl (by omega)
  · rw [hsame]
    exact .inr ⟨rfl, rfl⟩

/-- Equal revisions of a run mean equal snapshots. -/
theorem snapshot_after {messages : List ActorMessage}
    (h : (actor.after s messages).snapshot.revision = s.snapshot.revision) :
    (actor.after s messages).snapshot = s.snapshot := by
  rcases Machine.version_after next_revision s messages with hless | ⟨-, hsame⟩
  · exact absurd (congrArg (fun revision => revision.get.toNat) h) hless.ne'
  · exact hsame

theorem expectedRevision_of_apply {operationId : OperationId} {request : CoreCommandRequest}
    (hcommand : request.command ≠ .endHostSession)
    (h : s.apply (.command operationId request) = .ok (candidate, outcome)) :
    request.expectedRevision = s.snapshot.revision := by
  obtain ⟨_, hcheck, -⟩ := bind_eq_ok.mp h
  exact not_ne_iff.mp fun hother => rejectIf_eq_ok.mp hcheck ⟨hother, hcommand⟩

end ActorState

/-- **Commits are atomic, and a revision names one snapshot.** Every message is refused with
one error, published under the next revision, or retained. So from any state on, the revision
never decreases, a later state with the same revision has the same snapshot, and a command
that expects the revision of a state is only accepted on the snapshot of that state, unless it
ends the session. -/
theorem commits_are_atomic :
    (∀ s message,
      (∃ error, RefusedWith s message error) ∨ Published s message ∨ Retained s message) ∧
    ∀ (s : ActorState) (messages : List ActorMessage),
      s.snapshot.revision.get.toNat ≤ (actor.after s messages).snapshot.revision.get.toNat ∧
      ((actor.after s messages).snapshot.revision = s.snapshot.revision →
        (actor.after s messages).snapshot = s.snapshot) ∧
      ∀ operationId request candidate outcome,
        (actor.after s messages).apply (.command operationId request) = .ok (candidate, outcome) →
        request.command ≠ .endHostSession →
        request.expectedRevision = s.snapshot.revision →
        (actor.after s messages).snapshot = s.snapshot := by
  refine ⟨ActorState.receive_atomic, fun s messages => ⟨?_, ActorState.snapshot_after, ?_⟩⟩
  · rcases Machine.version_after ActorState.next_revision s messages with hless | ⟨hsame, -⟩
    · exact hless.le
    · exact hsame.ge
  · intro operationId request candidate outcome happly hcommand hexpected
    refine ActorState.snapshot_after ?_
    rw [← ActorState.expectedRevision_of_apply hcommand happly, hexpected]

/-! ## The start of a stream -/

/-- The event that the start command submits before it prepares the stream. -/
def buffering : ActorMessage := .input (.audio (.playbackStateChanged .buffering))

/-- The events that `DesktopPlaybackStreamer::start` submits after it. -/
def startedBy (streamId : StreamId) : List ActorMessage :=
  [buffering, .input (.audio (.positionAdvanced streamId 0))]

/-- The actor accepts a message: it reports no error. -/
def Unrefused (s : ActorState) (message : ActorMessage) : Prop :=
  ∀ error, .error error ∉ (actor.out s message).notifications

/-- The events of the streamer are accepted, and its stream plays from position zero. -/
structure StartsCleanly (s : ActorState) (streamId : StreamId) : Prop where
  accepted : actor.Along Unrefused s (startedBy streamId)
  playing : (actor.after s (startedBy streamId)).snapshot.playbackState = .playing
  bound : (actor.after s (startedBy streamId)).activeAudioStreamId = some streamId
  position : (actor.after s (startedBy streamId)).snapshot.playbackPositionMs = 0

/-- The error of a session that is not stopped. -/
def notStopped : CoreError :=
  invalidState "host playback can begin buffering only from an active stopped session" none

namespace ActorState

variable {s candidate : ActorState} {outcome : ApplyOutcome} {message : ActorMessage}

/-- An accepted message has a candidate that is committed. -/
theorem committed_of_unrefused {input : CoreActorInput} (h : Unrefused s (.input input)) :
    ∃ candidate outcome, s.apply input = .ok (candidate, outcome) ∧
      actor.next s (.input input) = candidate.published outcome := by
  by_cases hrefused : s.Refused (.input input)
  · obtain ⟨error, stop, hprocess⟩ := process_refused hrefused
    have hout : (actor.out s (.input input)).notifications = [.error error] :=
      congrArg (fun result => result.2.notifications) hprocess
    exact absurd (hout ▸ List.mem_singleton_self _) (h error)
  · obtain ⟨candidate, outcome, hhandle, hcommit⟩ := not_refused.mp hrefused
    exact ⟨candidate, outcome, hhandle, (receive_of_committable hhandle hcommit).1⟩

/-- An input whose handler fails is refused with its error. -/
theorem refusedWith_of_apply {input : CoreActorInput} {error : CoreError}
    (h : s.apply input = .error error) : RefusedWith s (.input input) error := by
  have hprocess : s.process input = (s, { notifications := [.error error] }) := by
    unfold process
    rw [h]
  refine ⟨congrArg Prod.fst hprocess, ?_, rfl⟩
  exact congrArg (fun result => result.2.notifications) hprocess

theorem apply_buffering (h : s.apply (.audio (.playbackStateChanged .buffering)) =
    .ok (candidate, outcome)) : candidate = s.changePlaybackState .buffering := by
  have hfollows : s.applyAudioWithHostLifecycle (.playbackStateChanged .buffering) =
      .ok (s.changePlaybackState .buffering, .changedOnly) := by
    change (if _ then _ else _) = _
    split_ifs
    · rfl
    · rfl
  change s.applyAudioControl (.playbackStateChanged .buffering) = _ at h
  unfold applyAudioControl at h
  split_ifs at h with hhosts hstarts
  · cases hstarts.1
  · obtain ⟨⟨⟩, -, h⟩ := bind_eq_ok.mp h
    rw [if_neg (by simp)] at h
    cases hfollows.symm.trans h
    rfl
  · cases hfollows.symm.trans h
    rfl

theorem next_buffering (h : Unrefused s buffering) :
    (actor.next s buffering).snapshot.playbackState = .buffering ∧
      ((actor.next s buffering).HostsSession ↔ s.HostsSession) := by
  obtain ⟨candidate, outcome, happly, hnext⟩ := committed_of_unrefused h
  change actor.next s buffering = _ at hnext
  rw [hnext, apply_buffering happly, published]
  split_ifs
  · exact ⟨rfl, Iff.rfl⟩
  · exact ⟨rfl, Iff.rfl⟩

theorem refusedWith_buffering (hhosts : s.HostsSession)
    (hstate : s.snapshot.playbackState = .buffering) : RefusedWith s buffering notStopped := by
  have hcheck : s.checkHostAudio (.playbackStateChanged .buffering) = .error notStopped :=
    if_neg (by simp [hstate])
  refine refusedWith_of_apply ?_
  change s.applyAudioControl (.playbackStateChanged .buffering) = _
  unfold applyAudioControl applyHostAudio
  rw [if_neg (not_not.mpr hhosts), if_neg (by simp [StartsBuffered, AudioEvent.reportsStart]),
    hcheck]
  rfl

/-- Outside a session the first position does not start a buffered stream. -/
theorem refusedWith_position (hoffline : ¬s.HostsSession)
    (hstate : s.snapshot.playbackState = .buffering) (streamId : StreamId) :
    RefusedWith s (.input (.audio (.positionAdvanced streamId 0)))
      (invalidState "playback position advanced while playback was inactive" none) := by
  refine refusedWith_of_apply ?_
  change s.applyAudioControl (.positionAdvanced streamId 0) = _
  unfold applyAudioControl applyAudioWithHostLifecycle applyAudio advancePosition
  rw [if_pos hoffline, check, if_neg (by simp [hstate])]
  rfl

end ActorState

theorem RefusedWith.not_unrefused {s : ActorState} {input : CoreActorInput} {error : CoreError}
    (h : RefusedWith s (.input input) error) : ¬Unrefused s (.input input) :=
  fun hunrefused => hunrefused error (h.2.1 ▸ List.mem_singleton_self _)

/-- **A start is never clean.** Once the actor has accepted that the host is buffering, one of the
events of the streamer is refused: in a session the second report of the same. -/
theorem start_is_never_clean (s : ActorState) (streamId : StreamId)
    (hfirst : Unrefused s buffering) :
    ¬StartsCleanly (actor.next s buffering) streamId ∧
      (s.HostsSession → RefusedWith (actor.next s buffering) buffering notStopped) := by
  obtain ⟨hstate, hhosts⟩ := ActorState.next_buffering hfirst
  constructor
  · rintro ⟨⟨hsecond, hthird, -⟩, -⟩
    by_cases hsession : (actor.next s buffering).HostsSession
    · exact (ActorState.refusedWith_buffering hsession hstate).not_unrefused hsecond
    · obtain ⟨hstate', hhosts'⟩ := ActorState.next_buffering hsecond
      have hoffline := mt hhosts'.mp hsession
      exact (ActorState.refusedWith_position hoffline hstate' streamId).not_unrefused hthird
  · intro hsession
    exact ActorState.refusedWith_buffering (hhosts.mpr hsession) hstate

namespace Scenario

theorem unrefused_buffering : Unrefused (actor.after device (hosting .manual)) buffering :=
  fun error herror => by cases List.mem_singleton.mp herror

end Scenario

open Scenario in
/-- A host that has created its session. -/
theorem start_is_never_clean_hosting :
    RefusedWith (actor.after device (hosting .manual ++ [buffering])) buffering notStopped :=
  (start_is_never_clean _ ⟨"stream-1", by decide⟩ unrefused_buffering).2 (by decide)

open Scenario in
/-- The second report that the host is buffering is refused. -/
theorem not_start_is_clean :
    Unrefused (actor.after device (hosting .manual)) buffering ∧
      (actor.out (actor.after device (hosting .manual ++ [buffering])) buffering).notifications =
        [.error notStopped] :=
  ⟨unrefused_buffering, rfl⟩

end SilentDisco
