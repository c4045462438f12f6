import SilentDisco.Runtime.Actor.Refinement.Events

/-!
# Refinement: audio events and dispatch

Audio events make abstract steps, and so does every handled message.

## Main results

* `apply_refines`, `handle_refines`: every handled input and message is an abstract step
* `receive_core`: a message leaves the state alone, or commits an abstract step
* `actor_refines_core`: every run is a trace of abstract steps
-/

namespace SilentDisco

open Result

namespace ActorState

variable {s s' : ActorState} {outcome : ApplyOutcome} {event : AudioEvent}

/-! ## Audio events -/

/-- What an audio event does, apart from the host lifecycle. -/
structure AudioFrame (s : ActorState) (event : AudioEvent) (s' : ActorState)
    (outcome : ApplyOutcome) : Prop where
  core : s'.core = { s.core with reserved := s'.pendingHostBoundaries }
  reserved : s.core.AudioReserved event s'.pendingHostBoundaries
  requests : transportRequests outcome.notifications = []
  unchanged : outcome.changed = false →
    s' = s ∧ ∃ entryId index, event = .trackBoundaryScheduled entryId index

/-- What a handler of an audio event returns has its frame. -/
abbrev Framed (s : ActorState) (event : AudioEvent) : Applied → Prop :=
  Returns fun applied => AudioFrame s event applied.1 applied.2

/-- A change that keeps or clears the reservations. -/
theorem AudioFrame.changed (hcore : s'.core = { s.core with reserved := s'.pendingHostBoundaries })
    (hreserved : s'.pendingHostBoundaries = s.pendingHostBoundaries ∨
      s'.pendingHostBoundaries = []) (hrequests : transportRequests outcome.notifications = [])
    (hchanged : outcome.changed = true) : AudioFrame s event s' outcome := by
  refine ⟨hcore, ?_, hrequests, fun hunchanged => ?_⟩
  · rcases hreserved with h | h <;> rw [h]
    · exact .inl fun _ hmem => hmem
    · exact .inl fun _ hmem => absurd hmem List.not_mem_nil
  · exact absurd (hchanged.symm.trans hunchanged) (by decide)

theorem changePlaybackState_frame (s : ActorState) (state : PlaybackState) :
    AudioFrame s (.playbackStateChanged state) (s.changePlaybackState state) .changedOnly := by
  have hcore : (s.changePlaybackState state).core =
      { s.core with reserved := (s.changePlaybackState state).pendingHostBoundaries } := by
    simp only [changePlaybackState]
    split_ifs <;> rfl
  have hreserved : (s.changePlaybackState state).pendingHostBoundaries =
      s.pendingHostBoundaries ∨ (s.changePlaybackState state).pendingHostBoundaries = [] := by
    simp only [changePlaybackState]
    split_ifs <;> first | exact .inl rfl | exact .inr rfl
  exact .changed hcore hreserved rfl rfl

theorem advancePosition_frame {streamId : StreamId} {positionMs : UInt64} :
    Framed s (.positionAdvanced streamId positionMs) (s.advancePosition streamId positionMs) :=
  .andThen fun _ => .andThen fun _ => .andThen fun _ => .andThen fun _ =>
    .ok (.changed rfl (.inl rfl) rfl rfl)

theorem applyTrackBoundary_frame {entryId : String} {index : UInt64} :
    Framed s (.trackBoundaryApplied entryId index) (s.applyTrackBoundary ⟨entryId, index⟩) := by
  refine .andThen fun _ => .andThen fun _ => .andThen fun _ => .andThen fun queue => .ok ?_
  exact ⟨rfl, .inl fun _ hmem => List.mem_of_mem_drop hmem, rfl, Bool.noConfusion⟩

theorem scheduleTrackBoundary_frame {entryId : String} {index : UInt64} :
    Framed s (.trackBoundaryScheduled entryId index)
      (s.scheduleTrackBoundary ⟨entryId, index⟩) := by
  refine .andThen fun _ => ?_
  split
  · refine .ite (fun _ => .ok ⟨rfl, .inl fun _ hmem => hmem, rfl, fun _ => ?_⟩) fun _ => .error
    exact ⟨rfl, entryId, index, rfl⟩
  · refine .andThen fun _ => .andThen fun _ => .ok ?_
    exact ⟨rfl, .inr ⟨entryId, index, rfl, rfl⟩, rfl, Bool.noConfusion⟩

theorem updateSynchronization_frame (s : ActorState) (deviceId : DeviceId)
    (summary : SynchronizationSummary) :
    AudioFrame s (.synchronizationUpdated deviceId summary)
      (s.updateSynchronization deviceId summary) .changedOnly := by
  have hids : (s.updateSynchronization deviceId summary).snapshot.listeners.map
      ListenerSummary.deviceId = s.snapshot.listeners.map ListenerSummary.deviceId :=
    Keyed.map_modify
      (f := fun listener : ListenerSummary => { listener with synchronization := some summary })
      (fun _ => rfl) _
  refine .changed ?_ (.inl rfl) rfl rfl
  simp only [ActorState.core, hids]
  rfl

theorem endStream_frame {streamId : StreamId} :
    Framed s (.endOfStream streamId) (s.endStream streamId) :=
  .andThen fun _ => .andThen fun _ => .andThen fun _ =>
    .ite (fun _ => .ok (.changed rfl (.inr rfl) rfl rfl)) fun _ => .andThen fun _ =>
      .ok (.changed rfl (.inr rfl) rfl rfl)

theorem recordUnderrun_frame {missingFrames : UInt32} :
    Framed s (.underrun missingFrames) (s.recordUnderrun missingFrames) :=
  .andThen fun _ => .bind diagnostic_eq_ok fun _ hreported =>
    .ok (.changed rfl (.inr rfl) hreported.2 rfl)

theorem applyAudio_frame (event : AudioEvent) : Framed s event (s.applyAudio event) := by
  cases event with
  | playbackStateChanged state => exact .ok (changePlaybackState_frame s state)
  | positionAdvanced => exact advancePosition_frame
  | trackBoundaryApplied => exact applyTrackBoundary_frame
  | trackBoundaryScheduled => exact scheduleTrackBoundary_frame
  | synchronizationUpdated deviceId summary =>
    exact .ok (updateSynchronization_frame s deviceId summary)
  | endOfStream => exact endStream_frame
  | underrun => exact recordUnderrun_frame
  | failed => exact .ok (.changed rfl (.inr rfl) rfl rfl)

theorem stoppedLifecycle_admits (s : ActorState) : s.stoppedLifecycle.AdmitsListeners := by
  unfold stoppedLifecycle
  split_ifs
  · exact .inl rfl
  · exact .inr (.inl rfl)

/-- The lifecycle that follows a playback transition of the host. -/
theorem followTransition_core {retryable : Bool} {transition : Option PlaybackState} :
    Returns (fun s' => ∃ lifecycle, s'.core = { s.core with lifecycle } ∧
      (lifecycle = s.core.lifecycle ∨ lifecycle = .error ∨
        s.core.lifecycle.AdmitsListeners ∧ lifecycle.AdmitsListeners ∨
        retryable = true ∧ lifecycle.AdmitsListeners))
      (s.followTransition retryable transition) := by
  unfold followTransition
  split
  · refine .bind .check fun _ hguard => .ok ⟨_, rfl, .inr (.inr (.inl ⟨?_, ?_⟩))⟩
    · rcases hguard with hready | hpaused | hstreaming
      · exact .inr (.inl hready)
      · exact .inr (.inr (.inr hpaused))
      · exact .inr (.inr (.inl hstreaming))
    · exact .inr (.inr (.inl rfl))
  · refine .bind .check fun _ hguard => .ok ⟨_, rfl, .inr (.inr (.inl ⟨?_, ?_⟩))⟩
    · exact .inr (.inr hguard)
    · exact .inr (.inr (.inr rfl))
  · refine .ite (fun hhosting => .ok ?_) fun _ => .ok ⟨_, rfl, .inl rfl⟩
    refine ⟨_, rfl, .inr (.inr (.inl ⟨?_, stoppedLifecycle_admits s⟩))⟩
    rcases hhosting with hready | hstreaming | hpaused | hwaiting
    · exact .inr (.inl hready)
    · exact .inr (.inr (.inl hstreaming))
    · exact .inr (.inr (.inr hpaused))
    · exact .inl hwaiting
  · refine .ite (fun hretryable => .ok ?_) fun _ => .ok ⟨_, rfl, .inr (.inl rfl)⟩
    exact ⟨_, rfl, .inr (.inr (.inr ⟨hretryable, stoppedLifecycle_admits s⟩))⟩
  all_goals exact .ok ⟨_, rfl, .inl rfl⟩

/-- What a handled audio event does to the core. -/
structure AudioStep (s : ActorState) (event : AudioEvent) (s' : ActorState)
    (outcome : ApplyOutcome) : Prop where
  core : s'.core = { s.core with lifecycle := s'.core.lifecycle, reserved := s'.core.reserved }
  lifecycle : s.core.AudioLifecycle event s'.core.lifecycle
  reserved : s.core.AudioReserved event s'.core.reserved
  requests : transportRequests outcome.notifications = []
  unchanged : outcome.changed = false → s'.snapshot = s.snapshot

theorem AudioStep.refines (h : AudioStep s event s' outcome) :
    Refines s (.audio event) s' outcome :=
  .of_core (.audio event _ _ h.lifecycle h.reserved) h.core h.requests h.unchanged

/-- The frame of an audio event and the lifecycle that followed. -/
theorem AudioFrame.step {played : ActorState} (hframe : AudioFrame s event played outcome)
    {lifecycle : HostLifecycle} (hcore : s'.core = { played.core with lifecycle })
    (hlifecycle : s.core.AudioLifecycle event lifecycle)
    (hunchanged : outcome.changed = false → s'.snapshot = s.snapshot) :
    AudioStep s event s' outcome := by
  refine ⟨?_, ?_, ?_, hframe.requests, hunchanged⟩
  · rw [hcore, hframe.core]
  · rw [hcore]
    exact hlifecycle
  · rw [hcore]
    exact hframe.reserved

theorem applyAudioWithHostLifecycle_step
    (h : s.applyAudioWithHostLifecycle event = .ok (s', outcome)) :
    AudioStep s event s' outcome := by
  unfold applyAudioWithHostLifecycle at h
  obtain ⟨⟨played, reported⟩, hplayed, hrest⟩ := bind_eq_ok.mp h
  have hframe := applyAudio_frame event _ hplayed
  have hsame : played.core.lifecycle = s.core.lifecycle := by rw [hframe.core]
  simp only at hrest
  split_ifs at hrest with hhosts
  · obtain ⟨followed, hfollow, hout⟩ := bind_eq_ok.mp hrest
    cases hout
    have hrole : s.core.role = some .host :=
      (congrArg Core.role hframe.core).symm.trans hhosts.1
    have hsession : s.core.session ≠ none :=
      fun hnone => hhosts.2 ((congrArg Core.session hframe.core).trans hnone)
    obtain ⟨lifecycle, hcore, hlifecycle⟩ := followTransition_core _ hfollow
    refine hframe.step hcore ?_ fun hunchanged => ?_
    · rw [hsame] at hlifecycle
      rcases hlifecycle with hstay | hfail | hmove | hretry
      · exact .inl hstay
      · exact .inr ⟨hrole, hsession, .inl hfail⟩
      · exact .inr ⟨hrole, hsession, .inr (.inl hmove)⟩
      · exact .inr ⟨hrole, hsession, .inr (.inr hretry)⟩
    · -- An event without a change has no transition to follow.
      obtain ⟨rfl, entryId, index, rfl⟩ := hframe.unchanged hunchanged
      cases hfollow
      rfl
  · cases hrest
    exact hframe.step rfl (.inl hsame) fun hunchanged =>
      congrArg ActorState.snapshot (hframe.unchanged hunchanged).1

theorem applyHostAudio_step (hhosts : s.HostsSession)
    (h : s.applyHostAudio event = .ok (s', outcome)) : AudioStep s event s' outcome := by
  unfold applyHostAudio at h
  obtain ⟨⟨⟩, -, h⟩ := bind_eq_ok.mp h
  split_ifs at h with hwaiting
  · obtain ⟨⟨played, reported⟩, hplayed, hout⟩ := bind_eq_ok.mp h
    obtain ⟨hlifecycle, rfl⟩ := hwaiting
    cases hplayed
    cases hout
    exact (changePlaybackState_frame s .playing).step rfl
      (.inr ⟨hhosts.1, hhosts.2, .inr (.inl ⟨.inl hlifecycle, .inr (.inr (.inl rfl))⟩)⟩)
      Bool.noConfusion
  · exact applyAudioWithHostLifecycle_step h

/-- A start report that follows the transition to playing is one step. -/
theorem AudioStep.trans {candidate : ActorState} {started : ApplyOutcome}
    (hplay : AudioStep s (.playbackStateChanged .playing) candidate started)
    (hframe : AudioFrame candidate event s' outcome) (hstart : event.reportsStart = true) :
    AudioStep s event s' outcome := by
  obtain ⟨streamId, positionMs, rfl⟩ : ∃ streamId positionMs,
      event = .positionAdvanced streamId positionMs := by
    cases event <;> first | exact ⟨_, _, rfl⟩ | cases hstart
  have hlifecycle : s'.core.lifecycle = candidate.core.lifecycle := by rw [hframe.core]
  refine ⟨?_, ?_, ?_, hframe.requests, fun hunchanged => ?_⟩
  · rw [hframe.core, hplay.core]
  · rw [hlifecycle]
    rcases hplay.lifecycle with hstay | ⟨hrole, hsession, hfail | hmove | ⟨hretry, -⟩⟩
    · exact .inl hstay
    · exact .inr ⟨hrole, hsession, .inl hfail⟩
    · exact .inr ⟨hrole, hsession, .inr (.inl hmove)⟩
    · cases hretry
  · refine .inl fun boundary hmem => ?_
    rcases hframe.reserved with hsub | ⟨_, _, hevent, -⟩
    · rcases hplay.reserved with hsub' | ⟨_, _, hevent, -⟩
      · exact hsub' boundary (hsub boundary hmem)
      · cases hevent
    · cases hevent
  · obtain ⟨-, _, _, hevent⟩ := hframe.unchanged hunchanged
    cases hevent

theorem applyAudioControl_refines (event : AudioEvent) :
    Refined s (.audio event) (s.applyAudioControl event) := by
  rintro ⟨s', outcome⟩ h
  unfold applyAudioControl at h
  split_ifs at h with hhosts hstarts
  · obtain ⟨⟨candidate, started⟩, hplay, hposition⟩ := bind_eq_ok.mp h
    exact ((applyHostAudio_step hhosts hplay).trans (applyAudio_frame event _ hposition)
      hstarts.1).refines
  · exact (applyHostAudio_step hhosts h).refines
  · exact (applyAudioWithHostLifecycle_step h).refines

/-! ## Dispatch -/

theorem applyCommand_refines {operationId : OperationId} {revision : SnapshotRevision}
    (command : CoreCommand) :
    Refined s (.command operationId ⟨revision, command⟩) (s.applyCommand operationId command) := by
  cases command with
  | selectRole => exact selectRole_refines
  | updateHostDraft => exact updateHostDraft_refines
  | appendHostQueue => exact appendHostQueue_refines
  | reorderHostQueue => exact reorderHostQueue_refines
  | removeHostQueueEntry => exact removeHostQueueEntry_refines
  | clearHostQueue => exact clearHostQueue_refines
  | createHostSession => exact createHostSession_refines
  | endHostSession => exact endHostSession_refines
  | startDiscovery => exact startDiscovery_refines
  | stopDiscovery => exact stopDiscovery_refines
  | selectSession => exact selectSession_refines
  | submitJoin => exact submitJoin_refines
  | cancelJoin => exact cancelJoin_refines
  | approveJoin => exact approveJoin_refines
  | rejectJoin => exact rejectJoin_refines
  | removeListener => exact removeListener_refines
  | retryRecoverableFailure => exact retryRecoverable_refines
  | updateTuning => exact updateTuning_refines
  | exportDiagnostics => exact exportDiagnostics_refines
  | shutdown => exact .ok (.of_step (.quiet _) rfl)
  | startPlayback | pausePlayback | resumePlayback | stopPlayback | setLocalVolume
  | requestResync => exact .error

/-- **Every handled input is an abstract step.** -/
theorem apply_refines {input : CoreActorInput} : Refined s input (s.apply input) := by
  cases input with
  | command operationId request => exact .andThen fun _ => applyCommand_refines request.command
  | platform event => exact applyPlatform_refines event
  | transport event => exact applyTransport_refines event
  | audio event => exact applyAudioControl_refines event
  | storage event => exact routeStorage_refines event

theorem core_published (s : ActorState) (outcome : ApplyOutcome) :
    (s.published outcome).core = s.core := by
  unfold published
  split_ifs <;> rfl

theorem transportRequests_publication (s : ActorState) (outcome : ApplyOutcome) :
    transportRequests (s.publication outcome) = transportRequests outcome.notifications := by
  unfold publication
  split_ifs <;> rfl

theorem transportRequests_errors {notifications : List CoreNotification}
    (h : ∀ notification ∈ notifications, ∃ e, notification = .error e) :
    transportRequests notifications = [] := by
  refine List.filterMap_eq_nil_iff.mpr fun notification hmem => ?_
  obtain ⟨e, rfl⟩ := h notification hmem
  rfl

/-- **A message leaves the state alone, or commits an abstract step.** -/
theorem receive_core (s : ActorState) (message : ActorMessage) :
    ((s.receive message).1 = s ∧ transportRequests (s.receive message).2.notifications = []) ∨
      s.core.Step message.asInput (s.receive message).1.core
        (transportRequests (s.receive message).2.notifications) := by
  rcases s.receive_cases message with ⟨hstate, herrors⟩ |
    ⟨candidate, outcome, hhandle, -, hstate, hnotifications⟩
  · exact .inl ⟨hstate, transportRequests_errors herrors⟩
  · rw [hstate, hnotifications, core_published, transportRequests_publication]
    exact .inr (apply_refines _ (apply_of_handle hhandle)).step

/-- **The actor refines its control state.** Every run, from any state, is a trace of abstract
steps, one for each message, which send the transport effects of the run. A refused message leaves
the whole state alone and sends nothing. -/
theorem actor_refines_core (s : ActorState) (messages : List ActorMessage) :
    Machine.Traces (fun c message c' output =>
        c.Step message.asInput c' (transportRequests output.notifications))
      s.core messages (actor.outputs s messages) (actor.after s messages).core ∧
    ∀ message, (actor.after s messages).Refused message →
      actor.next (actor.after s messages) message = actor.after s messages ∧
        transportRequests (actor.out (actor.after s messages) message).notifications = [] := by
  constructor
  · refine Machine.traces_of_step (M := actor) (fun s message => ?_) s messages
    rcases s.receive_core message with ⟨hstate, hnone⟩ | hstep
    · rw [show actor.next s message = s from hstate,
        show transportRequests (actor.out s message).notifications = [] from hnone]
      exact .quiet _
    · exact hstep
  · intro message hrefused
    obtain ⟨hstate, herrors⟩ := receive_of_refused hrefused
    exact ⟨hstate, transportRequests_errors herrors⟩

/-- The abstract state is kept or makes an abstract step. -/
theorem core_invariant {I : Core → Prop}
    (hstep : ∀ c input c' requests, I c → c.Step input c' requests → I c') (s : ActorState)
    (message : ActorMessage) (h : I s.core) : I (s.receive message).1.core := by
  rcases s.receive_core message with ⟨hstate, -⟩ | hcore
  · rw [hstate]
    exact h
  · exact hstep _ _ _ _ h hcore

end ActorState

end SilentDisco
