import SilentDisco.Runtime.Actor.Deck

/-!
# Refinement: the deck

What every handler does to the deck.

## Main definitions

* `KeepsDeck`: the handlers that leave the deck alone

## Main results

* `apply_deck`: a handled input makes a step of the deck
* `receive_deck`: a message leaves the state alone, or commits a step of the deck
-/

namespace SilentDisco

open Result

/-- The handler leaves the deck alone. -/
abbrev KeepsDeck (s : ActorState) : Applied → Prop := Returns fun applied => applied.1.deck = s.deck

namespace ActorState

variable {s : ActorState} {operationId : OperationId} {sessionId : SessionId}
  {revision : SnapshotRevision} {expected : UInt64} {request : JoinRequestSummary}
  {event : StorageEvent} {streamId : StreamId}

/-- A handler that continues from a state with the same deck. -/
theorem KeepsDeck.of_eq {s' : ActorState} {applied : Applied} (h : KeepsDeck s' applied)
    (hdeck : s'.deck = s.deck) : KeepsDeck s applied :=
  h.imp fun _ hkept => hkept.trans hdeck

/-- The state that a handler returns is a step of the deck. -/
abbrev StepsDeck (s : ActorState) (input : CoreActorInput) : Applied → Prop :=
  Returns fun applied => DeckStep s input applied.1.deck

theorem KeepsDeck.steps {applied : Applied} {input : CoreActorInput} (h : KeepsDeck s applied) :
    StepsDeck s input applied := by
  intro result hresult
  rw [h result hresult]
  exact .kept input

open KeepsDeck

/-! ## Effects -/

theorem startPlatformOperation_deck {request : PlatformEffectRequest}
    {op : PendingPlatformOperation} :
    Returns (fun started => started.1.deck = s.deck) (s.startPlatformOperation request op) := by
  rintro ⟨s', effect⟩ h
  obtain ⟨-, -, id, -, rfl, -⟩ := startPlatformOperation_eq_ok.mp h
  rfl

theorem startTransportOperation_deck {request : TransportEffectRequest}
    {op : PendingTransportOperation} :
    Returns (fun started => started.1.deck = s.deck) (s.startTransportOperation request op) := by
  rintro ⟨s', effect⟩ h
  obtain ⟨-, -, id, -, rfl, -⟩ := startTransportOperation_eq_ok.mp h
  rfl

theorem startStorageOperation_deck {request : StorageEffectRequest}
    {op : PendingStorageOperation} :
    Returns (fun started => started.1.deck = s.deck) (s.startStorageOperation request op) := by
  rintro ⟨s', effect⟩ h
  obtain ⟨-, -, id, -, rfl, -⟩ := startStorageOperation_eq_ok.mp h
  rfl

/-! ## Commands -/

theorem selectRole_deck {role : AppRole} : KeepsDeck s (s.selectRole operationId role) :=
  .andThen fun _ => .ite (fun _ => .ok rfl) fun _ => .ok rfl

theorem updateTuning_deck {patch : TuningPatch} : KeepsDeck s (s.updateTuning operationId patch) :=
  .andThen fun _ => .andThen fun _ => .ite (fun _ => .ok rfl) fun _ =>
    .bind startStorageOperation_deck fun _ hstarted => .ok hstarted

theorem exportDiagnostics_deck : KeepsDeck s s.exportDiagnostics := by
  have hexport : Returns (fun named => named.2.deck = s.deck) s.nextExportId :=
    .andThen fun _ => .ok rfl
  refine .bind hexport ?_
  rintro ⟨exportId, s'⟩ hnamed
  exact .bind startPlatformOperation_deck fun _ hstarted => .ok (hstarted.trans hnamed)

theorem startHostAdvertising_deck :
    Returns (fun started => started.1.deck = s.deck)
      (s.startHostAdvertising operationId sessionId) :=
  .andThen fun _ => startPlatformOperation_deck

theorem createHostSession_deck : KeepsDeck s (s.createHostSession operationId) := by
  have hsession : Returns (fun named => named.2.deck = s.deck) s.nextSessionId :=
    .andThen fun _ => .andThen fun _ => .ok rfl
  refine .andThen fun _ => .andThen fun _ => .andThen fun _ => .bind hsession ?_
  rintro ⟨sessionId, s'⟩ hnamed
  exact .bind startHostAdvertising_deck fun _ hstarted => .ok (hstarted.trans hnamed)

theorem endHostSession_deck : KeepsDeck s (s.endHostSession operationId) :=
  .andThen fun _ => .andThen fun _ => .bind startPlatformOperation_deck
    fun _ hstarted => .ok hstarted

theorem retryHostSession_deck : KeepsDeck s (s.retryHostSession operationId) := by
  refine .andThen fun _ => .andThen fun _ => .andThen fun _ => ?_
  split
  · exact .error
  · exact .bind startHostAdvertising_deck fun _ hstarted => .ok hstarted

theorem retryListenerConnection_deck : KeepsDeck s (s.retryListenerConnection operationId) :=
  .andThen fun _ => .andThen fun _ => .bind startPlatformOperation_deck
    fun _ hstarted => .ok hstarted

theorem retryRecoverable_deck : KeepsDeck s (s.retryRecoverable operationId) := by
  unfold retryRecoverable
  split
  · exact .error
  · exact .error
  · refine .andThen fun _ => .ite (fun _ => retryHostSession_deck) fun _ => ?_
    exact .ite (fun _ => retryListenerConnection_deck) fun _ => .ok rfl

theorem startDiscovery_deck : KeepsDeck s (s.startDiscovery operationId) :=
  .andThen fun _ => .andThen fun _ => .andThen fun _ => .bind startPlatformOperation_deck
    fun _ hstarted => .ok hstarted

theorem stopDiscovery_deck : KeepsDeck s (s.stopDiscovery operationId) :=
  .andThen fun _ => .andThen fun _ => .bind startPlatformOperation_deck
    fun _ hstarted => .ok hstarted

theorem selectSession_deck : KeepsDeck s (s.selectSession operationId sessionId) :=
  .andThen fun _ => .andThen fun _ => .ite (fun _ => .ok rfl) fun _ =>
    .andThen fun _ => .ok rfl

theorem submitJoin_deck : KeepsDeck s (s.submitJoin operationId) :=
  .andThen fun _ => .andThen fun _ => .andThen fun _ => .bind startPlatformOperation_deck
    fun _ hstarted => .ok hstarted

theorem cancelJoin_deck : KeepsDeck s (s.cancelJoin operationId) :=
  .andThen fun _ => .ite
    (fun _ => .bind startPlatformOperation_deck fun _ hstarted => .ok hstarted)
    fun _ => .ok rfl

/-! ## The draft and the queue -/

/-- The reservations are stale exactly if they do not match the queue. -/
theorem clearStaleHostQueueBoundary_deck (s : ActorState) :
    s.clearStaleHostQueueBoundary.deck = s.deck.dropStale := by
  have hstale : (s.pendingHostBoundaries.zipIdx.any fun staged =>
      s.snapshot.hostQueue.upcoming[staged.2]?.all fun entry =>
        entry.entryId ≠ staged.1.entryId) = true ↔ ¬s.deck.Matches := by
    unfold Deck.Matches
    simp only [List.any_eq_true, Prod.exists, List.mem_zipIdx_iff_getElem?,
      List.prefix_iff_getElem?, List.length_map, List.getElem?_map, List.getElem_map]
    push Not
    constructor
    · rintro ⟨boundary, index, hmem, hall⟩
      obtain ⟨hlt, rfl⟩ := List.getElem?_eq_some_iff.mp hmem
      refine ⟨index, hlt, fun hsome => ?_⟩
      obtain ⟨entry, hentry, hid⟩ := Option.map_eq_some_iff.mp hsome
      change s.snapshot.hostQueue.upcoming[index]? = some entry at hentry
      rw [hentry] at hall
      exact of_decide_eq_true hall hid
    · rintro ⟨index, hlt, hne⟩
      refine ⟨_, index, List.getElem?_eq_getElem hlt, ?_⟩
      cases hentry : s.snapshot.hostQueue.upcoming[index]? with
      | none => rfl
      | some entry =>
        refine decide_eq_true fun hid => hne ?_
        exact Option.map_eq_some_iff.mpr ⟨entry, hentry, hid⟩
  unfold clearStaleHostQueueBoundary Deck.dropStale
  by_cases hmatches : s.deck.Matches
  · rw [if_neg (fun h => hstale.mp h hmatches), if_pos hmatches]
  · rw [if_pos (hstale.mpr hmatches), if_neg hmatches]
    rfl

theorem withHostQueue_deck (s : ActorState) (queue : HostQueue) :
    (s.withHostQueue queue).deck =
      { s.deck with queue, source := queue.current.map QueueEntry.source }.dropStale :=
  clearStaleHostQueueBoundary_deck _

theorem appendHostQueue_deck {entries : List QueueEntry} :
    StepsDeck s (.command operationId ⟨revision, .appendHostQueue expected entries⟩)
      (s.appendHostQueue operationId expected entries) := by
  refine .andThen fun _ => .bind .mapError fun queue hqueue => .ok ?_
  rw [withHostQueue_deck]
  exact .edited operationId revision _ queue (.appended expected entries queue hqueue)

theorem reorderHostQueue_deck {orderedEntryIds : List String} :
    StepsDeck s (.command operationId ⟨revision, .reorderHostQueue expected orderedEntryIds⟩)
      (s.reorderHostQueue operationId expected orderedEntryIds) := by
  refine .andThen fun _ => .andThen fun _ => .bind .mapError
    fun queue hqueue => .ok ?_
  rw [withHostQueue_deck]
  exact .edited operationId revision _ queue (.reordered expected orderedEntryIds queue hqueue)

theorem removeHostQueueEntry_deck {entryId : String} :
    StepsDeck s (.command operationId ⟨revision, .removeHostQueueEntry expected entryId⟩)
      (s.removeHostQueueEntry operationId expected entryId) := by
  refine .andThen fun _ => .andThen fun _ => .bind .mapError
    fun queue hqueue => .ok ?_
  rw [withHostQueue_deck]
  exact .edited operationId revision _ queue (.removed expected entryId queue hqueue)

theorem clearHostQueue_deck :
    StepsDeck s (.command operationId ⟨revision, .clearHostQueue expected⟩)
      (s.clearHostQueue operationId expected) := by
  refine .andThen fun _ => .bind .rejectIf fun _ hreserved =>
    .bind .mapError fun queue hqueue => .ok ?_
  exact .cleared operationId revision expected queue (not_not.mp hreserved) hqueue

theorem audioSource_patched {draft next : HostDraft} {patch : HostDraftPatch}
    (h : draft.patched patch = .ok next) :
    next.audioSource = draft.patchedAudioSource patch.audioSource := by
  unfold HostDraft.patched at h
  obtain ⟨name, -, h⟩ := bind_eq_ok.mp h
  obtain ⟨code, -, h⟩ := bind_eq_ok.mp h
  obtain ⟨⟨⟩, -, hnext⟩ := bind_eq_ok.mp h
  cases hnext
  rfl

theorem replaceDraftSource_deck {updated : HostDraft} :
    Returns (fun s' =>
        s'.deck = s.deck ∧ updated.audioSource = s.snapshot.hostDraft.audioSource ∨
        updated.audioSource ≠ s.snapshot.hostDraft.audioSource ∧ ∃ entries queue,
          queueEntriesOf updated.audioSource = .ok entries ∧
          s.snapshot.hostQueue.replaceAll s.snapshot.hostQueue.revision entries = .ok queue ∧
          s'.deck = ({ s.deck with queue } : Deck).dropStale)
      (s.replaceDraftSource operationId updated) := by
  refine .ite (fun hsame => .ok (.inl ⟨rfl, hsame⟩)) fun hother => ?_
  refine .bind .mapError fun entries hentries =>
    .bind .mapError fun queue hqueue => .ok (.inr ⟨hother, ?_⟩)
  exact ⟨entries, queue, hentries, hqueue, clearStaleHostQueueBoundary_deck _⟩

theorem updateHostDraft_deck {patch : HostDraftPatch} :
    StepsDeck s (.command operationId ⟨revision, .updateHostDraft patch⟩)
      (s.updateHostDraft operationId patch) := by
  refine .andThen fun _ => .bind .rejectIf fun _ hguard =>
    .bind .mapError fun updated hupdated =>
      .bind replaceDraftSource_deck fun s' hreplaced => .ok ?_
  have hsource := audioSource_patched hupdated
  change DeckStep s _ { s'.deck with source := updated.audioSource }
  rcases hreplaced with ⟨hdeck, hsame⟩ | ⟨hother, entries, queue, hentries, hqueue, hdeck⟩
  · rw [hdeck, hsame]
    exact .kept _
  · have heditable : s.snapshot.hostLifecycle = .idle ∨ s.snapshot.hostLifecycle = .error ∨
        s.snapshot.playbackState = .stopped := by
      by_contra hnot
      push Not at hnot
      exact hguard ⟨not_or.mpr ⟨hnot.1, hnot.2.1⟩, fun hswitch => hnot.2.2 hswitch.2.1⟩
    rw [hsource] at hentries hother
    rw [hdeck, hsource]
    refine .redrafted operationId revision patch entries queue (fun hunchanged => ?_) heditable
      hentries hqueue
    exact hother (by rw [hunchanged]; rfl)

/-! ## Admission -/

theorem startApprovalDelivery_deck {delivery : ApprovalDelivery} :
    KeepsDeck s (s.startApprovalDelivery delivery) :=
  .bind (.andThen fun _ => startTransportOperation_deck) fun _ hstarted => .ok hstarted

theorem startRejectionDelivery_deck {reason : JoinRejectionReason}
    {confirmation : Option OperationId} :
    KeepsDeck s (s.startRejectionDelivery request reason confirmation) :=
  .andThen fun _ => .bind startTransportOperation_deck fun _ hstarted => .ok hstarted

theorem admitJoinRequest_deck : KeepsDeck s (s.admitJoinRequest request) := by
  refine .andThen fun _ => .andThen fun _ => ?_
  dsimp only
  split
  · exact .ok rfl
  · exact of_eq startApprovalDelivery_deck rfl
  · exact of_eq startRejectionDelivery_deck rfl

theorem handleJoinRequest_deck : KeepsDeck s (s.handleJoinRequest request) := by
  refine .andThen fun _ => ?_
  split
  · exact .ite (fun _ => .ok rfl) fun _ => .error
  · exact admitJoinRequest_deck

theorem approveJoin_deck {requestId : RequestId} {remember : Bool} :
    KeepsDeck s (s.approveJoin operationId requestId remember) := by
  refine .andThen fun _ => .andThen fun request => .andThen fun _ => ?_
  unfold carryOutApproval
  split
  · exact .bind startStorageOperation_deck fun _ hstarted => .ok hstarted
  · exact startApprovalDelivery_deck

theorem rejectJoin_deck {requestId : RequestId} :
    KeepsDeck s (s.rejectJoin operationId requestId) :=
  .andThen fun _ => .andThen fun _ => .andThen fun _ => startRejectionDelivery_deck

theorem removeListener_deck {listenerId : DeviceId} :
    KeepsDeck s (s.removeListener operationId listenerId) :=
  .andThen fun _ => .andThen fun _ => .andThen fun _ => .andThen fun _ =>
    .bind startTransportOperation_deck fun _ hstarted => .ok hstarted

theorem applyAdmissionStorage_deck : KeepsDeck s (s.applyAdmissionStorage event) := by
  refine .andThen fun _ => ?_
  split
  · exact .error
  · unfold completeTrustWrite
    split
    · exact .ite (fun _ => of_eq startApprovalDelivery_deck rfl) fun _ => .error
    · refine .andThen fun _ => .bind (.andThen fun _ => startTransportOperation_deck) ?_
      exact fun _ hstarted => .ok hstarted
    · exact .error

theorem upsertListener_deck {listener : ListenerSummary} :
    Returns (fun connected => connected.deck = s.deck) (s.upsertListener listener) :=
  .ite (fun _ => .ok rfl) fun _ => .ite (fun _ => .error) fun _ => .ok rfl

theorem commitDecision_deck {op : PendingTransportOperation} :
    Returns (fun decided => decided.deck = s.deck) (s.commitDecision operationId op) := by
  have hremove : ∀ requestId listenerId, Returns (fun removed => removed.2.deck = s.deck)
      (s.removePendingRequest requestId listenerId) := by
    intro requestId listenerId
    unfold removePendingRequest
    split
    · exact .error
    · exact .ok rfl
  cases op with
  | approveJoin =>
    refine .bind (hremove _ _) ?_
    rintro ⟨request, removed⟩ hremoved
    exact .andThen fun _ => upsertListener_deck.imp fun _ hconnected => hconnected.trans hremoved
  | rejectJoin =>
    exact .bind (hremove _ _) fun _ hremoved => .ok hremoved
  | disconnectListener => exact .andThen fun _ => .ok rfl

theorem clearDeliveryFailure_deck (s : ActorState) : s.clearDeliveryFailure.deck = s.deck := by
  unfold clearDeliveryFailure
  split_ifs <;> rfl

theorem completeTransportDelivery_deck {report : DeliveryReport} :
    KeepsDeck s (s.completeTransportDelivery operationId report) := by
  unfold completeTransportDelivery
  split
  · exact .error
  · refine .ite (fun _ => .bind commitDecision_deck fun decided hdecided => ?_) fun _ => .ok rfl
    exact .andThen fun _ => .ok ((clearDeliveryFailure_deck decided).trans hdecided)

/-! ## Events of adapters -/

theorem completePlatform_deck {op : PendingPlatformOperation}
    {completion : PlatformOperationCompletion} :
    StepsDeck s (.platform (.operationSucceeded operationId completion))
      (s.completePlatform operationId op completion) := by
  unfold completePlatform
  split
  · exact steps (.ite (fun _ => .ok rfl) fun _ => .error)
  · exact .ok (.sessionReset operationId)
  · exact steps (.ok rfl)
  · exact steps (.ok rfl)
  · exact steps (.ite (fun _ => .ok rfl) fun _ => .error)
  · exact .ok (.networkReleased operationId)
  · exact steps
      (.ite (fun _ => .andThen fun _ => .andThen fun _ => .ok rfl) fun _ => .error)
  · exact .error

theorem applyPlatformSuccess_deck {completion : PlatformOperationCompletion} :
    StepsDeck s (.platform (.operationSucceeded operationId completion))
      (s.applyPlatformSuccess operationId completion) := by
  unfold applyPlatformSuccess
  split
  · exact .error
  · exact .bind completePlatform_deck fun _ hcompleted => .ok hcompleted

theorem applyPendingFailure_deck (s : ActorState) (op : PendingPlatformOperation)
    (error : CoreError) : (s.applyPendingFailure op error).deck = s.deck := by
  unfold applyPendingFailure
  split <;> rfl

theorem applyPlatformFailure_deck {error : CoreError} :
    KeepsDeck s (s.applyPlatformFailure operationId error) := by
  unfold applyPlatformFailure
  split
  · exact .error
  · exact .andThen fun _ => .ok (applyPendingFailure_deck _ _ _)

theorem forgetSession_deck (s : ActorState) (sessionId : SessionId) :
    (s.forgetSession sessionId).deck = s.deck := by
  unfold forgetSession
  dsimp only
  split_ifs <;> rfl

theorem expireSession_deck : KeepsDeck s (s.expireSession sessionId) :=
  .ite (fun _ => .andThen fun _ => .andThen fun _ => .andThen fun _ => .ok rfl) fun _ =>
    .ite (fun _ => .ok (forgetSession_deck s sessionId)) fun _ => .ok rfl

theorem recordDiscoveredSession_deck {advertisement : SessionAdvertisement} :
    KeepsDeck s (s.recordDiscoveredSession advertisement) :=
  .andThen fun _ => .ite (fun _ => .ok rfl) fun _ => .andThen fun _ => .ok rfl

/-- What a platform event does to the deck. -/
theorem applyPlatform_deck (event : PlatformEvent) :
    StepsDeck s (.platform event) (s.applyPlatform event) := by
  cases event with
  | operationSucceeded => exact applyPlatformSuccess_deck
  | operationFailed => exact steps applyPlatformFailure_deck
  | sessionDiscovered => exact steps recordDiscoveredSession_deck
  | sessionExpired => exact steps expireSession_deck
  | capabilityStateChanged =>
    exact steps (.ite (fun _ => .ok rfl) fun _ => .ok rfl)
  | appEnteredForeground | appEnteredBackground => exact steps (.andThen fun _ => .ok rfl)

theorem recordListener_deck {listener : ListenerSummary} :
    KeepsDeck s (s.recordListener listener) :=
  .andThen fun _ => .bind upsertListener_deck fun _ hconnected => .ok hconnected

theorem recordListenerDisconnect_deck {deviceId : DeviceId} {error : Option CoreError} :
    KeepsDeck s (s.recordListenerDisconnect deviceId error) := by
  unfold recordListenerDisconnect
  split
  · exact .ok rfl
  · exact .ite (fun _ => .ok rfl) fun _ => .ok rfl

theorem recordTransportFailure_deck (s : ActorState) (error : CoreError) :
    (s.recordTransportFailure error).deck = s.deck := by
  unfold recordTransportFailure
  dsimp only
  split
  · rfl
  · split_ifs <;> rfl
  · rfl

theorem applyTransportState_deck (s : ActorState) (state : TransportState) :
    (s.applyTransportState state).deck = s.deck := by
  unfold applyTransportState
  dsimp only
  split_ifs <;> rfl

/-- What a transport event does to the deck. -/
theorem applyTransport_deck (event : TransportEvent) :
    StepsDeck s (.transport event) (s.applyTransport event) := by
  cases event with
  | stateChanged state => exact steps (.ok (applyTransportState_deck s state))
  | joinRequested => exact steps handleJoinRequest_deck
  | listenerConnected => exact steps recordListener_deck
  | listenerDisconnected => exact steps recordListenerDisconnect_deck
  | deliveryCompleted => exact steps completeTransportDelivery_deck
  | sessionEnded sessionId =>
    exact .ite (fun _ => .ok (.kept _)) fun _ => .ok (.sessionEnded sessionId)
  | failed error => exact steps (.ok (recordTransportFailure_deck s error))
  | awaitingApproval | joinApproved | joinRejected =>
    exact steps (.andThen fun _ => .andThen fun _ => .ok rfl)

theorem recordStorageFailure_deck {error : CoreError} :
    KeepsDeck s (s.recordStorageFailure operationId error) :=
  .andThen fun _ => .ok rfl

theorem completeTuningWrite_deck {op : PendingStorageOperation} :
    KeepsDeck s (s.completeTuningWrite op event) := by
  unfold completeTuningWrite
  split
  · exact .andThen fun _ => .ok rfl
  · exact recordStorageFailure_deck
  · exact .error

theorem applyTuningStorage_deck : KeepsDeck s (s.applyTuningStorage event) := by
  refine .andThen fun _ => ?_
  split
  · exact .error
  · exact of_eq completeTuningWrite_deck rfl

theorem recordStored_deck {completion : StorageCompletion} :
    KeepsDeck s (s.recordStored completion) := by
  unfold recordStored
  split
  · exact .ok rfl
  · exact .ok rfl
  · exact .andThen fun _ => .ok rfl
  · exact .andThen fun _ => .andThen fun _ => .ok rfl
  · exact .andThen fun _ => .andThen fun _ => .ok rfl
  · exact .andThen fun _ => .andThen fun _ => .ok rfl

theorem applyStorage_deck : KeepsDeck s (s.applyStorage event) := by
  refine .andThen fun _ => ?_
  split
  · exact recordStored_deck
  · exact recordStorageFailure_deck

/-- A storage event leaves the deck alone. -/
theorem routeStorage_deck (event : StorageEvent) : KeepsDeck s (s.routeStorage event) :=
  .ite (fun _ => applyTuningStorage_deck) fun _ =>
    .ite (fun _ => applyAdmissionStorage_deck) fun _ => applyStorage_deck

/-! ## Audio -/

theorem changePlaybackState_deck (s : ActorState) (state : PlaybackState) :
    (s.changePlaybackState state).deck = s.deck.change state := by
  cases state with
  | playing =>
    let fresh : ActorState :=
      { s with
        snapshot.playbackPositionMs := 0
        snapshot.streamEndedNaturally := false }
    have hdeck : ∀ s', (if PlaybackState.playing = .playing ∧
        s.snapshot.playbackState ≠ .paused ∧ s.snapshot.playbackState ≠ .playing then
          fresh.retireActiveAudioStream else s) = s' →
        (s.changePlaybackState .playing).deck = { s'.deck with playback := .playing } := by
      rintro _ rfl
      rfl
    by_cases hsame : s.snapshot.playbackState = .paused ∨ s.snapshot.playbackState = .playing
    · rw [hdeck s (if_neg (by tauto))]
      exact (if_pos hsame).symm
    · rw [hdeck _ (if_pos (by tauto))]
      exact (if_neg hsame).symm
  | _ => rfl

theorem accepts_of_checks (hretired : streamId ∉ s.retiredAudioStreamIds)
    (hactive : ¬∃ active ∈ s.activeAudioStreamId, active ≠ streamId) : s.deck.Accepts streamId :=
  ⟨hretired, fun active hmem => by_contra fun hother => hactive ⟨active, hmem, hother⟩⟩

theorem advancePosition_deck {positionMs : UInt64} :
    Returns (fun applied => s.deck.Plays (.positionAdvanced streamId positionMs) applied.1.deck)
      (s.advancePosition streamId positionMs) := by
  refine .bind .check fun _ hplaying => .bind .rejectIf
    fun _ hretired => .bind .rejectIf fun _ hactive =>
      .bind .rejectIf fun _ hforward => .ok ?_
  exact .advanced streamId positionMs hplaying (accepts_of_checks hretired hactive)
    (UInt64.not_lt.mp hforward)

theorem expectQueuedEntry_eq_ok {expected : Option QueueEntry} {entryId mismatch : String}
    {u : Unit} (h : expectQueuedEntry expected entryId mismatch = .ok u) :
    expected.map QueueEntry.entryId = some entryId := by
  cases expected with
  | none => cases h
  | some => exact congrArg some (check_eq_ok.mp h)

theorem expectReserved_eq_ok {reserved : Option HostQueueBoundary} {applied : HostQueueBoundary}
    {u : Unit} (h : expectReserved reserved applied = .ok u) : reserved = some applied := by
  cases reserved with
  | none => cases h
  | some => exact congrArg some (check_eq_ok.mp h)

theorem applyTrackBoundary_deck {boundary : HostQueueBoundary} :
    Returns (fun applied => s.deck.Plays
        (.trackBoundaryApplied boundary.entryId boundary.firstSampleIndex) applied.1.deck)
      (s.applyTrackBoundary boundary) := by
  refine .bind .check fun _ hplaying =>
    .bind (fun _ => expectQueuedEntry_eq_ok) fun _ hnext =>
      .bind (fun _ => expectReserved_eq_ok) fun _ hreserved =>
        .bind .mapError fun queue hqueue => .ok ?_
  exact .applied boundary queue hplaying hnext hreserved hqueue

theorem scheduleTrackBoundary_deck {boundary : HostQueueBoundary} :
    Returns (fun applied => s.deck.Plays
        (.trackBoundaryScheduled boundary.entryId boundary.firstSampleIndex) applied.1.deck)
      (s.scheduleTrackBoundary boundary) := by
  refine .bind .check fun _ hplaying => ?_
  split
  · next reserved hfound =>
    refine .ite (fun hindex => .ok (.scheduledAgain boundary ?_)) fun _ => .error
    have hid : reserved.entryId = boundary.entryId := by simpa using List.find?_some hfound
    have hsame : reserved = boundary := congrArg₂ HostQueueBoundary.mk hid hindex
    exact hsame ▸ List.mem_of_find?_eq_some hfound
  · next hnone =>
    refine .bind (fun _ => expectQueuedEntry_eq_ok) fun _ hnext =>
      .bind .rejectIf fun _ horder => .ok ?_
    rw [not_or] at horder
    refine .scheduled boundary hplaying (fun reserved hmem hid => ?_) hnext horder.1
      fun previous hlast => ?_
    · exact List.find?_eq_none.mp hnone reserved hmem (decide_eq_true hid)
    · exact UInt64.not_le.mp fun hle => horder.2 ⟨previous, hlast, hle⟩

theorem endStream_deck :
    Returns (fun applied => s.deck.Plays (.endOfStream streamId) applied.1.deck)
      (s.endStream streamId) := by
  refine .bind .rejectIf fun _ hretired =>
    .bind .rejectIf fun _ hactive =>
      .bind .check fun _ hplaying => ?_
  have haccepts := accepts_of_checks hretired hactive
  refine .ite (fun hleft => .ok (.exhausted streamId hplaying haccepts hleft)) fun hdone =>
    .bind .mapError fun queue hqueue => .ok ?_
  rw [not_or, not_not, not_not] at hdone
  exact .finished streamId queue hplaying haccepts hdone hqueue

/-- What an audio event does to the deck. -/
theorem applyAudio_deck (event : AudioEvent) :
    Returns (fun applied => s.deck.Plays event applied.1.deck) (s.applyAudio event) := by
  cases event with
  | playbackStateChanged state =>
    refine .ok ?_
    rw [changePlaybackState_deck]
    exact .changed state
  | positionAdvanced => exact advancePosition_deck
  | trackBoundaryApplied => exact applyTrackBoundary_deck
  | trackBoundaryScheduled => exact scheduleTrackBoundary_deck
  | synchronizationUpdated deviceId summary => exact .ok (.synchronized deviceId summary)
  | endOfStream => exact endStream_deck
  | underrun missingFrames =>
    exact .andThen fun _ => .andThen fun _ => .ok (.underran missingFrames)
  | failed error => exact .ok (.failed error)

/-- The lifecycle that follows playback leaves the deck alone. -/
theorem followTransition_deck {retryable : Bool} {transition : Option PlaybackState} :
    Returns (fun followed => followed.deck = s.deck)
      (s.followTransition retryable transition) := by
  unfold followTransition
  split
  · exact .andThen fun _ => .ok rfl
  · exact .andThen fun _ => .ok rfl
  · exact .ite (fun _ => .ok rfl) fun _ => .ok rfl
  · exact .ite (fun _ => .ok rfl) fun _ => .ok rfl
  · exact .ok rfl
  · exact .ok rfl
  · exact .ok rfl
  · exact .ok rfl

theorem applyAudioWithHostLifecycle_deck (event : AudioEvent) :
    Returns (fun applied => s.deck.Plays event applied.1.deck)
      (s.applyAudioWithHostLifecycle event) := by
  refine .bind (applyAudio_deck event) ?_
  rintro ⟨played, outcome⟩ hplays
  refine .ite (fun _ => .bind followTransition_deck fun followed hfollowed => .ok ?_)
    fun _ => .ok hplays
  exact hfollowed.symm ▸ hplays

theorem applyHostAudio_deck (event : AudioEvent) :
    Returns (fun applied => s.deck.Plays event applied.1.deck) (s.applyHostAudio event) := by
  refine .andThen fun _ => .ite (fun _ => .bind (applyAudio_deck event) ?_) fun _ =>
    applyAudioWithHostLifecycle_deck event
  exact fun _ hplays => .ok hplays

theorem applyAudioControl_deck (event : AudioEvent) :
    Returns (fun applied => s.deck.Plays event applied.1.deck) (s.applyAudioControl event) := by
  refine .ite (fun _ => applyAudioWithHostLifecycle_deck event) fun _ =>
    .ite (fun hstarts => ?_) fun _ => applyHostAudio_deck event
  refine .bind (applyHostAudio_deck _) ?_
  rintro ⟨candidate, outcome⟩ hplays
  obtain ⟨hreports, hbuffering⟩ := hstarts
  cases event with
  | positionAdvanced streamId positionMs =>
    have hzero : positionMs = 0 := of_decide_eq_true hreports
    subst hzero
    refine (applyAudio_deck _).imp ?_
    rintro ⟨played, outcome⟩ hadvanced
    -- The report follows the change to playing, so the stream is the new one.
    generalize played.deck = d at hadvanced ⊢
    have hdeck : candidate.deck = s.deck.change .playing := by
      generalize candidate.deck = d' at hplays
      cases hplays
      rfl
    rw [hdeck] at hadvanced
    cases hadvanced with
    | advanced _ _ hplaying haccepts => exact .started streamId hbuffering haccepts
    | started _ hplaying =>
      rw [Deck.playback_change] at hplaying
      cases hplaying
  | _ => cases hreports

/-! ## Dispatch -/

theorem applyCommand_deck (command : CoreCommand) :
    StepsDeck s (.command operationId ⟨revision, command⟩)
      (s.applyCommand operationId command) := by
  cases command with
  | selectRole => exact steps selectRole_deck
  | updateHostDraft => exact updateHostDraft_deck
  | appendHostQueue => exact appendHostQueue_deck
  | reorderHostQueue => exact reorderHostQueue_deck
  | removeHostQueueEntry => exact removeHostQueueEntry_deck
  | clearHostQueue => exact clearHostQueue_deck
  | createHostSession => exact steps createHostSession_deck
  | endHostSession => exact steps endHostSession_deck
  | startDiscovery => exact steps startDiscovery_deck
  | stopDiscovery => exact steps stopDiscovery_deck
  | selectSession => exact steps selectSession_deck
  | submitJoin => exact steps submitJoin_deck
  | cancelJoin => exact steps cancelJoin_deck
  | exportDiagnostics => exact steps exportDiagnostics_deck
  | retryRecoverableFailure => exact steps retryRecoverable_deck
  | updateTuning => exact steps updateTuning_deck
  | shutdown => exact steps (.ok rfl)
  | approveJoin => exact steps approveJoin_deck
  | rejectJoin => exact steps rejectJoin_deck
  | removeListener => exact steps removeListener_deck
  | _ => exact .error

/-- A handled input makes a step of the deck. -/
theorem apply_deck (input : CoreActorInput) : StepsDeck s input (s.apply input) := by
  cases input with
  | command operationId request => exact .andThen fun _ => applyCommand_deck request.command
  | platform event => exact applyPlatform_deck event
  | transport event => exact applyTransport_deck event
  | audio event =>
    exact (applyAudioControl_deck event).imp fun _ hplays => .played event _ hplays
  | storage event => exact steps (routeStorage_deck event)

/-! ## Messages -/

variable {candidate : ActorState} {outcome : ApplyOutcome} {message : ActorMessage}

theorem handle_deck (h : s.handle message = .ok (candidate, outcome)) :
    DeckStep s message.asInput candidate.deck :=
  apply_deck _ _ (apply_of_handle h)

theorem deck_published (candidate : ActorState) (outcome : ApplyOutcome) :
    (candidate.published outcome).deck =
      { candidate.deck with revision := (candidate.published outcome).snapshot.revision } := by
  unfold published
  split_ifs <;> rfl

/-- A message leaves the state alone, or commits a step of the deck, perhaps under another
revision. -/
theorem receive_deck (s : ActorState) (message : ActorMessage) :
    actor.next s message = s ∨ ∃ d revision, DeckStep s message.asInput d ∧
      (actor.next s message).deck = { d with revision } := by
  rcases receive_cases s message with ⟨hsame, -⟩ | ⟨candidate, outcome, hhandle, -, hnext, -⟩
  · exact .inl hsame
  · exact .inr ⟨candidate.deck, _, handle_deck hhandle,
      (congrArg deck hnext).trans (deck_published candidate outcome)⟩

/-- A property of decks that every step keeps, whatever the revision, is one of all reachable
states. -/
theorem deck_of_reachable {I : Deck → Prop}
    (hnew : ∀ localDeviceId sessionIdNamespace, I (new localDeviceId sessionIdNamespace).deck)
    (hrevision : ∀ d revision, I d → I { d with revision })
    (hstep : ∀ s input d, DeckStep s input d → I s.deck → I d) (hs : actor.Reachable s) :
    I s.deck := by
  refine hs.invariant (I := fun s => I s.deck) ?_ fun s message hs => ?_
  · rintro _ ⟨localDeviceId, sessionIdNamespace, rfl⟩
    exact hnew localDeviceId sessionIdNamespace
  · rcases s.receive_deck message with hsame | ⟨d, revision, hd, hdeck⟩
    · rw [hsame]
      exact hs
    · rw [hdeck]
      exact hrevision d revision (hstep s _ d hd hs)

end ActorState

end SilentDisco
