import SilentDisco.Runtime.Actor.Core

/-!
# Refinement: commands

Every command of the draft, the queue, the host session and the listener makes an abstract
step.

## Main results

* `updateHostDraft_refines`, `createHostSession_refines`, `endHostSession_refines`,
  `retryRecoverable_refines`, `cancelJoin_refines` and their siblings: one theorem a handler
-/

namespace SilentDisco

open Result Unique

variable {s s' : ActorState} {outcome : ApplyOutcome} {input : CoreActorInput} in
theorem Refines.of_core {c : Core} {requests : List TransportEffectRequest}
    (hstep : s.core.Step input c requests) (hcore : s'.core = c)
    (hrequests : transportRequests outcome.notifications = requests)
    (hunchanged : outcome.changed = false → s'.snapshot = s.snapshot) :
    Refines s input s' outcome := by
  subst hcore hrequests
  exact ⟨hstep, hunchanged⟩

variable {s s' : ActorState} {outcome : ApplyOutcome} {input : CoreActorInput} in
/-- A step that reports a change. -/
theorem Refines.of_step
    (hstep : s.core.Step input s'.core (transportRequests outcome.notifications))
    (hchanged : outcome.changed = true) : Refines s input s' outcome :=
  ⟨hstep, fun hunchanged => absurd (hchanged.symm.trans hunchanged) (by decide)⟩

/-- What a handler returns refines its input. -/
abbrev Refined (s : ActorState) (input : CoreActorInput) : Applied → Prop :=
  Returns fun applied => Refines s input applied.1 applied.2

namespace ActorState

variable {s s' : ActorState} {outcome : ApplyOutcome} {operationId : OperationId}
  {revision : SnapshotRevision} {expected : UInt64} {sessionId : SessionId}

theorem core_fresh {id : OperationId} (hstart : s.CanStart) (hid : s.IsNext id) : s.core.Fresh id :=
  ⟨hstart.1, hstart.2, hid⟩

/-- An operation that is started has a fresh identifier. -/
theorem startPlatformOperation_fresh {request : PlatformEffectRequest}
    {op : PendingPlatformOperation} :
    Returns (fun started => ∃ id, s.core.Fresh id ∧ started = (s.pushPlatform id op, ⟨id, request⟩))
      (s.startPlatformOperation request op) := by
  rintro ⟨s', effect⟩ h
  obtain ⟨hstart, -, id, hid, rfl, rfl⟩ := startPlatformOperation_eq_ok.mp h
  exact ⟨id, core_fresh hstart hid, rfl⟩

theorem startTransportOperation_fresh {request : TransportEffectRequest}
    {op : PendingTransportOperation} :
    Returns
      (fun started => ∃ id, s.core.Fresh id ∧ started = (s.pushTransport id op, ⟨id, request⟩))
      (s.startTransportOperation request op) := by
  rintro ⟨s', effect⟩ h
  obtain ⟨hstart, -, id, hid, rfl, rfl⟩ := startTransportOperation_eq_ok.mp h
  exact ⟨id, core_fresh hstart hid, rfl⟩

theorem startStorageOperation_fresh {request : StorageEffectRequest}
    {op : PendingStorageOperation} :
    Returns (fun started => ∃ id, s.core.Fresh id ∧ started = (s.pushStorage id op, ⟨id, request⟩))
      (s.startStorageOperation request op) := by
  rintro ⟨s', effect⟩ h
  obtain ⟨hstart, -, id, hid, rfl, rfl⟩ := startStorageOperation_eq_ok.mp h
  exact ⟨id, core_fresh hstart hid, rfl⟩

theorem not_hasPending :
    ¬s.HasPending ↔ s.pendingPlatform = [] ∧ s.pendingTransport = [] ∧ s.pendingStorage = [] := by
  rw [HasPending, not_or, not_or, not_not, not_not, not_not]

/-! ## Draft, queue and tuning -/

theorem selectRole_refines {role : AppRole} :
    Refined s (.command operationId ⟨revision, .selectRole role⟩)
      (s.selectRole operationId role) := by
  refine .bind .rejectIf fun _ hguard => ?_
  rw [not_or, not_or, not_not, not_hasPending] at hguard
  obtain ⟨hhost, -, hpending⟩ := hguard
  refine .ite (fun _ => .ok ⟨.quiet _, fun _ => rfl⟩) fun _ => .ok ?_
  exact .of_step (.roleSelected _ _ role hhost hpending) rfl

/-- An edit that keeps the core except for the policy and the reservations. -/
theorem edited_refines {request : CoreCommandRequest} (hedit : request.command.isEdit = true)
    (hcore : s'.core = { s.core with
      approvalMode := s'.snapshot.hostDraft.approvalMode, reserved := s'.pendingHostBoundaries })
    (hmode : s'.snapshot.hostDraft.approvalMode = s.snapshot.hostDraft.approvalMode ∨
      s.snapshot.hostLifecycle = .idle ∨ s.snapshot.hostLifecycle = .error)
    (hreserved : s'.pendingHostBoundaries = s.pendingHostBoundaries ∨
      s'.pendingHostBoundaries = []) :
    Refines s (.command operationId request) s' .changedOnly := by
  refine .of_step ?_ rfl
  rw [hcore]
  exact .edited _ _ hedit _ _ hmode hreserved

theorem clearStaleHostQueueBoundary_cases (s : ActorState) :
    s.clearStaleHostQueueBoundary = s ∨
      s.clearStaleHostQueueBoundary = s.clearHostBoundaryReservations := by
  unfold clearStaleHostQueueBoundary
  split_ifs
  · exact .inr rfl
  · exact .inl rfl

theorem replaceDraftSource_cases {updated : HostDraft} :
    Returns (fun s' => ∃ queue, s' = { s with snapshot.hostQueue := queue } ∨
        s' = ({ s with snapshot.hostQueue := queue }).clearHostBoundaryReservations)
      (s.replaceDraftSource operationId updated) :=
  .ite (fun _ => .ok ⟨s.snapshot.hostQueue, .inl rfl⟩) fun _ =>
    .andThen fun _ => .andThen fun queue => .ok ⟨queue, clearStaleHostQueueBoundary_cases _⟩

/-- Outside the editable lifecycles a patch changes only the audio source. -/
theorem approvalMode_patched {draft updated : HostDraft} {patch : HostDraftPatch}
    (h : draft.patched patch = .ok updated) (hmode : patch.approvalMode = none) :
    updated.approvalMode = draft.approvalMode := by
  unfold HostDraft.patched at h
  obtain ⟨name, -, h⟩ := bind_eq_ok.mp h
  obtain ⟨code, -, h⟩ := bind_eq_ok.mp h
  obtain ⟨⟨⟩, -, h⟩ := bind_eq_ok.mp h
  cases h
  simp [hmode]

theorem updateHostDraft_refines {patch : HostDraftPatch} :
    Refined s (.command operationId ⟨revision, .updateHostDraft patch⟩)
      (s.updateHostDraft operationId patch) := by
  refine .andThen fun _ => .bind .rejectIf fun _ hguard => .bind .mapError fun updated hpatched =>
    .bind replaceDraftSource_cases fun replaced hreplaced => .ok ?_
  have hmode : updated.approvalMode = s.snapshot.hostDraft.approvalMode ∨
      s.snapshot.hostLifecycle = .idle ∨ s.snapshot.hostLifecycle = .error := by
    rw [not_and_or, not_not, not_not] at hguard
    rcases hguard with hlifecycle | hswitch
    · exact .inr hlifecycle
    · exact .inl (approvalMode_patched hpatched hswitch.2.2.2.1)
  obtain ⟨queue, rfl | rfl⟩ := hreplaced
  · exact edited_refines rfl rfl hmode (.inl rfl)
  · exact edited_refines rfl rfl hmode (.inr rfl)

theorem withHostQueue_refines (s : ActorState) (queue : HostQueue) {request : CoreCommandRequest}
    (hedit : request.command.isEdit = true) :
    Refines s (.command operationId request) (s.withHostQueue queue) .changedOnly := by
  unfold withHostQueue
  rcases clearStaleHostQueueBoundary_cases
      ({ s with snapshot.hostQueue := queue }).syncLegacyAudioSource with hstale | hstale
  · rw [hstale]
    exact edited_refines hedit rfl (.inl rfl) (.inl rfl)
  · rw [hstale]
    exact edited_refines hedit rfl (.inl rfl) (.inr rfl)

theorem appendHostQueue_refines {entries : List QueueEntry} :
    Refined s (.command operationId ⟨revision, .appendHostQueue expected entries⟩)
      (s.appendHostQueue operationId expected entries) :=
  .andThen fun _ => .andThen fun queue => .ok (withHostQueue_refines s queue rfl)

theorem reorderHostQueue_refines {orderedEntryIds : List String} :
    Refined s (.command operationId ⟨revision, .reorderHostQueue expected orderedEntryIds⟩)
      (s.reorderHostQueue operationId expected orderedEntryIds) :=
  .andThen fun _ => .andThen fun _ => .andThen fun queue => .ok (withHostQueue_refines s queue rfl)

theorem removeHostQueueEntry_refines {entryId : String} :
    Refined s (.command operationId ⟨revision, .removeHostQueueEntry expected entryId⟩)
      (s.removeHostQueueEntry operationId expected entryId) :=
  .andThen fun _ => .andThen fun _ => .andThen fun queue => .ok (withHostQueue_refines s queue rfl)

theorem clearHostQueue_refines :
    Refined s (.command operationId ⟨revision, .clearHostQueue expected⟩)
      (s.clearHostQueue operationId expected) :=
  .andThen fun _ => .andThen fun _ => .andThen fun _ =>
    .ok (edited_refines rfl rfl (.inl rfl) (.inr rfl))

theorem updateTuning_refines {patch : TuningPatch} :
    Refined s (.command operationId ⟨revision, .updateTuning patch⟩)
      (s.updateTuning operationId patch) := by
  refine .andThen fun _ => .andThen fun settings => .ite (fun _ => .ok ⟨.quiet _, fun _ => rfl⟩)
    fun _ => .bind startStorageOperation_fresh ?_
  rintro _ ⟨id, hfresh, rfl⟩
  exact .ok (.of_step (.tuningWriteStarted _ _ patch id settings hfresh) rfl)

theorem validateToken_exportName {n : ℕ} (hn : n + 1 < 2 ^ 64) :
    validateToken (exportName n) maxExportIdBytes RuntimeContractError.exportId = .ok () := by
  have hplain : IsPlain (exportName n) := isPlain_append_repr (by simp) n
  have hlength := length_append_repr_le "diagnostics-" (Nat.lt_of_succ_lt hn)
  exact hplain.validateToken (hlength.trans (by decide)) _

/-- The state after an export of the diagnostics started. -/
def pushExport (s : ActorState) (id : OperationId) : ActorState :=
  ({ s with nextExportSequence := s.nextExportSequence + 1 }).pushPlatform id
    (.shareDiagnostics (exportName s.nextExportSequence))

theorem exportDiagnostics_eq_ok :
    s.exportDiagnostics = .ok (s', outcome) ↔
      s.nextExportSequence + 1 < 2 ^ 64 ∧ s.CanStart ∧ ∃ id, s.IsNext id ∧ s' = s.pushExport id ∧
        outcome = .effect ⟨id, .shareDiagnostics (exportName s.nextExportSequence)⟩ := by
  simp only [exportDiagnostics, nextExportId, bind_eq_ok, check_eq_ok, exists_iff,
    Prod.exists, pure, Except.pure, Except.ok.injEq, Prod.mk.injEq, startPlatformOperation_eq_ok]
  constructor
  · rintro ⟨_, _, ⟨hexport, rfl, rfl⟩, _, _, ⟨hstart, -, id, hid, rfl, rfl⟩, rfl, rfl⟩
    exact ⟨hexport, hstart, id, hid, rfl, rfl⟩
  · rintro ⟨hexport, hstart, id, hid, rfl, rfl⟩
    exact ⟨_, _, ⟨hexport, rfl, rfl⟩, _, _,
      ⟨hstart, validateToken_exportName hexport, id, hid, rfl, rfl⟩, rfl, rfl⟩

theorem exportDiagnostics_refines :
    Refined s (.command operationId ⟨revision, .exportDiagnostics⟩) s.exportDiagnostics := by
  rintro ⟨s', outcome⟩ h
  obtain ⟨hexport, hstart, id, hid, rfl, rfl⟩ := exportDiagnostics_eq_ok.mp h
  exact .of_step (.platformStarted _ _ id _ (.exportDiagnostics _ hexport) (core_fresh hstart hid))
    rfl

/-! ## Host session and listener -/

theorem startHostAdvertising_eq_ok {effect : PlatformEffect}
    (h : s.startHostAdvertising operationId sessionId = .ok (s', effect)) :
    s.CanStart ∧ ∃ id, s.IsNext id ∧ s' = s.pushPlatform id (.startAdvertising sessionId) := by
  unfold startHostAdvertising at h
  obtain ⟨advertisement, -, h⟩ := bind_eq_ok.mp h
  obtain ⟨hstart, -, id, hid, rfl, -⟩ := startPlatformOperation_eq_ok.mp h
  exact ⟨hstart, id, hid, rfl⟩

theorem nextSessionId_eq_ok (h : s.nextSessionId = .ok (sessionId, s')) :
    s' = { s with nextSessionSequence := s.nextSessionSequence + 1 } := by
  unfold nextSessionId at h
  obtain ⟨⟨⟩, -, h⟩ := bind_eq_ok.mp h
  obtain ⟨sessionId, -, h⟩ := bind_eq_ok.mp h
  cases h
  rfl

theorem createHostSession_eq_ok (h : s.createHostSession operationId = .ok (s', outcome)) :
    s.snapshot.selectedRole = some .host ∧
      (s.snapshot.hostLifecycle = .idle ∨ s.snapshot.hostLifecycle = .error) ∧
      ∃ id sessionId, s.core.Fresh id ∧
        s'.core = { s.core.startPlatform id (.startAdvertising sessionId) with
          session := some sessionId, lifecycle := .creatingSession, transport := .idle } ∧
        ∃ started, outcome = .effect started := by
  unfold createHostSession requireRole at h
  simp only [bind_eq_ok, check_eq_ok, exists_iff, Prod.exists] at h
  obtain ⟨hrole, hlifecycle, -, sessionId, _, hnext, _, started, hadvertise, hout⟩ := h
  obtain rfl := nextSessionId_eq_ok hnext
  obtain ⟨hstart, id, hid, rfl⟩ := startHostAdvertising_eq_ok hadvertise
  cases hout
  exact ⟨hrole, hlifecycle, id, sessionId, core_fresh hstart hid, rfl, started, rfl⟩

theorem createHostSession_refines :
    Refined s (.command operationId ⟨revision, .createHostSession⟩)
      (s.createHostSession operationId) := by
  rintro ⟨s', outcome⟩ h
  obtain ⟨hrole, hlifecycle, id, sessionId, hfresh, hcore, started, rfl⟩ :=
    createHostSession_eq_ok h
  exact .of_core (.created _ _ id sessionId hrole hlifecycle hfresh) hcore rfl Bool.noConfusion

/-- The state after the end of the session started. -/
def pushEnding (s : ActorState) (id : OperationId) : ActorState :=
  { s.pushPlatform id .stopAdvertising with
    snapshot := { s.snapshot with hostLifecycle := .endingSession } }

theorem endHostSession_eq_ok :
    s.endHostSession operationId = .ok (s', outcome) ↔
      s.snapshot.selectedRole = some .host ∧
        (s.hostSessionId ≠ none ∧ s.snapshot.hostLifecycle ≠ .idle ∧
          s.snapshot.hostLifecycle ≠ .endingSession) ∧ s.CanStart ∧ ∃ id, s.IsNext id ∧
        s' = s.pushEnding id ∧ outcome = .effect ⟨id, .stopAdvertising⟩ := by
  simp only [endHostSession, requireRole, bind_eq_ok, check_eq_ok, rejectIf_eq_ok,
    exists_iff, Prod.exists, startPlatformOperation_eq_ok, not_or, pure, Except.pure,
    Except.ok.injEq, Prod.mk.injEq]
  constructor
  · rintro ⟨hrole, hsession, _, _, ⟨hstart, -, id, hid, rfl, rfl⟩, rfl, rfl⟩
    exact ⟨hrole, hsession, hstart, id, hid, rfl, rfl⟩
  · rintro ⟨hrole, hsession, hstart, id, hid, rfl, rfl⟩
    exact ⟨hrole, hsession, _, _, ⟨hstart, rfl, id, hid, rfl, rfl⟩, rfl, rfl⟩

theorem endHostSession_refines :
    Refined s (.command operationId ⟨revision, .endHostSession⟩)
      (s.endHostSession operationId) := by
  refine .bind .check fun _ hrole => .bind .rejectIf fun _ hguard =>
    .bind startPlatformOperation_fresh ?_
  rintro _ ⟨id, hfresh, rfl⟩
  exact .ok (.of_step (.ended _ _ id hrole (not_or.mp hguard).1 hfresh) rfl)

theorem retryHostSession_eq_ok (h : s.retryHostSession operationId = .ok (s', outcome)) :
    s.snapshot.selectedRole = some .host ∧
      (s.pendingPlatform = [] ∧ s.pendingTransport = [] ∧ s.pendingStorage = []) ∧
      ∃ id sessionId, s.hostSessionId = some sessionId ∧ s.core.Fresh id ∧
        s'.core = { s.core.startPlatform id (.startAdvertising sessionId) with
          lifecycle := .creatingSession, transport := .idle } ∧
        ∃ started, outcome = .effect started := by
  unfold retryHostSession requireRole at h
  simp only [bind_eq_ok, check_eq_ok, rejectIf_eq_ok, exists_iff, not_hasPending] at h
  obtain ⟨hrole, hpending, -, h⟩ := h
  split at h
  · cases h
  · next sessionId hsession =>
    simp only [bind_eq_ok, Prod.exists] at h
    obtain ⟨_, started, hadvertise, hout⟩ := h
    obtain ⟨hstart, id, hid, rfl⟩ := startHostAdvertising_eq_ok hadvertise
    cases hout
    exact ⟨hrole, hpending, id, sessionId, hsession, core_fresh hstart hid, rfl, started, rfl⟩

theorem retryHostSession_refines :
    Refined s (.command operationId ⟨revision, .retryRecoverableFailure⟩)
      (s.retryHostSession operationId) := by
  rintro ⟨s', outcome⟩ h
  obtain ⟨hrole, hpending, id, sessionId, hsession, hfresh, hcore, started, rfl⟩ :=
    retryHostSession_eq_ok h
  exact .of_core (.retried _ _ id sessionId hrole hsession hpending hfresh) hcore rfl
    Bool.noConfusion

theorem retryListenerConnection_refines :
    Refined s (.command operationId ⟨revision, .retryRecoverableFailure⟩)
      (s.retryListenerConnection operationId) := by
  refine .andThen fun _ => .andThen fun _ => .bind startPlatformOperation_fresh ?_
  rintro _ ⟨id, hfresh, rfl⟩
  exact .ok (.of_step (.rescanned _ _ id hfresh) rfl)

theorem retryRecoverable_refines :
    Refined s (.command operationId ⟨revision, .retryRecoverableFailure⟩)
      (s.retryRecoverable operationId) := by
  unfold retryRecoverable
  split
  · exact .error
  · exact .error
  · refine .andThen fun _ => .ite (fun _ => retryHostSession_refines) fun _ => ?_
    exact .ite (fun _ => retryListenerConnection_refines) fun _ => .ok (.of_step (.quiet _) rfl)

theorem startDiscovery_refines :
    Refined s (.command operationId ⟨revision, .startDiscovery⟩)
      (s.startDiscovery operationId) := by
  refine .andThen fun _ => .andThen fun _ => .andThen fun _ => .bind startPlatformOperation_fresh ?_
  rintro _ ⟨id, hfresh, rfl⟩
  exact .ok (.of_step (.platformStarted _ _ id _ .startDiscovery hfresh) rfl)

theorem stopDiscovery_refines :
    Refined s (.command operationId ⟨revision, .stopDiscovery⟩) (s.stopDiscovery operationId) := by
  refine .andThen fun _ => .andThen fun _ => .bind startPlatformOperation_fresh ?_
  rintro _ ⟨id, hfresh, rfl⟩
  exact .ok (.of_step (.platformStarted _ _ id _ .stopDiscovery hfresh) rfl)

theorem selectSession_refines :
    Refined s (.command operationId ⟨revision, .selectSession sessionId⟩)
      (s.selectSession operationId sessionId) := by
  refine .andThen fun _ => .bind .check fun _ hknown =>
    .ite (fun _ => .ok ⟨.quiet _, fun _ => rfl⟩) fun _ => .andThen fun _ => .ok ?_
  exact .of_step (.sessionSelected _ _ sessionId (List.mem_map.mpr hknown)) rfl

theorem submitJoin_refines {inviteCode : Option String} :
    Refined s (.command operationId ⟨revision, .submitJoin inviteCode⟩)
      (s.submitJoin operationId) := by
  refine .andThen fun _ => .andThen fun _ => .andThen fun advertisement =>
    .bind startPlatformOperation_fresh ?_
  rintro _ ⟨id, hfresh, rfl⟩
  exact .ok (.of_step (.joinSubmitted _ _ _ id advertisement.sessionId hfresh) rfl)

theorem cancelJoin_refines :
    Refined s (.command operationId ⟨revision, .cancelJoin⟩) (s.cancelJoin operationId) := by
  refine .andThen fun _ => .ite (fun _ => .bind startPlatformOperation_fresh ?_) fun _ =>
    .ok (.of_step (.joinCancelled _ _) rfl)
  rintro _ ⟨id, hfresh, rfl⟩
  exact .ok (.of_step (.platformStarted _ _ id _ .cancelJoin hfresh) rfl)

end ActorState

end SilentDisco
