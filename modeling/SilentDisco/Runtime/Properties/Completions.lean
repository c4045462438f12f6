import SilentDisco.Runtime.Properties.Tracking

/-!
# Completions

A completion is handled on a candidate state that is dropped when a later step of the handler
fails, so the completed operation is removed only if the handler goes through. We say exactly
when it does. The completion that ends the host session also removes the session's deliveries
and trust writes.

## Main definitions

* `ActorState.Completes`: the completions of a pending operation's own kind
* `ActorState.Removes`, `ActorState.RemovesExactly`: what a step removes
* `ActorState.Settles`: what the handlers of completions require

## Main results

* `completion_removes_iff`: when a completion removes exactly its operation
-/

namespace SilentDisco

open Result PendingStorageOperation RuntimeRecordValidationError Keyed

/-- The completion of a platform operation's own kind. -/
def PendingPlatformOperation.MatchedBy :
    PendingPlatformOperation → PlatformOperationCompletion → Prop
  | .startAdvertising _, .advertisingStarted | .stopAdvertising, .advertisingStopped
  | .startDiscovery, .discoveryStarted | .stopDiscovery, .discoveryStopped
  | .establishNetwork _, .networkEndpointReady _ | .releaseNetwork, .networkReleased => True
  | .shareDiagnostics exportId, .diagnosticsShared shared => exportId = shared
  | _, _ => False

/-- The completion of a storage operation's own kind. -/
def PendingStorageOperation.MatchedBy : PendingStorageOperation → StorageCompletion → Prop
  | .persistTuning _, .settingsSaved => True
  | .persistApprovalTrust persistence, .trustedDeviceUpdated deviceId =>
    persistence.deviceId = deviceId
  | _, _ => False

theorem PendingStorageOperation.matchedBy_tuning {settings : TuningSettings}
    {completion : StorageCompletion}
    (h : (persistTuning settings).MatchedBy completion) : completion = .settingsSaved := by
  cases completion with
  | settingsSaved => rfl
  | _ => exact False.elim h

theorem PendingStorageOperation.matchedBy_trust {persistence : TrustPersistenceRequest}
    {completion : StorageCompletion}
    (h : (persistApprovalTrust persistence).MatchedBy completion) :
    completion = .trustedDeviceUpdated persistence.deviceId := by
  cases completion with
  | trustedDeviceUpdated => exact congrArg _ (Eq.symm h)
  | _ => exact False.elim h

/-- The failure names the operation, or none. -/
def CoreError.Concerns (error : CoreError) (id : OperationId) : Prop :=
  ∀ inner ∈ error.operationId, inner = id

namespace ActorState

variable {s s' : ActorState} {input : CoreActorInput} {outcome : ApplyOutcome}
  {id : OperationId} {op : PendingPlatformOperation} {completion : PlatformOperationCompletion}
  {persistence : TrustPersistenceRequest} {event : StorageEvent}

/-- The completions of the pending operation `id`. -/
inductive Completes (s : ActorState) (id : OperationId) : CoreActorInput → Prop
  | platformSucceeded (op : PendingPlatformOperation) (completion : PlatformOperationCompletion)
      (hop : (id, op) ∈ s.pendingPlatform) (hmatch : op.MatchedBy completion) :
      Completes s id (.platform (.operationSucceeded id completion))
  | platformFailed (op : PendingPlatformOperation) (error : CoreError)
      (hop : (id, op) ∈ s.pendingPlatform) (hconcerns : error.Concerns id) :
      Completes s id (.platform (.operationFailed id error))
  | delivered (op : PendingTransportOperation) (report : DeliveryReport)
      (hop : (id, op) ∈ s.pendingTransport) :
      Completes s id (.transport (.deliveryCompleted id report))
  | stored (op : PendingStorageOperation) (completion : StorageCompletion)
      (hop : (id, op) ∈ s.pendingStorage) (hmatch : op.MatchedBy completion) :
      Completes s id (.storage (.operationSucceeded id completion))
  | storageFailed (op : PendingStorageOperation) (error : CoreError)
      (hop : (id, op) ∈ s.pendingStorage) (hconcerns : error.Concerns id) :
      Completes s id (.storage (.operationFailed id error))

/-- The operation `id` is removed and every other one is kept, except for the deliveries and
trust writes of a session that ends. -/
structure Removes (s : ActorState) (id : OperationId) (ends : Prop) (s' : ActorState) : Prop where
  platform : ∀ entry ∈ s.pendingPlatform, entry ∈ s'.pendingPlatform ↔ entry.1 ≠ id
  deliveries : ∀ entry ∈ s.pendingTransport, entry ∈ s'.pendingTransport ↔ entry.1 ≠ id ∧ ¬ends
  writes : ∀ entry ∈ s.pendingStorage,
    entry ∈ s'.pendingStorage ↔ entry.1 ≠ id ∧ (ends → entry.2.isTuning = true)

/-- The operation `id` is removed and every other one is kept. -/
def RemovesExactly (s : ActorState) (id : OperationId) (s' : ActorState) : Prop :=
  s.Removes id False s'

/-- The completion that ends the host session. -/
def EndsSession (s : ActorState) : CoreActorInput → Prop
  | .platform (.operationSucceeded id _) => s.pending id = some .stopAdvertising
  | _ => False

/-- What the success of a platform operation needs. -/
def SettlesSuccess (s : ActorState) : PendingPlatformOperation → Prop
  | .startAdvertising sessionId =>
    s.hostSessionId = some sessionId ∧ s.snapshot.discoveryActive = false
  | .stopAdvertising => s.snapshot.discoveryActive = false
  | .establishNetwork sessionId => s.snapshot.selectedSession = some sessionId
  | .startDiscovery | .stopDiscovery | .releaseNetwork | .shareDiagnostics _ => True

/-- What a delivered decision needs: the request or the listener that it is about. -/
def SettlesDelivery (s : ActorState) : PendingTransportOperation → Prop
  | .approveJoin delivery =>
    (∃ request ∈ s.snapshot.pendingJoinRequests,
      (request.requestId = delivery.requestId ∧ request.deviceId = delivery.deviceId) ∧
      validateHumanText request.displayName Protocol.maxDisplayNameBytes
        deviceDisplayName = .ok ()) ∧
      ((∃ listener ∈ s.snapshot.listeners, listener.deviceId = delivery.deviceId) ∨
        s.snapshot.listeners.length < maxConnectedListeners)
  | .rejectJoin requestId listenerId _ => s.Awaits requestId listenerId
  | .disconnectListener listenerId =>
    ∃ listener ∈ s.snapshot.listeners, listener.deviceId = listenerId

/-- What the handler of a completion needs to go through. -/
def Settles (s : ActorState) : CoreActorInput → Prop
  | .platform (.operationSucceeded id _) => ∀ op ∈ s.pending id, s.SettlesSuccess op
  | .platform (.operationFailed id _) =>
    ∀ op ∈ s.pending id, op.isAdvertising = true → s.snapshot.discoveryActive = false
  | .transport (.deliveryCompleted id report) =>
    (classifyDelivery report).commitsDomainDecision = true →
      ∀ op ∈ s.pendingTransport.lookup id, s.SettlesDelivery op
  | .storage event =>
    ∀ op ∈ s.pendingStorageOperation event.operationId,
      op.isTuning = false → s.nextEffectSequence + 1 < 2 ^ 64
  | _ => True

/-- The revision and the pending operations stay. -/
def KeepsOperations (s s' : ActorState) : Prop :=
  s'.snapshot.revision = s.snapshot.revision ∧ s'.pendingPlatform = s.pendingPlatform ∧
    s'.pendingTransport = s.pendingTransport ∧ s'.pendingStorage = s.pendingStorage

/-! ### What a commit removes -/

theorem Completes.not_removes_self (h : s.Completes id input) (ends : Prop) :
    ¬s.Removes id ends s := by
  intro hremoves
  cases h with
  | platformSucceeded _ _ hop | platformFailed _ _ hop =>
    exact (hremoves.platform _ hop).mp hop rfl
  | delivered _ _ hop => exact ((hremoves.deliveries _ hop).mp hop).1 rfl
  | stored _ _ hop | storageFailed _ _ hop =>
    exact ((hremoves.writes _ hop).mp hop).1 rfl

theorem removes_published {candidate : ActorState} {ends : Prop} :
    s.Removes id ends (candidate.published outcome) ↔ s.Removes id ends candidate := by
  unfold published
  split_ifs
  · exact ⟨fun ⟨hp, hd, hw⟩ => ⟨hp, hd, hw⟩, fun ⟨hp, hd, hw⟩ => ⟨hp, hd, hw⟩⟩
  · exact Iff.rfl

/-- The input removes the operation `id` if and only if it is settled. -/
def RemovesIff (s : ActorState) (id : OperationId) (input : CoreActorInput) : Prop :=
  s.Removes id (s.EndsSession input) (actor.next s (.input input)) ↔
    s.snapshot.revision.get.toNat + 1 < 2 ^ 64 ∧ s.Settles input

/-- A completion removes its operation if its handler goes through and the candidate is
committed. -/
theorem Completes.removes_iff (hs : actor.Reachable s) (hcompletes : s.Completes id input)
    {needs : Prop} (hsettles : s.Settles input ↔
      needs ∧ ¬(s.snapshot.discoveryActive = true ∧ s.DropsDiscovery input))
    (hok : ∀ candidate outcome, s.apply input = .ok (candidate, outcome) →
      needs ∧ outcome.changed = true ∧ candidate.snapshot.revision = s.snapshot.revision ∧
        s.Removes id (s.EndsSession input) candidate)
    (hex : needs → ∃ candidate outcome, s.apply input = .ok (candidate, outcome)) :
    s.RemovesIff id input := by
  have hvalid := valid_of_reachable hs
  rw [RemovesIff, hsettles]
  constructor
  · intro hremoves
    rcases s.receive_cases (.input input) with
      ⟨hstate, -⟩ | ⟨candidate, outcome, happly, hcommit, -, -⟩
    · change s.Removes id _ (s.receive (.input input)).1 at hremoves
      rw [hstate] at hremoves
      exact absurd hremoves (hcompletes.not_removes_self _)
    · obtain ⟨hneeds, hchanged, hrevision, -⟩ := hok candidate outcome happly
      obtain ⟨hnext, hvalid'⟩ := hcommit hchanged
      exact ⟨hrevision ▸ hnext, hneeds, (apply_valid_iff hvalid happly).mp hvalid'⟩
  · rintro ⟨hnext, hneeds, hkeeps⟩
    obtain ⟨candidate, outcome, happly⟩ := hex hneeds
    obtain ⟨-, -, hrevision, hremoves⟩ := hok candidate outcome happly
    have hcommit : candidate.Committable outcome := fun _ =>
      ⟨hrevision ▸ hnext, (apply_valid_iff hvalid happly).mpr hkeeps⟩
    have hhandle : s.handle (.input input) = .ok (candidate, outcome) := happly
    change s.Removes id _ (s.receive (.input input)).1
    rw [(receive_of_committable hhandle hcommit).1]
    exact removes_published.mpr hremoves

theorem removes_platform {ends : Prop} (hc : s.core.Tracked) (hop : (id, op) ∈ s.pendingPlatform)
    (hplatform : s'.pendingPlatform = removeFirst id s.pendingPlatform)
    (hdeliveries : ∀ entry ∈ s.pendingTransport, entry ∈ s'.pendingTransport ↔ ¬ends)
    (hwrites : ∀ entry ∈ s.pendingStorage,
      entry ∈ s'.pendingStorage ↔ (ends → entry.2.isTuning = true)) :
    s.Removes id ends s' where
  platform entry hmem := by
    rw [hplatform]
    exact (mem_removeFirst hc.uniquePlatform).trans (and_iff_right hmem)
  deliveries entry hmem :=
    (hdeliveries entry hmem).trans (and_iff_right (hc.platform_ne_delivery hop hmem).symm).symm
  writes entry hmem :=
    (hwrites entry hmem).trans (and_iff_right (hc.platform_ne_write hop hmem).symm).symm

theorem removes_delivery {op : PendingTransportOperation} (hc : s.core.Tracked)
    (hop : (id, op) ∈ s.pendingTransport)
    (hplatform : s'.pendingPlatform = s.pendingPlatform)
    (hdeliveries : s'.pendingTransport = removeFirst id s.pendingTransport)
    (hwrites : s'.pendingStorage = s.pendingStorage) : s.Removes id False s' where
  platform entry hmem := by
    rw [hplatform]
    exact iff_of_true hmem (hc.platform_ne_delivery hmem hop)
  deliveries entry hmem := by
    rw [hdeliveries, and_iff_left not_false]
    exact (mem_removeFirst hc.uniqueDeliveries).trans (and_iff_right hmem)
  writes entry hmem := by
    rw [hwrites]
    exact iff_of_true hmem ⟨(hc.delivery_ne_write hop hmem).symm, False.elim⟩

/-- The approval that follows a trust write is added to the deliveries. -/
theorem removes_write {op : PendingStorageOperation} (hc : s.core.Tracked)
    (hop : (id, op) ∈ s.pendingStorage)
    (hplatform : s'.pendingPlatform = s.pendingPlatform)
    (hdeliveries : s.pendingTransport ⊆ s'.pendingTransport)
    (hwrites : s'.pendingStorage = removeFirst id s.pendingStorage) : s.Removes id False s' where
  platform entry hmem := by
    rw [hplatform]
    exact iff_of_true hmem (hc.platform_ne_write hmem hop)
  deliveries entry hmem :=
    iff_of_true (hdeliveries hmem) ⟨hc.delivery_ne_write hmem hop, not_false⟩
  writes entry hmem := by
    rw [hwrites, and_iff_left False.elim]
    exact (mem_removeFirst hc.uniqueWrites).trans (and_iff_right hmem)

/-! ### Platform operations -/

theorem field_of_isPlain {key value : String}
    (hkey : validateToken key maxDiagnosticFieldKeyBytes diagnosticFieldKey = .ok ())
    (hvalue : IsPlain value) (hlength : value.toList.length ≤ maxDiagnosticFieldValueBytes) :
    field key value = .ok ⟨key, value⟩ := by
  have hbounded := hvalue.validateBoundedText hlength
    diagnosticFieldValue
  simp only [field, DiagnosticField.new, hkey, hbounded]
  rfl

theorem field_exportName {n : ℕ} (hn : n + 1 < 2 ^ 64) :
    field "export_id" (exportName n) = .ok ⟨"export_id", exportName n⟩ := by
  have hlength := length_append_repr_le "diagnostics-" (Nat.lt_of_succ_lt hn)
  exact field_of_isPlain (by decide) (isPlain_append_repr (by simp) n)
    (hlength.trans (by decide))

/-- What the handler of a platform success looks up. -/
def Recalls (s : ActorState) (op : PendingPlatformOperation) : Prop :=
  (∀ sessionId, op = .startAdvertising sessionId → s.hostSessionId = some sessionId) ∧
    ∀ sessionId, op = .establishNetwork sessionId → s.snapshot.selectedSession = some sessionId

theorem completePlatform_of_recalls (id : OperationId) (hmatch : op.MatchedBy completion)
    (hexports : ∀ exportId, op = .shareDiagnostics exportId →
      ∃ n, n + 1 < 2 ^ 64 ∧ exportId = exportName n) (hrecalls : s.Recalls op) :
    ∃ completed outcome, s.completePlatform id op completion = .ok (completed, outcome) := by
  unfold completePlatform
  split
  case h_2 | h_3 | h_4 | h_6 => exact ⟨_, _, rfl⟩
  · rw [if_pos (hrecalls.1 _ rfl)]
    exact ⟨_, _, rfl⟩
  · rw [if_pos (hrecalls.2 _ rfl)]
    exact ⟨_, _, rfl⟩
  · next expected exportId =>
    obtain ⟨n, hn, rfl⟩ := hexports _ rfl
    have hsame : exportName n = exportId := hmatch
    rw [if_pos hsame, ← hsame, field_exportName hn]
    exact ⟨_, _, rfl⟩
  · -- No other completion is of the operation's kind.
    unfold PendingPlatformOperation.MatchedBy at hmatch
    split at hmatch <;> simp_all

/-- What a successful completion does to the operations. -/
theorem completePlatform_frame (h : s.completePlatform id op completion = .ok (s', outcome)) :
    s.Recalls op ∧ outcome.changed = true ∧ s'.snapshot.revision = s.snapshot.revision ∧
      s'.pendingPlatform = s.pendingPlatform ∧
      (op ≠ .stopAdvertising →
        s'.pendingTransport = s.pendingTransport ∧ s'.pendingStorage = s.pendingStorage) ∧
      (op = .stopAdvertising → s'.pendingTransport = [] ∧
        s'.pendingStorage = s.pendingStorage.filter fun entry => entry.2.isTuning) := by
  unfold completePlatform platformMismatch at h
  split at h
  case h_3 | h_4 | h_6 =>
    cases h
    exact ⟨⟨by simp, by simp⟩, rfl, rfl, rfl, fun _ => ⟨rfl, rfl⟩, by simp⟩
  · split_ifs at h with hsession
    cases h
    refine ⟨⟨fun sessionId heq => ?_, by simp⟩, rfl, rfl, rfl, fun _ => ⟨rfl, rfl⟩, by simp⟩
    cases heq
    exact hsession
  · cases h
    exact ⟨⟨by simp, by simp⟩, rfl, rfl, rfl, fun hne => absurd rfl hne, fun _ => ⟨rfl, rfl⟩⟩
  · split_ifs at h with hselected
    cases h
    refine ⟨⟨by simp, fun sessionId heq => ?_⟩, rfl, rfl, rfl, fun _ => ⟨rfl, rfl⟩, by simp⟩
    cases heq
    exact hselected
  · split_ifs at h
    obtain ⟨_, -, hrest⟩ := bind_eq_ok.mp h
    obtain ⟨_, -, hout⟩ := bind_eq_ok.mp hrest
    cases hout
    exact ⟨⟨by simp, by simp⟩, rfl, rfl, rfl, fun _ => ⟨rfl, rfl⟩, by simp⟩
  · cases h

theorem settlesSuccess_iff :
    s.SettlesSuccess op ↔
      s.Recalls op ∧ ¬(s.snapshot.discoveryActive = true ∧ op.isAdvertising = true) := by
  cases op <;> simp [SettlesSuccess, Recalls, PendingPlatformOperation.isAdvertising]

theorem succeeded_removes_iff (hs : actor.Reachable s) (hop : (id, op) ∈ s.pendingPlatform)
    (hmatch : op.MatchedBy completion) :
    s.RemovesIff id (.platform (.operationSucceeded id completion)) := by
  have hc := tracked_of_reachable hs
  have hpending : s.pending id = some op := (lookup_eq_some hc.uniquePlatform).mpr hop
  have hends : s.EndsSession (.platform (.operationSucceeded id completion)) ↔
      op = .stopAdvertising := by
    rw [EndsSession, hpending, Option.some.injEq]
  have hdrops : s.DropsDiscovery (.platform (.operationSucceeded id completion)) ↔
      op.isAdvertising = true := by
    simp only [DropsDiscovery, hpending, Option.mem_some_iff, exists_eq_left']
  have hsettles : s.Settles (.platform (.operationSucceeded id completion)) ↔
      s.SettlesSuccess op := by
    simp only [Settles, hpending, Option.mem_some_iff, forall_eq']
  rw [settlesSuccess_iff, ← hdrops] at hsettles
  refine (Completes.platformSucceeded op completion hop hmatch).removes_iff hs hsettles ?_ ?_
  · intro candidate outcome happly
    obtain ⟨op', hpending', completed, hcomplete, rfl⟩ := applyPlatformSuccess_eq_ok.mp happly
    obtain rfl := Option.some.inj (hpending.symm.trans hpending')
    obtain ⟨hrecalls, hchanged, hrevision, hplatform, hkept, hreset⟩ :=
      completePlatform_frame hcomplete
    refine ⟨hrecalls, hchanged, hrevision, ?_⟩
    rw [hends]
    refine removes_platform hc hop (congrArg (removeFirst id) hplatform) ?_ ?_
    · intro entry hmem
      change entry ∈ completed.pendingTransport ↔ _
      by_cases hstop : op = .stopAdvertising
      · simp [(hreset hstop).1, hstop]
      · rw [(hkept hstop).1]
        exact iff_of_true hmem hstop
    · intro entry hmem
      change entry ∈ completed.pendingStorage ↔ _
      by_cases hstop : op = .stopAdvertising
      · simp [(hreset hstop).2, hstop, hmem]
      · rw [(hkept hstop).2]
        exact iff_of_true hmem fun heq => absurd heq hstop
  · intro hrecalls
    obtain ⟨completed, outcome, hcomplete⟩ := completePlatform_of_recalls id hmatch
      (fun exportId heq => hc.exports id exportId (heq ▸ hop)) hrecalls
    exact ⟨_, _, applyPlatformSuccess_eq_ok.mpr ⟨op, hpending, completed, hcomplete, rfl⟩⟩

theorem applyPendingFailure_frame (s : ActorState) (op : PendingPlatformOperation)
    (error : CoreError) : s.KeepsOperations (s.applyPendingFailure op error) := by
  cases op <;> exact ⟨rfl, rfl, rfl, rfl⟩

theorem failed_removes_iff (hs : actor.Reachable s) {error : CoreError}
    (hop : (id, op) ∈ s.pendingPlatform) (hconcerns : error.Concerns id) :
    s.RemovesIff id (.platform (.operationFailed id error)) := by
  have hc := tracked_of_reachable hs
  have hpending : s.pending id = some op := (lookup_eq_some hc.uniquePlatform).mpr hop
  have hsettles : s.Settles (.platform (.operationFailed id error)) ↔
      True ∧ ¬(s.snapshot.discoveryActive = true ∧
        s.DropsDiscovery (.platform (.operationFailed id error))) := by
    simp only [Settles, DropsDiscovery, hpending, Option.mem_some_iff, exists_eq_left',
      forall_eq', true_and, not_and, Bool.not_eq_true]
    cases s.snapshot.discoveryActive <;> simp
  refine (Completes.platformFailed op error hop hconcerns).removes_iff hs hsettles ?_ ?_
  · intro candidate outcome happly
    obtain ⟨op', -, correlated, -, rfl, rfl⟩ := applyPlatformFailure_eq_ok.mp happly
    obtain ⟨hrevision, hplatform, hdeliveries, hwrites⟩ :=
      (s.removePending id).applyPendingFailure_frame op' correlated
    refine ⟨trivial, rfl, hrevision, removes_platform hc hop hplatform ?_ ?_⟩
    · intro entry hmem
      exact iff_of_true (hdeliveries.symm ▸ hmem) not_false
    · intro entry hmem
      exact iff_of_true (hwrites.symm ▸ hmem) False.elim
  · intro _
    exact ⟨_, _, applyPlatformFailure_eq_ok.mpr
      ⟨op, hpending, _, correlate_eq_ok.mpr ⟨hconcerns, rfl⟩, rfl, rfl⟩⟩

/-! ### Deliveries -/

theorem committedOutcome_of_report (report : DeliveryReport) :
    ∃ outcome, committedOutcome report = .ok outcome := by
  -- The counts of a report are decimal numbers, which the diagnostic fields accept.
  have hcount (count : UInt32) : IsPlain count.toNat.repr ∧
      count.toNat.repr.toList.length ≤ maxDiagnosticFieldValueBytes := by
    have hplain : IsPlain ("" ++ count.toNat.repr) := isPlain_append_repr (by simp) _
    have hlength := length_append_repr_le "" (n := count.toNat) (by have := count.toNat_lt; omega)
    rw [String.empty_append] at hplain hlength
    exact ⟨hplain, hlength.trans (by decide)⟩
  unfold committedOutcome
  split_ifs
  · rw [field_of_isPlain (by decide) (hcount _).1 (hcount _).2,
      field_of_isPlain (by decide) (hcount _).1 (hcount _).2,
      field_of_isPlain (by decide) (hcount _).1 (hcount _).2]
    exact ⟨_, rfl⟩
  · exact ⟨_, rfl⟩

/-- What a committed decision does to the operations. -/
theorem commitDecision_frame {op : PendingTransportOperation}
    (h : s.commitDecision id op = .ok s') : s.KeepsOperations s' := by
  cases op with
  | approveJoin =>
    obtain ⟨⟨request, removed⟩, hremove, hrecord⟩ := bind_eq_ok.mp h
    obtain ⟨listener, -, hupsert⟩ := bind_eq_ok.mp hrecord
    obtain ⟨-, -, -, rfl⟩ := removePendingRequest_eq_ok hremove
    unfold upsertListener at hupsert
    split_ifs at hupsert <;> cases hupsert <;> exact ⟨rfl, rfl, rfl, rfl⟩
  | rejectJoin =>
    obtain ⟨⟨request, removed⟩, hremove, hout⟩ := bind_eq_ok.mp h
    obtain ⟨-, -, -, rfl⟩ := removePendingRequest_eq_ok hremove
    cases hout
    exact ⟨rfl, rfl, rfl, rfl⟩
  | disconnectListener =>
    obtain ⟨⟨⟩, -, hout⟩ := bind_eq_ok.mp h
    cases hout
    exact ⟨rfl, rfl, rfl, rfl⟩

theorem removePendingRequest_isOk {requestId : RequestId} {deviceId : DeviceId} :
    (∃ result, s.removePendingRequest requestId deviceId = .ok result) ↔
      s.Awaits requestId deviceId := by
  unfold removePendingRequest Awaits
  split
  · next hnone =>
    simp only [reduceCtorEq, exists_false, false_iff, not_exists, not_and]
    simpa using hnone
  · next request hsome =>
    refine iff_of_true ⟨_, rfl⟩ ⟨request, List.mem_of_find?_eq_some hsome, ?_⟩
    simpa using List.find?_some hsome

theorem upsertListener_isOk (listener : ListenerSummary) :
    (∃ s', s.upsertListener listener = .ok s') ↔
      (∃ existing ∈ s.snapshot.listeners, existing.deviceId = listener.deviceId) ∨
        s.snapshot.listeners.length < maxConnectedListeners := by
  unfold upsertListener
  split_ifs with hknown hfull
  · exact iff_of_true ⟨_, rfl⟩ (.inl hknown)
  · refine iff_of_false (by simp) ?_
    rintro (hknown' | hroom)
    · exact hknown hknown'
    · exact absurd hfull (Nat.not_le.mpr hroom)
  · exact iff_of_true ⟨_, rfl⟩ (.inr (Nat.not_le.mp hfull))

theorem recordApprovedListener_isOk {request : JoinRequestSummary} {delivery : ApprovalDelivery} :
    (∃ s', s.recordApprovedListener request delivery = .ok s') ↔
      validateHumanText request.displayName Protocol.maxDisplayNameBytes
          deviceDisplayName = .ok () ∧
        ((∃ existing ∈ s.snapshot.listeners, existing.deviceId = request.deviceId) ∨
          s.snapshot.listeners.length < maxConnectedListeners) := by
  simp only [recordApprovedListener, ListenerSummary.new, bind_eq_ok, mapError_eq_ok,
    Unique.exists_iff, pure, Except.pure, Except.ok.injEq]
  constructor
  · rintro ⟨s', listener, ⟨htext, rfl⟩, hupsert⟩
    exact ⟨htext, (upsertListener_isOk _).mp ⟨s', hupsert⟩⟩
  · rintro ⟨htext, hroom⟩
    rw [exists_comm]
    exact ⟨_, exists_and_left.mpr ⟨⟨htext, rfl⟩, (upsertListener_isOk _).mpr hroom⟩⟩

/-- A decision is committed if what it is about is still there. -/
theorem commitDecision_isOk {op : PendingTransportOperation}
    (hunique : (s.snapshot.pendingJoinRequests.map JoinRequestSummary.requestId).Nodup) :
    (∃ s', s.commitDecision id op = .ok s') ↔ s.SettlesDelivery op := by
  cases op with
  | approveJoin =>
    simp only [commitDecision, bind_eq_ok, Prod.exists, SettlesDelivery]
    constructor
    · rintro ⟨s', request, removed, hremove, hrecord⟩
      obtain ⟨hmem, hrequest, hdevice, rfl⟩ := removePendingRequest_eq_ok hremove
      obtain ⟨htext, hroom⟩ := recordApprovedListener_isOk.mp ⟨s', hrecord⟩
      exact ⟨⟨request, hmem, ⟨hrequest, hdevice⟩, htext⟩, hdevice ▸ hroom⟩
    · rintro ⟨⟨request, hmem, hids, htext⟩, hroom⟩
      obtain ⟨⟨found, removed⟩, hremove⟩ :=
        removePendingRequest_isOk.mpr ⟨request, hmem, hids⟩
      obtain ⟨hfound, hrequest, hdevice, hremoved⟩ := removePendingRequest_eq_ok hremove
      -- Request identifiers are unique, so the request that is found is this one.
      obtain rfl : found = request :=
        List.inj_on_of_nodup_map hunique hfound hmem (hrequest.trans hids.1.symm)
      have hroom' : (∃ existing ∈ removed.snapshot.listeners,
          existing.deviceId = found.deviceId) ∨
          removed.snapshot.listeners.length < maxConnectedListeners := by
        rw [hdevice, hremoved]
        exact hroom
      obtain ⟨s', hrecord⟩ := recordApprovedListener_isOk.mpr ⟨htext, hroom'⟩
      exact ⟨s', found, removed, hremove, hrecord⟩
  | rejectJoin =>
    simp only [commitDecision, bind_eq_ok, Prod.exists, SettlesDelivery]
    rw [← removePendingRequest_isOk]
    constructor
    · rintro ⟨s', request, removed, hremove, -⟩
      exact ⟨_, hremove⟩
    · rintro ⟨⟨request, removed⟩, hremove⟩
      exact ⟨_, request, removed, hremove, rfl⟩
  | disconnectListener =>
    simp only [commitDecision, bind_eq_ok, check_eq_ok, Unique.exists_iff, SettlesDelivery]
    constructor
    · rintro ⟨s', hknown, -⟩
      exact hknown
    · intro hknown
      exact ⟨_, hknown, rfl⟩

/-- The decision is committed on the state that has noted the report. -/
theorem commitDecision_noteReport_isOk {op : PendingTransportOperation} {report : DeliveryReport}
    (hunique : (s.snapshot.pendingJoinRequests.map JoinRequestSummary.requestId).Nodup) :
    (∃ s', ((s.removePendingTransport id).noteReport id report).commitDecision id op = .ok s') ↔
      s.SettlesDelivery op := by
  have hrecorded := @commitDecision_isOk
    ((s.removePendingTransport id).noteReport id report) id op hunique
  cases op <;> exact hrecorded

theorem clearDeliveryFailure_frame (s : ActorState) : s.KeepsOperations s.clearDeliveryFailure := by
  unfold clearDeliveryFailure
  split_ifs
  · exact ⟨rfl, rfl, rfl, rfl⟩
  · exact ⟨rfl, rfl, rfl, rfl⟩

theorem delivered_removes_iff (hs : actor.Reachable s) {op : PendingTransportOperation}
    {report : DeliveryReport} (hop : (id, op) ∈ s.pendingTransport) :
    s.RemovesIff id (.transport (.deliveryCompleted id report)) := by
  have hc := tracked_of_reachable hs
  have hpending : s.pendingTransport.lookup id = some op :=
    (lookup_eq_some hc.uniqueDeliveries).mpr hop
  have hsettles : s.Settles (.transport (.deliveryCompleted id report)) ↔
      ((classifyDelivery report).commitsDomainDecision = true → s.SettlesDelivery op) ∧
        ¬(s.snapshot.discoveryActive = true ∧
          s.DropsDiscovery (.transport (.deliveryCompleted id report))) := by
    simp only [Settles, hpending, DropsDiscovery, Option.mem_some_iff, forall_eq', and_false,
      not_false_eq_true, and_true]
  have hunique := (valid_of_reachable hs).uniqueRequests
  have happly : s.apply (.transport (.deliveryCompleted id report)) =
      (s.removePendingTransport id).recordDelivery id report op := by
    change s.completeTransportDelivery id report = _
    simp only [completeTransportDelivery, hpending]
  refine (Completes.delivered op report hop).removes_iff hs hsettles ?_ ?_
  · intro candidate outcome hhandle
    rw [happly] at hhandle
    simp only [recordDelivery] at hhandle
    split_ifs at hhandle with hcommits
    · obtain ⟨decided, hdecide, hrest⟩ := bind_eq_ok.mp hhandle
      obtain ⟨reported, hreported, hout⟩ := bind_eq_ok.mp hrest
      cases hout
      obtain ⟨hrevision, hplatform, hdeliveries, hwrites⟩ := commitDecision_frame hdecide
      obtain ⟨hrevision', hplatform', hdeliveries', hwrites'⟩ := clearDeliveryFailure_frame decided
      exact ⟨fun _ => (commitDecision_noteReport_isOk hunique).mp ⟨decided, hdecide⟩,
        (committedOutcome_eq_ok _ hreported).1, hrevision'.trans hrevision,
        removes_delivery hc hop (hplatform'.trans hplatform) (hdeliveries'.trans hdeliveries)
          (hwrites'.trans hwrites)⟩
    · cases hhandle
      exact ⟨fun hcommit => absurd hcommit hcommits, rfl, rfl, removes_delivery hc hop rfl rfl rfl⟩
  · intro hneeds
    rw [happly]
    simp only [recordDelivery]
    split_ifs with hcommits
    · obtain ⟨outcome, hreported⟩ := committedOutcome_of_report report
      obtain ⟨decided, hdecide⟩ :=
        (commitDecision_noteReport_isOk hunique).mpr (hneeds hcommits)
      exact ⟨_, _, bind_eq_ok.mpr ⟨decided, hdecide, bind_eq_ok.mpr ⟨outcome, hreported, rfl⟩⟩⟩
    · exact ⟨_, _, rfl⟩

/-! ### Storage operations -/

/-- Once a trust write is removed there is room for the delivery that it prepared. -/
theorem createApproval_of_trustWrite (hc : s.core.Tracked)
    (hop : (id, .persistApprovalTrust persistence) ∈ s.pendingStorage)
    (hnext : s.nextEffectSequence + 1 < 2 ^ 64) (delivery : ApprovalDelivery) :
    ∃ s' effect, (s.removePendingStorage id).createApprovalTransportEffect delivery =
      .ok (s', effect) := by
  obtain ⟨sessionId, hsession⟩ := Option.ne_none_iff_exists'.mp (hc.hosted _ hop rfl)
  have hremoved : (removeFirst id s.pendingStorage).length = s.pendingStorage.length - 1 :=
    List.length_eraseP_of_mem hop (by simp)
  have hpositive := List.length_pos_of_mem hop
  have hbounded : s.pendingPlatform.length + s.pendingTransport.length +
    s.pendingStorage.length ≤ maxPendingEffectOperations := hc.bounded
  have hstart : (s.removePendingStorage id).CanStart := by
    refine ⟨?_, hnext⟩
    simp only [pendingCount, removePendingStorage, hremoved]
    omega
  obtain ⟨effectId, heffect⟩ := exists_effectId hnext
  exact ⟨_, _, createApprovalTransportEffect_eq_ok.mpr
    ⟨sessionId, hsession, hstart, effectId, heffect, rfl, rfl⟩⟩

theorem createApproval_frame (hc : s.core.Tracked) {op : PendingStorageOperation}
    (hop : (id, op) ∈ s.pendingStorage) {delivery : ApprovalDelivery} {effect : TransportEffect}
    (h : (s.removePendingStorage id).createApprovalTransportEffect delivery = .ok (s', effect)) :
    s.nextEffectSequence + 1 < 2 ^ 64 ∧ s'.snapshot.revision = s.snapshot.revision ∧
      s.Removes id False s' := by
  obtain ⟨sessionId, -, hstart, effectId, -, rfl, -⟩ := createApprovalTransportEffect_eq_ok.mp h
  exact ⟨hstart.2, rfl, removes_write hc hop rfl (List.subset_append_left _ _) rfl⟩

theorem apply_storage_tuning {settings : TuningSettings}
    (hpending : s.pendingStorageOperation event.operationId = some (.persistTuning settings))
    (hvalid : event.validate = .ok ()) :
    s.apply (.storage event) = (s.removePendingStorage event.operationId).completeTuningWrite
      (.persistTuning settings) event := by
  change s.routeStorage event = _
  rw [routeStorage, if_pos ⟨_, hpending, rfl⟩, applyTuningStorage, hvalid, hpending]
  rfl

/-- The completion of a trust write is routed to admission. -/
theorem apply_storage_admission (hpending : s.pendingStorageOperation event.operationId =
      some (.persistApprovalTrust persistence)) :
    s.apply (.storage event) = s.applyAdmissionStorage event := by
  have hnot : ¬∃ op ∈ s.pendingStorageOperation event.operationId, op.isTuning = true := by
    simp [hpending, isTuning]
  have hadmission : s.isAdmissionCompletion event = true := by
    simp only [isAdmissionCompletion, hpending]
  change s.routeStorage event = _
  rw [routeStorage, if_neg hnot, if_pos hadmission]

theorem apply_storage_trust (hpending : s.pendingStorageOperation event.operationId =
      some (.persistApprovalTrust persistence)) (hvalid : event.validate = .ok ()) :
    s.apply (.storage event) = (s.removePendingStorage event.operationId).completeTrustWrite
      (.persistApprovalTrust persistence) event := by
  rw [apply_storage_admission hpending, applyAdmissionStorage, hvalid, hpending]
  rfl

theorem settles_storage {op : PendingStorageOperation}
    (hpending : s.pendingStorageOperation event.operationId = some op) :
    s.Settles (.storage event) ↔ (op.isTuning = false → s.nextEffectSequence + 1 < 2 ^ 64) ∧
      ¬(s.snapshot.discoveryActive = true ∧ s.DropsDiscovery (.storage event)) := by
  simp only [Settles, hpending, DropsDiscovery, Option.mem_some_iff, forall_eq', and_false,
    not_false_eq_true, and_true]

theorem stored_removes_iff (hs : actor.Reachable s) {op : PendingStorageOperation}
    {completion : StorageCompletion} (hop : (id, op) ∈ s.pendingStorage)
    (hmatch : op.MatchedBy completion) :
    s.RemovesIff id (.storage (.operationSucceeded id completion)) := by
  have hc := tracked_of_reachable hs
  have hpending : s.pendingStorageOperation id = some op :=
    (lookup_eq_some hc.uniqueWrites).mpr hop
  refine (Completes.stored op completion hop hmatch).removes_iff hs (settles_storage hpending) ?_ ?_
  · intro candidate outcome happly
    cases op with
    | persistTuning =>
      obtain rfl := matchedBy_tuning hmatch
      rw [apply_storage_tuning hpending rfl] at happly
      obtain ⟨saved, -, hout⟩ := bind_eq_ok.mp happly
      cases hout
      exact ⟨nofun, rfl, rfl, removes_write hc hop rfl (List.Subset.refl _) rfl⟩
    | persistApprovalTrust =>
      obtain rfl := matchedBy_trust hmatch
      rw [apply_storage_trust hpending rfl] at happly
      simp only [completeTrustWrite, if_true] at happly
      obtain ⟨⟨started, effect⟩, hstart, hout⟩ := bind_eq_ok.mp happly
      cases hout
      obtain ⟨hnext, hrevision, hremoves⟩ := createApproval_frame hc hop hstart
      exact ⟨fun _ => hnext, rfl, hrevision, hremoves⟩
  · intro hneeds
    cases op with
    | persistTuning =>
      obtain rfl := matchedBy_tuning hmatch
      rw [apply_storage_tuning hpending rfl]
      exact ⟨_, _, rfl⟩
    | persistApprovalTrust persistence =>
      obtain rfl := matchedBy_trust hmatch
      rw [apply_storage_trust hpending rfl]
      obtain ⟨started, effect, hstart⟩ := createApproval_of_trustWrite hc hop (hneeds rfl)
        (approvalAfterPersistence persistence .committed)
      simp only [completeTrustWrite, if_true]
      exact ⟨_, _, bind_eq_ok.mpr ⟨_, hstart, rfl⟩⟩

theorem storageFailed_removes_iff (hs : actor.Reachable s) {op : PendingStorageOperation}
    {error : CoreError} (hop : (id, op) ∈ s.pendingStorage) (hconcerns : error.Concerns id) :
    s.RemovesIff id (.storage (.operationFailed id error)) := by
  have hc := tracked_of_reachable hs
  have hpending : s.pendingStorageOperation id = some op :=
    (lookup_eq_some hc.uniqueWrites).mpr hop
  have hcorrelate : error.correlate id "storage failure operation ID does not match its wrapper" =
      .ok { error with operationId := some id } := correlate_eq_ok.mpr ⟨hconcerns, rfl⟩
  refine (Completes.storageFailed op error hop hconcerns).removes_iff hs
    (settles_storage hpending) ?_ ?_
  · intro candidate outcome happly
    cases op with
    | persistTuning =>
      rw [apply_storage_tuning hpending rfl] at happly
      obtain ⟨correlated, -, hout⟩ := bind_eq_ok.mp happly
      cases hout
      exact ⟨nofun, rfl, rfl, removes_write hc hop rfl (List.Subset.refl _) rfl⟩
    | persistApprovalTrust =>
      rw [apply_storage_trust hpending rfl] at happly
      obtain ⟨correlated, -, hrest⟩ := bind_eq_ok.mp happly
      obtain ⟨⟨started, effect⟩, hstart, hout⟩ := bind_eq_ok.mp hrest
      cases hout
      obtain ⟨hnext, hrevision, hremoves⟩ := createApproval_frame hc hop hstart
      exact ⟨fun _ => hnext, rfl, hrevision,
        hremoves.platform, hremoves.deliveries, hremoves.writes⟩
  · intro hneeds
    cases op with
    | persistTuning =>
      rw [apply_storage_tuning hpending rfl]
      exact ⟨_, _, bind_eq_ok.mpr ⟨_, hcorrelate, rfl⟩⟩
    | persistApprovalTrust persistence =>
      rw [apply_storage_trust hpending rfl]
      obtain ⟨started, effect, hstart⟩ := createApproval_of_trustWrite hc hop (hneeds rfl)
        (approvalAfterPersistence persistence .failed)
      exact ⟨_, _, bind_eq_ok.mpr ⟨_, hcorrelate, bind_eq_ok.mpr ⟨_, hstart, rfl⟩⟩⟩

end ActorState

/-- **When a completion removes its operation.** In every reachable state, the completion of a
pending operation removes that operation and keeps every other one, but for the deliveries and
trust writes of a session that ends, if and only if the handler finds what it looks up and the
counters are not exhausted. -/
theorem completion_removes_iff {s : ActorState} (hs : actor.Reachable s) {id : OperationId}
    {input : CoreActorInput} (h : s.Completes id input) :
    s.Removes id (s.EndsSession input) (actor.next s (.input input)) ↔
      s.snapshot.revision.get.toNat + 1 < 2 ^ 64 ∧ s.Settles input := by
  cases h with
  | platformSucceeded _ _ hop hmatch =>
    exact ActorState.succeeded_removes_iff hs hop hmatch
  | platformFailed _ _ hop hconcerns => exact ActorState.failed_removes_iff hs hop hconcerns
  | delivered _ _ hop => exact ActorState.delivered_removes_iff hs hop
  | stored _ _ hop hmatch => exact ActorState.stored_removes_iff hs hop hmatch
  | storageFailed _ _ hop hconcerns =>
    exact ActorState.storageFailed_removes_iff hs hop hconcerns

open Scenario in
theorem completion_removes_started :
    ∃ id input, (actor.after device (creating .manual)).Completes id input ∧
      (actor.after device (creating .manual)).Removes id
        ((actor.after device (creating .manual)).EndsSession input)
        (actor.next (actor.after device (creating .manual)) (.input input)) := by
  have hcompletes : (actor.after device (creating .manual)).Completes
      ⟨"effect-1", by decide⟩
      (.platform (.operationSucceeded ⟨"effect-1", by decide⟩ .advertisingStarted)) :=
    .platformSucceeded (.startAdvertising ⟨"session-1", by decide⟩) _ (by decide) trivial
  refine ⟨_, _, hcompletes, (completion_removes_iff (reachable _) hcompletes).mpr ⟨by decide, ?_⟩⟩
  intro op hop
  obtain rfl : PendingPlatformOperation.startAdvertising ⟨"session-1", by decide⟩ = op :=
    Option.some.inj hop
  exact ⟨rfl, rfl⟩

namespace Scenario

/-- The listener leaves while its approval is delivered. -/
def leavingWhileApproved : List ActorMessage :=
  requesting .manual ++
    [command 5 (.approveJoin request.requestId false),
      .input (.transport (.listenerDisconnected request.deviceId none))]

/-- The approval has reached its only recipient. -/
def delivered : CoreActorInput :=
  .transport (.deliveryCompleted ⟨"effect-2", valid_effect2⟩ ⟨1, 1, 0, .ok⟩)

end Scenario

open Scenario in
/-- The handler does not find the request, and the delivery stays pending. -/
theorem not_removesExactly_left :
    actor.Reachable (actor.after device leavingWhileApproved) ∧
      (actor.after device leavingWhileApproved).Completes ⟨"effect-2", by decide⟩ delivered ∧
      ¬(actor.after device leavingWhileApproved).RemovesExactly ⟨"effect-2", by decide⟩
        (actor.next (actor.after device leavingWhileApproved) (.input delivered)) := by
  have hpending : (⟨"effect-2", by decide⟩, .approveJoin
      ⟨request.requestId, request.deviceId, false, false⟩) ∈
        (actor.after device leavingWhileApproved).pendingTransport := by decide
  refine ⟨Scenario.reachable _, .delivered _ _ hpending, fun hremoves => ?_⟩
  have hkept := (hremoves.deliveries _ hpending).mp (by decide)
  exact hkept.1 rfl

end SilentDisco
