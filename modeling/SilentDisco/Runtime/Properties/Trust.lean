import SilentDisco.Runtime.Properties.Completions

/-!
# Durable trust

An approval that claims durable trust is either for a device that was trusted when it asked, or
the answer to a trust write that succeeded. A pending write remembers the request and the device
it was started for, so the approval names the ones that the host decided on, whatever happened to
the request in between.

## Main definitions

* `ActorState.StartsTrustWrite`: the host approves a request, and its trust is written first
* `ActorState.AnswersTrusted`: the answered request comes from a trusted device
* `ActorState.approvalsLedTo`: the approvals that a message leads to in the rest of a run

## Main results

* `trust_is_never_claimed_early`: both over every run, and one approval for each decision
-/

namespace SilentDisco

open Result CoreNotification ActorMessage

namespace Core

variable {c c' : Core} {input : CoreActorInput} {requests : List TransportEffectRequest}

/-- A step sends at most one transport effect. -/
theorem Step.length_requests_le (h : c.Step input c' requests) : requests.length ≤ 1 := by
  cases h <;> simp

/-- Identifiers are not used again. -/
theorem Step.nextEffect_le (h : c.Step input c' requests) : c.nextEffect ≤ c'.nextEffect := by
  cases h with
  | _ => first | exact Nat.le_refl _ | exact Nat.le_succ _

/-- A storage completion that sends an effect removes the write it completes. -/
theorem Step.writes_of_storage {event : StorageEvent} (h : c.Step (.storage event) c' requests)
    (hrequests : requests ≠ []) : c'.writes = Keyed.removeFirst event.operationId c.writes := by
  cases h with
  | trustWriteCompleted => rfl
  | _ => exact absurd rfl hrequests

end Core

/-- The storage work a notification asks for. -/
def CoreNotification.storageWork : CoreNotification → Option StorageEffect
  | .storageEffect started => some started
  | _ => none

/-- The operation whose storage completion a message reports. -/
def ActorMessage.completesWrite : ActorMessage → Option OperationId
  | .input (.storage event) => some event.operationId
  | _ => none

theorem ActorMessage.completesWrite_eq_some {message : ActorMessage} {id : OperationId} :
    message.completesWrite = some id ↔
      ∃ event, message = .input (.storage event) ∧ event.operationId = id := by
  constructor
  · intro h
    unfold completesWrite at h
    split at h
    · next event => exact ⟨event, rfl, Option.some.inj h⟩
    · cases h
  · rintro ⟨event, rfl, rfl⟩
    rfl

namespace ActorState

variable {s s' : ActorState} {outcome : ApplyOutcome} {message : ActorMessage}
  {id : OperationId} {persistence : TrustPersistenceRequest} {requestId : RequestId}
  {deviceId : DeviceId}

/-! ## One step -/

/-- An approval is carried out for a pending request: its trust is written first, or the approval
is delivered with the trust the request came with. -/
theorem approveJoin_eq_ok {operationId : OperationId} {remember : Bool}
    (h : s.approveJoin operationId requestId remember = .ok (s', outcome)) :
    ∃ request ∈ s.snapshot.pendingJoinRequests, request.requestId = requestId ∧ ∃ id,
      (remember = true ∧
        s' = s.pushStorage id
          (.persistApprovalTrust ⟨request.requestId, request.deviceId, request.displayName⟩) ∧
        outcome = .storageEffect
          ⟨id, .persistTrustedDevice request.deviceId request.displayName⟩) ∨
      ∃ sessionId,
        s' = s.pushTransport id (.approveJoin
          ⟨request.requestId, request.deviceId, request.trustState = .trusted, false⟩) ∧
        outcome = .transportEffect ⟨id, .deliverJoinApproval request.requestId sessionId
          request.deviceId (request.trustState = .trusted)⟩ := by
  obtain ⟨⟨⟩, -, hrest⟩ := bind_eq_ok.mp h
  obtain ⟨request, hrequest, hdecide⟩ := bind_eq_ok.mp hrest
  obtain ⟨⟨⟩, -, hcarry⟩ := bind_eq_ok.mp hdecide
  obtain ⟨hmem, hid⟩ := pendingJoinRequest_eq_ok hrequest
  refine ⟨request, hmem, hid, ?_⟩
  unfold prepareExplicitApproval at hcarry
  split_ifs at hcarry with hwrite
  · simp only [carryOutApproval, bind_eq_ok, Prod.exists, startStorageOperation_eq_ok] at hcarry
    obtain ⟨_, _, ⟨-, -, id, -, rfl, rfl⟩, hout⟩ := hcarry
    cases hout
    exact ⟨id, .inl ⟨hwrite.1, rfl, rfl⟩⟩
  · obtain ⟨sessionId, -, -, id, -, rfl, rfl⟩ := startApprovalDelivery_eq_ok hcarry
    exact ⟨id, .inr ⟨sessionId, rfl, rfl⟩⟩

/-- The host approves a pending request and asks for its device to be remembered; the write of
the trust is started under the identifier. -/
structure StartsTrustWrite (s : ActorState) (message : ActorMessage) (id : OperationId)
    (persistence : TrustPersistenceRequest) : Prop where
  approves : ∃ operationId revision, message =
    .input (.command operationId ⟨revision, .approveJoin persistence.requestId true⟩)
  awaits : s.Awaits persistence.requestId persistence.deviceId
  started : .storageEffect ⟨id, .persistTrustedDevice persistence.deviceId
    persistence.displayName⟩ ∈ (actor.out s message).notifications

/-- The message decides the request of a trusted device: the host approves it, or it arrives. -/
def AnswersTrusted (s : ActorState) (message : ActorMessage) (requestId : RequestId)
    (deviceId : DeviceId) : Prop :=
  ∃ request : JoinRequestSummary, request.requestId = requestId ∧ request.deviceId = deviceId ∧
    request.trustState = .trusted ∧
    ((request ∈ s.snapshot.pendingJoinRequests ∧ ∃ operationId revision remember, message =
        .input (.command operationId ⟨revision, .approveJoin requestId remember⟩)) ∨
      message = .input (.transport (.joinRequested request)))

/-- A message that approves a request is refused, or the approval is carried out. -/
theorem receive_approveJoin {operationId : OperationId} {revision : SnapshotRevision}
    {remember : Bool}
    (hmessage : message =
      .input (.command operationId ⟨revision, .approveJoin requestId remember⟩)) :
    ((s.receive message).1 = s ∧
      ∀ notification ∈ (s.receive message).2.notifications, ∃ e, notification = .error e) ∨
    ∃ candidate outcome, s.approveJoin operationId requestId remember = .ok (candidate, outcome) ∧
      (s.receive message).1 = candidate.published outcome ∧
      (s.receive message).2.notifications = candidate.publication outcome := by
  subst hmessage
  refine (s.receive_cases _).imp_right ?_
  rintro ⟨candidate, outcome, hhandle, -, hstate, hnotifications⟩
  obtain ⟨⟨⟩, -, happly⟩ := bind_eq_ok.mp hhandle
  exact ⟨candidate, outcome, happly, hstate, hnotifications⟩

theorem mem_publication {candidate : ActorState} {notification : CoreNotification}
    (h : notification ∈ outcome.notifications) : notification ∈ candidate.publication outcome := by
  unfold publication
  split_ifs
  · exact List.mem_cons_of_mem _ h
  · exact h

/-- A trust write is pending already, or the message starts it. -/
theorem trustWrite_started
    (h : (id, .persistApprovalTrust persistence) ∈ (actor.next s message).pendingStorage) :
    (id, .persistApprovalTrust persistence) ∈ s.pendingStorage ∨
      s.StartsTrustWrite message id persistence := by
  rcases s.receive_core message with ⟨hstate, -⟩ | hstep
  · exact .inl (hstate ▸ h)
  obtain hold | ⟨-, ⟨settings, htuning⟩ | ⟨operationId, revision, remember, named, -, hinput, -⟩⟩ :=
    hstep.mem_writes h
  · exact .inl hold
  · cases htuning
  have hmessage := eq_of_asInput hinput (by simp)
  rcases s.receive_approveJoin hmessage with ⟨hstate, -⟩ |
    ⟨candidate, outcome, hhandle, hstate, hnotifications⟩
  · exact .inl (hstate ▸ h)
  have hcore : (actor.next s message).core = candidate.core :=
    (congrArg core hstate).trans (core_published candidate outcome)
  have hwrites : (id, .persistApprovalTrust persistence) ∈ candidate.core.writes := hcore ▸ h
  obtain ⟨request, hmem, hid, effectId, ⟨rfl, rfl, rfl⟩ | ⟨sessionId, rfl, -⟩⟩ :=
    approveJoin_eq_ok hhandle
  · rcases List.mem_append.mp hwrites with hold | hnew
    · exact .inl hold
    · cases List.mem_singleton.mp hnew
      refine .inr ⟨⟨operationId, revision, hid ▸ hmessage⟩, ⟨request, hmem, rfl, rfl⟩, ?_⟩
      change _ ∈ (s.receive message).2.notifications
      rw [hnotifications]
      exact mem_publication (List.mem_singleton_self _)
  · exact .inl hwrites

theorem trustState_of_autoApprove {draft : HostDraft} {request : JoinRequestSummary}
    {trusted : Bool} (h : classifyJoinRequest draft request = .autoApprove trusted) :
    request.trustState = .trusted := by
  unfold classifyJoinRequest at h
  split_ifs at h with _ _ htrusted
  exact htrusted

/-- Only a success with the device of the write claims its trust. -/
theorem committed_of_completeTrustWrite {event : StorageEvent} {sessionId : SessionId}
    (h : s.completeTrustWrite (.persistApprovalTrust persistence) event = .ok (s', outcome))
    (hmem : .deliverJoinApproval requestId sessionId deviceId true ∈
      transportRequests outcome.notifications) :
    persistence.requestId = requestId ∧ persistence.deviceId = deviceId ∧
      event = .operationSucceeded event.operationId (.trustedDeviceUpdated deviceId) := by
  cases event with
  | operationFailed =>
    simp only [completeTrustWrite, bind_eq_ok, Prod.exists,
      createApprovalTransportEffect_eq_ok] at h
    obtain ⟨_, -, _, _, ⟨_, -, -, _, -, rfl, rfl⟩, hout⟩ := h
    cases hout
    cases List.mem_singleton.mp hmem
  | operationSucceeded operationId completion =>
    cases completion with
    | trustedDeviceUpdated =>
      simp only [completeTrustWrite] at h
      split_ifs at h with hdevice
      obtain ⟨_, -, -, _, -, rfl, rfl⟩ := startApprovalDelivery_eq_ok h
      cases List.mem_singleton.mp hmem
      exact ⟨rfl, rfl, by rw [hdevice]; rfl⟩
    | _ => cases h

/-- What an approval that claims durable trust answers. -/
theorem approval_claims {sessionId : SessionId}
    (h : .deliverJoinApproval requestId sessionId deviceId true ∈
      transportRequests (actor.out s message).notifications) :
    s.AnswersTrusted message requestId deviceId ∨
      ∃ id displayName,
        message = .input (.storage (.operationSucceeded id (.trustedDeviceUpdated deviceId))) ∧
        (id, .persistApprovalTrust ⟨requestId, deviceId, displayName⟩) ∈ s.pendingStorage := by
  have horigin : s.core.Approval requestId deviceId message.asInput (actor.next s message).core :=
    approval_of_mem (List.mem_filterMap.mpr ⟨_, h, rfl⟩)
  rcases s.receive_cases message with ⟨-, herrors⟩ |
    ⟨candidate, outcome, hhandle, -, -, hnotifications⟩
  · exact absurd (transportRequests_errors herrors ▸ h) List.not_mem_nil
  have hmem : .deliverJoinApproval requestId sessionId deviceId true ∈
      transportRequests outcome.notifications := by
    rw [← transportRequests_publication candidate outcome, ← hnotifications]
    exact h
  generalize hinput : message.asInput = input at horigin
  cases horigin with
  | explicit operationId revision remember =>
    obtain rfl := eq_of_asInput hinput (by simp)
    obtain ⟨⟨⟩, -, happly⟩ := bind_eq_ok.mp hhandle
    obtain ⟨request, hrequest, hid, effectId, ⟨-, -, rfl⟩ | ⟨hosted, -, rfl⟩⟩ :=
      approveJoin_eq_ok happly
    · cases hmem
    · have heffect := List.mem_singleton.mp hmem
      simp only [TransportEffectRequest.deliverJoinApproval.injEq] at heffect
      obtain ⟨hid, -, hdevice, htrusted⟩ := heffect
      exact .inl ⟨request, hid.symm, hdevice.symm, of_decide_eq_true htrusted.symm,
        .inl ⟨hrequest, operationId, revision, remember, rfl⟩⟩
  | policy request trusted _ hrequest hdevice _ _ _ hpolicy =>
    obtain rfl := eq_of_asInput hinput (by simp)
    exact .inl ⟨request, hrequest, hdevice,
      trustState_of_autoApprove (hpolicy s.snapshot.hostDraft rfl), .inr rfl⟩
  | persisted event persistence _ hpending =>
    obtain rfl := eq_of_asInput hinput (by simp)
    have happly := (apply_storage_admission hpending).symm.trans hhandle
    obtain ⟨⟨⟩, -, hcomplete⟩ := bind_eq_ok.mp happly
    rw [show s.pendingStorageOperation event.operationId = _ from hpending] at hcomplete
    obtain ⟨rfl, rfl, hevent⟩ := committed_of_completeTrustWrite hcomplete hmem
    refine .inr ⟨event.operationId, persistence.displayName, by rw [← hevent], ?_⟩
    exact Keyed.mem_of_lookup hpending

/-! ## Approvals of one decision -/

/-- The identifiers of the storage work that a message starts. -/
def writesStarted (s : ActorState) (message : ActorMessage) : List OperationId :=
  ((actor.out s message).notifications.filterMap storageWork).map
    StorageEffect.operationId

/-- The approvals that answer the completion of one of the writes. -/
def approvalsCompleting (writes : List OperationId) (s : ActorState) (message : ActorMessage) :
    List (RequestId × DeviceId) :=
  if ∃ id ∈ message.completesWrite, id ∈ writes then s.approvals message else []

/-- The approvals that a message leads to in a run: those it sends itself, and those that answer
completions of the writes it starts. -/
def approvalsLedTo (s : ActorState) (message : ActorMessage) (later : List ActorMessage) :
    List (RequestId × DeviceId) :=
  s.approvals message ++ actor.record
    (fun sent t message' => sent ++ approvalsCompleting (s.writesStarted message) t message') []
    (actor.next s message) later

theorem length_approvals_le (s : ActorState) (message : ActorMessage) :
    (s.approvals message).length ≤ 1 := by
  refine (List.length_filterMap_le _ _).trans ?_
  rcases s.receive_core message with ⟨-, hnone⟩ | hstep
  · exact (congrArg List.length hnone).trans_le (Nat.zero_le 1)
  · exact hstep.length_requests_le

/-- A completion that is answered with an approval removes a pending trust write. -/
theorem approvals_completing {event : StorageEvent}
    (h : s.approvals (.input (.storage event)) ≠ []) :
    (∃ op, (event.operationId, op) ∈ s.core.writes) ∧
      (actor.next s (.input (.storage event))).core.writes =
        Keyed.removeFirst event.operationId s.core.writes := by
  obtain ⟨⟨requestId, deviceId⟩, hmem⟩ := List.exists_mem_of_ne_nil _ h
  rcases s.receive_core (.input (.storage event)) with ⟨-, hnone⟩ | hstep
  · exact absurd (congrArg (List.filterMap _) hnone) h
  · refine ⟨?_, hstep.writes_of_storage fun hnone => h (congrArg (List.filterMap _) hnone)⟩
    cases approval_of_mem hmem with
    | persisted _ persistence _ hpending => exact ⟨_, Keyed.mem_of_lookup hpending⟩

/-- The approvals sent for one write: at most one, and none while the write is pending. -/
structure AnsweredOnce (id : OperationId) (s : ActorState) (sent : List (RequestId × DeviceId)) :
    Prop where
  tracked : s.core.Tracked
  used : ∃ k < s.core.nextEffect, id.value = effectName k
  once : sent.length ≤ 1
  unanswered : (∃ op, (id, op) ∈ s.core.writes) → sent = []

theorem AnsweredOnce.next {sent : List (RequestId × DeviceId)} (h : AnsweredOnce id s sent)
    (message : ActorMessage) :
    AnsweredOnce id (actor.next s message) (sent ++ approvalsCompleting [id] s message) := by
  have htracked : (actor.next s message).core.Tracked :=
    core_invariant (fun c input c' requests hc hstep => hstep.tracked hc) s message h.tracked
  obtain ⟨k, hk, hname⟩ := h.used
  have hused : ∃ k < (actor.next s message).core.nextEffect, id.value = effectName k := by
    refine core_invariant (I := fun c => ∃ k < c.nextEffect, id.value = effectName k) ?_ s message
      h.used
    rintro c input c' requests ⟨k, hk, hname⟩ hstep
    exact ⟨k, hk.trans_le hstep.nextEffect_le, hname⟩
  by_cases hanswer : approvalsCompleting [id] s message = []
  · rw [hanswer, List.append_nil]
    refine ⟨htracked, hused, h.once, ?_⟩
    rintro ⟨op, hop⟩
    -- A write with a used identifier was pending before.
    refine h.unanswered ⟨op, ?_⟩
    rcases s.receive_core message with ⟨hstate, -⟩ | hstep
    · exact hstate ▸ hop
    · refine (hstep.mem_writes hop).resolve_right fun hnew => ?_
      exact hk.ne (effectName_injective (hname.symm.trans hnew.1))
  · unfold approvalsCompleting at hanswer ⊢
    split_ifs at hanswer ⊢ with hcompletes
    · obtain ⟨_, hmem, hid⟩ := hcompletes
      obtain rfl := List.mem_singleton.mp hid
      obtain ⟨event, rfl, rfl⟩ := completesWrite_eq_some.mp hmem
      obtain ⟨hpending, hwrites⟩ := approvals_completing hanswer
      rw [h.unanswered hpending, List.nil_append]
      refine ⟨htracked, hused, length_approvals_le s _, ?_⟩
      rintro ⟨op, hop⟩
      rw [hwrites, Keyed.mem_removeFirst h.tracked.uniqueWrites] at hop
      exact absurd rfl hop.2
    · exact absurd rfl hanswer

theorem storageWork_publication (s : ActorState) (outcome : ApplyOutcome) :
    (s.publication outcome).filterMap storageWork =
      outcome.notifications.filterMap storageWork := by
  unfold publication
  split_ifs <;> rfl

theorem storageWork_errors {notifications : List CoreNotification}
    (h : ∀ notification ∈ notifications, ∃ e, notification = .error e) :
    notifications.filterMap storageWork = [] := by
  refine List.filterMap_eq_nil_iff.mpr fun notification hmem => ?_
  obtain ⟨e, rfl⟩ := h notification hmem
  rfl

/-- A message that starts no write leads to the approvals it sends. -/
theorem approvalsLedTo_of_writesStarted (h : s.writesStarted message = [])
    (later : List ActorMessage) : s.approvalsLedTo message later = s.approvals message := by
  have hnone : actor.record (fun sent t message' => sent ++
      approvalsCompleting (s.writesStarted message) t message') [] (actor.next s message) later =
        [] := by
    refine Machine.invariant_record (I := fun _ sent => sent = []) ?_ rfl later
    rintro t _ message' rfl
    simp [approvalsCompleting, h]
  rw [approvalsLedTo, hnone, List.append_nil]

/-- A decision leads to at most one approval. -/
theorem length_approvalsLedTo_le (hs : actor.Reachable s) {operationId : OperationId}
    {revision : SnapshotRevision} {remember : Bool}
    (hmessage : message = .input (.command operationId ⟨revision, .approveJoin requestId remember⟩))
    (later : List ActorMessage) : (s.approvalsLedTo message later).length ≤ 1 := by
  rcases s.receive_approveJoin hmessage with ⟨-, herrors⟩ |
    ⟨candidate, outcome, hhandle, hstate, hnotifications⟩
  · have hwrites : s.writesStarted message = [] :=
      congrArg (List.map _) (storageWork_errors herrors)
    rw [approvalsLedTo_of_writesStarted hwrites]
    exact length_approvals_le s message
  have hstarted : s.writesStarted message =
      (outcome.notifications.filterMap storageWork).map
        StorageEffect.operationId :=
    congrArg (List.map _) ((congrArg _ hnotifications).trans (storageWork_publication _ _))
  have hsent : s.approvals message =
      (transportRequests outcome.notifications).filterMap TransportEffectRequest.approved :=
    congrArg (List.filterMap _)
      ((congrArg transportRequests hnotifications).trans (transportRequests_publication _ _))
  obtain ⟨request, -, -, effectId, ⟨rfl, rfl, rfl⟩ | ⟨sessionId, rfl, rfl⟩⟩ :=
    approveJoin_eq_ok hhandle
  · -- The write is pending, and its completion is answered once.
    have hcore : (actor.next s message).core = (s.pushStorage effectId _).core :=
      (congrArg core hstate).trans (core_published _ _)
    have htracked := tracked_of_reachable (hs.next message)
    have hmem : effectId ∈ (actor.next s message).core.ids := by
      rw [hcore]
      exact List.mem_append_right _ (List.mem_append_right _ (by simp [core, pushStorage]))
    have hfirst : AnsweredOnce effectId (actor.next s message) [] :=
      ⟨htracked, htracked.named effectId hmem, Nat.zero_le 1, fun _ => rfl⟩
    rw [approvalsLedTo, hsent, hstarted]
    exact (Machine.invariant_record (I := AnsweredOnce effectId)
      (fun t sent message' h => h.next message') hfirst later).once
  · rw [approvalsLedTo_of_writesStarted hstarted]
    exact length_approvals_le s message

end ActorState

/-- **Durable trust is never claimed early.** In every run, an approval that claims durable trust
answers the request of a trusted device, or it answers the success of a trust write that an
approval of the same request and device started before; and every decision of the host leads to
at most one approval. -/
theorem trust_is_never_claimed_early {s₀ : ActorState} (hs : actor.init s₀)
    (before : List ActorMessage) (message : ActorMessage) :
    (∀ requestId sessionId deviceId,
      .deliverJoinApproval requestId sessionId deviceId true ∈
          transportRequests (actor.out (actor.after s₀ before) message).notifications →
        (actor.after s₀ before).AnswersTrusted message requestId deviceId ∨
          ∃ id displayName,
            message = .input (.storage (.operationSucceeded id (.trustedDeviceUpdated deviceId))) ∧
            actor.Sometime (fun s earlier => s.StartsTrustWrite earlier id
              ⟨requestId, deviceId, displayName⟩) s₀ before) ∧
    ∀ operationId revision requestId remember,
      message = .input (.command operationId ⟨revision, .approveJoin requestId remember⟩) →
        ∀ later, ((actor.after s₀ before).approvalsLedTo message later).length ≤ 1 := by
  constructor
  · intro requestId sessionId deviceId hmem
    refine (ActorState.approval_claims hmem).imp_right ?_
    rintro ⟨id, displayName, hmessage, hpending⟩
    refine ⟨id, displayName, hmessage, ?_⟩
    have hstarted := Machine.sometime_of_after
      (K := fun s : ActorState => (id, .persistApprovalTrust ⟨requestId, deviceId, displayName⟩) ∈
        s.pendingStorage) (fun s earlier => ActorState.trustWrite_started) hpending
    refine hstarted.resolve_left fun hinitial => ?_
    obtain ⟨localDeviceId, sessionIdNamespace, rfl⟩ := hs
    cases hinitial
  · intro operationId revision requestId remember hmessage later
    exact ActorState.length_approvalsLedTo_le ((Machine.Reachable.of_init hs).after before)
      hmessage later

open Scenario in
theorem trust_is_never_claimed_early_written :
    (actor.after device remembering).AnswersTrusted trustWritten request.requestId
        request.deviceId ∨
      ∃ id displayName,
        trustWritten = .input (.storage (.operationSucceeded id
          (.trustedDeviceUpdated request.deviceId))) ∧
        actor.Sometime (fun s earlier => s.StartsTrustWrite earlier id
          ⟨request.requestId, request.deviceId, displayName⟩) device remembering :=
  (trust_is_never_claimed_early ⟨_, _, rfl⟩ remembering trustWritten).1 _
    ⟨"session-1", by decide⟩ _ (by decide)

end SilentDisco
