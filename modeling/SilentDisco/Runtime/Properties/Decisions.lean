import SilentDisco.Runtime.Properties.Tracking

/-!
# Decisions in flight

A decision on a join request is in flight while its delivery or the trust write before it is
pending. The host's commands start a decision only if none is in flight for the request. A
request that arrives is decided by the policy without this check: its identifier may have been
used by a request that was forgotten when its device left, and whose decision is still in flight.

## Main definitions

* `Core.decisions`: the requests of the decisions in flight, one entry for each decision
* `ActorState.ArrivesUndecided`: the condition on arriving requests

## Main results

* `Core.Step.nodup_decisions`: a step keeps the decisions of different requests apart
* `one_operation_per_request`: at most one decision for each request, in every such run
-/

namespace SilentDisco

open Result

namespace Core

variable {c c' : Core} {input : CoreActorInput} {requests : List TransportEffectRequest}
  {requestId : RequestId} {id : OperationId}

/-- The requests of the decisions in flight. -/
def decisions (c : Core) : List RequestId :=
  c.deliveries.filterMap (fun entry => entry.2.requestId) ++
    c.writes.filterMap fun entry => entry.2.requestId

theorem mem_decisions : requestId ∈ c.decisions ↔ c.Deciding requestId := by
  unfold decisions Deciding
  rw [List.mem_append, List.mem_filterMap, List.mem_filterMap]

theorem decisions_sublist (hdeliveries : c'.deliveries.Sublist c.deliveries)
    (hwrites : c'.writes.Sublist c.writes) : c'.decisions.Sublist c.decisions :=
  (hdeliveries.filterMap _).append (hwrites.filterMap _)

/-- A delivery that decides a request adds it. -/
theorem decisions_startDelivery {op : PendingTransportOperation}
    (hop : op.requestId = some requestId) :
    (c.startDelivery id op).decisions.Perm (requestId :: c.decisions) := by
  have hnew : [(id, op)].filterMap (fun entry => entry.2.requestId) = [requestId] := by simp [hop]
  unfold decisions startDelivery
  rw [List.filterMap_append, hnew, List.append_assoc, List.singleton_append]
  exact List.perm_middle

theorem decisions_startWrite {op : PendingStorageOperation} (hop : op.requestId = some requestId) :
    (c.startWrite id op).decisions.Perm (requestId :: c.decisions) := by
  have hnew : [(id, op)].filterMap (fun entry => entry.2.requestId) = [requestId] := by simp [hop]
  unfold decisions startWrite
  rw [List.filterMap_append, hnew, ← List.append_assoc]
  exact List.perm_append_singleton _ _

/-- A trust write that is finished takes its request along. -/
theorem decisions_finishWrite {op : PendingStorageOperation}
    (hpending : c.writes.lookup id = some op) (hop : op.requestId = some requestId) :
    c.decisions.Perm (requestId :: (c.finishWrite id).decisions) := by
  have hwrites := (Keyed.perm_removeFirst hpending).filterMap fun entry => entry.2.requestId
  simp only [List.filterMap_cons, hop] at hwrites
  exact (hwrites.append_left _).trans List.perm_middle

theorem nodup_decisions_start (hperm : c'.decisions.Perm (requestId :: c.decisions))
    (hc : c.decisions.Nodup) (hidle : ¬c.Deciding requestId) : c'.decisions.Nodup :=
  hperm.nodup_iff.mpr (List.nodup_cons.mpr ⟨mt mem_decisions.mp hidle, hc⟩)

/-- Decisions of different requests stay apart, if a new request arrives undecided. -/
theorem Step.nodup_decisions (h : c.Step input c' requests) (hc : c.decisions.Nodup)
    (harrives : ∀ request, input = .transport (.joinRequested request) →
      (∀ other ∈ c.requests, other.requestId ≠ request.requestId) →
        ¬c.Deciding request.requestId) : c'.decisions.Nodup := by
  cases h with
  -- The host decides.
  | trustWriteStarted _ _ _ _ _ _ _ _ hidle =>
    exact nodup_decisions_start (decisions_startWrite rfl) hc hidle
  | approvalStarted _ _ _ _ _ _ _ _ _ hidle | rejectionStarted _ _ _ _ _ _ _ hidle =>
    exact nodup_decisions_start (decisions_startDelivery rfl) hc hidle
  -- The policy decides.
  | requestApproved request _ _ _ _ hnew | requestRejected request _ _ _ _ hnew =>
    exact nodup_decisions_start (c := { c with requests := c.requests ++ [request] })
      (decisions_startDelivery rfl) hc (harrives request rfl hnew)
  -- The delivery takes over from the write before it.
  | trustWriteCompleted _ _ _ _ _ hpending =>
    have hfinish := decisions_finishWrite hpending rfl
    exact ((decisions_startDelivery rfl).trans hfinish.symm).nodup_iff.mpr hc
  -- These start no decision.
  | tuningWriteStarted =>
    simpa [decisions, startWrite, PendingStorageOperation.requestId] using hc
  | removalStarted =>
    simpa [decisions, startDelivery, PendingTransportOperation.requestId] using hc
  | tuningWriteCompleted | deliveryFailed | approvalDelivered | rejectionDelivered
  | removalDelivered =>
    refine hc.sublist (decisions_sublist ?_ ?_)
    all_goals first | exact List.eraseP_sublist | exact List.Sublist.refl _
  | advertisingStopped =>
    exact hc.sublist (decisions_sublist (List.nil_sublist _) List.filter_sublist)
  | _ => exact hc

end Core

/-- The request that arrives with a message. -/
def ActorMessage.arrival : ActorMessage → Option JoinRequestSummary
  | .input (.transport (.joinRequested request)) => some request
  | _ => none

namespace ActorState

variable {s s' : ActorState} {outcome : ApplyOutcome} {message : ActorMessage}

/-- The requests of the pending approvals, rejections and trust writes, one entry for each. -/
def admissionOperations (s : ActorState) : List RequestId :=
  s.pendingTransport.filterMap (fun entry => entry.2.requestId) ++
    s.pendingStorage.filterMap fun entry => entry.2.requestId

/-- A new request that the policy decides when it arrives has no operation in progress. -/
def ArrivesUndecided (s : ActorState) (message : ActorMessage) : Prop :=
  ∀ request ∈ message.arrival,
    (∀ other ∈ s.snapshot.pendingJoinRequests, other.requestId ≠ request.requestId) →
      classifyJoinRequest s.snapshot.hostDraft request ≠ .pendingManualDecision →
        ¬s.RequestOperationPending request.requestId

instance (s : ActorState) (message : ActorMessage) : Decidable (s.ArrivesUndecided message) :=
  Option.decidableForallMem _

/-- A request that is left to the host starts no operation. -/
theorem handleJoinRequest_manual {request : JoinRequestSummary}
    (hmanual : classifyJoinRequest s.snapshot.hostDraft request = .pendingManualDecision)
    (h : s.handleJoinRequest request = .ok (s', outcome)) :
    s'.admissionOperations = s.admissionOperations := by
  unfold handleJoinRequest at h
  obtain ⟨⟨⟩, -, h⟩ := bind_eq_ok.mp h
  split at h
  · split_ifs at h
    cases h
    rfl
  · unfold admitJoinRequest at h
    obtain ⟨⟨⟩, -, h⟩ := bind_eq_ok.mp h
    obtain ⟨⟨⟩, -, h⟩ := bind_eq_ok.mp h
    rw [hmanual] at h
    cases h
    rfl

theorem nodup_admissionOperations_next (hs : s.admissionOperations.Nodup)
    (harrives : s.ArrivesUndecided message) : (actor.next s message).admissionOperations.Nodup := by
  rcases s.receive_cases message with ⟨hstate, -⟩ |
    ⟨candidate, outcome, hhandle, -, hstate, -⟩
  · rw [show actor.next s message = s from hstate]
    exact hs
  have hcore : (actor.next s message).core = candidate.core :=
    (congrArg core hstate).trans (core_published candidate outcome)
  change (actor.next s message).core.decisions.Nodup
  rw [hcore]
  by_cases hmanual : ∃ request, message = .input (.transport (.joinRequested request)) ∧
      classifyJoinRequest s.snapshot.hostDraft request = .pendingManualDecision
  · obtain ⟨request, rfl, hmanual⟩ := hmanual
    have hsame : candidate.core.decisions = s.core.decisions :=
      handleJoinRequest_manual hmanual hhandle
    exact hsame ▸ hs
  · refine (apply_refines _ (apply_of_handle hhandle)).step.nodup_decisions hs ?_
    intro request hinput hnew
    obtain rfl := ActorMessage.eq_of_asInput hinput (by simp)
    exact harrives request rfl hnew fun hclass => hmanual ⟨request, rfl, hclass⟩

end ActorState

/-- **One operation for each request.** In every run in which the requests that the policy
decides arrive without an operation in progress, no request has two of the pending approvals,
rejections and trust writes. -/
theorem one_operation_per_request {s₀ : ActorState} (hs : actor.init s₀)
    {messages : List ActorMessage}
    (h : actor.Along (fun s message => s.ArrivesUndecided message) s₀ messages)
    (requestId : RequestId) :
    (actor.after s₀ messages).admissionOperations.count requestId ≤ 1 := by
  have hnodup : (actor.after s₀ messages).admissionOperations.Nodup := by
    refine h.invariant (I := fun s => s.admissionOperations.Nodup)
      (fun s message => ActorState.nodup_admissionOperations_next) ?_
    obtain ⟨localDeviceId, sessionIdNamespace, rfl⟩ := hs
    exact List.nodup_nil
  exact List.nodup_iff_count_le_one.mp hnodup requestId

open Scenario in
theorem one_operation_per_request_rejected :
    (actor.after device (requesting .trustedDevices)).admissionOperations.count
      request.requestId ≤ 1 :=
  one_operation_per_request ⟨_, _, rfl⟩ (by decide) _

namespace Scenario

/-- A trusted device asks and leaves before its approval is delivered; its identifier is then
used by a request of the device that is not trusted. -/
def reusing : List ActorMessage :=
  hosting .trustedDevices ++
    [.input (.transport (.joinRequested { request with trustState := .trusted })),
      .input (.transport (.listenerDisconnected request.deviceId none)),
      .input (.transport (.joinRequested request))]

end Scenario

open Scenario in
/-- The approval and the rejection of one request are in flight together. -/
theorem not_one_operation_per_request :
    actor.Reachable (actor.after device reusing) ∧
      (actor.after device reusing).pendingTransport.map Prod.snd =
        [.approveJoin ⟨request.requestId, request.deviceId, true, false⟩,
          .rejectJoin request.requestId request.deviceId none] ∧
      (actor.after device reusing).admissionOperations.count request.requestId = 2 :=
  ⟨⟨_, _, ⟨_, _, rfl⟩, rfl⟩, by decide, by decide⟩

end SilentDisco
