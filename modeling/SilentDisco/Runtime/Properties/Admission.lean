import SilentDisco.Runtime.Actor.Refinement.Dispatch

/-!
# Approvals

Where approvals come from, and what holds when one is sent. The policy is applied when a
request arrives; an explicit approval and the completion of a trust write are carried out
without applying it again, and the completion is also carried out when its request is gone or
its session no longer admits listeners.

## Main definitions

* `ActorState.Rejects`: the policy rejects a pending request under the current draft
* `ApprovalsFollowPolicy`, `ApprovalsAreCurrent`: what the approvals of one step satisfy
* `DecidesWithinPolicy`, `CompletesCurrentWrite`: the steps on which they are certain

## Main results

* `Core.Step.approval`: the three origins of an approval
* `approvals_follow_policy`: no approval of a request that the policy rejects
* `approvals_are_current`: approvals answer pending requests of a session that admits listeners
-/

namespace SilentDisco

open JoinRequestDisposition ActorState

/-- The policy rejects the request. -/
def JoinRequestDisposition.rejects : JoinRequestDisposition → Bool
  | .autoReject _ => true
  | .pendingManualDecision | .autoApprove _ => false

/-- The request and the device that an effect approves. -/
def TransportEffectRequest.approved : TransportEffectRequest → Option (RequestId × DeviceId)
  | .deliverJoinApproval requestId _ listenerId _ => some (requestId, listenerId)
  | .deliverJoinRejection .. | .disconnectListener .. => none

namespace Core

/-- The policy rejects a pending request with the identifier. -/
def Rejects (c : Core) (requestId : RequestId) : Prop :=
  ∃ request ∈ c.requests, request.requestId = requestId ∧
    (classifyJoinRequest { approvalMode := c.approvalMode } request).rejects = true

/-- A request of the device is pending. -/
def Awaits (c : Core) (requestId : RequestId) (deviceId : DeviceId) : Prop :=
  ∃ request ∈ c.requests, request.requestId = requestId ∧ request.deviceId = deviceId

theorem rejects_congr {c c' : Core} {requestId : RequestId} (hrequests : c'.requests = c.requests)
    (hmode : c'.approvalMode = c.approvalMode) : c'.Rejects requestId ↔ c.Rejects requestId := by
  unfold Rejects
  rw [hrequests, hmode]

/-- The origins of an approval: the host's command, the policy, and a completed trust write. -/
inductive Approval (c : Core) (requestId : RequestId) (deviceId : DeviceId) :
    CoreActorInput → Core → Prop
  | explicit (operationId : OperationId) (revision : SnapshotRevision) (remember : Bool)
      (c' : Core) (hawaits : c.Awaits requestId deviceId)
      (hlifecycle : c.lifecycle.AdmitsListeners) (hlifecycle' : c'.lifecycle = c.lifecycle)
      (hrequests : c'.requests = c.requests) (hmode : c'.approvalMode = c.approvalMode) :
      Approval c requestId deviceId
        (.command operationId ⟨revision, .approveJoin requestId remember⟩) c'
  | policy (request : JoinRequestSummary) (trusted : Bool) (c' : Core)
      (hrequest : request.requestId = requestId) (hdevice : request.deviceId = deviceId)
      (hlifecycle : c.lifecycle.AdmitsListeners) (hlifecycle' : c'.lifecycle = c.lifecycle)
      (hnew : ∀ other ∈ c.requests, other.requestId ≠ requestId)
      (hpolicy : ∀ draft : HostDraft, draft.approvalMode = c.approvalMode →
        classifyJoinRequest draft request = .autoApprove trusted)
      (hrequests : c'.requests = c.requests ++ [request])
      (hmode : c'.approvalMode = c.approvalMode) :
      Approval c requestId deviceId (.transport (.joinRequested request)) c'
  | persisted (event : StorageEvent) (persistence : TrustPersistenceRequest) (c' : Core)
      (hpending : c.writes.lookup event.operationId = some (.persistApprovalTrust persistence))
      (hrequest : persistence.requestId = requestId)
      (hdevice : persistence.deviceId = deviceId) (hlifecycle' : c'.lifecycle = c.lifecycle)
      (hrequests : c'.requests = c.requests) (hmode : c'.approvalMode = c.approvalMode) :
      Approval c requestId deviceId (.storage event) c'

variable {c c' : Core} {input : CoreActorInput} {requests : List TransportEffectRequest}
  {requestId : RequestId} {deviceId : DeviceId}

/-- Every approval has one of the three origins. -/
theorem Step.approval (h : c.Step input c' requests) {effect : TransportEffectRequest}
    (hmem : effect ∈ requests) (heffect : effect.approved = some (requestId, deviceId)) :
    c.Approval requestId deviceId input c' := by
  cases h with
  | approvalStarted _ _ _ _ _ request _ hadmits hrequest =>
    obtain rfl := List.mem_singleton.mp hmem
    cases heffect
    exact .explicit _ _ _ _ ⟨request, hrequest, rfl, rfl⟩ hadmits.lifecycle rfl rfl rfl
  | requestApproved request _ _ trusted hadmits hnew _ hpolicy =>
    obtain rfl := List.mem_singleton.mp hmem
    cases heffect
    exact .policy request trusted _ rfl rfl hadmits.lifecycle rfl hnew hpolicy rfl rfl
  | trustWriteCompleted event _ _ persistence _ hpending =>
    obtain rfl := List.mem_singleton.mp hmem
    cases heffect
    exact .persisted event persistence _ hpending rfl rfl rfl rfl rfl
  | rejectionStarted | removalStarted | requestRejected =>
    obtain rfl := List.mem_singleton.mp hmem
    cases heffect
  | _ => cases hmem

end Core

namespace ActorState

variable {s : ActorState} {message : ActorMessage} {requestId : RequestId} {deviceId : DeviceId}

/-- The policy rejects a pending request with the identifier under the current draft. -/
def Rejects (s : ActorState) (requestId : RequestId) : Prop :=
  ∃ request ∈ s.snapshot.pendingJoinRequests, request.requestId = requestId ∧
    (classifyJoinRequest s.snapshot.hostDraft request).rejects = true

instance (s : ActorState) (requestId : RequestId) : Decidable (s.Rejects requestId) :=
  List.decidableBEx _ _

/-- A request of the device is pending. -/
def Awaits (s : ActorState) (requestId : RequestId) (deviceId : DeviceId) : Prop :=
  ∃ request ∈ s.snapshot.pendingJoinRequests,
    request.requestId = requestId ∧ request.deviceId = deviceId

instance (s : ActorState) (requestId : RequestId) (deviceId : DeviceId) :
    Decidable (s.Awaits requestId deviceId) := List.decidableBEx _ _

theorem core_rejects : s.core.Rejects requestId ↔ s.Rejects requestId := by
  have hsame (request : JoinRequestSummary) :
      classifyJoinRequest { approvalMode := s.core.approvalMode } request =
        classifyJoinRequest s.snapshot.hostDraft request :=
    classifyJoinRequest_congr request rfl
  unfold Core.Rejects Rejects
  simp only [hsame]
  exact Iff.rfl

/-- The request that a message decides without applying the policy: the one a command
approves, or the one whose trust write is completed. -/
def decides (s : ActorState) : ActorMessage → Option RequestId
  | .input (.command _ ⟨_, .approveJoin requestId _⟩) => some requestId
  | .input (.storage event) =>
    (s.pendingStorageOperation event.operationId).bind PendingStorageOperation.requestId
  | _ => none

/-- The trust write that a message completes. -/
def completesTrustWrite (s : ActorState) : ActorMessage → Option TrustPersistenceRequest
  | .input (.storage event) =>
    match s.pendingStorageOperation event.operationId with
    | some (.persistApprovalTrust persistence) => some persistence
    | _ => none
  | _ => none

/-- The requests and devices that a message's effects approve. -/
def approvals (s : ActorState) (message : ActorMessage) : List (RequestId × DeviceId) :=
  (transportRequests (actor.out s message).notifications).filterMap
    TransportEffectRequest.approved

/-- An approval is an abstract one. -/
theorem approval_of_mem (h : (requestId, deviceId) ∈ s.approvals message) :
    s.core.Approval requestId deviceId message.asInput (actor.next s message).core := by
  obtain ⟨effect, hmem, heffect⟩ := List.mem_filterMap.mp h
  rcases s.receive_core message with ⟨-, hnone⟩ | hstep
  · exact absurd (hnone ▸ hmem) List.not_mem_nil
  · exact hstep.approval hmem heffect

end ActorState

/-! ## Hosting runs -/

namespace Scenario

/-- The initial state of a host device. -/
def device : ActorState := .new ⟨"host-1", by decide⟩ none

/-- A command made on a revision. -/
def command (revision : UInt64) (command : CoreCommand) : ActorMessage :=
  .input (.command ⟨"command-1", by decide⟩ ⟨⟨revision⟩, command⟩)

/-- A session is created under an approval mode. -/
def creating (mode : ApprovalMode) : List ActorMessage :=
  [command 0 (.selectRole .host),
    command 1 (.updateHostDraft
      { sessionName := some "Session"
        approvalMode := some mode
        audioSource := .set ⟨"source-1", "Track", some 1000, none⟩ }),
    command 2 .createHostSession]

/-- The session is created and its advertising has started. -/
def hosting (mode : ApprovalMode) : List ActorMessage :=
  creating mode ++
    [.input (.platform (.operationSucceeded ⟨"effect-1", by decide⟩ .advertisingStarted))]

/-- The request of a device that is not trusted. -/
def request : JoinRequestSummary where
  requestId := ⟨"request-1", by decide⟩
  deviceId := ⟨"listener-1", by decide⟩
  displayName := "Listener"
  trustState := .sessionOnly
  inviteCodeValid := true
  receivedAt := ⟨10⟩

/-- The request arrives. -/
def requesting (mode : ApprovalMode) : List ActorMessage :=
  hosting mode ++ [.input (.transport (.joinRequested request))]

end Scenario

/-! ## The policy -/

/-- No approval is for a request that the policy rejects. -/
def ApprovalsFollowPolicy (s : ActorState) (message : ActorMessage) : Prop :=
  ∀ approval ∈ s.approvals message, ¬(actor.next s message).Rejects approval.1

/-- The message decides no request that the policy rejects. -/
def DecidesWithinPolicy (s : ActorState) (message : ActorMessage) : Prop :=
  ∀ requestId ∈ s.decides message, ¬s.Rejects requestId

instance (s : ActorState) (message : ActorMessage) :
    Decidable (ApprovalsFollowPolicy s message) := List.decidableBAll _ _

instance (s : ActorState) (message : ActorMessage) :
    Decidable (DecidesWithinPolicy s message) := Option.decidableForallMem _

theorem approvalsFollowPolicy_of_decidesWithinPolicy (s : ActorState) (message : ActorMessage)
    (h : DecidesWithinPolicy s message) : ApprovalsFollowPolicy s message := by
  rintro ⟨requestId, deviceId⟩ hmem hrejects
  rw [← core_rejects] at hrejects
  have horigin := approval_of_mem hmem
  generalize hinput : message.asInput = input at horigin
  cases horigin with
  | explicit _ _ _ _ _ _ _ hrequests hmode =>
    obtain rfl := ActorMessage.eq_of_asInput hinput (by simp)
    rw [Core.rejects_congr hrequests hmode, core_rejects] at hrejects
    exact h requestId rfl hrejects
  | persisted _ _ _ hpending hrequest _ _ hrequests hmode =>
    obtain rfl := ActorMessage.eq_of_asInput hinput (by simp)
    rw [Core.rejects_congr hrequests hmode, core_rejects] at hrejects
    exact h requestId (Option.bind_eq_some_iff.mpr ⟨_, hpending, congrArg some hrequest⟩) hrejects
  | policy _ _ _ _ _ _ _ hnew hpolicy hrequests hmode =>
    -- A new identifier: the only request that has it is the one the policy approved.
    obtain ⟨other, hother, hid, hreject⟩ := hrejects
    rw [hrequests, List.mem_append, List.mem_singleton] at hother
    rcases hother with hother | rfl
    · exact hnew other hother hid
    · rw [hpolicy { approvalMode := _ } hmode] at hreject
      exact Bool.false_ne_true hreject

/-- **Approvals follow the policy.** In every run whose explicit approvals and trust-write
completions concern no request that the policy rejects, no approval is sent for such a
request. -/
theorem approvals_follow_policy (s : ActorState) (messages : List ActorMessage)
    (h : actor.Along DecidesWithinPolicy s messages) :
    actor.Along ApprovalsFollowPolicy s messages :=
  h.imp approvalsFollowPolicy_of_decidesWithinPolicy

open Scenario in
theorem approvals_follow_policy_manual :
    actor.Along DecidesWithinPolicy device
        (requesting .manual ++ [command 5 (.approveJoin request.requestId false)]) ∧
      actor.Along ApprovalsFollowPolicy device
        (requesting .manual ++ [command 5 (.approveJoin request.requestId false)]) :=
  ⟨by decide, approvals_follow_policy _ _ (by decide)⟩

open Scenario in
/-- A request that the policy rejects stays pending when the rejection is not delivered, and
the host can approve it. -/
theorem not_approvals_follow_policy :
    ¬actor.Along ApprovalsFollowPolicy device
      (requesting .trustedDevices ++
        [.input (.transport (.deliveryCompleted ⟨"effect-2", by decide⟩
          ⟨1, 0, 1, .partialFailure⟩)), command 6 (.approveJoin request.requestId false)]) := by
  decide

/-! ## Current requests -/

/-- Every approval answers a pending request while the host admits listeners. -/
def ApprovalsAreCurrent (s : ActorState) (message : ActorMessage) : Prop :=
  ∀ approval ∈ s.approvals message, (actor.next s message).Awaits approval.1 approval.2 ∧
    (actor.next s message).snapshot.hostLifecycle.AdmitsListeners

/-- A trust write that the message completes is still for a pending request, and the host still
admits listeners. -/
def CompletesCurrentWrite (s : ActorState) (message : ActorMessage) : Prop :=
  ∀ persistence ∈ s.completesTrustWrite message,
    s.Awaits persistence.requestId persistence.deviceId ∧ s.snapshot.hostLifecycle.AdmitsListeners

instance (s : ActorState) (message : ActorMessage) :
    Decidable (ApprovalsAreCurrent s message) := List.decidableBAll _ _

instance (s : ActorState) (message : ActorMessage) :
    Decidable (CompletesCurrentWrite s message) := Option.decidableForallMem _

theorem approvalsAreCurrent_of_completesCurrentWrite (s : ActorState) (message : ActorMessage)
    (h : CompletesCurrentWrite s message) : ApprovalsAreCurrent s message := by
  rintro ⟨requestId, deviceId⟩ hmem
  have horigin := approval_of_mem hmem
  generalize hinput : message.asInput = input at horigin
  change (actor.next s message).core.Awaits requestId deviceId ∧
    (actor.next s message).core.lifecycle.AdmitsListeners
  cases horigin with
  | explicit _ _ _ _ hawaits hlifecycle hlifecycle' hrequests =>
    rw [Core.Awaits, hrequests, hlifecycle']
    exact ⟨hawaits, hlifecycle⟩
  | policy request _ _ hrequest hdevice hlifecycle hlifecycle' _ _ hrequests =>
    rw [Core.Awaits, hrequests, hlifecycle']
    exact ⟨⟨request, by simp, hrequest, hdevice⟩, hlifecycle⟩
  | persisted event persistence _ hpending hrequest hdevice hlifecycle' hrequests =>
    obtain rfl := ActorMessage.eq_of_asInput hinput (by simp)
    have hwrite : persistence ∈ s.completesTrustWrite (.input (.storage event)) := by
      have hlookup : s.pendingStorageOperation event.operationId = _ := hpending
      simp [completesTrustWrite, hlookup]
    rw [Core.Awaits, hrequests, hlifecycle', ← hrequest, ← hdevice]
    exact h persistence hwrite

/-- **Approvals are current.** In every run that completes trust writes only while their
request is pending and the host admits listeners, every approval answers a pending request of
a session that admits listeners. -/
theorem approvals_are_current (s : ActorState) (messages : List ActorMessage)
    (h : actor.Along CompletesCurrentWrite s messages) :
    actor.Along ApprovalsAreCurrent s messages :=
  h.imp approvalsAreCurrent_of_completesCurrentWrite

namespace Scenario

/-- The host remembers the requesting device: its trust is written first. -/
def remembering : List ActorMessage :=
  requesting .manual ++ [command 5 (.approveJoin request.requestId true)]

/-- The trust of the requesting device has been written. -/
def trustWritten : ActorMessage :=
  .input (.storage (.operationSucceeded ⟨"effect-2", by decide⟩
    (.trustedDeviceUpdated request.deviceId)))

end Scenario

open Scenario in
theorem approvals_are_current_remembered :
    actor.Along CompletesCurrentWrite device
        (remembering ++ [trustWritten]) ∧
      actor.Along ApprovalsAreCurrent device
        (remembering ++ [trustWritten]) :=
  ⟨by decide, approvals_are_current _ _ (by decide)⟩

open Scenario in
/-- A device that left while its trust was written is approved. -/
theorem not_approvals_are_current :
    ¬actor.Along ApprovalsAreCurrent device
      (remembering ++
        [.input (.transport (.listenerDisconnected request.deviceId none)), trustWritten]) := by
  decide

end SilentDisco
