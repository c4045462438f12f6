import SilentDisco.Desktop.HostProcessor
import SilentDisco.Runtime.Properties.Snapshot

/-!
# Requests of connections that have ended

The actor should not keep a request whose connection has ended. The end of a connection reaches the
actor as the disconnect of a listener, which only the current peer of a device causes. A device
whose current peer is an older connection may have a pending request of a newer one; the end of the
newer connection is then dropped, and its request stays.

Where a request is pending, or on its way, only for current peers, every request is forgotten with
its connection. Whether a request will be pending once the mailbox is empty is a fold over the
mailbox; closing a connection makes it false, and it stays false.

## Main definitions

* `JoinRegistration.after`, `HostDesk.Awaited`: whether a request will be pending
* `HostDesk.NoGhosts`: no request of a connection that has ended is pending
* `HostDesk.Owned`: the condition

## Main results

* `no_ghost_requests`: runs under the condition leave no ghosts
-/

namespace SilentDisco

open ActorMessage

namespace Core

variable {c c' : Core} {input : CoreActorInput} {requests : List TransportEffectRequest}

/-- Only a join request adds a request. -/
theorem Step.mem_requests (h : c.Step input c' requests) {request : JoinRequestSummary}
    (hmem : request ∈ c'.requests) :
    request ∈ c.requests ∨ input = .transport (.joinRequested request) := by
  have hadded {new : JoinRequestSummary} (hnew : request ∈ c.requests ++ [new]) :
      request ∈ c.requests ∨
        CoreActorInput.transport (.joinRequested new) = .transport (.joinRequested request) := by
    rcases List.mem_append.mp hnew with hold | hsingle
    · exact .inl hold
    · obtain rfl := List.mem_singleton.mp hsingle
      exact .inr rfl
  cases h with
  | requestRecorded | requestApproved | requestRejected => exact hadded hmem
  | approvalDelivered | rejectionDelivered => exact .inl (List.mem_of_mem_eraseP hmem)
  | advertisingStopped => exact absurd hmem List.not_mem_nil
  | listenerConnected | listenerDisconnected => exact .inl (List.mem_of_mem_filter hmem)
  | _ => exact .inl hmem

end Core

namespace ActorState

variable {s : ActorState}

theorem mem_requests_receive {message : ActorMessage} {request : JoinRequestSummary}
    (hmem : request ∈ (s.receive message).1.snapshot.pendingJoinRequests) :
    request ∈ s.snapshot.pendingJoinRequests ∨ message.joinRequest = some request := by
  rcases s.receive_core message with ⟨hstate, -⟩ | hstep
  · rw [hstate] at hmem
    exact .inl hmem
  · rcases hstep.mem_requests hmem with hold | hinput
    · exact .inl hold
    · rw [eq_of_asInput hinput (by simp)]
      exact .inr rfl

/-- The disconnect of a listener is handled, and its requests are forgotten. -/
theorem recordListenerDisconnect_ok (s : ActorState) (deviceId : DeviceId)
    (error : Option CoreError) :
    ∃ s' outcome, s.recordListenerDisconnect deviceId error = .ok (s', outcome) ∧
      s'.snapshot.revision = s.snapshot.revision ∧
      ∀ request ∈ s'.snapshot.pendingJoinRequests, request.deviceId ≠ deviceId := by
  have hforgotten : ∀ request ∈ (s.forgetListener deviceId).snapshot.pendingJoinRequests,
      request.deviceId ≠ deviceId := by
    intro request hmem
    simpa using (List.mem_filter.mp hmem).2
  cases error with
  | some => exact ⟨_, _, rfl, rfl, hforgotten⟩
  | none =>
    unfold recordListenerDisconnect
    split_ifs
    · exact ⟨_, _, rfl, rfl, hforgotten⟩
    · exact ⟨_, _, rfl, rfl, hforgotten⟩

theorem requests_receive_listenerDisconnected (hvalid : s.snapshot.Valid)
    (hroom : s.snapshot.revision.get.toNat + 1 < 2 ^ 64) {deviceId : DeviceId}
    {error : Option CoreError} {request : JoinRequestSummary}
    (hmem : request ∈ (s.receive (.input (.transport
      (.listenerDisconnected deviceId error)))).1.snapshot.pendingJoinRequests) :
    request.deviceId ≠ deviceId := by
  obtain ⟨s', outcome, hok, hrevision, hforgotten⟩ :=
    s.recordListenerDisconnect_ok deviceId error
  have hhandle : s.handle (.input (.transport (.listenerDisconnected deviceId error))) =
      .ok (s', outcome) := hok
  have hkeeps : ¬s.DropsDiscovery (.transport (.listenerDisconnected deviceId error)) := id
  have hvalid' : s'.snapshot.Valid := apply_valid hvalid (fun h => hkeeps h.2) hhandle
  have hcommit : s'.Committable outcome := fun _ => ⟨by rw [hrevision]; exact hroom, hvalid'⟩
  have hstate := (receive_of_committable hhandle hcommit).1
  rw [hstate] at hmem
  refine hforgotten request ?_
  rw [← show (s'.published outcome).snapshot.pendingJoinRequests =
    s'.snapshot.pendingJoinRequests from congrArg Core.requests (core_published s' outcome)]
  exact hmem

end ActorState

namespace Desktop

open Protocol Transport

/-! ## Requests on their way -/

namespace JoinRegistration

variable (registration : JoinRegistration)

/-- Whether the request is pending after a message, if the actor takes it. -/
def after (pending : Bool) : ActorMessage → Bool
  | .input (.transport (.joinRequested request)) =>
    pending || decide (request.requestId = registration.requestId)
  | .input (.transport (.listenerDisconnected deviceId _)) =>
    pending && decide (deviceId ≠ registration.deviceId)
  | _ => pending

def pendingIn (s : ActorState) : Bool :=
  s.snapshot.pendingJoinRequests.any fun request => request.requestId = registration.requestId

theorem pendingIn_eq_true {s : ActorState} : registration.pendingIn s = true ↔
    ∃ request ∈ s.snapshot.pendingJoinRequests, request.requestId = registration.requestId := by
  simp [pendingIn]

theorem after_mono {p q : Bool} (h : p = true → q = true) (message : ActorMessage) :
    registration.after p message = true → registration.after q message = true := by
  unfold after
  split
  · simp only [Bool.or_eq_true]
    exact Or.imp_left h
  · simp only [Bool.and_eq_true]
    exact And.imp_left h
  · exact h

theorem foldl_after_mono {p q : Bool} (h : p = true → q = true) (messages : List ActorMessage) :
    messages.foldl registration.after p = true → messages.foldl registration.after q = true := by
  induction messages generalizing p q with
  | nil => exact h
  | cons message messages ih => exact ih (registration.after_mono h message)

/-- A message with another request, or with none, does not bring it. -/
theorem after_false {message : ActorMessage}
    (h : ∀ request ∈ message.joinRequest, request.requestId ≠ registration.requestId) :
    registration.after false message = false := by
  unfold after
  split
  · next request => simpa using h request rfl
  · rfl
  · rfl

theorem foldl_after_false {messages : List ActorMessage}
    (h : ∀ message ∈ messages, ∀ request ∈ message.joinRequest,
      request.requestId ≠ registration.requestId) :
    messages.foldl registration.after false = false := by
  induction messages with
  | nil => rfl
  | cons message messages ih =>
    rw [List.foldl_cons, registration.after_false (h message List.mem_cons_self)]
    exact ih fun other hmem => h other (List.mem_cons_of_mem message hmem)

end JoinRegistration

/-! ## What the worker submits -/

section Worker

variable {α : Type} {projection : PendingJoinProjection} {processed : Processed α}
  {answers : HostAnswers} {operationId : OperationId} {retired : PendingJoinProjection}

/-- The step submits no request, and takes no name back. -/
structure Processed.Plain (projection : PendingJoinProjection) (processed : Processed α) :
    Prop where
  sequence : projection.nextSequence ≤ processed.projection.nextSequence
  submitted : ∀ input ∈ processed.submitted, (ActorMessage.input input).joinRequest = none

theorem plain_of_nil (hsequence : projection.nextSequence ≤ processed.projection.nextSequence)
    (hnil : processed.submitted = []) : processed.Plain projection := by
  refine ⟨hsequence, fun input hmem => ?_⟩
  rw [hnil] at hmem
  exact absurd hmem List.not_mem_nil

theorem plain_submitLast {input : CoreActorInput} {value : α} {submission : Option String}
    (hsequence : retired.nextSequence = projection.nextSequence)
    (hinput : (ActorMessage.input input).joinRequest = none) :
    (submitLast retired input value submission).Plain projection := by
  have hle : projection.nextSequence ≤ retired.nextSequence := by
    rw [hsequence]
    exact UInt64.le_refl _
  cases submission with
  | none => exact ⟨hle, by simpa [submitLast] using hinput⟩
  | some => exact plain_of_nil hle rfl

theorem plain_deliveryFailed {shown : Option String}
    (hsequence : retired.nextSequence = projection.nextSequence) :
    (deliveryFailed retired operationId shown answers).Plain projection := by
  have h : (submitLast retired
      (.transport (.deliveryCompleted operationId failedDeliveryReport)) ()
      answers.submission).Plain projection := plain_submitLast hsequence rfl
  exact ⟨h.sequence, h.submitted⟩

theorem plain_finishDelivery {delivery : Except TransportError DeliveryReport}
    (hsequence : retired.nextSequence = projection.nextSequence) :
    (finishDelivery retired operationId delivery answers).Plain projection := by
  have h : (submitLast retired
      (.transport (.deliveryCompleted operationId (reported delivery).1)) ()
      answers.submission).Plain projection := plain_submitLast hsequence rfl
  exact ⟨h.sequence, h.submitted⟩

theorem plain_submitConnected {authorized : PendingJoinProjection} {report : DeliveryReport}
    {listener : ListenerSummary} (hsequence : authorized.nextSequence = projection.nextSequence) :
    (submitConnected authorized operationId report listener answers).Plain projection := by
  have hle : projection.nextSequence ≤ authorized.nextSequence := by
    rw [hsequence]
    exact UInt64.le_refl _
  unfold submitConnected
  split
  · exact plain_of_nil hle rfl
  · split
    · exact ⟨hle, by simp [joinRequest]⟩
    · exact ⟨hle, by simp [joinRequest]⟩

theorem plain_finishApprovedListener {report : DeliveryReport} {listenerId : DeviceId} :
    (finishApprovedListener projection operationId report listenerId answers).Plain
      projection := by
  unfold finishApprovedListener
  split
  · exact plain_deliveryFailed rfl
  · split
    · exact plain_deliveryFailed rfl
    · dsimp only
      split
      · exact plain_submitConnected rfl
      · exact plain_of_nil (UInt64.le_refl _) rfl

theorem plain_processApproval {requestId : RequestId} {listenerId : DeviceId} {trusted : Bool} :
    (processApproval projection operationId requestId listenerId trusted answers).Plain
      projection := by
  unfold processApproval
  split_ifs
  · exact plain_deliveryFailed rfl
  · exact plain_deliveryFailed rfl
  · split
    · split_ifs
      · exact plain_finishApprovedListener
      · exact plain_finishDelivery rfl
    · exact plain_finishDelivery rfl

theorem plain_processEffect (projection : PendingJoinProjection) (effect : TransportEffect)
    (answers : HostAnswers) : (processEffect projection effect answers).Plain projection := by
  unfold processEffect
  split
  · exact plain_processApproval
  · split_ifs
    · exact plain_deliveryFailed rfl
    · exact plain_finishDelivery rfl
  · exact plain_finishDelivery rfl

theorem nextSequence_removeIfCurrent (projection : PendingJoinProjection) (deviceId : DeviceId)
    (address : SocketAddr) :
    (projection.removeIfCurrent deviceId address).2.nextSequence = projection.nextSequence := by
  unfold PendingJoinProjection.removeIfCurrent
  dsimp only
  split_ifs <;> rfl

theorem plain_processDisconnect (projection : PendingJoinProjection) (peer : TransportPeer)
    (error : Option TransportError) (answers : HostAnswers) :
    (processDisconnect projection peer error answers).Plain projection := by
  unfold processDisconnect
  split
  · exact plain_of_nil (UInt64.le_refl _) rfl
  · next deviceId _ =>
    have hsequence := nextSequence_removeIfCurrent projection deviceId peer.controlAddress
    split
    · next retired hretired =>
      rw [hretired] at hsequence
      exact plain_of_nil (by rw [hsequence]; exact UInt64.le_refl _) rfl
    · next retired hretired =>
      rw [hretired] at hsequence
      exact plain_submitLast hsequence rfl

theorem plain_forwardSyncReport (projection : PendingJoinProjection)
    (report : SynchronizationReport) (answers : HostAnswers) :
    (forwardSyncReport projection report answers).Plain projection := by
  unfold forwardSyncReport
  split
  · exact plain_submitLast rfl rfl
  · exact plain_of_nil (UInt64.le_refl _) rfl

/-- The step submits one request, under the next name. -/
structure Processed.Joins (projection : PendingJoinProjection) (processed : Processed α)
    (summary : JoinRequestSummary) : Prop where
  sequence : processed.projection.nextSequence = projection.takeSequence.nextSequence
  submitted : processed.submitted = [.transport (.joinRequested summary)]
  requestId : summary.requestId = joinRequestId projection.nextSequence

theorem le_takeSequence (projection : PendingJoinProjection) :
    projection.nextSequence ≤ projection.takeSequence.nextSequence := by
  unfold PendingJoinProjection.takeSequence
  dsimp only
  split_ifs with hroom
  · refine UInt64.le_iff_toNat_le.mpr ?_
    rw [UInt64.toNat_add, UInt64.toNat_one, Nat.mod_eq_of_lt hroom]
    exact Nat.le_succ _
  · exact UInt64.le_refl _

theorem lt_takeSequence (hroom : projection.nextSequence.toNat + 1 < 2 ^ 64) :
    projection.nextSequence < projection.takeSequence.nextSequence := by
  unfold PendingJoinProjection.takeSequence
  rw [if_pos hroom, UInt64.lt_iff_toNat_lt, UInt64.toNat_add, UInt64.toNat_one,
    Nat.mod_eq_of_lt hroom]
  exact Nat.lt_succ_self _

theorem summarize_requestId {request : JoinRequest} {receivedAt : MonotonicMillis}
    {advertisement : SessionAdvertisement} {draft : HostDraft} {summary : JoinRequestSummary}
    (h : projection.summarize request receivedAt advertisement draft = .ok summary) :
    summary.requestId = joinRequestId projection.nextSequence := by
  obtain ⟨⟨⟩, -, hnew⟩ := Result.bind_eq_ok.mp h
  obtain ⟨⟨⟩, -, hsummary⟩ := Result.bind_eq_ok.mp (Result.mapError_eq_ok.mp hnew)
  cases hsummary
  rfl

/-- A registration submits nothing, or one request under the next name. -/
theorem register_cases (projection : PendingJoinProjection) (request : JoinRequest)
    (address : SocketAddr) (receivedAt : MonotonicMillis) (advertisement : SessionAdvertisement)
    (draft : Except String HostDraft) (submission : Option String) :
    let registered := projection.register request address receivedAt advertisement draft submission
    (registered.submitted = none ∧ projection.nextSequence ≤ registered.projection.nextSequence) ∨
    ∃ summary, registered.submitted = some summary ∧
      registered.projection.nextSequence = projection.takeSequence.nextSequence ∧
      summary.requestId = joinRequestId projection.nextSequence := by
  intro registered
  simp only [registered, PendingJoinProjection.register]
  split
  · split_ifs <;> exact .inl ⟨rfl, UInt64.le_refl _⟩
  · split_ifs
    · exact .inl ⟨rfl, UInt64.le_refl _⟩
    · unfold PendingJoinProjection.registerNew
      split
      · exact .inl ⟨rfl, UInt64.le_refl _⟩
      · split
        · exact .inl ⟨rfl, le_takeSequence projection⟩
        · next summary hsummary =>
          cases submission with
          | none => exact .inr ⟨summary, rfl, rfl, summarize_requestId hsummary⟩
          | some => exact .inl ⟨rfl, le_takeSequence projection⟩

theorem processJoin_cases (projection : PendingJoinProjection) (request : JoinRequest)
    (peer : TransportPeer) (receivedAt : MonotonicMillis) (advertisement : SessionAdvertisement)
    (draft : HostDraft) (answers : HostAnswers) :
    let processed := processJoin projection request peer receivedAt advertisement draft answers
    processed.Plain projection ∨ ∃ summary, processed.Joins projection summary := by
  intro processed
  simp only [processed, processJoin]
  split_ifs
  · exact .inl (plain_of_nil (UInt64.le_refl _) rfl)
  · rcases register_cases projection request peer.controlAddress receivedAt advertisement
      (answers.snapshot.elim (.ok draft) .error) answers.submission with
      ⟨hnone, hsequence⟩ | ⟨summary, hsome, hsequence, hid⟩
    · exact .inl (plain_of_nil hsequence (by simp [hnone]))
    · exact .inr ⟨summary, hsequence, by simp [hsome], hid⟩

/-- Only a join frame submits a request. -/
theorem processEvent_cases (projection : PendingJoinProjection)
    (advertisement : SessionAdvertisement) (draft : HostDraft) (answers : HostAnswers)
    (event : Transport.TransportEvent) :
    let processed := processEvent projection advertisement draft answers event
    processed.Plain projection ∨
      ∃ summary, processed.Joins projection summary ∧ closedAddress event = none := by
  intro processed
  simp only [processed]
  unfold processEvent
  split
  · exact (processJoin_cases projection _ _ _ advertisement draft answers).imp_right
      fun ⟨summary, hjoins⟩ => ⟨summary, hjoins, rfl⟩
  · exact .inl (plain_of_nil (UInt64.le_refl _) rfl)
  · exact .inl (plain_of_nil (UInt64.le_refl _) rfl)
  · split_ifs
    · exact .inl (plain_of_nil (UInt64.le_refl _) rfl)
    · exact .inl (plain_forwardSyncReport projection _ answers)
  · exact .inl (plain_processDisconnect projection _ _ answers)
  all_goals exact .inl (plain_of_nil (UInt64.le_refl _) rfl)

end Worker

namespace HostDesk

variable (desk : HostDesk)

/-- A request that is pending, or in the mailbox. -/
def Held (request : JoinRequestSummary) : Prop :=
  request ∈ desk.actor.snapshot.pendingJoinRequests ∨
    ∃ message ∈ desk.inputs, message.joinRequest = some request

/-- Whether the request will be pending when the mailbox is empty, if the actor takes it. -/
def Awaited (registration : JoinRegistration) : Bool :=
  desk.inputs.foldl registration.after (registration.pendingIn desk.actor)

/-- When all messages are processed, no request of a connection that has ended is pending. -/
def NoGhosts : Prop :=
  desk.inputs = [] → ∀ registration ∈ desk.registrations, registration.closed = true →
    ∀ request ∈ desk.actor.snapshot.pendingJoinRequests,
      request.requestId ≠ registration.requestId

/-- The request of a registration is pending, or in the mailbox. -/
def Holds (registration : JoinRegistration) : Prop :=
  (∃ request ∈ desk.actor.snapshot.pendingJoinRequests,
    request.requestId = registration.requestId) ∨
  ∃ message ∈ desk.inputs, ∃ request ∈ message.joinRequest,
    request.requestId = registration.requestId

/-- A connection that ends is the current peer of the device of every request it has, and there
are revisions and names left. -/
def Owned : HostDeskStep → Prop
  | .event (.peerDisconnected peer _ _) _ =>
    ∀ registration ∈ desk.registrations, registration.closed = false →
      registration.address = peer.controlAddress → desk.Holds registration →
        peer.deviceId = some registration.deviceId ∧
          desk.projection.ownsPeer registration.deviceId peer.controlAddress = true
  | .event _ _ => desk.projection.nextSequence.toNat + 1 < 2 ^ 64
  | .process => desk.actor.snapshot.revision.get.toNat + 1 < 2 ^ 64
  | .effect _ => True
  | .message _ => True

instance (registration : JoinRegistration) : Decidable (desk.Holds registration) :=
  inferInstanceAs (Decidable (_ ∨ _))

instance decidableOwned : (x : HostDeskStep) → Decidable (desk.Owned x)
  | .event (.peerDisconnected _ _ _) _ => List.decidableBAll _ _
  | .event (.peerAccepted _ _) _ | .event (.peerAuthorized _ _ _) _
  | .event (.frameReceived _ _ _ _) _ | .event (.rejected _ _ _ _) _ | .process =>
    inferInstanceAs (Decidable (_ < _))
  | .effect _ | .message _ => isTrue trivial

/-- What holds of the history: the names are used, the requests of the actor are those of the
history, and the requests of connections that have ended are gone. -/
structure Tracked : Prop where
  reachable : SilentDisco.actor.Reachable desk.actor
  named : ∀ registration ∈ desk.registrations,
    ∃ n < desk.projection.nextSequence, registration.requestId = joinRequestId n
  held : ∀ request, desk.Held request →
    ∃ n < desk.projection.nextSequence, request.requestId = joinRequestId n
  agree : ∀ registration ∈ desk.registrations, ∀ request, desk.Held request →
    request.requestId = registration.requestId → request.deviceId = registration.deviceId
  gone : ∀ registration ∈ desk.registrations, registration.closed = true →
    desk.Awaited registration = false

variable {desk} {registration : JoinRegistration} {projection : PendingJoinProjection}
  {answers : HostAnswers}

theorem Tracked.noGhosts (h : desk.Tracked) : desk.NoGhosts := by
  intro hempty registration hmem hclosed request hrequest hid
  have hgone : desk.Awaited registration = false := h.gone registration hmem hclosed
  unfold Awaited at hgone
  rw [hempty, List.foldl_nil] at hgone
  have hpending := registration.pendingIn_eq_true.mpr ⟨request, hrequest, hid⟩
  rw [hgone] at hpending
  cases hpending

theorem tracked_init (h : hostDesk.init desk) : desk.Tracked := by
  obtain ⟨hreachable, hpending, hinputs, -, hnone⟩ := h
  have hheld : ∀ request, ¬desk.Held request := by
    rintro request (hmem | ⟨message, hmem, hjoin⟩)
    · rw [hpending] at hmem
      exact absurd hmem List.not_mem_nil
    · rw [hinputs message hmem] at hjoin
      cases hjoin
  have hregistrations (registration : JoinRegistration) : registration ∉ desk.registrations := by
    rw [hnone]
    exact List.not_mem_nil
  exact
    { reachable := hreachable
      named := fun registration hmem => absurd hmem (hregistrations registration)
      held := fun request h => absurd h (hheld request)
      agree := fun registration hmem => absurd hmem (hregistrations registration)
      gone := fun registration hmem => absurd hmem (hregistrations registration) }

/-! ## Messages -/

/-- Processing a message does what the fold over the mailbox expects. -/
theorem pendingIn_receive {s : ActorState} {message : ActorMessage} (hvalid : s.snapshot.Valid)
    (hroom : s.snapshot.revision.get.toNat + 1 < 2 ^ 64)
    (hagree : ∀ request ∈ s.snapshot.pendingJoinRequests,
      request.requestId = registration.requestId → request.deviceId = registration.deviceId)
    (h : registration.pendingIn (s.receive message).1 = true) :
    registration.after (registration.pendingIn s) message = true := by
  obtain ⟨request, hmem, hid⟩ := registration.pendingIn_eq_true.mp h
  rcases ActorState.mem_requests_receive hmem with hold | hnew
  · have hpending := registration.pendingIn_eq_true.mpr ⟨request, hold, hid⟩
    rw [hpending]
    unfold JoinRegistration.after
    split
    · rfl
    · next deviceId error =>
      -- The request has outlived the disconnect, so it is of another device.
      have hne := ActorState.requests_receive_listenerDisconnected hvalid hroom hmem
      rw [hagree request hold hid] at hne
      simpa using hne.symm
    · rfl
  · unfold joinRequest at hnew
    split at hnew
    · cases hnew
      simp [JoinRegistration.after, hid]
    · cases hnew

theorem tracked_process (h : desk.Tracked)
    (hroom : desk.actor.snapshot.revision.get.toNat + 1 < 2 ^ 64) : desk.processInput.Tracked := by
  unfold processInput
  split
  · exact h
  · next message inputs hinputs =>
    have hheld (request : JoinRequestSummary)
        (hheld : request ∈ (desk.actor.receive message).1.snapshot.pendingJoinRequests ∨
          ∃ other ∈ inputs, other.joinRequest = some request) : desk.Held request := by
      rcases hheld with hmem | ⟨other, hmem, hjoin⟩
      · refine (ActorState.mem_requests_receive hmem).imp_right fun hjoin => ⟨message, ?_, hjoin⟩
        rw [hinputs]
        exact List.mem_cons_self
      · refine .inr ⟨other, ?_, hjoin⟩
        rw [hinputs]
        exact List.mem_cons_of_mem message hmem
    refine
      { reachable := h.reachable.next message
        named := h.named
        held := fun request => h.held request ∘ hheld request
        agree := fun registration hmem request =>
          h.agree registration hmem request ∘ hheld request
        gone := fun registration hmem hclosed => ?_ }
    have hgone : desk.Awaited registration = false := h.gone registration hmem hclosed
    unfold Awaited at hgone ⊢
    rw [hinputs, List.foldl_cons] at hgone
    refine Bool.eq_false_iff.mpr fun hawaited => ?_
    have hafter := registration.foldl_after_mono
      (pendingIn_receive (ActorState.valid_of_reachable h.reachable) hroom
        fun request hrequest => h.agree registration hmem request (.inl hrequest))
      inputs hawaited
    rw [hgone] at hafter
    cases hafter

/-- A name that was used stays so. -/
theorem named_mono {m k : UInt64} (hle : m ≤ k) {id : RequestId}
    (h : ∃ n < m, id = joinRequestId n) : ∃ n < k, id = joinRequestId n := by
  obtain ⟨n, hn, rfl⟩ := h
  exact ⟨n, UInt64.lt_of_lt_of_le hn hle, rfl⟩

/-- Messages without requests may be added, and names may be used. -/
theorem Tracked.submit (h : desk.Tracked)
    (hsequence : desk.projection.nextSequence ≤ projection.nextSequence)
    {messages : List ActorMessage} (hplain : ∀ message ∈ messages, message.joinRequest = none)
    {effects : List TransportEffect} {lastError : Option String} {running : Bool} :
    Tracked { desk with
      projection, inputs := desk.inputs ++ messages, effects, lastError, running } := by
  have hheld (request : JoinRequestSummary)
      (hheld : request ∈ desk.actor.snapshot.pendingJoinRequests ∨
        ∃ message ∈ desk.inputs ++ messages, message.joinRequest = some request) :
      desk.Held request := by
    refine hheld.imp_right ?_
    rintro ⟨message, hmem, hjoin⟩
    rcases List.mem_append.mp hmem with hold | hnew
    · exact ⟨message, hold, hjoin⟩
    · rw [hplain message hnew] at hjoin
      cases hjoin
  refine
    { reachable := h.reachable
      named := fun registration hmem => named_mono hsequence (h.named registration hmem)
      held := fun request hrequest => named_mono hsequence (h.held request (hheld request hrequest))
      agree := fun registration hmem request =>
        h.agree registration hmem request ∘ hheld request
      gone := fun registration hmem hclosed => ?_ }
  have hgone : desk.Awaited registration = false := h.gone registration hmem hclosed
  unfold Awaited at hgone ⊢
  rw [List.foldl_append, hgone]
  refine registration.foldl_after_false fun message hmessage request hrequest => ?_
  rw [hplain message hmessage] at hrequest
  cases hrequest

/-! ## Events -/

/-- A request under a new name. -/
theorem Tracked.join (h : desk.Tracked) (hroom : desk.projection.nextSequence.toNat + 1 < 2 ^ 64)
    {summary : JoinRequestSummary} {new : List JoinRegistration} {lastError : Option String}
    {running : Bool}
    (hsequence : projection.nextSequence = desk.projection.takeSequence.nextSequence)
    (hid : summary.requestId = joinRequestId desk.projection.nextSequence)
    (hnew : ∀ registration ∈ new, registration.requestId = summary.requestId ∧
      registration.deviceId = summary.deviceId ∧ registration.closed = false) :
    Tracked { desk with
      projection
      inputs := desk.inputs ++ [.input (.transport (.joinRequested summary))]
      lastError
      running
      registrations := desk.registrations ++ new } := by
  have hlt : desk.projection.nextSequence < projection.nextSequence := by
    rw [hsequence]
    exact lt_takeSequence hroom
  -- The new name is the name of no earlier request.
  have hfresh (id : RequestId) (h : ∃ n < desk.projection.nextSequence, id = joinRequestId n) :
      summary.requestId ≠ id := by
    obtain ⟨n, hn, rfl⟩ := h
    rw [hid]
    intro heq
    obtain rfl := joinRequestId_injective heq
    exact UInt64.lt_irrefl _ hn
  have hheld (request : JoinRequestSummary)
      (hheld : request ∈ desk.actor.snapshot.pendingJoinRequests ∨
        ∃ message ∈ desk.inputs ++ [.input (.transport (.joinRequested summary))],
          joinRequest message = some request) :
      desk.Held request ∨ request = summary := by
    rcases hheld with hmem | ⟨message, hmem, hjoin⟩
    · exact .inl (.inl hmem)
    · rcases List.mem_append.mp hmem with hold | hsingle
      · exact .inl (.inr ⟨message, hold, hjoin⟩)
      · obtain rfl := List.mem_singleton.mp hsingle
        cases hjoin
        exact .inr rfl
  refine
    { reachable := h.reachable
      named := fun registration hmem => ?_
      held := fun request hrequest => ?_
      agree := fun registration hmem request hrequest hsame => ?_
      gone := fun registration hmem hclosed => ?_ }
  · rcases List.mem_append.mp hmem with hold | hmem
    · exact named_mono (UInt64.le_of_lt hlt) (h.named registration hold)
    · rw [(hnew registration hmem).1]
      exact ⟨_, hlt, hid⟩
  · rcases hheld request hrequest with hold | rfl
    · exact named_mono (UInt64.le_of_lt hlt) (h.held request hold)
    · exact ⟨_, hlt, hid⟩
  · rcases List.mem_append.mp hmem with hold | hmem
    · rcases hheld request hrequest with hheld | rfl
      · exact h.agree registration hold request hheld hsame
      · exact absurd hsame (hfresh _ (h.named registration hold))
    · obtain ⟨hid', hdevice, -⟩ := hnew registration hmem
      rcases hheld request hrequest with hheld | rfl
      · exact absurd (hsame.trans hid').symm (hfresh _ (h.held request hheld))
      · exact hdevice.symm
  · rcases List.mem_append.mp hmem with hold | hmem
    · have hgone : desk.Awaited registration = false := h.gone registration hold hclosed
      unfold Awaited at hgone ⊢
      rw [List.foldl_append, hgone, List.foldl_cons, List.foldl_nil]
      refine registration.after_false fun request hrequest => ?_
      cases hrequest
      exact hfresh _ (h.named registration hold)
    · rw [(hnew registration hmem).2.2] at hclosed
      cases hclosed

/-- Connections end whose requests are not awaited. -/
theorem Tracked.close (h : desk.Tracked) {address : Option SocketAddr}
    (hclosing : ∀ registration ∈ desk.registrations, registration.closed = false →
      address = some registration.address → desk.Awaited registration = false) :
    Tracked { desk with
      registrations := desk.registrations.map (JoinRegistration.close address) } := by
  have hkeeps (registration : JoinRegistration) :
      (registration.close address).requestId = registration.requestId ∧
        (registration.close address).deviceId = registration.deviceId ∧
        desk.Awaited (registration.close address) = desk.Awaited registration := by
    unfold JoinRegistration.close
    split_ifs
    · exact ⟨rfl, rfl, rfl⟩
    · exact ⟨rfl, rfl, rfl⟩
  refine
    { reachable := h.reachable
      named := fun closed hmem => ?_
      held := h.held
      agree := fun closed hmem request hrequest hsame => ?_
      gone := fun closed hmem hclosed => ?_ }
  all_goals obtain ⟨registration, hold, rfl⟩ := List.mem_map.mp hmem
  · rw [(hkeeps registration).1]
    exact h.named registration hold
  · rw [(hkeeps registration).1] at hsame
    rw [(hkeeps registration).2.1]
    exact h.agree registration hold request hrequest hsame
  · change desk.Awaited (registration.close address) = false
    rw [(hkeeps registration).2.2]
    by_cases hwas : registration.closed = true
    · exact h.gone registration hold hwas
    · refine hclosing registration hold (Bool.eq_false_iff.mpr hwas) ?_
      by_contra hother
      rw [JoinRegistration.close, if_neg hother] at hclosed
      exact hwas hclosed

theorem joinRegistrations_plain {submitted : List CoreActorInput}
    (hplain : ∀ input ∈ submitted, (ActorMessage.input input).joinRequest = none)
    (event : Transport.TransportEvent) : joinRegistrations submitted event = [] := by
  unfold joinRegistrations
  split
  · refine List.filterMap_eq_nil_iff.mpr fun input hmem => ?_
    rw [hplain input hmem]
    rfl
  · rfl

theorem mem_joinRegistrations {summary : JoinRequestSummary} {event : Transport.TransportEvent}
    (hmem : registration ∈ joinRegistrations [.transport (.joinRequested summary)] event) :
    registration.requestId = summary.requestId ∧ registration.deviceId = summary.deviceId ∧
      registration.closed = false := by
  unfold joinRegistrations at hmem
  split at hmem
  · obtain rfl := List.mem_singleton.mp hmem
    exact ⟨rfl, rfl, rfl⟩
  · exact absurd hmem List.not_mem_nil

theorem processDisconnect_owned {peer : TransportPeer} {error : Option TransportError}
    {deviceId : DeviceId} (hdevice : peer.deviceId = some deviceId)
    (howns : projection.ownsPeer deviceId peer.controlAddress = true)
    (hok : (processDisconnect projection peer error answers).result.isOk = true) :
    ∃ error', (processDisconnect projection peer error answers).submitted =
      [.transport (.listenerDisconnected deviceId error')] := by
  simp only [processDisconnect, hdevice, PendingJoinProjection.removeIfCurrent, howns,
    if_true] at hok ⊢
  unfold submitLast at hok ⊢
  split at hok
  · exact ⟨_, rfl⟩
  · cases hok

theorem not_awaited_of_not_holds (h : ¬desk.Holds registration) :
    desk.Awaited registration = false := by
  have hpending : registration.pendingIn desk.actor = false :=
    Bool.eq_false_iff.mpr fun hpending =>
      h (.inl (registration.pendingIn_eq_true.mp hpending))
  unfold Awaited
  rw [hpending]
  exact registration.foldl_after_false fun message hmem request hrequest hid =>
    h (.inr ⟨message, hmem, request, hrequest, hid⟩)

/-- The end of a current peer leaves none of its requests. -/
theorem awaited_disconnect {peer : TransportPeer} {error : Option TransportError}
    {receivedAt : MonotonicMillis} (hmem : registration ∈ desk.registrations)
    (hopen : registration.closed = false) (haddress : peer.controlAddress = registration.address)
    (howned : desk.Owned (.event (.peerDisconnected peer error receivedAt) answers))
    (hok : (processDisconnect desk.projection peer error answers).result.isOk = true) :
    (desk.inputs ++ (processDisconnect desk.projection peer error answers).submitted.map
      ActorMessage.input).foldl registration.after (registration.pendingIn desk.actor) = false := by
  rw [List.foldl_append]
  by_cases hholds : desk.Holds registration
  · obtain ⟨hdevice, howns⟩ := howned registration hmem hopen haddress.symm hholds
    obtain ⟨error', hsubmitted⟩ := processDisconnect_owned hdevice howns hok
    rw [hsubmitted]
    simp [JoinRegistration.after]
  · have hgone := not_awaited_of_not_holds hholds
    unfold Awaited at hgone
    rw [hgone]
    refine registration.foldl_after_false fun message hmessage request hrequest => ?_
    obtain ⟨input, hinput, rfl⟩ := List.mem_map.mp hmessage
    rw [(plain_processDisconnect desk.projection peer error answers).submitted input hinput]
      at hrequest
    cases hrequest

theorem tracked_event (h : desk.Tracked) {event : Transport.TransportEvent}
    (howned : desk.Owned (.event event answers)) : (desk.handleEvent event answers).Tracked := by
  unfold handleEvent
  dsimp only
  rcases processEvent_cases desk.projection desk.advertisement desk.actor.snapshot.hostDraft answers
    event with hplain | ⟨summary, hjoins, hopen⟩
  · rw [joinRegistrations_plain hplain.submitted, List.append_nil]
    have hmessages : ∀ message ∈ (processEvent desk.projection desk.advertisement
        desk.actor.snapshot.hostDraft answers event).submitted.map ActorMessage.input,
        message.joinRequest = none := by
      intro message hmem
      obtain ⟨input, hinput, rfl⟩ := List.mem_map.mp hmem
      exact hplain.submitted input hinput
    refine Tracked.close (h.submit hplain.sequence hmessages) ?_
    intro registration hmem hopen haddress
    split_ifs at haddress with hok
    cases event with
    | peerDisconnected =>
      have hmem' : registration ∈ desk.registrations := hmem
      have hgone := awaited_disconnect hmem' hopen (Option.some.inj haddress) howned hok
      exact hgone
    | _ => cases haddress
  · have hroom : desk.projection.nextSequence.toNat + 1 < 2 ^ 64 := by
      cases event with
      | peerDisconnected => cases hopen
      | _ => exact howned
    rw [hopen, ite_self, hjoins.submitted]
    have hnone : desk.registrations.map (JoinRegistration.close none) = desk.registrations := by
      refine List.map_id'' (fun registration => ?_) _
      exact if_neg (Option.some_ne_none _).symm
    rw [hnone]
    unfold record
    rw [hjoins.submitted]
    exact h.join hroom hjoins.sequence hjoins.requestId fun _ => mem_joinRegistrations

theorem tracked_step (h : desk.Tracked) {x : HostDeskStep} (howned : desk.Owned x) :
    (desk.step x).Tracked := by
  cases x with
  | event =>
    unfold step
    split_ifs
    · exact tracked_event h howned
    · exact h
  | effect answers =>
    simp only [step]
    split
    · next effect effects _ _ =>
      have hplain := plain_processEffect desk.projection effect answers
      refine h.submit hplain.sequence fun message hmem => ?_
      obtain ⟨input, hinput, rfl⟩ := List.mem_map.mp hmem
      exact hplain.submitted input hinput
    · exact h
  | process => exact tracked_process h howned
  | message =>
    simp only [step]
    split_ifs with hjoin
    · exact h
    · refine h.submit (UInt64.le_refl _) fun other hmem => ?_
      obtain rfl := List.mem_singleton.mp hmem
      simpa using hjoin

end HostDesk

/-- **No ghost requests.** Along a run in which every connection that ends is the current peer of
the devices it has requests for, the actor keeps no request of a connection that has ended. -/
theorem no_ghost_requests (desk : HostDesk) (steps : List HostDeskStep)
    (hinit : hostDesk.init desk)
    (howned : hostDesk.Along (fun desk x => desk.Owned x) desk steps) :
    (hostDesk.after desk steps).NoGhosts :=
  (Machine.Along.invariant (M := hostDesk) (I := HostDesk.Tracked)
    (fun _ _ h hx => HostDesk.tracked_step h hx) (HostDesk.tracked_init hinit) howned).noGhosts

namespace JoinScenario

theorem valid_host : validateIdentifier .device "host-1" = .ok () := by decide

def listener : DeviceId := ⟨"listener-1", Scenario.valid_listener⟩

def address (port : UInt16) : SocketAddr := ⟨.v4 0x7F000001, port⟩

/-- A host that approves by hand. -/
def host : HostDesk where
  advertisement :=
    ⟨⟨"session-1", Scenario.valid_session⟩, ⟨"host-1", valid_host⟩, "Session", .manual, 3, none⟩
  actor := SilentDisco.actor.after Scenario.device (Scenario.hosting .manual)

/-- The listener joins over a connection. -/
def joining (port : UInt16) : HostDeskStep :=
  .event
    (.frameReceived .control ⟨some listener, address port⟩
      (.control (.joinRequest
        ⟨⟨"session-1", Scenario.valid_session⟩, ⟨listener, "Listener"⟩, none, 1, 2⟩))
      ⟨10⟩) {}

def leaving (port : UInt16) : HostDeskStep :=
  .event (.peerDisconnected ⟨some listener, address port⟩ none ⟨20⟩) {}

/-- The listener joins over a connection that ends. -/
def left : List HostDeskStep := [joining 1, .process, leaving 1, .process]

/-- The listener is approved. It joins over a second connection, which ends. -/
def replacing : List HostDeskStep :=
  [joining 1, .process, .message (Scenario.command 5 (.approveJoin (joinRequestId 1) false)),
    .process, .effect {}, .process, .process, joining 2, .process, leaving 2]

theorem init_host : hostDesk.init host := by
  refine ⟨Scenario.reachable _, by decide +kernel, ?_, rfl, rfl⟩
  intro message hmem
  exact absurd hmem List.not_mem_nil

end JoinScenario

open JoinScenario in
theorem no_ghost_requests_left :
    hostDesk.Along (fun desk x => desk.Owned x) host left ∧
      (hostDesk.after host left).NoGhosts := by
  have howned : hostDesk.Along (fun desk x => desk.Owned x) host
      left := by decide +kernel
  exact ⟨howned, no_ghost_requests _ _ init_host howned⟩

open JoinScenario in
/-- The request of the second connection stays, and a third connection is refused for it. -/
theorem not_no_ghost_requests :
    hostDesk.init host ∧
      ¬(hostDesk.after host replacing).NoGhosts ∧
      (hostDesk.after host (replacing ++
        [joining 3, .process])).actor.snapshot.pendingJoinRequests.map
          JoinRequestSummary.requestId = [joinRequestId 2] := by
  refine ⟨init_host, fun h => ?_, by decide +kernel⟩
  have hempty : (hostDesk.after host replacing).inputs.length = 0 := by
    decide +kernel
  have hghost : ∃ registration ∈
      (hostDesk.after host replacing).registrations,
      registration.closed = true ∧ ∃ request ∈ (hostDesk.after host
        replacing).actor.snapshot.pendingJoinRequests,
        request.requestId = registration.requestId := by
    decide +kernel
  obtain ⟨registration, hmem, hclosed, request, hrequest, hid⟩ := hghost
  exact h (List.length_eq_zero_iff.mp hempty) registration hmem hclosed request hrequest hid

end Desktop

end SilentDisco
