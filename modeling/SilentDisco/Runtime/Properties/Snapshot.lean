import SilentDisco.Runtime.Properties.Admission

/-!
# Validity of the snapshots

Every committed snapshot is valid, because a commit checks it. A handler produces a candidate
that fails the check in one way only: discovery is active and the handler moves the transport
to another state without ending discovery. These handlers are listed, and every other handler
keeps the snapshot valid.

## Main definitions

* `Core.Valid`: the checked conditions, on the abstract state
* `ActorState.DropsDiscovery`: the inputs whose handlers move the transport and leave
  `discoveryActive` as it is

## Main results

* `valid_of_reachable`: reachable snapshots are valid
* `apply_validate_iff`: exactly when the candidate of a handler passes the check
-/

namespace SilentDisco

open Result

namespace Core

variable {c c' : Core} {input : CoreActorInput} {requests : List TransportEffectRequest}

/-- What the abstract state of a valid snapshot satisfies. -/
@[mk_iff] structure Valid (c : Core) : Prop where
  sessions : c.discovered.length ≤ maxDiscoveredSessions
  requests : c.requests.length ≤ maxPendingJoinRequests
  listeners : c.listeners.length ≤ maxConnectedListeners
  uniqueSessions : c.discovered.Nodup
  uniqueRequests : (c.requests.map JoinRequestSummary.requestId).Nodup
  uniqueListeners : c.listeners.Nodup
  discovery : c.discovering = decide (c.transport = .discovering)
  selected : ∀ sessionId ∈ c.selected, sessionId ∈ c.discovered

/-- The inputs that may move the transport and leave discovery as it is. -/
def DropsDiscovery (c : Core) : CoreActorInput → Prop
  | .command _ ⟨_, .createHostSession⟩ | .command _ ⟨_, .cancelJoin⟩ => True
  | .command _ ⟨_, .retryRecoverableFailure⟩ => c.role = some .host
  | .platform (.operationSucceeded operationId _)
  | .platform (.operationFailed operationId _) =>
    ∃ op ∈ c.platform.lookup operationId, op.isAdvertising = true
  | .transport (.sessionEnded sessionId) => c.selected = some sessionId
  | _ => False

theorem Valid.moved (h : c.Valid) (hdiscovering : c.discovering = false)
    (transport : TransportState) (htransport : transport ≠ .discovering) :
    Valid { c with transport } :=
  { h with discovery := by simp [hdiscovering, htransport] }

/-- New requests have a new identifier. -/
theorem Valid.requested (h : c.Valid) {request : JoinRequestSummary}
    (hnew : ∀ other ∈ c.requests, other.requestId ≠ request.requestId)
    (hroom : c.requests.length < maxPendingJoinRequests) :
    Valid { c with requests := c.requests ++ [request] } :=
  { h with
    requests := by simpa using hroom
    uniqueRequests := Keyed.nodup_append.mpr ⟨h.uniqueRequests, hnew⟩ }

theorem Valid.forget (h : c.Valid) {kept : List JoinRequestSummary}
    (hkept : kept.Sublist c.requests)
    {listeners : List DeviceId} (hlisteners : listeners.Sublist c.listeners) :
    Valid { c with requests := kept, listeners } :=
  { h with
    requests := hkept.length_le.trans h.requests
    listeners := hlisteners.length_le.trans h.listeners
    uniqueRequests := h.uniqueRequests.sublist (hkept.map _)
    uniqueListeners := h.uniqueListeners.sublist hlisteners }

theorem Valid.connect (h : c.Valid) {deviceId : DeviceId} (hroom : c.HasRoom deviceId) :
    (c.connect deviceId).Valid := by
  by_cases hknown : deviceId ∈ c.listeners
  · rw [Core.connect, if_pos hknown]
    exact h
  · have hlength := hroom.resolve_left hknown
    rw [Core.connect, if_neg hknown]
    exact { h with
      listeners := by simpa using hlength
      uniqueListeners := by
        change (c.listeners ++ [deviceId]).Nodup
        rw [← List.concat_eq_append]
        exact h.uniqueListeners.concat hknown }

/-- A step keeps the abstract state valid, unless it moves the transport under discovery. -/
theorem Step.valid (h : c.Step input c' requests) (hc : c.Valid)
    (hkeeps : c.discovering = true → ¬c.DropsDiscovery input) : c'.Valid := by
  have hoff (hdrops : c.DropsDiscovery input) : c.discovering = false :=
    Bool.eq_false_iff.mpr fun hon => hkeeps hon hdrops
  cases h with
  -- The handlers that move the transport run without discovery.
  | created =>
    exact { hc.moved (hoff trivial) .idle nofun with }
  | retried _ _ _ _ hrole =>
    exact { hc.moved (hoff hrole) .idle nofun with }
  | joinCancelled =>
    exact { hc.moved (hoff trivial) .idle nofun with selected := fun _ hnone => nomatch hnone }
  | advertisingStarted _ _ hpending =>
    exact { hc.moved (hoff ⟨_, hpending, rfl⟩) .advertising nofun with }
  | advertisingStopped operationId hpending =>
    have hmoved := hc.moved (hoff ⟨_, hpending, rfl⟩) .idle nofun
    exact { hmoved.forget (List.nil_sublist _) (List.nil_sublist _) with }
  | advertisingFailed _ _ _ hpending hop =>
    exact { hc.moved (hoff ⟨_, hpending, hop⟩) .failed nofun with }
  | sessionEnded sessionId hselected =>
    exact hc.moved (hoff hselected) _ nofun
  -- The others that move it set discovery with it.
  | joinSubmitted | discoveryStarted | discoveryStopped | networkReady | networkFailed
  | transportFailed => exact { hc with discovery := rfl }
  | networkReleased => exact { hc with discovery := rfl, selected := fun _ hnone => nomatch hnone }
  | transportChanged => exact { hc with discovery := rfl }
  -- Selections and discovered sessions.
  | rescanned | joinRejected => exact { hc with selected := fun _ hnone => nomatch hnone }
  | sessionSelected _ _ sessionId hmem =>
    exact { hc with selected := fun _ heq => Option.mem_some.mp heq ▸ hmem }
  | sessionDiscovered advertisement hnew hroom =>
    exact { hc with
      sessions := by simpa using hroom
      uniqueSessions := by
        change (c.discovered ++ [advertisement.sessionId]).Nodup
        rw [← List.concat_eq_append]
        exact hc.uniqueSessions.concat hnew
      selected := fun other hother => List.mem_append_left _ (hc.selected other hother) }
  | sessionExpired sessionId =>
    exact { hc with
      sessions := (List.length_filter_le _ _).trans hc.sessions
      uniqueSessions := hc.uniqueSessions.filter _
      selected := fun other hother => by
        change other ∈ (if _ then none else c.selected) at hother
        split_ifs at hother with hselected
        · cases hother
        · refine List.mem_filter.mpr ⟨hc.selected other hother, ?_⟩
          simpa using fun heq : other = sessionId => hselected (heq ▸ hother) }
  -- Requests and listeners.
  | requestRecorded _ _ _ hnew hroom => exact hc.requested hnew hroom
  | requestApproved _ _ _ _ _ hnew hroom | requestRejected _ _ _ _ _ hnew hroom =>
    exact { hc.requested hnew hroom with }
  | approvalDelivered _ _ _ _ _ hroom =>
    refine Valid.connect ?_ hroom
    exact { hc.forget List.eraseP_sublist (List.Sublist.refl _) with }
  | rejectionDelivered => exact { hc.forget List.eraseP_sublist (List.Sublist.refl _) with }
  | removalDelivered => exact { hc.forget (List.Sublist.refl _) List.filter_sublist with }
  | listenerConnected _ _ hroom =>
    refine Valid.connect ?_ hroom
    exact { hc.forget List.filter_sublist (List.Sublist.refl _) with }
  | listenerDisconnected => exact { hc.forget List.filter_sublist List.filter_sublist with }
  -- The rest concerns neither.
  | _ => exact { hc with }

end Core

namespace ActorState

variable {s s' : ActorState} {input : CoreActorInput} {outcome : ApplyOutcome}
  {operationId : OperationId}

theorem core_valid : s.core.Valid ↔ s.snapshot.Valid := by
  simp only [Core.valid_iff, CoreSnapshot.valid_iff, core, List.length_map, List.mem_map]

/-! ## Committed snapshots -/

theorem receive_valid (s : ActorState) (message : ActorMessage) (h : s.snapshot.Valid) :
    (s.receive message).1.snapshot.Valid := by
  rcases s.receive_cases message with ⟨hstate, -⟩ |
    ⟨candidate, outcome, hhandle, hcommit, hstate, -⟩
  · rw [hstate]
    exact h
  · rw [hstate, published]
    split_ifs with hchanged
    · exact (valid_revision _).mpr (hcommit hchanged).2
    · -- An unchanged candidate keeps the snapshot it started from.
      have hsame := (apply_refines _ (apply_of_handle hhandle)).unchanged (by simpa using hchanged)
      rw [hsame]
      exact h

/-- Every reachable snapshot is valid. -/
theorem valid_of_reachable (h : actor.Reachable s) : s.snapshot.Valid := by
  refine h.invariant (I := fun s => s.snapshot.Valid) ?_ receive_valid
  rintro _ ⟨localDeviceId, sessionIdNamespace, rfl⟩
  exact CoreSnapshot.valid_default

/-! ## Candidates -/

/-- The inputs whose handlers move the transport and leave `discoveryActive` as it is. -/
def DropsDiscovery (s : ActorState) : CoreActorInput → Prop
  | .command _ ⟨_, .createHostSession⟩ | .command _ ⟨_, .cancelJoin⟩ => True
  | .command _ ⟨_, .retryRecoverableFailure⟩ =>
    s.snapshot.selectedRole = some .host ∧ s.snapshot.recoverableAction = some .retry
  | .platform (.operationSucceeded operationId _)
  | .platform (.operationFailed operationId _) =>
    ∃ op ∈ s.pending operationId, op.isAdvertising = true
  | .transport (.sessionEnded sessionId) => s.snapshot.selectedSession = some sessionId
  | _ => False

/-- Discovery stays active although the transport does not discover. -/
def Mismatched (s : ActorState) : Prop :=
  s.snapshot.discoveryActive = true ∧ s.snapshot.transportState ≠ .discovering

theorem not_valid_of_mismatched (h : s.Mismatched) : ¬s.snapshot.Valid := fun hvalid => by
  have hdiscovery := hvalid.discovery
  rw [h.1, decide_eq_false h.2] at hdiscovery
  cases hdiscovery

theorem cancelJoin_mismatched (hvalid : s.snapshot.Valid)
    (hon : s.snapshot.discoveryActive = true)
    (h : s.cancelJoin operationId = .ok (s', outcome)) : s'.Mismatched := by
  have htransport : s.snapshot.transportState = .discovering := by
    simpa [hon] using hvalid.discovery
  unfold cancelJoin at h
  obtain ⟨⟨⟩, -, h⟩ := bind_eq_ok.mp h
  rw [if_neg (by simp [htransport])] at h
  cases h
  exact ⟨hon, nofun⟩

section

variable (hon : s.snapshot.discoveryActive = true)
include hon

theorem retryRecoverable_mismatched
    (hrole : s.snapshot.selectedRole = some .host)
    (haction : s.snapshot.recoverableAction = some .retry)
    (h : s.retryRecoverable operationId = .ok (s', outcome)) : s'.Mismatched := by
  unfold retryRecoverable at h
  rw [haction] at h
  split at h
  · cases h
  · next hnone => cases hnone
  · next error action _ hsome =>
    obtain rfl := Option.some.inj hsome
    obtain ⟨⟨⟩, -, h⟩ := bind_eq_ok.mp h
    rw [if_pos ⟨hrole, rfl⟩] at h
    obtain ⟨-, -, id, sessionId, -, -, hcore, -⟩ := retryHostSession_eq_ok h
    have hdiscovering := congrArg Core.discovering hcore
    have htransport := congrArg Core.transport hcore
    exact ⟨hdiscovering.trans hon, htransport.trans_ne nofun⟩

theorem createHostSession_mismatched
    (h : s.createHostSession operationId = .ok (s', outcome)) : s'.Mismatched := by
  obtain ⟨-, -, id, sessionId, -, hcore, -⟩ := createHostSession_eq_ok h
  have hdiscovering := congrArg Core.discovering hcore
  have htransport := congrArg Core.transport hcore
  exact ⟨hdiscovering.trans hon, htransport.trans_ne nofun⟩

theorem applyPlatformSuccess_mismatched {completion : PlatformOperationCompletion}
    (hop : ∃ op ∈ s.pending operationId, op.isAdvertising = true)
    (h : s.applyPlatformSuccess operationId completion = .ok (s', outcome)) : s'.Mismatched := by
  obtain ⟨op, hpending, completed, hcomplete, rfl⟩ := applyPlatformSuccess_eq_ok.mp h
  obtain ⟨_, hsame, hadvertising⟩ := hop
  obtain rfl := Option.some.inj (hpending.symm.trans hsame)
  unfold completePlatform platformMismatch at hcomplete
  split at hcomplete
  · split_ifs at hcomplete
    cases hcomplete
    exact ⟨hon, nofun⟩
  · cases hcomplete
    exact ⟨hon, nofun⟩
  case h_8 => cases hcomplete
  all_goals cases hadvertising

theorem applyPlatformFailure_mismatched {error : CoreError}
    (hop : ∃ op ∈ s.pending operationId, op.isAdvertising = true)
    (h : s.applyPlatformFailure operationId error = .ok (s', outcome)) : s'.Mismatched := by
  obtain ⟨op, hpending, correlated, -, rfl, rfl⟩ := applyPlatformFailure_eq_ok.mp h
  obtain ⟨_, hsame, hadvertising⟩ := hop
  obtain rfl := Option.some.inj (hpending.symm.trans hsame)
  cases op with
  | startAdvertising | stopAdvertising => exact ⟨hon, nofun⟩
  | _ => cases hadvertising

end

/-- The listed handlers leave a mismatch whenever discovery is active. -/
theorem apply_mismatched (hvalid : s.snapshot.Valid) (hon : s.snapshot.discoveryActive = true)
    (hdrops : s.DropsDiscovery input) (h : s.apply input = .ok (s', outcome)) : s'.Mismatched := by
  cases input with
  | command operationId request =>
    obtain ⟨revision, command⟩ := request
    obtain ⟨⟨⟩, -, hcommand⟩ := bind_eq_ok.mp h
    cases command with
    | createHostSession => exact createHostSession_mismatched hon hcommand
    | cancelJoin => exact cancelJoin_mismatched hvalid hon hcommand
    | retryRecoverableFailure => exact retryRecoverable_mismatched hon hdrops.1 hdrops.2 hcommand
    | _ => exact False.elim hdrops
  | platform event =>
    cases event with
    | operationSucceeded =>
      exact applyPlatformSuccess_mismatched hon hdrops h
    | operationFailed => exact applyPlatformFailure_mismatched hon hdrops h
    | _ => exact False.elim hdrops
  | transport event =>
    cases event with
    | sessionEnded sessionId =>
      have hselected : s.snapshot.selectedSession = some sessionId := hdrops
      change s.endSession sessionId = _ at h
      rw [endSession, if_neg (not_not.mpr hselected)] at h
      cases h
      exact ⟨hon, nofun⟩
    | _ => exact False.elim hdrops
  | audio | storage => exact False.elim hdrops

/-- A retry that is no retry of the host session keeps the abstract state. -/
theorem core_eq_of_not_dropsDiscovery (hcore : s.core.DropsDiscovery input)
    (hnot : ¬s.DropsDiscovery input) (h : s.apply input = .ok (s', outcome)) :
    s'.core = s.core := by
  cases input with
  | command operationId request =>
    obtain ⟨revision, command⟩ := request
    cases command with
    | retryRecoverableFailure =>
      have hrole : s.snapshot.selectedRole = some .host := hcore
      obtain ⟨⟨⟩, -, hcommand⟩ := bind_eq_ok.mp h
      change s.retryRecoverable operationId = _ at hcommand
      unfold retryRecoverable at hcommand
      split at hcommand
      · cases hcommand
      · cases hcommand
      · next error action _ haction =>
        obtain ⟨⟨⟩, -, hretry⟩ := bind_eq_ok.mp hcommand
        split_ifs at hretry with hhost hlistener
        · exact absurd ⟨hrole, haction.trans (congrArg some hhost.2)⟩ hnot
        · cases hrole.symm.trans hlistener.1
        · cases hretry
          rfl
    | _ => exact absurd hcore hnot
  | platform event | transport event => cases event <;> exact absurd hcore hnot
  | audio | storage => exact absurd hcore hnot

theorem apply_valid (hvalid : s.snapshot.Valid)
    (hkeeps : ¬(s.snapshot.discoveryActive = true ∧ s.DropsDiscovery input))
    (h : s.apply input = .ok (s', outcome)) : s'.snapshot.Valid := by
  rw [← core_valid] at hvalid ⊢
  by_cases hother : s.core.DropsDiscovery input ∧ ¬s.DropsDiscovery input
  · rw [core_eq_of_not_dropsDiscovery hother.1 hother.2 h]
    exact hvalid
  · refine (apply_refines _ h).step.valid hvalid fun hon hdrops => ?_
    exact hkeeps ⟨hon, not_not.mp fun hnot => hother ⟨hdrops, hnot⟩⟩

theorem apply_valid_iff (hvalid : s.snapshot.Valid) (h : s.apply input = .ok (s', outcome)) :
    s'.snapshot.Valid ↔ ¬(s.snapshot.discoveryActive = true ∧ s.DropsDiscovery input) := by
  constructor
  · rintro hvalid' ⟨hon, hdrops⟩
    exact not_valid_of_mismatched (apply_mismatched hvalid hon hdrops h) hvalid'
  · intro hkeeps
    exact apply_valid hvalid hkeeps h

end ActorState

/-- **When a candidate is valid.** In every reachable state, the candidate of an input passes
the check of the snapshot, unless discovery is active and the handler moves the transport away
from it. -/
theorem apply_validate_iff {s s' : ActorState} (hs : actor.Reachable s) {input : CoreActorInput}
    {outcome : ApplyOutcome} (h : s.apply input = .ok (s', outcome)) :
    s'.snapshot.validate = .ok () ↔
      ¬(s.snapshot.discoveryActive = true ∧ s.DropsDiscovery input) := by
  rw [CoreSnapshot.validate_eq_ok]
  exact ActorState.apply_valid_iff (ActorState.valid_of_reachable hs) h

namespace Scenario

/-- A listener starts discovery. -/
def startingDiscovery : List ActorMessage :=
  [command 0 (.selectRole .listener), command 1 .startDiscovery]

/-- Discovery has started. -/
def discovering : List ActorMessage :=
  startingDiscovery ++
    [.input (.platform (.operationSucceeded ⟨"effect-1", valid_effect1⟩ .discoveryStarted))]

theorem reachable (messages : List ActorMessage) : actor.Reachable (actor.after device messages) :=
  ⟨device, messages, ⟨_, _, rfl⟩, rfl⟩

end Scenario

open Scenario in
/-- Without active discovery, a cancelled join is committed. -/
theorem apply_validate_cancelled :
    ∃ s' outcome, (actor.after device startingDiscovery).apply
        (.command ⟨"command-1", by decide⟩ ⟨⟨2⟩, .cancelJoin⟩) = .ok (s', outcome) ∧
      s'.snapshot.validate = .ok () := by
  have hs := reachable startingDiscovery
  obtain ⟨s', outcome, h⟩ : ∃ s' outcome,
      (actor.after device startingDiscovery).apply
        (.command ⟨"command-1", by decide⟩ ⟨⟨2⟩, .cancelJoin⟩) = .ok (s', outcome) := ⟨_, _, rfl⟩
  refine ⟨s', outcome, h, (apply_validate_iff hs h).mpr ?_⟩
  rintro ⟨hon, -⟩
  exact absurd hon (by decide)

open Scenario in
/-- During discovery, a cancelled join is dropped by the check of the snapshot. -/
theorem not_validate_cancelled :
    actor.Reachable (actor.after device discovering) ∧
      ∃ s' outcome, (actor.after device discovering).apply
          (.command ⟨"command-1", by decide⟩ ⟨⟨3⟩, .cancelJoin⟩) = .ok (s', outcome) ∧
        outcome.changed = true ∧ s'.snapshot.validate = .error .discoveryStateMismatch :=
  ⟨reachable _, _, _, rfl, rfl, by decide⟩

end SilentDisco
