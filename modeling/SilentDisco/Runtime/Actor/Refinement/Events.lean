import SilentDisco.Runtime.Actor.Refinement.Admission

/-!
# Refinement: platform, transport and storage events

The facts that adapters report make abstract steps.

## Main results

* `applyPlatform_refines`, `applyTransport_refines`, `routeStorage_refines`
-/

namespace SilentDisco

open Result

namespace ActorState

variable {s s' : ActorState} {outcome : ApplyOutcome} {operationId : OperationId}
  {input : CoreActorInput}

/-! ## Platform events -/

theorem applyPlatformSuccess_eq_ok {completion : PlatformOperationCompletion} :
    s.applyPlatformSuccess operationId completion = .ok (s', outcome) ↔
      ∃ op, s.pending operationId = some op ∧ ∃ completed,
        s.completePlatform operationId op completion = .ok (completed, outcome) ∧
        s' = (completed.removePending operationId).clearFailure := by
  unfold applyPlatformSuccess
  split
  · next hpending => simp [hpending]
  · next op hpending =>
    simp only [hpending, bind_eq_ok, Prod.exists, Option.some.injEq, exists_eq_left', pure,
      Except.pure, Except.ok.injEq, Prod.mk.injEq]
    constructor
    · rintro ⟨completed, _, hcomplete, rfl, rfl⟩
      exact ⟨completed, hcomplete, rfl⟩
    · rintro ⟨completed, hcomplete, rfl⟩
      exact ⟨completed, outcome, hcomplete, rfl, rfl⟩

theorem applyPlatformSuccess_refines {completion : PlatformOperationCompletion} :
    Refined s (.platform (.operationSucceeded operationId completion))
      (s.applyPlatformSuccess operationId completion) := by
  unfold applyPlatformSuccess
  split
  · exact .error
  · next op hpending =>
    refine .bind (Q := fun completed => Refines s (.platform (.operationSucceeded _ completion))
      (completed.1.removePending operationId).clearFailure completed.2) ?_
      fun _ hcompleted => .ok hcompleted
    unfold completePlatform platformMismatch
    split
    · refine .ite (fun hsession => .ok ?_) fun _ => .error
      exact .of_step (.advertisingStarted _ _ hpending hsession) rfl
    · exact .ok (.of_step (.advertisingStopped _ hpending) rfl)
    · exact .ok (.of_step (.discoveryStarted _ hpending) rfl)
    · exact .ok (.of_step (.discoveryStopped _ hpending) rfl)
    · exact .ite (fun _ => .ok (.of_step (.networkReady _ _ _ hpending) rfl)) fun _ => .error
    · exact .ok (.of_step (.networkReleased _ hpending) rfl)
    · refine .ite (fun hsame => .andThen fun _ => .bind diagnostic_eq_ok fun _ hshared => .ok ?_)
        fun _ => .error
      subst hsame
      exact .of_core (.diagnosticsShared _ _ hpending) rfl hshared.2 Bool.noConfusion
    · exact .error

theorem applyPlatformFailure_eq_ok {error : CoreError} :
    s.applyPlatformFailure operationId error = .ok (s', outcome) ↔
      ∃ op, s.pending operationId = some op ∧ ∃ correlated,
        error.correlate operationId "platform failure operation ID does not match its wrapper" =
          .ok correlated ∧
        s' = { (s.removePending operationId).applyPendingFailure op correlated with
          snapshot :=
            { ((s.removePending operationId).applyPendingFailure op correlated).snapshot with
              lastError := some correlated } } ∧
        outcome = .error correlated := by
  unfold applyPlatformFailure
  split
  · next hpending => simp [hpending]
  · next op hpending =>
    simp only [hpending, bind_eq_ok, Option.some.injEq, exists_eq_left', pure, Except.pure,
      Except.ok.injEq, Prod.mk.injEq]
    constructor
    · rintro ⟨correlated, hcorrelate, rfl, rfl⟩
      exact ⟨correlated, hcorrelate, rfl, rfl⟩
    · rintro ⟨correlated, hcorrelate, rfl, rfl⟩
      exact ⟨correlated, hcorrelate, rfl, rfl⟩

theorem applyPlatformFailure_refines {error : CoreError} :
    Refined s (.platform (.operationFailed operationId error))
      (s.applyPlatformFailure operationId error) := by
  rintro ⟨s', outcome⟩ h
  obtain ⟨op, hpending, correlated, -, rfl, rfl⟩ := applyPlatformFailure_eq_ok.mp h
  cases op with
  | startAdvertising | stopAdvertising => exact .of_step (.advertisingFailed _ _ _ hpending rfl) rfl
  | startDiscovery | stopDiscovery | establishNetwork | releaseNetwork =>
    exact .of_step (.networkFailed _ _ _ hpending rfl) rfl
  | shareDiagnostics => exact .of_step (.diagnosticsFailed _ _ _ hpending) rfl

theorem recordDiscoveredSession_refines {advertisement : SessionAdvertisement} :
    Refined s (.platform (.sessionDiscovered advertisement))
      (s.recordDiscoveredSession advertisement) := by
  refine .andThen fun _ => .ite (fun _ => .ok ?_) fun hnew =>
    .bind .rejectIf fun _ hroom => .ok ?_
  · exact .of_core (.quiet _) (by simp only [core, Keyed.map_replaceFirst]) rfl Bool.noConfusion
  · rw [ge_iff_le, not_le] at hroom
    exact .of_core (.sessionDiscovered advertisement (mt List.mem_map.mp hnew)
      (by simpa [core] using hroom)) (by simp [core]) rfl Bool.noConfusion

theorem core_forgetSession (s : ActorState) (sessionId : SessionId) :
    (s.forgetSession sessionId).core =
      { s.core with
        discovered := s.core.discovered.filter fun other => other ≠ sessionId
        selected := if s.core.selected = some sessionId then none else s.core.selected } := by
  unfold forgetSession
  by_cases hselected : s.snapshot.selectedSession = some sessionId
  · simp only [core, hselected, if_true, List.filter_map, Function.comp_def]
  · simp only [core, hselected, if_false, List.filter_map, Function.comp_def]

/-- A diagnostic alone. -/
theorem diagnostic_refines {name : String} {fields : List DiagnosticField} :
    Refined s input (diagnostic name fields >>= fun reported => .ok (s, reported)) :=
  .bind diagnostic_eq_ok fun _ hreported => .ok (.of_core (.quiet _) rfl hreported.2 fun _ => rfl)

theorem expireSession_refines {sessionId : SessionId} :
    Refined s (.platform (.sessionExpired sessionId)) (s.expireSession sessionId) := by
  refine .ite (fun _ => .andThen fun _ => .andThen fun _ => diagnostic_refines) fun _ =>
    .ite (fun _ => .ok ?_) fun _ => .ok ⟨.quiet _, fun _ => rfl⟩
  exact .of_core (.sessionExpired _) (core_forgetSession s sessionId) rfl Bool.noConfusion

theorem applyPlatform_refines (event : PlatformEvent) :
    Refined s (.platform event) (s.applyPlatform event) := by
  cases event with
  | operationSucceeded => exact applyPlatformSuccess_refines
  | operationFailed => exact applyPlatformFailure_refines
  | sessionDiscovered => exact recordDiscoveredSession_refines
  | sessionExpired => exact expireSession_refines
  | capabilityStateChanged =>
    exact .ite (fun _ => .ok ⟨.quiet _, fun _ => rfl⟩) fun _ => .ok (.of_step (.quiet _) rfl)
  | appEnteredForeground | appEnteredBackground => exact diagnostic_refines

/-! ## Transport events -/

theorem recordListener_refines {listener : ListenerSummary} :
    Refined s (.transport (.listenerConnected listener)) (s.recordListener listener) := by
  refine .bind .check fun _ hrole => .bind (fun _ => upsertListener_eq_ok) ?_
  rintro connected ⟨hroom, hconnected⟩
  have hlifecycle : connected.snapshot.hostLifecycle = s.snapshot.hostLifecycle :=
    congrArg Core.lifecycle hconnected
  refine .ok (.of_core (.listenerConnected listener hrole hroom) ?_ rfl Bool.noConfusion)
  -- Only the lifecycle changes after the listener is added.
  calc
    _ = { connected.core with
          lifecycle :=
            if connected.snapshot.hostLifecycle = HostLifecycle.waitingForListeners then
              HostLifecycle.ready
            else connected.snapshot.hostLifecycle } := rfl
    _ = _ := by rw [hconnected, hlifecycle]; rfl

theorem core_forgetListener (s : ActorState) (deviceId : DeviceId) :
    (s.forgetListener deviceId).core =
      { s.core with
        listeners := s.core.listeners.filter fun other => other ≠ deviceId
        requests := s.core.requests.filter fun request => request.deviceId ≠ deviceId
        lifecycle := (s.forgetListener deviceId).snapshot.hostLifecycle } := by
  simp only [core, forgetListener, List.filter_map, Function.comp_def]

theorem forgetListener_lifecycle (s : ActorState) (deviceId : DeviceId) :
    (s.forgetListener deviceId).snapshot.hostLifecycle = s.core.lifecycle ∨
      s.core.lifecycle = .ready ∧
        (s.forgetListener deviceId).snapshot.hostLifecycle = .waitingForListeners := by
  simp only [forgetListener]
  split_ifs with hlast
  · exact .inr ⟨hlast.2.2, rfl⟩
  · exact .inl rfl

/-- Forgetting a device that is not there changes nothing. -/
theorem forgetListener_of_unknown {deviceId : DeviceId}
    (hlistener : ∀ listener ∈ s.snapshot.listeners, listener.deviceId ≠ deviceId)
    (hrequest : ∀ request ∈ s.snapshot.pendingJoinRequests, request.deviceId ≠ deviceId) :
    s.forgetListener deviceId = s := by
  have hlisteners := List.filter_eq_self.mpr fun listener hmem =>
    decide_eq_true (hlistener listener hmem)
  have hrequests := List.filter_eq_self.mpr fun request hmem =>
    decide_eq_true (hrequest request hmem)
  simp only [forgetListener, hlisteners, hrequests, ne_eq, not_true_eq_false, false_and, if_false]

theorem recordListenerDisconnect_refines {deviceId : DeviceId} {error : Option CoreError} :
    Refined s (.transport (.listenerDisconnected deviceId error))
      (s.recordListenerDisconnect deviceId error) := by
  have hstep := Core.Step.listenerDisconnected (c := s.core) deviceId error _
    (forgetListener_lifecycle s deviceId)
  have hcore := core_forgetListener s deviceId
  unfold recordListenerDisconnect
  split
  · exact .ok (.of_core hstep hcore rfl Bool.noConfusion)
  · refine .ite (fun _ => .ok (.of_core hstep hcore rfl Bool.noConfusion)) fun hunknown => .ok ?_
    push Not at hunknown
    refine .of_core hstep hcore rfl fun _ => ?_
    rw [forgetListener_of_unknown hunknown.1 hunknown.2]

theorem recordTransportFailure_refines (error : CoreError) :
    Refines s (.transport (.failed error)) (s.recordTransportFailure error) (.error error) := by
  rcases hrole : s.snapshot.selectedRole with _ | _ | _
  · exact .of_core (.transportFailed error _ (.inl rfl))
      (by simp only [core, recordTransportFailure, hrole]) rfl Bool.noConfusion
  · exact .of_core (.transportFailed error _ (.inr rfl))
      (by simp only [core, recordTransportFailure, hrole]) rfl Bool.noConfusion
  · refine .of_core (.transportFailed error _ (.inl rfl)) ?_ rfl Bool.noConfusion
    simp only [recordTransportFailure, hrole]
    split_ifs <;> simp only [core, hrole]

theorem applyTransportState_refines (state : TransportState) :
    Refines s (.transport (.stateChanged state)) (s.applyTransportState state) .changedOnly := by
  by_cases hcreating : s.snapshot.selectedRole = some .host ∧
      s.snapshot.hostLifecycle = .creatingSession ∧ state = .advertising
  · exact .of_core (.transportChanged state .advertising (.inr ⟨hcreating.2.1, rfl⟩))
      (by simp only [core, applyTransportState, if_pos hcreating]) rfl Bool.noConfusion
  · exact .of_core (.transportChanged state _ (.inl rfl))
      (by simp only [core, applyTransportState, if_neg hcreating]) rfl Bool.noConfusion

theorem applyTransport_refines (event : TransportEvent) :
    Refined s (.transport event) (s.applyTransport event) := by
  cases event with
  | stateChanged state => exact .ok (applyTransportState_refines state)
  | joinRequested => exact handleJoinRequest_refines
  | listenerConnected => exact recordListener_refines
  | listenerDisconnected => exact recordListenerDisconnect_refines
  | deliveryCompleted => exact completeTransportDelivery_refines
  | sessionEnded sessionId =>
    refine .ite (fun _ => .ok ⟨.quiet _, fun _ => rfl⟩) fun hselected => .ok ?_
    exact .of_step (.sessionEnded sessionId (not_not.mp hselected)) rfl
  | failed error => exact .ok (recordTransportFailure_refines error)
  | awaitingApproval | joinApproved =>
    exact .andThen fun _ => .andThen fun _ => .ok (.of_step (.quiet _) rfl)
  | joinRejected => exact .andThen fun _ => .andThen fun _ => .ok (.of_step (.joinRejected _) rfl)

/-! ## Storage events -/

theorem applyTuningStorage_refines {event : StorageEvent} :
    Refined s (.storage event) (s.applyTuningStorage event) := by
  refine .andThen fun _ => ?_
  split
  · exact .error
  · next op hpending =>
    unfold completeTuningWrite
    split
    · refine .bind diagnostic_eq_ok fun _ hsaved => .ok ?_
      exact .of_core (.tuningWriteCompleted _ _ hpending) rfl hsaved.2 Bool.noConfusion
    · exact .andThen fun _ => .ok (.of_step (.tuningWriteCompleted _ _ hpending) rfl)
    · exact .error

theorem recordStored_refines {completion : StorageCompletion} :
    Refined s input (s.recordStored completion) := by
  cases completion with
  | settingsLoaded settings =>
    cases settings with
    | none => exact .ok ⟨.quiet _, fun _ => rfl⟩
    | some => exact .ok (.of_step (.quiet _) rfl)
  | settingsSaved => exact diagnostic_refines
  | trustedDevicesLoaded | trustedDeviceUpdated | diagnosticsExportReady =>
    exact .andThen fun _ => diagnostic_refines

theorem routeStorage_refines (event : StorageEvent) :
    Refined s (.storage event) (s.routeStorage event) := by
  refine .ite (fun _ => applyTuningStorage_refines) fun _ =>
    .ite (fun _ => applyAdmissionStorage_refines) fun _ => .andThen fun _ => ?_
  split
  · exact recordStored_refines
  · exact .andThen fun _ => .ok (.of_step (.quiet _) rfl)

end ActorState

end SilentDisco
