import SilentDisco.Runtime.Properties.Tracking

/-!
# Ending the session

The host ends its session with a command that starts a platform operation, so the capacity for
pending operations limits it as well. While the session ends, two inputs take the lifecycle
back to hosting: a late completion of the operation that started advertising, and a retryable
failure of the playback.

## Main definitions

* `ActorState.StartsEnding`: the command is accepted and advertising is asked to stop
* `EndingIsSticky`: from the ending lifecycle a step leads to itself, to idle or to error

## Main results

* `endHostSession_accepted_iff`: when the host can end its session
* `ending_is_sticky`: without the reopening inputs, ending is sticky in every run
-/

namespace SilentDisco

open Result

namespace ActorState

/-- The host has a session, and has not asked for its end. -/
structure HostsUnended (s : ActorState) : Prop where
  role : s.snapshot.selectedRole = some .host
  session : s.hostSessionId ≠ none
  notIdle : s.snapshot.hostLifecycle ≠ .idle
  notEnding : s.snapshot.hostLifecycle ≠ .endingSession

/-- The message starts the end of the session: advertising is asked to stop. -/
def StartsEnding (s : ActorState) (message : ActorMessage) : Prop :=
  (actor.next s message).snapshot.hostLifecycle = .endingSession ∧
    ∃ started : PlatformEffect,
      .effect started ∈ (actor.out s message).notifications ∧ started.request = .stopAdvertising

/-- The command that ends the session does not depend on its revision. -/
theorem apply_endHostSession (s : ActorState) (operationId : OperationId)
    (revision : SnapshotRevision) :
    s.apply (.command operationId ⟨revision, .endHostSession⟩) = s.endHostSession operationId := by
  change (s.checkRevision operationId _ >>= fun _ => s.endHostSession operationId) = _
  rw [checkRevision, rejectIf, if_neg (by simp)]
  rfl

theorem pendingCount_lt_of_startsEnding {s : ActorState} {operationId : OperationId}
    {revision : SnapshotRevision} (hnot : s.snapshot.hostLifecycle ≠ .endingSession)
    (h : s.StartsEnding (.input (.command operationId ⟨revision, .endHostSession⟩))) :
    s.pendingCount < maxPendingEffectOperations := by
  obtain ⟨hending, -⟩ := h
  rcases s.receive_cases (.input (.command operationId ⟨revision, .endHostSession⟩)) with
    ⟨hstate, -⟩ | ⟨candidate, outcome, hhandle, -, -, -⟩
  · -- A refused command leaves the lifecycle.
    exact absurd ((congrArg (·.snapshot.hostLifecycle) hstate).symm.trans hending) hnot
  · have hend := (s.apply_endHostSession operationId revision).symm.trans hhandle
    exact (endHostSession_eq_ok.mp hend).2.2.1.1

end ActorState

/-- **When the host can end its session.** In every reachable state with a host session that is
not ending, the command to end it is accepted on every revision and asks advertising to stop,
if and only if fewer operations are pending than the capacity allows. -/
theorem endHostSession_accepted_iff {s : ActorState} (hs : actor.Reachable s)
    (hhosts : s.HostsUnended) (hrevision : s.snapshot.revision.get.toNat + 1 < 2 ^ 64)
    (heffect : s.nextEffectSequence + 1 < 2 ^ 64) (operationId : OperationId)
    (revision : SnapshotRevision) :
    s.StartsEnding (.input (.command operationId ⟨revision, .endHostSession⟩)) ↔
      s.pendingCount < maxPendingEffectOperations := by
  have happly := s.apply_endHostSession operationId revision
  constructor
  · exact ActorState.pendingCount_lt_of_startsEnding hhosts.notEnding
  · intro hroom
    obtain ⟨id, hid⟩ := ActorState.exists_effectId heffect
    have hend : s.endHostSession operationId =
        .ok (s.pushEnding id, .effect ⟨id, .stopAdvertising⟩) :=
      ActorState.endHostSession_eq_ok.mpr ⟨hhosts.role,
        ⟨hhosts.session, hhosts.notIdle, hhosts.notEnding⟩, ⟨hroom, heffect⟩, id, hid, rfl, rfl⟩
    have hvalid := (ActorState.apply_valid_iff (ActorState.valid_of_reachable hs)
      (happly.trans hend)).mpr fun hdrops => hdrops.2
    have hhandle : s.handle (.input (.command operationId ⟨revision, .endHostSession⟩)) = _ :=
      happly.trans hend
    obtain ⟨hstate, hnotifications⟩ :=
      ActorState.receive_of_committable hhandle fun _ => ⟨hrevision, hvalid⟩
    refine ⟨congrArg (·.snapshot.hostLifecycle) hstate, ⟨id, .stopAdvertising⟩, ?_, rfl⟩
    change _ ∈ (s.receive _).2.notifications
    rw [hnotifications]
    exact List.mem_cons_of_mem _ (List.mem_singleton.mpr rfl)

open Scenario in
theorem endHostSession_accepted_hosting :
    (actor.after device (hosting .manual)).StartsEnding
      (command 4 .endHostSession) :=
  (endHostSession_accepted_iff (reachable _)
    ⟨by decide, by decide, by decide, by decide⟩ (by decide) (by decide) _ _).mpr (by decide)

/-! ### A full queue -/

namespace ActorState

/-- An export of the diagnostics, commanded on the current revision. -/
def exportMessage (s : ActorState) : ActorMessage :=
  .input (.command ⟨"command-1", Scenario.valid_command⟩ ⟨s.snapshot.revision, .exportDiagnostics⟩)

/-- A run of exports. -/
def exportMessages : ℕ → ActorState → List ActorMessage
  | 0, _ => []
  | n + 1, s => s.exportMessage :: exportMessages n (actor.next s s.exportMessage)

/-- The counters leave room for `n` more exports. -/
structure HasCounters (s : ActorState) (n : ℕ) : Prop where
  capacity : s.pendingCount + n ≤ maxPendingEffectOperations
  revision : s.snapshot.revision.get.toNat + n < 2 ^ 64
  effect : s.nextEffectSequence + n < 2 ^ 64
  diagnostics : s.nextExportSequence + n < 2 ^ 64

/-- What an export leaves as it is. -/
structure SameSession (s s' : ActorState) : Prop where
  role : s'.snapshot.selectedRole = s.snapshot.selectedRole
  session : s'.hostSessionId = s.hostSessionId
  lifecycle : s'.snapshot.hostLifecycle = s.snapshot.hostLifecycle

theorem next_exportMessage {s : ActorState} (hs : actor.Reachable s) {n : ℕ}
    (hcounters : s.HasCounters (n + 1)) :
    (actor.next s s.exportMessage).pendingCount = s.pendingCount + 1 ∧
      (actor.next s s.exportMessage).HasCounters n ∧
      s.SameSession (actor.next s s.exportMessage) := by
  obtain ⟨hcapacity, hrevision, heffect, hdiagnostics⟩ := hcounters
  obtain ⟨id, hid⟩ := exists_effectId (show s.nextEffectSequence + 1 < 2 ^ 64 by omega)
  have hexport : s.exportDiagnostics = .ok (s.pushExport id,
      .effect ⟨id, .shareDiagnostics (exportName s.nextExportSequence)⟩) :=
    exportDiagnostics_eq_ok.mpr ⟨by omega, ⟨by omega, by omega⟩, id, hid, rfl, rfl⟩
  have hhandle : s.handle s.exportMessage = .ok (s.pushExport id,
      .effect ⟨id, .shareDiagnostics (exportName s.nextExportSequence)⟩) := by
    change (s.checkRevision _ _ >>= fun _ => s.exportDiagnostics) = _
    rw [checkRevision, rejectIf, if_neg (by simp)]
    exact hexport
  have hvalid := (apply_valid_iff (valid_of_reachable hs) (apply_of_handle hhandle)).mpr
    fun hdrops => hdrops.2
  have hfits : s.snapshot.revision.get.toNat + 1 < 2 ^ 64 := by omega
  have hnext : actor.next s s.exportMessage = (s.pushExport id).published
      (.effect ⟨id, .shareDiagnostics (exportName s.nextExportSequence)⟩) :=
    (receive_of_committable hhandle fun _ => ⟨hfits, hvalid⟩).1
  rw [hnext]
  have hcount : ((s.pushExport id).published
      (.effect ⟨id, .shareDiagnostics (exportName s.nextExportSequence)⟩)).pendingCount =
      s.pendingCount + 1 := by
    simp only [published, ApplyOutcome.effect, if_true, pendingCount, pushExport, pushPlatform,
      List.length_append, List.length_singleton]
    omega
  have hsucc : (s.snapshot.revision.get + 1).toNat = s.snapshot.revision.get.toNat + 1 := by
    rw [UInt64.toNat_add]
    exact Nat.mod_eq_of_lt hfits
  refine ⟨hcount, ⟨by rw [hcount]; omega, ?_, ?_, ?_⟩, ⟨rfl, rfl, rfl⟩⟩
  · change (s.snapshot.revision.get + 1).toNat + n < 2 ^ 64
    omega
  · change s.nextEffectSequence + 1 + n < 2 ^ 64
    omega
  · change s.nextExportSequence + 1 + n < 2 ^ 64
    omega

/-- Exports fill the queue up to its capacity. -/
theorem after_exportMessages (n : ℕ) {s : ActorState} (hs : actor.Reachable s)
    (hcounters : s.HasCounters n) :
    (actor.after s (exportMessages n s)).pendingCount = s.pendingCount + n ∧
      s.SameSession (actor.after s (exportMessages n s)) := by
  induction n generalizing s with
  | zero => exact ⟨rfl, rfl, rfl, rfl⟩
  | succ n ih =>
    obtain ⟨hcount, hcounters', hsame⟩ := next_exportMessage hs hcounters
    obtain ⟨hafter, hsame'⟩ := ih (hs.next s.exportMessage) hcounters'
    refine ⟨?_, hsame'.role.trans hsame.role, hsame'.session.trans hsame.session,
      hsame'.lifecycle.trans hsame.lifecycle⟩
    rw [exportMessages, Machine.after_cons, hafter, hcount]
    omega

end ActorState

namespace Scenario

/-- Exports fill the queue of the hosting device. -/
def full : List ActorMessage :=
  hosting .manual ++ ActorState.exportMessages 128 (actor.after device (hosting .manual))

theorem after_full :
    (actor.after device full).pendingCount = maxPendingEffectOperations ∧
      (actor.after device (hosting .manual)).SameSession (actor.after device full) := by
  rw [full, Machine.after_append]
  exact ActorState.after_exportMessages 128 (reachable _)
    ⟨by decide, by decide, by decide, by decide⟩

end Scenario

open Scenario in
/-- With a full queue the host cannot end its session. -/
theorem not_endHostSession_full :
    actor.Reachable (actor.after device full) ∧
      (actor.after device full).HostsUnended ∧
      ¬(actor.after device full).StartsEnding
        (command 132 .endHostSession) := by
  obtain ⟨hcount, hsame⟩ := after_full
  have hhosts : (actor.after device full).HostsUnended := by
    refine ⟨?_, ?_, ?_, ?_⟩
    · rw [hsame.role]; decide
    · rw [hsame.session]; decide
    · rw [hsame.lifecycle]; decide
    · rw [hsame.lifecycle]; decide
  refine ⟨reachable _, hhosts, fun hends => ?_⟩
  have hroom := ActorState.pendingCount_lt_of_startsEnding hhosts.notEnding hends
  rw [hcount] at hroom
  exact lt_irrefl _ hroom

/-! ## Ending is sticky -/

namespace Core

variable {c c' : Core} {input : CoreActorInput} {requests : List TransportEffectRequest}

/-- While the session ends, advertising is asked to stop. -/
def Stopping (c : Core) : Prop :=
  c.lifecycle = .endingSession → ∃ id, (id, .stopAdvertising) ∈ c.platform

/-- The inputs that lead from ending back to hosting. -/
def Reopens (c : Core) : CoreActorInput → Prop
  | .platform (.operationSucceeded id .advertisingStarted) =>
    ∃ sessionId, c.platform.lookup id = some (.startAdvertising sessionId) ∧
      c.session = some sessionId
  | .audio event => event.retryableFailure = true
  | _ => False

theorem Stopping.congr (hc : c.Stopping)
    (hlifecycle : c'.lifecycle = .endingSession → c.lifecycle = .endingSession)
    (hplatform : c.platform ⊆ c'.platform) : c'.Stopping := fun hending => by
  obtain ⟨id, hmem⟩ := hc (hlifecycle hending)
  exact ⟨id, hplatform hmem⟩

/-- The completion of another operation leaves the stop pending. -/
theorem Stopping.finish (hc : c.Stopping) {id : OperationId} {op : PendingPlatformOperation}
    (hpending : c.platform.lookup id = some op) (hop : op ≠ .stopAdvertising)
    (hlifecycle : c'.lifecycle = c.lifecycle)
    (hplatform : c'.platform = Keyed.removeFirst id c.platform) : c'.Stopping := fun hending => by
  obtain ⟨stopId, hmem⟩ := hc (hlifecycle.symm.trans hending)
  rw [hplatform]
  exact ⟨stopId, Keyed.mem_removeFirst_of_ne hpending hmem hop.symm⟩

theorem Step.stopping (h : c.Step input c' requests) (hc : c.Stopping) : c'.Stopping := by
  cases h with
  -- The session starts to end.
  | ended _ _ id => exact fun _ => ⟨id, List.mem_append_right _ (by simp)⟩
  -- The lifecycle is another one afterwards.
  | created | retried | advertisingStarted | advertisingStopped | advertisingFailed =>
    exact fun hending => nomatch hending
  | discoveryStarted _ hpending | discoveryStopped _ hpending | networkReady _ _ _ hpending
  | networkReleased _ hpending | diagnosticsShared _ _ hpending
  | diagnosticsFailed _ _ _ hpending =>
    exact hc.finish hpending (by simp) rfl rfl
  | networkFailed _ _ _ hpending hop =>
    refine hc.finish hpending ?_ rfl rfl
    rintro rfl
    cases hop
  -- A new lifecycle is not the ending one, unless it is the old one.
  | transportChanged _ _ hlifecycle | listenerDisconnected _ _ _ hlifecycle =>
    refine hc.congr (fun hending => ?_) (List.Subset.refl _)
    rcases hlifecycle with rfl | ⟨-, rfl⟩
    · exact hending
    · cases hending
  | listenerConnected =>
    refine hc.congr (fun hending => ?_) (List.Subset.refl _)
    change (if c.lifecycle = .waitingForListeners then HostLifecycle.ready else c.lifecycle) = _
      at hending
    split_ifs at hending
    exact hending
  | transportFailed _ _ hlifecycle =>
    refine hc.congr (fun hending => ?_) (List.Subset.refl _)
    rcases hlifecycle with rfl | rfl
    · exact hending
    · cases hending
  | audio _ lifecycle _ hlifecycle =>
    refine hc.congr (fun hending => ?_) (List.Subset.refl _)
    obtain rfl : lifecycle = .endingSession := hending
    rcases hlifecycle with hsame | ⟨-, -, hother⟩
    · exact hsame.symm
    · exact absurd hother (by simp [HostLifecycle.AdmitsListeners])
  -- The others keep the lifecycle and add operations at most.
  | platformStarted | rescanned | joinSubmitted =>
    exact hc.congr id (List.subset_append_left _ _)
  | _ => exact hc.congr id (List.Subset.refl _)

/-- From the ending lifecycle, a step that does not reopen the session leads to idle or error
at most. -/
theorem Step.ending (h : c.Step input c' requests) (hc : c.Stopping)
    (hending : c.lifecycle = .endingSession) (hnot : ¬c.Reopens input) :
    c'.lifecycle = .endingSession ∨ c'.lifecycle = .idle ∨ c'.lifecycle = .error := by
  cases h with
  -- A session is created from idle or error, and retried without pending operations.
  | created _ _ _ _ _ hlifecycle =>
    rw [hending] at hlifecycle
    exact absurd hlifecycle (by decide)
  | retried _ _ _ _ _ _ hpending =>
    obtain ⟨stopId, hmem⟩ := hc hending
    exact absurd (hpending.1 ▸ hmem) List.not_mem_nil
  | advertisingStarted operationId sessionId hpending hsession =>
    exact absurd ⟨sessionId, hpending, hsession⟩ hnot
  | ended => exact .inl rfl
  | advertisingStopped => exact .inr (.inl rfl)
  | advertisingFailed => exact .inr (.inr rfl)
  | transportChanged _ _ hlifecycle | listenerDisconnected _ _ _ hlifecycle =>
    rcases hlifecycle with rfl | ⟨hother, -⟩
    · exact .inl hending
    · cases hending.symm.trans hother
  | listenerConnected =>
    refine .inl ?_
    change (if c.lifecycle = .waitingForListeners then HostLifecycle.ready else c.lifecycle) = _
    rw [if_neg (by simp [hending])]
    exact hending
  | transportFailed _ _ hlifecycle =>
    rcases hlifecycle with rfl | rfl
    · exact .inl hending
    · exact .inr (.inr rfl)
  | audio _ _ _ hlifecycle =>
    rcases hlifecycle with rfl | ⟨-, -, rfl | ⟨hadmits, -⟩ | ⟨hretryable, -⟩⟩
    · exact .inl hending
    · exact .inr (.inr rfl)
    · exact absurd hadmits (by simp [hending, HostLifecycle.AdmitsListeners])
    · exact absurd hretryable hnot
  | _ => exact .inl hending

end Core

/-- The message takes an ending session back to hosting: the late completion of the start of
its advertising, or a retryable failure of its playback. -/
def ActorState.ReopensSession (s : ActorState) : ActorMessage → Prop
  | .input (.platform (.operationSucceeded id .advertisingStarted)) =>
    ∃ sessionId ∈ s.hostSessionId, s.pending id = some (.startAdvertising sessionId)
  | .input (.audio event) => event.retryableFailure = true
  | _ => False

/-- From the ending lifecycle a step leads to itself, to idle or to error. -/
def EndingIsSticky (s : ActorState) (message : ActorMessage) : Prop :=
  s.snapshot.hostLifecycle = .endingSession →
    (actor.next s message).snapshot.hostLifecycle = .endingSession ∨
      (actor.next s message).snapshot.hostLifecycle = .idle ∨
      (actor.next s message).snapshot.hostLifecycle = .error

/-- The message does not reopen a session that ends. -/
def KeepsEnding (s : ActorState) (message : ActorMessage) : Prop :=
  s.snapshot.hostLifecycle = .endingSession → ¬s.ReopensSession message

instance (s : ActorState) (message : ActorMessage) : Decidable (EndingIsSticky s message) :=
  inferInstanceAs (Decidable (_ → _))

theorem ActorState.reopensSession_of_core {s : ActorState} {message : ActorMessage}
    (h : s.core.Reopens message.asInput) : s.ReopensSession message := by
  cases message with
  | reserveBoundary => cases h
  | input given =>
    cases given with
    | platform event =>
      cases event with
      | operationSucceeded id completion =>
        cases completion with
        | advertisingStarted =>
          obtain ⟨sessionId, hpending, hsession⟩ := h
          exact ⟨sessionId, hsession, hpending⟩
        | _ => exact False.elim h
      | _ => exact False.elim h
    | audio => exact h
    | _ => exact False.elim h

/-- **Ending is sticky.** In every run in which no late start of advertising and no retryable
playback failure reopens an ending session, the lifecycle leaves `endingSession` for idle or
error only. -/
theorem ending_is_sticky {s : ActorState} (hs : actor.init s) (messages : List ActorMessage)
    (h : actor.Along KeepsEnding s messages) : actor.Along EndingIsSticky s messages := by
  refine Machine.along_of_invariant (I := fun s => s.core.Stopping) ?_ ?_ h
  · intro s message hstopping hkeeps
    refine ⟨fun hending => ?_, ?_⟩
    · rcases s.receive_core message with ⟨hstate, -⟩ | hstep
      · -- A refused message keeps the state.
        exact .inl ((congrArg (·.snapshot.hostLifecycle) hstate).trans hending)
      · exact hstep.ending hstopping hending fun hreopens =>
          hkeeps hending (ActorState.reopensSession_of_core hreopens)
    · exact ActorState.core_invariant (fun c input c' requests hc hstep => hstep.stopping hc) s
        message hstopping
  · obtain ⟨localDeviceId, sessionIdNamespace, rfl⟩ := hs
    exact fun hending => nomatch hending

namespace Scenario

/-- The host ends its session before advertising has started. -/
def endingEarly : List ActorMessage := creating .manual ++ [command 3 .endHostSession]

end Scenario

theorem ending_is_sticky_stopped :
    actor.Along EndingIsSticky Scenario.device
      (Scenario.endingEarly ++
        [.input (.platform (.operationSucceeded
          ⟨"effect-2", by decide⟩ .advertisingStopped))]) := by
  refine ending_is_sticky ⟨_, _, rfl⟩ _ ?_
  refine ⟨?_, ?_, ?_, ?_, ?_, trivial⟩
  -- Only the last message meets the ending lifecycle.
  · exact fun hending => absurd hending (by decide)
  · exact fun hending => absurd hending (by decide)
  · exact fun hending => absurd hending (by decide)
  · exact fun hending => absurd hending (by decide)
  · exact fun _ hreopens => hreopens

/-- The late start of advertising reopens the session. -/
theorem not_ending_is_sticky :
    ¬actor.Along EndingIsSticky Scenario.device
      (Scenario.endingEarly ++
        [.input (.platform (.operationSucceeded
          ⟨"effect-1", by decide⟩ .advertisingStarted))]) := by
  decide

end SilentDisco
