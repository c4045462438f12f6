import SilentDisco.Runtime.Properties.Snapshot

/-!
# Selecting a session

A listener selects a discovered session and submits its join. The selection of a session that is
selected already is accepted and changes nothing. This is meant for a join in progress, but the
selection also outlives a connection that failed or ended: after a new discovery the listener is
scanning again with the old selection, and selecting the same session leaves it scanning.

## Main definitions

* `ActorState.ReadyToJoin`: the session is selected, and its join can be submitted

## Main results

* `ActorState.accepts_submitJoin_iff`: when the join of a selected session is accepted
* `selected_session_can_be_joined`: exactly when a selected session can be joined
-/

namespace SilentDisco

open Result

namespace ActorState

variable {s s' : ActorState} {outcome : ApplyOutcome} {operationId : OperationId}
  {revision : SnapshotRevision} {sessionId : SessionId}

/-- The message is handled, and what its handler did is committed. -/
def Accepts (s : ActorState) (message : ActorMessage) : Prop :=
  ∃ candidate outcome, s.handle message = .ok (candidate, outcome) ∧
    candidate.Committable outcome

/-- The session is selected, and a join on the current revision is accepted. -/
structure ReadyToJoin (s : ActorState) (sessionId : SessionId) : Prop where
  selected : s.snapshot.selectedSession = some sessionId
  lifecycle : s.snapshot.listenerLifecycle = .sessionSelected
  joins : ∀ operationId inviteCode, s.Accepts
    (.input (.command operationId ⟨s.snapshot.revision, .submitJoin inviteCode⟩))

/-! ## The two commands -/

/-- A discovered session is selected; nothing changes if it was selected before. -/
theorem selectSession_eq_ok (h : s.selectSession operationId sessionId = .ok (s', outcome)) :
    s.snapshot.selectedRole = some .listener ∧
      (∃ session ∈ s.snapshot.discoveredSessions, session.sessionId = sessionId) ∧
      (s.snapshot.selectedSession = some sessionId ∧ s' = s ∧ outcome = {} ∨
        s.snapshot.selectedSession ≠ some sessionId ∧ outcome = .changedOnly ∧
          s' = clearFailure
            { s with
              snapshot.selectedSession := some sessionId
              snapshot.listenerLifecycle := .sessionSelected }) := by
  unfold selectSession requireRole at h
  obtain ⟨⟨⟩, hrole, h⟩ := bind_eq_ok.mp h
  obtain ⟨⟨⟩, hknown, h⟩ := bind_eq_ok.mp h
  refine ⟨check_eq_ok.mp hrole, check_eq_ok.mp hknown, ?_⟩
  split_ifs at h with hselected
  · cases h
    exact .inl ⟨hselected, rfl, rfl⟩
  · obtain ⟨⟨⟩, -, h⟩ := bind_eq_ok.mp h
    cases h
    exact .inr ⟨hselected, rfl, rfl⟩

theorem selectedAdvertisement_of_known (hselected : s.snapshot.selectedSession = some sessionId)
    (hknown : ∃ session ∈ s.snapshot.discoveredSessions, session.sessionId = sessionId) :
    ∃ advertisement, s.selectedAdvertisement operationId = .ok advertisement := by
  unfold selectedAdvertisement
  rw [hselected]
  dsimp only
  split
  · next hnone =>
    obtain ⟨session, hmem, hid⟩ := hknown
    exact absurd hid (by simpa using List.find?_eq_none.mp hnone session hmem)
  · next advertisement hfind => exact ⟨advertisement, rfl⟩

/-- A submitted join connects to the session. -/
theorem submitJoin_eq_ok (h : s.submitJoin operationId = .ok (s', outcome)) :
    s.snapshot.listenerLifecycle = .sessionSelected ∧ outcome.changed = true ∧
      s'.snapshot =
        { s.snapshot with
          listenerLifecycle := .joinRequested
          transportState := .connecting
          discoveryActive := false } := by
  unfold submitJoin at h
  simp only [bind_eq_ok, check_eq_ok, Unique.exists_iff, Prod.exists,
    startPlatformOperation_eq_ok] at h
  obtain ⟨-, hlifecycle, advertisement, -, _, _, ⟨-, -, id, -, rfl, rfl⟩, hout⟩ := h
  cases hout
  exact ⟨hlifecycle, rfl, rfl⟩

theorem submitJoin_isOk (operationId : OperationId)
    (hrole : s.snapshot.selectedRole = some .listener)
    (hlifecycle : s.snapshot.listenerLifecycle = .sessionSelected)
    (hselected : s.snapshot.selectedSession = some sessionId)
    (hknown : ∃ session ∈ s.snapshot.discoveredSessions, session.sessionId = sessionId)
    (hstart : s.CanStart) : ∃ s' outcome, s.submitJoin operationId = .ok (s', outcome) := by
  obtain ⟨advertisement, hadvertisement⟩ := selectedAdvertisement_of_known hselected hknown
  obtain ⟨id, hid⟩ := exists_effectId hstart.2
  have heffect : s.startPlatformOperation
      (.establishNetwork ⟨advertisement.sessionId, advertisement.endpoint⟩)
      (.establishNetwork advertisement.sessionId) = .ok (_, _) :=
    startPlatformOperation_eq_ok.mpr ⟨hstart, rfl, id, hid, rfl, rfl⟩
  exact ⟨_, _, bind_eq_ok.mpr ⟨(), check_eq_ok.mpr hrole, bind_eq_ok.mpr
    ⟨(), check_eq_ok.mpr hlifecycle, bind_eq_ok.mpr ⟨advertisement, hadvertisement,
      bind_eq_ok.mpr ⟨_, heffect, rfl⟩⟩⟩⟩⟩

/-- A command on the current revision is handled. -/
theorem handle_command (s : ActorState) (operationId : OperationId) (command : CoreCommand) :
    s.handle (.input (.command operationId ⟨s.snapshot.revision, command⟩)) =
      s.applyCommand operationId command := by
  change (s.checkRevision operationId _ >>= fun _ => _) = _
  rw [checkRevision, rejectIf, if_neg (by simp)]
  rfl

/-- The join of a selected session is accepted while there are revisions. -/
theorem accepts_submitJoin_iff (hvalid : s.snapshot.Valid)
    (hrole : s.snapshot.selectedRole = some .listener)
    (hlifecycle : s.snapshot.listenerLifecycle = .sessionSelected)
    (hselected : s.snapshot.selectedSession = some sessionId)
    (hknown : ∃ session ∈ s.snapshot.discoveredSessions, session.sessionId = sessionId)
    (hstart : s.CanStart) (operationId : OperationId) (inviteCode : Option String) :
    s.Accepts (.input (.command operationId ⟨s.snapshot.revision, .submitJoin inviteCode⟩)) ↔
      s.snapshot.revision.get.toNat + 1 < 2 ^ 64 := by
  unfold Accepts
  rw [handle_command]
  constructor
  · rintro ⟨candidate, outcome, hsubmit, hcommit⟩
    obtain ⟨-, hchanged, hsnapshot⟩ := submitJoin_eq_ok hsubmit
    have hfits := (hcommit hchanged).1
    rw [hsnapshot] at hfits
    exact hfits
  · intro hfits
    obtain ⟨candidate, outcome, hsubmit⟩ :=
      submitJoin_isOk operationId hrole hlifecycle hselected hknown hstart
    obtain ⟨-, -, hsnapshot⟩ := submitJoin_eq_ok hsubmit
    refine ⟨candidate, outcome, hsubmit, fun _ => ?_⟩
    rw [hsnapshot]
    exact ⟨hfits, { hvalid with discovery := rfl }⟩

end ActorState

/-- **A selected session can be joined.** In every reachable state of a listener that is scanning
or has selected a session, an accepted selection leads to a session that can be joined, given
room for one more effect, if and only if the listener is not scanning with this session selected
already, and the revisions are not exhausted. -/
theorem selected_session_can_be_joined {s : ActorState} (hs : actor.Reachable s)
    (hrole : s.snapshot.selectedRole = some .listener)
    (hlifecycle : s.snapshot.listenerLifecycle = .scanning ∨
      s.snapshot.listenerLifecycle = .sessionSelected)
    {operationId : OperationId} {revision : SnapshotRevision} {sessionId : SessionId}
    (haccepts : s.Accepts (.input (.command operationId ⟨revision, .selectSession sessionId⟩)))
    (hstart : s.CanStart) :
    (actor.next s (.input (.command operationId ⟨revision, .selectSession sessionId⟩))).ReadyToJoin
        sessionId ↔
      (s.snapshot.selectedSession = some sessionId →
        s.snapshot.listenerLifecycle = .sessionSelected) ∧
      s.snapshot.revision.get.toNat +
        (if s.snapshot.selectedSession = some sessionId then 1 else 2) < 2 ^ 64 := by
  obtain ⟨candidate, outcome, hhandle, hcommit⟩ := haccepts
  obtain ⟨hnext, -⟩ := ActorState.receive_of_committable hhandle hcommit
  change actor.next s _ = _ at hnext
  obtain ⟨⟨⟩, -, hselect⟩ := bind_eq_ok.mp hhandle
  obtain ⟨-, hknown, ⟨hselected, rfl, rfl⟩ | ⟨hselected, rfl, rfl⟩⟩ :=
    ActorState.selectSession_eq_ok hselect
  · -- The session is selected already: the state stays as it is.
    rw [hnext, if_pos hselected]
    change candidate.ReadyToJoin sessionId ↔ _
    have hvalid := ActorState.valid_of_reachable hs
    constructor
    · intro hready
      refine ⟨fun _ => hready.lifecycle, ?_⟩
      exact (ActorState.accepts_submitJoin_iff hvalid hrole hready.lifecycle hselected hknown
        hstart operationId none).mp (hready.joins operationId none)
    · rintro ⟨hstored, hfits⟩
      refine ⟨hselected, hstored hselected, fun operationId inviteCode => ?_⟩
      exact (ActorState.accepts_submitJoin_iff hvalid hrole (hstored hselected) hselected hknown
        hstart operationId inviteCode).mpr hfits
  · -- A new selection is published under the next revision.
    have hvalid := ActorState.valid_of_reachable
      (hs.next (.input (.command operationId ⟨revision, .selectSession sessionId⟩)))
    have hfirst : s.snapshot.revision.get.toNat + 1 < 2 ^ 64 := (hcommit rfl).1
    have hchanged : ApplyOutcome.changedOnly.changed = true := rfl
    rw [ActorState.published, if_pos hchanged] at hnext
    rw [hnext] at hvalid ⊢
    have hrevision : (s.snapshot.revision.get + 1).toNat = s.snapshot.revision.get.toNat + 1 := by
      rw [UInt64.toNat_add, UInt64.toNat_one, Nat.mod_eq_of_lt hfirst]
    have hjoins := ActorState.accepts_submitJoin_iff hvalid hrole rfl rfl hknown hstart
    have hcondition : ((s.snapshot.selectedSession = some sessionId →
        s.snapshot.listenerLifecycle = .sessionSelected) ∧
        s.snapshot.revision.get.toNat + (if s.snapshot.selectedSession = some sessionId then 1
          else 2) < 2 ^ 64) ↔ (s.snapshot.revision.get + 1).toNat + 1 < 2 ^ 64 := by
      rw [if_neg hselected, hrevision]
      exact ⟨fun h => h.2, fun h => ⟨fun hstored => absurd hstored hselected, h⟩⟩
    rw [hcondition]
    constructor
    · intro hready
      exact (hjoins operationId none).mp (hready.joins operationId none)
    · intro hfits
      exact ⟨rfl, rfl, fun operationId inviteCode => (hjoins operationId inviteCode).mpr hfits⟩

namespace Scenario

def sessionId : SessionId := ⟨"session-1", valid_session⟩

/-- A session is discovered. -/
def browsing : List ActorMessage :=
  discovering ++ [.input (.platform (.sessionDiscovered
    ⟨sessionId, ⟨"host-2", by decide⟩, "Session", .manual, 3, none⟩))]

/-- The session is selected and its join is submitted; the connection fails, and the listener
discovers sessions again. -/
def rediscovering : List ActorMessage :=
  browsing ++
    [command 4 (.selectSession sessionId), command 5 (.submitJoin none),
      .input (.platform (.operationFailed ⟨"effect-2", valid_effect2⟩
        (invalidState "connection refused" none))),
      command 7 .startDiscovery,
      .input (.platform (.operationSucceeded ⟨"effect-3", valid_effect3⟩ .discoveryStarted))]

end Scenario

open Scenario in
/-- The first selection of a discovered session leads to a session that can be joined. -/
theorem selected_session_can_be_joined_first :
    (actor.next (actor.after device browsing)
      (.input (.command ⟨"command-4", by decide⟩
        ⟨⟨4⟩, .selectSession sessionId⟩))).ReadyToJoin sessionId := by
  have haccepts : (actor.after device browsing).Accepts
      (.input (.command ⟨"command-4", by decide⟩ ⟨⟨4⟩, .selectSession sessionId⟩)) :=
    ⟨_, _, rfl, (ActorState.commit_eq_ok.mp rfl).1⟩
  exact (selected_session_can_be_joined (reachable _) rfl (.inl rfl) haccepts
    (by decide)).mpr ⟨by decide, by decide⟩

open Scenario in
/-- After a connection that failed and a new discovery, the selection of the same session is
accepted; the listener stays scanning, and the join is refused. -/
theorem not_selected_session_can_be_joined :
    ∃ s, actor.Reachable s ∧ s.snapshot.selectedRole = some .listener ∧
      s.snapshot.listenerLifecycle = .scanning ∧ s.CanStart ∧
      ∃ select submit,
        select = ActorMessage.input (.command ⟨"command-9", by decide⟩
          ⟨s.snapshot.revision, .selectSession sessionId⟩) ∧
        submit = ActorMessage.input (.command ⟨"command-10", by decide⟩
          ⟨(actor.next s select).snapshot.revision, .submitJoin none⟩) ∧
        s.Accepts select ∧ (actor.next s select).snapshot.listenerLifecycle = .scanning ∧
        (actor.next s select).CanStart ∧ ¬(actor.next s select).Accepts submit := by
  refine ⟨actor.after device rediscovering, reachable _, rfl, rfl,
    by decide, _, _, rfl, rfl, ⟨_, _, rfl, nofun⟩, rfl, by decide, ?_⟩
  rintro ⟨candidate, outcome, hhandle, -⟩
  rw [ActorState.handle_command] at hhandle
  obtain ⟨hlifecycle, -⟩ := ActorState.submitJoin_eq_ok hhandle
  exact absurd hlifecycle (by decide)

end SilentDisco
