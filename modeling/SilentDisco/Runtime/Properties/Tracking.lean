import SilentDisco.Runtime.Properties.Snapshot

/-!
# Tracking of operations

Every effect that the actor starts is recorded under a fresh identifier until its completion.
The identifiers are unique among the three kinds of operations, and at most 128 operations are
pending.

## Main definitions

* `Core.Tracked`: what holds of the pending operations of every reachable state

## Main results

* `tracked_of_reachable`: reachable states track their operations
* `Core.Tracked.platform_ne_delivery` and its siblings: an identifier belongs to one operation
-/

namespace SilentDisco

open ActorState

theorem ActorState.effectName_injective {k n : ℕ} (h : effectName k = effectName n) : k = n := by
  have hrepr : k.repr = n.repr := by
    simpa [effectName, ← String.toList_inj] using congrArg String.toList h
  exact Nat.repr_injective hrepr

namespace Core

variable {c c' : Core} {input : CoreActorInput} {requests : List TransportEffectRequest}
  {id : OperationId}

/-- The identifiers of the pending operations. -/
def ids (c : Core) : List OperationId :=
  c.platform.map Prod.fst ++ (c.deliveries.map Prod.fst ++ c.writes.map Prod.fst)

theorem length_ids (c : Core) : c.ids.length = c.pendingCount := by
  simp only [ids, pendingCount, List.length_append, List.length_map, Nat.add_assoc]

/-- What holds of the pending operations. -/
structure Tracked (c : Core) : Prop where
  unique : c.ids.Nodup
  named : ∀ id ∈ c.ids, ∃ k < c.nextEffect, id.value = effectName k
  bounded : c.pendingCount ≤ maxPendingEffectOperations
  /-- An export is identified by a name that the actor made. -/
  exports : ∀ id exportId, (id, .shareDiagnostics exportId) ∈ c.platform →
    ∃ n, n + 1 < 2 ^ 64 ∧ exportId = exportName n
  /-- Trust is written only for requests of the host session. -/
  hosted : ∀ entry ∈ c.writes, entry.2.isTuning = false → c.session ≠ none

theorem Fresh.not_mem (hfresh : c.Fresh id) (hc : c.Tracked) : id ∉ c.ids := fun hmem => by
  obtain ⟨k, hk, hname⟩ := hc.named id hmem
  exact hk.ne (effectName_injective (hname.symm.trans hfresh.2.2))

/-- Operations may be forgotten. -/
theorem Tracked.forget (hc : c.Tracked) (hplatform : c'.platform.Sublist c.platform)
    (hdeliveries : c'.deliveries.Sublist c.deliveries) (hwrites : c'.writes.Sublist c.writes)
    (hnext : c'.nextEffect = c.nextEffect)
    (hsession : ∀ entry ∈ c'.writes, entry.2.isTuning = false → c'.session ≠ none) :
    c'.Tracked := by
  have hids : c'.ids.Sublist c.ids :=
    (hplatform.map _).append ((hdeliveries.map _).append (hwrites.map _))
  refine ⟨hc.unique.sublist hids, fun id hid => hnext ▸ hc.named id (hids.subset hid), ?_,
    fun id exportId hmem => hc.exports id exportId (hplatform.subset hmem), hsession⟩
  rw [← length_ids]
  exact hids.length_le.trans (length_ids c ▸ hc.bounded)

/-- Only the operations, their counter and the session matter. -/
theorem Tracked.congr (hc : c.Tracked) (hplatform : c'.platform = c.platform)
    (hdeliveries : c'.deliveries = c.deliveries) (hwrites : c'.writes = c.writes)
    (hnext : c'.nextEffect = c.nextEffect) (hsession : c'.session = c.session) : c'.Tracked := by
  refine hc.forget (hplatform ▸ .refl _) (hdeliveries ▸ .refl _) (hwrites ▸ .refl _) hnext ?_
  rw [hwrites, hsession]
  exact hc.hosted

/-- A fresh operation may be added; its identifier stands anywhere among the others. -/
theorem Tracked.start (hc : c.Tracked) (hfresh : c.Fresh id)
    (hids : c'.ids.Perm (id :: c.ids)) (hnext : c'.nextEffect = c.nextEffect + 1)
    (hexports : ∀ id exportId, (id, .shareDiagnostics exportId) ∈ c'.platform →
      ∃ n, n + 1 < 2 ^ 64 ∧ exportId = exportName n)
    (hhosted : ∀ entry ∈ c'.writes, entry.2.isTuning = false → c'.session ≠ none) : c'.Tracked := by
  refine ⟨hids.nodup_iff.mpr (List.nodup_cons.mpr ⟨hfresh.not_mem hc, hc.unique⟩), ?_, ?_,
    hexports, hhosted⟩
  · intro other hother
    rcases List.mem_cons.mp (hids.mem_iff.mp hother) with rfl | hold
    · exact ⟨c.nextEffect, by omega, hfresh.2.2⟩
    · obtain ⟨k, hk, hname⟩ := hc.named other hold
      exact ⟨k, by omega, hname⟩
  · have hroom := hfresh.1
    rw [← length_ids, hids.length_eq, List.length_cons, length_ids]
    exact hroom

theorem ids_startPlatform (c : Core) (id : OperationId) (op : PendingPlatformOperation) :
    (c.startPlatform id op).ids.Perm (id :: c.ids) := by
  simp only [ids, startPlatform, List.map_append, List.map_cons, List.map_nil,
    List.append_assoc, List.singleton_append]
  exact List.perm_middle

theorem ids_startDelivery (c : Core) (id : OperationId) (op : PendingTransportOperation) :
    (c.startDelivery id op).ids.Perm (id :: c.ids) := by
  simp only [ids, startDelivery, List.map_append, List.map_cons, List.map_nil,
    List.append_assoc, List.singleton_append]
  exact (List.perm_middle.append_left _).trans List.perm_middle

theorem ids_startWrite (c : Core) (id : OperationId) (op : PendingStorageOperation) :
    (c.startWrite id op).ids.Perm (id :: c.ids) := by
  simp only [ids, startWrite, List.map_append, List.map_cons, List.map_nil]
  rw [← List.append_assoc, ← List.append_assoc, ← List.append_assoc]
  exact List.perm_append_singleton _ _

section

variable (hc : c.Tracked)
include hc

theorem Tracked.startPlatform (hfresh : c.Fresh id)
    {op : PendingPlatformOperation}
    (hop : ∀ exportId, op = .shareDiagnostics exportId →
      ∃ n, n + 1 < 2 ^ 64 ∧ exportId = exportName n) :
    (c.startPlatform id op).Tracked := by
  refine hc.start hfresh (ids_startPlatform c id op) rfl (fun other exportId hmem => ?_) hc.hosted
  rcases List.mem_append.mp hmem with hold | hnew
  · exact hc.exports other exportId hold
  · exact hop exportId (congrArg Prod.snd (List.mem_singleton.mp hnew)).symm

theorem Tracked.startDelivery (hfresh : c.Fresh id)
    (op : PendingTransportOperation) : (c.startDelivery id op).Tracked :=
  hc.start hfresh (ids_startDelivery c id op) rfl hc.exports hc.hosted

theorem Tracked.startWrite (hfresh : c.Fresh id) {op : PendingStorageOperation}
    (hop : op.isTuning = false → c.session ≠ none) : (c.startWrite id op).Tracked := by
  refine hc.start hfresh (ids_startWrite c id op) rfl hc.exports fun entry hmem htrust => ?_
  rcases List.mem_append.mp hmem with hold | hnew
  · exact hc.hosted entry hold htrust
  · obtain rfl := List.mem_singleton.mp hnew
    exact hop htrust

theorem Tracked.finishPlatform (id : OperationId) : (c.finishPlatform id).Tracked :=
  hc.forget List.eraseP_sublist (List.Sublist.refl _) (List.Sublist.refl _) rfl hc.hosted

theorem Tracked.finishDelivery (id : OperationId) : (c.finishDelivery id).Tracked :=
  hc.forget (List.Sublist.refl _) List.eraseP_sublist (List.Sublist.refl _) rfl hc.hosted

theorem Tracked.finishWrite (id : OperationId) : (c.finishWrite id).Tracked :=
  hc.forget (List.Sublist.refl _) (List.Sublist.refl _) List.eraseP_sublist rfl
    fun entry hmem => hc.hosted entry (Keyed.removeFirst_subset hmem)

/-- The session is forgotten together with its trust writes. -/
theorem Tracked.reset : c.reset.Tracked := by
  refine hc.forget (List.Sublist.refl _) (List.nil_sublist _) List.filter_sublist rfl ?_
  intro entry hmem htrust
  have htuning := (List.mem_filter.mp hmem).2
  rw [htrust] at htuning
  cases htuning

end

theorem Step.tracked (h : c.Step input c' requests) (hc : c.Tracked) : c'.Tracked := by
  cases h with
  -- Operations that start.
  | created _ _ _ _ _ _ hfresh =>
    exact { hc.startPlatform hfresh (by simp) with hosted := fun _ _ _ => Option.some_ne_none _ }
  | retried _ _ _ _ _ _ _ hfresh | ended _ _ _ _ _ hfresh =>
    exact (hc.startPlatform hfresh (by simp)).congr rfl rfl rfl rfl rfl
  | platformStarted _ request _ _ hop hfresh =>
    refine hc.startPlatform hfresh fun exportId hshare => ?_
    subst hshare
    generalize request.command = command at hop
    cases hop with
    | exportDiagnostics n hn => exact ⟨n, hn, rfl⟩
  | rescanned _ _ id hfresh | joinSubmitted _ _ _ _ _ hfresh =>
    exact (hc.startPlatform hfresh (by simp)).congr rfl rfl rfl rfl rfl
  | tuningWriteStarted _ _ _ _ _ hfresh => exact hc.startWrite hfresh nofun
  | trustWriteStarted _ _ _ _ _ _ hadmits _ _ hfresh =>
    refine hc.startWrite hfresh fun _ => ?_
    rw [hadmits.session]
    exact nofun
  | approvalStarted _ _ _ _ _ _ _ _ _ _ hfresh | rejectionStarted _ _ _ _ _ _ _ _ hfresh
  | removalStarted _ _ _ _ _ _ _ hfresh =>
    exact hc.startDelivery hfresh _
  | requestApproved request _ _ trusted _ _ _ _ hfresh =>
    have hstarted := hc.startDelivery hfresh
      (.approveJoin ⟨request.requestId, request.deviceId, trusted, false⟩)
    exact hstarted.congr rfl rfl rfl rfl rfl
  | requestRejected request _ _ _ _ _ _ hfresh =>
    have hstarted := hc.startDelivery hfresh
      (.rejectJoin request.requestId request.deviceId none)
    exact hstarted.congr rfl rfl rfl rfl rfl
  -- Operations that complete; a trust write starts the delivery it prepared.
  | trustWriteCompleted event _ _ _ _ _ _ hfresh =>
    exact (hc.finishWrite event.operationId).startDelivery hfresh _
  | tuningWriteCompleted event => exact hc.finishWrite event.operationId
  | deliveryFailed operationId => exact hc.finishDelivery operationId
  | approvalDelivered operationId | rejectionDelivered operationId
  | removalDelivered operationId => exact (hc.finishDelivery operationId).congr rfl rfl rfl rfl rfl
  | advertisingStarted operationId =>
    exact (hc.finishPlatform operationId).congr rfl rfl rfl rfl rfl
  | advertisingStopped operationId => exact hc.reset.finishPlatform operationId
  | discoveryStarted operationId | discoveryStopped operationId | networkReady operationId
  | networkReleased operationId => exact (hc.finishPlatform operationId).congr rfl rfl rfl rfl rfl
  | diagnosticsShared operationId | diagnosticsFailed operationId =>
    exact hc.finishPlatform operationId
  | advertisingFailed operationId | networkFailed operationId =>
    exact (hc.finishPlatform operationId).congr rfl rfl rfl rfl rfl
  -- The others leave the operations alone.
  | _ => exact hc.congr rfl rfl rfl rfl rfl

/-! ### An identifier belongs to one operation -/

theorem Tracked.uniquePlatform (hc : c.Tracked) : (c.platform.map Prod.fst).Nodup :=
  (List.nodup_append.mp hc.unique).1

theorem Tracked.uniqueDeliveries (hc : c.Tracked) : (c.deliveries.map Prod.fst).Nodup :=
  (List.nodup_append.mp (List.nodup_append.mp hc.unique).2.1).1

theorem Tracked.uniqueWrites (hc : c.Tracked) : (c.writes.map Prod.fst).Nodup :=
  (List.nodup_append.mp (List.nodup_append.mp hc.unique).2.1).2.1

theorem Tracked.platform_ne_delivery (hc : c.Tracked) {p : OperationId × PendingPlatformOperation}
    {d : OperationId × PendingTransportOperation} (hp : p ∈ c.platform) (hd : d ∈ c.deliveries) :
    p.1 ≠ d.1 :=
  (List.nodup_append.mp hc.unique).2.2 _ (List.mem_map_of_mem hp) _
    (List.mem_append_left _ (List.mem_map_of_mem hd))

theorem Tracked.platform_ne_write (hc : c.Tracked) {p : OperationId × PendingPlatformOperation}
    {w : OperationId × PendingStorageOperation} (hp : p ∈ c.platform) (hw : w ∈ c.writes) :
    p.1 ≠ w.1 :=
  (List.nodup_append.mp hc.unique).2.2 _ (List.mem_map_of_mem hp) _
    (List.mem_append_right _ (List.mem_map_of_mem hw))

theorem Tracked.delivery_ne_write (hc : c.Tracked) {d : OperationId × PendingTransportOperation}
    {w : OperationId × PendingStorageOperation} (hd : d ∈ c.deliveries) (hw : w ∈ c.writes) :
    d.1 ≠ w.1 :=
  (List.nodup_append.mp (List.nodup_append.mp hc.unique).2.1).2.2 _ (List.mem_map_of_mem hd) _
    (List.mem_map_of_mem hw)

end Core

namespace ActorState

/-- Reachable states track their operations. -/
theorem tracked_of_reachable {s : ActorState} (h : actor.Reachable s) : s.core.Tracked := by
  refine h.invariant (I := fun s => s.core.Tracked) ?_
    (core_invariant fun c input c' requests hc hstep => hstep.tracked hc)
  rintro _ ⟨localDeviceId, sessionIdNamespace, rfl⟩
  exact ⟨List.nodup_nil, fun _ hmem => absurd hmem List.not_mem_nil, Nat.zero_le _,
    fun _ _ hmem => absurd hmem List.not_mem_nil, fun _ hmem => absurd hmem List.not_mem_nil⟩

end ActorState

end SilentDisco
