import SilentDisco.Library.Runs
import SilentDisco.Runtime.Playlist

/-!
# The host queue

The bounds that every operation keeps, and what the revision says about the entries.

## Main definitions

* `HostQueue.Bounded`: distinct entries, at most a hundred, with consistent and bounded sources
* `HostQueueOperation`, `hostQueue`: the operations, and the queue as a machine

## Main results

* `host_queue_is_bounded`: the bounds and the revisions of a run
-/

namespace SilentDisco

open Result QueueEntry Unique

/-- The source of an entry and its length. -/
def QueueEntry.sourceSize (entry : QueueEntry) : String × Option UInt64 :=
  (entry.source.sourceId, entry.source.byteLength)

/-- The size that a source counts with; an unknown length counts as the largest. -/
def countedBytes (source : String × Option UInt64) : ℕ := (source.2.getD maxSourceBytes).toNat

/-- The total size of the distinct sources. -/
def sourceBytes (entries : List QueueEntry) : ℕ :=
  ∑ source ∈ (entries.map sourceSize).toFinset, countedBytes source

namespace HostQueue

/-! ## Sources -/

/-- The sources of the entries, each recorded once. -/
structure Covers (sources : Sources) (entries : List QueueEntry) : Prop where
  nodup : (sources.map Prod.fst).Nodup
  mem : ∀ source, source ∈ sources ↔ source ∈ entries.map sourceSize

variable {sources sources' : Sources} {entries more : List QueueEntry} {entry : QueueEntry}

theorem covers_nil : Covers [] [] := ⟨List.nodup_nil, fun _ => Iff.rfl⟩

theorem Covers.record (h : Covers sources entries)
    (hrecord : recordSource sources entry = .ok sources') :
    Covers sources' (entries ++ [entry]) := by
  unfold recordSource at hrecord
  split at hrecord
  · next sourceId knownSize hfound =>
    split_ifs at hrecord with hsize
    cases hrecord
    have hknown : entry.sourceSize ∈ sources := by
      have hsame : sourceId = entry.source.sourceId := by simpa using List.find?_some hfound
      rw [sourceSize, ← hsame, ← not_not.mp hsize]
      exact List.mem_of_find?_eq_some hfound
    refine ⟨h.nodup, fun source => ?_⟩
    rw [List.map_append, List.mem_append, ← h.mem, List.map_singleton, List.mem_singleton]
    exact ⟨.inl, fun hmem => hmem.elim id fun heq => heq ▸ hknown⟩
  · next hnew =>
    cases hrecord
    refine ⟨?_, fun source => ?_⟩
    · rw [List.map_append, List.map_singleton]
      refine h.nodup.append (List.nodup_singleton _) fun sourceId hmem hsame => ?_
      obtain ⟨source, hsource, rfl⟩ := List.mem_map.mp hmem
      simpa [List.mem_singleton.mp hsame] using List.find?_eq_none.mp hnew source hsource
    · rw [List.map_append, List.mem_append, List.mem_append, h.mem]
      rfl

theorem Covers.foldlM (h : Covers sources entries)
    (hfold : more.foldlM recordSource sources = .ok sources') :
    Covers sources' (entries ++ more) := by
  induction more generalizing sources entries with
  | nil =>
    cases hfold
    rw [List.append_nil]
    exact h
  | cons first rest ih =>
    rw [List.foldlM_cons, bind_eq_ok] at hfold
    obtain ⟨recorded, hrecord, hrest⟩ := hfold
    rw [List.append_cons]
    exact ih (h.record hrecord) hrest

/-- Entries that share a source agree on its size. -/
def Consistent (entries : List QueueEntry) : Prop :=
  ∀ entry ∈ entries, ∀ other ∈ entries, entry.source.sourceId = other.source.sourceId →
    entry.source.byteLength = other.source.byteLength

theorem Covers.consistent (h : Covers sources entries) : Consistent entries := by
  intro entry hentry other hother hsame
  have hkeys : entry.sourceSize = other.sourceSize :=
    List.inj_on_of_nodup_map h.nodup ((h.mem _).mpr (List.mem_map_of_mem hentry))
      ((h.mem _).mpr (List.mem_map_of_mem hother)) hsame
  exact congrArg Prod.snd hkeys

theorem Covers.sum_eq (h : Covers sources entries) :
    (sources.map countedBytes).sum = sourceBytes entries := by
  have hsame : (entries.map sourceSize).toFinset = sources.toFinset := by
    ext source
    rw [List.mem_toFinset, List.mem_toFinset, h.mem]
  rw [sourceBytes, hsame, List.sum_toFinset _ (List.Nodup.of_map _ h.nodup)]

theorem Covers.total (h : Covers sources entries)
    (hvalid : validateSourceTotal sources = .ok ()) :
    sourceBytes entries ≤ maxHostQueueSourceBytes := by
  rw [validateSourceTotal, rejectIf_eq_ok, gt_iff_lt, not_lt] at hvalid
  rw [← h.sum_eq]
  exact hvalid

/-! ## Bounds -/

/-- The bounds of the queue. -/
structure Bounded (entries : List QueueEntry) : Prop where
  ids : (entries.map entryId).Nodup
  length : entries.length ≤ maxHostQueueEntries
  sources : Consistent entries
  total : sourceBytes entries ≤ maxHostQueueSourceBytes

theorem bounded_nil : Bounded [] :=
  ⟨List.nodup_nil, Nat.zero_le _, fun _ h => absurd h List.not_mem_nil, Nat.zero_le _⟩

/-- A selection of the entries keeps the bounds. -/
theorem Bounded.of_subset (h : Bounded entries) (hids : (more.map entryId).Nodup)
    (hsub : more ⊆ entries) : Bounded more where
  ids := hids
  length := ((List.Nodup.of_map _ hids).subperm hsub).length_le.trans h.length
  sources := fun entry hentry other hother => h.sources entry (hsub hentry) other (hsub hother)
  total := by
    refine (Finset.sum_le_sum_of_subset fun source hmem => ?_).trans h.total
    rw [List.mem_toFinset] at hmem ⊢
    exact List.map_subset _ hsub hmem

theorem Bounded.of_sublist (h : Bounded entries) (hsub : more.Sublist entries) : Bounded more :=
  h.of_subset (h.ids.sublist (hsub.map _)) hsub.subset

/-! ## Operations -/

variable {queue queue' : HostQueue} {expected : UInt64} {locked : Bool}

/-- The queue gets other entries with the next revision. -/
def Edits (queue : HostQueue) (entries : List QueueEntry) (queue' : HostQueue) : Prop :=
  queue.revision.toNat + 1 < 2 ^ 64 ∧ queue' = ⟨entries, queue.revision + 1⟩

theorem checkRevision_eq_ok {u : Unit} :
    queue.checkRevision expected = .ok u ↔ expected = queue.revision :=
  check_eq_ok

theorem nextRevision_eq_ok {revision : UInt64} :
    queue.nextRevision = .ok revision ↔
      queue.revision.toNat + 1 < 2 ^ 64 ∧ revision = queue.revision + 1 := by
  unfold nextRevision
  split_ifs with h
  · rw [Except.ok.injEq, eq_comm]
    exact (and_iff_right h).symm
  · exact ⟨nofun, fun hnext => absurd hnext.1 h⟩

/-- Appended entries have new identifiers and are covered by the sources. -/
theorem appendEntry_foldlM {seen seen' : List String × Sources}
    (hids : seen.1 = entries.map entryId) (hnodup : seen.1.Nodup)
    (hsources : Covers seen.2 entries) (hfold : more.foldlM appendEntry seen = .ok seen') :
    ((entries ++ more).map entryId).Nodup ∧ Covers seen'.2 (entries ++ more) := by
  induction more generalizing seen entries with
  | nil =>
    cases hfold
    rw [List.append_nil, ← hids]
    exact ⟨hnodup, hsources⟩
  | cons first rest ih =>
    rw [List.foldlM_cons, bind_eq_ok] at hfold
    obtain ⟨recorded, hfirst, hrest⟩ := hfold
    simp only [appendEntry, bind_eq_ok, rejectIf_eq_ok, exists_iff] at hfirst
    obtain ⟨hnew, sources, hrecord, hout⟩ := hfirst
    cases hout
    rw [List.append_cons]
    refine ih ?_ ?_ (hsources.record hrecord) hrest
    · rw [hids, List.map_append]
      rfl
    · exact hnodup.append (List.nodup_singleton _) fun id hold hsame =>
        hnew (List.mem_singleton.mp hsame ▸ hold)

theorem append_eq_ok (h : queue.append expected entries = .ok queue') :
    expected = queue.revision ∧
      (queue' = queue ∨ queue.Edits (queue.entries ++ entries) queue' ∧
        (Bounded queue.entries → Bounded (queue.entries ++ entries))) := by
  unfold append at h
  simp only [bind_eq_ok, exists_iff, checkRevision_eq_ok] at h
  obtain ⟨hrevision, h⟩ := h
  refine ⟨hrevision, ?_⟩
  split_ifs at h
  · cases h
    exact .inl rfl
  · simp only [bind_eq_ok, exists_iff, rejectIf_eq_ok, nextRevision_eq_ok] at h
    obtain ⟨hlength, sources, hsources, seen, hseen, htotal, _, ⟨hnext, rfl⟩, hout⟩ := h
    cases hout
    refine .inr ⟨⟨hnext, rfl⟩, fun hbounded => ?_⟩
    obtain ⟨hids, hcovers⟩ := appendEntry_foldlM rfl hbounded.ids
      (covers_nil.foldlM hsources) hseen
    refine ⟨hids, ?_, hcovers.consistent, hcovers.total htotal⟩
    rw [List.length_append]
    exact not_lt.mp hlength

theorem replaceAll_eq_ok (h : queue.replaceAll expected entries = .ok queue') :
    expected = queue.revision ∧
      (queue' = queue ∧ queue.entries = entries ∨
        queue.Edits entries queue' ∧ Bounded entries) := by
  unfold replaceAll at h
  simp only [bind_eq_ok, exists_iff, checkRevision_eq_ok, rejectIf_eq_ok, not_not] at h
  obtain ⟨hrevision, hlength, hids, sources, hsources, htotal, h⟩ := h
  refine ⟨hrevision, ?_⟩
  split_ifs at h with hsame
  · cases h
    exact .inl ⟨rfl, hsame.symm⟩
  · rw [bind_eq_ok] at h
    obtain ⟨revision, hnext, hout⟩ := h
    obtain ⟨hfits, rfl⟩ := nextRevision_eq_ok.mp hnext
    cases hout
    have hcovers := covers_nil.foldlM hsources
    exact .inr ⟨⟨hfits, rfl⟩, hids, not_lt.mp hlength, hcovers.consistent, hcovers.total htotal⟩

/-- The entries that a list of identifiers looks up. -/
def LooksUp (entries : List QueueEntry) : List String → List QueueEntry → Prop :=
  List.Forall₂ fun id entry => entries.find? (fun entry => entry.entryId = id) = some entry

variable {ids : List String} {found : List QueueEntry}

theorem LooksUp.map_entryId (h : LooksUp entries ids found) : found.map entryId = ids := by
  induction h with
  | nil => rfl
  | cons hentry _ ih =>
    rw [List.map_cons, ih]
    congr
    simpa using List.find?_some hentry

theorem LooksUp.subset (h : LooksUp entries ids found) : found ⊆ entries := by
  induction h with
  | nil => exact List.nil_subset _
  | cons hentry _ ih => exact List.cons_subset.mpr ⟨List.mem_of_find?_eq_some hentry, ih⟩

/-- The identifier of the first entry looks it up. -/
theorem LooksUp.head (h : LooksUp entries ids found) (hlength : ids.length = entries.length)
    (hhead : ∀ entry ∈ entries.head?, ids.head? = some entry.entryId) :
    found.head? = entries.head? := by
  cases entries with
  | nil => rw [List.subset_nil.mp h.subset]
  | cons current =>
    have hfirst := hhead current rfl
    cases h with
    | nil => cases hfirst
    | cons hentry =>
      obtain rfl := Option.some.inj hfirst
      rw [List.find?_cons_of_pos (by simp)] at hentry
      exact hentry.symm

theorem reorderEntry_foldlM {reordered result : List QueueEntry}
    (hfold : ids.foldlM (reorderEntry entries) reordered = .ok result) :
    ∃ found, result = reordered ++ found ∧ LooksUp entries ids found ∧
      ((reordered.map entryId).Nodup → (result.map entryId).Nodup) := by
  induction ids generalizing reordered with
  | nil =>
    cases hfold
    exact ⟨[], (List.append_nil _).symm, .nil, id⟩
  | cons id rest ih =>
    rw [List.foldlM_cons, bind_eq_ok] at hfold
    obtain ⟨extended, hfirst, hrest⟩ := hfold
    unfold reorderEntry at hfirst
    split at hfirst
    · cases hfirst
    · next entry hentry =>
      simp only [bind_eq_ok, rejectIf_eq_ok, exists_iff] at hfirst
      obtain ⟨hunused, hout⟩ := hfirst
      cases hout
      obtain ⟨found, rfl, hfound, hnodup⟩ := ih hrest
      have hid : entry.entryId = id := by simpa using List.find?_some hentry
      refine ⟨entry :: found, (List.append_cons _ _ _).symm, .cons hentry hfound, fun hold => ?_⟩
      refine hnodup ?_
      rw [List.map_append, List.map_singleton, hid]
      refine hold.append (List.nodup_singleton _) fun other hmem hsame => ?_
      obtain ⟨used, hused, rfl⟩ := List.mem_map.mp hmem
      exact hunused ⟨used, hused, List.mem_singleton.mp hsame⟩

/-- A new order is a permutation, and a locked current entry stays at the front. -/
theorem reorder_eq_ok (h : queue.reorder expected ids locked = .ok queue') :
    expected = queue.revision ∧
      (queue' = queue ∨ ∃ entries, queue.Edits entries queue') ∧
      (queue' = queue ∨ queue'.entries.map entryId = ids) ∧
      queue'.entries.Perm queue.entries ∧
      (locked = true → queue'.current = queue.current) := by
  unfold reorder at h
  simp only [bind_eq_ok, exists_iff, checkRevision_eq_ok, rejectIf_eq_ok, not_not] at h
  obtain ⟨hrevision, hlength, hlocked, reordered, hfold, h⟩ := h
  refine ⟨hrevision, ?_⟩
  split_ifs at h with hsame
  · cases h
    exact ⟨.inl rfl, .inl rfl, .refl _, fun _ => rfl⟩
  · rw [bind_eq_ok] at h
    obtain ⟨revision, hnext, hout⟩ := h
    obtain ⟨hfits, rfl⟩ := nextRevision_eq_ok.mp hnext
    cases hout
    obtain ⟨found, rfl, hfound, hnodup⟩ := reorderEntry_foldlM hfold
    refine ⟨.inr ⟨_, hfits, rfl⟩, .inr hfound.map_entryId, ?_, fun hlock => ?_⟩
    · have hsubperm := (List.Nodup.of_map _ (hnodup List.nodup_nil)).subperm hfound.subset
      exact hsubperm.perm_of_length_le (hlength ▸ hfound.length_eq.le)
    · refine hfound.head hlength fun entry hentry => ?_
      by_contra hother
      exact hlocked ⟨hlock, entry, hentry, hother⟩

theorem remove_eq_ok {entryId : String} (h : queue.remove expected entryId locked = .ok queue') :
    expected = queue.revision ∧ ∃ index,
      queue.entries.findIdx? (fun entry => entry.entryId = entryId) = some index ∧
      queue.Edits (queue.entries.eraseIdx index) queue' ∧ (locked = true → index ≠ 0) := by
  unfold remove at h
  simp only [bind_eq_ok, exists_iff, checkRevision_eq_ok] at h
  obtain ⟨hrevision, h⟩ := h
  split at h
  · cases h
  · next index hindex =>
    simp only [bind_eq_ok, exists_iff, rejectIf_eq_ok, nextRevision_eq_ok] at h
    obtain ⟨hunlocked, _, ⟨hfits, rfl⟩, hout⟩ := h
    cases hout
    exact ⟨hrevision, index, hindex, ⟨hfits, rfl⟩, fun hlock hzero => hunlocked ⟨hlock, hzero⟩⟩

theorem completeCurrent_eq_ok (h : queue.completeCurrent expected = .ok queue') :
    expected = queue.revision ∧ queue.entries ≠ [] ∧ queue.Edits queue.entries.tail queue' := by
  unfold completeCurrent at h
  simp only [bind_eq_ok, exists_iff, checkRevision_eq_ok, rejectIf_eq_ok,
    nextRevision_eq_ok, List.isEmpty_iff] at h
  obtain ⟨hrevision, hsome, _, ⟨hfits, rfl⟩, hout⟩ := h
  cases hout
  exact ⟨hrevision, hsome, hfits, rfl⟩

theorem clear_eq_ok (h : queue.clear expected locked = .ok queue') :
    expected = queue.revision ∧
      (queue' = queue ∨ ∃ retained, queue.Edits (queue.entries.take retained) queue') ∧
      (locked = true → queue'.current = queue.current) ∧
      (locked = false → queue'.entries = []) := by
  unfold clear at h
  simp only [bind_eq_ok, exists_iff, checkRevision_eq_ok] at h
  obtain ⟨hrevision, h⟩ := h
  refine ⟨hrevision, ?_⟩
  split_ifs at h with hretained hlength hlength
  · cases h
    exact ⟨.inl rfl, fun _ => rfl, fun hunlocked => absurd hretained.1 (by simp [hunlocked])⟩
  · obtain ⟨revision, hnext, hout⟩ := bind_eq_ok.mp h
    obtain ⟨hfits, rfl⟩ := nextRevision_eq_ok.mp hnext
    cases hout
    refine ⟨.inr ⟨1, hfits, rfl⟩, fun _ => ?_, fun hunlocked => ?_⟩
    · cases hentries : queue.entries <;> simp [current, hentries]
    · exact absurd hretained.1 (by simp [hunlocked])
  · cases h
    exact ⟨.inl rfl, fun _ => rfl, fun _ => List.length_eq_zero_iff.mp hlength⟩
  · obtain ⟨revision, hnext, hout⟩ := bind_eq_ok.mp h
    obtain ⟨hfits, rfl⟩ := nextRevision_eq_ok.mp hnext
    cases hout
    refine ⟨.inr ⟨0, hfits, rfl⟩, fun hlock => ?_, fun _ => rfl⟩
    -- The queue is empty, but then nothing is cleared.
    have hempty : queue.entries.isEmpty = true := by
      by_contra hsome
      exact hretained ⟨hlock, hsome⟩
    rw [List.isEmpty_iff] at hempty
    exact absurd (List.length_eq_zero_iff.mpr hempty) hlength

end HostQueue

/-! ## Runs -/

/-- An operation on the queue, with the revision that it expects. -/
inductive HostQueueOperation
  | append (expectedRevision : UInt64) (entries : List QueueEntry)
  | replaceAll (expectedRevision : UInt64) (entries : List QueueEntry)
  | reorder (expectedRevision : UInt64) (orderedEntryIds : List String) (currentLocked : Bool)
  | remove (expectedRevision : UInt64) (entryId : String) (currentLocked : Bool)
  | completeCurrent (expectedRevision : UInt64)
  | clear (expectedRevision : UInt64) (currentLocked : Bool)

def HostQueueOperation.expectedRevision : HostQueueOperation → UInt64
  | .append expected _ | .replaceAll expected _ | .reorder expected _ _ | .remove expected _ _
  | .completeCurrent expected | .clear expected _ => expected

namespace HostQueue

variable {queue queue' : HostQueue} {operation : HostQueueOperation}

def perform (queue : HostQueue) : HostQueueOperation → Except HostQueueError HostQueue
  | .append expected entries => queue.append expected entries
  | .replaceAll expected entries => queue.replaceAll expected entries
  | .reorder expected orderedEntryIds locked => queue.reorder expected orderedEntryIds locked
  | .remove expected entryId locked => queue.remove expected entryId locked
  | .completeCurrent expected => queue.completeCurrent expected
  | .clear expected locked => queue.clear expected locked

/-- The next revision is greater, and it does not wrap around. -/
theorem Edits.revision_lt {entries : List QueueEntry} (h : queue.Edits entries queue') :
    queue.revision < queue'.revision := by
  obtain ⟨hfits, rfl⟩ := h
  rw [UInt64.lt_iff_toNat_lt, UInt64.toNat_add, UInt64.toNat_one, Nat.mod_eq_of_lt hfits]
  exact Nat.lt_succ_self _

/-- An operation is made on the current revision, and keeps the queue or takes the next one. -/
theorem perform_revision (h : queue.perform operation = .ok queue') :
    operation.expectedRevision = queue.revision ∧
      (queue' = queue ∨ queue.revision < queue'.revision) := by
  cases operation with
  | append =>
    obtain ⟨hrevision, hcases⟩ := append_eq_ok h
    exact ⟨hrevision, hcases.imp id fun hedit => hedit.1.revision_lt⟩
  | replaceAll =>
    obtain ⟨hrevision, hcases⟩ := replaceAll_eq_ok h
    exact ⟨hrevision, hcases.imp And.left fun hedit => hedit.1.revision_lt⟩
  | reorder =>
    obtain ⟨hrevision, hcases, -⟩ := reorder_eq_ok h
    exact ⟨hrevision, hcases.imp id fun ⟨_, hedit⟩ => hedit.revision_lt⟩
  | remove =>
    obtain ⟨hrevision, index, -, hedit, -⟩ := remove_eq_ok h
    exact ⟨hrevision, .inr hedit.revision_lt⟩
  | completeCurrent =>
    obtain ⟨hrevision, -, hedit⟩ := completeCurrent_eq_ok h
    exact ⟨hrevision, .inr hedit.revision_lt⟩
  | clear =>
    obtain ⟨hrevision, hcases, -⟩ := clear_eq_ok h
    exact ⟨hrevision, hcases.imp id fun ⟨_, hedit⟩ => hedit.revision_lt⟩

/-- Every operation keeps the bounds. -/
theorem perform_bounded (h : queue.perform operation = .ok queue')
    (hbounded : Bounded queue.entries) : Bounded queue'.entries := by
  cases operation with
  | append =>
    obtain ⟨-, rfl | ⟨⟨-, rfl⟩, hkept⟩⟩ := append_eq_ok h
    · exact hbounded
    · exact hkept hbounded
  | replaceAll =>
    obtain ⟨-, ⟨rfl, -⟩ | ⟨⟨-, rfl⟩, hnew⟩⟩ := replaceAll_eq_ok h
    · exact hbounded
    · exact hnew
  | reorder =>
    obtain ⟨-, -, -, hperm, -⟩ := reorder_eq_ok h
    exact hbounded.of_subset ((hperm.map _).nodup_iff.mpr hbounded.ids) hperm.subset
  | remove =>
    obtain ⟨-, index, -, ⟨-, rfl⟩, -⟩ := remove_eq_ok h
    exact hbounded.of_sublist (List.eraseIdx_sublist _ _)
  | completeCurrent =>
    obtain ⟨-, -, -, rfl⟩ := completeCurrent_eq_ok h
    exact hbounded.of_sublist (List.tail_sublist _)
  | clear =>
    obtain ⟨-, rfl | ⟨retained, -, rfl⟩, -⟩ := clear_eq_ok h
    · exact hbounded
    · exact hbounded.of_sublist (List.take_sublist _ _)

end HostQueue

/-- The queue under its operations, from the empty queue. A failed operation leaves the queue as it
is: the source makes all checks of an operation and takes the next revision, which may fail last,
before it assigns to the entries or to the revision. -/
def hostQueue : Machine HostQueue HostQueueOperation (Except HostQueueError Unit) where
  init queue := queue = {}
  step queue operation :=
    match queue.perform operation with
    | .ok queue' => (queue', .ok ())
    | .error error => (queue, .error error)

/-- A step performs its operation, or reports why it did not. -/
theorem hostQueue_step (queue : HostQueue) (operation : HostQueueOperation) :
    (∃ queue', queue.perform operation = .ok queue' ∧ hostQueue.next queue operation = queue' ∧
      hostQueue.out queue operation = .ok ()) ∨
    ∃ error, queue.perform operation = .error error ∧ hostQueue.next queue operation = queue ∧
      hostQueue.out queue operation = .error error := by
  unfold Machine.next Machine.out hostQueue
  cases h : queue.perform operation with
  | ok queue' => exact .inl ⟨queue', rfl, by simp [h], by simp [h]⟩
  | error error => exact .inr ⟨error, rfl, by simp [h], by simp [h]⟩

theorem hostQueue_bounded (queue : HostQueue) (operation : HostQueueOperation)
    (h : HostQueue.Bounded queue.entries) :
    HostQueue.Bounded (hostQueue.next queue operation).entries := by
  rcases hostQueue_step queue operation with ⟨queue', hok, rfl, -⟩ | ⟨error, -, hsame, -⟩
  · exact HostQueue.perform_bounded hok h
  · rw [hsame]
    exact h

/-- A step keeps the entries, or takes a greater revision. -/
theorem hostQueue_version (queue : HostQueue) (operation : HostQueueOperation) :
    queue.revision.toNat < (hostQueue.next queue operation).revision.toNat ∨
      (hostQueue.next queue operation).revision.toNat = queue.revision.toNat ∧
        (hostQueue.next queue operation).entries = queue.entries := by
  rcases hostQueue_step queue operation with ⟨queue', hok, hnext, -⟩ | ⟨error, -, hsame, -⟩
  · rw [hnext]
    rcases (HostQueue.perform_revision hok).2 with rfl | hless
    · exact .inr ⟨rfl, rfl⟩
    · exact .inl (UInt64.lt_iff_toNat_lt.mp hless)
  · rw [hsame]
    exact .inr ⟨rfl, rfl⟩

/-- Later states of a run with the same revision have the same entries. -/
theorem entries_of_revision {queue : HostQueue} {operations : List HostQueueOperation}
    (h : (hostQueue.after queue operations).revision = queue.revision) :
    (hostQueue.after queue operations).entries = queue.entries := by
  rcases Machine.version_after hostQueue_version queue operations with hless | ⟨-, hsame⟩
  · rw [h] at hless
    exact absurd hless (lt_irrefl _)
  · exact hsame

/-- **The host queue is bounded and revisioned.** After every sequence of operations on the empty
queue: the bounds hold; a failed operation changes nothing; a change of the entries increases the
revision, so that later states with the same revision have the same entries, and an operation
made on another list is refused; a new order is a permutation that keeps a locked current
entry. -/
theorem host_queue_is_bounded (operations : List HostQueueOperation) :
    let queue := hostQueue.after {} operations
    HostQueue.Bounded queue.entries ∧
      (∀ operation error, hostQueue.out queue operation = .error error →
        hostQueue.next queue operation = queue) ∧
      (∀ operation, (hostQueue.next queue operation).entries ≠ queue.entries →
        queue.revision < (hostQueue.next queue operation).revision) ∧
      (∀ later, (hostQueue.after queue later).revision = queue.revision →
        (hostQueue.after queue later).entries = queue.entries) ∧
      (∀ later operation, (hostQueue.after queue later).entries ≠ queue.entries →
        operation.expectedRevision = queue.revision →
        ∃ error, hostQueue.out (hostQueue.after queue later) operation = .error error) ∧
      ∀ expected orderedEntryIds locked queue',
        queue.reorder expected orderedEntryIds locked = .ok queue' →
        queue'.entries.Perm queue.entries ∧
          (locked = true → queue'.entries[0]? = queue.entries[0]?) := by
  intro queue
  refine ⟨?_, fun operation error hout => ?_, fun operation hchanged => ?_,
    fun later => entries_of_revision, fun later operation hchanged hexpected => ?_,
    fun expected orderedEntryIds locked queue' hreorder => ?_⟩
  · exact Machine.Reachable.invariant (M := hostQueue)
      (I := fun queue => HostQueue.Bounded queue.entries)
      (fun _ hinit => hinit ▸ HostQueue.bounded_nil) hostQueue_bounded ⟨{}, operations, rfl, rfl⟩
  · rcases hostQueue_step queue operation with ⟨queue', -, -, hok⟩ | ⟨-, -, hsame, -⟩
    · cases hok.symm.trans hout
    · exact hsame
  · rcases hostQueue_version queue operation with hless | ⟨-, hsame⟩
    · exact UInt64.lt_iff_toNat_lt.mpr hless
    · exact absurd hsame hchanged
  · rcases hostQueue_step (hostQueue.after queue later) operation with
      ⟨queue', hok, -⟩ | ⟨error, -, -, herror⟩
    · have hcurrent := (HostQueue.perform_revision hok).1
      exact absurd (entries_of_revision (hcurrent.symm.trans hexpected)) hchanged
    · exact ⟨error, herror⟩
  · obtain ⟨-, -, -, hperm, hlocked⟩ := HostQueue.reorder_eq_ok hreorder
    refine ⟨hperm, fun hlock => ?_⟩
    rw [← List.head?_eq_getElem?, ← List.head?_eq_getElem?]
    exact hlocked hlock

end SilentDisco
