import SilentDisco.Runtime.Types

/-!
# Host queue

The ordered playlist of a host session, with the current item at the front. Every operation
names the revision it expects and either changes the whole queue or leaves it alone.

## Main definitions

* `HostQueue`, `HostQueueError`: the queue and its failures
* `HostQueue.append`, `replaceAll`, `reorder`, `remove`, `completeCurrent`, `clear`: operations
-/

namespace SilentDisco

open Result

def maxSourceBytes : UInt64 := 8 * 1024 * 1024 * 1024
def maxHostQueueEntries : ℕ := 100
def maxHostQueueSourceBytes : ℕ := 16 * 1024 * 1024 * 1024

structure QueueEntry where
  entryId : String
  source : AudioSourceDescriptor
  deriving DecidableEq

inductive HostQueueError
  | invalidEntryId | duplicateEntryId | capacityExceeded | sourceCapacityExceeded
  | inconsistentSourceMetadata | invalidOrder | currentEntryLocked | entryNotFound
  | staleRevision (expected current : UInt64)
  | revisionExhausted
  deriving DecidableEq

def HostQueueError.message : HostQueueError → String
  | .invalidEntryId => "queue entry ID is invalid"
  | .duplicateEntryId => "queue entry ID already exists"
  | .capacityExceeded => "host queue is at its entry limit"
  | .sourceCapacityExceeded => "host queue sources exceed the total size limit"
  | .inconsistentSourceMetadata => "queue entries disagree about a shared source"
  | .invalidOrder => "queue order does not match its entries"
  | .currentEntryLocked => "the current queue entry is locked"
  | .entryNotFound => "queue entry was not found"
  | .staleRevision expected current =>
    "queue revision changed (expected " ++ toString expected.toNat ++ ", current " ++
      toString current.toNat ++ ")"
  | .revisionExhausted => "queue revision is exhausted"

def maxQueueEntryIdBytes : ℕ := 128

/-- Build an entry; its identifier is bounded, unpadded text without control characters. -/
def QueueEntry.new (entryId : String) (source : AudioSourceDescriptor) :
    Except HostQueueError QueueEntry := do
  validateHumanText entryId maxQueueEntryIdBytes .invalidEntryId
  return { entryId, source }

/-- The current entry is at the front; every entry has its own identifier. -/
structure HostQueue where
  entries : List QueueEntry := []
  revision : UInt64 := 0
  deriving DecidableEq

namespace HostQueue

/-- The distinct sources of a list of entries, with the length each was first seen with. -/
abbrev Sources := List (String × Option UInt64)

variable (queue : HostQueue)

def current : Option QueueEntry := queue.entries.head?

/-- The entries after the current one. -/
def upcoming : List QueueEntry := queue.entries.drop 1

def checkRevision (expected : UInt64) : Except HostQueueError Unit :=
  check (expected = queue.revision) (.staleRevision expected queue.revision)

def nextRevision : Except HostQueueError UInt64 :=
  if queue.revision.toNat + 1 < 2 ^ 64 then .ok (queue.revision + 1) else .error .revisionExhausted

/-- Record an entry's source; entries that share a source must agree on its length. -/
def recordSource (sources : Sources) (entry : QueueEntry) : Except HostQueueError Sources :=
  match sources.find? fun source => source.1 = entry.source.sourceId with
  | some (_, knownSize) =>
    if knownSize ≠ entry.source.byteLength then .error .inconsistentSourceMetadata
    else .ok sources
  | none => .ok (sources ++ [(entry.source.sourceId, entry.source.byteLength)])

/-- The total size of the distinct sources is bounded; an unknown length counts as the largest.
The 64-bit running sum can overflow only beyond the bound. -/
def validateSourceTotal (sources : Sources) : Except HostQueueError Unit :=
  rejectIf ((sources.map fun source => (source.2.getD maxSourceBytes).toNat).sum >
    maxHostQueueSourceBytes) .sourceCapacityExceeded

/-- One appended entry: its identifier is new, and its source is consistent. -/
def appendEntry (seen : List String × Sources) (entry : QueueEntry) :
    Except HostQueueError (List String × Sources) := do
  rejectIf (entry.entryId ∈ seen.1) .duplicateEntryId
  let sources ← recordSource seen.2 entry
  return (seen.1 ++ [entry.entryId], sources)

variable (expectedRevision : UInt64)

/-- Add entries at the end as one revision. -/
def append (entries : List QueueEntry) : Except HostQueueError HostQueue := do
  queue.checkRevision expectedRevision
  if entries.isEmpty then return queue
  else
    rejectIf (queue.entries.length + entries.length > maxHostQueueEntries) .capacityExceeded
    let sources ← queue.entries.foldlM recordSource []
    let seen ← entries.foldlM appendEntry (queue.entries.map QueueEntry.entryId, sources)
    validateSourceTotal seen.2
    let revision ← queue.nextRevision
    return { entries := queue.entries ++ entries, revision }

/-- Replace every entry as one revision; replacing the entries by themselves changes nothing. -/
def replaceAll (entries : List QueueEntry) : Except HostQueueError HostQueue := do
  queue.checkRevision expectedRevision
  rejectIf (entries.length > maxHostQueueEntries) .capacityExceeded
  rejectIf (¬(entries.map QueueEntry.entryId).Nodup) .duplicateEntryId
  let sources ← entries.foldlM recordSource []
  validateSourceTotal sources
  if entries = queue.entries then return queue
  else
    let revision ← queue.nextRevision
    return { entries, revision }

/-- The next entry of a new order: it exists and was not used before. -/
def reorderEntry (entries reordered : List QueueEntry) (entryId : String) :
    Except HostQueueError (List QueueEntry) :=
  match entries.find? fun entry => entry.entryId = entryId with
  | none => .error .invalidOrder
  | some entry => do
    rejectIf (∃ used ∈ reordered, used.entryId = entryId) .invalidOrder
    return reordered ++ [entry]

/-- Replace the complete order; a locked current entry stays at the front. -/
def reorder (orderedEntryIds : List String)
    (currentLocked : Bool) : Except HostQueueError HostQueue := do
  queue.checkRevision expectedRevision
  rejectIf (orderedEntryIds.length ≠ queue.entries.length) .invalidOrder
  rejectIf (currentLocked ∧ ∃ entry ∈ queue.current,
    orderedEntryIds.head? ≠ some entry.entryId) .currentEntryLocked
  let reordered ← orderedEntryIds.foldlM (reorderEntry queue.entries) []
  if reordered = queue.entries then return queue
  else
    let revision ← queue.nextRevision
    return { entries := reordered, revision }

/-- Remove one entry; the locked current entry cannot be removed. -/
def remove (entryId : String) (currentLocked : Bool) : Except HostQueueError HostQueue := do
  queue.checkRevision expectedRevision
  match queue.entries.findIdx? fun entry => entry.entryId = entryId with
  | none => .error .entryNotFound
  | some index => do
    rejectIf (currentLocked ∧ index = 0) .currentEntryLocked
    let revision ← queue.nextRevision
    return { entries := queue.entries.eraseIdx index, revision }

/-- Drop the current entry and promote the next one. -/
def completeCurrent : Except HostQueueError HostQueue := do
  queue.checkRevision expectedRevision
  rejectIf queue.entries.isEmpty .entryNotFound
  let revision ← queue.nextRevision
  return { entries := queue.entries.tail, revision }

/-- Clear the queue, except for a locked current entry. -/
def clear (currentLocked : Bool) : Except HostQueueError HostQueue := do
  queue.checkRevision expectedRevision
  let retained := if currentLocked ∧ ¬queue.entries.isEmpty then 1 else 0
  if queue.entries.length = retained then return queue
  else
    let revision ← queue.nextRevision
    return { entries := queue.entries.take retained, revision }

end HostQueue

end SilentDisco
