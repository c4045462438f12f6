import SilentDisco.Runtime.Actor.Refinement.Deck
import SilentDisco.Runtime.Properties.Queue
import SilentDisco.Runtime.Properties.Snapshot

/-!
# Reserved track boundaries

The reservations track the queue: they are for the first entries to come, in order, at positive
and increasing sample indexes, and the earliest of them is published. So an applied boundary
advances the queue to the entry it was reserved for, and an edit keeps all reservations with
their entries in place, or drops them all.

## Main definitions

* `Deck.Reserves`: the reservations track the queue

## Main results

* `DeckStep.reserves`: every step of the deck keeps that
* `reservations_track_queue`: it holds in every reachable state, with its consequences
-/

namespace SilentDisco

/-- The reservations track the queue. -/
structure Deck.Reserves (d : Deck) : Prop where
  /-- They are for the first entries to come, in order. -/
  aligned : d.reserved.map HostQueueBoundary.entryId <+: d.queue.upcoming.map QueueEntry.entryId
  positive : ∀ boundary ∈ d.reserved, 0 < boundary.firstSampleIndex
  increasing : d.reserved.Pairwise fun boundary later =>
    boundary.firstSampleIndex < later.firstSampleIndex
  /-- The earliest is published. -/
  earliest : d.nextBoundary = d.reserved.head?

namespace Deck

variable {d d' : Deck}

theorem Reserves.of_nil (hreserved : d.reserved = []) (hnext : d.nextBoundary = none) :
    d.Reserves where
  aligned := by
    rw [hreserved]
    exact List.nil_prefix
  positive := by simp [hreserved]
  increasing := by simp [hreserved]
  earliest := by simp [hreserved, hnext]

/-- Only the queue and the reservations matter. -/
theorem Reserves.congr (h : d.Reserves) (hqueue : d'.queue = d.queue)
    (hreserved : d'.reserved = d.reserved) (hnext : d'.nextBoundary = d.nextBoundary) :
    d'.Reserves := by
  obtain ⟨haligned, hpositive, hincreasing, hearliest⟩ := h
  constructor
  · rw [hreserved, hqueue]
    exact haligned
  · rw [hreserved]
    exact hpositive
  · rw [hreserved]
    exact hincreasing
  · rw [hreserved, hnext]
    exact hearliest

/-- The reservations that are kept in an edited queue are for its first entries. -/
theorem Reserves.dropStale (h : d.Reserves) (hreserved : d'.reserved = d.reserved)
    (hnext : d'.nextBoundary = d.nextBoundary) : d'.dropStale.Reserves := by
  unfold Deck.dropStale
  split_ifs with hmatches
  · obtain ⟨-, hpositive, hincreasing, hearliest⟩ := h
    refine ⟨hmatches, ?_, ?_, ?_⟩
    · rw [hreserved]
      exact hpositive
    · rw [hreserved]
      exact hincreasing
    · rw [hreserved, hnext]
      exact hearliest
  · exact .of_nil rfl rfl

theorem Reserves.change (h : d.Reserves) (state : PlaybackState) : (d.change state).Reserves := by
  cases state with
  | playing =>
    unfold Deck.change
    split_ifs
    · exact h.congr rfl rfl rfl
    · exact .of_nil rfl rfl
  | stopped | error => exact .of_nil rfl rfl
  | _ => exact h.congr rfl rfl rfl

/-! ## Applied and new boundaries -/

theorem upcoming_completeCurrent {queue queue' : HostQueue} {expected : UInt64}
    (h : queue.completeCurrent expected = .ok queue') :
    queue'.entries = queue.upcoming ∧ queue'.upcoming = queue.upcoming.drop 1 := by
  obtain ⟨-, -, hedits⟩ := HostQueue.completeCurrent_eq_ok h
  have hentries : queue'.entries = queue.upcoming := by
    rw [hedits.2, HostQueue.upcoming, List.drop_one]
  refine ⟨hentries, ?_⟩
  rw [HostQueue.upcoming, hentries]

/-- An applied boundary leaves the ones after it reserved. -/
theorem Reserves.applied (h : d.Reserves) {queue : HostQueue} {expected : UInt64}
    (hqueue : d.queue.completeCurrent expected = .ok queue) :
    Reserves
      { d with
        queue
        source := queue.current.map QueueEntry.source
        reserved := d.reserved.drop 1
        nextBoundary := (d.reserved.drop 1).head? } where
  aligned := by
    change (d.reserved.drop 1).map _ <+: queue.upcoming.map _
    rw [(upcoming_completeCurrent hqueue).2, List.map_drop, List.map_drop]
    exact h.aligned.drop 1
  positive boundary hmem := h.positive boundary (List.mem_of_mem_drop hmem)
  increasing := h.increasing.sublist (List.drop_sublist 1 d.reserved)
  earliest := rfl

/-- A boundary after the latest one is after all of them. -/
theorem Reserves.lt_of_getLast? (h : d.Reserves) {index : UInt64}
    (hlater : ∀ previous ∈ d.reserved.getLast?, previous.firstSampleIndex < index) :
    ∀ boundary ∈ d.reserved, boundary.firstSampleIndex < index := by
  have hincreasing := h.increasing
  rcases List.eq_nil_or_concat d.reserved with hnil | ⟨init, last, hconcat⟩
  · simp [hnil]
  · rw [List.concat_eq_append] at hconcat
    rw [hconcat, List.pairwise_append] at hincreasing
    have hlast : last.firstSampleIndex < index := hlater last (by simp [hconcat])
    intro boundary hmem
    rw [hconcat, List.mem_append, List.mem_singleton] at hmem
    rcases hmem with hinit | rfl
    · have hbefore := hincreasing.2.2 boundary hinit last (List.mem_singleton_self last)
      exact UInt64.lt_trans hbefore hlast
    · exact hlast

/-- A new boundary is reserved for the first entry without one. -/
theorem Reserves.scheduled (h : d.Reserves) {boundary : HostQueueBoundary}
    (hnext : d.queue.upcoming[d.reserved.length]?.map QueueEntry.entryId = some boundary.entryId)
    (hpositive : boundary.firstSampleIndex ≠ 0)
    (hlater : ∀ previous ∈ d.reserved.getLast?,
      previous.firstSampleIndex < boundary.firstSampleIndex) :
    Reserves
      { d with
        reserved := d.reserved ++ [boundary]
        nextBoundary := (d.reserved ++ [boundary]).head? } where
  aligned := by
    have htake := List.prefix_iff_eq_take.mp h.aligned
    rw [List.length_map] at htake
    change (d.reserved ++ [boundary]).map _ <+: _
    rw [List.map_append, htake, List.map_singleton]
    have hid : (d.queue.upcoming.map QueueEntry.entryId)[d.reserved.length]?.toList =
        [boundary.entryId] := by
      rw [List.getElem?_map, hnext]
      rfl
    rw [← hid, ← List.take_add_one]
    exact List.take_prefix _ _
  positive other hmem := by
    rcases List.mem_append.mp hmem with hmem | hmem
    · exact h.positive other hmem
    · rw [List.mem_singleton.mp hmem]
      exact UInt64.pos_iff_ne_zero.mpr hpositive
  increasing := by
    refine List.pairwise_append.mpr ⟨h.increasing, List.pairwise_singleton _ _, ?_⟩
    intro other hmem later hlaterMem
    rw [List.mem_singleton.mp hlaterMem]
    exact h.lt_of_getLast? hlater other hmem
  earliest := rfl

/-- Audio events keep the reservations on track. -/
theorem Plays.reserves {event : AudioEvent} (h : d.Plays event d') (hd : d.Reserves) :
    d'.Reserves := by
  cases h with
  | changed state => exact hd.change state
  | advanced => exact hd.congr rfl rfl rfl
  | started => exact (hd.change .playing).congr rfl rfl rfl
  | applied _ _ _ _ _ hqueue => exact hd.applied hqueue
  | scheduledAgain => exact hd
  | scheduled _ _ _ hnext hpositive hlater =>
    exact hd.scheduled hnext hpositive hlater
  | synchronized => exact hd
  | exhausted | finished | underran | failed => exact .of_nil rfl rfl

end Deck

variable {s : ActorState}

/-- Every step of the deck keeps the reservations on track. -/
theorem DeckStep.reserves {input : CoreActorInput} {d : Deck} (h : DeckStep s input d)
    (hs : s.deck.Reserves) : d.Reserves := by
  cases h with
  | kept => exact hs
  | edited => exact hs.dropStale rfl rfl
  | cleared => exact .of_nil rfl rfl
  | redrafted _ _ _ _ queue =>
    have hedited : ({ s.deck with queue } : Deck).dropStale.Reserves := hs.dropStale rfl rfl
    exact hedited.congr rfl rfl rfl
  | sessionReset | networkReleased => exact .of_nil rfl rfl
  | sessionEnded => exact hs.congr rfl rfl rfl
  | played _ _ hplays => exact hplays.reserves hs

theorem reserves_of_reachable (hs : actor.Reachable s) : s.deck.Reserves :=
  ActorState.deck_of_reachable (fun _ _ => .of_nil rfl rfl) (fun _ _ hd => hd.congr rfl rfl rfl)
    (fun _ _ _ hstep hd => hstep.reserves hd) hs

/-! ## Edits and advances -/

/-- A command keeps all reservations or drops them all. -/
theorem DeckStep.reserved_of_command {operationId : OperationId} {request : CoreCommandRequest}
    {d : Deck} (h : DeckStep s (.command operationId request) d) :
    d.reserved = s.deck.reserved ∨ d.reserved = [] := by
  have hstale : ∀ d : Deck, d.reserved = s.deck.reserved →
      d.dropStale.reserved = s.deck.reserved ∨ d.dropStale.reserved = [] := by
    intro d hd
    unfold Deck.dropStale
    split_ifs
    · exact .inl hd
    · exact .inr rfl
  cases h with
  | kept => exact .inl rfl
  | edited => exact hstale _ rfl
  | cleared => exact .inr rfl
  | redrafted _ _ _ entries queue =>
    exact hstale { s.deck with queue } rfl

/-- An applied boundary that changes the queue was the earliest reservation. -/
theorem DeckStep.advances {entryId : String} {index : UInt64} {d : Deck}
    (h : DeckStep s (.audio (.trackBoundaryApplied entryId index)) d)
    (hchanged : d.queue ≠ s.deck.queue) :
    s.deck.reserved.head? = some ⟨entryId, index⟩ ∧
      d.queue.entries = s.deck.queue.upcoming ∧
      d.queue.current.map QueueEntry.entryId = some entryId ∧
      d.reserved = s.deck.reserved.drop 1 := by
  cases h with
  | kept => exact absurd rfl hchanged
  | played _ _ hplays =>
    cases hplays with
    | applied _ queue _ hnext hreserved hqueue =>
      obtain ⟨hentries, -⟩ := Deck.upcoming_completeCurrent hqueue
      refine ⟨hreserved, hentries, ?_, rfl⟩
      change queue.entries.head?.map _ = _
      rw [hentries]
      exact hnext

/-- **The reservations track the queue.** In every reachable state they are for the first
entries to come, in order, at positive and increasing sample indexes, and the earliest is
published. An applied boundary that changes the queue was the earliest reservation, and makes
its entry current. A command keeps the reservations with their entries in place, or drops them
all. -/
theorem reservations_track_queue (hs : actor.Reachable s) :
    s.deck.Reserves ∧
    (∀ entryId index,
      let s' := actor.next s (.input (.audio (.trackBoundaryApplied entryId index)))
      s'.snapshot.hostQueue ≠ s.snapshot.hostQueue →
        s.pendingHostBoundaries.head? = some ⟨entryId, index⟩ ∧
        s'.snapshot.hostQueue.entries = s.snapshot.hostQueue.upcoming ∧
        s'.snapshot.hostQueue.current.map QueueEntry.entryId = some entryId ∧
        s'.pendingHostBoundaries = s.pendingHostBoundaries.drop 1) ∧
    ∀ operationId request,
      let s' := actor.next s (.input (.command operationId request))
      s'.pendingHostBoundaries = [] ∨
        s'.pendingHostBoundaries = s.pendingHostBoundaries ∧
        s.pendingHostBoundaries.map HostQueueBoundary.entryId <+:
          s'.snapshot.hostQueue.upcoming.map QueueEntry.entryId := by
  refine ⟨reserves_of_reachable hs, fun entryId index => ?_, fun operationId request => ?_⟩
  · intro s' hchanged
    rcases s.receive_deck (.input (.audio (.trackBoundaryApplied entryId index))) with
      hsame | ⟨d, revision, hstep, hdeck⟩
    · exact absurd (congrArg (fun s => s.snapshot.hostQueue) hsame) hchanged
    · have hqueue : s'.snapshot.hostQueue = d.queue := congrArg Deck.queue hdeck
      have hreserved : s'.pendingHostBoundaries = d.reserved := congrArg Deck.reserved hdeck
      rw [hqueue] at hchanged ⊢
      rw [hreserved]
      exact hstep.advances hchanged
  · intro s'
    have hreserves : s'.deck.Reserves := reserves_of_reachable (hs.next _)
    rcases s.receive_deck (.input (.command operationId request)) with
      hsame | ⟨d, revision, hstep, hdeck⟩
    · have hkept : s' = s := hsame
      rw [hkept] at hreserves ⊢
      exact .inr ⟨rfl, hreserves.aligned⟩
    · have hreserved : s'.pendingHostBoundaries = d.reserved := congrArg Deck.reserved hdeck
      rcases hstep.reserved_of_command with hsame | hnil
      · have hkept : s'.pendingHostBoundaries = s.pendingHostBoundaries := hreserved.trans hsame
        exact .inr ⟨hkept, hkept ▸ hreserves.aligned⟩
      · exact .inl (hreserved.trans hnil)

namespace Scenario

/-- The host queues a second track and starts to play without listeners. -/
def playing : List ActorMessage :=
  hosting .manual ++
    [command 4 (.appendHostQueue 1 [⟨"entry-2", ⟨"source-2", "Next", some 1000, none⟩⟩]),
      .input (.audio (.playbackStateChanged .playing))]

/-- The boundary to the second track. -/
def scheduled : ActorMessage := .input (.audio (.trackBoundaryScheduled "entry-2" 480))

end Scenario

open Scenario in
theorem reservations_track_queue_scheduled :
    (actor.after device (playing ++ [scheduled])).pendingHostBoundaries = [⟨"entry-2", 480⟩] ∧
      (actor.after device (playing ++ [scheduled])).deck.Reserves :=
  ⟨by decide, (reservations_track_queue (reachable _)).1⟩

end SilentDisco
