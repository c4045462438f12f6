import SilentDisco.Audio.Packetizer
import SilentDisco.Runtime.Playlist

/-!
# Live playlist edits

The state that the playlist worker shares with the updater, and the regions in which either of
them holds its lock. The updater leaves the latest accepted edit; the worker takes it, and may
close the state only while no edit is pending.

## Main definitions

* `StreamingPlaylistTrackFactory`: an upcoming track, whose identity fits the wire
* `PlaylistUpdateState`: the shared state
* `PlaylistUpdateState.replaceUpcoming`: an edit
* `PlaylistUpdateState.applyPlaylistUpdate`, `sealFinalTrackIfUnmodified`,
  `promoteCurrentEntryIfUnmodified`, `close`: the worker's lock regions
-/

namespace SilentDisco

open Result

inductive PacketizerWorkerState
  | running | completed | cancelled | failed
  deriving DecidableEq

inductive PacketizerWorkerErrorKind
  | source | packetize | cancelled | workerPanicked
  deriving DecidableEq

structure PacketizerWorkerError where
  kind : PacketizerWorkerErrorKind
  message : String
  deriving DecidableEq

/-- A failure of the packetizer as a failure of its worker. -/
def PacketizerWorkerError.ofPacketizer (error : PacketizerError) : PacketizerWorkerError :=
  ⟨.packetize, error.message⟩

structure PacketizerSummary where
  state : PacketizerWorkerState
  emittedPackets : UInt64
  backpressureEvents : UInt64
  deriving DecidableEq

def defaultPacketizerQueueCapacity : ℕ := 32
def maxPacketizerQueueCapacity : ℕ := 256

structure StreamingPacketizeConfig where
  packetDurationMs : UInt32 := defaultPacketDurationMs
  queueCapacity : ℕ := defaultPacketizerQueueCapacity
  deriving DecidableEq

def StreamingPacketizeConfig.validate (config : StreamingPacketizeConfig) :
    Except PacketizerWorkerError Unit :=
  check (1 ≤ config.queueCapacity ∧ config.queueCapacity ≤ maxPacketizerQueueCapacity)
    (.mk .packetize ("packetizer queue capacity must be between 1 and " ++
      toString maxPacketizerQueueCapacity ++ " frames"))

/-- The identity of a track fits the queue and the wire. -/
def validateTrackIdentity (entryId displayName : String) : Except PacketizerWorkerError Unit :=
  rejectIf (entryId = "" ∨ entryId.utf8ByteSize > maxQueueEntryIdBytes ∨
      entryId.utf8ByteSize > Protocol.maxProtocolStringBytes ∨ trim entryId ≠ entryId ∨
      entryId.toList.any isControl ∨ displayName = "" ∨
      displayName.utf8ByteSize > Protocol.maxDisplayNameBytes)
    (.mk .packetize "playlist track identity exceeds protocol bounds")

/-- An open decoder, with the format that it announces. -/
structure StreamingDecodeHandle where
  format : AudioFormat
  deriving DecidableEq

/-- An upcoming track, and what opening it results in: its decoder is opened at most once. -/
structure StreamingPlaylistTrackFactory where
  entryId : String
  displayName : String
  opened : Except DecodeError StreamingDecodeHandle
  valid : validateTrackIdentity entryId displayName = .ok ()
  deriving DecidableEq

/-- The entry and the name under which a track is announced. -/
def StreamingPlaylistTrackFactory.identity (track : StreamingPlaylistTrackFactory) :
    String × String := (track.entryId, track.displayName)

structure PlaylistUpdateState where
  currentEntryId : String
  /-- The entries that were current before. -/
  retiredEntryIds : List String
  /-- The current entry, if its boundary was reserved with the actor. -/
  reservationShadowEntryId : Option String
  /-- The latest accepted edit that the worker has not taken. -/
  pending : Option (List StreamingPlaylistTrackFactory)
  terminal : Bool
  deriving DecidableEq

/-- The bounds of the queue, with the current entry in it. -/
def validatePlaylistEntries (currentEntryId : Option String)
    (upcoming : List StreamingPlaylistTrackFactory) : Except PacketizerWorkerError Unit := do
  rejectIf (upcoming.length ≥ maxHostQueueEntries) (.mk .packetize
    ("playlist exceeds the " ++ toString maxHostQueueEntries ++ "-entry queue limit"))
  check (currentEntryId.toList ++ upcoming.map (·.entryId)).Nodup (.mk .packetize
    "playlist contains duplicate entry IDs")

namespace PlaylistUpdateState

variable (state : PlaylistUpdateState)

/-- The bounds of the queue, and no entry that was current before. -/
def validatePlaylistUpdate (upcoming : List StreamingPlaylistTrackFactory) :
    Except PacketizerWorkerError Unit := do
  validatePlaylistEntries (some state.currentEntryId) upcoming
  rejectIf (∃ track ∈ upcoming, track.entryId ∈ state.retiredEntryIds) (.mk .packetize
    "playlist contains duplicate entry IDs from already played tracks")

/-- An edit may repeat the reserved current entry in front. -/
def withoutShadow (upcoming : List StreamingPlaylistTrackFactory) :
    List StreamingPlaylistTrackFactory :=
  match state.reservationShadowEntryId, upcoming with
  | some shadow, first :: rest => if first.entryId = shadow then rest else upcoming
  | _, _ => upcoming

def terminated : PacketizerWorkerError :=
  ⟨.cancelled, "playlist packetizer has already terminated"⟩

/-- An edit of the upcoming tracks. -/
def replaceUpcoming (upcoming : List StreamingPlaylistTrackFactory) :
    Except PacketizerWorkerError Unit × PlaylistUpdateState :=
  if state.terminal then (.error terminated, state)
  else
    match state.validatePlaylistUpdate (state.withoutShadow upcoming) with
    | .error error => (.error error, state)
    | .ok () => (.ok (), { state with pending := some (state.withoutShadow upcoming) })

/-- Take the pending edit, if there is one, and check it against the current entry. -/
def applyPlaylistUpdate (upcoming : List StreamingPlaylistTrackFactory) :
    Except PacketizerWorkerError (List StreamingPlaylistTrackFactory) × PlaylistUpdateState :=
  match state.pending with
  | none => (.ok upcoming, state)
  | some replacement =>
    ((state.validatePlaylistUpdate replacement).map fun _ => replacement,
      { state with pending := none })

/-- Close the state, unless an edit is pending. -/
def sealFinalTrackIfUnmodified : Bool × PlaylistUpdateState :=
  if state.pending.isSome then (false, state) else (true, { state with terminal := true })

/-- Make an entry current, unless an edit is pending. -/
def promoteCurrentEntryIfUnmodified (entryId : String) (reserved : Bool) :
    Bool × PlaylistUpdateState :=
  if state.pending.isSome then (false, state)
  else
    (true,
      { state with
        currentEntryId := entryId
        retiredEntryIds :=
          if state.currentEntryId = entryId then state.retiredEntryIds
          else state.retiredEntryIds.insert state.currentEntryId
        reservationShadowEntryId := if reserved then some entryId else none })

/-- The terminal guard of the worker. -/
def close : PlaylistUpdateState := { state with terminal := true, pending := none }

variable {state} {upcoming : List StreamingPlaylistTrackFactory}

/-- A closed state accepts no edit. -/
theorem replaceUpcoming_terminal (h : state.terminal = true) :
    state.replaceUpcoming upcoming = (.error terminated, state) := if_pos h

/-- An accepted edit is pending. -/
theorem replaceUpcoming_eq_ok (h : (state.replaceUpcoming upcoming).1 = .ok ()) :
    state.terminal = false ∧ (state.replaceUpcoming upcoming).2 =
      { state with pending := some (state.withoutShadow upcoming) } := by
  unfold replaceUpcoming at h ⊢
  split_ifs at h ⊢ with hterminal
  split at h
  · cases h
  · exact ⟨eq_false_of_ne_true hterminal, rfl⟩

end PlaylistUpdateState

end SilentDisco
