import SilentDisco.Runtime.Properties.Reservations

/-!
# The playing track

While a host session plays, pauses, buffers or recovers from an underrun, only an applied
boundary, the end of the stream and the end of the session change the current entry. The draft
is an exception: a failed transport leaves playback as it is, and the draft of a failed session
may name another source. Otherwise the draft names the source of the current entry: every input
that changes the queue or the draft changes the other with it.

## Main definitions

* `ActorState.Locked`: the current entry is being played
* `LocksCurrent`: a locked entry stays current
* `Deck.Aliased`: the draft names the source of the current entry
* `SparesFailedTrack`: the draft of a failed session keeps the source of a locked entry

## Main results

* `current_is_locked`: a locked entry stays current along every run that spares failed tracks
* `source_follows_queue`: the draft names the source in every reachable state
-/

namespace SilentDisco

open Result

/-- The entry at the front of the queue is being played by an active session. -/
def ActorState.Locked (s : ActorState) : Prop :=
  s.hostSessionId ≠ none ∧ s.currentLocked = true ∧ s.snapshot.hostQueue.entries ≠ []

instance (s : ActorState) : Decidable s.Locked := inferInstanceAs (Decidable (_ ∧ _))

/-- The inputs that end a track: its successor begins, its stream ends, or its session does. -/
def CoreActorInput.endsTrack : CoreActorInput → Bool
  | .audio (.trackBoundaryApplied _ _) | .audio (.endOfStream _)
  | .platform (.operationSucceeded _ .advertisingStopped) => true
  | _ => false

/-- A locked entry stays current, unless the message ends its track. -/
def LocksCurrent (s : ActorState) (message : ActorMessage) : Prop :=
  s.Locked → message.asInput.endsTrack = false →
    (actor.next s message).snapshot.hostQueue.current = s.snapshot.hostQueue.current

instance (s : ActorState) (message : ActorMessage) : Decidable (LocksCurrent s message) :=
  inferInstanceAs (Decidable (_ → _ → _))

/-- No draft sets or clears the source while the session has failed with a locked entry. -/
def SparesFailedTrack (s : ActorState) (message : ActorMessage) : Prop :=
  match message with
  | .input (.command _ ⟨_, .updateHostDraft patch⟩) =>
    s.Locked → s.snapshot.hostLifecycle = .error → patch.audioSource = .unchanged
  | _ => True

/-! ## The current entry of a queue -/

namespace HostQueue

variable {queue queue' : HostQueue} {expected : UInt64}

theorem current_append {entries : List QueueEntry} (h : queue.append expected entries = .ok queue')
    (hsome : queue.entries ≠ []) : queue'.current = queue.current := by
  obtain ⟨-, rfl | ⟨hedits, -⟩⟩ := append_eq_ok h
  · rfl
  · rw [current, hedits.2, List.head?_append_of_ne_nil _ hsome, current]

theorem current_remove {entryId : String} (h : queue.remove expected entryId true = .ok queue') :
    queue'.current = queue.current := by
  obtain ⟨-, index, -, hedits, hlocked⟩ := remove_eq_ok h
  obtain ⟨later, rfl⟩ := Nat.exists_eq_succ_of_ne_zero (hlocked rfl)
  rw [current, hedits.2, current]
  cases queue.entries <;> rfl

end HostQueue

theorem QueueEdit.current_eq {s : ActorState} {command : CoreCommand} {queue : HostQueue}
    (h : QueueEdit s command queue) (hlocked : s.currentLocked = true)
    (hsome : s.snapshot.hostQueue.entries ≠ []) : queue.current = s.snapshot.hostQueue.current := by
  cases h with
  | appended _ _ _ hqueue => exact HostQueue.current_append hqueue hsome
  | reordered _ _ _ hqueue =>
    exact (HostQueue.reorder_eq_ok hqueue).2.2.2.2 hlocked
  | removed _ _ _ hqueue =>
    rw [hlocked] at hqueue
    exact HostQueue.current_remove hqueue

/-! ## The current entry of the deck -/

namespace Deck

variable {d d' : Deck} {event : AudioEvent}

theorem queue_dropStale (d : Deck) : d.dropStale.queue = d.queue := by
  unfold dropStale
  split_ifs <;> rfl

theorem queue_change (d : Deck) (state : PlaybackState) : (d.change state).queue = d.queue := by
  cases state with
  | playing =>
    unfold change
    split_ifs <;> rfl
  | _ => rfl

/-- Only the end of a track changes the queue that is played. -/
theorem Plays.queue_eq (h : d.Plays event d')
    (hplays : (CoreActorInput.audio event).endsTrack = false) : d'.queue = d.queue := by
  cases h with
  | changed state => exact d.queue_change state
  | started => exact d.queue_change .playing
  | applied | exhausted | finished => cases hplays
  | _ => rfl

end Deck

/-- A step keeps a locked entry, unless it ends the track or names a source for an idle or a
failed session. -/
theorem DeckStep.current_eq {s : ActorState} {input : CoreActorInput} {d : Deck}
    (h : DeckStep s input d) (hlocked : s.currentLocked = true)
    (hsome : s.snapshot.hostQueue.entries ≠ []) (hkeeps : input.endsTrack = false)
    (hactive : s.snapshot.hostLifecycle ≠ .idle)
    (hspares : ∀ operationId revision patch,
      input = .command operationId ⟨revision, .updateHostDraft patch⟩ →
      s.snapshot.hostLifecycle = .error → patch.audioSource = .unchanged) :
    d.queue.current = s.snapshot.hostQueue.current := by
  cases h with
  | kept => rfl
  | edited _ _ _ _ hedit =>
    rw [Deck.queue_dropStale]
    exact hedit.current_eq hlocked hsome
  | cleared _ _ _ _ _ hqueue =>
    exact (HostQueue.clear_eq_ok hqueue).2.2.1 hlocked
  | redrafted operationId revision patch _ _ hpatch heditable =>
    rcases heditable with hidle | herror | hstopped
    · exact absurd hidle hactive
    · exact absurd (hspares operationId revision patch rfl herror) hpatch
    · simp [ActorState.currentLocked, hstopped] at hlocked
  | sessionReset => cases hkeeps
  | networkReleased | sessionEnded => rfl
  | played _ _ hplays => exact congrArg HostQueue.current (hplays.queue_eq hkeeps)

/-! ## Active sessions -/

/-- The lifecycle of an active session is not idle. -/
def Core.Engaged (c : Core) : Prop := c.session ≠ none → c.lifecycle ≠ .idle

theorem Core.Step.engaged {c c' : Core} {input : CoreActorInput}
    {requests : List TransportEffectRequest} (h : c.Step input c' requests) (hc : c.Engaged) :
    c'.Engaged := by
  cases h with
  | created | retried | ended | advertisingStarted | advertisingFailed => exact fun _ => nofun
  | advertisingStopped => exact fun hsession => absurd rfl hsession
  | transportChanged _ _ hlifecycle | listenerDisconnected _ _ _ hlifecycle =>
    rcases hlifecycle with rfl | ⟨-, rfl⟩
    · exact hc
    · exact fun _ => nofun
  | listenerConnected =>
    intro hsession hidle
    change (if c.lifecycle = .waitingForListeners then HostLifecycle.ready else c.lifecycle) = _
      at hidle
    split_ifs at hidle
    exact hc hsession hidle
  | transportFailed _ _ hlifecycle =>
    rcases hlifecycle with rfl | rfl
    · exact hc
    · exact fun _ => nofun
  | audio _ lifecycle _ hlifecycle =>
    rintro hsession (rfl : lifecycle = .idle)
    rcases hlifecycle with hsame | ⟨-, -, herror | ⟨-, hadmits⟩ | ⟨-, hadmits⟩⟩
    · exact hc hsession hsame.symm
    · cases herror
    · simp [HostLifecycle.AdmitsListeners] at hadmits
    · simp [HostLifecycle.AdmitsListeners] at hadmits
  | _ => exact hc

theorem engaged_of_reachable {s : ActorState} (hs : actor.Reachable s) : s.core.Engaged := by
  refine hs.invariant (I := fun s => s.core.Engaged) ?_
    (ActorState.core_invariant fun c input c' requests hc hstep => hstep.engaged hc)
  rintro _ ⟨localDeviceId, sessionIdNamespace, rfl⟩
  exact fun hsession => absurd rfl hsession

/-! ## Runs -/

theorem locksCurrent_of_reachable {s : ActorState} (hs : actor.Reachable s)
    (message : ActorMessage) (hspares : SparesFailedTrack s message) : LocksCurrent s message := by
  rintro ⟨hsession, hlocked, hsome⟩ hkeeps
  rcases s.receive_deck message with hsame | ⟨d, revision, hstep, hdeck⟩
  · rw [hsame]
  · have hqueue : (actor.next s message).snapshot.hostQueue = d.queue := congrArg Deck.queue hdeck
    rw [hqueue]
    refine hstep.current_eq hlocked hsome hkeeps (engaged_of_reachable hs hsession) ?_
    intro operationId revision patch hinput
    obtain rfl := ActorMessage.eq_of_asInput hinput (by simp)
    exact hspares ⟨hsession, hlocked, hsome⟩

/-- **The playing track is locked.** Along every run in which no draft sets or clears the source
of a failed session with a locked entry, a locked entry stays current until its track ends. -/
theorem current_is_locked {s : ActorState} (hs : actor.init s) (messages : List ActorMessage)
    (h : actor.Along SparesFailedTrack s messages) : actor.Along LocksCurrent s messages :=
  Machine.along_of_invariant (I := actor.Reachable)
    (fun _ message hs hspares => ⟨locksCurrent_of_reachable hs message hspares, hs.next message⟩)
    (.of_init hs) h

namespace Scenario

/-- The draft names another source. -/
def redrafting (revision : UInt64) : ActorMessage :=
  command revision (.updateHostDraft { audioSource := .set ⟨"source-3", "Other", some 1000, none⟩ })

/-- The transport of the playing host fails. -/
def failing : List ActorMessage :=
  playing ++ [.input (.transport (.failed
    (coreError .transportConnectionLost "connection lost" .error true none)))]

end Scenario

theorem current_is_locked_playing :
    actor.Along LocksCurrent Scenario.device (Scenario.playing ++ [Scenario.redrafting 6]) := by
  refine current_is_locked ⟨_, _, rfl⟩ _
    ⟨trivial, ?_, trivial, trivial, trivial, trivial, ?_, trivial⟩
  -- The two drafts: one without a session, one of a session that has not failed.
  · exact fun hlocked => absurd hlocked (by decide)
  · exact fun _ herror => absurd herror (by decide)

/-- The draft of a failed session replaces the track that is still playing. -/
theorem not_current_is_locked :
    ¬actor.Along LocksCurrent Scenario.device (Scenario.failing ++ [Scenario.redrafting 7]) := by
  decide

/-! ## The source of the draft -/

/-- The draft names the source of the current entry. -/
def Deck.Aliased (d : Deck) : Prop := d.source = d.queue.current.map QueueEntry.source

namespace Deck

variable {d d' : Deck} {event : AudioEvent}

theorem Aliased.congr (h : d.Aliased) (hqueue : d'.queue = d.queue)
    (hsource : d'.source = d.source) : d'.Aliased := by
  unfold Aliased
  rw [hqueue, hsource]
  exact h

theorem Aliased.dropStale (h : d.Aliased) : d.dropStale.Aliased := by
  unfold Deck.dropStale
  split_ifs
  · exact h
  · exact h

theorem Aliased.change (h : d.Aliased) (state : PlaybackState) : (d.change state).Aliased := by
  cases state with
  | playing =>
    unfold Deck.change
    split_ifs
    · exact h
    · exact h
  | _ => exact h

/-- An empty queue has no source. -/
theorem aliased_of_nil (hqueue : d.queue.entries = []) (hsource : d.source = none) : d.Aliased := by
  unfold Aliased HostQueue.current
  rw [hqueue, hsource]
  rfl

theorem Plays.aliased (h : d.Plays event d') (hd : d.Aliased) : d'.Aliased := by
  cases h with
  | changed state => exact hd.change state
  | started => exact (hd.change .playing).congr rfl rfl
  | applied => exact rfl
  | finished _ _ _ _ _ hqueue =>
    exact aliased_of_nil ((HostQueue.clear_eq_ok hqueue).2.2.2 rfl) rfl
  | _ => exact hd.congr rfl rfl

end Deck

/-- The queue of a source is empty, or its only entry is for the source. -/
theorem source_of_queueEntriesOf {source : Option AudioSourceDescriptor}
    {entries : List QueueEntry} (h : ActorState.queueEntriesOf source = .ok entries) :
    entries.head?.map QueueEntry.source = source := by
  cases source with
  | none =>
    cases h
    rfl
  | some =>
    obtain ⟨entry, hentry, rfl⟩ := map_eq_ok.mp h
    obtain ⟨⟨⟩, -, hentry⟩ := bind_eq_ok.mp hentry
    cases hentry
    rfl

theorem DeckStep.aliased {s : ActorState} {input : CoreActorInput} {d : Deck}
    (h : DeckStep s input d) (hs : s.deck.Aliased) : d.Aliased := by
  cases h with
  | edited => exact Deck.Aliased.dropStale rfl
  | cleared => exact rfl
  | redrafted _ _ _ entries queue _ _ hentries hqueue =>
    -- The draft gets the patched source, and the queue the entries that were made from it.
    have hsame : queue.entries = entries := by
      rcases (HostQueue.replaceAll_eq_ok hqueue).2 with ⟨rfl, hsame⟩ | ⟨⟨-, rfl⟩, -⟩
      · exact hsame
      · rfl
    unfold Deck.Aliased HostQueue.current
    rw [Deck.queue_dropStale, hsame]
    exact (source_of_queueEntriesOf hentries).symm
  | sessionReset => exact rfl
  | played _ _ hplays => exact hplays.aliased hs
  | _ => exact hs.congr rfl rfl

/-- **The draft names the source of the current entry** in every reachable state. -/
theorem source_follows_queue {s : ActorState} (hs : actor.Reachable s) :
    s.snapshot.hostDraft.audioSource = s.snapshot.hostQueue.current.map QueueEntry.source :=
  ActorState.deck_of_reachable (I := Deck.Aliased) (fun _ _ => rfl)
    (fun _ _ hd => hd.congr rfl rfl) (fun _ _ _ hstep hd => hstep.aliased hd) hs

open Scenario in
theorem source_follows_queue_playing :
    (actor.after device playing).snapshot.hostDraft.audioSource =
        some ⟨"source-1", "Track", some 1000, none⟩ ∧
      (actor.after device playing).snapshot.hostDraft.audioSource =
        (actor.after device playing).snapshot.hostQueue.current.map
          QueueEntry.source :=
  ⟨by decide, source_follows_queue (reachable _)⟩

end SilentDisco
