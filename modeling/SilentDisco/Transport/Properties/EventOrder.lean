import SilentDisco.Transport.HostEvents

/-!
# The order of a peer's events

`recvEvent` checks the queue before it looks into the mailbox, in two steps. A reader that puts an
event into the queue and its terminal event into the mailbox between the two is reported as
disconnected before that event. Without such an exit the terminal event comes last: when the
mailbox is looked into, no event of a reader with a terminal event there is in the queue.

## Main definitions

* `HostEvents.Causal`: the invariant of the queue and the mailbox
* `LeavesNothing`: a reader does not exit behind the check with an event in the queue

## Main results

* `Causal.step`, `Silent.step`: what every step keeps
* `disconnect_comes_last`: the order of the events of a peer
-/

namespace SilentDisco.Transport

open Protocol

variable {config : HostConfig} {host host' : HostEvents} {number : ℕ} {reader reader' : Reader}

/-- The reader has left its terminal event. -/
def Reader.Done (reader : Reader) : Prop := reader.phase = .reported ∨ reader.phase = .exited

namespace HostEvents

/-- What a step of a reader changes: it puts events into the queue while it is not done, or its
terminal event into the mailbox. -/
structure ReaderChange (number : ℕ) (reader reader' : Reader) (host host' : HostEvents) : Prop where
  readers : host'.readers = Function.update host.readers number (some reader')
  receiver : host'.receiver = host.receiver
  nextPeer : host'.nextPeer = host.nextPeer
  entries :
    (host'.mailbox = host.mailbox ∧ (reader.Done → reader'.Done) ∧
      ∃ events, host'.queue = host.queue ++ events ∧ (∀ e ∈ events, e.source = .reader number) ∧
        (reader.Done → events = [])) ∨
    (¬reader.Done ∧ reader'.Done ∧ host'.queue = host.queue ∧
      ∃ terminal, host'.mailbox = host.mailbox ++ [terminal] ∧ terminal.source = .terminal number)

/-- A reader that is not done may put an event into the queue. -/
theorem readerChange_afterReader (hdone : ¬reader.Done) (result : Reader × Option TransportEvent) :
    ReaderChange number reader result.1 host (host.afterReader number result) where
  readers := rfl
  receiver := rfl
  nextPeer := rfl
  entries := by
    refine .inl ⟨rfl, fun h => absurd h hdone, _, rfl, fun e he => ?_, fun h => absurd h hdone⟩
    obtain ⟨event, -, rfl⟩ := List.mem_map.mp he
    rfl

theorem readerChange_setReader (hdone : ¬reader.Done) :
    ReaderChange number reader reader' host (host.setReader number reader') where
  readers := rfl
  receiver := rfl
  nextPeer := rfl
  entries := .inl ⟨rfl, fun h => absurd h hdone, [], (List.append_nil _).symm,
    List.forall_mem_nil _, fun _ => rfl⟩

theorem readerChange_terminate (hdone : ¬reader.Done) (now : MonotonicMillis) :
    ReaderChange number reader { reader with phase := .reported } host
      (host.terminate config number reader now) := by
  unfold terminate
  dsimp only
  split_ifs with hfull
  · exact ⟨rfl, rfl, rfl, .inl ⟨rfl, fun h => absurd h hdone, [], (List.append_nil _).symm,
      List.forall_mem_nil _, fun _ => rfl⟩⟩
  · exact ⟨rfl, rfl, rfl, .inr ⟨hdone, .inl rfl, rfl, _, rfl, rfl⟩⟩

theorem not_done_of_phase {phase : ReaderPhase} (h : reader.phase = phase)
    (hreported : phase ≠ .reported) (hexited : phase ≠ .exited) : ¬reader.Done := by
  rintro (hdone | hdone)
  · exact hreported (h.symm.trans hdone)
  · exact hexited (h.symm.trans hdone)

/-- What a step of a reader does. Only the terminal event goes into the mailbox. -/
theorem readerStep_spec (step : ReaderStep) :
    host.readerStep config number reader step = host ∨
    ∃ reader', ReaderChange number reader reader' host
        (host.readerStep config number reader step) ∧
      ((host.readerStep config number reader step).mailbox = host.mailbox ∨
        ∃ now, step = .terminate now) := by
  cases step with
  | outcome =>
    rw [readerStep]
    split_ifs with hphase
    · exact .inr ⟨_, readerChange_afterReader (not_done_of_phase hphase (by decide) (by decide)) _,
        .inl rfl⟩
    · exact .inl rfl
  | stopped =>
    rw [readerStep]
    split_ifs with hphase
    · exact .inr ⟨_, readerChange_setReader (not_done_of_phase hphase (by decide) (by decide)),
        .inl rfl⟩
    · exact .inl rfl
  | retry =>
    cases hphase : reader.phase with
    | delivering =>
      rw [readerStep, hphase]
      exact .inr ⟨_, readerChange_afterReader
        (not_done_of_phase hphase ReaderPhase.noConfusion ReaderPhase.noConfusion) _, .inl rfl⟩
    | _ => exact .inl (by rw [readerStep, hphase])
  | refuse =>
    cases hphase : reader.phase with
    | refusing =>
      rw [readerStep, hphase]
      exact .inr ⟨_, readerChange_setReader
        (not_done_of_phase hphase ReaderPhase.noConfusion ReaderPhase.noConfusion), .inl rfl⟩
    | _ => exact .inl (by rw [readerStep, hphase])
  | terminate now =>
    rw [readerStep]
    split_ifs with hphase
    · exact .inr ⟨_, readerChange_terminate (not_done_of_phase hphase (by decide) (by decide)) now,
        .inr ⟨now, rfl⟩⟩
    · exact .inl rfl
  | release =>
    rw [readerStep]
    split_ifs with hphase
    · exact .inr ⟨{ reader with phase := .exited },
        ⟨rfl, rfl, rfl, .inl ⟨rfl, fun _ => .inr rfl, [],
        (List.append_nil _).symm, List.forall_mem_nil _, fun _ => rfl⟩⟩, .inl rfl⟩
    · exact .inl rfl

/-- The reader of a number has left its terminal event. -/
def IsDone (host : HostEvents) (number : ℕ) : Prop :=
  ∃ reader, host.readers number = some reader ∧ reader.Done

/-- The invariant of the queue and the mailbox. -/
structure Causal (host : HostEvents) : Prop where
  unused : ∀ n, host.nextPeer ≤ n → host.readers n = none
  terminals : ∀ t ∈ host.mailbox, ∃ n, t.source = .terminal n ∧ host.IsDone n
  queued : ∀ e ∈ host.queue, ∀ n, e.source ≠ .terminal n
  nodup : (host.mailbox.map Entry.source).Nodup
  /-- Behind the check of the queue, a reader that has left its terminal event has left nothing in
  the queue. -/
  checked : host.receiver = .checkMailbox → ∀ t ∈ host.mailbox, ∀ n, t.source = .terminal n →
    ∀ e ∈ host.queue, e.source ≠ .reader n

/-- Nothing of a reader that is done is left. -/
structure Silent (number : ℕ) (host : HostEvents) : Prop where
  done : host.IsDone number
  queue : ∀ e ∈ host.queue, e.source ≠ .reader number
  mailbox : ∀ t ∈ host.mailbox, t.source ≠ .terminal number

/-- A reader does not exit behind the check of the queue while an event of it is there. -/
def LeavesNothing (host : HostEvents) : HostStep → Prop
  | .reader number (.terminate _) =>
    host.receiver = .checkMailbox → ∀ e ∈ host.queue, e.source ≠ .reader number
  | _ => True

namespace ReaderChange

variable (change : ReaderChange number reader reader' host host')
  (hreader : host.readers number = some reader)

include change hreader

/-- Readers that are done stay so. -/
theorem isDone {n : ℕ} (h : host.IsDone n) : host'.IsDone n := by
  obtain ⟨other, hother, hdone⟩ := h
  by_cases hn : n = number
  · subst hn
    obtain rfl : reader = other := Option.some.inj (hreader.symm.trans hother)
    refine ⟨reader', by rw [change.readers, Function.update_self], ?_⟩
    rcases change.entries with ⟨-, hkeep, -⟩ | ⟨hnot, -⟩
    · exact hkeep hdone
    · exact absurd hdone hnot
  · exact ⟨other, by rw [change.readers, Function.update_of_ne hn, hother], hdone⟩

/-- A reader that is done puts nothing into the queue. -/
theorem queue_of_isDone {n : ℕ} (h : host.IsDone n) {e : Entry} (he : e ∈ host'.queue)
    (hsource : e.source = .reader n) : e ∈ host.queue := by
  rcases change.entries with ⟨-, -, events, hqueue, hevents, hnone⟩ | ⟨-, -, hqueue, -⟩
  · rw [hqueue] at he
    rcases List.mem_append.mp he with he | he
    · exact he
    · obtain rfl : n = number := EventSource.reader.inj (hsource.symm.trans (hevents e he))
      obtain ⟨other, hother, hdone⟩ := h
      obtain rfl : reader = other := Option.some.inj (hreader.symm.trans hother)
      rw [hnone hdone] at he
      exact absurd he List.not_mem_nil
  · rwa [hqueue] at he

omit hreader in
/-- What is put into the queue is not a terminal event. -/
theorem queued (h : ∀ e ∈ host.queue, ∀ n, e.source ≠ .terminal n) :
    ∀ e ∈ host'.queue, ∀ n, e.source ≠ .terminal n := by
  intro e he n hsource
  rcases change.entries with ⟨-, -, events, hqueue, hevents, -⟩ | ⟨-, -, hqueue, -⟩
  · rw [hqueue] at he
    rcases List.mem_append.mp he with he | he
    · exact h e he n hsource
    · cases (hevents e he).symm.trans hsource
  · exact h e (hqueue ▸ he) n hsource

theorem causal (h : host.Causal)
    (hleaves : host'.mailbox = host.mailbox ∨ (host.receiver = .checkMailbox →
      ∀ e ∈ host.queue, e.source ≠ .reader number)) : host'.Causal := by
  have hlt : number < host.nextPeer := by
    by_contra hge
    rw [h.unused number (Nat.le_of_not_lt hge)] at hreader
    cases hreader
  have hunused : ∀ n, host'.nextPeer ≤ n → host'.readers n = none := by
    intro n hn
    rw [change.nextPeer] at hn
    rw [change.readers, Function.update_of_ne (by omega)]
    exact h.unused n hn
  have hqueued := change.queued h.queued
  rcases change.entries with ⟨hmail, -⟩ | ⟨hnot, hdone', hqueue, terminal, hmail, hsource⟩
  · refine ⟨hunused, fun t ht => ?_, hqueued, hmail ▸ h.nodup, fun hphase t ht n hn e he heq => ?_⟩
    · rw [hmail] at ht
      obtain ⟨n, hn, hdone⟩ := h.terminals t ht
      exact ⟨n, hn, change.isDone hreader hdone⟩
    · rw [hmail] at ht
      rw [change.receiver] at hphase
      obtain ⟨m, hm, hdone⟩ := h.terminals t ht
      obtain rfl : m = n := EventSource.terminal.inj (hm.symm.trans hn)
      exact h.checked hphase t ht m hm e (change.queue_of_isDone hreader hdone he heq) heq
  · have hdone : host'.IsDone number :=
      ⟨reader', by rw [change.readers, Function.update_self], hdone'⟩
    have hfresh : ∀ t ∈ host.mailbox, t.source ≠ .terminal number := by
      intro t ht hn
      obtain ⟨n, hn', other, hother, hd⟩ := h.terminals t ht
      obtain rfl : n = number := EventSource.terminal.inj (hn'.symm.trans hn)
      exact hnot (Option.some.inj (hreader.symm.trans hother) ▸ hd)
    refine ⟨hunused, fun t ht => ?_, hqueued, ?_, fun hphase t ht n hn e he => ?_⟩
    · rw [hmail] at ht
      rcases List.mem_append.mp ht with ht | ht
      · obtain ⟨n, hn, hd⟩ := h.terminals t ht
        exact ⟨n, hn, change.isDone hreader hd⟩
      · rw [List.mem_singleton.mp ht]
        exact ⟨number, hsource, hdone⟩
    · rw [hmail, List.map_append, List.map_singleton, hsource, List.nodup_append]
      refine ⟨h.nodup, List.nodup_singleton _, fun a ha b hb => ?_⟩
      obtain ⟨t, ht, rfl⟩ := List.mem_map.mp ha
      rw [List.mem_singleton.mp hb]
      exact hfresh t ht
    · rw [hmail] at ht
      rw [hqueue] at he
      rw [change.receiver] at hphase
      rcases List.mem_append.mp ht with ht | ht
      · exact h.checked hphase t ht n hn e he
      · rw [List.mem_singleton.mp ht] at hn
        obtain rfl : number = n := EventSource.terminal.inj (hsource.symm.trans hn)
        rcases hleaves with hsame | hleaves
        · rw [hmail] at hsame
          exact absurd hsame (by simp)
        · exact hleaves hphase e he

theorem silent {n : ℕ} (h : host.Silent n) : host'.Silent n := by
  refine ⟨change.isDone hreader h.done, fun e he hsource => ?_, fun t ht => ?_⟩
  · exact h.queue e (change.queue_of_isDone hreader h.done he hsource) hsource
  · rcases change.entries with ⟨hmail, -⟩ | ⟨hnot, -, -, terminal, hmail, hterminal⟩
    · exact h.mailbox t (hmail ▸ ht)
    · rw [hmail] at ht
      rcases List.mem_append.mp ht with ht | ht
      · exact h.mailbox t ht
      · rw [List.mem_singleton.mp ht, hterminal]
        rintro ⟨⟩
        obtain ⟨other, hother, hd⟩ := h.done
        exact hnot (Option.some.inj (hreader.symm.trans hother) ▸ hd)

end ReaderChange

/-! ## The other steps -/

/-- Events that no reader has put into the queue, and the start of a reader. -/
structure Grows (host host' : HostEvents) : Prop where
  mailbox : host'.mailbox = host.mailbox
  receiver : host'.receiver = host.receiver
  queue : ∀ e ∈ host'.queue, e ∈ host.queue ∨ e.source = .other
  nextPeer : host.nextPeer ≤ host'.nextPeer
  readers : ∀ n, n < host.nextPeer → host'.readers n = host.readers n
  unused : (∀ n, host.nextPeer ≤ n → host.readers n = none) →
    ∀ n, host'.nextPeer ≤ n → host'.readers n = none

theorem grows_produce (event : TransportEvent) :
    Grows host { host with queue := host.queue ++ [⟨.other, event⟩] } where
  mailbox := rfl
  receiver := rfl
  queue e he := by
    rcases List.mem_append.mp he with he | he
    · exact .inl he
    · rw [List.mem_singleton.mp he]
      exact .inr rfl
  nextPeer := le_rfl
  readers _ _ := rfl
  unused h := h

theorem grows_accept (remote : SocketAddr) (now : MonotonicMillis) :
    host.accept config remote now = host ∨ Grows host (host.accept config remote now) := by
  unfold accept
  split_ifs with hfull
  · exact .inl rfl
  dsimp only
  split_ifs with hroom
  · refine .inr ⟨rfl, rfl, (grows_produce _).queue, Nat.le_succ _, fun n hn => ?_, fun h n hn => ?_⟩
    · exact Function.update_of_ne (Nat.ne_of_lt hn) _ _
    · exact (Function.update_of_ne (Nat.ne_of_gt hn) _ _).trans (h n (Nat.le_of_lt hn))
  · exact .inr ⟨rfl, rfl, fun e he => .inl he, Nat.le_succ _, fun _ _ => rfl,
      fun h n hn => h n (Nat.le_of_lt hn)⟩

theorem Causal.lt_nextPeer (h : host.Causal) {n : ℕ} (hdone : host.IsDone n) :
    n < host.nextPeer := by
  by_contra hge
  obtain ⟨reader, hreader, -⟩ := hdone
  rw [h.unused n (Nat.le_of_not_lt hge)] at hreader
  cases hreader

theorem Grows.isDone (grows : Grows host host') (h : host.Causal) {n : ℕ} (hdone : host.IsDone n) :
    host'.IsDone n := by
  have hlt := h.lt_nextPeer hdone
  obtain ⟨reader, hreader, hd⟩ := hdone
  exact ⟨reader, (grows.readers n hlt).trans hreader, hd⟩

theorem Grows.causal (grows : Grows host host') (h : host.Causal) : host'.Causal where
  unused := grows.unused h.unused
  terminals t ht := by
    obtain ⟨n, hn, hdone⟩ := h.terminals t (grows.mailbox ▸ ht)
    exact ⟨n, hn, grows.isDone h hdone⟩
  nodup := grows.mailbox ▸ h.nodup
  queued e he n hsource := by
    rcases grows.queue e he with he | hother
    · exact h.queued e he n hsource
    · cases hother.symm.trans hsource
  checked hphase t ht n hn e he heq := by
    rcases grows.queue e he with he | hother
    · exact h.checked (grows.receiver ▸ hphase) t (grows.mailbox ▸ ht) n hn e he heq
    · cases hother.symm.trans heq

theorem Grows.silent (grows : Grows host host') (h : host.Causal) {n : ℕ}
    (hsilent : host.Silent n) : host'.Silent n where
  done := grows.isDone h hsilent.done
  queue e he hsource := by
    rcases grows.queue e he with he | hother
    · exact hsilent.queue e he hsource
    · cases hother.symm.trans hsource
  mailbox t ht := hsilent.mailbox t (grows.mailbox ▸ ht)

/-- A step of the receiver takes entries away, and reaches the mailbox only when the queue is
empty. -/
structure Takes (host host' : HostEvents) : Prop where
  readers : host'.readers = host.readers
  nextPeer : host'.nextPeer = host.nextPeer
  queue : ∀ e ∈ host'.queue, e ∈ host.queue
  mailbox : host'.mailbox.Sublist host.mailbox
  receiver : host'.receiver = .checkMailbox → host'.queue = []

theorem takes_takeQueue {otherwise : HostEvents × Received}
    (h : host.queue = [] → Takes host otherwise.1) : Takes host (host.takeQueue otherwise).1 := by
  unfold takeQueue
  cases hqueue : host.queue with
  | nil => exact h hqueue
  | cons entry =>
    exact ⟨rfl, rfl, fun e he => hqueue ▸ List.mem_cons_of_mem entry he, .refl _,
      RecvPhase.noConfusion⟩

theorem takes_setReceiver {phase : RecvPhase} (h : phase = .checkMailbox → host.queue = []) :
    Takes host { host with receiver := phase } :=
  ⟨rfl, rfl, fun _ he => he, .refl _, h⟩

theorem takes_receive (host : HostEvents) (timeIsOver : Bool) :
    host.receive timeIsOver = (host, none) ∨ Takes host (host.receive timeIsOver).1 := by
  unfold receive
  cases hphase : host.receiver with
  | idle => exact .inl rfl
  | checkQueue => exact .inr (takes_takeQueue fun hempty => takes_setReceiver fun _ => hempty)
  | checkMailbox =>
    right
    dsimp only
    cases hmail : host.mailbox with
    | nil => exact ⟨rfl, rfl, fun e he => he, List.nil_sublist _, RecvPhase.noConfusion⟩
    | cons entry mailbox =>
      have hsublist : mailbox.Sublist host.mailbox := hmail ▸ List.sublist_cons_self entry mailbox
      exact ⟨rfl, rfl, fun e he => he, hsublist, RecvPhase.noConfusion⟩
  | checkTime =>
    right
    dsimp only
    split_ifs with htime
    · exact takes_takeQueue fun _ => takes_setReceiver RecvPhase.noConfusion
    · exact takes_setReceiver RecvPhase.noConfusion
  | waiting =>
    right
    refine takes_takeQueue fun _ => takes_setReceiver fun h => ?_
    split_ifs at h

theorem Takes.causal (takes : Takes host host') (h : host.Causal) : host'.Causal where
  unused := by
    rw [takes.nextPeer, takes.readers]
    exact h.unused
  terminals t ht := by
    obtain ⟨n, hn, reader, hreader, hdone⟩ := h.terminals t (takes.mailbox.subset ht)
    exact ⟨n, hn, reader, takes.readers ▸ hreader, hdone⟩
  queued e he := h.queued e (takes.queue e he)
  nodup := (takes.mailbox.map _).nodup h.nodup
  checked hphase t ht n hn e he := by
    rw [takes.receiver hphase] at he
    exact absurd he List.not_mem_nil

theorem Takes.silent (takes : Takes host host') {n : ℕ} (h : host.Silent n) : host'.Silent n where
  done := by
    obtain ⟨reader, hreader, hdone⟩ := h.done
    exact ⟨reader, takes.readers ▸ hreader, hdone⟩
  queue e he := h.queue e (takes.queue e he)
  mailbox t ht := h.mailbox t (takes.mailbox.subset ht)

/-- What a step does, in the four ways above. -/
theorem step_induction {P : HostEvents → Prop} (step : HostStep) (hsame : P host)
    (hgrows : ∀ host', Grows host host' → P host')
    (hreader : ∀ number reader reader' host', ReaderChange number reader reader' host host' →
      host.readers number = some reader →
      (host'.mailbox = host.mailbox ∨ ∃ now, step = .reader number (.terminate now)) → P host')
    (htakes : ∀ host', Takes host host' → P host') : P (host.step config step).1 := by
  cases step with
  | accept remote now =>
    change P (host.accept config remote now)
    rcases grows_accept remote now with heq | grows
    · rwa [heq]
    · exact hgrows _ grows
  | reader number step =>
    change P ((host.readers number).elim host _)
    cases hsome : host.readers number with
    | none => exact hsame
    | some reader =>
      change P (host.readerStep config number reader step)
      rcases readerStep_spec step with heq | ⟨_, change, hstep⟩
      · rwa [heq]
      · refine hreader _ _ _ _ change hsome (hstep.imp_right ?_)
        rintro ⟨now, rfl⟩
        exact ⟨now, rfl⟩
  | produce event =>
    change P (if host.room config then _ else host)
    split_ifs with hroom
    · exact hgrows _ (grows_produce event)
    · exact hsame
  | recv =>
    change P (if host.receiver = .idle then _ else host)
    split_ifs with hidle
    · exact htakes _ (takes_setReceiver RecvPhase.noConfusion)
    · exact hsame
  | receive timeIsOver =>
    change P (host.receive timeIsOver).1
    rcases takes_receive host timeIsOver with heq | takes
    · rwa [heq]
    · exact htakes _ takes

theorem Causal.step (h : host.Causal) {step : HostStep} (hleaves : host.LeavesNothing step) :
    (host.step config step).1.Causal := by
  refine step_induction step h (fun _ grows => grows.causal h) ?_ fun _ takes => takes.causal h
  intro number reader reader' host' change hreader hstep
  refine change.causal hreader h (hstep.imp_right ?_)
  rintro ⟨now, rfl⟩
  exact hleaves

theorem Silent.step {n : ℕ} (hsilent : host.Silent n) (h : host.Causal) (step : HostStep) :
    (host.step config step).1.Silent n :=
  step_induction step hsilent (fun _ grows => grows.silent h hsilent)
    (fun _ _ _ _ change hreader _ => change.silent hreader hsilent)
    fun _ takes => takes.silent hsilent

/-- What `recvEvent` returns is the first entry of the queue, or of the mailbox behind the check. -/
theorem received_cases {timeIsOver : Bool} {entry : Entry}
    (h : (host.receive timeIsOver).2 = some (.ok entry)) :
    entry ∈ host.queue ∨
    (host.receiver = .checkMailbox ∧ ∃ mailbox, host.mailbox = entry :: mailbox ∧
      (host.receive timeIsOver).1 = { host with mailbox, receiver := .idle }) := by
  have htake : ∀ {otherwise : HostEvents × Received}, otherwise.2 ≠ some (.ok entry) →
      (host.takeQueue otherwise).2 = some (.ok entry) → entry ∈ host.queue := by
    intro otherwise hother htaken
    unfold takeQueue at htaken
    cases hqueue : host.queue with
    | nil =>
      rw [hqueue] at htaken
      exact absurd htaken hother
    | cons =>
      rw [hqueue] at htaken
      cases htaken
      exact List.mem_cons_self
  unfold receive at h ⊢
  cases hphase : host.receiver with
  | idle =>
    rw [hphase] at h
    cases h
  | checkQueue =>
    rw [hphase] at h
    exact .inl (htake (by simp) h)
  | checkMailbox =>
    rw [hphase] at h
    cases hmail : host.mailbox with
    | nil =>
      rw [hmail] at h
      cases h
    | cons first mailbox =>
      rw [hmail] at h
      cases h
      exact .inr ⟨rfl, mailbox, rfl, rfl⟩
  | checkTime =>
    rw [hphase] at h
    dsimp only at h
    split_ifs at h with htime
    exact .inl (htake (by simp) h)
  | waiting =>
    rw [hphase] at h
    exact .inl (htake (by simp) h)

/-- A terminal event that `recvEvent` returns is the last of its reader. -/
theorem Causal.silent_of_terminal (h : host.Causal) {timeIsOver : Bool} {n : ℕ} {entry : Entry}
    (hout : (host.receive timeIsOver).2 = some (.ok entry)) (hsource : entry.source = .terminal n) :
    (∀ e ∈ host.queue, e.source ≠ .reader n) ∧ (host.receive timeIsOver).1.Silent n := by
  rcases received_cases hout with hqueue | ⟨hphase, mailbox, hmail, hnext⟩
  · exact absurd hsource (h.queued entry hqueue n)
  have hmem : entry ∈ host.mailbox := hmail ▸ List.mem_cons_self
  have hqueue := h.checked hphase entry hmem n hsource
  obtain ⟨m, hm, hdone⟩ := h.terminals entry hmem
  obtain rfl : n = m := EventSource.terminal.inj (hsource.symm.trans hm)
  have hnodup := h.nodup
  rw [hmail, List.map_cons, List.nodup_cons] at hnodup
  rw [hnext]
  refine ⟨hqueue, hdone, hqueue, fun t ht heq => hnodup.1 ?_⟩
  exact List.mem_map.mpr ⟨t, ht, heq.trans hsource.symm⟩

/-- Only `recvEvent` returns events. -/
theorem receive_of_returned {step : HostStep} {entry : Entry}
    (h : (host.step config step).2 = some (.ok entry)) :
    ∃ timeIsOver, step = .receive timeIsOver ∧ (host.receive timeIsOver).2 = some (.ok entry) := by
  cases step with
  | receive timeIsOver => exact ⟨timeIsOver, rfl, h⟩
  | _ => cases h

theorem Silent.not_returned {n : ℕ} (hsilent : host.Silent n) (h : host.Causal) {step : HostStep}
    {entry : Entry} (hout : (host.step config step).2 = some (.ok entry)) :
    entry.source ≠ .reader n := by
  obtain ⟨timeIsOver, -, hout⟩ := receive_of_returned hout
  rcases received_cases hout with hqueue | ⟨-, mailbox, hmail, -⟩
  · exact hsilent.queue entry hqueue
  · obtain ⟨m, hm, -⟩ := h.terminals entry (hmail ▸ List.mem_cons_self)
    rw [hm]
    exact EventSource.noConfusion

end HostEvents

/-! ## Runs -/

theorem causal_init (h : (hostEvents config).init host) : host.Causal := by
  cases h
  exact ⟨fun _ _ => rfl, List.forall_mem_nil _, List.forall_mem_nil _, List.nodup_nil,
    fun _ => List.forall_mem_nil _⟩

theorem causal_after {steps : List HostStep} (h : host.Causal)
    (hexits : (hostEvents config).Along HostEvents.LeavesNothing host steps) :
    ((hostEvents config).after host steps).Causal :=
  Machine.Along.invariant (M := hostEvents config) (fun _ _ h hleaves => h.step hleaves) h hexits

/-- Nothing of a reader is returned any more. -/
theorem not_returned_after {n : ℕ} {steps : List HostStep} (h : host.Causal)
    (hsilent : host.Silent n)
    (hexits : (hostEvents config).Along HostEvents.LeavesNothing host steps) {entry : Entry}
    (hentry : some (.ok entry) ∈ (hostEvents config).outputs host steps) :
    entry.source ≠ .reader n := by
  induction steps generalizing host with
  | nil => exact absurd hentry List.not_mem_nil
  | cons step steps ih =>
    obtain ⟨hleaves, hexits⟩ := hexits
    rcases List.mem_cons.mp hentry with hout | hlater
    · exact hsilent.not_returned h hout.symm
    · exact ih (h.step hleaves) (hsilent.step h step) hexits hlater

/-- In a run in which no reader exits between the two checks of `recvEvent` with an event in the
queue, a terminal event is returned when no event of its reader is left in the queue, and none is
returned after it. -/
theorem disconnect_comes_last (hinit : (hostEvents config).init host) {steps : List HostStep}
    (hexits : (hostEvents config).Along HostEvents.LeavesNothing host steps)
    {before later : List HostStep} {step : HostStep} (hsteps : before ++ step :: later = steps)
    {n : ℕ} {terminal : Entry} (hsource : terminal.source = .terminal n)
    (hout : (hostEvents config).out ((hostEvents config).after host before) step =
      some (.ok terminal)) :
    (∀ e ∈ ((hostEvents config).after host before).queue, e.source ≠ .reader n) ∧
    ∀ entry, some (.ok entry) ∈ (hostEvents config).outputs
      ((hostEvents config).after host (before ++ [step])) later → entry.source ≠ .reader n := by
  subst hsteps
  obtain ⟨hbefore, hleaves, hlater⟩ := Machine.along_append.mp hexits
  have hcausal := causal_after (causal_init hinit) hbefore
  obtain ⟨timeIsOver, rfl, hreturned⟩ := HostEvents.receive_of_returned hout
  obtain ⟨hqueue, hsilent⟩ := hcausal.silent_of_terminal hreturned hsource
  refine ⟨hqueue, fun entry hentry => ?_⟩
  rw [Machine.after_append] at hentry
  have hnext : ((hostEvents config).after ((hostEvents config).after host before)
    [.receive timeIsOver]).Causal := hcausal.step hleaves
  exact not_returned_after hnext hsilent hlater hentry

namespace EventScenario

def remote : SocketAddr := ⟨.v4 0x0A000002, 50000⟩

def join : ProtocolFrame := .control (.joinRequest {
  sessionId := ⟨"session-1", Scenario.valid_session⟩
  device := ⟨⟨"listener-1", Scenario.valid_listener⟩, "Ada"⟩
  inviteCode := none
  syncPort := 5000
  audioPort := 5001 })

def limits : HostConfig := ⟨8, 4⟩

/-- The peer is accepted, and the receiver waits behind the check of the queue. -/
def waiting : List HostStep :=
  [.accept remote ⟨0⟩, .recv, .receive false, .recv, .receive false]

/-- The peer joins and its connection ends. -/
def exit : List HostStep :=
  [.reader 1 (.outcome (.frame join 40) false ⟨1⟩), .reader 1 (.outcome .closed false ⟨1⟩),
    .reader 1 (.terminate ⟨1⟩)]

def terminal : Entry :=
  ⟨.terminal 1, .peerDisconnected ⟨some ⟨"listener-1", Scenario.valid_listener⟩, remote⟩ none ⟨1⟩⟩

def joined : Entry :=
  ⟨.reader 1,
    .frameReceived .control ⟨some ⟨"listener-1", Scenario.valid_listener⟩, remote⟩ join ⟨1⟩⟩

end EventScenario

open EventScenario in
/-- The reader forwards a join and exits between the two checks of `recvEvent`, which returns the
end of the connection while the join is in the queue, and the join after it. -/
theorem not_disconnect_comes_last :
    let run := waiting ++ exit
    (hostEvents limits).init {} ∧
    (hostEvents limits).outputs {} (run ++ [.receive false, .recv, .receive false]) =
      [none, none, some (.ok ⟨.other, .peerAccepted ⟨none, remote⟩ ⟨0⟩⟩), none, none, none, none,
        none, some (.ok terminal), none, some (.ok joined)] ∧
    terminal.source = .terminal 1 ∧ joined.source = .reader 1 ∧
    joined ∈ ((hostEvents limits).after {} run).queue := by
  refine ⟨rfl, rfl, rfl, rfl, ?_⟩
  exact List.mem_cons_self

open EventScenario in
/-- The reader exits while `recvEvent` is not called. -/
theorem disconnect_comes_last_idle :
    (∀ e ∈ ((hostEvents limits).after {}
    (.accept remote ⟨0⟩ :: exit ++ [.recv, .receive false, .recv,
      .receive false, .recv, .receive false])).queue, e.source ≠ .reader 1) ∧
    ∀ entry, some (.ok entry) ∈ (hostEvents limits).outputs
      ((hostEvents limits).after {} (.accept remote ⟨0⟩ :: exit ++ [.recv, .receive false, .recv,
        .receive false, .recv, .receive false] ++ [.receive false])) [.recv, .receive false] →
      entry.source ≠ .reader 1 := by
  refine disconnect_comes_last rfl ?_ rfl (n := 1) rfl rfl
  refine ⟨trivial, trivial, trivial, fun h => ?_, trivial, trivial, trivial, trivial, trivial,
    trivial, trivial, trivial, trivial, trivial⟩
  cases h

end SilentDisco.Transport
