import SilentDisco.Desktop.NotificationBuffer

/-!
# No notification is lost

A notification that is not a snapshot is delivered once, in the order of acceptance, or still
retained: by the worker that delivers it, as a failed delivery, or in the queue. The exception is a
delivery that fails after its subscription was cleared for a new one, which is not recorded.

## Main definitions

* `NotificationBuffer.retained`: the notifications that are not delivered yet
* `NotificationBuffer.KeepsFailures`: a failed delivery is recorded by its own subscription
* `Orderly`: a snapshot first, and snapshots of increasing revision

## Main results

* `notifications_are_kept`: both, in every run
-/

namespace SilentDisco.Desktop

open Result NotificationState BufferEvent

/-- The notifications that are not snapshots. -/
def others (notification : CoreNotification) : List CoreNotification :=
  if (notificationSnapshotRevision notification).isSome then [] else [notification]

theorem others_of_revision {notification : CoreNotification}
    (h : notificationSnapshotRevision notification = none) :
    others notification = [notification] := by
  unfold others
  rw [h]
  rfl

/-- What a worker has taken and not delivered. -/
def WorkerPhase.held : WorkerPhase → List CoreNotification
  | .sending notification => others notification
  | .failed notification _ => others notification
  | _ => []

/-- The notifications that a step accepts. -/
def BufferEvent.acceptedOthers : BufferEvent → List CoreNotification
  | .accepted notification => others notification
  | _ => []

/-- The notifications that a step delivers. -/
def BufferEvent.deliveredOthers : BufferEvent → List CoreNotification
  | .delivered _ notification => others notification
  | _ => []

/-- Nothing but snapshots is accepted or delivered. -/
def BufferEvent.Quiet (event : BufferEvent) : Prop :=
  event.acceptedOthers = [] ∧ event.deliveredOthers = []

/-- What a step delivers to a subscription. -/
def BufferEvent.receivedBy (id : SubscriptionId) : BufferEvent → Option CoreNotification
  | .delivered other notification => if other = id then some notification else none
  | _ => none

namespace NotificationState

variable {state next : NotificationState} {notification : CoreNotification}
  {delivered : Option SnapshotRevision}

/-- What the worker takes: the latest snapshot, the failed delivery or the head of the queue. -/
inductive Takes (state : NotificationState) (delivered : Option SnapshotRevision) :
    CoreNotification → NotificationState → Prop
  | snapshot (snapshot : CoreSnapshot)
      (hnewer : ∀ revision ∈ delivered, revision.get < snapshot.revision.get) :
      Takes state delivered (.snapshot snapshot) state
  | failed (notification : CoreNotification) (hfailed : state.failedDelivery = some notification)
      (hdelivered : delivered.isSome ∨ state.latestSnapshot = none) :
      Takes state delivered notification { state with failedDelivery := none }
  | pending (notification : CoreNotification) (pending : List CoreNotification)
      (hfailed : state.failedDelivery = none) (hpending : state.pending = notification :: pending)
      (hdelivered : delivered.isSome ∨ state.latestSnapshot = none) :
      Takes state delivered notification { state with pending }

theorem newerSnapshot_eq_some {snapshot : CoreSnapshot}
    (h : state.newerSnapshot delivered = some snapshot) :
    ∀ revision ∈ delivered, revision.get < snapshot.revision.get := by
  rintro revision hrevision
  have hnewer := (Option.filter_eq_some_iff.mp h).2
  rw [Option.mem_def.mp hrevision] at hnewer
  simpa using hnewer

theorem latestSnapshot_of_newerSnapshot (h : state.newerSnapshot none = none) :
    state.latestSnapshot = none := by
  simpa [newerSnapshot, Option.filter_eq_none_iff, Option.eq_none_iff_forall_not_mem] using h

theorem takes_nextRetained (hdelivered : delivered.isSome ∨ state.latestSnapshot = none)
    (h : state.nextRetained delivered = .item notification next) :
    state.Takes delivered notification next := by
  obtain ⟨latest, failed, pending, active, nextId, failure, closed⟩ := state
  cases failed with
  | some =>
    cases h
    exact .failed notification rfl hdelivered
  | none =>
    cases pending with
    | cons first pending =>
      cases h
      exact .pending notification pending rfl rfl hdelivered
    | nil =>
      unfold nextRetained at h
      dsimp only at h
      cases hnewer : newerSnapshot _ delivered with
      | none =>
        rw [hnewer] at h
        cases h
      | some snapshot =>
        rw [hnewer] at h
        cases h
        exact .snapshot snapshot (newerSnapshot_eq_some hnewer)

theorem takes_waitForNext {id : SubscriptionId} {stop : Bool}
    (h : state.waitForNext id stop delivered = .item notification next) :
    state.Takes delivered notification next := by
  unfold waitForNext at h
  split_ifs at h with hended
  cases delivered with
  | some => exact takes_nextRetained (.inl rfl) h
  | none =>
    cases hnewer : state.newerSnapshot none with
    | some snapshot =>
      rw [hnewer] at h
      cases h
      exact .snapshot snapshot (newerSnapshot_eq_some hnewer)
    | none =>
      rw [hnewer] at h
      exact takes_nextRetained (.inr (latestSnapshot_of_newerSnapshot hnewer)) h

end NotificationState

/-! ## What is retained -/

namespace NotificationBuffer

variable {buffer : NotificationBuffer} {worker : SubscriptionWorker}
  {notification : CoreNotification}

/-- What the worker has taken and not delivered. -/
def inFlight (buffer : NotificationBuffer) : List CoreNotification :=
  buffer.worker.elim [] fun worker => worker.phase.held

/-- The notifications that are accepted and not delivered, in order. -/
def retained (buffer : NotificationBuffer) : List CoreNotification :=
  buffer.inFlight ++ (buffer.state.failedDelivery.toList ++ buffer.state.pending)

/-- The attaching thread has no worker to wait for. -/
def AttachPhase.isAlone : AttachPhase → Bool
  | .installing | .spawning _ => true
  | _ => false

/-- The invariant of the notifications that are not snapshots. -/
structure Retains (buffer : NotificationBuffer) : Prop where
  exclusive : buffer.inFlight ≠ [] → buffer.state.failedDelivery = none
  failed : ∀ n ∈ buffer.state.failedDelivery, notificationSnapshotRevision n = none
  pending : ∀ n ∈ buffer.state.pending, notificationSnapshotRevision n = none
  alone : AttachPhase.isAlone buffer.attach = true → buffer.worker = none

/-- A failed delivery is recorded while its subscription is still the active one. -/
def KeepsFailures (buffer : NotificationBuffer) : BufferStep → Prop
  | .work _ => ∀ worker ∈ buffer.worker, ∀ notification error,
      worker.phase = .failed notification error →
      notificationSnapshotRevision notification = none →
      buffer.state.activeSubscription = some worker.id
  | _ => True

/-- What is accepted comes last, and what is delivered came first. -/
def Conserves (buffer next : NotificationBuffer) (event : BufferEvent) : Prop :=
  buffer.retained ++ event.acceptedOthers = event.deliveredOthers ++ next.retained

/-- A step keeps the invariant and every notification that it does not deliver. -/
def Keeps (buffer : NotificationBuffer) (result : NotificationBuffer × BufferEvent) : Prop :=
  result.1.Retains ∧ Conserves buffer result.1 result.2

/-- The queues of two states. -/
def SameQueues (state next : NotificationState) : Prop :=
  next.failedDelivery = state.failedDelivery ∧ next.pending = state.pending

/-- The snapshot and the last subscription of two states. -/
def SameSubscriptions (state next : NotificationState) : Prop :=
  next.latestSnapshot = state.latestSnapshot ∧ next.nextSubscriptionId = state.nextSubscriptionId

theorem clearActiveSubscription_frame (state : NotificationState) (id : SubscriptionId) :
    SameQueues state (state.clearActiveSubscription id) ∧
      SameSubscriptions state (state.clearActiveSubscription id) := by
  unfold clearActiveSubscription
  split_ifs
  · exact ⟨⟨rfl, rfl⟩, rfl, rfl⟩
  · exact ⟨⟨rfl, rfl⟩, rfl, rfl⟩

theorem sameQueues_install {state next : NotificationState} {id : SubscriptionId}
    (h : state.install = .ok (id, next)) : SameQueues state next := by
  unfold install at h
  obtain ⟨⟨⟩, -, h⟩ := bind_eq_ok.mp h
  split_ifs at h with hnone hnext
  cases h
  exact ⟨rfl, rfl⟩

theorem inFlight_of_worker (hworker : buffer.worker = some worker) :
    buffer.inFlight = worker.phase.held := by
  unfold inFlight
  rw [hworker]
  rfl

variable (h : buffer.Retains)
include h

theorem Retains.not_isAlone (hworker : buffer.worker = some worker) :
    AttachPhase.isAlone buffer.attach ≠ true := by
  intro halone
  have hnone := h.alone halone
  rw [hworker] at hnone
  cases hnone

/-- A step that moves no notification. -/
theorem Retains.of_same {next : NotificationBuffer} {event : BufferEvent}
    (hquiet : event.Quiet) (hqueues : SameQueues buffer.state next.state)
    (hflight : next.inFlight = buffer.inFlight)
    (halone : AttachPhase.isAlone next.attach = true → next.worker = none) :
    buffer.Keeps (next, event) := by
  obtain ⟨haccepted, hdelivered⟩ := hquiet
  obtain ⟨hfailed, hpending⟩ := hqueues
  refine ⟨⟨?_, ?_, ?_, halone⟩, ?_⟩
  · rw [hflight, hfailed]
    exact h.exclusive
  · rw [hfailed]
    exact h.failed
  · rw [hpending]
    exact h.pending
  · unfold Conserves retained
    rw [haccepted, hdelivered, hflight, hfailed, hpending, List.append_nil, List.nil_append]

theorem Retains.refl {event : BufferEvent} (hquiet : event.Quiet) : buffer.Keeps (buffer, event) :=
  h.of_same hquiet ⟨rfl, rfl⟩ rfl h.alone

theorem Retains.notify (notification : CoreNotification) :
    buffer.Keeps (buffer.notify notification) := by
  unfold NotificationBuffer.notify
  cases hresult : buffer.state.onNotification notification with
  | error => exact h.refl ⟨rfl, rfl⟩
  | ok state =>
    obtain ⟨⟨⟩, -, hstate⟩ := bind_eq_ok.mp hresult
    by_cases hsnapshot : ∃ snapshot, notification = .snapshot snapshot
    · obtain ⟨snapshot, rfl⟩ := hsnapshot
      have hqueues : SameQueues buffer.state state := by
        cases hstate
        split_ifs
        · exact ⟨rfl, rfl⟩
        · exact ⟨rfl, rfl⟩
      exact h.of_same ⟨rfl, rfl⟩ hqueues rfl h.alone
    · have hother : notificationSnapshotRevision notification = none ∧
          state = { buffer.state with pending := buffer.state.pending ++ [notification] } := by
        cases notification with
        | snapshot snapshot => exact absurd ⟨snapshot, rfl⟩ hsnapshot
        | _ =>
          dsimp only at hstate
          split_ifs at hstate
          cases hstate
          exact ⟨rfl, rfl⟩
      obtain ⟨hrevision, rfl⟩ := hother
      refine ⟨⟨h.exclusive, h.failed, fun n hn => ?_, h.alone⟩, ?_⟩
      · rcases List.mem_append.mp hn with hn | hn
        · exact h.pending n hn
        · rw [List.mem_singleton.mp hn]
          exact hrevision
      · change buffer.retained ++ others notification = [] ++ _
        rw [others_of_revision hrevision]
        simp [retained, inFlight]

theorem Retains.installSubscription (hnone : buffer.worker = none) :
    buffer.Keeps buffer.installSubscription := by
  unfold NotificationBuffer.installSubscription
  cases hinstall : buffer.state.install with
  | error => exact h.of_same ⟨rfl, rfl⟩ ⟨rfl, rfl⟩ rfl fun _ => hnone
  | ok installed =>
    obtain ⟨id, state⟩ := installed
    exact h.of_same ⟨rfl, rfl⟩ (sameQueues_install hinstall) rfl fun _ => hnone

theorem Retains.attachSink (spawns : Bool) : buffer.Keeps (buffer.attachSink spawns) := by
  obtain ⟨state, worker, attach⟩ := buffer
  cases attach with
  | idle =>
    cases worker with
    | none => exact h.of_same ⟨rfl, rfl⟩ ⟨rfl, rfl⟩ rfl fun _ => rfl
    | some => exact h.of_same ⟨rfl, rfl⟩ ⟨rfl, rfl⟩ rfl Bool.noConfusion
  | clearing =>
    cases worker with
    | none => exact h.refl ⟨rfl, rfl⟩
    | some =>
      exact h.of_same ⟨rfl, rfl⟩ (clearActiveSubscription_frame _ _).1 rfl Bool.noConfusion
  | joining =>
    cases worker with
    | none => exact h.refl ⟨rfl, rfl⟩
    | some worker =>
      obtain ⟨id, stop, delivered, phase⟩ := worker
      cases phase with
      | exited => exact h.of_same ⟨rfl, rfl⟩ ⟨rfl, rfl⟩ rfl fun _ => rfl
      | _ => exact h.refl ⟨rfl, rfl⟩
  | installing =>
    obtain rfl : worker = none := h.alone rfl
    exact h.installSubscription rfl
  | spawning =>
    obtain rfl : worker = none := h.alone rfl
    cases spawns with
    | true => exact h.of_same ⟨rfl, rfl⟩ ⟨rfl, rfl⟩ rfl Bool.noConfusion
    | false => exact h.of_same ⟨rfl, rfl⟩ (clearActiveSubscription_frame _ _).1 rfl fun _ => rfl

/-- The worker takes the oldest notification that it has not taken. -/
theorem Retains.take (hworker : buffer.worker = some worker)
    (hflight : worker.phase.held = []) {state : NotificationState}
    (htakes : buffer.state.Takes worker.deliveredSnapshot notification state) :
    let next : NotificationBuffer :=
      { buffer with state, worker := some { worker with phase := .sending notification } }
    buffer.Keeps (next, .silent) := by
  intro next
  have hempty : buffer.inFlight = [] := (inFlight_of_worker hworker).trans hflight
  have halone : AttachPhase.isAlone buffer.attach = true → next.worker = none :=
    fun halone => absurd halone (h.not_isAlone hworker)
  cases htakes with
  | snapshot => exact h.of_same ⟨rfl, rfl⟩ ⟨rfl, rfl⟩ hempty.symm halone
  | failed notification hfailed =>
    have hothers : next.inFlight = [notification] :=
      others_of_revision (h.failed notification hfailed)
    refine ⟨⟨fun _ => rfl, fun n hn => ?_, h.pending, halone⟩, ?_⟩
    · cases hn
    · unfold Conserves retained
      rw [hothers, hempty, hfailed]
      exact List.append_nil _
  | pending notification pending hfailed hpending =>
    have hrevision := h.pending notification (by rw [hpending]; exact List.mem_cons_self)
    have hothers : next.inFlight = [notification] := others_of_revision hrevision
    refine ⟨⟨fun _ => hfailed, h.failed, fun n hn => h.pending n ?_, halone⟩, ?_⟩
    · rw [hpending]
      exact List.mem_cons_of_mem notification hn
    · unfold Conserves retained
      rw [hothers, hempty, hpending, show next.state.failedDelivery = none from hfailed]
      exact List.append_nil _

/-- The assertion of `record_delivery_failure`: no other failed delivery is retained. -/
theorem Retains.failedDelivery_eq_none
    (hflight : buffer.inFlight = others notification)
    (hrevision : notificationSnapshotRevision notification = none) :
    buffer.state.failedDelivery = none := by
  refine h.exclusive ?_
  rw [hflight, others_of_revision hrevision]
  exact List.cons_ne_nil _ _

/-- A failed delivery that is recorded by its own subscription is retained before all others. -/
theorem Retains.record (hworker : buffer.worker = some worker) {error : String}
    (hphase : worker.phase = .failed notification error)
    (hkeeps : notificationSnapshotRevision notification = none →
      buffer.state.activeSubscription = some worker.id) :
    let next : NotificationBuffer :=
      { buffer with
        state := buffer.state.recordDeliveryFailure worker.id notification error
        worker := some { worker with phase := .exited } }
    buffer.Keeps (next, .silent) := by
  intro next
  have hflight : buffer.inFlight = others notification := by
    rw [inFlight_of_worker hworker, hphase]
    rfl
  have halone : AttachPhase.isAlone buffer.attach = true → next.worker = none :=
    fun halone => absurd halone (h.not_isAlone hworker)
  cases hrevision : notificationSnapshotRevision notification with
  | some =>
    -- A snapshot is not retained: the next subscription starts with the latest one.
    refine h.of_same ⟨rfl, rfl⟩ ?_ ?_ halone
    · change SameQueues _ (buffer.state.recordDeliveryFailure worker.id notification error)
      unfold recordDeliveryFailure
      rw [hrevision]
      split_ifs with hreplaced hsome
      · exact ⟨rfl, rfl⟩
      · exact ⟨rfl, rfl⟩
      · exact absurd rfl hsome
    · rw [hflight, others, hrevision]
      rfl
  | none =>
    have hnone := h.failedDelivery_eq_none hflight hrevision
    rw [others_of_revision hrevision] at hflight
    have hstate : next.state.failedDelivery = some notification ∧
        next.state.pending = buffer.state.pending := by
      change (buffer.state.recordDeliveryFailure worker.id notification error).failedDelivery = _ ∧
        (buffer.state.recordDeliveryFailure worker.id notification error).pending = _
      unfold recordDeliveryFailure
      rw [hrevision, if_neg (not_not_intro (hkeeps hrevision))]
      exact ⟨rfl, rfl⟩
    obtain ⟨hfailed, hpending⟩ := hstate
    refine ⟨⟨fun hne => absurd rfl hne, fun n hn => ?_, ?_, halone⟩, ?_⟩
    · rw [hfailed, Option.mem_some_iff] at hn
      rwa [← hn]
    · rw [hpending]
      exact h.pending
    · unfold Conserves retained
      rw [hfailed, hpending, hflight, hnone]
      exact List.append_nil _

theorem Retains.runWorker (hworker : buffer.worker = some worker)
    (sent : Except String Unit) (hkeeps : buffer.KeepsFailures (.work sent)) :
    buffer.Keeps (buffer.runWorker worker sent) := by
  have halone := h.not_isAlone hworker
  have hflight := inFlight_of_worker hworker
  unfold NotificationBuffer.runWorker
  cases hphase : worker.phase with
  | fetching =>
    rw [hphase] at hflight
    dsimp only
    cases hnext : buffer.state.waitForNext worker.id worker.stop worker.deliveredSnapshot with
    | ended => exact h.of_same ⟨rfl, rfl⟩ ⟨rfl, rfl⟩ hflight.symm fun hphase => absurd hphase halone
    | wait => exact h.refl ⟨rfl, rfl⟩
    | item =>
      exact h.take hworker (by rw [hphase]; rfl) (takes_waitForNext hnext)
  | sending notification =>
    rw [hphase] at hflight
    dsimp only
    cases sent with
    | error =>
      exact h.of_same ⟨rfl, rfl⟩ ⟨rfl, rfl⟩ hflight.symm fun hphase => absurd hphase halone
    | ok =>
      refine ⟨⟨fun hne => absurd rfl hne, h.failed, h.pending, fun hphase => absurd hphase halone⟩,
        ?_⟩
      change buffer.retained ++ [] = others notification ++ _
      rw [List.append_nil, retained, hflight]
      rfl
  | failed notification error =>
    exact h.record hworker hphase (hkeeps worker hworker notification error hphase)
  | exited => exact h.refl ⟨rfl, rfl⟩

/-- **One step** keeps every notification that it does not deliver. -/
theorem Retains.step (step : BufferStep) (hkeeps : buffer.KeepsFailures step) :
    buffer.Keeps (buffer.step step) := by
  cases step with
  | notify notification => exact h.notify notification
  | attach spawns => exact h.attachSink spawns
  | work sent =>
    cases hworker : buffer.worker with
    | none =>
      rw [NotificationBuffer.step, hworker]
      exact h.refl ⟨rfl, rfl⟩
    | some =>
      rw [NotificationBuffer.step, hworker]
      exact h.runWorker hworker sent hkeeps

end NotificationBuffer

/-! ## What a subscription receives -/

/-- The revisions of the snapshots among notifications. -/
def revisions (log : List CoreNotification) : List SnapshotRevision :=
  log.filterMap notificationSnapshotRevision

/-- A snapshot first, and snapshots of increasing revision. -/
structure Orderly (log : List CoreNotification) : Prop where
  first : ∀ notification ∈ log.head?, (notificationSnapshotRevision notification).isSome
  increasing : (revisions log).Pairwise fun a b => a.get < b.get

/-- What may come next after the last snapshot that was delivered. -/
structure Follows (delivered : Option SnapshotRevision) (notification : CoreNotification) :
    Prop where
  newer : ∀ revision ∈ notificationSnapshotRevision notification, ∀ last ∈ delivered,
    last.get < revision.get
  other : notificationSnapshotRevision notification = none → delivered.isSome

/-- What a worker knows of the notifications that its subscription has received. -/
structure SubscriptionWorker.Logged (worker : SubscriptionWorker) (log : List CoreNotification) :
    Prop where
  none : worker.deliveredSnapshot = none → log = []
  some : ∀ last ∈ worker.deliveredSnapshot,
    log ≠ [] ∧ ∀ revision ∈ revisions log, revision.get ≤ last.get
  sending : ∀ notification, worker.phase = .sending notification →
    Follows worker.deliveredSnapshot notification

namespace SubscriptionWorker

variable {worker : SubscriptionWorker} {log : List CoreNotification}
  {notification : CoreNotification}

theorem revisions_append (log : List CoreNotification) (notification : CoreNotification) :
    revisions (log ++ [notification]) =
      revisions log ++ (notificationSnapshotRevision notification).toList := by
  unfold revisions
  rw [List.filterMap_append]
  cases h : notificationSnapshotRevision notification with
  | none | some => simp [h]

/-- A new snapshot is newer than all that were received. -/
theorem Logged.lt (h : worker.Logged log) (hfollows : Follows worker.deliveredSnapshot notification)
    {old revision : SnapshotRevision} (hold : old ∈ revisions log)
    (hrevision : revision ∈ notificationSnapshotRevision notification) :
    old.get < revision.get := by
  -- The old revisions are bounded by the last one, which exists as the log is not empty.
  cases hdelivered : worker.deliveredSnapshot with
  | none =>
    rw [h.none hdelivered] at hold
    cases hold
  | some last =>
    exact UInt64.lt_of_le_of_lt ((h.some last hdelivered).2 old hold)
      (hfollows.newer revision hrevision last hdelivered)

/-- A notification that may come next keeps the order. -/
theorem Logged.orderly (h : worker.Logged log) (horderly : Orderly log)
    (hfollows : Follows worker.deliveredSnapshot notification) :
    Orderly (log ++ [notification]) := by
  constructor
  · intro first hfirst
    cases hdelivered : worker.deliveredSnapshot with
    | none =>
      rw [h.none hdelivered, List.nil_append, List.head?_cons, Option.mem_some_iff] at hfirst
      subst hfirst
      by_contra hsome
      have := hfollows.other (Option.not_isSome_iff_eq_none.mp hsome)
      rw [hdelivered] at this
      cases this
    | some last =>
      rw [List.head?_append_of_ne_nil _ (h.some last hdelivered).1] at hfirst
      exact horderly.first first hfirst
  · rw [revisions_append, List.pairwise_append]
    refine ⟨horderly.increasing, ?_, ?_⟩
    · cases notificationSnapshotRevision notification with
      | none => exact .nil
      | some => exact List.pairwise_singleton _ _
    · intro old hold revision hrevision
      exact h.lt hfollows hold (Option.mem_toList.mp hrevision)

/-- A worker after a delivery. -/
theorem Logged.deliver (h : worker.Logged log)
    (hfollows : Follows worker.deliveredSnapshot notification) :
    Logged { worker with
      phase := .fetching
      deliveredSnapshot := (notificationSnapshotRevision notification).or worker.deliveredSnapshot }
      (log ++ [notification]) := by
  have hne : log ++ [notification] ≠ [] :=
    List.append_ne_nil_of_right_ne_nil _ (List.cons_ne_nil _ _)
  constructor
  · intro hnone
    obtain ⟨hother, hdelivered⟩ := Option.or_eq_none_iff.mp hnone
    have := hfollows.other hother
    rw [hdelivered] at this
    cases this
  · intro last hlast
    refine ⟨hne, fun revision hrevision => ?_⟩
    rw [revisions_append, List.mem_append, Option.mem_toList] at hrevision
    cases hnew : notificationSnapshotRevision notification with
    | none =>
      rw [hnew] at hrevision hlast
      rw [Option.none_or] at hlast
      rcases hrevision with hold | hnone
      · exact (h.some last hlast).2 revision hold
      · cases hnone
    | some newest =>
      rw [hnew] at hrevision hlast
      rw [Option.some_or, Option.mem_some_iff] at hlast
      subst hlast
      rcases hrevision with hold | hnewest
      · exact UInt64.le_of_lt (h.lt hfollows hold hnew)
      · rw [Option.mem_some_iff.mp hnewest]
        exact UInt64.le_refl _
  · intro other hother
    cases hother

end SubscriptionWorker

namespace NotificationBuffer

variable {buffer : NotificationBuffer} {worker : SubscriptionWorker}

/-- The invariant of the notifications that each subscription has received. -/
structure Logged (buffer : NotificationBuffer) (log : SubscriptionId → List CoreNotification) :
    Prop where
  orderly : ∀ id, Orderly (log id)
  fresh : ∀ id : SubscriptionId, buffer.state.nextSubscriptionId < id.get → log id = []
  snapshot : buffer.worker.isSome ∨ (∃ id, buffer.attach = .spawning id) →
    buffer.state.latestSnapshot.isSome
  spawning : ∀ id, buffer.attach = .spawning id →
    log id = [] ∧ id.get ≤ buffer.state.nextSubscriptionId
  worker : ∀ worker ∈ buffer.worker,
    worker.id.get ≤ buffer.state.nextSubscriptionId ∧ worker.Logged (log worker.id)

variable {log : SubscriptionId → List CoreNotification} {event : BufferEvent}
  {state next : NotificationState} {notification : CoreNotification}

/-- What each subscription has received after an event. -/
def logNext (log : SubscriptionId → List CoreNotification) (event : BufferEvent)
    (id : SubscriptionId) : List CoreNotification :=
  log id ++ (event.receivedBy id).toList

/-- An event that delivers nothing. -/
theorem logNext_of_none (h : ∀ id, event.receivedBy id = none) : logNext log event = log := by
  funext id
  rw [logNext, h id, Option.toList_none, List.append_nil]

theorem isSome_latestSnapshot_onNotification (h : state.onNotification notification = .ok next) :
    next.nextSubscriptionId = state.nextSubscriptionId ∧
      (state.latestSnapshot.isSome → next.latestSnapshot.isSome) := by
  obtain ⟨⟨⟩, -, h⟩ := bind_eq_ok.mp h
  cases notification with
  | snapshot =>
    cases h
    split_ifs
    · exact ⟨rfl, fun _ => rfl⟩
    · exact ⟨rfl, id⟩
  | _ =>
    dsimp only at h
    split_ifs at h
    cases h
    exact ⟨rfl, id⟩

theorem Logged.notify (h : buffer.Logged log) (notification : CoreNotification) :
    (buffer.notify notification).1.Logged
      (logNext log (buffer.notify notification).2) := by
  unfold NotificationBuffer.notify
  cases hresult : buffer.state.onNotification notification with
  | error =>
    rw [logNext_of_none fun _ => rfl]
    exact h
  | ok =>
    rw [logNext_of_none fun _ => rfl]
    obtain ⟨hnext, hsome⟩ := isSome_latestSnapshot_onNotification hresult
    refine ⟨h.orderly, fun id hid => h.fresh id ?_, fun hstarted => hsome (h.snapshot hstarted),
      fun id hid => ?_, fun worker hworker => ?_⟩
    · rwa [← hnext]
    · exact ⟨(h.spawning id hid).1, hnext.symm ▸ (h.spawning id hid).2⟩
    · exact ⟨hnext.symm ▸ (h.worker worker hworker).1, (h.worker worker hworker).2⟩

/-- The same snapshot and the same subscriptions, with a worker that knows as much. -/
theorem Logged.of_same (h : buffer.Logged log) {next : NotificationBuffer}
    (hevent : ∀ id, event.receivedBy id = none)
    (hstate : SameSubscriptions buffer.state next.state)
    (hspawning : ∀ id, next.attach = .spawning id → buffer.attach = .spawning id)
    (hworker : ∀ worker ∈ next.worker, ∃ old ∈ buffer.worker, old.id = worker.id ∧
      (old.Logged (log worker.id) → worker.Logged (log worker.id))) :
    next.Logged (logNext log event) := by
  obtain ⟨hlatest, hids⟩ := hstate
  rw [logNext_of_none hevent]
  refine ⟨h.orderly, fun id hid => h.fresh id ?_, fun hstarted => ?_, fun id hid => ?_,
    fun worker hmem => ?_⟩
  · rwa [← hids]
  · rw [hlatest]
    refine h.snapshot ?_
    rcases hstarted with hsome | ⟨id, hid⟩
    · obtain ⟨worker, hmem⟩ := Option.isSome_iff_exists.mp hsome
      obtain ⟨old, hold, -⟩ := hworker worker hmem
      exact .inl (Option.isSome_iff_exists.mpr ⟨old, hold⟩)
    · exact .inr ⟨id, hspawning id hid⟩
  · rw [hids]
    exact h.spawning id (hspawning id hid)
  · obtain ⟨old, hold, hid, hlogged⟩ := hworker worker hmem
    obtain ⟨hle, hlog⟩ := h.worker old hold
    rw [hid] at hle hlog
    rw [hids]
    exact ⟨hle, hlogged hlog⟩

/-- A subscription that becomes active has a new number. -/
theorem install_spec {id : SubscriptionId} (h : state.install = .ok (id, next)) :
    state.latestSnapshot.isSome ∧ next.latestSnapshot = state.latestSnapshot ∧
      state.nextSubscriptionId < id.get ∧ next.nextSubscriptionId = id.get := by
  unfold install at h
  obtain ⟨⟨⟩, -, h⟩ := bind_eq_ok.mp h
  split_ifs at h with hnone hnext
  cases h
  refine ⟨?_, rfl, ?_, rfl⟩
  · simpa [Option.isSome_iff_ne_none] using hnone
  · rw [UInt64.lt_iff_toNat_lt, UInt64.toNat_add, UInt64.toNat_one, Nat.mod_eq_of_lt hnext]
    exact Nat.lt_succ_self _

theorem Logged.installSubscription (h : buffer.Logged log) :
    buffer.installSubscription.1.Logged (logNext log buffer.installSubscription.2) := by
  unfold NotificationBuffer.installSubscription
  cases hinstall : buffer.state.install with
  | error =>
    exact h.of_same (fun _ => rfl) ⟨rfl, rfl⟩ (fun _ => AttachPhase.noConfusion)
      fun worker hworker => ⟨worker, hworker, rfl, id⟩
  | ok installed =>
    obtain ⟨id, state⟩ := installed
    obtain ⟨hsome, hlatest, hlt, hid⟩ := install_spec hinstall
    have hle := UInt64.le_of_lt hlt
    rw [logNext_of_none fun _ => rfl]
    constructor
    · exact h.orderly
    · intro other hother
      refine h.fresh other (UInt64.lt_trans hlt ?_)
      rwa [← hid]
    · intro _
      change state.latestSnapshot.isSome = true
      rwa [hlatest]
    · intro other hother
      cases hother
      exact ⟨h.fresh id hlt, hid ▸ UInt64.le_refl _⟩
    · intro worker hworker
      obtain ⟨hworkerId, hlogged⟩ := h.worker worker hworker
      exact ⟨hid ▸ UInt64.le_trans hworkerId hle, hlogged⟩

/-- A worker that is started has delivered nothing, and its subscription has received nothing. -/
theorem SubscriptionWorker.logged_new (id : SubscriptionId) :
    SubscriptionWorker.Logged { id } [] where
  none _ := rfl
  some last hlast := by cases hlast
  sending notification hphase := by cases hphase

theorem Logged.attachSink (h : buffer.Logged log) (spawns : Bool) :
    (buffer.attachSink spawns).1.Logged (logNext log (buffer.attachSink spawns).2) := by
  obtain ⟨state, worker, attach⟩ := buffer
  -- The worker is kept, with another phase of the attaching thread.
  have hkeep : ∀ (state' : NotificationState) (attach' : AttachPhase) (event : BufferEvent),
      SameSubscriptions state state' →
      (∀ id, event.receivedBy id = none) →
      (∀ id, attach' = .spawning id → attach = .spawning id) →
      Logged ⟨state', worker, attach'⟩ (logNext log event) :=
    fun state' attach' event hstate hevent hspawning =>
      h.of_same hevent hstate hspawning fun worker hworker => ⟨worker, hworker, rfl, id⟩
  cases attach with
  | idle =>
    cases worker with
    | none => exact hkeep _ _ _ ⟨rfl, rfl⟩ (fun _ => rfl) fun _ => AttachPhase.noConfusion
    | some worker =>
      refine h.of_same (fun _ => rfl) ⟨rfl, rfl⟩ (fun _ => AttachPhase.noConfusion) ?_
      intro stopped hstopped
      cases hstopped
      exact ⟨worker, rfl, rfl, fun hlogged => ⟨hlogged.none, hlogged.some, hlogged.sending⟩⟩
  | clearing =>
    cases worker with
    | none => exact hkeep _ _ _ ⟨rfl, rfl⟩ (fun _ => rfl) fun _ => id
    | some worker =>
      obtain ⟨-, hstate⟩ := clearActiveSubscription_frame state worker.id
      exact hkeep _ _ _ hstate (fun _ => rfl) fun _ => AttachPhase.noConfusion
  | joining =>
    cases worker with
    | none => exact hkeep _ _ _ ⟨rfl, rfl⟩ (fun _ => rfl) fun _ => id
    | some worker =>
      obtain ⟨id, stop, delivered, phase⟩ := worker
      cases phase with
      | exited =>
        refine h.of_same (fun _ => rfl) ⟨rfl, rfl⟩ (fun _ => AttachPhase.noConfusion) ?_
        intro worker hworker
        cases hworker
      | _ => exact hkeep _ _ _ ⟨rfl, rfl⟩ (fun _ => rfl) fun _ h => h
  | installing => exact h.installSubscription
  | spawning id =>
    cases spawns with
    | true =>
      obtain ⟨hlog, hid⟩ := h.spawning id rfl
      rw [show logNext log _ = log from logNext_of_none fun _ => rfl]
      refine ⟨h.orderly, h.fresh, fun _ => h.snapshot (.inr ⟨id, rfl⟩),
        fun _ => AttachPhase.noConfusion, ?_⟩
      intro worker hworker
      cases hworker
      refine ⟨hid, ?_⟩
      rw [hlog]
      exact SubscriptionWorker.logged_new id
    | false =>
      obtain ⟨-, hstate⟩ := clearActiveSubscription_frame state id
      exact hkeep _ _ _ hstate (fun _ => rfl) fun _ => AttachPhase.noConfusion

/-- What the worker takes may come next. -/
theorem follows_of_takes {delivered : Option SnapshotRevision}
    (h : state.Takes delivered notification next) (hsome : state.latestSnapshot.isSome)
    (hfailed : ∀ n ∈ state.failedDelivery, notificationSnapshotRevision n = none)
    (hpending : ∀ n ∈ state.pending, notificationSnapshotRevision n = none) :
    Follows delivered notification := by
  -- A notification that is no snapshot is taken only after the first snapshot.
  have hother : delivered.isSome ∨ state.latestSnapshot = none →
      notificationSnapshotRevision notification = none → Follows delivered notification := by
    intro hdelivered hrevision
    refine ⟨fun revision hmem => ?_, fun _ => hdelivered.resolve_right ?_⟩
    · rw [hrevision] at hmem
      cases hmem
    · exact Option.isSome_iff_ne_none.mp hsome
  cases h with
  | snapshot snapshot hnewer =>
    refine ⟨fun revision hmem last hlast => ?_, fun hnone => ?_⟩
    · cases hmem
      exact hnewer last hlast
    · cases hnone
  | failed notification hmem hdelivered => exact hother hdelivered (hfailed notification hmem)
  | pending notification pending _ hqueue hdelivered =>
    refine hother hdelivered (hpending notification ?_)
    rw [hqueue]
    exact List.mem_cons_self

theorem sameSubscriptions_of_takes {delivered : Option SnapshotRevision}
    (h : state.Takes delivered notification next) : SameSubscriptions state next := by
  cases h with
  | snapshot | failed | pending => exact ⟨rfl, rfl⟩

theorem sameSubscriptions_recordDeliveryFailure (state : NotificationState) (id : SubscriptionId)
    (notification : CoreNotification) (error : String) :
    SameSubscriptions state (state.recordDeliveryFailure id notification error) := by
  unfold recordDeliveryFailure
  split_ifs
  · exact ⟨rfl, rfl⟩
  · exact ⟨rfl, rfl⟩
  · exact ⟨rfl, rfl⟩

/-- A worker that delivers nothing and goes on to another phase. -/
theorem Logged.setPhase (h : buffer.Logged log) (hworker : buffer.worker = some worker)
    {phase : WorkerPhase} (hstate : SameSubscriptions buffer.state state)
    (hevent : ∀ id, event.receivedBy id = none)
    (hphase : ∀ notification, phase = .sending notification →
      Follows worker.deliveredSnapshot notification) :
    Logged { buffer with state, worker := some { worker with phase } } (logNext log event) := by
  refine h.of_same hevent hstate (fun _ hid => hid) ?_
  intro next hnext
  cases hnext
  exact ⟨worker, hworker, rfl, fun hlogged => ⟨hlogged.none, hlogged.some, hphase⟩⟩

theorem Logged.runWorker (h : buffer.Logged log) (hretains : buffer.Retains)
    (hworker : buffer.worker = some worker) (sent : Except String Unit) :
    (buffer.runWorker worker sent).1.Logged (logNext log (buffer.runWorker worker sent).2) := by
  have hsame : buffer.Logged (logNext log .silent) := by
    rw [logNext_of_none fun _ => rfl]
    exact h
  have hsome := h.snapshot (.inl (Option.isSome_iff_exists.mpr ⟨worker, hworker⟩))
  obtain ⟨hid, hlogged⟩ := h.worker worker hworker
  unfold NotificationBuffer.runWorker
  cases hphase : worker.phase with
  | fetching =>
    dsimp only
    cases hnext : buffer.state.waitForNext worker.id worker.stop worker.deliveredSnapshot with
    | ended => exact h.setPhase hworker ⟨rfl, rfl⟩ (fun _ => rfl) fun _ => WorkerPhase.noConfusion
    | wait => exact hsame
    | item =>
      have htakes := takes_waitForNext hnext
      refine h.setPhase hworker (sameSubscriptions_of_takes htakes) (fun _ => rfl) ?_
      intro other hother
      cases hother
      exact follows_of_takes htakes hsome hretains.failed hretains.pending
  | sending notification =>
    dsimp only
    have hfollows := hlogged.sending notification hphase
    cases sent with
    | error =>
      exact h.setPhase hworker ⟨rfl, rfl⟩ (fun _ => rfl) fun _ => WorkerPhase.noConfusion
    | ok =>
      -- Only the log of this subscription grows.
      have hown : logNext log (.delivered worker.id notification) worker.id =
          log worker.id ++ [notification] := by
        simp [logNext, receivedBy]
      have hothers : ∀ id, id ≠ worker.id →
          logNext log (.delivered worker.id notification) id = log id := by
        intro id hne
        simp [logNext, receivedBy, hne.symm]
      constructor
      · intro id
        by_cases hown' : id = worker.id
        · rw [hown', hown]
          exact hlogged.orderly (h.orderly worker.id) hfollows
        · rw [hothers id hown']
          exact h.orderly id
      · intro id hlt
        have hne : id ≠ worker.id := fun heq =>
          absurd hlt (UInt64.not_lt.mpr (heq ▸ hid))
        rw [hothers id hne]
        exact h.fresh id hlt
      · exact fun _ => hsome
      · intro id hspawning
        exact absurd (by rw [hspawning]; rfl) (hretains.not_isAlone hworker)
      · intro next hnext
        cases hnext
        refine ⟨hid, ?_⟩
        change SubscriptionWorker.Logged _ (logNext log _ worker.id)
        rw [hown]
        exact hlogged.deliver hfollows
  | failed =>
    exact h.setPhase hworker (sameSubscriptions_recordDeliveryFailure _ _ _ _) (fun _ => rfl)
      fun _ => WorkerPhase.noConfusion
  | exited => exact hsame

/-- **One step** delivers what may come next. -/
theorem Logged.step (h : buffer.Logged log) (hretains : buffer.Retains) (step : BufferStep) :
    (buffer.step step).1.Logged (logNext log (buffer.step step).2) := by
  cases step with
  | notify notification => exact h.notify notification
  | attach spawns => exact h.attachSink spawns
  | work sent =>
    cases hworker : buffer.worker with
    | none =>
      rw [NotificationBuffer.step, hworker, Option.elim_none, logNext_of_none fun _ => rfl]
      exact h
    | some =>
      rw [NotificationBuffer.step, hworker]
      exact h.runWorker hretains hworker sent

end NotificationBuffer

/-! ## Every run -/

/-- The notifications other than snapshots that were accepted. -/
def accepted (events : List BufferEvent) : List CoreNotification :=
  events.flatMap acceptedOthers

/-- The notifications other than snapshots that were delivered, to any subscription. -/
def delivered (events : List BufferEvent) : List CoreNotification :=
  events.flatMap deliveredOthers

/-- What a subscription has received. -/
def received (id : SubscriptionId) (events : List BufferEvent) : List CoreNotification :=
  events.filterMap (receivedBy id)

/-- The invariant of all runs. -/
structure Kept (buffer : NotificationBuffer) (events : List BufferEvent) : Prop where
  retains : buffer.Retains
  conserved : accepted events = delivered events ++ buffer.retained
  logged : buffer.Logged fun id => received id events

theorem kept_new : Kept {} [] where
  retains :=
    { exclusive := fun _ => rfl
      failed := fun n hn => by cases hn
      pending := fun n hn => absurd hn List.not_mem_nil
      alone := fun _ => rfl }
  conserved := rfl
  logged :=
    { orderly := fun _ => { first := fun n hn => (by cases hn), increasing := .nil }
      fresh := fun _ _ => rfl
      snapshot := fun hstarted => by
        rcases hstarted with hsome | ⟨id, hid⟩
        · cases hsome
        · cases hid
      spawning := fun _ hid => by cases hid
      worker := fun worker hworker => by cases hworker }

theorem Kept.step {buffer : NotificationBuffer} {events : List BufferEvent} (h : Kept buffer events)
    (step : BufferStep) (hkeeps : buffer.KeepsFailures step) :
    Kept (buffer.step step).1 (events ++ [(buffer.step step).2]) := by
  obtain ⟨hretains, hconserves⟩ := h.retains.step step hkeeps
  refine ⟨hretains, ?_, ?_⟩
  · have hconserved := h.conserved
    unfold accepted delivered at hconserved ⊢
    rw [List.flatMap_append, List.flatMap_append, hconserved, List.flatMap_singleton,
      List.flatMap_singleton, List.append_assoc, List.append_assoc, hconserves]
  · have hlog : (fun id => received id (events ++ [(buffer.step step).2])) =
        NotificationBuffer.logNext (fun id => received id events) (buffer.step step).2 := by
      funext id
      unfold received NotificationBuffer.logNext
      rw [List.filterMap_append]
      cases hevent : (buffer.step step).2.receivedBy id with
      | none | some => simp [hevent]
    rw [hlog]
    exact h.logged.step h.retains step

/-- **No notification is lost**: what was accepted was delivered in that order or is retained, and
every subscription receives a snapshot first and then newer ones. -/
theorem notifications_are_kept {buffer : NotificationBuffer} {steps : List BufferStep}
    (hinit : notificationBuffer.init buffer)
    (hkeeps : notificationBuffer.Along NotificationBuffer.KeepsFailures buffer steps) :
    accepted (notificationBuffer.outputs buffer steps) =
        delivered (notificationBuffer.outputs buffer steps) ++
          (notificationBuffer.after buffer steps).retained ∧
      ∀ id, Orderly (received id (notificationBuffer.outputs buffer steps)) := by
  cases hinit
  have hkept := Machine.Along.invariant_outputs (M := notificationBuffer) (I := Kept)
    (fun buffer events step h => h.step step) kept_new hkeeps
  exact ⟨hkept.conserved, hkept.logged.orderly⟩

/-! ## A delivery that fails -/

namespace NotificationScenario

def snapshot : CoreSnapshot := { revision := ⟨1⟩ }

def notice : CoreNotification :=
  .error (bridgeError .queueOverflow "the queue of the host is full")

/-- A subscription has received the snapshot, and its worker delivers the notice. -/
def delivering : List BufferStep :=
  [.notify (.snapshot snapshot), .notify notice, .attach true, .attach true, .attach true,
    .work (.ok ()), .work (.ok ()), .work (.ok ())]

/-- The delivery fails, and the worker records it. -/
def failing : List BufferStep :=
  [.work (.error "the window is closed"), .work (.ok ())]

/-- A new subscription stops the worker and clears its subscription. -/
def replacing : List BufferStep := [.attach true, .attach true]

theorem keepsFailures_of_delivering :
    notificationBuffer.Along NotificationBuffer.KeepsFailures {} (delivering ++ failing) := by
  refine ⟨trivial, trivial, trivial, trivial, trivial, ?_, ?_, ?_, ?_, ?_, trivial⟩
  all_goals
    intro worker hworker notification error hphase
    cases hworker
  · cases hphase
  · cases hphase
  · cases hphase
  · cases hphase
  · exact fun _ => rfl

end NotificationScenario

open NotificationScenario in
/-- A failed delivery is retained for the next subscription. -/
theorem notifications_are_kept_failed :
    (notificationBuffer.after {} (delivering ++ failing)).retained = [notice] ∧
      accepted (notificationBuffer.outputs {} (delivering ++ failing)) =
        delivered (notificationBuffer.outputs {} (delivering ++ failing)) ++
          (notificationBuffer.after {} (delivering ++ failing)).retained ∧
      ∀ id, Orderly (received id (notificationBuffer.outputs {} (delivering ++ failing))) :=
  ⟨rfl, notifications_are_kept rfl keepsFailures_of_delivering⟩

open NotificationScenario in
/-- A delivery that fails after its subscription was cleared for a new one is lost. -/
theorem not_notifications_are_kept :
    accepted (notificationBuffer.outputs {} (delivering ++ replacing ++ failing)) = [notice] ∧
      delivered (notificationBuffer.outputs {} (delivering ++ replacing ++ failing)) = [] ∧
      (notificationBuffer.after {} (delivering ++ replacing ++ failing)).retained = [] :=
  ⟨rfl, rfl, rfl⟩

end SilentDisco.Desktop
