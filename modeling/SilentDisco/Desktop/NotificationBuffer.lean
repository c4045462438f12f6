import SilentDisco.Library.Runs
import SilentDisco.Runtime.Records

/-!
# Notifications to the desktop frontend

The buffer keeps the latest snapshot and a queue of the other notifications of the core. A worker
delivers them to one subscription. A new subscription stops the worker of the one before it, waits
for its end and starts its own; a notification whose delivery failed goes to the next subscription.

One step is a region under the lock of the buffer, a delivery, or a change of the thread that
attaches a sink; the steps of the observer, the worker and the attaching thread come in any order.

## Main definitions

* `NotificationState.waitForNext`: what the worker takes next
* `NotificationBuffer.notify`, `attach`, `work`: the steps
* `notificationBuffer`: the machine of all steps
-/

namespace SilentDisco.Desktop

def desktopPendingNotificationCapacity : ℕ := 64

/-- The number of a subscription. -/
structure SubscriptionId where
  get : UInt64
  deriving DecidableEq

def bridgeError (code : CoreErrorCode) (message : String) : CoreError :=
  coreError code message .fatal false none

def channelSendError (error : String) : CoreError :=
  coreError .ffiCallbackFailed ("desktop notification channel send failed: " ++ error) .fatal true
    none

/-- The revision of a snapshot. -/
def notificationSnapshotRevision : CoreNotification → Option SnapshotRevision
  | .snapshot snapshot => some snapshot.revision
  | _ => none

structure NotificationState where
  latestSnapshot : Option CoreSnapshot := none
  failedDelivery : Option CoreNotification := none
  pending : List CoreNotification := []
  activeSubscription : Option SubscriptionId := none
  nextSubscriptionId : UInt64 := 0
  deliveryFailure : Option CoreError := none
  closed : Bool := false

namespace NotificationState

variable (state : NotificationState)

def ensureBridgeOpen : Except CoreError Unit :=
  if state.closed then
    .error (bridgeError .workerStopped "desktop notification bridge is closed")
  else .ok ()

/-- Whether a snapshot takes the place of the latest one. -/
def replaces (snapshot : CoreSnapshot) : Bool :=
  state.latestSnapshot.all fun current => current.revision.get < snapshot.revision.get

/-- A notification of the core. -/
def onNotification (notification : CoreNotification) : Except CoreError NotificationState := do
  state.ensureBridgeOpen
  match notification with
  | .snapshot snapshot =>
    return if state.replaces snapshot then { state with latestSnapshot := some snapshot } else state
  | other =>
    if state.pending.length ≥ desktopPendingNotificationCapacity then
      .error (bridgeError .queueOverflow "desktop pending notification queue is full")
    else return { state with pending := state.pending ++ [other] }

/-- The latest snapshot, if it is newer than the one that was delivered. -/
def newerSnapshot (delivered : Option SnapshotRevision) : Option CoreSnapshot :=
  state.latestSnapshot.filter fun snapshot =>
    delivered.all fun revision => revision.get < snapshot.revision.get

/-- What the worker finds. -/
inductive Next
  /-- The subscription has ended. -/
  | ended
  | item (notification : CoreNotification) (state : NotificationState)
  /-- There is nothing to deliver. -/
  | wait

/-- What comes after the first snapshot. -/
def nextRetained (delivered : Option SnapshotRevision) : Next :=
  match state.failedDelivery, state.pending with
  | some notification, _ => .item notification { state with failedDelivery := none }
  | none, notification :: pending => .item notification { state with pending }
  | none, [] =>
    (state.newerSnapshot delivered).elim .wait fun snapshot => .item (.snapshot snapshot) state

/-- What the worker of a subscription takes next. -/
def waitForNext (id : SubscriptionId) (stop : Bool) (delivered : Option SnapshotRevision) : Next :=
  if stop || state.closed || state.activeSubscription ≠ some id then .ended
  else
    match delivered, state.newerSnapshot delivered with
    | none, some snapshot => .item (.snapshot snapshot) state
    | _, _ => state.nextRetained delivered

/-- A delivery has failed. The notification is retained, unless the subscription was replaced. -/
def recordDeliveryFailure (id : SubscriptionId) (notification : CoreNotification)
    (error : String) : NotificationState :=
  if state.activeSubscription ≠ some id then state
  else
    { state with
      failedDelivery :=
        if (notificationSnapshotRevision notification).isSome then state.failedDelivery
        else some notification
      deliveryFailure := some (channelSendError error)
      activeSubscription := none }

def clearActiveSubscription (id : SubscriptionId) : NotificationState :=
  if state.activeSubscription = some id then { state with activeSubscription := none } else state

/-- Make the next subscription the active one. -/
def install : Except CoreError (SubscriptionId × NotificationState) := do
  state.ensureBridgeOpen
  if state.latestSnapshot.isNone then
    .error (bridgeError .invalidStateTransition
      "desktop notification bridge has no authoritative snapshot")
  else if state.nextSubscriptionId.toNat + 1 < 2 ^ 64 then
    let id := ⟨state.nextSubscriptionId + 1⟩
    return (id, { state with
      nextSubscriptionId := id.get
      deliveryFailure := none
      activeSubscription := some id })
  else
    .error (bridgeError .resourceLimitExceeded
      "desktop notification subscription identifier exhausted")

end NotificationState

/-- Where a worker stands. -/
inductive WorkerPhase
  | fetching
  | sending (notification : CoreNotification)
  /-- The delivery has failed, which is not recorded yet. -/
  | failed (notification : CoreNotification) (error : String)
  | exited

structure SubscriptionWorker where
  id : SubscriptionId
  stop : Bool := false
  deliveredSnapshot : Option SnapshotRevision := none
  phase : WorkerPhase := .fetching

/-- Where the thread that attaches a sink stands, under the lock of the worker. -/
inductive AttachPhase
  | idle
  /-- The worker has been told to stop; its subscription is to be cleared. -/
  | clearing
  | joining
  | installing
  /-- The subscription is active; its worker is to be started. -/
  | spawning (id : SubscriptionId)
  deriving DecidableEq

structure NotificationBuffer where
  state : NotificationState := {}
  worker : Option SubscriptionWorker := none
  attach : AttachPhase := .idle

inductive BufferStep
  /-- The core reports a notification. -/
  | notify (notification : CoreNotification)
  /-- The attaching thread goes on; a thread may fail to start. -/
  | attach (spawns : Bool)
  /-- The worker goes on, with the result of a delivery. -/
  | work (sent : Except String Unit)

inductive BufferEvent
  | accepted (notification : CoreNotification)
  | refused (error : CoreError)
  | attached (id : SubscriptionId)
  | attachFailed (error : CoreError)
  | delivered (id : SubscriptionId) (notification : CoreNotification)
  | silent

namespace NotificationBuffer

variable (buffer : NotificationBuffer)

def notify (notification : CoreNotification) : NotificationBuffer × BufferEvent :=
  match buffer.state.onNotification notification with
  | .ok state => ({ buffer with state }, .accepted notification)
  | .error error => (buffer, .refused error)

/-- The subscription becomes the active one. -/
def installSubscription : NotificationBuffer × BufferEvent :=
  match buffer.state.install with
  | .ok (id, state) => ({ buffer with state, attach := .spawning id }, .silent)
  | .error error => ({ buffer with attach := .idle }, .attachFailed error)

/-- The next step of `attach_sink`. -/
def attachSink (spawns : Bool) : NotificationBuffer × BufferEvent :=
  match buffer.attach, buffer.worker with
  | .idle, some worker =>
    ({ buffer with worker := some { worker with stop := true }, attach := .clearing }, .silent)
  | .idle, none => ({ buffer with attach := .installing }, .silent)
  | .clearing, some worker =>
    ({ buffer with
      state := buffer.state.clearActiveSubscription worker.id
      attach := .joining }, .silent)
  | .joining, some { phase := .exited, .. } =>
    ({ buffer with worker := none, attach := .installing }, .silent)
  | .installing, _ => buffer.installSubscription
  | .spawning id, _ =>
    if spawns then ({ buffer with worker := some { id }, attach := .idle }, .attached id)
    else
      ({ buffer with state := buffer.state.clearActiveSubscription id, attach := .idle },
        .attachFailed (bridgeError .workerStopped
          "could not start desktop notification subscription worker"))
  | _, _ => (buffer, .silent)

/-- The next step of a worker. -/
def runWorker (worker : SubscriptionWorker) (sent : Except String Unit) :
    NotificationBuffer × BufferEvent :=
  match worker.phase with
  | .fetching =>
    match buffer.state.waitForNext worker.id worker.stop worker.deliveredSnapshot with
    | .ended => ({ buffer with worker := some { worker with phase := .exited } }, .silent)
    | .item notification state =>
      ({ buffer with state, worker := some { worker with phase := .sending notification } },
        .silent)
    | .wait => (buffer, .silent)
  | .sending notification =>
    match sent with
    | .ok () =>
      ({ buffer with worker := some { worker with
          phase := .fetching
          deliveredSnapshot := (notificationSnapshotRevision notification).or
            worker.deliveredSnapshot } },
        .delivered worker.id notification)
    | .error error =>
      ({ buffer with worker := some { worker with phase := .failed notification error } }, .silent)
  | .failed notification error =>
    ({ buffer with
      state := buffer.state.recordDeliveryFailure worker.id notification error
      worker := some { worker with phase := .exited } }, .silent)
  | .exited => (buffer, .silent)

def step : BufferStep → NotificationBuffer × BufferEvent
  | .notify notification => buffer.notify notification
  | .attach spawns => buffer.attachSink spawns
  | .work sent => buffer.worker.elim (buffer, .silent) fun worker => buffer.runWorker worker sent

end NotificationBuffer

/-- The buffer from its creation. -/
def notificationBuffer : Machine NotificationBuffer BufferStep BufferEvent where
  init buffer := buffer = {}
  step := NotificationBuffer.step

end SilentDisco.Desktop
