import SilentDisco.Desktop.JoinProjection

/-!
# The worker of the desktop host transport

The worker handles the events of the socket host and the effects of the actor, one at a time. What
it submits waits in the mailbox of the actor, among the messages of others. The answers of the
socket host and of the mailbox to the calls of a step come with the step. The worker ends with the
first failure.

The machine also keeps a history: every request that was submitted, with the address of its
connection, and whether the end of this connection was handled since.

## Main definitions

* `processEvent`: `HostTransportEventProcessor::process`
* `processEffect`: the delivery of a decision of the actor
* `HostDesk`, `hostDesk`: the worker, the mailbox and the actor, and the machine of their steps
-/

namespace SilentDisco

/-- The request that a message brings. -/
def ActorMessage.joinRequest : ActorMessage → Option JoinRequestSummary
  | .input (.transport (.joinRequested request)) => some request
  | _ => none

namespace Desktop

open Protocol Transport

/-- What the calls of a step answer: the text of a failed call of the actor's handle, the error of
a failed call of the socket host, and the reports of its deliveries. -/
structure HostAnswers where
  snapshot : Option String := none
  submission : Option String := none
  /-- The second submission of a step. -/
  connection : Option String := none
  /-- `reject_pending_peer_at` -/
  rejection : Except TransportError DeliveryReport := .ok ⟨1, 1, 0, .ok⟩
  /-- `send_pending_control` -/
  control : Except TransportError DeliveryReport := .ok ⟨1, 1, 0, .ok⟩
  /-- `send_disconnect` -/
  disconnect : Except TransportError DeliveryReport := .ok ⟨1, 1, 0, .ok⟩
  /-- `send_sync_to_peer`, or `replay_cached_playback_to_peer` -/
  reply : Option TransportError := none
  /-- `authorize_peer_ports` -/
  authorization : Option TransportError := none
  /-- The notification of a failed authorization. -/
  rollback : Option TransportError := none

def failure : Except TransportError DeliveryReport → Option TransportError
  | .ok _ => none
  | .error error => some error

/-! ## Events -/

/-- What a step of the worker did: its result, what it remembers, what it has submitted, and the
error that it shows. -/
structure Processed (α : Type) where
  result : Except DesktopNetworkError α
  projection : PendingJoinProjection
  submitted : List CoreActorInput := []
  shown : Option String := none

def duplicatePendingWarning (answers : HostAnswers) : String :=
  "Duplicate pending listener identity rejected" ++
    match failure answers.rejection with
    | some error => "; rejection delivery failed: " ++ error.text
    | none => ""

def refuseUnprojectedJoin (answers : HostAnswers) : String :=
  match answers.rejection with
  | .ok report =>
    if report.successfulPeers > 0 then "Desktop join refused before actor admission (host busy)"
    else "Desktop join refused but no TCP peer received the refusal"
  | .error error => "Desktop join refused; rejection delivery failed: " ++ error.text

variable (projection : PendingJoinProjection)

/-- A join frame: a second connection of a device with a pending request is refused. -/
def processJoin (request : JoinRequest) (peer : TransportPeer)
    (receivedAt : MonotonicMillis) (advertisement : SessionAdvertisement) (draft : HostDraft)
    (answers : HostAnswers) : Processed (Option String) :=
  if projection.pendingFromAnotherPeer request.device.deviceId peer.controlAddress then
    { result := .ok (some (duplicatePendingWarning answers)), projection }
  else
    let registered := projection.register request peer.controlAddress receivedAt advertisement
      (answers.snapshot.elim (.ok draft) .error) answers.submission
    { result := .ok
        (match registered.result with
        | .ok _ => (failure answers.control).map TransportError.text
        | .error _ => some (refuseUnprojectedJoin answers))
      projection := registered.projection
      submitted :=
        (registered.submitted.map fun summary =>
          CoreActorInput.transport (.joinRequested summary)).toList }

def processSyncRequest (peer : TransportPeer) (answers : HostAnswers) : Option String :=
  match peer.deviceId with
  | none => some "Clock synchronization request has no admitted listener identity"
  | some listenerId =>
    if projection.ownsPeer listenerId peer.controlAddress then
      answers.reply.map fun error => (DesktopNetworkError.transport error).message
    else some "Retired peer clock request ignored"

def processResync (listenerId : DeviceId)
    (peer : TransportPeer) (answers : HostAnswers) : Option String :=
  if projection.ownsPeer listenerId peer.controlAddress = false then
    some "Retired peer recovery request ignored"
  else if peer.deviceId ≠ some listenerId then
    some "Recovery request identity did not match its TCP peer"
  else answers.reply.map fun error => (DesktopNetworkError.transport error).message

/-- A submission to the actor is the last thing that the step does. -/
def submitLast {α : Type} (projection : PendingJoinProjection) (input : CoreActorInput) (value : α)
    (submission : Option String) : Processed α :=
  match submission with
  | none => { result := .ok value, projection, submitted := [input] }
  | some text => { result := .error (.invalidState text), projection }

def forwardSyncReport (report : SynchronizationReport)
    (answers : HostAnswers) : Processed (Option String) :=
  match SynchronizationSummary.new report.confidence report.offsetMs report.roundTripMs
      report.driftPpm with
  | .ok summary =>
    submitLast projection (.audio (.synchronizationUpdated report.listenerId summary)) none
      answers.submission
  | .error error =>
    { result := .ok (some ("listener " ++ report.listenerId.value ++
        " sent an invalid synchronization report: " ++ error.message))
      projection }

/-- The end of a connection. Only that of a current peer is one of its listener. -/
def processDisconnect (peer : TransportPeer)
    (error : Option TransportError) (answers : HostAnswers) : Processed (Option String) :=
  match peer.deviceId with
  | none => { result := .ok (error.map TransportError.text), projection }
  | some deviceId =>
    match projection.removeIfCurrent deviceId peer.controlAddress with
    | (false, retired) => { result := .ok none, projection := retired }
    | (true, retired) =>
      submitLast retired
        (.transport (.listenerDisconnected deviceId
          (error.map fun error => (DesktopNetworkError.transport error).coreError none)))
        (error.map TransportError.text) answers.submission

def processEvent (advertisement : SessionAdvertisement)
    (draft : HostDraft) (answers : HostAnswers) :
    Transport.TransportEvent → Processed (Option String)
  | .frameReceived .control peer (.control (.joinRequest request)) receivedAt =>
    processJoin projection request peer receivedAt advertisement draft answers
  | .frameReceived .synchronization peer (.syncRequest _) _ =>
    { result := .ok (processSyncRequest projection peer answers), projection }
  | .frameReceived .control peer (.control (.resyncNotice notice)) _ =>
    { result := .ok (processResync projection notice.listenerId peer answers), projection }
  | .frameReceived .control peer (.control (.synchronizationReport report)) _ =>
    if peer.deviceId ≠ some report.listenerId ∨
        projection.ownsPeer report.listenerId peer.controlAddress = false then
      { result := .ok (some "Retired peer synchronization report ignored"), projection }
    else forwardSyncReport projection report answers
  | .peerDisconnected peer error _ => processDisconnect projection peer error answers
  | .rejected _ _ error _ => { result := .ok (some error.text), projection }
  | .peerAccepted _ _ | .peerAuthorized _ _ _ | .frameReceived _ _ _ _ =>
    { result := .ok none, projection }

/-! ## Effects -/

def failedDeliveryReport : DeliveryReport := ⟨1, 0, 1, .partialFailure⟩

variable (operationId : OperationId)

/-- The failed delivery of a decision. -/
def deliveryFailed (shown : Option String) (answers : HostAnswers) : Processed Unit :=
  { submitLast projection (.transport (.deliveryCompleted operationId failedDeliveryReport)) ()
      answers.submission with shown }

/-- The report of a delivery, and the error to show. -/
def reported : Except TransportError DeliveryReport → DeliveryReport × Option String
  | .ok report => (report, none)
  | .error error => (failedDeliveryReport, some error.text)

/-- A delivery that admits nobody. -/
def finishDelivery (delivery : Except TransportError DeliveryReport) (answers : HostAnswers) :
    Processed Unit :=
  { submitLast projection (.transport (.deliveryCompleted operationId (reported delivery).1)) ()
      answers.submission with shown := (reported delivery).2 }

/-- The delivery of an approval has succeeded, and the listener is connected. -/
def submitConnected (report : DeliveryReport) (listener : ListenerSummary) (answers : HostAnswers) :
    Processed Unit :=
  let delivered : CoreActorInput := .transport (.deliveryCompleted operationId report)
  match answers.submission with
  | some text => { result := .error (.invalidState text), projection }
  | none =>
    match answers.connection with
    | some text =>
      { result := .error (.invalidState text), projection, submitted := [delivered] }
    | none =>
      { result := .ok ()
        projection
        submitted := [delivered, .transport (.listenerConnected listener)] }

/-- An approval that was sent counts when the ports of the listener are authorized. -/
def finishApprovedListener (report : DeliveryReport) (listenerId : DeviceId)
    (answers : HostAnswers) : Processed Unit :=
  match projection.requests.lookup listenerId with
  | none =>
    deliveryFailed projection operationId
      (some "JoinApproval reached TCP but no matching pending listener route exists") answers
  | some pending =>
    match answers.authorization with
    | some error =>
      deliveryFailed (projection.takePorts listenerId) operationId
        (some (answers.rollback.elim (DesktopNetworkError.transport error).message fun rollback =>
          "Admission rollback notification failed: " ++ rollback.text)) answers
    | none =>
      let authorized := (projection.takePorts listenerId).markAuthorized listenerId
        pending.controlAddress
      match ListenerSummary.new listenerId pending.displayName .sessionOnly .connected with
      | .ok listener => submitConnected authorized operationId report listener answers
      | .error error =>
        { result := .error (.invalidArgument error.message), projection := authorized }

/-- An approval. A device that only claims its identity is not trusted for the future. -/
def processApproval (requestId : RequestId) (listenerId : DeviceId) (trustedForFuture : Bool)
    (answers : HostAnswers) : Processed Unit :=
  if projection.pendingRequestMatches listenerId requestId = false then
    deliveryFailed projection operationId
      (some "Stale join approval ignored: request generation no longer pending") answers
  else if trustedForFuture then
    deliveryFailed (projection.takePorts listenerId) operationId
      (some ((failure answers.control).elim
        "Legacy v3 cannot remember an unverified listener identity" TransportError.text)) answers
  else
    match answers.control with
    | .ok report =>
      if report.successfulPeers > 0 then
        finishApprovedListener projection operationId report listenerId answers
      else finishDelivery projection operationId answers.control answers
    | .error _ => finishDelivery projection operationId answers.control answers

def processEffect (effect : TransportEffect) (answers : HostAnswers) : Processed Unit :=
  match effect.request with
  | .deliverJoinApproval requestId _ listenerId trustedForFuture =>
    processApproval projection effect.operationId requestId listenerId trustedForFuture answers
  | .deliverJoinRejection requestId _ listenerId _ =>
    if projection.pendingRequestMatches listenerId requestId = false then
      deliveryFailed projection effect.operationId
        (some "Stale join rejection ignored: request generation no longer pending") answers
    else
      finishDelivery (projection.takePorts listenerId) effect.operationId answers.control answers
  | .disconnectListener _ listenerId _ =>
    let delivery :=
      match answers.disconnect with
      | .error error => if error.kind = .peerNotFound then answers.control else .error error
      | .ok report => .ok report
    finishDelivery (projection.takePorts listenerId) effect.operationId delivery answers

/-! ## The machine -/

/-- A request that was submitted. -/
structure JoinRegistration where
  requestId : RequestId
  deviceId : DeviceId
  address : SocketAddr
  /-- The end of its connection was handled. -/
  closed : Bool := false
  deriving DecidableEq

structure HostDesk where
  advertisement : SessionAdvertisement
  actor : ActorState
  inputs : List ActorMessage := []
  effects : List TransportEffect := []
  projection : PendingJoinProjection := {}
  lastError : Option String := none
  /-- The worker has not failed. -/
  running : Bool := true
  registrations : List JoinRegistration := []

inductive HostDeskStep
  | event (event : Transport.TransportEvent) (answers : HostAnswers)
  /-- The worker takes the next effect. -/
  | effect (answers : HostAnswers)
  /-- The actor processes the next message. -/
  | process
  /-- A message of another thread. -/
  | message (message : ActorMessage)

/-- The requests of an event, with its connection. -/
def joinRegistrations (submitted : List CoreActorInput) : Transport.TransportEvent →
    List JoinRegistration
  | .frameReceived _ peer _ _ =>
    submitted.filterMap fun input =>
      (ActorMessage.input input).joinRequest.map fun request =>
        { requestId := request.requestId
          deviceId := request.deviceId
          address := peer.controlAddress }
  | _ => []

/-- The address of a connection whose end an event reports. -/
def closedAddress : Transport.TransportEvent → Option SocketAddr
  | .peerDisconnected peer _ _ => some peer.controlAddress
  | _ => none

/-- The requests of a connection that has ended are closed. -/
def JoinRegistration.close (address : Option SocketAddr) (registration : JoinRegistration) :
    JoinRegistration :=
  if address = some registration.address then { registration with closed := true }
  else registration

def CoreNotification.startedEffect : CoreNotification → Option TransportEffect
  | .transportEffect effect => some effect
  | _ => none

namespace HostDesk

variable (desk : HostDesk)

/-- Take over what a step of the worker did. -/
def record {α : Type} (processed : Processed α) (shown : Option String) : HostDesk :=
  { desk with
    projection := processed.projection
    inputs := desk.inputs ++ processed.submitted.map ActorMessage.input
    lastError := shown.or desk.lastError
    running := processed.result.isOk }

/-- The text that an event leaves as the last error. -/
def eventError (processed : Processed (Option String)) : Option String :=
  match processed.result with
  | .ok shown => shown
  | .error error => some error.message

def handleEvent (event : Transport.TransportEvent) (answers : HostAnswers) : HostDesk :=
  let processed := processEvent desk.projection desk.advertisement desk.actor.snapshot.hostDraft
    answers event
  { desk.record processed (eventError processed) with
    registrations :=
      desk.registrations.map
          (JoinRegistration.close (if processed.result.isOk then closedAddress event else none)) ++
        joinRegistrations processed.submitted event }

def handleEffect (effect : TransportEffect) (effects : List TransportEffect)
    (answers : HostAnswers) : HostDesk :=
  let processed := processEffect desk.projection effect answers
  { desk.record processed processed.shown with effects }

def processInput : HostDesk :=
  match desk.inputs with
  | [] => desk
  | message :: inputs =>
    { desk with
      actor := (desk.actor.receive message).1
      inputs
      effects := desk.effects ++
        (desk.actor.receive message).2.notifications.filterMap CoreNotification.startedEffect }

def step : HostDeskStep → HostDesk
  | .event event answers => if desk.running then desk.handleEvent event answers else desk
  | .effect answers =>
    match desk.running, desk.effects with
    | true, effect :: effects => desk.handleEffect effect effects answers
    | _, _ => desk
  | .process => desk.processInput
  | .message message =>
    if message.joinRequest.isSome then desk else { desk with inputs := desk.inputs ++ [message] }

end HostDesk

/-- A host from the start of its transport, without requests of an earlier one. -/
def hostDesk : Machine HostDesk HostDeskStep Unit where
  init desk := actor.Reachable desk.actor ∧ desk.actor.snapshot.pendingJoinRequests = [] ∧
    (∀ message ∈ desk.inputs, message.joinRequest = none) ∧ desk.projection = {} ∧
    desk.registrations = []
  step desk x := (desk.step x, ())

end Desktop

end SilentDisco
