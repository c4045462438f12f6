import SilentDisco.Library.Runs
import SilentDisco.Runtime.Types
import SilentDisco.Transport.ControlReader

/-!
# Events of the socket host

Every control connection of the host has a reader. It forwards frames to the bounded event queue,
and leaves its terminal event in a mailbox of its own when it exits. `recvEvent` drains the queue
first and then looks into the mailbox. Readers, other producers and the receiver take their steps
in any order; a step is one access to the queue or the mailbox with the local work before it.

## Main definitions

* `TransportEvent`: what the host transport reports
* `Reader.onOutcome`, `Reader.retry`, `Reader.refuse`: the callback of a reader, one access at a
  time
* `HostEvents`: the queue, the mailbox, the readers and the receiver
* `hostEvents`: the machine of all steps
-/

namespace SilentDisco.Transport

open Protocol Runtime

structure SocketAddr where
  ip : IpAddr
  port : UInt16
  deriving DecidableEq

structure TransportPeer where
  deviceId : Option DeviceId
  controlAddress : SocketAddr
  deriving DecidableEq

structure ListenerDatagramRoutes where
  synchronization : SocketAddr
  audio : SocketAddr
  deriving DecidableEq

inductive TransportEvent
  | peerAccepted (peer : TransportPeer) (receivedAt : MonotonicMillis)
  | peerAuthorized (peer : TransportPeer) (routes : ListenerDatagramRoutes)
      (receivedAt : MonotonicMillis)
  | frameReceived (channel : TransportChannel) (peer : TransportPeer) (frame : ProtocolFrame)
      (receivedAt : MonotonicMillis)
  | peerDisconnected (peer : TransportPeer) (error : Option TransportError)
      (receivedAt : MonotonicMillis)
  | rejected (channel : TransportChannel) (source : SocketAddr) (error : TransportError)
      (receivedAt : MonotonicMillis)
  deriving DecidableEq

/-- Diagnostics, datagrams and telemetry may be dropped. -/
def isBestEffortEvent : TransportEvent → Bool
  | .rejected .. => true
  | .frameReceived .audio .. | .frameReceived .synchronization .. => true
  | .frameReceived .control _ (.control (.heartbeat _)) _ => true
  | .frameReceived .control _ (.control (.synchronizationReport _)) _ => true
  | _ => false

/-! ## Readers -/

/-- Where a reader stands. -/
inductive ReaderPhase
  | reading
  /-- Trying to put an event that must not be lost into the queue. -/
  | delivering (event : TransportEvent)
  /-- The queue was full for a join, which is to be refused. -/
  | refusing (listenerId : DeviceId)
  /-- The loop has ended; the terminal event is not yet in the mailbox. -/
  | exiting
  /-- The terminal event is in the mailbox; the slot of the peer is still reserved. -/
  | reported
  | exited
  deriving DecidableEq

structure Reader where
  remote : SocketAddr
  identity : Option DeviceId := none
  joinForwarded : Bool := false
  terminalError : Option TransportError := none
  phase : ReaderPhase := .reading
  deriving DecidableEq

def requireAuthorizedIdentity (authorized : Bool) (identity : Option DeviceId)
    (deviceId : DeviceId) : Except TransportError (Option DeviceId) :=
  if authorized = false ∨ identity ≠ some deviceId then
    .error ⟨.unauthorized, .control,
      "control frame was not sent by the authorized peer identity"⟩
  else .ok identity

/-- Check a frame against the identity of the peer, with the identity that the peer then has. -/
def validateHostFrame (authorized : Bool) (identity : Option DeviceId) :
    ProtocolFrame → Except TransportError (Option DeviceId)
  | .control (.joinRequest request) =>
    if ∃ current ∈ identity, current ≠ request.device.deviceId then
      .error ⟨.unauthorized, .control, "control peer attempted to change device identity"⟩
    else .ok (some request.device.deviceId)
  | .control (.heartbeat value) => requireAuthorizedIdentity authorized identity value.listenerId
  | .control (.disconnect value) => requireAuthorizedIdentity authorized identity value.listenerId
  | .control (.resyncNotice value) =>
    requireAuthorizedIdentity authorized identity value.listenerId
  | .control (.synchronizationReport value) =>
    requireAuthorizedIdentity authorized identity value.listenerId
  | .control _ =>
    .error ⟨.unauthorized, .control, "listener sent a host-only control message"⟩
  | _ => .error ⟨.protocol, .control, "non-control frame reached host control validation"⟩

/-- The device that a frame asks to admit. -/
def joiningDevice : ProtocolFrame → Option DeviceId
  | .control (.joinRequest request) => some request.device.deviceId
  | _ => none

namespace Reader

variable (reader : Reader)

def transportPeer : TransportPeer := ⟨reader.identity, reader.remote⟩

/-- Something was rejected: the loop ends, with a diagnostic event if the queue has room. -/
def fail (room : Bool) (now : MonotonicMillis) (error : TransportError) :
    Reader × Option TransportEvent :=
  ({ reader with terminalError := some error, phase := .exiting },
    if room then some (.rejected .control reader.remote error now) else none)

/-- A frame that is valid for a peer. -/
def forward (room : Bool) (now : MonotonicMillis) (frame : ProtocolFrame) :
    Reader × Option TransportEvent :=
  let event := .frameReceived .control reader.transportPeer frame now
  match joiningDevice frame with
  | some listenerId =>
    -- One join for each connection; a repeated one is dropped.
    if reader.joinForwarded then (reader, none)
    else if room then ({ reader with joinForwarded := true }, some event)
    else ({ reader with joinForwarded := true, phase := .refusing listenerId }, none)
  | none =>
    if isBestEffortEvent event then (reader, if room then some event else none)
    else ({ reader with phase := .delivering event }, none)

/-- The callback of the loop, with the event that it puts into the queue. -/
def onOutcome (authorized room : Bool) (now : MonotonicMillis) :
    ReadControlOutcome → Reader × Option TransportEvent
  | .frame frame _ =>
    match validateHostFrame authorized reader.identity frame with
    | .ok identity => { reader with identity }.forward room now frame
    | .error error => reader.fail room now error
  | .closed => ({ reader with phase := .exiting }, none)
  | .rejected error => reader.fail room now error

/-- One attempt to put an event that must not be lost into the queue. -/
def retry (event : TransportEvent) (stop timedOut room : Bool) : Reader × Option TransportEvent :=
  let failed := { reader with
    terminalError := some ⟨.queueFull, .control,
      "host control event delivery timed out; peer disconnected"⟩
    phase := .exiting }
  if stop then (failed, none)
  else if room then ({ reader with phase := .reading }, some event)
  else if timedOut then (failed, none)
  else (reader, none)

/-- Refuse a join, with the outcome of sending the refusal. -/
def refuse (result : Except TransportError Unit) : Reader :=
  { reader with
    terminalError := some (match result with
      | .ok () => ⟨.queueFull, .control, "host join queue full; busy rejection delivered"⟩
      | .error failure => ⟨.delivery, .control,
          "failed to deliver join busy refusal: " ++ failure.message⟩)
    phase := .exiting }

end Reader

/-! ## The host -/

/-- Where an event comes from. -/
inductive EventSource
  /-- A frame or a diagnostic of a reader. -/
  | reader (number : ℕ)
  /-- The terminal event of a reader. -/
  | terminal (number : ℕ)
  /-- Another thread. -/
  | other
  deriving DecidableEq

structure Entry where
  source : EventSource
  event : TransportEvent
  deriving DecidableEq

/-- Where `recvEvent` stands. -/
inductive RecvPhase
  | idle | checkQueue | checkMailbox | checkTime | waiting
  deriving DecidableEq

structure HostEvents where
  queue : List Entry := []
  mailbox : List Entry := []
  readers : ℕ → Option Reader := fun _ => none
  /-- The slots of peers that are not released. -/
  peers : List ℕ := []
  nextPeer : ℕ := 1
  stop : Bool := false
  receiver : RecvPhase := .idle

structure HostConfig where
  eventQueueCapacity : ℕ
  maxPeers : ℕ

inductive ReaderStep
  /-- The loop reports an outcome. -/
  | outcome (outcome : ReadControlOutcome) (authorized : Bool) (now : MonotonicMillis)
  /-- The loop sees the stop flag. -/
  | stopped
  | retry (stop timedOut : Bool)
  | refuse (result : Except TransportError Unit)
  /-- Leave the terminal event. -/
  | terminate (now : MonotonicMillis)
  /-- Release the slot of the peer. -/
  | release

inductive HostStep
  /-- A connection is accepted, unless the slots are used up. -/
  | accept (remote : SocketAddr) (now : MonotonicMillis)
  | reader (number : ℕ) (step : ReaderStep)
  /-- Another thread tries to put an event into the queue. -/
  | produce (event : TransportEvent)
  /-- `recvEvent` is called. -/
  | recv
  /-- `recvEvent` goes on; its time may be over. -/
  | receive (timeIsOver : Bool)

def recvTimeout : TransportError :=
  ⟨.timeout, .runtime, "timed out waiting for a transport event"⟩

namespace HostEvents

variable (config : HostConfig) (host : HostEvents)

/-- The queue has room for an event. -/
def room : Bool := host.queue.length < config.eventQueueCapacity

def setReader (number : ℕ) (reader : Reader) : HostEvents :=
  { host with readers := Function.update host.readers number (some reader) }

/-- A reader has taken a step, and may put an event into the queue. -/
def afterReader (number : ℕ) (result : Reader × Option TransportEvent) : HostEvents :=
  { host.setReader number result.1 with
    queue := host.queue ++ (result.2.toList.map fun event => ⟨.reader number, event⟩) }

/-- The terminal event of a reader; a full mailbox stops the host. -/
def terminate (number : ℕ) (reader : Reader) (now : MonotonicMillis) : HostEvents :=
  let host := host.setReader number { reader with phase := .reported }
  if host.mailbox.length ≥ config.maxPeers then { host with stop := true }
  else
    { host with
      mailbox := host.mailbox ++
        [⟨.terminal number, .peerDisconnected reader.transportPeer reader.terminalError now⟩] }

/-- A step of a reader that stands where the step starts. -/
def readerStep (number : ℕ) (reader : Reader) : ReaderStep → HostEvents
  | .outcome outcome authorized now =>
    if reader.phase = .reading then
      host.afterReader number (reader.onOutcome authorized (host.room config) now outcome)
    else host
  | .stopped =>
    if reader.phase = .reading then host.setReader number { reader with phase := .exiting }
    else host
  | .retry stop timedOut =>
    match reader.phase with
    | .delivering event =>
      host.afterReader number (reader.retry event stop timedOut (host.room config))
    | _ => host
  | .refuse result =>
    match reader.phase with
    | .refusing _ => host.setReader number (reader.refuse result)
    | _ => host
  | .terminate now =>
    if reader.phase = .exiting then host.terminate config number reader now else host
  | .release =>
    if reader.phase = .reported then
      { host.setReader number { reader with phase := .exited } with
        peers := host.peers.erase number }
    else host

/-- Accept a connection and start its reader, once the queue has its first event. -/
def accept (remote : SocketAddr) (now : MonotonicMillis) : HostEvents :=
  if host.peers.length + host.mailbox.length ≥ config.maxPeers then host
  else
    let host := { host with nextPeer := host.nextPeer + 1 }
    if host.room config then
      let number := host.nextPeer - 1
      { host.setReader number { remote } with
        queue := host.queue ++ [⟨.other, .peerAccepted ⟨none, remote⟩ now⟩]
        peers := number :: host.peers }
    else host

/-- What a call of `recvEvent` returns, if it returns. -/
abbrev Received := Option (Except TransportError Entry)

/-- Take the first event of the queue, or go on. -/
def takeQueue (otherwise : HostEvents × Received) : HostEvents × Received :=
  match host.queue with
  | entry :: queue => ({ host with queue, receiver := .idle }, some (.ok entry))
  | [] => otherwise

/-- One access of `recvEvent`. -/
def receive (timeIsOver : Bool) : HostEvents × Received :=
  match host.receiver with
  | .idle => (host, none)
  | .checkQueue => host.takeQueue ({ host with receiver := .checkMailbox }, none)
  | .checkMailbox =>
    match host.mailbox with
    | entry :: mailbox => ({ host with mailbox, receiver := .idle }, some (.ok entry))
    | [] => ({ host with receiver := .checkTime }, none)
  | .checkTime =>
    if timeIsOver then
      host.takeQueue ({ host with receiver := .idle }, some (.error recvTimeout))
    else ({ host with receiver := .waiting }, none)
  | .waiting =>
    -- The wait ends after a while, and everything is checked again.
    host.takeQueue ({ host with receiver := if timeIsOver then .checkQueue else .waiting }, none)

def step : HostStep → HostEvents × Received
  | .accept remote now => (host.accept config remote now, none)
  | .reader number step =>
    ((host.readers number).elim host fun reader => host.readerStep config number reader step, none)
  | .produce event =>
    (if host.room config then { host with queue := host.queue ++ [⟨.other, event⟩] } else host,
      none)
  | .recv =>
    (if host.receiver = .idle then { host with receiver := .checkQueue } else host, none)
  | .receive timeIsOver => host.receive timeIsOver

end HostEvents

/-- The host from its start. -/
def hostEvents (config : HostConfig) : Machine HostEvents HostStep HostEvents.Received where
  init host := host = {}
  step := HostEvents.step config

end SilentDisco.Transport
