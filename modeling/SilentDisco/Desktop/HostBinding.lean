import Mathlib.Logic.Function.Basic
import SilentDisco.Library.Runs

/-!
# The host binding and its pumps

The desktop host has at most one binding, which owns the streamer of its playback. Three kinds of
threads share it under one lock: the effect thread starts and stops the host, the command thread
starts and stops playback, and each stream has a pump thread, which needs the binding until it has
broadcast the end of the stream.

One step is a region under the lock, the join of a pump thread that has exited, or an iteration of
a pump. A call that waits for a pump stays where it is.

## Main definitions

* `ActiveBinding`, `PumpThread`: a binding with its streamer, and the thread of a streamer
* `HostControl.startPlayback`, `HostControl.stopPlayback`: the calls of the command thread
* `HostControl.stopHost`: the call of the effect thread
* `hostControl`: the machine of all threads
-/

namespace SilentDisco.Desktop

/-- Where a pump thread is: in its loop, behind it, or at its end. Its result is an error if any of
its steps has failed. -/
inductive PumpPhase
  | running
  | ending (failed : Bool)
  | exited (failed : Bool)
  deriving DecidableEq

/-- The pump thread of a streamer, with the number of the binding it was started for. -/
structure PumpThread where
  binding : ℕ
  stop : Bool := false
  phase : PumpPhase := .running
  deriving DecidableEq

/-- A bound endpoint, and the streamer that it owns. -/
structure ActiveBinding where
  number : ℕ
  playback : Option ℕ := none
  deriving DecidableEq

inductive ControlError
  | unavailable (message : String)
  | invalidState (message : String)
  /-- The endpoint could not be bound. -/
  | transport
  /-- The actor, the queue of the transport or the thread did not start the stream. -/
  | start
  /-- The pump of a stream has failed. -/
  | pump
  deriving DecidableEq

/-- Where the command thread is. -/
inductive CommandPhase
  | idle
  /-- `start_playback` has checked that no stream is active. -/
  | starting
  /-- The start of the stream has been broadcast to a binding. -/
  | announced (binding : ℕ)
  /-- The pump of the new streamer runs. -/
  | spawned (pump : ℕ)
  /-- A streamer is dropped, which joins its pump. -/
  | dropping (pump : ℕ)
  /-- `stop_playback` joins the pump. -/
  | joining (pump : ℕ)
  deriving DecidableEq

/-- Where the effect thread is in `stop_host_inner`. -/
inductive EffectPhase
  | idle
  | joining (pump : ℕ)
  /-- The pump has been joined; the binding is to be detached. -/
  | detaching (failed : Bool)
  /-- The binding is detached; what it owns is shut down. -/
  | releasing (binding : ActiveBinding) (failed : Bool)
  /-- The streamer of the binding is dropped, which joins its pump. -/
  | dropping (binding : ℕ) (pump : ℕ) (failed : Bool)
  deriving DecidableEq

structure HostControl where
  active : Option ActiveBinding := none
  nextBinding : ℕ := 0
  pumps : ℕ → Option PumpThread := fun _ => none
  nextPump : ℕ := 0
  command : CommandPhase := .idle
  effect : EffectPhase := .idle

/-- What an iteration of a pump meets. -/
structure PumpIteration where
  paused : Bool := false
  /-- The loop is left, with an error or without. -/
  left : Option Bool := none
  /-- The end of the stream is broadcast and reported. -/
  ended : Bool := true
  deriving DecidableEq

inductive ControlStep
  | startHost (bound : Bool)
  | stopHost
  /-- The effect thread goes on. -/
  | effect
  | startPlayback (startingReplacementStream : Bool)
  | stopPlayback
  /-- The command thread goes on; the actor, the transport and the thread may fail. -/
  | command (succeeds : Bool)
  /-- A pump goes on. -/
  | pump (number : ℕ) (iteration : PumpIteration)
  deriving DecidableEq

inductive ControlEvent
  | silent
  /-- A call returns. -/
  | returned (result : Except ControlError Unit)
  /-- `stop_host_inner` has detached a binding. -/
  | detached (binding : ℕ)
  /-- `stop_host_inner` returns after it has detached a binding. -/
  | hostStopped (binding : ℕ) (result : Except ControlError Unit)
  /-- A streamer was dropped, and the failure of its pump has no owner. -/
  | panicked
  deriving DecidableEq

namespace HostControl

variable (h : HostControl)

def pumpPhase (n : ℕ) : Option PumpPhase := (h.pumps n).map PumpThread.phase

def modifyPump (n : ℕ) (f : PumpThread → PumpThread) : HostControl :=
  { h with pumps := Function.update h.pumps n ((h.pumps n).map f) }

/-- Tell a pump to stop. -/
def requestStop (n : ℕ) : HostControl := h.modifyPump n fun pump => { pump with stop := true }

/-- A call returns to the command thread. -/
def commandReturns (result : Except ControlError Unit) : HostControl × ControlEvent :=
  ({ h with command := .idle }, .returned result)

def pumpResult (failed : Bool) : Except ControlError Unit :=
  if failed then .error .pump else .ok ()

/-! ## The effect thread -/

def startHost (bound : Bool) : HostControl × ControlEvent :=
  if h.effect ≠ .idle then (h, .silent)
  else if h.active.isSome then
    (h, .returned (.error (.invalidState "desktop host network endpoint is already active")))
  else if bound then
    ({ h with active := some { number := h.nextBinding }, nextBinding := h.nextBinding + 1 },
      .returned (.ok ()))
  else (h, .returned (.error .transport))

def notActive : ControlError := .invalidState "desktop host network endpoint is not active"

/-- The first region of `stop_host_inner`: take the streamer and tell its pump to stop. -/
def stopHost : HostControl × ControlEvent :=
  if h.effect ≠ .idle then (h, .silent)
  else
    match h.active with
    | none => (h, .returned (.error notActive))
    | some { playback := none, .. } => ({ h with effect := .detaching false }, .silent)
    | some { number, playback := some pump } =>
      ({ h.requestStop pump with active := some { number }, effect := .joining pump }, .silent)

/-- The result of `stop_host_inner`: a failed pump is not a clean shutdown. -/
def hostStopped (binding : ℕ) (failed : Bool) : HostControl × ControlEvent :=
  ({ h with effect := .idle }, .hostStopped binding
    (if failed then
      .error (.invalidState "host shut down, but its playback pump did not stop cleanly")
    else .ok ()))

/-- The rest of `stop_host_inner`. -/
def runEffect : HostControl × ControlEvent :=
  match h.effect with
  | .idle => (h, .silent)
  | .joining pump =>
    match h.pumpPhase pump with
    | some (.exited failed) => ({ h with effect := .detaching failed }, .silent)
    | _ => (h, .silent)
  | .detaching failed =>
    match h.active with
    | none => ({ h with effect := .idle }, .returned (.error notActive))
    | some binding =>
      ({ h with active := none, effect := .releasing binding failed }, .detached binding.number)
  | .releasing { number, playback := none } failed => h.hostStopped number failed
  | .releasing { number, playback := some pump } failed =>
    ({ h.requestStop pump with effect := .dropping number pump failed }, .silent)
  | .dropping binding pump failed =>
    match h.pumpPhase pump with
    | some (.exited false) => h.hostStopped binding failed
    | some (.exited true) => ({ h with effect := .idle }, .panicked)
    | _ => (h, .silent)

/-! ## The command thread -/

/-- The first region of `start_playback`: join the streamer of a stream that has ended. -/
def startPlayback (startingReplacementStream : Bool) : HostControl × ControlEvent :=
  if h.command ≠ .idle then (h, .silent)
  else
    match h.active with
    | none => (h, .returned (.error (.unavailable
        "starting playback requires an active desktop host session")))
    | some { playback := none, .. } => ({ h with command := .starting }, .silent)
    | some { number, playback := some pump } =>
      match h.pumpPhase pump with
      | some (.exited failed) =>
        if failed && !startingReplacementStream then
          ({ h with active := some { number } }, .returned (.error .pump))
        else ({ h with active := some { number }, command := .starting }, .silent)
      | _ => (h, .returned (.error (.invalidState
          "playback is already active for this host session")))

def stopPlayback : HostControl × ControlEvent :=
  if h.command ≠ .idle then (h, .silent)
  else
    match h.active with
    | none => (h, .returned (.error (.unavailable
        "stopping playback requires an active desktop host session")))
    | some { playback := none, .. } =>
      (h, .returned (.error (.invalidState "no playback is active")))
    | some { number, playback := some pump } =>
      ({ h.requestStop pump with active := some { number }, command := .joining pump }, .silent)

/-- Broadcast the start of the stream, which needs a binding. -/
def announce (succeeds : Bool) : HostControl × ControlEvent :=
  match h.active, succeeds with
  | some binding, true => ({ h with command := .announced binding.number }, .silent)
  | _, _ => h.commandReturns (.error .start)

/-- Start the pump of the new streamer. -/
def spawnPump (binding : ℕ) (succeeds : Bool) : HostControl × ControlEvent :=
  if succeeds then
    ({ h with
      pumps := Function.update h.pumps h.nextPump (some { binding })
      nextPump := h.nextPump + 1
      command := .spawned h.nextPump }, .silent)
  else h.commandReturns (.error .start)

/-- The last region of `start_playback`: the binding takes the streamer. Without a binding the
streamer is dropped, as is one that the binding still had. -/
def installStreamer (pump : ℕ) : HostControl × ControlEvent :=
  match h.active with
  | none => ({ h.requestStop pump with command := .dropping pump }, .silent)
  | some { number, playback := none } =>
    { h with active := some { number, playback := some pump } }.commandReturns (.ok ())
  | some { number, playback := some old } =>
    ({ h.requestStop old with
      active := some { number, playback := some pump }
      command := .dropping old }, .silent)

/-- The rest of the calls of the command thread. -/
def runCommand (succeeds : Bool) : HostControl × ControlEvent :=
  match h.command with
  | .idle => (h, .silent)
  | .starting => h.announce succeeds
  | .announced binding => h.spawnPump binding succeeds
  | .spawned pump => h.installStreamer pump
  | .dropping pump =>
    match h.pumpPhase pump with
    | some (.exited false) =>
      h.commandReturns (.error (.unavailable
        "desktop host session ended while playback was starting"))
    | some (.exited true) => ({ h with command := .idle }, .panicked)
    | _ => (h, .silent)
  | .joining pump =>
    match h.pumpPhase pump with
    | some (.exited failed) => h.commandReturns (pumpResult failed)
    | _ => (h, .silent)

/-! ## The pump threads -/

/-- The next phase of a pump. The clock of the transport and the broadcast of the end of the stream
need a binding. -/
def nextPhase (pump : PumpThread) (iteration : PumpIteration) : PumpPhase :=
  match pump.phase with
  | .running =>
    if pump.stop then .ending false
    else if iteration.paused then .running
    else if h.active.isNone then .ending true
    else iteration.left.elim .running .ending
  | .ending failed => .exited (failed || !(iteration.ended && h.active.isSome))
  | .exited failed => .exited failed

def runPump (n : ℕ) (iteration : PumpIteration) : HostControl :=
  h.modifyPump n fun pump => { pump with phase := h.nextPhase pump iteration }

def step : ControlStep → HostControl × ControlEvent
  | .startHost bound => h.startHost bound
  | .stopHost => h.stopHost
  | .effect => h.runEffect
  | .startPlayback startingReplacementStream => h.startPlayback startingReplacementStream
  | .stopPlayback => h.stopPlayback
  | .command succeeds => h.runCommand succeeds
  | .pump n iteration => (h.runPump n iteration, .silent)

end HostControl

/-- The host from the start of the application. -/
def hostControl : Machine HostControl ControlStep ControlEvent where
  init h := h = {}
  step := HostControl.step

end SilentDisco.Desktop
