import SilentDisco.Library.Result
import SilentDisco.Library.Runs

/-!
# Replay accounting of secure datagrams

One window of sequence numbers for each peer and purpose of authenticated datagrams. A window
belongs to a generation of traffic keys, which only a higher generation replaces.

## Main definitions

* `ReplayWindow.check`, `ReplayWindow.commit`: the window of a channel
* `SecureDatagramReplay.activate`, `retire`, `checkCandidate`, `commitVerified`: the calls
* `secureReplay`: the machine of all calls
-/

namespace SilentDisco.Transport

open Result

/-- The width of a window. -/
def replayBits : UInt64 := 128

def maxPeerChannels : ℕ := 512

inductive DatagramPurpose
  | audio | synchronization
  deriving DecidableEq

abbrev PeerFingerprint := Vector UInt8 32

structure ReplayKey where
  peerFingerprint : PeerFingerprint
  generation : UInt64
  purpose : DatagramPurpose
  deriving DecidableEq

/-- The channel of a key. -/
abbrev ReplayKey.slot (key : ReplayKey) : PeerFingerprint × DatagramPurpose :=
  (key.peerFingerprint, key.purpose)

inductive ReplayError
  | invalidIdentity | invalidGeneration | tooManyPeers | unknownKey | retiredKey
  | wrongGeneration | duplicate | tooOld
  deriving DecidableEq

structure ReplayWindow where
  highest : Option UInt64 := none
  /-- Bit `i` stands for the sequence number `i` below the highest one. -/
  seen : BitVec 128 := 0
  deriving DecidableEq

namespace ReplayWindow

variable (window : ReplayWindow)

def check (sequence : UInt64) : Except ReplayError Unit :=
  match window.highest with
  | none => .ok ()
  | some highest =>
    if sequence > highest then .ok ()
    else if highest - sequence ≥ replayBits then .error .tooOld
    else if window.seen &&& (1#128 <<< (highest - sequence).toNat) ≠ 0 then .error .duplicate
    else .ok ()

/-- The window after a checked sequence number. -/
def record (sequence : UInt64) : ReplayWindow :=
  match window.highest with
  | none => { highest := some sequence, seen := 1 }
  | some highest =>
    if sequence > highest then
      { highest := some sequence
        seen :=
          if sequence - highest ≥ replayBits then 1
          else window.seen <<< (sequence - highest).toNat ||| 1 }
    else { window with seen := window.seen ||| 1#128 <<< (highest - sequence).toNat }

def commit (sequence : UInt64) : Except ReplayError ReplayWindow := do
  window.check sequence
  return window.record sequence

end ReplayWindow

structure PeerChannel where
  generation : UInt64
  active : Bool
  window : ReplayWindow
  deriving DecidableEq

/-- The channels, keyed by peer and purpose. -/
structure SecureDatagramReplay where
  channels : AList fun _ : PeerFingerprint × DatagramPurpose => PeerChannel := ∅

namespace SecureDatagramReplay

variable (replay : SecureDatagramReplay)

def new : SecureDatagramReplay := {}

def len : ℕ := replay.channels.keys.length

/-- The channel of a peer and a purpose. -/
def channel (slot : PeerFingerprint × DatagramPurpose) : Option PeerChannel :=
  replay.channels.lookup slot

/-- Install a channel, in place of the previous one. -/
def install (slot : PeerFingerprint × DatagramPurpose) (channel : PeerChannel) :
    SecureDatagramReplay :=
  { replay with channels := replay.channels.insert slot channel }

variable (key : ReplayKey)

/-- A channel is replaced by a higher generation, or added while there is room. -/
def checkActivation : Except ReplayError Unit :=
  match replay.channel key.slot with
  | some previous => rejectIf (key.generation ≤ previous.generation) .wrongGeneration
  | none => rejectIf (replay.len ≥ maxPeerChannels) .tooManyPeers

def activate : Except ReplayError SecureDatagramReplay := do
  rejectIf (key.peerFingerprint = Vector.replicate 32 0) .invalidIdentity
  rejectIf (key.generation = 0) .invalidGeneration
  replay.checkActivation key
  return replay.install key.slot { generation := key.generation, active := true, window := {} }

def checkCandidate (sequence : UInt64) : Except ReplayError Unit :=
  match replay.channel key.slot with
  | none => .error .unknownKey
  | some channel => do
    check (key.generation = channel.generation) .wrongGeneration
    check (channel.active = true) .retiredKey
    channel.window.check sequence

def commitVerified (sequence : UInt64) : Except ReplayError SecureDatagramReplay := do
  replay.checkCandidate key sequence
  match replay.channel key.slot with
  | none => .error .unknownKey
  | some channel =>
    let window ← channel.window.commit sequence
    return replay.install key.slot { channel with window }

def retire : Bool × SecureDatagramReplay :=
  match replay.channel key.slot with
  | none => (false, replay)
  | some channel =>
    if channel.generation ≠ key.generation ∨ channel.active = false then (false, replay)
    else (true, replay.install key.slot { channel with active := false })

end SecureDatagramReplay

inductive ReplayCall
  | activate (key : ReplayKey)
  | retire (key : ReplayKey)
  | checkCandidate (key : ReplayKey) (sequence : UInt64)
  | commitVerified (key : ReplayKey) (sequence : UInt64)
  deriving DecidableEq

def ReplayCall.key : ReplayCall → ReplayKey
  | .activate key | .retire key | .checkCandidate key _ | .commitVerified key _ => key

inductive ReplayReply
  | result (result : Except ReplayError Unit)
  | retired (done : Bool)
  deriving DecidableEq

/-- The call was rejected. -/
def ReplayReply.rejected : ReplayReply → Bool
  | .result (.error _) => true
  | .result (.ok ()) => false
  | .retired done => !done

namespace SecureDatagramReplay

/-- A fallible call keeps the state when it fails. -/
def settle (replay : SecureDatagramReplay) :
    Except ReplayError SecureDatagramReplay → SecureDatagramReplay × ReplayReply
  | .ok replay => (replay, .result (.ok ()))
  | .error error => (replay, .result (.error error))

def answer (replay : SecureDatagramReplay) : ReplayCall → SecureDatagramReplay × ReplayReply
  | .activate key => replay.settle (replay.activate key)
  | .retire key => ((replay.retire key).2, .retired (replay.retire key).1)
  | .checkCandidate key sequence => (replay, .result (replay.checkCandidate key sequence))
  | .commitVerified key sequence => replay.settle (replay.commitVerified key sequence)

end SecureDatagramReplay

/-- The accounting of one session: it starts without channels and takes one call at a time. -/
def secureReplay : Machine SecureDatagramReplay ReplayCall ReplayReply where
  init replay := replay = .new
  step := SecureDatagramReplay.answer

end SilentDisco.Transport
