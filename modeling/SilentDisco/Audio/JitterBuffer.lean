import SilentDisco.Audio.Packetizer
import SilentDisco.Library.Runs
import SilentDisco.Library.SortedBy

/-!
# Jitter buffer

The packets of one stream that wait for their turn, in the order of their sequence numbers. A
packet far ahead of the expected one is only retained as a candidate, until three consecutive
candidates show that the stream has moved and are promoted together.

Counters are totals: a counter of the source is its total modulo `2 ^ 64`. The expected sequence
number wraps, as it does in the source without overflow checks, and the buffer remembers that it
did.

## Main definitions

* `JitterBuffer`: the buffered packets, the expected sequence number and the candidates
* `JitterBuffer.accept`: one arriving packet
* `JitterBuffer.popInOrder`, `discardInOrder`, `skipExpectedSequence`, `skipToEarliestBuffered`,
  `drainAll`: the ways in which the expected sequence number advances
* `jitterBuffer`: the machine of all calls
-/

namespace SilentDisco

open Result Protocol

def defaultMaxReorderWindow : UInt32 := 64
def maxReorderWindowLimit : UInt32 := 4096
def defaultMaxBufferedDurationMs : UInt64 := 2000
def maxBufferedDurationLimitMs : UInt64 := 60000

/-- Consecutive packets that show that the stream has moved. -/
def farFutureResyncPackets : ℕ := 3

/-- Sums that stay at the largest 64-bit number. -/
def saturatingAdd (a b : ℕ) : ℕ := min (a + b) u64Max

/-- The total of a counter after a saturating addition to it. -/
def saturatingTotal (total n : ℕ) : ℕ := total + min n (u64Max - total % 2 ^ 64)

def absDiff (a b : ℕ) : ℕ := max a b - min a b

structure JitterBufferConfig where
  sessionId : SessionId
  streamId : StreamId
  firstSequence : UInt64 := 0
  maxReorderWindow : UInt32 := defaultMaxReorderWindow
  maxBufferedDurationMs : UInt64 := defaultMaxBufferedDurationMs
  deriving DecidableEq

inductive JitterBufferConfigErrorKind
  | reorderWindowTooLarge | bufferedDurationOutOfRange
  deriving DecidableEq

structure JitterBufferConfigError where
  kind : JitterBufferConfigErrorKind
  message : String
  deriving DecidableEq

/-- The bounds of a configuration. -/
structure JitterBufferConfig.Valid (config : JitterBufferConfig) : Prop where
  window_le : config.maxReorderWindow ≤ maxReorderWindowLimit
  duration_pos : config.maxBufferedDurationMs ≠ 0
  duration_le : config.maxBufferedDurationMs ≤ maxBufferedDurationLimitMs

inductive JitterBufferRejectionKind
  | wrongSession | wrongStream | duplicate | alreadyEmitted | reorderWindowExceeded
  | bufferedDurationExceeded
  deriving DecidableEq

structure JitterBufferRejection where
  kind : JitterBufferRejectionKind
  message : String
  deriving DecidableEq

structure JitterBufferStatistics where
  accepted : ℕ := 0
  wrongSessionRejections : ℕ := 0
  wrongStreamRejections : ℕ := 0
  duplicateRejections : ℕ := 0
  lateRejections : ℕ := 0
  reorderWindowRejections : ℕ := 0
  bufferedDurationRejections : ℕ := 0
  emitted : ℕ := 0
  skipped : ℕ := 0
  resynchronisations : ℕ := 0
  deriving DecidableEq

/-- Each kind of rejection has a counter. -/
def JitterBufferStatistics.countRejection (statistics : JitterBufferStatistics) :
    JitterBufferRejectionKind → JitterBufferStatistics
  | .wrongSession =>
    { statistics with wrongSessionRejections := statistics.wrongSessionRejections + 1 }
  | .wrongStream =>
    { statistics with wrongStreamRejections := statistics.wrongStreamRejections + 1 }
  | .duplicate => { statistics with duplicateRejections := statistics.duplicateRejections + 1 }
  | .alreadyEmitted => { statistics with lateRejections := statistics.lateRejections + 1 }
  | .reorderWindowExceeded =>
    { statistics with reorderWindowRejections := statistics.reorderWindowRejections + 1 }
  | .bufferedDurationExceeded =>
    { statistics with bufferedDurationRejections := statistics.bufferedDurationRejections + 1 }

namespace Protocol.AudioDatagram

variable (datagram : AudioDatagram)

/-- The place of a packet in its stream. -/
def position : ℕ := datagram.sequence.get.toNat

/-- The host's presentation time of a packet. -/
def timeMs : ℕ := datagram.hostPresentationTimeMs.get.toNat

theorem position_lt : datagram.position < 2 ^ 64 :=
  datagram.sequence.get.toNat_lt

end Protocol.AudioDatagram

/-- Packets by their sequence numbers. -/
abbrev PacketMap := SortedBy AudioDatagram.position

/-- The jitter buffer of one stream, whose configuration is within its bounds. -/
structure JitterBuffer where
  config : JitterBufferConfig
  packets : PacketMap
  nextExpectedSequence : UInt64
  statistics : JitterBufferStatistics
  /-- Packets far ahead, that do not yet show that the stream has moved. -/
  farFutureCandidates : PacketMap
  /-- The expected sequence number has wrapped. -/
  overflowed : Bool
  valid : config.Valid

namespace JitterBuffer

/-- An empty buffer, if its configuration is within the bounds. -/
def new (config : JitterBufferConfig) : Except JitterBufferConfigError JitterBuffer :=
  if hwindow : config.maxReorderWindow > maxReorderWindowLimit then
    .error ⟨.reorderWindowTooLarge,
      "reorder window of " ++ toString config.maxReorderWindow ++ " packets exceeds the " ++
        toString maxReorderWindowLimit ++ "-packet limit"⟩
  else if hduration : config.maxBufferedDurationMs = 0 ∨
      config.maxBufferedDurationMs > maxBufferedDurationLimitMs then
    .error ⟨.bufferedDurationOutOfRange,
      "buffered duration of " ++ toString config.maxBufferedDurationMs ++
        "ms must be nonzero and within the " ++ toString maxBufferedDurationLimitMs ++ "ms limit"⟩
  else
    .ok
      { config
        packets := .empty
        nextExpectedSequence := config.firstSequence
        statistics := {}
        farFutureCandidates := .empty
        overflowed := false
        valid :=
          { window_le := UInt32.not_lt.mp hwindow
            duration_pos := fun h => hduration (.inl h)
            duration_le := UInt64.not_lt.mp fun h => hduration (.inr h) } }

variable (buffer : JitterBuffer)

/-- The expected place in the stream. -/
def expected : ℕ := buffer.nextExpectedSequence.toNat

def window : ℕ := buffer.config.maxReorderWindow.toNat

def isEmpty : Bool := buffer.packets.isEmpty

def len : ℕ := buffer.packets.length

/-- The earliest buffered place. -/
def peekNextSequence : Option ℕ := buffer.packets.first?.map AudioDatagram.position

/-! ## Arrivals -/

/-- Count a rejected packet. -/
def reject (kind : JitterBufferRejectionKind) (message : String) :
    Except JitterBufferRejection Unit × JitterBuffer :=
  (.error ⟨kind, message⟩, { buffer with statistics := buffer.statistics.countRejection kind })

variable (datagram : AudioDatagram)

/-- The candidates near a packet; those of another outage are dropped together. -/
def nearCandidates : PacketMap :=
  if (buffer.farFutureCandidates.first?.any fun first => datagram.position - first.position > 2) ||
      (buffer.farFutureCandidates.last?.any fun last => last.position - datagram.position > 2) then
    .empty
  else buffer.farFutureCandidates

/-- The candidates take the place of the buffered packets. -/
def promote (candidates : PacketMap) (sequence : UInt64) : JitterBuffer :=
  { buffer with
    nextExpectedSequence := (candidates.first?.map fun first => first.sequence.get).getD sequence
    packets := candidates
    farFutureCandidates := .empty
    statistics.reorderWindowRejections := buffer.statistics.reorderWindowRejections + 1
    statistics.resynchronisations := buffer.statistics.resynchronisations + 1
    statistics.skipped := buffer.statistics.skipped + buffer.packets.length
    statistics.accepted := buffer.statistics.accepted + 3 }

/-- A packet beyond the reorder window. -/
def acceptFarFuture : Except JitterBufferRejection Unit × JitterBuffer :=
  if buffer.farFutureCandidates.contains datagram.position then
    buffer.reject .reorderWindowExceeded "duplicate far-future sequence cannot corroborate resync"
  else
    let candidates := (buffer.nearCandidates datagram).insert datagram
    if candidates.length < farFutureResyncPackets then
      reject { buffer with farFutureCandidates := candidates } .reorderWindowExceeded
        "far-future stream position awaits corroborating packets"
    else (.ok (), buffer.promote candidates datagram.sequence.get)

/-- The time between a packet and the earliest buffered one is too long. -/
def exceedsDuration : Bool :=
  buffer.packets.first?.any fun earliest =>
    absDiff earliest.timeMs datagram.timeMs > buffer.config.maxBufferedDurationMs.toNat

/-- Buffer a packet. -/
def store : JitterBuffer :=
  { buffer with
    farFutureCandidates := .empty
    packets := buffer.packets.insert datagram
    statistics.accepted := buffer.statistics.accepted + 1 }

/-- One arriving packet. -/
def accept : Except JitterBufferRejection Unit × JitterBuffer :=
  if datagram.sessionId ≠ buffer.config.sessionId then
    buffer.reject .wrongSession
      "packet session does not match this jitter buffer's configured session"
  else if datagram.streamId ≠ buffer.config.streamId then
    buffer.reject .wrongStream "packet stream does not match this jitter buffer's configured stream"
  else if datagram.sequence.get < buffer.nextExpectedSequence then
    buffer.reject .alreadyEmitted "packet sequence was already emitted in order"
  else if buffer.packets.contains datagram.position then
    buffer.reject .duplicate "packet sequence is already buffered awaiting emission"
  else if (datagram.sequence.get - buffer.nextExpectedSequence).toNat > buffer.window then
    buffer.acceptFarFuture datagram
  else if buffer.exceedsDuration datagram then
    buffer.reject .bufferedDurationExceeded
      "accepting this packet would exceed the maximum buffered duration"
  else (.ok (), buffer.store datagram)

/-! ## Advancing -/

/-- Advance past the expected sequence number. -/
def advance : JitterBuffer :=
  { buffer with
    nextExpectedSequence := buffer.nextExpectedSequence + 1
    overflowed := buffer.overflowed || buffer.nextExpectedSequence = .ofNat u64Max }

def countEmitted : JitterBuffer :=
  { buffer with statistics.emitted := buffer.statistics.emitted + 1 }

def countSkipped (n : ℕ) : JitterBuffer :=
  { buffer with statistics.skipped := buffer.statistics.skipped + n }

/-- Remove the packet in its place and advance past it. -/
def take : JitterBuffer :=
  { buffer.advance with packets := buffer.packets.remove buffer.expected }

/-- The expected packet, if it has arrived. -/
def popInOrder : Option AudioDatagram × JitterBuffer :=
  match buffer.packets.find? buffer.expected with
  | none => (none, buffer)
  | some datagram => (some datagram, buffer.take.countEmitted)

/-- Drop the expected packet, if it has arrived. -/
def discardInOrder : Bool × JitterBuffer :=
  if buffer.packets.contains buffer.expected then (true, buffer.take.countSkipped 1)
  else (false, buffer)

/-- Stop waiting for the expected packet. -/
def skipExpectedSequence : JitterBuffer := buffer.advance.countSkipped 1

/-- Packets known to be missing before the earliest buffered one. -/
def missingSequenceCount : ℕ :=
  match buffer.packets.first? with
  | none => 0
  | some lowest => lowest.position - buffer.expected

/-- Advance to the earliest buffered packet. -/
def skipToEarliestBuffered : ℕ × JitterBuffer :=
  let skipped := buffer.missingSequenceCount
  if skipped > 0 then
    (skipped,
      { buffer.countSkipped skipped with
        nextExpectedSequence := buffer.nextExpectedSequence + .ofNat skipped })
  else (skipped, buffer)

/-- The place after drained packets, and the places skipped among them. -/
def drainGaps (expected skipped : ℕ) : List AudioDatagram → ℕ × ℕ
  | [] => (expected, skipped)
  | datagram :: drained =>
    drainGaps (saturatingAdd datagram.position 1)
      (saturatingAdd skipped (datagram.position - expected)) drained

/-- Remove all packets and advance past the last of them. -/
def drainAll : List AudioDatagram × JitterBuffer :=
  let drained := buffer.packets.toList
  let gaps := drainGaps buffer.expected 0 drained
  (drained,
    { buffer with
      packets := .empty
      nextExpectedSequence := .ofNat gaps.1
      statistics.skipped := saturatingTotal buffer.statistics.skipped gaps.2
      statistics.emitted := saturatingTotal buffer.statistics.emitted drained.length })

/-- The time between the earliest and the latest presentation time. -/
def bufferedSpanMs : ℕ :=
  match buffer.packets.toList.map AudioDatagram.timeMs with
  | [] => 0
  | first :: times =>
    let range := times.foldl (fun range time => (min range.1 time, max range.2 time)) (first, first)
    range.2 - range.1

end JitterBuffer

/-! ## The machine -/

inductive JitterBufferCall
  | accept (datagram : AudioDatagram)
  | popInOrder
  | discardInOrder
  | skipExpectedSequence
  | skipToEarliestBuffered
  | drainAll
  deriving DecidableEq

inductive JitterBufferReply
  | arrival (result : Except JitterBufferRejection Unit)
  | packet (datagram : Option AudioDatagram)
  | discarded (found : Bool)
  | advanced
  | skipped (count : ℕ)
  | drained (datagrams : List AudioDatagram)

/-- The jitter buffer under any calls. -/
def jitterBuffer : Machine JitterBuffer JitterBufferCall JitterBufferReply where
  init buffer := ∃ config, JitterBuffer.new config = .ok buffer
  step buffer
    | .accept datagram =>
      let (result, buffer) := buffer.accept datagram
      (buffer, .arrival result)
    | .popInOrder =>
      let (datagram, buffer) := buffer.popInOrder
      (buffer, .packet datagram)
    | .discardInOrder =>
      let (found, buffer) := buffer.discardInOrder
      (buffer, .discarded found)
    | .skipExpectedSequence => (buffer.skipExpectedSequence, .advanced)
    | .skipToEarliestBuffered =>
      let (count, buffer) := buffer.skipToEarliestBuffered
      (buffer, .skipped count)
    | .drainAll =>
      let (datagrams, buffer) := buffer.drainAll
      (buffer, .drained datagrams)

end SilentDisco
