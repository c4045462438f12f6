import SilentDisco.Audio.PlaybackPump
import SilentDisco.Library.CircularBuffer

/-!
# Render ring

The bounded queue of stereo frames between the pump, its only producer, and the real-time output,
its only consumer. Each side publishes an index of its own and reads the other's, of which it may
see an old value, but none older than it has seen before.

Indices live modulo `size`, which is `2 ^ w` on a target with words of `w` bits. With `size = 0`
they do not wrap: a remainder modulo zero is the number itself.

## Main definitions

* `RenderRing`: the slots, the indices and what each side has seen of the other's
* `RenderRing.pushFrames`, `RenderRing.readFrames`: the two sides
* `renderRing size`: the machine of both sides, with indices modulo `size`
-/

namespace SilentDisco

open Result

def defaultRingCapacityFrames : ℕ := 48000
def minRingCapacityFrames : ℕ := 4800
def maxRingCapacityFrames : ℕ := 480000

structure RenderRingConfig where
  capacityFrames : ℕ := defaultRingCapacityFrames
  targetFillFrames : ℕ := defaultTargetFillFrames
  deriving DecidableEq

inductive RenderRingConfigErrorKind
  | capacityOutOfRange | targetFillOutOfRange
  deriving DecidableEq

structure RenderRingConfigError where
  kind : RenderRingConfigErrorKind
  message : String
  deriving DecidableEq

/-- Totals; a counter of the source is its total modulo `2 ^ 64`. -/
structure RenderRingTelemetry where
  framesProduced : ℕ := 0
  framesRequested : ℕ := 0
  framesSuppliedFromRing : ℕ := 0
  silenceFilledFrames : ℕ := 0
  underrunCallbacks : ℕ := 0
  ringFullEvents : ℕ := 0
  deriving DecidableEq

structure RenderRing where
  capacityFrames : ℕ
  slots : List Float32
  writeIndex : ℕ
  readIndex : ℕ
  /-- What the producer has last seen of the read index. -/
  seenReadIndex : ℕ
  /-- What the consumer has last seen of the write index. -/
  seenWriteIndex : ℕ
  telemetry : RenderRingTelemetry
  deriving DecidableEq

/-! ## Indices -/

/-- An index that moves on. -/
def moveIndex (size index n : ℕ) : ℕ := (index + n) % size

/-- How far one index is ahead of another. -/
def indexDistance (size ahead behind : ℕ) : ℕ := (ahead + size - behind) % size

/-- A published index as the other side sees it: an old value, up to `lag` behind, but none before
the one seen last. -/
def observeIndex (size seen current lag : ℕ) : ℕ :=
  indexDistance size current (min lag (indexDistance size current seen))

namespace RenderRing

/-- A ring without frames. -/
def empty (capacityFrames : ℕ) : RenderRing where
  capacityFrames := capacityFrames
  slots := List.replicate (capacityFrames * renderChannels) 0.0
  writeIndex := 0
  readIndex := 0
  seenReadIndex := 0
  seenWriteIndex := 0
  telemetry := {}

/-- The product of the capacity and the channels fits every address space: the capacity is
bounded before. -/
def new (config : RenderRingConfig) : Except RenderRingConfigError RenderRing := do
  check (minRingCapacityFrames ≤ config.capacityFrames ∧
      config.capacityFrames ≤ maxRingCapacityFrames)
    (.mk .capacityOutOfRange ("capacity of " ++ toString config.capacityFrames ++
      " frames is outside the " ++ toString minRingCapacityFrames ++ "..=" ++
      toString maxRingCapacityFrames ++ "-frame range"))
  rejectIf (config.targetFillFrames = 0 ∨ config.targetFillFrames > config.capacityFrames)
    (.mk .targetFillOutOfRange ("target fill of " ++ toString config.targetFillFrames ++
      " frames must be nonzero and at most the " ++ toString config.capacityFrames ++
      "-frame capacity"))
  return empty config.capacityFrames

variable (size : ℕ) (ring : RenderRing)

/-- The slot of sample `k` counted from the frame at an index. -/
def slot (index k : ℕ) : ℕ :=
  moveIndex size index (k / renderChannels) % ring.capacityFrames * renderChannels +
    k % renderChannels

/-- The room that the producer sees. -/
def freeFrames (lag : ℕ) : ℕ :=
  indexDistance size ring.capacityFrames
    (indexDistance size ring.writeIndex
      (observeIndex size ring.seenReadIndex ring.readIndex lag))

/-- Write the frames that fit. Returns their number. -/
def pushFrames (frames : List Float32) (lag : ℕ) : ℕ × RenderRing :=
  let availableFrames := frames.length / renderChannels
  let framesToWrite := min availableFrames (ring.freeFrames size lag)
  (framesToWrite,
    { ring with
      slots := CircularBuffer.write (ring.slot size ring.writeIndex) ring.slots
        (frames.take (framesToWrite * renderChannels))
      writeIndex :=
        if framesToWrite > 0 then moveIndex size ring.writeIndex framesToWrite
        else ring.writeIndex
      seenReadIndex := observeIndex size ring.seenReadIndex ring.readIndex lag
      telemetry.framesProduced := ring.telemetry.framesProduced + framesToWrite
      telemetry.ringFullEvents :=
        if framesToWrite < availableFrames then ring.telemetry.ringFullEvents + 1
        else ring.telemetry.ringFullEvents })

structure RenderReadOutcome where
  framesSupplied : ℕ
  framesSilenceFilled : ℕ
  deriving DecidableEq

/-- The frames that the consumer sees. -/
def availableFrames (lag : ℕ) : ℕ :=
  indexDistance size (observeIndex size ring.seenWriteIndex ring.writeIndex lag) ring.readIndex

/-- Fill an output with frames, and with silence where there are none. A sample at the end that
does not form a frame is left untouched. -/
def readFrames (output : List Float32) (lag : ℕ) :
    (RenderReadOutcome × List Float32) × RenderRing :=
  let requestedFrames := output.length / renderChannels
  let framesToSupply := min requestedFrames (ring.availableFrames size lag)
  let framesSilenceFilled := requestedFrames - framesToSupply
  ((⟨framesToSupply, framesSilenceFilled⟩,
    CircularBuffer.read (ring.slot size ring.readIndex) ring.slots 0.0
        (framesToSupply * renderChannels) ++
      List.replicate (framesSilenceFilled * renderChannels) 0.0 ++
      output.drop (requestedFrames * renderChannels)),
    { ring with
      readIndex :=
        if framesToSupply > 0 then moveIndex size ring.readIndex framesToSupply
        else ring.readIndex
      seenWriteIndex := observeIndex size ring.seenWriteIndex ring.writeIndex lag
      telemetry.framesRequested := ring.telemetry.framesRequested + requestedFrames
      telemetry.framesSuppliedFromRing := ring.telemetry.framesSuppliedFromRing + framesToSupply
      telemetry.silenceFilledFrames := ring.telemetry.silenceFilledFrames + framesSilenceFilled
      telemetry.underrunCallbacks :=
        if framesSilenceFilled > 0 then ring.telemetry.underrunCallbacks + 1
        else ring.telemetry.underrunCallbacks })

end RenderRing

/-! ## The machine -/

/-- A call of either side, with how far behind it sees the other's index. -/
inductive RingCall
  | push (frames : List Float32) (lag : ℕ)
  | read (output : List Float32) (lag : ℕ)
  deriving DecidableEq

inductive RingReply
  | pushed (frames : ℕ)
  | read (outcome : RenderRing.RenderReadOutcome) (output : List Float32)
  deriving DecidableEq

/-- Both sides in any interleaving, with indices modulo `size`. -/
def renderRing (size : ℕ) : Machine RenderRing RingCall RingReply where
  init ring := ∃ config, RenderRing.new config = .ok ring
  step ring
    | .push frames lag =>
      let (written, ring) := ring.pushFrames size frames lag
      (ring, .pushed written)
    | .read output lag =>
      let ((outcome, output), ring) := ring.readFrames size output lag
      (ring, .read outcome output)

end SilentDisco
