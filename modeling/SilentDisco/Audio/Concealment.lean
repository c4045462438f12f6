import SilentDisco.Audio.Packetizer

/-!
# Concealment of missing packets

The shaping of interleaved samples at the seams of frames, and the policy that covers a missing
packet by repeating the last real one at decreasing amplitude. The arithmetic is exact: the
weights of a ramp are at most its length, which the configuration bounds.

## Main definitions

* `applyBlendIn`, `applyFadeOutTail`: shape the first and the last frames of a buffer
* `ConcealmentPolicy`: the last real packet, the end of the last frame and the losses in a row
* `ConcealmentPolicy.conceal`: the frame for a missing packet
-/

namespace SilentDisco

open Result

/-! ## Ramps -/

def clampToI16 (value : ℤ) : Int16 :=
  if value > 32767 then 32767 else if value < -32768 then -32768 else .ofInt value

/-- A fraction of a sample; none of it without a denominator. -/
def scaleSample (sample : Int16) (numerator denominator : ℕ) : Int16 :=
  if denominator = 0 then 0
  else clampToI16 ((sample.toInt * numerator).tdiv denominator)

/-- From `origin` at the start of a ramp to `toward` at its end. -/
def blendSample (toward origin : Int16) (position ramp : ℕ) : Int16 :=
  if ramp = 0 then toward
  else
    clampToI16
      ((toward.toInt * position + origin.toInt * (ramp - min position ramp : ℕ)).tdiv ramp)

/-- The last complete frame. -/
def lastFrame (samples : List Int16) (channels : ℕ) : Option (List Int16) :=
  if channels = 0 then none
  else
    let frames := samples.length / channels
    if frames = 0 then none
    else some ((samples.drop ((frames - 1) * channels)).take channels)

/-- Blend the first frames in from the values of one frame, or from silence. -/
def applyBlendIn (samples : List Int16) (channels rampFrames : ℕ) (origin : List Int16) :
    List Int16 :=
  let totalFrames := samples.length / channels
  if channels = 0 ∨ totalFrames = 0 then samples
  else
    let ramp := min (max rampFrames 1) totalFrames
    samples.mapIdx fun index sample =>
      if index / channels < ramp then
        if origin.length = channels then
          blendSample sample (origin.getD (index % channels) 0) (index / channels) ramp
        else scaleSample sample (index / channels) ramp
      else sample

/-- Fade the last frames out to silence. -/
def applyFadeOutTail (samples : List Int16) (channels rampFrames : ℕ) : List Int16 :=
  let totalFrames := samples.length / channels
  if channels = 0 ∨ totalFrames = 0 then samples
  else
    let ramp := min (max rampFrames 1) totalFrames
    samples.mapIdx fun index sample =>
      if totalFrames - ramp ≤ index / channels ∧ index / channels < totalFrames then
        scaleSample sample (totalFrames - 1 - index / channels) ramp
      else sample

/-! ## The policy -/

def maxConsecutiveConcealedPacketsLimit : UInt32 := 200
def defaultConcealmentRampMs : UInt32 := 1
def maxConcealmentRampFrames : UInt32 := 4800

/-- A packet is repeated at no less than this power of one half. -/
def maxAttenuationShift : ℕ := 8

inductive ConcealmentConfigErrorKind
  | consecutiveBoundOutOfRange | rampFramesOutOfRange
  deriving DecidableEq

structure ConcealmentConfigError where
  kind : ConcealmentConfigErrorKind
  message : String
  deriving DecidableEq

inductive ConcealmentOutcome
  | concealed | hardResyncRequired
  deriving DecidableEq

structure ConcealmentStatistics where
  totalConcealedPackets : ℕ := 0
  /-- Frames synthesized in a row. -/
  consecutiveConcealedPackets : ℕ := 0
  hardResyncSignals : ℕ := 0
  deriving DecidableEq

/-- The policy of one stream, whose bounds are within their limits. -/
structure ConcealmentPolicy where
  maxConsecutiveConcealedPackets : ℕ
  rampFrames : ℕ
  statistics : ConcealmentStatistics
  lastRealSamples : List Int16
  /-- The values on which the last frame ended. -/
  previousTail : List Int16
  consecutive_pos : 0 < maxConsecutiveConcealedPackets
  consecutive_le : maxConsecutiveConcealedPackets ≤ 200
  ramp_pos : 0 < rampFrames
  ramp_le : rampFrames ≤ 4800
  deriving DecidableEq

namespace ConcealmentPolicy

def new (maxConsecutiveConcealedPackets rampFrames : UInt32) :
    Except ConcealmentConfigError ConcealmentPolicy :=
  if hconsecutive : maxConsecutiveConcealedPackets = 0 ∨
      maxConsecutiveConcealedPackets > maxConsecutiveConcealedPacketsLimit then
    .error ⟨.consecutiveBoundOutOfRange,
      "consecutive concealment bound of " ++ toString maxConsecutiveConcealedPackets ++
        " must be nonzero and within the " ++ toString maxConsecutiveConcealedPacketsLimit ++
        "-packet limit"⟩
  else if hramp : rampFrames = 0 ∨ rampFrames > maxConcealmentRampFrames then
    .error ⟨.rampFramesOutOfRange,
      "concealment ramp of " ++ toString rampFrames ++ " frames must be nonzero and within the " ++
        toString maxConcealmentRampFrames ++ "-frame limit"⟩
  else
    .ok
      { maxConsecutiveConcealedPackets := maxConsecutiveConcealedPackets.toNat
        rampFrames := rampFrames.toNat
        statistics := {}
        lastRealSamples := []
        previousTail := []
        consecutive_pos := Nat.pos_of_ne_zero fun h => hconsecutive (.inl (UInt32.toNat_inj.mp h))
        consecutive_le := UInt32.le_iff_toNat_le.mp
          (UInt32.not_lt.mp fun h => hconsecutive (.inr h))
        ramp_pos := Nat.pos_of_ne_zero fun h => hramp (.inl (UInt32.toNat_inj.mp h))
        ramp_le := UInt32.le_iff_toNat_le.mp (UInt32.not_lt.mp fun h => hramp (.inr h)) }

variable (policy : ConcealmentPolicy)

/-- The last real packet at a lower amplitude, blended in from the end of the last frame. -/
def buildPayload (frameCount channelCount attenuationShift : ℕ) : List Int16 :=
  let ramp := min (max policy.rampFrames 1) frameCount
  let sourceFrames := policy.lastRealSamples.length / channelCount
  (List.range (frameCount * channelCount)).map fun index =>
    let value : Int16 :=
      if index / channelCount < sourceFrames then
        .ofInt ((policy.lastRealSamples.getD index 0).toInt >>> attenuationShift)
      else 0
    if index / channelCount < ramp ∧ policy.previousTail.length = channelCount then
      blendSample value (policy.previousTail.getD (index % channelCount) 0)
        (index / channelCount) ramp
    else value

/-- The losses in a row, with the one to be concealed. -/
def consecutive : ℕ := policy.statistics.consecutiveConcealedPackets + 1

/-- The samples for a missing packet. The last frame that can be heard is faded out. -/
def concealedSamples (samplesPerPacket : UInt32) (channels : UInt16) : List Int16 :=
  let samples := policy.buildPayload samplesPerPacket.toNat channels.toNat
    (min policy.statistics.consecutiveConcealedPackets maxAttenuationShift)
  if policy.consecutive + 1 ≥ policy.maxConsecutiveConcealedPackets then
    applyFadeOutTail samples channels.toNat policy.rampFrames
  else samples

/-- Whether the bound on losses in a row is reached. -/
def outcome : ConcealmentOutcome :=
  if policy.consecutive ≥ policy.maxConsecutiveConcealedPackets then .hardResyncRequired
  else .concealed

/-- The frame for a missing packet. -/
def conceal (samplesPerPacket : UInt32) (channels : UInt16) :
    (List Int16 × ConcealmentOutcome) × ConcealmentPolicy :=
  let samples := policy.concealedSamples samplesPerPacket channels
  ((samples, policy.outcome),
    { policy with
      previousTail := (lastFrame samples channels.toNat).getD []
      statistics :=
        { totalConcealedPackets := policy.statistics.totalConcealedPackets + 1
          consecutiveConcealedPackets := policy.consecutive
          hardResyncSignals :=
            if policy.outcome = .hardResyncRequired then policy.statistics.hardResyncSignals + 1
            else policy.statistics.hardResyncSignals } })

/-- A real packet ends the losses in a row. -/
def recordDelivery (samples : List Int16) (channels : UInt16) : ConcealmentPolicy :=
  { policy with
    statistics.consecutiveConcealedPackets := 0
    lastRealSamples := samples
    previousTail := (lastFrame samples channels.toNat).getD [] }

def resetConsecutiveCount : ConcealmentPolicy :=
  { policy with statistics.consecutiveConcealedPackets := 0 }

end ConcealmentPolicy

end SilentDisco
