import SilentDisco.Domain.Settings
import SilentDisco.Library.Result
import SilentDisco.Library.Runs
import SilentDisco.Library.SortedBy

/-!
# The clock estimator

A listener sends probes to the host and takes their answers as samples of the difference between
the two clocks. The estimate is the average over the better half of a window of accepted samples.
Floating-point numbers are exact rationals here.

## Main definitions

* `SyncSample.fromExchange`: the sample of four timestamps
* `ClockSyncEstimator`: pending probes, accepted samples and the acquisition so far
* `ClockSyncEstimator.beginProbe`, `ClockSyncEstimator.observeResponse`: the calls
* `estimator`: an estimator under any calls
-/

namespace SilentDisco.Sync

open Result

/-! ## Samples -/

structure LocalMonotonicMillis where
  get : UInt64
  deriving DecidableEq

structure HostMonotonicMillis where
  get : UInt64
  deriving DecidableEq

structure SyncCorrelationId where
  get : UInt64
  deriving DecidableEq

/-- The time between two readings of one clock. -/
def checkedElapsed (later earlier : UInt64) : Option ℕ :=
  if earlier ≤ later then some (later.toNat - earlier.toNat) else none

structure SyncExchange where
  correlationId : SyncCorrelationId
  t1LocalSend : LocalMonotonicMillis
  t2HostReceive : HostMonotonicMillis
  t3HostSend : HostMonotonicMillis
  t4LocalReceive : LocalMonotonicMillis
  deriving DecidableEq

structure SyncSample where
  correlationId : SyncCorrelationId
  localReceiveTime : LocalMonotonicMillis
  roundTripTimeMs : ℚ
  offsetMs : ℚ
  deriving DecidableEq

inductive SyncTimestampError
  | localClockMovedBackwards | hostClockMovedBackwards | hostProcessingExceedsRoundTrip
  deriving DecidableEq

/-- Twice the offset. -/
def SyncExchange.offsetTwice (e : SyncExchange) : ℤ :=
  ((e.t2HostReceive.get.toNat : ℤ) - e.t1LocalSend.get.toNat) +
    ((e.t3HostSend.get.toNat : ℤ) - e.t4LocalReceive.get.toNat)

/-- The sample of an exchange. -/
def SyncSample.fromExchange (e : SyncExchange) : Except SyncTimestampError SyncSample :=
  match checkedElapsed e.t4LocalReceive.get e.t1LocalSend.get with
  | none => .error .localClockMovedBackwards
  | some localRoundTrip =>
    match checkedElapsed e.t3HostSend.get e.t2HostReceive.get with
    | none => .error .hostClockMovedBackwards
    | some hostProcessing =>
      if localRoundTrip < hostProcessing then .error .hostProcessingExceedsRoundTrip
      else
        .ok
          { correlationId := e.correlationId
            localReceiveTime := e.t4LocalReceive
            roundTripTimeMs := ((localRoundTrip - hostProcessing : ℕ) : ℚ)
            offsetMs := (e.offsetTwice : ℚ) / 2 }

/-! ## Configuration -/

def maxPendingProbes : ℕ := 64
def maxEstimatorSamples : ℕ := 128
def maxDriftHistorySamples : ℕ := 256

/-- The longest that a probe may stay unanswered. -/
def pendingProbeMaxAgeMs : ℕ := 5000

def acquisitionAdaptAfterRejections : ℕ := 3
def acquisitionAdaptAfterMs : ℕ := 750
def acquisitionAdaptiveCeilingMs : ℚ := 600
def acquisitionHardCeilingAfterMs : ℕ := 2000
def acquisitionHardCeilingMs : ℚ := 1000
def acquisitionRejectedRttHistory : ℕ := 12

structure SyncEstimatorConfig where
  maxSamples : ℕ := 12
  maxAcceptedRttMs : ℚ := 200
  cadenceMs : ℕ := 2000
  driftThresholdMs : ℚ := 18
  driftHistorySize : ℕ := 24
  deriving DecidableEq

inductive SyncEstimatorError
  | invalidConfiguration
  | duplicateCorrelationId (correlationId : SyncCorrelationId)
  | pendingProbeLimitReached (maximum : ℕ)
  | staleCorrelationId (correlationId : SyncCorrelationId)
  | correlationTimestampMismatch (correlationId : SyncCorrelationId)
  | timestamp (error : SyncTimestampError)
  | localClockMovedBackwards
  deriving DecidableEq

/-- The limits are positive where they must be, and within the bounds of the buffers. -/
def SyncEstimatorConfig.IsValid (config : SyncEstimatorConfig) : Prop :=
  (1 ≤ config.maxSamples ∧ config.maxSamples ≤ maxEstimatorSamples) ∧
    0 ≤ config.maxAcceptedRttMs ∧ 0 < config.cadenceMs ∧ 0 ≤ config.driftThresholdMs ∧
    (1 ≤ config.driftHistorySize ∧ config.driftHistorySize ≤ maxDriftHistorySamples)

instance (config : SyncEstimatorConfig) : Decidable config.IsValid :=
  inferInstanceAs (Decidable (_ ∧ _))

def SyncEstimatorConfig.validate (config : SyncEstimatorConfig) :
    Except SyncEstimatorError SyncEstimatorConfig :=
  if config.IsValid then .ok config else .error .invalidConfiguration

/-! ## The estimate -/

structure SyncSnapshot where
  offsetMs : ℚ := 0
  roundTripTimeMs : ℚ := 0
  jitterMs : ℚ := 0
  confidence : SyncConfidence := .unknown
  skewPpm : ℚ := 0
  acceptedSampleCount : ℕ := 0
  deriving DecidableEq

/-- The average of a quantity. -/
def average {α : Type} (values : List α) (f : α → ℚ) : ℚ :=
  (values.map f).sum / values.length

def classifyConfidence (roundTripTimeMs jitterMs : ℚ) : SyncConfidence :=
  if roundTripTimeMs ≤ 20 ∧ jitterMs ≤ 2 then .excellent
  else if roundTripTimeMs ≤ 50 ∧ jitterMs ≤ 5 then .good
  else if roundTripTimeMs ≤ 90 ∧ jitterMs ≤ 12 then .fair
  else .poor

/-- The slope of the offsets over time, in parts per million. -/
def estimateSkewPpm (history : List (LocalMonotonicMillis × ℚ)) : ℚ :=
  match history with
  | [] => 0
  | (origin, _) :: _ =>
    if history.length < 3 then 0
    else
      let points := history.map fun (time, offset) =>
        (((time.get.toNat - origin.get.toNat : ℕ) : ℚ), offset)
      let xMean := average points Prod.fst
      let yMean := average points Prod.snd
      let numerator := (points.map fun (x, y) => (x - xMean) * (y - yMean)).sum
      let denominator := (points.map fun (x, _) => (x - xMean) * (x - xMean)).sum
      if denominator = 0 then 0 else numerator / denominator * 1000000

/-- The better half of the samples, and at least one. -/
def selectSamples (samples : List SyncSample) : List SyncSample :=
  (samples.insertionSort fun left right => left.roundTripTimeMs ≤ right.roundTripTimeMs).take
    (max (samples.length / 2) 1)

/-! ## The estimator -/

structure PendingProbe where
  correlationId : SyncCorrelationId
  sentAt : LocalMonotonicMillis
  deriving DecidableEq

structure ClockSyncEstimator where
  config : SyncEstimatorConfig
  pending : SortedBy fun probe : PendingProbe => probe.correlationId.get.toNat := .empty
  acceptedSamples : List SyncSample := []
  driftHistory : List (LocalMonotonicMillis × ℚ) := []
  lastAcceptedSyncAt : Option LocalMonotonicMillis := none
  acquisitionStartedAt : Option LocalMonotonicMillis := none
  rejectedAcquisitionRtts : List ℚ := []
  acquisitionRejectedCount : ℕ := 0
  degradedLock : Bool := false
  deriving DecidableEq

structure SyncAcquisitionStatus where
  rejectedSampleCount : ℕ
  elapsedMs : ℕ
  effectiveRttLimitMs : ℚ
  degradedLock : Bool
  deriving DecidableEq

structure SyncObservation where
  sample : SyncSample
  accepted : Bool
  snapshot : SyncSnapshot
  acquisition : SyncAcquisitionStatus
  deriving DecidableEq

/-- Add a value to a bounded history; the oldest one leaves it. -/
def pushBounded {α : Type} (capacity : ℕ) (history : List α) (value : α) : List α :=
  (if history.length = capacity then history.tail else history) ++ [value]

namespace ClockSyncEstimator

def new (config : SyncEstimatorConfig) : Except SyncEstimatorError ClockSyncEstimator := do
  let config ← config.validate
  return { config }

variable (s : ClockSyncEstimator) (now : LocalMonotonicMillis)

/-- Drop the probes that were not answered in time. -/
def evictStalePendingProbes : ClockSyncEstimator :=
  { s with
    pending := s.pending.filter fun probe =>
      now.get.toNat - probe.sentAt.get.toNat < pendingProbeMaxAgeMs }

/-- Register a probe before it is sent. -/
def beginProbe (correlationId : SyncCorrelationId) (localSendTime : LocalMonotonicMillis) :
    ClockSyncEstimator × Except SyncEstimatorError Unit :=
  if s.pending.contains correlationId.get.toNat then
    (s, .error (.duplicateCorrelationId correlationId))
  else
    let evicted := s.evictStalePendingProbes localSendTime
    if maxPendingProbes ≤ evicted.pending.length then
      (evicted, .error (.pendingProbeLimitReached maxPendingProbes))
    else
      ({ evicted with
          acquisitionStartedAt :=
            if evicted.acceptedSamples = [] ∧ evicted.acquisitionStartedAt = none then
              some localSendTime
            else evicted.acquisitionStartedAt
          pending := evicted.pending.insert ⟨correlationId, localSendTime⟩ },
        .ok ())

def acquisitionElapsedMs : ℕ :=
  match s.acquisitionStartedAt with
  | none => 0
  | some started => now.get.toNat - started.get.toNat

/-- The upper median of the round trips that were rejected. -/
def medianRejectedRtt : ℚ :=
  (s.rejectedAcquisitionRtts.insertionSort (· ≤ ·)).getD
    (s.rejectedAcquisitionRtts.length / 2) 0

/-- The longest round trip that is accepted now. It is widened only until the first sample. -/
def effectiveRttLimitMs : ℚ :=
  if s.acceptedSamples ≠ [] then s.config.maxAcceptedRttMs
  else
    let elapsedMs := s.acquisitionElapsedMs now
    if acquisitionHardCeilingAfterMs ≤ elapsedMs then
      max s.config.maxAcceptedRttMs acquisitionHardCeilingMs
    else if elapsedMs < acquisitionAdaptAfterMs ∨
        s.acquisitionRejectedCount < acquisitionAdaptAfterRejections ∨
        s.rejectedAcquisitionRtts = [] then
      s.config.maxAcceptedRttMs
    else
      min (max (s.medianRejectedRtt * (3 / 2)) s.config.maxAcceptedRttMs)
        (max acquisitionAdaptiveCeilingMs s.config.maxAcceptedRttMs)

def acquisitionStatus : SyncAcquisitionStatus where
  rejectedSampleCount := s.acquisitionRejectedCount
  elapsedMs := s.acquisitionElapsedMs now
  effectiveRttLimitMs := s.effectiveRttLimitMs now
  degradedLock := s.degradedLock

/-- The current estimate. -/
def snapshot : SyncSnapshot :=
  if s.acceptedSamples = [] then {}
  else
    let selected := selectSamples s.acceptedSamples
    let offsetMs := average selected SyncSample.offsetMs
    let roundTripTimeMs := average selected SyncSample.roundTripTimeMs
    let jitterMs :=
      if selected.length = 1 then 0
      else average selected fun sample => |sample.offsetMs - offsetMs|
    { offsetMs, roundTripTimeMs, jitterMs
      confidence := classifyConfidence roundTripTimeMs jitterMs
      skewPpm := estimateSkewPpm s.driftHistory
      acceptedSampleCount := s.acceptedSamples.length }

/-- Take a sample into the windows. -/
def accept (sample : SyncSample) : ClockSyncEstimator :=
  { s with
    degradedLock :=
      s.degradedLock ||
        decide (s.acceptedSamples = [] ∧ s.config.maxAcceptedRttMs < sample.roundTripTimeMs)
    acceptedSamples := pushBounded s.config.maxSamples s.acceptedSamples sample
    driftHistory := pushBounded s.config.driftHistorySize s.driftHistory
      (sample.localReceiveTime, sample.offsetMs)
    lastAcceptedSyncAt := some sample.localReceiveTime }

/-- A sample that is not accepted is remembered until the first one that is. -/
def passOver (sample : SyncSample) : ClockSyncEstimator :=
  if s.acceptedSamples = [] then
    { s with
      acquisitionRejectedCount := min (s.acquisitionRejectedCount + 1) (2 ^ 64 - 1)
      rejectedAcquisitionRtts := pushBounded acquisitionRejectedRttHistory
        s.rejectedAcquisitionRtts sample.roundTripTimeMs }
  else s

/-- Decide on a sample. -/
def observeSample (sample : SyncSample) (now : LocalMonotonicMillis) :
    ClockSyncEstimator × SyncObservation :=
  let effectiveRttLimitMs := s.effectiveRttLimitMs now
  let accepted : Bool := sample.roundTripTimeMs ≤ effectiveRttLimitMs
  let observed := if accepted then s.accept sample else s.passOver sample
  (observed,
    { sample, accepted
      snapshot := observed.snapshot
      acquisition := { observed.acquisitionStatus now with effectiveRttLimitMs } })

/-- Take the answer to a probe, which is pending no longer. -/
def observeResponse (correlationId : SyncCorrelationId)
    (echoedLocalSendTime : LocalMonotonicMillis)
    (hostReceiveTime hostSendTime : HostMonotonicMillis)
    (localReceiveTime : LocalMonotonicMillis) :
    ClockSyncEstimator × Except SyncEstimatorError SyncObservation :=
  match s.pending.find? correlationId.get.toNat with
  | none => (s, .error (.staleCorrelationId correlationId))
  | some probe =>
    let consumed := { s with pending := s.pending.remove correlationId.get.toNat }
    if probe.sentAt ≠ echoedLocalSendTime then
      (consumed, .error (.correlationTimestampMismatch correlationId))
    else
      match SyncSample.fromExchange
        ⟨correlationId, probe.sentAt, hostReceiveTime, hostSendTime, localReceiveTime⟩ with
      | .error error => (consumed, .error (.timestamp error))
      | .ok sample => (consumed.observeSample sample localReceiveTime).map id .ok

end ClockSyncEstimator

inductive SyncCall
  | beginProbe (correlationId : SyncCorrelationId) (localSendTime : LocalMonotonicMillis)
  | observeResponse (exchange : SyncExchange)
  deriving DecidableEq

inductive SyncReply
  | began (result : Except SyncEstimatorError Unit)
  | observed (result : Except SyncEstimatorError SyncObservation)
  deriving DecidableEq

/-- An estimator under any calls. -/
def estimator : Machine ClockSyncEstimator SyncCall SyncReply where
  init s := ∃ config, ClockSyncEstimator.new config = .ok s
  step s
    | .beginProbe correlationId localSendTime =>
      (s.beginProbe correlationId localSendTime).map id .began
    | .observeResponse e =>
      (s.observeResponse e.correlationId e.t1LocalSend e.t2HostReceive e.t3HostSend
        e.t4LocalReceive).map id .observed

end SilentDisco.Sync
