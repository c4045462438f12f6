import Mathlib

/-!
# Enumerations and tuning settings

The stable enumerations of the domain, with the wire names that the modelled code reads, and the
timing and buffering settings with their supported ranges. Floating-point values are kept as bit
patterns; `F64.le` compares finite numbers as sign and magnitude.

## Main definitions

* `F64`, `F64.isFinite`, `F64.le`: double-precision numbers
* `TuningSettings`, `TuningSettings.validate`: the settings and their check

## Main results

* `SyncConfidence.fromWireName_eq_some`: decoding inverts `wireName`
* `TuningSettings.validate_default`: the defaults pass their own check
-/

namespace SilentDisco

/-- Application role selected by the user. -/
inductive AppRole
  | host | listener
  deriving DecidableEq

/-- Policy used to admit listeners to a host session. -/
inductive ApprovalMode
  | manual | trustedDevices | inviteCode
  deriving DecidableEq

/-- Host-session lifecycle. -/
inductive HostLifecycle
  | idle | creatingSession | advertising | waitingForListeners | ready | streaming | paused
  | endingSession | error
  deriving DecidableEq

/-- Listener-session lifecycle. -/
inductive ListenerLifecycle
  | idle | scanning | sessionSelected | joinRequested | awaitingApproval | approved | connecting
  | syncingClock | buffering | playing | reconnecting | desynced | disconnected | error
  deriving DecidableEq

/-- Playback state shared by host and listener. -/
inductive PlaybackState
  | stopped | buffering | ready | playing | paused | underrun | error
  deriving DecidableEq

/-- Platform-independent transport lifecycle. -/
inductive TransportState
  | idle | discovering | advertising | connecting | connected | retrying | disconnected | failed
  deriving DecidableEq

/-- Confidence of the current synchronization estimate. -/
inductive SyncConfidence
  | unknown | poor | fair | good | excellent
  deriving DecidableEq

/-- Trust associated with a listener device. -/
inductive TrustState
  | sessionOnly | trusted
  deriving DecidableEq

def AppRole.wireName : AppRole → String
  | .host => "host"
  | .listener => "listener"

/-- The variant name that debug formatting prints. -/
def ListenerLifecycle.debugName : ListenerLifecycle → String
  | .idle => "Idle"
  | .scanning => "Scanning"
  | .sessionSelected => "SessionSelected"
  | .joinRequested => "JoinRequested"
  | .awaitingApproval => "AwaitingApproval"
  | .approved => "Approved"
  | .connecting => "Connecting"
  | .syncingClock => "SyncingClock"
  | .buffering => "Buffering"
  | .playing => "Playing"
  | .reconnecting => "Reconnecting"
  | .desynced => "Desynced"
  | .disconnected => "Disconnected"
  | .error => "Error"

def SyncConfidence.wireName : SyncConfidence → String
  | .unknown => "unknown"
  | .poor => "poor"
  | .fair => "fair"
  | .good => "good"
  | .excellent => "excellent"

/-- Decode a wire name. -/
def SyncConfidence.fromWireName (value : String) : Option SyncConfidence :=
  if value = "unknown" then some .unknown
  else if value = "poor" then some .poor
  else if value = "fair" then some .fair
  else if value = "good" then some .good
  else if value = "excellent" then some .excellent
  else none

theorem SyncConfidence.fromWireName_eq_some {value : String} {confidence : SyncConfidence} :
    fromWireName value = some confidence ↔ value = confidence.wireName := by
  constructor
  · unfold fromWireName
    split_ifs with h₁ h₂ h₃ h₄ h₅ <;> rintro ⟨⟩ <;> assumption
  · rintro rfl
    cases confidence <;> decide

/-! ## Settings -/

/-- A double-precision number, as its bit pattern. -/
structure F64 where
  bits : UInt64
  deriving DecidableEq

namespace F64

/-- The exponent field is not all ones: neither an infinity nor a NaN. -/
def isFinite (x : F64) : Bool := x.bits.toNat / 2 ^ 52 % 2 ^ 11 ≠ 2 ^ 11 - 1

/-- Sign and magnitude as an integer; the order of finite numbers. -/
def signedMagnitude (x : F64) : ℤ :=
  if x.bits.toNat < 2 ^ 63 then x.bits.toNat else -((x.bits.toNat - 2 ^ 63 : ℕ) : ℤ)

/-- The order of finite numbers. -/
def le (x y : F64) : Bool := x.signedMagnitude ≤ y.signedMagnitude

end F64

def minSyncSampleWindow : UInt16 := 4
def maxSyncSampleWindow : UInt16 := 32
def minSyncCadenceMs : UInt64 := 500
def maxSyncCadenceMs : UInt64 := 5000
def minStartupBufferMs : UInt64 := 100
def maxStartupBufferMs : UInt64 := 1500
def minLatePacketThresholdMs : UInt64 := 10
def maxLatePacketThresholdMs : UInt64 := 250
def minHardResyncThresholdMs : UInt64 := 40
def maxHardResyncThresholdMs : UInt64 := 500
def minResyncThresholdGapMs : UInt64 := 20
/-- `4.0`. -/
def minSyncDriftThresholdMs : F64 := ⟨0x4010000000000000⟩
/-- `100.0`. -/
def maxSyncDriftThresholdMs : F64 := ⟨0x4059000000000000⟩
def minScanWindowMs : UInt64 := 1000
def maxScanWindowMs : UInt64 := 10000

/-- Shared timing and buffering settings. -/
structure TuningSettings where
  syncSampleWindow : UInt16
  syncCadenceMs : UInt64
  startupBufferMs : UInt64
  latePacketThresholdMs : UInt64
  hardResyncThresholdMs : UInt64
  syncDriftThresholdMs : F64
  scanWindowMs : UInt64
  deriving DecidableEq

/-- The default settings; the drift threshold is `18.0`. -/
def TuningSettings.default : TuningSettings where
  syncSampleWindow := 12
  syncCadenceMs := 2000
  startupBufferMs := 400
  latePacketThresholdMs := 40
  hardResyncThresholdMs := 120
  syncDriftThresholdMs := ⟨0x4032000000000000⟩
  scanWindowMs := 3000

inductive TuningSettingsValidationError
  | syncSampleWindow | syncCadence | startupBuffer | latePacketThreshold | hardResyncThreshold
  | syncDriftThreshold | scanWindow | thresholdRelationship
  deriving DecidableEq

/-- Check every range, then that the two thresholds keep their distance. -/
def TuningSettings.validate (s : TuningSettings) : Except TuningSettingsValidationError Unit :=
  if ¬(minSyncSampleWindow ≤ s.syncSampleWindow ∧ s.syncSampleWindow ≤ maxSyncSampleWindow) then
    .error .syncSampleWindow
  else if ¬(minSyncCadenceMs ≤ s.syncCadenceMs ∧ s.syncCadenceMs ≤ maxSyncCadenceMs) then
    .error .syncCadence
  else if ¬(minStartupBufferMs ≤ s.startupBufferMs ∧ s.startupBufferMs ≤ maxStartupBufferMs) then
    .error .startupBuffer
  else if ¬(minLatePacketThresholdMs ≤ s.latePacketThresholdMs ∧
      s.latePacketThresholdMs ≤ maxLatePacketThresholdMs) then
    .error .latePacketThreshold
  else if ¬(minHardResyncThresholdMs ≤ s.hardResyncThresholdMs ∧
      s.hardResyncThresholdMs ≤ maxHardResyncThresholdMs) then
    .error .hardResyncThreshold
  else if ¬s.syncDriftThresholdMs.isFinite ∨
      ¬(minSyncDriftThresholdMs.le s.syncDriftThresholdMs ∧
        s.syncDriftThresholdMs.le maxSyncDriftThresholdMs) then
    .error .syncDriftThreshold
  else if ¬(minScanWindowMs ≤ s.scanWindowMs ∧ s.scanWindowMs ≤ maxScanWindowMs) then
    .error .scanWindow
  -- the sum may overflow in general, which is reported as the same violation
  else if s.latePacketThresholdMs.toNat + minResyncThresholdGapMs.toNat ≥ 2 ^ 64 then
    .error .thresholdRelationship
  else if s.hardResyncThresholdMs < s.latePacketThresholdMs + minResyncThresholdGapMs then
    .error .thresholdRelationship
  else .ok ()

theorem TuningSettings.validate_default : TuningSettings.default.validate = .ok () := by
  decide

end SilentDisco
