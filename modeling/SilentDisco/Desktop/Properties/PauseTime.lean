import SilentDisco.Desktop.Playback

/-!
# The time of the pauses

A stream adds up the time of its pauses, and a resume moves its anchor by the total. The total is
compared with the readings of the clock between which the paused flag was set. A pause of a
stream that is paused already starts the pause anew, so that the time before it is lost.

## Main definitions

* `streamCalls`: the machine of the calls on a stream
* `PauseHistory`: for how long the flag was set
* `KeepsAccount`: a call that loses no time

## Main results

* `pause_time_is_accounted`: the total after every resume
-/

namespace SilentDisco.Desktop

open Protocol

/-- A call on a stream. -/
inductive StreamCall
  | pause (call : CallConditions)
  | resume (call : CallConditions)
  deriving DecidableEq

/-- The reading of the clock. -/
def StreamCall.nowMs : StreamCall → ℕ
  | .pause call | .resume call => call.now.get.toNat

variable (p : PlaybackStreamer)

def PlaybackStreamer.outcome : StreamCall → CallOutcome
  | .pause call => p.pausePlayback call
  | .resume call => p.resumePlayback call

/-- A stream under any calls. The output tells what is broadcast and returned. -/
def streamCalls :
    Machine PlaybackStreamer StreamCall (Option ControlMessage × Except PlaybackError Unit) where
  init p := ∃ streamStart source, p = { streamStart, source }
  step p call :=
    ((p.outcome call).streamer, (p.outcome call).broadcast, (p.outcome call).result)

/-! ## What the flag was -/

/-- For how long the flag has been set, and since when it is. -/
structure PauseHistory where
  totalMs : ℕ := 0
  sinceMs : Option ℕ := none
  deriving DecidableEq

/-- What a call adds. -/
def PauseHistory.observe (h : PauseHistory) (p : PlaybackStreamer) (call : StreamCall) :
    PauseHistory :=
  match p.paused, (p.outcome call).streamer.paused with
  | false, true => { h with sinceMs := some call.nowMs }
  | true, false =>
    { totalMs := h.totalMs + (call.nowMs - h.sinceMs.getD call.nowMs), sinceMs := none }
  | _, _ => h

def pauseHistory (calls : List StreamCall) : PauseHistory :=
  streamCalls.record PauseHistory.observe {} p calls

/-- A pause of a paused stream is not later than the first one, and a resume does not move the
anchor beyond the clock. -/
def KeepsAccount : StreamCall → Prop
  | .pause call => p.paused = true → call.now.get.toNat ≤ p.pausedAtMs
  | .resume call => p.paused = true →
    p.streamStart.hostStartTimeMs.get.toNat + p.accumulatedPauseOffsetMs +
      (call.now.get.toNat - p.pausedAtMs) ≤ u64Max

instance (p : PlaybackStreamer) : (call : StreamCall) → Decidable (KeepsAccount p call)
  | .pause _ | .resume _ => inferInstanceAs (Decidable (_ → _))

/-! ## The account -/

/-- The stream agrees with its history. All is before a reading of the clock. -/
structure Accounts (h : PauseHistory) (clockMs : ℕ) : Prop where
  total : p.accumulatedPauseOffsetMs = h.totalMs
  since : h.sinceMs = if p.paused then some p.pausedAtMs else none
  before : h.totalMs ≤ clockMs
  paused : p.paused = true → h.totalMs ≤ p.pausedAtMs ∧ p.pausedAtMs ≤ clockMs

namespace Accounts

variable {p : PlaybackStreamer} {h : PauseHistory} {clockMs : ℕ}

theorem mono (hp : Accounts p h clockMs) {laterMs : ℕ} (hle : clockMs ≤ laterMs) :
    Accounts p h laterMs :=
  ⟨hp.total, hp.since, hp.before.trans hle, fun hpaused =>
    ⟨(hp.paused hpaused).1, (hp.paused hpaused).2.trans hle⟩⟩

theorem pausedAt {call : CallConditions} (hp : Accounts p h clockMs)
    (hclock : clockMs ≤ call.now.get.toNat)
    (hkeeps : p.paused = true → call.now.get.toNat ≤ p.pausedAtMs) :
    Accounts (p.pausedAt call.now)
      (if p.paused then h else { h with sinceMs := some call.now.get.toNat })
      call.now.get.toNat := by
  cases hpaused : p.paused with
  | false =>
    exact ⟨hp.total, rfl, hp.before.trans hclock, fun _ => ⟨hp.before.trans hclock, le_rfl⟩⟩
  | true =>
    -- the clock reads what it read at the first pause
    obtain ⟨htotal, hbefore⟩ := hp.paused hpaused
    have hsame : p.pausedAtMs = call.now.get.toNat :=
      (hbefore.trans hclock).antisymm (hkeeps hpaused)
    have hsince := hp.since
    rw [if_pos hpaused, hsame] at hsince
    rw [hsame] at htotal
    exact ⟨hp.total, hsince, htotal, fun _ => ⟨htotal, le_rfl⟩⟩

/-- The time of a pause is added without overflow. -/
theorem totalOffsetMs {now : MonotonicMillis} (hp : Accounts p h clockMs)
    (hclock : clockMs ≤ now.get.toNat) (hpaused : p.paused = true) :
    p.totalOffsetMs now = h.totalMs + (now.get.toNat - p.pausedAtMs) := by
  obtain ⟨htotal, hbefore⟩ := hp.paused hpaused
  have hnow : now.get.toNat ≤ u64Max := Nat.le_of_lt_succ now.get.toNat_lt
  rw [PlaybackStreamer.totalOffsetMs, hp.total]
  exact min_eq_left (by omega)

theorem resumedAt {now : MonotonicMillis} (hp : Accounts p h clockMs)
    (hclock : clockMs ≤ now.get.toNat) (hpaused : p.paused = true) :
    Accounts (p.resumedAt now) ⟨h.totalMs + (now.get.toNat - p.pausedAtMs), none⟩
      now.get.toNat := by
  obtain ⟨htotal, hbefore⟩ := hp.paused hpaused
  refine ⟨hp.totalOffsetMs hclock hpaused, rfl, ?_, fun h => absurd h Bool.false_ne_true⟩
  dsimp only
  omega

end Accounts

/-! ## Runs -/

variable {p : PlaybackStreamer} {h : PauseHistory} {clockMs : ℕ}

/-- A call keeps the account. -/
theorem Accounts.next {call : StreamCall} (hp : Accounts p h clockMs)
    (hclock : clockMs ≤ call.nowMs) (hkeeps : KeepsAccount p call) :
    Accounts (streamCalls.next p call) (h.observe p call) call.nowMs := by
  change Accounts (p.outcome call).streamer _ _
  have hunchanged (hsame : (p.outcome call).streamer = p) :
      Accounts (p.outcome call).streamer (h.observe p call) call.nowMs := by
    have hobserve : h.observe p call = h := by
      unfold PauseHistory.observe
      rw [hsame]
      cases p.paused <;> rfl
    rw [hsame, hobserve]
    exact hp.mono hclock
  cases call with
  | pause call =>
    obtain ⟨error, hfailed⟩ | ⟨-, houtcome⟩ := @PlaybackStreamer.pausePlayback_cases p call
    · exact hunchanged (congrArg CallOutcome.streamer hfailed)
    · have hstreamer : (p.outcome (.pause call)).streamer = p.pausedAt call.now :=
        congrArg CallOutcome.streamer houtcome
      have hobserve : h.observe p (.pause call) =
          if p.paused then h else { h with sinceMs := some call.now.get.toNat } := by
        unfold PauseHistory.observe
        rw [hstreamer]
        cases p.paused <;> rfl
      rw [hstreamer, hobserve]
      exact hp.pausedAt hclock hkeeps
  | resume call =>
    obtain ⟨result, hfailed, -⟩ | ⟨hpaused, -, houtcome⟩ :=
      @PlaybackStreamer.resumePlayback_cases p call
    · exact hunchanged (congrArg CallOutcome.streamer hfailed)
    · have hstreamer : (p.outcome (.resume call)).streamer = p.resumedAt call.now :=
        congrArg CallOutcome.streamer houtcome
      have hobserve : h.observe p (.resume call) =
          ⟨h.totalMs + (call.now.get.toNat - p.pausedAtMs), none⟩ := by
        unfold PauseHistory.observe
        rw [hstreamer, hpaused, hp.since, if_pos hpaused]
        rfl
      rw [hstreamer, hobserve]
      exact hp.resumedAt hclock hpaused

/-- Calls at readings of the clock that do not decrease keep the account. -/
theorem Accounts.after {calls later : List StreamCall} (hp : Accounts p h clockMs)
    (hclock : ∀ call ∈ calls ++ later, clockMs ≤ call.nowMs)
    (hsorted : (calls ++ later).Pairwise fun a b => a.nowMs ≤ b.nowMs)
    (hkeeps : streamCalls.Along KeepsAccount p calls) :
    ∃ nowMs, Accounts (streamCalls.after p calls)
      (streamCalls.record PauseHistory.observe h p calls) nowMs ∧
        ∀ call ∈ later, nowMs ≤ call.nowMs := by
  induction calls generalizing p h clockMs with
  | nil => exact ⟨clockMs, hp, hclock⟩
  | cons call calls ih =>
    obtain ⟨hfirst, hrest⟩ := List.pairwise_cons.mp hsorted
    have hnow := hclock call List.mem_cons_self
    exact ih (hp.next hnow hkeeps.1) hfirst hrest hkeeps.2

/-- No call changes the start of the stream. -/
theorem streamStart_after (p : PlaybackStreamer) (calls : List StreamCall) :
    (streamCalls.after p calls).streamStart = p.streamStart := by
  refine Machine.invariant_after (I := fun q : PlaybackStreamer => q.streamStart = p.streamStart)
    (fun q call hq => ?_) rfl calls
  rw [← hq]
  change (q.outcome call).streamer.streamStart = q.streamStart
  cases call with
  | pause call =>
    obtain ⟨error, hfailed⟩ | ⟨-, houtcome⟩ := @PlaybackStreamer.pausePlayback_cases q call
    · exact congrArg (fun outcome => outcome.streamer.streamStart) hfailed
    · exact congrArg (fun outcome => outcome.streamer.streamStart) houtcome
  | resume call =>
    obtain ⟨result, hfailed, -⟩ | ⟨-, -, houtcome⟩ :=
      @PlaybackStreamer.resumePlayback_cases q call
    · exact congrArg (fun outcome => outcome.streamer.streamStart) hfailed
    · exact congrArg (fun outcome => outcome.streamer.streamStart) houtcome

/-- A new stream. -/
abbrev newStream (streamStart : StreamStart) (source : List ProtocolFrame) : PlaybackStreamer :=
  { streamStart, source }

theorem accounts_newStream (streamStart : StreamStart) (source : List ProtocolFrame) :
    Accounts (newStream streamStart source) {} 0 :=
  ⟨rfl, rfl, le_rfl, fun h => absurd h Bool.false_ne_true⟩

/-- **The time of the pauses.** If no pause of a paused stream is later than the one that paused
it, then after every resume of a paused stream the accumulated offset is the time for which the
flag was set, and the anchor that is broadcast is the original one moved by that time. -/
theorem pause_time_is_accounted (streamStart : StreamStart) (source : List ProtocolFrame)
    (calls : List StreamCall) (hclock : calls.Pairwise fun a b => a.nowMs ≤ b.nowMs)
    (hkeeps : streamCalls.Along KeepsAccount (newStream streamStart source) calls)
    (before later : List StreamCall) (call : CallConditions)
    (hcalls : calls = before ++ .resume call :: later)
    (hpaused : (streamCalls.after (newStream streamStart source) before).paused = true)
    (hcleared : (streamCalls.after (newStream streamStart source)
      (before ++ [.resume call])).paused = false) :
    (streamCalls.after (newStream streamStart source)
        (before ++ [.resume call])).accumulatedPauseOffsetMs =
      (pauseHistory (newStream streamStart source) (before ++ [.resume call])).totalMs ∧
    ∃ reanchored : StreamStart,
      streamCalls.out (streamCalls.after (newStream streamStart source) before) (.resume call) =
        (some (.streamStart reanchored), .ok ()) ∧
      reanchored.hostStartTimeMs.get.toNat = streamStart.hostStartTimeMs.get.toNat +
        (pauseHistory (newStream streamStart source) (before ++ [.resume call])).totalMs := by
  subst hcalls
  obtain ⟨hbefore, hresume, -⟩ := Machine.along_append.mp hkeeps
  obtain ⟨nowMs, hp, hnow⟩ := (accounts_newStream streamStart source).after
    (fun _ _ => Nat.zero_le _) hclock hbefore
  have hstart := streamStart_after (newStream streamStart source) before
  have hcall := hnow (.resume call) List.mem_cons_self
  have hnext := hp.next hcall hresume
  rw [pauseHistory, Machine.record_append]
  rw [Machine.after_append] at hcleared ⊢
  generalize streamCalls.after (newStream streamStart source) before = p at *
  generalize streamCalls.record PauseHistory.observe {} (newStream streamStart source) before = h
    at *
  refine ⟨hnext.total, ?_⟩
  obtain ⟨result, hfailed, -⟩ | ⟨-, -, houtcome⟩ := @PlaybackStreamer.resumePlayback_cases p call
  · -- a resume that changes nothing leaves the flag set
    have hsame : (streamCalls.after p [.resume call]) = p := congrArg CallOutcome.streamer hfailed
    rw [hsame, hpaused] at hcleared
    cases hcleared
  · have htotal : p.totalOffsetMs call.now = (h.observe p (.resume call)).totalMs :=
      (congrArg (fun outcome => outcome.streamer.accumulatedPauseOffsetMs) houtcome).symm.trans
        hnext.total
    refine ⟨_, congrArg (fun outcome => (outcome.broadcast, outcome.result)) houtcome, ?_⟩
    have hfits := hresume hpaused
    rw [hp.total, hstart, Nat.add_assoc, ← hp.totalOffsetMs hcall hpaused, htotal] at hfits
    change (UInt64.ofNat (min _ u64Max)).toNat = _ + (h.observe p (.resume call)).totalMs
    rw [hstart, htotal, min_eq_left hfits]
    exact UInt64.toNat_ofNat_of_lt' (Nat.lt_succ_of_le hfits)

namespace PauseScenario

def streamStart : StreamStart :=
  { sessionId := ⟨"session-1", Scenario.valid_session⟩
    streamId := ⟨"stream-1", Scenario.valid_stream⟩
    hostStartTimeMs := ⟨1000⟩
    sampleRate := 48000
    channels := 2
    samplesPerPacket := 240
    currentEntryId := none
    currentDisplayName := none }

def pauseAt (now : UInt64) : StreamCall := .pause { now := ⟨now⟩ }

def resumeAt (now : UInt64) : StreamCall := .resume { now := ⟨now⟩ }

end PauseScenario

open PauseScenario in
/-- Two pauses, with a resume that finds the stream playing. -/
theorem pause_time_is_accounted_twice :
    (streamCalls.after (newStream streamStart [])
      [pauseAt 2000, resumeAt 2500, resumeAt 2600, pauseAt 3000,
        resumeAt 3100]).accumulatedPauseOffsetMs = 600 := by
  have haccounted := pause_time_is_accounted streamStart [] _ (by decide) (by decide)
    [pauseAt 2000, resumeAt 2500, resumeAt 2600, pauseAt 3000] [] { now := ⟨3100⟩ } rfl (by decide)
    (by decide)
  have htotal : (pauseHistory (newStream streamStart [])
      [pauseAt 2000, resumeAt 2500, resumeAt 2600, pauseAt 3000, resumeAt 3100]).totalMs = 600 := by
    decide
  exact haccounted.1.trans htotal

open PauseScenario in
/-- A stream is paused at 2000, paused again at 2600 and resumed at 3000. The flag was set for a
second, but the stream accounts for less than half of it. -/
theorem not_pause_time_is_accounted :
    (∀ output ∈ streamCalls.outputs (newStream streamStart [])
        [pauseAt 2000, pauseAt 2600, resumeAt 3000], output.2 = .ok ()) ∧
      (pauseHistory (newStream streamStart [])
        [pauseAt 2000, pauseAt 2600, resumeAt 3000]).totalMs = 1000 ∧
      (streamCalls.after (newStream streamStart [])
        [pauseAt 2000, pauseAt 2600, resumeAt 3000]).accumulatedPauseOffsetMs = 400 ∧
      streamCalls.out (streamCalls.after (newStream streamStart []) [pauseAt 2000, pauseAt 2600])
        (resumeAt 3000) =
          (some (.streamStart { streamStart with hostStartTimeMs := ⟨1400⟩ }), .ok ()) := by
  decide

end SilentDisco.Desktop
