import SilentDisco.Desktop.Properties.PauseTime
import SilentDisco.Desktop.PumpLoop
import SilentDisco.Runtime.Properties.Snapshot

/-!
# Handoffs under pauses

The pump hands the frames of its packetizer to the network in order, each once, and never while the
stream is paused or stopped. A frame should have the time of the packetizer, moved by the pauses up
to the handoff. The pump reads their length before it reads the clock and takes the lock, and the
handoff only asks whether the stream is paused: a pause that begins and ends in between leaves the
frame with the time that it had before.

## Main definitions

* `StreamDesk.Linearized`: the handoffs of the history are as they should be
* `StreamDesk.ResumesUnstamped`: the condition

## Main results

* `handoffs_linearized`: runs in which no stream is resumed while the pump holds a stamped frame
-/

namespace SilentDisco.Desktop

open Protocol Transport

/-! ## Offsets -/

theorem saturatingAdd_saturatingAdd (t a b : ℕ) :
    saturatingAdd (saturatingAdd t a) b = saturatingAdd t (a + b) := by
  unfold saturatingAdd
  omega

theorem toNat_ofNat_saturatingAdd (a b : ℕ) :
    (UInt64.ofNat (saturatingAdd a b)).toNat = saturatingAdd a b := by
  refine UInt64.toNat_ofNat_of_lt' ?_
  have hmax : u64Max < UInt64.size := by decide
  exact Nat.lt_of_le_of_lt (Nat.min_le_right _ _) hmax

theorem applyPauseOffset_zero (frame : ProtocolFrame) : applyPauseOffset 0 frame = frame := by
  cases frame with
  | audio packet =>
    have hle : packet.hostPresentationTimeMs.get.toNat ≤ u64Max :=
      Nat.le_pred_of_lt packet.hostPresentationTimeMs.get.toNat_lt
    simp [applyPauseOffset, saturatingAdd, Nat.min_eq_left hle]
  | _ => rfl

theorem applyPauseOffset_add (a b : ℕ) (frame : ProtocolFrame) :
    applyPauseOffset b (applyPauseOffset a frame) = applyPauseOffset (a + b) frame := by
  cases frame with
  | audio =>
    simp only [applyPauseOffset, toNat_ofNat_saturatingAdd, saturatingAdd_saturatingAdd]
  | _ => rfl

/-! ## The property -/

/-- The latest offset was applied to the frame, which has yet to be handed over. -/
def LoopPhase.stamped : LoopPhase → Bool
  | .shifted _ _ | .timing _ _ | .timed _ _ _ | .due _ _ | .handing _ _ => true
  | _ => false

namespace StreamDesk

variable (desk : StreamDesk)

/-- The frames of the packetizer are handed over in order, each once and none left out, while the
stream is neither paused nor stopped, and moved by the pauses up to then. The pump may still hold
the last one. -/
structure Linearized : Prop where
  running : ∀ handoff ∈ desk.handed, handoff.paused = false ∧ handoff.stop = false
  complete : desk.received.length ≤ desk.handed.length + 1
  frames : desk.handed.map Handoff.frame =
    List.zipWith (fun handoff frame => applyPauseOffset handoff.offsetMs frame) desk.handed
      desk.received

/-- A paused stream is resumed when the pump holds no stamped frame. -/
def ResumesUnstamped : StreamStep → Prop
  | .resume _ => desk.paused = true → desk.phase.stamped = false
  | _ => True

instance decidableResumesUnstamped : (x : StreamStep) → Decidable (desk.ResumesUnstamped x)
  | .resume _ => inferInstanceAs (Decidable (_ → _))
  | .pause _ | .stop | .pump _ | .process | .message _ => isTrue trivial

end StreamDesk

/-! ## What the pump holds -/

/-- The frame that the pump holds, with the offset that was applied to it. -/
def LoopPhase.inHand : LoopPhase → Option (ProtocolFrame × ℕ)
  | .received frame | .admitted frame => some (frame, 0)
  | .holding frame appliedMs | .awake frame appliedMs | .reading frame appliedMs
  | .shifted frame appliedMs | .timing frame appliedMs | .timed frame appliedMs _
  | .due frame appliedMs | .handing frame appliedMs | .refused frame appliedMs =>
    some (frame, appliedMs)
  | _ => none

/-- The pump has left its loop. -/
def LoopPhase.outside : LoopPhase → Bool
  | .leaving _ | .tail _ _ | .stopping _ _ | .reporting _ _ | .exited => true
  | _ => false

/-- The pump holds the last frame of the packetizer, with an offset. -/
structure HoldsLast (received : List ProtocolFrame) (count offsetMs : ℕ) (frame : ProtocolFrame)
    (appliedMs : ℕ) : Prop where
  last : ∃ before raw, received = before ++ [raw] ∧ before.length = count ∧
    frame = applyPauseOffset appliedMs raw
  applied : appliedMs ≤ offsetMs

/-- What the pump holds at a position, given the frames it has received, the number of those that
it has handed over, and the offset of the stream. -/
structure LoopPhase.Carries (received : List ProtocolFrame) (count offsetMs : ℕ)
    (phase : LoopPhase) : Prop where
  held : ∀ frame appliedMs, phase.inHand = some (frame, appliedMs) →
    HoldsLast received count offsetMs frame appliedMs ∧
      (phase.stamped = true → appliedMs = offsetMs)
  empty : phase.inHand = none → phase.outside = false → received.length = count
  bounds : count ≤ received.length ∧ received.length ≤ count + 1

section Carries

variable {received : List ProtocolFrame} {count offsetMs appliedMs : ℕ} {frame : ProtocolFrame}
  {phase : LoopPhase}

theorem HoldsLast.bounds (h : HoldsLast received count offsetMs frame appliedMs) :
    count ≤ received.length ∧ received.length ≤ count + 1 := by
  obtain ⟨⟨before, raw, rfl, hlength, -⟩, -⟩ := h
  simp [hlength]

namespace LoopPhase.Carries

/-- The pump holds a frame at its next position. -/
theorem hold (h : HoldsLast received count offsetMs frame appliedMs)
    (hphase : phase.inHand = some (frame, appliedMs))
    (hstamped : phase.stamped = true → appliedMs = offsetMs) :
    phase.Carries received count offsetMs := by
  refine ⟨?_, ?_, h.bounds⟩
  · intro frame' appliedMs' hphase'
    cases hphase.symm.trans hphase'
    exact ⟨h, hstamped⟩
  · intro hnone
    cases hphase.symm.trans hnone

/-- The pump holds nothing at its next position. -/
theorem nothing (h : received.length = count) (hphase : phase.inHand = none) :
    phase.Carries received count offsetMs := by
  refine ⟨?_, fun _ _ => h, by omega⟩
  intro frame appliedMs hphase'
  cases hphase.symm.trans hphase'

/-- A pump that leaves its loop drops what it holds. -/
theorem leave (h : phase.Carries received count offsetMs) {next : LoopPhase}
    (hnext : next.outside = true) (hphase : next.inHand = none) :
    next.Carries received count offsetMs := by
  refine ⟨?_, ?_, h.bounds⟩
  · intro frame appliedMs hphase'
    cases hphase.symm.trans hphase'
  · intro _ hinside
    cases hnext.symm.trans hinside

/-- The offset may grow while no frame is stamped. -/
theorem grow {laterMs : ℕ} (h : phase.Carries received count offsetMs) (hle : offsetMs ≤ laterMs)
    (hsame : phase.stamped = true → laterMs = offsetMs) : phase.Carries received count laterMs := by
  refine ⟨?_, h.empty, h.bounds⟩
  intro frame appliedMs hphase
  obtain ⟨hheld, hstamped⟩ := h.held frame appliedMs hphase
  exact ⟨⟨hheld.last, hheld.applied.trans hle⟩, fun h => (hstamped h).trans (hsame h).symm⟩

end LoopPhase.Carries

theorem zipWith_append_right {α β γ : Type} {f : α → β → γ} {l : List α} {l₁ l₂ : List β}
    (h : l.length = l₁.length) : List.zipWith f l (l₁ ++ l₂) = List.zipWith f l l₁ := by
  rw [← List.append_nil l, List.zipWith_append h, List.zipWith_nil_left, List.append_nil,
    List.append_nil]

end Carries

namespace StreamDesk

variable {desk : StreamDesk} {phase current : LoopPhase} {frame : ProtocolFrame} {appliedMs : ℕ}

/-- The handoffs so far, and what the pump holds. -/
structure Handing (desk : StreamDesk) : Prop where
  running : ∀ handoff ∈ desk.handed, handoff.paused = false ∧ handoff.stop = false
  frames : desk.handed.map Handoff.frame =
    List.zipWith (fun handoff frame => applyPauseOffset handoff.offsetMs frame) desk.handed
      desk.received
  offset : desk.accumulatedPauseOffsetMs ≤ u64Max
  carries : desk.phase.Carries desk.received desk.handed.length desk.accumulatedPauseOffsetMs

theorem Handing.linearized (h : desk.Handing) : desk.Linearized :=
  ⟨h.running, h.carries.bounds.2, h.frames⟩

/-- A step that adds no frame to the history. -/
theorem Handing.of_same {desk' : StreamDesk} (h : desk.Handing)
    (hreceived : desk'.received = desk.received) (hhanded : desk'.handed = desk.handed)
    (hoffset : desk'.accumulatedPauseOffsetMs ≤ u64Max)
    (hcarries : desk'.phase.Carries desk.received desk.handed.length
      desk'.accumulatedPauseOffsetMs) : desk'.Handing := by
  refine ⟨?_, ?_, hoffset, ?_⟩
  · rw [hhanded]
    exact h.running
  · rw [hhanded, hreceived]
    exact h.frames
  · rw [hhanded, hreceived]
    exact hcarries

section Moves

variable {desk' : StreamDesk} (h : desk.Handing) (hreceived : desk'.received = desk.received)
  (hhanded : desk'.handed = desk.handed)
  (hoffset : desk'.accumulatedPauseOffsetMs = desk.accumulatedPauseOffsetMs)
include h hreceived hhanded hoffset

theorem Handing.goto (hcarries : desk'.phase.Carries desk.received desk.handed.length
    desk.accumulatedPauseOffsetMs) : desk'.Handing :=
  h.of_same hreceived hhanded (hoffset ▸ h.offset) (hoffset.symm ▸ hcarries)

/-- The pump keeps the frame in hand. -/
theorem Handing.keep (hphase : desk.phase = current)
    (hheld : current.inHand = some (frame, appliedMs))
    (hnext : desk'.phase.inHand = some (frame, appliedMs))
    (hstamped : desk'.phase.stamped = true → current.stamped = true) : desk'.Handing := by
  subst hphase
  exact h.goto hreceived hhanded hoffset (.hold (h.carries.held _ _ hheld).1 hnext fun hnew =>
    (h.carries.held _ _ hheld).2 (hstamped hnew))

/-- The pump has nothing in hand. -/
theorem Handing.idle (hphase : desk.phase = current) (hheld : current.inHand = none)
    (hinside : current.outside = false) (hnext : desk'.phase.inHand = none) : desk'.Handing := by
  subst hphase
  exact h.goto hreceived hhanded hoffset (.nothing (h.carries.empty hheld hinside) hnext)

theorem Handing.leave (hnext : desk'.phase.outside = true) (hnone : desk'.phase.inHand = none) :
    desk'.Handing :=
  h.goto hreceived hhanded hoffset (h.carries.leave hnext hnone)

end Moves

/-! ## The calls -/

theorem le_totalOffsetMs (p : PlaybackStreamer) (now : MonotonicMillis)
    (hle : p.accumulatedPauseOffsetMs ≤ u64Max) :
    p.accumulatedPauseOffsetMs ≤ p.totalOffsetMs now :=
  Nat.le_min.mpr ⟨Nat.le_add_right _ _, hle⟩

theorem offset_pausePlayback (p : PlaybackStreamer) (call : CallConditions) :
    (p.pausePlayback call).streamer.accumulatedPauseOffsetMs = p.accumulatedPauseOffsetMs := by
  rcases @PlaybackStreamer.pausePlayback_cases p call with ⟨error, h⟩ | ⟨-, h⟩
  · rw [h]
  · rw [h]
    rfl

/-- A resume leaves the offset alone, or it ends a pause. -/
theorem offset_resumePlayback (p : PlaybackStreamer) (call : CallConditions) :
    (p.resumePlayback call).streamer.accumulatedPauseOffsetMs = p.accumulatedPauseOffsetMs ∨
      p.paused = true ∧ (p.resumePlayback call).streamer.accumulatedPauseOffsetMs =
        p.totalOffsetMs call.now := by
  rcases @PlaybackStreamer.resumePlayback_cases p call with
    ⟨result, h, -⟩ | ⟨hpaused, -, h⟩
  · rw [h]
    exact .inl rfl
  · rw [h]
    exact .inr ⟨hpaused, rfl⟩

section

variable (h : desk.Handing)
include h

theorem handing_pause (call : CallConditions) :
    (desk.take (desk.streamer.pausePlayback call) (pauseEvents call)).Handing :=
  h.goto rfl rfl (offset_pausePlayback desk.streamer call) h.carries

theorem handing_resume (call : CallConditions)
    (hunstamped : desk.paused = true → desk.phase.stamped = false) :
    (desk.take (desk.streamer.resumePlayback call) (desk.resumeEvents call)).Handing := by
  rcases offset_resumePlayback desk.streamer call with hsame | ⟨hpaused, hmoved⟩
  · exact h.goto rfl rfl hsame h.carries
  · -- The pause moves the frames to come; the one in hand has yet to read the offset.
    have hmoved : (desk.take (desk.streamer.resumePlayback call)
        (desk.resumeEvents call)).accumulatedPauseOffsetMs =
          desk.streamer.totalOffsetMs call.now := hmoved
    refine h.of_same rfl rfl ?_ ?_
    · rw [hmoved]
      exact Nat.min_le_right _ _
    · rw [hmoved]
      refine h.carries.grow (le_totalOffsetMs desk.streamer call.now h.offset) fun hstamped => ?_
      rw [hunstamped hpaused] at hstamped
      cases hstamped

/-! ## The pump -/

theorem handing_receiveFrame (hphase : desk.phase = .receiving)
    (conditions : LoopConditions) : (desk.receiveFrame conditions).Handing := by
  have hlength := h.carries.empty (by rw [hphase]; rfl) (by rw [hphase]; rfl)
  unfold receiveFrame
  split_ifs
  · exact h.idle rfl rfl rfl hphase rfl rfl rfl
  · split
    · exact h.goto rfl rfl rfl (.nothing hlength rfl)
    · next frame rest _ =>
      refine ⟨h.running, ?_, h.offset, ?_⟩
      · exact h.frames.trans (zipWith_append_right hlength.symm).symm
      · refine .hold ⟨⟨desk.received, frame, rfl, hlength, ?_⟩, Nat.zero_le _⟩ rfl Bool.noConfusion
        exact (applyPauseOffset_zero frame).symm

theorem handing_stamp (hphase : desk.phase = .admitted frame) : (desk.stamp frame).Handing := by
  obtain ⟨⟨⟨before, raw, hreceived, hlength, hframe⟩, -⟩, -⟩ :=
    h.carries.held frame 0 (by rw [hphase]; rfl)
  refine h.goto rfl rfl rfl (.hold ⟨⟨before, raw, hreceived, hlength, ?_⟩, Nat.le_refl _⟩
    rfl Bool.noConfusion)
  rw [hframe, applyPauseOffset_add, Nat.zero_add]

theorem handing_admit (hphase : desk.phase = .admitted frame)
    (conditions : LoopConditions) : (desk.admitFrame frame conditions).Handing := by
  have hstamp := handing_stamp h hphase
  unfold admitFrame
  split
  · split_ifs
    · exact hstamp.goto rfl rfl rfl hstamp.carries
    · split
      · exact hstamp.goto rfl rfl rfl hstamp.carries
      · exact h.leave rfl rfl rfl rfl rfl
  · exact hstamp

theorem handing_shift (hphase : desk.phase = .reading frame appliedMs) :
    (desk.shift frame appliedMs).Handing := by
  have hheld := (h.carries.held frame appliedMs (by rw [hphase]; rfl)).1
  unfold shift
  dsimp only
  split_ifs with hlater
  · obtain ⟨before, raw, hreceived, hlength, hframe⟩ := hheld.last
    refine h.goto rfl rfl rfl (.hold ⟨⟨before, raw, hreceived, hlength, ?_⟩, Nat.le_refl _⟩ rfl
      fun _ => rfl)
    rw [hframe, applyPauseOffset_add, Nat.add_sub_cancel' (Nat.le_of_lt hlater)]
  · exact h.goto rfl rfl rfl (.hold hheld rfl fun _ =>
      Nat.le_antisymm hheld.applied (Nat.not_lt.mp hlater))

theorem handing_handOver (hphase : desk.phase = .handing frame appliedMs)
    (conditions : LoopConditions) : (desk.handOver frame appliedMs conditions).Handing := by
  obtain ⟨⟨⟨before, raw, hreceived, hlength, hframe⟩, -⟩, hstamped⟩ :=
    h.carries.held frame appliedMs (by rw [hphase]; rfl)
  have hstamped := hstamped (by rw [hphase]; rfl)
  unfold handOver
  split
  · exact h.leave rfl rfl rfl rfl rfl
  · split_ifs with hflags
    · exact h.keep rfl rfl rfl hphase rfl rfl Bool.noConfusion
    · split
      · exact h.leave rfl rfl rfl rfl rfl
      · have hclear : desk.paused = false ∧ desk.stop = false := by simpa using hflags
        refine ⟨?_, ?_, h.offset, .nothing ?_ rfl⟩
        · intro handoff hmem
          rcases List.mem_append.mp hmem with hold | hnew
          · exact h.running handoff hold
          · obtain rfl := List.mem_singleton.mp hnew
            exact hclear
        · have hframes := h.frames
          rw [hreceived, zipWith_append_right hlength.symm] at hframes
          change (desk.handed ++ [_]).map Handoff.frame =
            List.zipWith _ (desk.handed ++ [_]) desk.received
          rw [hreceived, List.zipWith_append hlength.symm, List.map_append, hframes, hframe,
            hstamped]
          rfl
        · change desk.received.length = (desk.handed ++ [_]).length
          rw [hreceived, List.length_append, List.length_append, hlength]
          rfl

theorem handing_runLoop (conditions : LoopConditions) : (desk.runLoop conditions).Handing := by
  unfold runLoop
  cases hphase : desk.phase with
  | receiving => exact handing_receiveFrame h hphase conditions
  | admitted => exact handing_admit h hphase conditions
  | reading => exact handing_shift h hphase
  | handing => exact handing_handOver h hphase conditions
  | _ =>
    unfold applyDueBoundaries reportPosition join awaitTail report
    dsimp only
    repeat' split
    -- the pump is idle, keeps its frame or leaves the loop
    all_goals first
      | exact h.goto rfl rfl rfl h.carries
      | exact h.leave rfl rfl rfl rfl rfl
      | exact h.idle rfl rfl rfl hphase rfl rfl rfl
      | exact h.keep rfl rfl rfl hphase rfl rfl Bool.noConfusion
      | exact h.keep rfl rfl rfl hphase rfl rfl fun _ => rfl

theorem handing_step {x : StreamStep} (hx : desk.ResumesUnstamped x) : (desk.step x).Handing := by
  cases x with
  | pause call =>
    simp only [step]
    split_ifs
    · exact handing_pause h call
    · exact h
  | resume call =>
    simp only [step]
    split_ifs
    · exact handing_resume h call hx
    · exact h
  | stop | message | process =>
    simp only [step]
    split <;> exact h.goto rfl rfl rfl h.carries
  | pump conditions => exact handing_runLoop h conditions

end

theorem handing_init (h : streamDesk.init desk) : desk.Handing := by
  obtain ⟨-, -, -, hoffset, hphase, hreceived, hhanded⟩ := h
  refine ⟨?_, ?_, ?_, ?_⟩
  · intro handoff hmem
    rw [hhanded] at hmem
    exact absurd hmem List.not_mem_nil
  · rw [hhanded]
    rfl
  · rw [hoffset]
    exact Nat.zero_le _
  · rw [hphase, hreceived, hhanded]
    exact .nothing rfl rfl

end StreamDesk

/-- **Handoffs under pauses.** Along a run in which no paused stream is resumed while the pump holds
a stamped frame, the handoffs are linearized. -/
theorem handoffs_linearized (desk : StreamDesk) (steps : List StreamStep)
    (hinit : streamDesk.init desk)
    (hresumes : streamDesk.Along (fun desk x => desk.ResumesUnstamped x) desk steps) :
    (streamDesk.after desk steps).Linearized :=
  (Machine.Along.invariant (M := streamDesk) (I := StreamDesk.Handing)
    (fun _ _ h hx => StreamDesk.handing_step h hx) (StreamDesk.handing_init hinit)
    hresumes).linearized

namespace HandoffScenario

open PauseScenario

/-- The only packet of a stream. -/
def packet (time : UInt64) : AudioDatagram :=
  { sessionId := streamStart.sessionId
    streamId := streamStart.streamId
    sequence := ⟨0⟩
    codec := .pcmS16Le
    sampleRate := 48000
    channels := 2
    samplesPerPacket := 240
    firstSampleIndex := ⟨0⟩
    hostPresentationTimeMs := ⟨time⟩
    payload := [] }

/-- A stream was started: its actor has yet to process the start. -/
def stream : StreamDesk where
  streamStart := streamStart
  source := [.audio (packet 1000)]
  actor := SilentDisco.actor.after Scenario.device (Scenario.hosting .manual)
  inputs := [.input (.audio (.playbackStateChanged .buffering)),
    .input (.audio (.positionAdvanced streamStart.streamId 0))]

/-- The pump takes steps. -/
def pumps (steps : ℕ) : List StreamStep := List.replicate steps (.pump { clock := .ok ⟨2500⟩ })

def pausing : StreamStep := .pause { now := ⟨2000⟩ }

def resuming : StreamStep := .resume { now := ⟨2500⟩ }

theorem init_stream : streamDesk.init stream :=
  ⟨Scenario.reachable _, rfl, rfl, rfl, rfl, rfl, rfl⟩

end HandoffScenario

open HandoffScenario in
/-- The pump sees the pause before the stream is resumed. -/
theorem handoffs_linearized_resumed :
    (streamDesk.after stream (pumps 8 ++ [pausing] ++ pumps 1 ++ [resuming] ++ pumps 8)).handed =
        [⟨.audio (packet 1500), false, false, 500⟩] ∧
      (streamDesk.after stream
        (pumps 8 ++ [pausing] ++ pumps 1 ++ [resuming] ++ pumps 8)).Linearized :=
  ⟨by decide +kernel, handoffs_linearized _ _ init_stream (by decide +kernel)⟩

open HandoffScenario in
/-- A pause begins and ends before the pump takes the lock: its frame has the time of a stream that
was never paused. -/
theorem not_handoffs_linearized :
    streamDesk.init stream ∧
      (streamDesk.after stream (pumps 14 ++ [pausing, resuming] ++ pumps 1)).handed =
        [⟨.audio (packet 1000), false, false, 500⟩] ∧
      ¬(streamDesk.after stream (pumps 14 ++ [pausing, resuming] ++ pumps 1)).Linearized := by
  refine ⟨init_stream, by decide +kernel, fun h => absurd h.frames ?_⟩
  decide +kernel

end SilentDisco.Desktop
