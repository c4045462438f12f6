import SilentDisco.Protocol.RoundTrip
import SilentDisco.Transport.ControlReader

/-!
# Control streams

The frames that the reader reports do not depend on how the stream is cut into reads: they are the
longest list of control frames of the session with which the stream starts. Encoded control
messages are far smaller than the buffer, so a buffer that overflows is not the beginning of one.

## Main definitions

* `IsControlFrame`: an encoded control frame of a session
* `ControlPrefix`: a stream starts with control frames
* `Receives`: reads of a stream to its end

## Main results

* `scanControl_eq_frame`, `framing_scanControl`: the scanner finds the encoded frames
* `control_stream_is_framed`: what the reader reports
-/

namespace SilentDisco

open Protocol

/-! ## The size of control frames -/

namespace Protocol

open Wire

theorem atMost_putU8 (value : UInt8) : AtMost (putU8 value) 1 := atMost_putBytes (by simp)

theorem atMost_putU16 (value : UInt16) : AtMost (putU16 value) 2 := atMost_putBytes (by simp)

theorem atMost_putU32 (value : UInt32) : AtMost (putU32 value) 4 := atMost_putBytes (by simp)

theorem atMost_putU64 (value : UInt64) : AtMost (putU64 value) 8 := atMost_putBytes (by simp)

theorem atMost_putString (field : String) (maximum : ℕ) (secret : Bool) (value : String) :
    AtMost (putString field maximum secret value) (2 + maximum) := by
  refine AtMost.require fun hvalid => AtMost.require fun _ => ?_
  exact (atMost_putU16 _).then (atMost_putBytes (utf8ByteSize_le_of_validateText hvalid))

theorem atMost_putOptionalString (field : String) (maximum : ℕ) (secret : Bool)
    (text : Option String) :
    AtMost (putOptionalString field maximum secret text) (1 + (2 + maximum)) := by
  cases text with
  | none => exact (atMost_putU8 0).mono (Nat.le_add_right 1 _)
  | some value => exact (atMost_putU8 1).then (atMost_putString field maximum secret value)

/-- A bound on the payload of all control messages. -/
def controlMessageBytes : ℕ := 1024

theorem atMost_putControl (message : ControlMessage) :
    AtMost (putControl message) controlMessageBytes := by
  have hsession (id : SessionId) : AtMost (putSessionId id) (2 + maxIdentifierBytes) :=
    atMost_putString _ _ _ _
  have hstream (id : StreamId) : AtMost (putStreamId id) (2 + maxIdentifierBytes) :=
    atMost_putString _ _ _ _
  have hdevice (id : DeviceId) : AtMost (putDeviceId id) (2 + maxIdentifierBytes) :=
    atMost_putString _ _ _ _
  cases message with
  | hello =>
    exact ((hsession _).then ((atMost_putString _ _ _ _).then
      ((atMost_putString _ _ _ _).then (atMost_putU8 _)))).mono (by decide)
  | joinRequest =>
    exact ((hsession _).then ((hdevice _).then ((atMost_putString _ _ _ _).then
      ((atMost_putOptionalString _ _ _ _).then ((atMost_putU16 _).then (atMost_putU16 _)))))).mono
        (by decide)
  | joinApproval =>
    exact ((hsession _).then ((hdevice _).then (atMost_putU8 _))).mono (by decide)
  | joinRejection | disconnect | resyncNotice =>
    exact ((hsession _).then ((hdevice _).then (atMost_putString _ _ _ _))).mono (by decide)
  | heartbeat =>
    exact ((hsession _).then ((hdevice _).then (atMost_putU64 _))).mono (by decide)
  | streamStart =>
    exact ((hsession _).then ((hstream _).then ((atMost_putU64 _).then ((atMost_putU32 _).then
      ((atMost_putU16 _).then ((atMost_putU32 _).then ((atMost_putOptionalString _ _ _ _).then
        (atMost_putOptionalString _ _ _ _)))))))).mono (by decide)
  | trackBoundary =>
    exact ((hsession _).then ((hstream _).then ((atMost_putU64 _).then
      ((atMost_putString _ _ _ _).then (atMost_putString _ _ _ _))))).mono (by decide)
  | pause | stop =>
    exact ((hsession _).then ((hstream _).then (atMost_putU64 _))).mono (by decide)
  | synchronizationReport =>
    exact ((hsession _).then ((hdevice _).then ((atMost_putString _ _ _ _).then
      ((atMost_putU64 _).then ((atMost_putU64 _).then (atMost_putU64 _)))))).mono (by decide)

/-- The header is at the beginning. -/
theorem decodeHeader_take {bytes : List UInt8} {n : ℕ} (hlong : frameHeaderBytes ≤ bytes.length)
    (hn : frameHeaderBytes ≤ n) : decodeHeader (bytes.take n) = decodeHeader bytes := by
  have htake : frameHeaderBytes ≤ (bytes.take n).length := by
    rw [List.length_take]
    exact le_min hn hlong
  unfold decodeHeader
  rw [if_neg (Nat.not_lt.mpr htake), if_neg (Nat.not_lt.mpr hlong), List.take_take, min_eq_left hn]

/-- The kind of a frame is the one in its header. -/
theorem kind_of_decodeFrame {bytes : List UInt8} {frame : ProtocolFrame} {header : FrameHeader}
    (h : decodeFrame bytes = .ok frame) (hheader : decodeHeader bytes = .ok header) :
    frame.kind = header.kind := by
  obtain ⟨header', hheader', hlength, hpayload⟩ := decodeFrame_eq_ok.mp h
  obtain rfl := Except.ok.inj (hheader.symm.trans hheader')
  obtain ⟨shape, rfl, hmax, -⟩ := headerBytes_decodeHeader hheader
  refine (encodePayload_decodePayload hpayload ?_).1
  rw [List.length_drop, hlength, Nat.add_sub_cancel_left]
  exact hmax

/-- The decoder of a session accepts the frames of the session. -/
theorem decode_eq_ok_iff {session : SessionId} {bytes : List UInt8} {frame : ProtocolFrame} :
    ProtocolDecoder.decode bytes { expectedSessionId := some session } = .ok frame ↔
      decodeFrame bytes = .ok frame ∧ frame.sessionId = session := by
  have hfresh (other : ProtocolFrame) :
      ¬DecodePolicy.IsStale { expectedSessionId := some session } other := by
    cases other with
    | audio =>
      rintro ⟨minimum, hminimum, -⟩
      exact absurd hminimum (Option.not_mem_none minimum)
    | _ => exact id
  unfold ProtocolDecoder.decode
  simp only [Result.bind_eq_ok, Result.mapError_eq_ok]
  constructor
  · rintro ⟨decoded, hdecoded, hpolicy⟩
    rw [if_neg (hfresh decoded)] at hpolicy
    split_ifs at hpolicy with hother
    obtain rfl := Except.ok.inj hpolicy
    refine ⟨hdecoded, not_not.mp fun hne => hother ⟨session, rfl, hne⟩⟩
  · rintro ⟨hdecoded, hsession⟩
    refine ⟨frame, hdecoded, ?_⟩
    rw [if_neg (hfresh frame)]
    refine if_neg ?_
    rintro ⟨expected, hexpected, hne⟩
    exact hne (hsession.trans (Option.some.inj hexpected))

end Protocol

namespace Transport

/-! ## The scanner -/

/-- The bytes are those of a control frame of the session. -/
structure IsControlFrame (session : SessionId) (frame : ProtocolFrame) (bytes : List UInt8) :
    Prop where
  encodes : encodeFrame frame = .ok bytes
  control : frame.kind.isControl = true
  session : frame.sessionId = session

variable {session : SessionId} {frame : ProtocolFrame} {bytes buffer : List UInt8}

theorem length_le_of_isControlFrame (h : IsControlFrame session frame bytes) :
    bytes.length ≤ frameHeaderBytes + controlMessageBytes := by
  obtain ⟨payload, flags, hpayload, -, -, rfl⟩ := encodeFrame_eq_ok.mp h.encodes
  rw [List.length_append, length_headerBytes]
  refine Nat.add_le_add_left ?_ _
  cases frame with
  | control message =>
    obtain ⟨encoded, hencoded, hpair⟩ := Result.map_eq_ok.mp hpayload
    obtain ⟨rfl, -⟩ := Prod.mk.inj hpair
    exact (atMost_putControl message).length_le hencoded
  | _ => exact absurd h.control Bool.false_ne_true

/-- The scanner finds a frame where its bytes start. -/
theorem scanControl_eq_frame {size : ℕ} :
    scanControl session buffer = .frame frame size ↔
      ∃ bytes, IsControlFrame session frame bytes ∧ bytes <+: buffer ∧ size = bytes.length := by
  constructor
  · intro h
    unfold scanControl at h
    split_ifs at h with hshort
    split at h
    · cases h
    · rename_i header hheader
      dsimp only at h
      split_ifs at h with hcontrol hwait
      split at h
      · rename_i decoded hdecode
        obtain ⟨rfl, rfl⟩ := Scan.frame.inj h
        obtain ⟨hframe, hsession⟩ := decode_eq_ok_iff.mp hdecode
        have hlong := Nat.not_lt.mp hshort
        rw [decodeHeader_take hlong le_rfl] at hheader
        have hkind := kind_of_decodeFrame hframe
          ((decodeHeader_take hlong (Nat.le_add_right _ _)).trans hheader)
        refine ⟨_, ⟨encodeFrame_of_decodeFrame hframe, ?_, hsession⟩, List.take_prefix _ _, ?_⟩
        · rw [hkind]
          exact Bool.of_not_eq_false hcontrol
        · rw [List.length_take, min_eq_left (Nat.not_lt.mp hwait)]
      · cases h
  · rintro ⟨bytes, hframe, ⟨rest, rfl⟩, rfl⟩
    have hdecoded := decodeFrame_of_encodeFrame hframe.encodes
    obtain ⟨header, hheader, hlength, -⟩ := decodeFrame_eq_ok.mp hdecoded
    have hlong : frameHeaderBytes ≤ bytes.length := by omega
    have htake : (bytes ++ rest).take frameHeaderBytes = bytes.take frameHeaderBytes :=
      List.take_append_of_le_length hlong
    have hwhole : frameHeaderBytes ≤ (bytes ++ rest).length :=
      hlong.trans (by rw [List.length_append]; exact Nat.le_add_right _ _)
    have hkind : header.kind.isControl = true :=
      (kind_of_decodeFrame hdecoded hheader) ▸ hframe.control
    unfold scanControl
    rw [if_neg (Nat.not_lt.mpr hwhole), htake, decodeHeader_take hlong le_rfl, hheader]
    dsimp only
    rw [if_neg (by rw [hkind]; exact Bool.noConfusion), ← hlength,
      if_neg (by rw [List.length_append]; omega), List.take_left,
      decode_eq_ok_iff.mpr ⟨hdecoded, hframe.session⟩]

/-- An answer of the scanner is about the bytes that it has seen. -/
theorem scanControl_append (more : List UInt8)
    (h : scanControl session buffer ≠ .incomplete) :
    scanControl session (buffer ++ more) = scanControl session buffer := by
  unfold scanControl at h ⊢
  split_ifs at h with hshort
  · exact absurd rfl h
  have hlong := Nat.not_lt.mp hshort
  have hwhole : buffer.length ≤ (buffer ++ more).length := by
    rw [List.length_append]
    exact Nat.le_add_right _ _
  rw [if_neg (Nat.not_lt.mpr (hlong.trans hwhole)), if_neg hshort,
    List.take_append_of_le_length hlong]
  cases hheader : decodeHeader (buffer.take frameHeaderBytes) with
  | error => rfl
  | ok header =>
    rw [hheader] at h
    dsimp only at h ⊢
    by_cases hcontrol : header.kind.isControl = false
    · rw [if_pos hcontrol, if_pos hcontrol]
    · rw [if_neg hcontrol] at h
      split_ifs at h with hwait
      · exact absurd rfl h
      · have htotal := Nat.not_lt.mp hwait
        rw [if_neg hcontrol, if_neg hcontrol, if_neg hwait,
          if_neg (Nat.not_lt.mpr (htotal.trans hwhole)), List.take_append_of_le_length htotal]

theorem framing_scanControl (session : SessionId) : Framing (scanControl session) where
  empty := rfl
  size_pos h := by
    obtain ⟨bytes, hframe, -, rfl⟩ := scanControl_eq_frame.mp h
    obtain ⟨payload, flags, -, -, -, rfl⟩ := encodeFrame_eq_ok.mp hframe.encodes
    rw [List.length_append, length_headerBytes]
    exact Nat.add_pos_left (by decide) _
  size_le h := by
    obtain ⟨bytes, -, hinitial, rfl⟩ := scanControl_eq_frame.mp h
    exact hinitial.length_le
  append := scanControl_append
  narrow h hle := by
    obtain ⟨bytes, hframe, hinitial, rfl⟩ := scanControl_eq_frame.mp h
    have hshort := List.prefix_of_prefix_length_le hinitial (List.prefix_append _ _) hle
    exact scanControl_eq_frame.mpr ⟨bytes, hframe, hshort, rfl⟩

/-- A buffer that cannot take another chunk is not the beginning of a frame. -/
theorem blocked_of_overflow {chunk : List UInt8} (hchunk : chunk.length ≤ controlChunkBytes)
    (hwait : scanControl session buffer = .incomplete)
    (hfull : buffer.length + chunk.length > maxControlFrameBytes) :
    Blocked (scanControl session) buffer := by
  refine blocked_of_long (framing_scanControl session) hwait fun stream frame size hframe => ?_
  obtain ⟨bytes, hbytes, -, rfl⟩ := scanControl_eq_frame.mp hframe
  refine (length_le_of_isControlFrame hbytes).trans ?_
  have hroom : frameHeaderBytes + controlMessageBytes + controlChunkBytes ≤
    maxControlFrameBytes := by
    decide
  omega

/-! ## A chunk -/

/-- No deadline passes and nobody stops the loop in this turn. -/
structure ReadTurn.Calm (turn : ReadTurn) : Prop where
  stopped : turn.stopped = false
  admission : turn.admissionExpired = false
  frame : turn.frameExpired = false
  admissionAfterRead : turn.admissionExpiredAfterRead = false
  frameAfterRead : turn.frameExpiredAfterRead = false
  admissionAt : ∀ count, turn.admissionExpiredAt count = false

/-- The report of a frame. -/
def reportFrame (frame : ProtocolFrame × ℕ) : ReadControlOutcome := .frame frame.1 frame.2

namespace ControlReader

variable {r t : ControlReader} {onOutcome : List ReadControlOutcome → Bool} {turn : ReadTurn}

/-- What the loop over the buffer does: it reports the frames at its beginning, and it waits for
more or rejects the rest. -/
def Drains (session : SessionId) (r t : ControlReader) : Prop :=
  ∃ frames rest, Starts (scanControl session) r.buffer frames rest ∧
    ((scanControl session rest = .incomplete ∧ t.running = true ∧ t.buffer = rest ∧
        t.reported = r.reported ++ frames.map reportFrame) ∨
      ∃ error, scanControl session rest = .rejected error ∧ t.running = false ∧
        t.reported = r.reported ++ frames.map reportFrame ++ [.rejected error])

/-- A round of the loop looks at the beginning of the buffer. -/
theorem nextFrame_eq (hrunning : r.running = true) (hcalm : turn.Calm) :
    r.nextFrame session onOutcome turn = r.handle onOutcome (scanControl session r.buffer) := by
  unfold nextFrame
  rw [if_neg (by rw [hrunning]; exact Bool.noConfusion),
    if_neg (by rw [hcalm.admissionAt]; exact Bool.false_ne_true)]

theorem nextFrame_of_stopped (h : r.running = false) :
    r.nextFrame session onOutcome turn = none := if_pos h

theorem deliver_eq (haccepts : ∀ reported, onOutcome reported = true) (frame : ProtocolFrame)
    (size : ℕ) :
    r.deliver onOutcome frame size =
      { r with
        buffer := r.buffer.drop size
        reported := r.reported ++ [.frame frame size]
        frameStarted := decide (r.buffer.drop size ≠ []) } :=
  if_pos (haccepts _)

theorem drains_of_frame (haccepts : ∀ reported, onOutcome reported = true)
    {frame : ProtocolFrame} {size : ℕ}
    (hframe : scanControl session r.buffer = .frame frame size)
    (h : Drains session (r.deliver onOutcome frame size) t) : Drains session r t := by
  rw [deliver_eq haccepts] at h
  obtain ⟨frames, rest, hstarts, hcase⟩ := h
  refine ⟨(frame, size) :: frames, rest, .cons hframe hstarts, ?_⟩
  rw [List.map_cons, List.append_cons]
  exact hcase

/-- The loop over the buffer, with enough rounds. -/
theorem drains_loop (hcalm : turn.Calm) (haccepts : ∀ reported, onOutcome reported = true)
    {rounds : ℕ} (hrunning : r.running = true) (hrounds : r.buffer.length < rounds) :
    Drains session r (loop (fun r => r.nextFrame session onOutcome turn) rounds r) := by
  induction rounds generalizing r with
  | zero => exact absurd hrounds (Nat.not_lt_zero _)
  | succ rounds ih =>
    have hnext : r.nextFrame session onOutcome turn =
        r.handle onOutcome (scanControl session r.buffer) := nextFrame_eq hrunning hcalm
    cases hscan : scanControl session r.buffer with
    | incomplete =>
      rw [hscan] at hnext
      rw [loop_of_none hnext]
      exact ⟨[], r.buffer, .nil _, .inl ⟨hscan, hrunning, rfl, (List.append_nil _).symm⟩⟩
    | rejected error =>
      rw [hscan] at hnext
      rw [loop_succ hnext, loop_of_none (nextFrame_of_stopped rfl)]
      refine ⟨[], r.buffer, .nil _, .inr ⟨error, hscan, rfl, ?_⟩⟩
      rw [List.map_nil, List.append_nil]
      rfl
    | frame =>
      rw [hscan] at hnext
      rw [loop_succ hnext]
      refine drains_of_frame haccepts hscan (ih ?_ ?_)
      · rw [deliver_eq haccepts]
        exact hrunning
      · have hpos := (framing_scanControl session).size_pos hscan
        have hle := (framing_scanControl session).size_le hscan
        rw [deliver_eq haccepts, List.length_drop]
        omega

/-- What a chunk adds to the stream that was received before. -/
theorem drains_take (hcalm : turn.Calm) (haccepts : ∀ reported, onOutcome reported = true)
    (hrunning : r.running = true) {chunk : List UInt8}
    (hroom : ¬r.buffer.length + chunk.length > maxControlFrameBytes) :
    ∃ frameStarted, Drains session { r with buffer := r.buffer ++ chunk, frameStarted }
      (r.take session onOutcome turn chunk) := by
  refine ⟨r.frameStarted || decide (r.buffer = []), ?_⟩
  unfold take
  dsimp only
  rw [if_neg (by rw [hcalm.admissionAfterRead]; exact Bool.false_ne_true), if_neg hroom,
    if_neg (by rw [hcalm.frameAfterRead, Bool.and_false]; exact Bool.false_ne_true)]
  exact drains_loop hcalm haccepts hrunning (Nat.lt_succ_self _)

theorem take_of_overflow (hcalm : turn.Calm) {chunk : List UInt8}
    (hfull : r.buffer.length + chunk.length > maxControlFrameBytes) :
    r.take session onOutcome turn chunk = r.reject ⟨.protocol, .control,
      "control receive buffer exceeded the maximum frame size"⟩ := by
  unfold take
  dsimp only
  rw [if_neg (by rw [hcalm.admissionAfterRead]; exact Bool.false_ne_true), if_pos hfull]

/-- A calm turn does what its read says. -/
theorem turn_eq (hcalm : turn.Calm) (hrunning : r.running = true) :
    r.turn session onOutcome turn = r.receive session onOutcome turn turn.read := by
  unfold ControlReader.turn
  rw [if_neg (by rw [hrunning]; exact Bool.noConfusion),
    if_neg (by rw [hcalm.stopped]; exact Bool.false_ne_true),
    if_neg (by rw [hcalm.admission]; exact Bool.false_ne_true),
    if_neg (by rw [hcalm.frame, Bool.and_false]; exact Bool.false_ne_true)]

/-- The loop has ended. -/
theorem foldl_turn_of_stopped (h : r.running = false) (turns : List ReadTurn) :
    turns.foldl (fun r turn => r.turn session onOutcome turn) r = r := by
  induction turns with
  | nil => rfl
  | cons turn turns ih =>
    have hsame : r.turn session onOutcome turn = r := if_pos h
    rw [List.foldl_cons, hsame]
    exact ih

end ControlReader

/-! ## A stream -/

/-- The turns read a stream to its end, in any chunks. -/
inductive Receives : List ReadTurn → List UInt8 → Prop
  | closed {turn : ReadTurn} (hcalm : turn.Calm) (hread : turn.read = .data []) :
      Receives [turn] []
  | waited {turn : ReadTurn} {turns : List ReadTurn} {bytes : List UInt8} (hcalm : turn.Calm)
      (hread : turn.read = .waited) (hrest : Receives turns bytes) :
      Receives (turn :: turns) bytes
  | data {turn : ReadTurn} {turns : List ReadTurn} {chunk bytes : List UInt8}
      (hcalm : turn.Calm) (hread : turn.read = .data chunk) (hdata : chunk ≠ [])
      (hchunk : chunk.length ≤ controlChunkBytes) (hrest : Receives turns bytes) :
      Receives (turn :: turns) (chunk ++ bytes)

/-- The last outcome: the stream ends after a frame, or what follows is rejected. -/
def Ends (rest : List UInt8) (outcome : ReadControlOutcome) : Prop :=
  if rest = [] then outcome = .closed else ∃ error, outcome = .rejected error

theorem ends_closed {rest : List UInt8} (h : rest = []) : Ends rest .closed := by
  rw [Ends, if_pos h]

theorem ends_rejected {rest : List UInt8} (h : rest ≠ []) (error : TransportError) :
    Ends rest (.rejected error) := by
  rw [Ends, if_neg h]
  exact ⟨error, rfl⟩

namespace ControlReader

variable {r : ControlReader} {onOutcome : List ReadControlOutcome → Bool}

/-- What the rest of a stream adds, for a reader that waits for more. -/
def Reads (session : SessionId) (r t : ControlReader) (bytes : List UInt8) : Prop :=
  ∃ frames rest outcome, Starts (scanControl session) (r.buffer ++ bytes) frames rest ∧
    Frameless (scanControl session) rest ∧ Ends rest outcome ∧
      t.reported = r.reported ++ frames.map reportFrame ++ [outcome]

theorem reads_reject {bytes : List UInt8}
    (hless : Frameless (scanControl session) (r.buffer ++ bytes))
    (hne : r.buffer ++ bytes ≠ []) (error : TransportError) :
    Reads session r (r.reject error) bytes := by
  refine ⟨[], r.buffer ++ bytes, .rejected error, .nil _, hless, ends_rejected hne error, ?_⟩
  rw [List.map_nil, List.append_nil]
  rfl

/-- At the end of the stream nothing may be left in the buffer. -/
theorem reads_close (hwait : scanControl session r.buffer = .incomplete) :
    Reads session r r.close [] := by
  have hless : Frameless (scanControl session) (r.buffer ++ []) := by
    rw [List.append_nil]
    exact frameless_of_incomplete hwait
  unfold close
  split_ifs with hempty
  · refine ⟨[], r.buffer ++ [], .closed, .nil _, hless, ends_closed ?_, ?_⟩
    · rw [List.append_nil, hempty]
    · rw [List.map_nil, List.append_nil]
      rfl
  · exact reads_reject hless (by rw [List.append_nil]; exact hempty) _

/-- A chunk that does not fit is rejected with all that follows. -/
theorem reads_overflow {chunk : List UInt8}
    (hwait : scanControl session r.buffer = .incomplete) (hdata : chunk ≠ [])
    (hchunk : chunk.length ≤ controlChunkBytes)
    (hfull : r.buffer.length + chunk.length > maxControlFrameBytes) (bytes : List UInt8)
    (error : TransportError) : Reads session r (r.reject error) (chunk ++ bytes) := by
  refine reads_reject (blocked_of_overflow hchunk hwait hfull _) (fun hnil => ?_) error
  exact hdata (List.append_eq_nil_iff.mp (List.append_eq_nil_iff.mp hnil).2).1

/-- After a chunk the reader waits for more, or it has rejected what follows. -/
theorem reads_of_drains {chunk bytes : List UInt8} {frameStarted : Bool} {t u : ControlReader}
    (hdrains : Drains session { r with buffer := r.buffer ++ chunk, frameStarted } t)
    (hstopped : t.running = false → u = t)
    (hgoes : t.running = true → scanControl session t.buffer = .incomplete →
      Reads session t u bytes) : Reads session r u (chunk ++ bytes) := by
  have hscan := framing_scanControl session
  obtain ⟨frames, rest, hstarts, ⟨hwait, hrunning, rfl, hreported⟩ |
    ⟨error, herror, hend, hreported⟩⟩ :=
    hdrains
  · obtain ⟨frames', rest', outcome, hstarts', hless, hends, hreported'⟩ := hgoes hrunning hwait
    refine ⟨frames ++ frames', rest', outcome, ?_, hless, hends, ?_⟩
    · rw [← List.append_assoc]
      exact (hstarts.append hscan bytes).trans hstarts'
    · rw [hreported', hreported, List.map_append, List.append_assoc r.reported]
  · obtain rfl := hstopped hend
    refine ⟨frames, rest ++ bytes, .rejected error, ?_,
      blocked_of_rejected hscan herror bytes, ends_rejected ?_ error, hreported⟩
    · rw [← List.append_assoc]
      exact hstarts.append hscan bytes
    · intro hnil
      exact hscan.ne_nil_of_rejected herror (List.append_eq_nil_iff.mp hnil).1

/-- The reader of a stream reports the frames with which the stream starts. -/
theorem reads_foldl (haccepts : ∀ reported, onOutcome reported = true) {turns : List ReadTurn}
    {bytes : List UInt8} (h : Receives turns bytes) (hrunning : r.running = true)
    (hwait : scanControl session r.buffer = .incomplete) :
    Reads session r (turns.foldl (fun r turn => r.turn session onOutcome turn) r) bytes := by
  induction h generalizing r with
  | closed hcalm hread =>
    rw [List.foldl_cons, List.foldl_nil, turn_eq hcalm hrunning, hread]
    exact reads_close hwait
  | waited hcalm hread _ ih =>
    rw [List.foldl_cons, turn_eq hcalm hrunning, hread]
    exact ih hrunning hwait
  | @data turn turns chunk bytes hcalm hread hdata hchunk _ ih =>
    have hturn : r.turn session onOutcome turn = r.take session onOutcome turn chunk := by
      rw [turn_eq hcalm hrunning, hread]
      cases chunk with
      | nil => exact absurd rfl hdata
      | cons => rfl
    rw [List.foldl_cons, hturn]
    by_cases hfull : r.buffer.length + chunk.length > maxControlFrameBytes
    · rw [take_of_overflow hcalm hfull, foldl_turn_of_stopped rfl]
      exact reads_overflow hwait hdata hchunk hfull bytes _
    · obtain ⟨frameStarted, hdrains⟩ := drains_take hcalm haccepts hrunning hfull
      exact reads_of_drains hdrains (fun hend => foldl_turn_of_stopped hend turns) ih

end ControlReader

/-- The stream starts with control frames of the session, each with its bytes. -/
structure ControlPrefix (session : SessionId) (entries : List (ProtocolFrame × List UInt8))
    (bytes rest : List UInt8) : Prop where
  frames : ∀ entry ∈ entries, IsControlFrame session entry.1 entry.2
  stream : bytes = (entries.map Prod.snd).flatten ++ rest

section ControlPrefix

variable {entries entries' : List (ProtocolFrame × List UInt8)} {rest rest' : List UInt8}

/-- A frame and the number of its bytes. -/
def sized (entry : ProtocolFrame × List UInt8) : ProtocolFrame × ℕ := (entry.1, entry.2.length)

/-- A frame and its bytes. -/
def encoded (frame : ProtocolFrame × ℕ) : ProtocolFrame × List UInt8 :=
  (frame.1, (encodeFrame frame.1).toOption.getD [])

theorem ControlPrefix.starts (h : ControlPrefix session entries bytes rest) :
    Starts (scanControl session) bytes (entries.map sized) rest := by
  induction entries generalizing bytes with
  | nil =>
    rw [h.stream]
    exact .nil _
  | cons entry entries ih =>
    have hframe := h.frames entry List.mem_cons_self
    have hstream : bytes = entry.2 ++ ((entries.map Prod.snd).flatten ++ rest) := by
      rw [h.stream, List.map_cons, List.flatten_cons, List.append_assoc]
    refine .cons (scanControl_eq_frame.mpr ⟨entry.2, hframe, ⟨_, hstream.symm⟩, rfl⟩) (ih ?_)
    rw [hstream, List.drop_left]
    exact ⟨fun other hmem => h.frames other (List.mem_cons_of_mem _ hmem), rfl⟩

theorem controlPrefix_of_starts {frames : List (ProtocolFrame × ℕ)}
    (h : Starts (scanControl session) bytes frames rest) :
    ∃ entries, ControlPrefix session entries bytes rest ∧ frames = entries.map sized := by
  induction h with
  | nil => exact ⟨[], ⟨fun _ hmem => absurd hmem List.not_mem_nil, rfl⟩, rfl⟩
  | cons hframe _ ih =>
    obtain ⟨entries, hentries, rfl⟩ := ih
    obtain ⟨bytes, hbytes, ⟨suffix, rfl⟩, rfl⟩ := scanControl_eq_frame.mp hframe
    refine ⟨(_, bytes) :: entries, ⟨fun entry hmem => ?_, ?_⟩, rfl⟩
    · rcases List.mem_cons.mp hmem with rfl | hmem
      · exact hbytes
      · exact hentries.frames entry hmem
    · have hsuffix := hentries.stream
      rw [List.drop_left] at hsuffix
      rw [hsuffix, List.map_cons, List.flatten_cons, List.append_assoc]

theorem ControlPrefix.map_encoded (h : ControlPrefix session entries bytes rest) :
    (entries.map sized).map encoded = entries := by
  rw [List.map_map]
  refine (List.map_congr_left fun entry hmem => ?_).trans (List.map_id entries)
  have hencodes := (h.frames entry hmem).encodes
  simp only [Function.comp_apply, sized, encoded, hencodes, Except.toOption, Option.getD_some, id]

/-- Up to a place where no frame starts, the frames are the longest list. -/
theorem ControlPrefix.isPrefix (h : ControlPrefix session entries bytes rest)
    (hless : Frameless (scanControl session) rest)
    (h' : ControlPrefix session entries' bytes rest') : entries' <+: entries := by
  have hsized := (h.starts.isPrefix hless h'.starts).map encoded
  rwa [h.map_encoded, h'.map_encoded] at hsized

end ControlPrefix

/-- The report of a frame and its size. -/
def reportEntry (entry : ProtocolFrame × List UInt8) : ReadControlOutcome :=
  .frame entry.1 entry.2.length

/-- **Control streams are framed.** Whatever reads bring a stream, the reader reports the longest
list of control frames of the session with which the stream starts. A stream of such frames is
then closed; other bytes are rejected once. -/
theorem control_stream_is_framed (session : SessionId)
    (onOutcome : List ReadControlOutcome → Bool)
    (haccepts : ∀ reported, onOutcome reported = true) :
    (∀ entries bytes turns, ControlPrefix session entries bytes [] → Receives turns bytes →
      (readControlLoop session onOutcome (.ok ()) turns).reported =
        entries.map reportEntry ++ [.closed]) ∧
    ∀ bytes, ∃ entries rest, ControlPrefix session entries bytes rest ∧
      (∀ entries' rest', ControlPrefix session entries' bytes rest' → entries' <+: entries) ∧
      ∀ turns, Receives turns bytes → ∃ outcome, Ends rest outcome ∧
        (readControlLoop session onOutcome (.ok ()) turns).reported =
          entries.map reportEntry ++ [outcome] := by
  have hrun : ∀ {entries bytes rest turns}, ControlPrefix session entries bytes rest →
      Frameless (scanControl session) rest → Receives turns bytes → ∃ outcome, Ends rest outcome ∧
        (readControlLoop session onOutcome (.ok ()) turns).reported =
          entries.map reportEntry ++ [outcome] := by
    intro entries bytes rest turns hentries hless hreceives
    obtain ⟨frames, rest', outcome, hstarts, hless', hends, hreported⟩ :=
      @ControlReader.reads_foldl session {} onOutcome haccepts turns bytes hreceives rfl rfl
    obtain ⟨rfl, rfl⟩ := hstarts.unique hless' hentries.starts hless
    rw [List.map_map] at hreported
    exact ⟨outcome, hends, hreported⟩
  refine ⟨fun entries bytes turns hentries hreceives => ?_, fun bytes => ?_⟩
  · obtain ⟨outcome, hends, hreported⟩ := hrun hentries (frameless_of_incomplete rfl) hreceives
    rw [hreported, show outcome = .closed from hends]
  · obtain ⟨frames, rest, hstarts, hless⟩ := (framing_scanControl session).exists_starts bytes
    obtain ⟨entries, hentries, rfl⟩ := controlPrefix_of_starts hstarts
    exact ⟨entries, rest, hentries, fun _ _ h' => hentries.isPrefix hless h',
      fun turns hreceives => hrun hentries hless hreceives⟩

namespace ControlScenario

theorem valid_session : validateIdentifier .session "s" = .ok () := by decide

theorem valid_stream : validateIdentifier .stream "t" = .ok () := by decide

def party : SessionId := ⟨"s", valid_session⟩

def pause : ProtocolFrame := .control (.pause ⟨party, ⟨"t", valid_stream⟩, ⟨7⟩⟩)

def pauseBytes : List UInt8 :=
  [83, 68, 80, 50, 0, 3, 0, 7, 0, 0, 0, 16, 0, 0, 0, 14, 0, 1, 115, 0, 1, 116,
    0, 0, 0, 0, 0, 0, 0, 7]

theorem isControlFrame_pause : IsControlFrame party pause pauseBytes :=
  ⟨by decide, rfl, rfl⟩

def reading (chunk : List UInt8) : ReadTurn := { read := .data chunk }

theorem calm_reading (chunk : List UInt8) : (reading chunk).Calm :=
  ⟨rfl, rfl, rfl, rfl, rfl, fun _ => rfl⟩

theorem controlPrefix_pauses :
    ControlPrefix party [(pause, pauseBytes), (pause, pauseBytes)]
      (pauseBytes.take 5 ++ (pauseBytes.drop 5 ++ pauseBytes ++ [])) [] := by
  refine ⟨fun entry hmem => ?_, by decide⟩
  obtain rfl : entry = (pause, pauseBytes) := by simpa using hmem
  exact isControlFrame_pause

end ControlScenario

open ControlScenario in
/-- Two frames in two reads, the first of which ends in a header. -/
theorem control_stream_is_framed_twice :
    (readControlLoop party (fun _ => true) (.ok ())
      [reading (pauseBytes.take 5), reading (pauseBytes.drop 5 ++ pauseBytes),
        reading []]).reported = [.frame pause 30, .frame pause 30, .closed] := by
  refine (control_stream_is_framed party (fun _ => true) (fun _ => rfl)).1 _ _ _
    controlPrefix_pauses ?_
  exact .data (calm_reading _) rfl (by decide) (by decide)
    (.data (calm_reading _) rfl (by decide) (by decide) (.closed (calm_reading _) rfl))

end Transport

end SilentDisco
