import SilentDisco.Protocol.Codec

/-!
# The frame codec is a bijection between encodable frames and accepted byte strings

Each field is a codec in the sense of `Wire.Codec`; messages are codecs field by field, and
frames are codecs of their header and payload.

## Main results

* `codec_control`, `codec_syncRequest`, `codec_syncResponse`, `codec_audio`: the messages
* `decodeFrame_encodeFrame`: encoding is injective, decodes back, and is prefix-free
* `encodeFrame_decodeFrame`: every accepted byte string is the encoding of its frame
-/

namespace SilentDisco.Protocol

open Wire Codec SynchronizationReport ProtocolError
open Result (check rejectIf check_eq_ok map_eq_ok rejectIf_eq_ok)

/-! ## Fields -/

theorem field_u8 : Field putU8 readU8 :=
  field_word truncated 1 UInt8.toNat UInt8.ofNat (fun a => a.toNat_lt) (fun a => by simp)
    (fun n hn => by rw [UInt8.toNat_ofNat']; omega)

theorem field_u16 : Field putU16 readU16 :=
  field_word truncated 2 UInt16.toNat UInt16.ofNat (fun a => a.toNat_lt) (fun a => by simp)
    (fun n hn => by rw [UInt16.toNat_ofNat']; omega)

theorem field_u32 : Field putU32 readU32 :=
  field_word truncated 4 UInt32.toNat UInt32.ofNat (fun a => a.toNat_lt) (fun a => by simp)
    (fun n hn => by rw [UInt32.toNat_ofNat']; omega)

theorem field_u64 : Field putU64 readU64 :=
  field_word truncated 8 UInt64.toNat UInt64.ofNat (fun a => a.toNat_lt) (fun a => by simp)
    (fun n hn => by rw [UInt64.toNat_ofNat']; omega)

theorem field_f64 : Field putF64 readF64 :=
  field_u64.refine _ (fun bits => .ok (F64.mk bits)) F64.bits (fun _ _ => ⟨trivial, rfl⟩) (by
    rintro bits _ - ⟨⟩
    exact ⟨trivial, rfl⟩)

theorem field_bool : Field putBool readBool :=
  field_u8.refine _ boolOfByte (fun value => if value then 1 else 0)
    (fun value _ => ⟨trivial, by cases value <;> rfl⟩) (by
    intro byte value _ h
    unfold boolOfByte at h
    split_ifs at h with h₀ h₁ <;> cases h
    · exact ⟨trivial, h₀.symm⟩
    · exact ⟨trivial, h₁.symm⟩)

theorem utf8ByteSize_le_of_validateText {field value : String} {maximum : ℕ} {secret : Bool}
    (h : validateText field value maximum secret = .ok ()) : value.utf8ByteSize ≤ maximum := by
  unfold validateText at h
  split_ifs at h with hbad
  omega

variable {bytes payload : List UInt8} {kind : MessageKind} {frame : ProtocolFrame}

theorem textOfBytes_eq_ok {field value : String} {maximum : ℕ} {secret : Bool} :
    textOfBytes field maximum secret bytes = .ok value ↔
      asBytes value = bytes ∧ validateText field value maximum secret = .ok () := by
  constructor
  · intro h
    unfold textOfBytes at h
    split at h
    · cases h
    · next text htext =>
      cases hvalid : validateText field text maximum secret with
      | error => simp [hvalid, Except.map] at h
      | ok =>
        obtain rfl : text = value := by simpa [hvalid, Except.map] using h
        exact ⟨asBytes_of_fromUtf8 htext, hvalid⟩
  · rintro ⟨rfl, hvalid⟩
    simp [textOfBytes, fromUtf8_asBytes, hvalid, Except.map]

variable (field : String) (maximum : ℕ) (secret : Bool)

/-- A valid text within the range of its length field. -/
def TextOk (value : String) : Prop :=
  validateText field value maximum secret = .ok () ∧ value.utf8ByteSize < 2 ^ 16

/-- The text behind a length field that was read as `length`. -/
theorem codec_text (length : UInt16) :
    Codec (fun _ => True)
      (fun value => TextOk field maximum secret value ∧
        UInt16.ofNat value.utf8ByteSize = length) id
      (fun value => putBytes (asBytes value))
      (ofResult (check (length.toNat ≤ maximum) (.payloadTooLarge length.toNat maximum)) >>=
        fun _ => takeBytes length.toNat >>= fun bytes =>
          ofResult (textOfBytes field maximum secret bytes)) := by
  have hlen : ∀ value : String, value.utf8ByteSize < 2 ^ 16 →
      (UInt16.ofNat value.utf8ByteSize).toNat = value.utf8ByteSize := by
    intro value hsize
    rw [UInt16.toNat_ofNat']
    omega
  refine precheck ?_ _ ?_
  · refine (codec_take _ _).refine _ _ asBytes ?_ ?_
    · rintro value ⟨⟨hvalid, hsize⟩, rfl⟩
      exact ⟨(hlen value hsize).symm, textOfBytes_eq_ok.mpr ⟨rfl, hvalid⟩⟩
    · intro bytes value hbytes htext
      obtain ⟨rfl, hvalid⟩ := textOfBytes_eq_ok.mp htext
      have hsize : value.utf8ByteSize = length.toNat := hbytes
      refine ⟨⟨⟨hvalid, hsize ▸ length.toNat_lt⟩, ?_⟩, rfl⟩
      rw [hsize, UInt16.ofNat_toNat]
  · rintro value ⟨⟨hvalid, hsize⟩, rfl⟩
    rw [hlen value hsize, check_eq_ok]
    exact utf8ByteSize_le_of_validateText hvalid

theorem field_string :
    Field (putString field maximum secret) (readString field maximum secret) := by
  have h : Codec (fun _ => True) (TextOk field maximum secret) id _
      (readString field maximum secret) :=
    cons (fun value : String => UInt16.ofNat value.utf8ByteSize) field_u16
      (codec_text field maximum secret)
  refine h.require fun value out r => ?_
  unfold putString TextOk
  simp only [ofResult_bind_eq_ok, check_eq_ok, Unique.exists_iff, and_assoc]

theorem field_optionalString :
    Field (putOptionalString field maximum secret) (readOptionalString field maximum secret) where
  read_back := by
    intro value out out' _ hput
    cases value with
    | none =>
      obtain ⟨bs, rfl, hget⟩ := field_u8.read_back trivial hput
      exact ⟨bs, rfl, fun pre rest hr => bind_eq_ok.mpr ⟨_, _, hget pre rest hr, rfl⟩⟩
    | some value =>
      obtain ⟨⟨⟩, _, hmark, hput⟩ := bind_eq_ok.mp hput
      obtain ⟨bs, rfl, hget⟩ := field_u8.read_back trivial hmark
      obtain ⟨bs', rfl, hget'⟩ := (field_string field maximum secret).read_back trivial hput
      refine ⟨bs ++ bs', List.append_assoc _ _ _, fun pre rest hr => bind_eq_ok.mpr
        ⟨1, _, by simpa using hget pre (bs' ++ rest) trivial, bind_eq_ok.mpr ⟨value, _, ?_, rfl⟩⟩⟩
      simpa using hget' (pre ++ bs) rest hr
  write_back := by
    intro pre suf value c hget
    obtain ⟨marker, _, hmark, hrest⟩ := bind_eq_ok.mp hget
    obtain ⟨_, bs, rest, rfl, -, rfl, -, rfl, hput⟩ := field_u8.write_back hmark
    split_ifs at hrest with h₀ h₁
    · obtain ⟨rfl, rfl⟩ := pure_eq_ok.mp hrest
      obtain rfl := h₀
      exact ⟨none, bs, rest, rfl, trivial, rfl, trivial, rfl, hput⟩
    · obtain ⟨text, _, htext, hpure⟩ := bind_eq_ok.mp hrest
      obtain ⟨rfl, rfl⟩ := pure_eq_ok.mp hpure
      rw [← List.append_assoc] at htext
      obtain ⟨_, bs', rest', rfl, -, rfl, -, rfl, hput'⟩ :=
        (field_string field maximum secret).write_back htext
      obtain rfl := h₁
      refine ⟨some _, bs ++ bs', rest', rfl, trivial, by simp, trivial, by simp, fun out => ?_⟩
      exact bind_eq_ok.mpr ⟨(), _, hput out, by simpa using hput' (out ++ bs)⟩
    · cases hrest

/-- An identifier is text that was validated again after it was read. -/
theorem field_identifier (kind : IdentifierKind) (field : String) :
    Field (fun id : Identifier kind => putString field maxIdentifierBytes false id.value)
      (readString field maxIdentifierBytes false >>= fun value =>
        ofResult (identifierOfText kind value)) := by
  refine (field_string field maxIdentifierBytes false).refine _ _ Identifier.value
    (fun id _ => ⟨trivial, ?_⟩) fun value id _ h => ⟨trivial, ?_⟩
  · simp [identifierOfText, Except.mapError]
  · unfold identifierOfText at h
    cases hnew : Identifier.new kind value with
    | error => simp [hnew, Except.mapError] at h
    | ok id' =>
      obtain rfl : id' = id := by simpa [hnew, Except.mapError] using h
      exact Identifier.new_eq_ok.mp hnew

theorem field_sessionId : Field putSessionId readSessionId :=
  field_identifier .session "session_id"

theorem field_streamId : Field putStreamId readStreamId :=
  field_identifier .stream "stream_id"

theorem field_deviceId : Field putDeviceId readDeviceId :=
  field_identifier .device "device_id"

theorem field_confidence : Field putConfidence readConfidence := by
  refine (field_string "confidence" maxSyncConfidenceWireNameBytes false).refine _ _
    SyncConfidence.wireName (fun confidence _ => ⟨trivial, ?_⟩)
    fun value confidence _ h => ⟨trivial, ?_⟩
  · rw [confidenceOfText, SyncConfidence.fromWireName_eq_some.mpr rfl]
  · unfold confidenceOfText at h
    split at h
    · next c hc =>
      cases h
      exact (SyncConfidence.fromWireName_eq_some.mp hc).symm
    · cases h

theorem field_codec : Field (fun codec : AudioCodec => putU8 codec.code) readCodec := by
  refine field_u8.refine _ _ AudioCodec.code (fun codec _ => ⟨trivial, ?_⟩)
    fun code codec _ h => ⟨trivial, ?_⟩
  · rw [codecOfByte, AudioCodec.tryFrom_eq_some.mpr rfl]
  · unfold codecOfByte at h
    split at h
    · next c hc =>
      cases h
      exact (AudioCodec.tryFrom_eq_some.mp hc).symm
    · cases h

/-! ## Control messages -/

/-- The messages of a constructor are written and read under its kind. -/
def Carries {α : Type} (make : α → ControlMessage) (kind : MessageKind) : Prop :=
  Codec (fun _ => True) (fun _ => True) make (fun value => putControl (make value))
    (readControl kind)

namespace Carries

variable {α : Type} {make : α → ControlMessage} {message : ControlMessage}

theorem decode_encode (h : Carries make kind) {value : α}
    (hencode : encodeControl (make value) = .ok bytes) :
    decodeControl kind bytes = .ok (make value) :=
  (finish h _).decode_encode trivial hencode

theorem encode_decode (h : Carries make kind) (hkind : ∀ value, (make value).kind = kind)
    (hdecode : decodeControl kind bytes = .ok message) :
    message.kind = kind ∧ encodeControl message = .ok bytes := by
  obtain ⟨value, rfl, -, hencode⟩ := (finish h _).encode_decode hdecode
  exact ⟨hkind value, hencode⟩

end Carries

theorem codec_hello : Carries .hello .hello := by
  refine cons Hello.sessionId field_sessionId fun a =>
    cons Hello.sessionName (field_string _ _ _) fun b =>
    cons Hello.hostName (field_string _ _ _) fun c =>
    last Hello.approvalRequired (fun d => ⟨a, b, c, d⟩) field_bool (fun d => by simp) ?_
  rintro v ⟨⟨⟨-, rfl⟩, rfl⟩, rfl⟩
  rfl

theorem codec_joinRequest : Carries .joinRequest .joinRequest := by
  refine cons JoinRequest.sessionId field_sessionId fun a =>
    cons (fun v : JoinRequest => v.device.deviceId) field_deviceId fun b =>
    cons (fun v : JoinRequest => v.device.displayName) (field_string _ _ _) fun c =>
    cons JoinRequest.inviteCode (field_optionalString _ _ _) fun d =>
    cons JoinRequest.syncPort field_u16 fun e =>
    last JoinRequest.audioPort (fun f => ⟨a, ⟨b, c⟩, d, e, f⟩) field_u16
      (fun f => by simp) ?_
  rintro v ⟨⟨⟨⟨⟨-, rfl⟩, rfl⟩, rfl⟩, rfl⟩, rfl⟩
  rfl

theorem codec_joinApproval : Carries .joinApproval .joinApproval :=
  triple JoinApproval.mk JoinApproval.sessionId JoinApproval.listenerId
    JoinApproval.trustedForFuture field_sessionId field_deviceId field_bool
    (fun _ _ _ => ⟨rfl, rfl, rfl⟩) fun _ => rfl

theorem codec_joinRejection : Carries .joinRejection .joinRejection :=
  triple JoinRejection.mk JoinRejection.sessionId JoinRejection.listenerId
    JoinRejection.reason field_sessionId field_deviceId (field_string _ _ _)
    (fun _ _ _ => ⟨rfl, rfl, rfl⟩) fun _ => rfl

theorem codec_heartbeat : Carries .heartbeat .heartbeat :=
  triple (fun a b c => Heartbeat.mk a b ⟨c⟩) Heartbeat.sessionId Heartbeat.listenerId
    (fun v => v.sentAtElapsedMs.get) field_sessionId field_deviceId field_u64
    (fun _ _ _ => ⟨rfl, rfl, rfl⟩) fun _ => rfl

theorem field_streamStart :
    Field (fun value => putControl (.streamStart value)) readStreamStart := by
  refine cons StreamStart.sessionId field_sessionId fun a =>
    cons StreamStart.streamId field_streamId fun b =>
    cons (fun v : StreamStart => v.hostStartTimeMs.get) field_u64 fun c =>
    cons StreamStart.sampleRate field_u32 fun d =>
    cons StreamStart.channels field_u16 fun e =>
    cons StreamStart.samplesPerPacket field_u32 fun f =>
    cons StreamStart.currentEntryId (field_optionalString _ _ _) fun g =>
    last StreamStart.currentDisplayName (fun h => ⟨a, b, ⟨c⟩, d, e, f, g, h⟩)
      (field_optionalString _ _ _) (fun h => by simp) ?_
  rintro v ⟨⟨⟨⟨⟨⟨⟨-, rfl⟩, rfl⟩, rfl⟩, rfl⟩, rfl⟩, rfl⟩, rfl⟩
  rfl

theorem codec_streamStart : Carries .streamStart .streamStart :=
  last id id field_streamStart (fun _ => ⟨trivial, rfl⟩) fun _ _ => rfl

theorem codec_trackBoundary : Carries .trackBoundary .trackBoundary := by
  refine cons TrackBoundary.sessionId field_sessionId fun a =>
    cons TrackBoundary.streamId field_streamId fun b =>
    cons (fun v : TrackBoundary => v.firstSampleIndex.get) field_u64 fun c =>
    cons TrackBoundary.entryId (field_string _ _ _) fun d =>
    last TrackBoundary.displayName (fun e => ⟨a, b, ⟨c⟩, d, e⟩) (field_string _ _ _)
      (fun e => by simp) ?_
  rintro v ⟨⟨⟨⟨-, rfl⟩, rfl⟩, rfl⟩, rfl⟩
  rfl

theorem codec_pause : Carries .pause .pause :=
  triple (fun a b c => Pause.mk a b ⟨c⟩) Pause.sessionId Pause.streamId
    (fun v => v.hostPauseTimeMs.get) field_sessionId field_streamId field_u64
    (fun _ _ _ => ⟨rfl, rfl, rfl⟩) fun _ => rfl

theorem codec_stop : Carries .stop .stop :=
  triple (fun a b c => Stop.mk a b ⟨c⟩) Stop.sessionId Stop.streamId
    (fun v => v.hostStopTimeMs.get) field_sessionId field_streamId field_u64
    (fun _ _ _ => ⟨rfl, rfl, rfl⟩) fun _ => rfl

theorem codec_disconnect : Carries .disconnect .disconnect :=
  triple Disconnect.mk Disconnect.sessionId Disconnect.listenerId
    Disconnect.reason field_sessionId field_deviceId (field_string _ _ _)
    (fun _ _ _ => ⟨rfl, rfl, rfl⟩) fun _ => rfl

theorem codec_resyncNotice : Carries .resyncNotice .resyncNotice :=
  triple ResyncNotice.mk ResyncNotice.sessionId ResyncNotice.listenerId
    ResyncNotice.reason field_sessionId field_deviceId (field_string _ _ _)
    (fun _ _ _ => ⟨rfl, rfl, rfl⟩) fun _ => rfl

theorem codec_synchronizationReport : Carries .synchronizationReport .synchronizationReport := by
  refine cons sessionId field_sessionId fun a =>
    cons listenerId field_deviceId fun b =>
    cons confidence field_confidence fun c =>
    cons offsetMs field_f64 fun d =>
    cons roundTripMs field_f64 fun e =>
    last driftPpm (fun f => ⟨a, b, c, d, e, f⟩) field_f64
      (fun f => by simp) ?_
  rintro v ⟨⟨⟨⟨⟨-, rfl⟩, rfl⟩, rfl⟩, rfl⟩, rfl⟩
  rfl

/-- Every control message decodes back under its own kind. -/
theorem decodeControl_encodeControl {message : ControlMessage}
    (h : encodeControl message = .ok bytes) : decodeControl message.kind bytes = .ok message := by
  cases message with
  | hello => exact codec_hello.decode_encode h
  | joinRequest => exact codec_joinRequest.decode_encode h
  | joinApproval => exact codec_joinApproval.decode_encode h
  | joinRejection => exact codec_joinRejection.decode_encode h
  | heartbeat => exact codec_heartbeat.decode_encode h
  | streamStart => exact codec_streamStart.decode_encode h
  | trackBoundary => exact codec_trackBoundary.decode_encode h
  | pause => exact codec_pause.decode_encode h
  | stop => exact codec_stop.decode_encode h
  | disconnect => exact codec_disconnect.decode_encode h
  | resyncNotice => exact codec_resyncNotice.decode_encode h
  | synchronizationReport => exact codec_synchronizationReport.decode_encode h

/-- The decoder of a kind yields only messages of that kind, with their canonical bytes. -/
theorem encodeControl_decodeControl {message : ControlMessage}
    (h : decodeControl kind bytes = .ok message) :
    message.kind = kind ∧ encodeControl message = .ok bytes := by
  cases kind with
  | hello => exact codec_hello.encode_decode (fun _ => rfl) h
  | joinRequest => exact codec_joinRequest.encode_decode (fun _ => rfl) h
  | joinApproval => exact codec_joinApproval.encode_decode (fun _ => rfl) h
  | joinRejection => exact codec_joinRejection.encode_decode (fun _ => rfl) h
  | heartbeat => exact codec_heartbeat.encode_decode (fun _ => rfl) h
  | streamStart => exact codec_streamStart.encode_decode (fun _ => rfl) h
  | pause => exact codec_pause.encode_decode (fun _ => rfl) h
  | stop => exact codec_stop.encode_decode (fun _ => rfl) h
  | disconnect => exact codec_disconnect.encode_decode (fun _ => rfl) h
  | resyncNotice => exact codec_resyncNotice.encode_decode (fun _ => rfl) h
  | synchronizationReport => exact codec_synchronizationReport.encode_decode (fun _ => rfl) h
  | trackBoundary => exact codec_trackBoundary.encode_decode (fun _ => rfl) h
  | syncRequest | syncResponse | audio => cases h

/-! ## Synchronization and audio messages -/

theorem codec_syncRequest :
    Codec (fun _ => True) (fun _ => True) id putSyncRequest readSyncRequest :=
  triple (fun a b c => SyncRequest.mk a b ⟨c⟩) SyncRequest.sessionId
    SyncRequest.correlationId (fun v => v.t1ListenerSendElapsedMs.get) field_sessionId field_u64
    field_u64 (fun _ _ _ => ⟨rfl, rfl, rfl⟩) fun _ => rfl

theorem codec_syncResponse :
    Codec (· = []) (fun _ => True) id putSyncResponse
      ((readSyncResponse >>= fun value => finish .trailingBytes >>= fun _ => pure value) >>=
        fun value => ofResult (validateTimestampOrder value) >>= fun _ => pure value) := by
  refine guard (finish ?_ _) _ _ fun _ => Iff.rfl
  refine cons SyncResponse.sessionId field_sessionId fun a =>
    cons SyncResponse.correlationId field_u64 fun b =>
    cons (fun v : SyncResponse => v.t1ListenerSendElapsedMs.get) field_u64 fun c =>
    cons (fun v : SyncResponse => v.t2HostReceiveElapsedMs.get) field_u64 fun d =>
    last (fun v : SyncResponse => v.t3HostSendElapsedMs.get)
      (fun e => ⟨a, b, ⟨c⟩, ⟨d⟩, ⟨e⟩⟩) field_u64 (fun e => by simp) ?_
  rintro v ⟨⟨⟨⟨-, rfl⟩, rfl⟩, rfl⟩, rfl⟩
  rfl

/-- The payload bytes behind their length and checksum, up to the end of the input. -/
theorem codec_audioBytes (length : UInt16) (checksum : UInt32) :
    Codec (· = [])
      (fun payload : List UInt8 => (payload.length < 2 ^ 16 ∧
        UInt16.ofNat payload.length = length) ∧ crc32 payload = checksum) id putBytes
      (remaining >>= fun rest =>
        ofResult (check (length.toNat ≤ rest) (.lengthMismatch length.toNat rest)) >>= fun _ =>
        ofResult (check (rest ≤ length.toNat) .trailingBytes) >>= fun _ =>
        takeBytes length.toNat >>= fun bytes =>
        ofResult (check (crc32 bytes = checksum) .integrityMismatch) >>= fun _ =>
        finish .trailingBytes >>= fun _ => pure bytes) where
  read_back := by
    rintro payload out out' ⟨⟨hlt, rfl⟩, rfl⟩ hput
    have hlen : (UInt16.ofNat payload.length).toNat = payload.length := by
      rw [UInt16.toNat_ofNat']
      omega
    refine ⟨payload, putBytes_eq_ok.mp hput, ?_⟩
    rintro pre _ rfl
    have hrest : (Cursor.mk (pre ++ (payload ++ [])) pre.length).remaining = payload.length := by
      simp [Cursor.remaining]
    refine bind_eq_ok.mpr ⟨payload.length, _, by rw [remaining, hrest], ?_⟩
    rw [hlen]
    obtain ⟨_, hbs, htake⟩ := (codec_take truncated payload.length).read_back rfl
      (putBytes_eq_ok.mpr rfl : (putBytes payload : Encoder) out = .ok ((), out ++ payload))
    obtain rfl := List.append_cancel_left hbs
    refine ofResult_bind_eq_ok.mpr ⟨(), check_eq_ok.mpr le_rfl, ?_⟩
    refine ofResult_bind_eq_ok.mpr ⟨(), check_eq_ok.mpr le_rfl, ?_⟩
    refine bind_eq_ok.mpr ⟨payload, _, htake pre [] trivial, ?_⟩
    refine ofResult_bind_eq_ok.mpr ⟨(), check_eq_ok.mpr rfl, ?_⟩
    exact bind_eq_ok.mpr ⟨(), _, finish_eq_ok.mpr ⟨by simp, rfl⟩, rfl⟩
  write_back := by
    intro pre suf payload c hget
    obtain ⟨_, _, ⟨⟩, hget⟩ := bind_eq_ok.mp hget
    obtain ⟨⟨⟩, -, hget⟩ := ofResult_bind_eq_ok.mp hget
    obtain ⟨⟨⟩, -, hget⟩ := ofResult_bind_eq_ok.mp hget
    obtain ⟨bytes, _, htake, hget⟩ := bind_eq_ok.mp hget
    obtain ⟨⟨⟩, hcrc, hget⟩ := ofResult_bind_eq_ok.mp hget
    have hcrc := check_eq_ok.mp hcrc
    obtain ⟨⟨⟩, _, hfinish, hpure⟩ := bind_eq_ok.mp hget
    obtain ⟨rfl, rfl⟩ := pure_eq_ok.mp hpure
    obtain ⟨hend, rfl⟩ := finish_eq_ok.mp hfinish
    obtain ⟨_, bs, rest, rfl, hlen, rfl, -, rfl, hput⟩ :=
      (codec_take truncated length.toNat).write_back htake
    obtain rfl : rest = [] := List.length_eq_zero_iff.mp (by simpa using hend)
    refine ⟨_, bs, [], rfl, ⟨⟨hlen ▸ length.toNat_lt, ?_⟩, hcrc⟩, rfl, rfl, rfl, hput⟩
    rw [hlen, UInt16.ofNat_toNat]

theorem codec_audioPayload :
    Codec (· = []) (fun _ => True) id putAudioPayload readAudioPayload := by
  have h : Codec (· = []) (fun payload : List UInt8 => payload.length < 2 ^ 16) id _
      readAudioPayload :=
    cons (fun payload : List UInt8 => UInt16.ofNat payload.length) field_u16 fun length =>
      cons crc32 field_u32 fun checksum => codec_audioBytes length checksum
  refine h.require fun payload out r => ?_
  simp only [putAudioPayload, ofResult_bind_eq_ok, check_eq_ok, Unique.exists_iff]

theorem codec_audio :
    Codec (· = []) (fun _ => True) id putAudio
      (readAudio >>= fun value => ofResult (validateAudioParameters value) >>= fun _ =>
        pure value) := by
  refine guard ?_ _ _ fun _ => Iff.rfl
  refine cons AudioDatagram.sessionId field_sessionId fun a =>
    cons AudioDatagram.streamId field_streamId fun b =>
    cons (fun v : AudioDatagram => v.sequence.get) field_u64 fun c =>
    cons AudioDatagram.codec field_codec fun d =>
    cons AudioDatagram.sampleRate field_u32 fun e =>
    cons AudioDatagram.channels field_u16 fun f =>
    cons AudioDatagram.samplesPerPacket field_u32 fun g =>
    cons (fun v : AudioDatagram => v.firstSampleIndex.get) field_u64 fun h =>
    cons (fun v : AudioDatagram => v.hostPresentationTimeMs.get) field_u64 fun i =>
    last AudioDatagram.payload (fun j => ⟨a, b, ⟨c⟩, d, e, f, g, ⟨h⟩, ⟨i⟩, j⟩)
      codec_audioPayload (fun j => by simp) ?_
  rintro v ⟨⟨⟨⟨⟨⟨⟨⟨⟨-, rfl⟩, rfl⟩, rfl⟩, rfl⟩, rfl⟩, rfl⟩, rfl⟩, rfl⟩, rfl⟩
  rfl

/-! ## Frames -/

/-- The header of a frame of this kind and payload length. -/
def headerOf (shape : MessageKind × UInt32) : FrameHeader :=
  FrameHeader.new shape.1 (expectedFlags shape.1) shape.2

theorem field_kind : Field (fun kind : MessageKind => putU16 kind.code) readKind := by
  refine field_u16.refine _ _ MessageKind.code (fun kind _ => ⟨trivial, ?_⟩)
    fun code kind _ h => ⟨trivial, ?_⟩
  · rw [kindOfCode, MessageKind.tryFrom_eq_some.mpr rfl]
  · unfold kindOfCode at h
    split at h
    · next k hk =>
      cases h
      exact (MessageKind.tryFrom_eq_some.mp hk).symm
    · cases h

theorem checkFlags_eq_ok {flags : UInt16} :
    checkFlags kind flags = .ok () ↔ flags = expectedFlags kind := by
  unfold checkFlags
  constructor
  · intro h
    split_ifs at h with h₁ h₂
    exact not_not.mp h₂
  · rintro rfl
    cases kind <;> rfl

theorem codec_header : Codec (fun _ => True) (fun _ => True) headerOf
    (fun shape => putHeader (headerOf shape)) readHeader := by
  refine literal (codec_take _ _) (fun _ => protocolMagic) protocolMagic _ rfl
    (fun _ _ => rfl) (fun _ => check_eq_ok) ?_
  refine literal field_u16 (fun _ => protocolVersion) protocolVersion _ trivial
    (fun _ _ => rfl) (fun _ => check_eq_ok) ?_
  refine cons Prod.fst field_kind fun kind => ?_
  refine literal field_u16 (fun shape : MessageKind × UInt32 => expectedFlags shape.1)
    (expectedFlags kind) (checkFlags kind) trivial ?_ (fun _ => checkFlags_eq_ok) ?_
  · rintro shape ⟨-, rfl⟩
    rfl
  refine literal field_u16 (fun _ => frameHeaderLength) frameHeaderLength _ trivial
    (fun _ _ => rfl) (fun length => ?_) ?_
  · rw [check_eq_ok, ← UInt16.toNat_inj]
    rfl
  refine last Prod.snd (fun length => (kind, length)) field_u32 (fun _ => by simp) ?_
  rintro shape ⟨-, rfl⟩
  rfl

/-- The sixteen bytes of a header. -/
def headerBytes (header : FrameHeader) : List UInt8 :=
  protocolMagic ++ bigEndian 2 header.version.toNat ++ bigEndian 2 header.kind.code.toNat ++
    bigEndian 2 header.flags.toNat ++ bigEndian 2 header.headerLength.toNat ++
    bigEndian 4 header.payloadLength.toNat

theorem length_headerBytes (header : FrameHeader) :
    (headerBytes header).length = frameHeaderBytes := by
  simp [headerBytes, protocolMagic, frameHeaderBytes]

theorem putHeader_apply (header : FrameHeader) (out : List UInt8) :
    putHeader header out = .ok ((), out ++ headerBytes header) := by
  change Except.ok _ = _
  simp [headerBytes]

theorem decodeHeader_headerBytes {shape : MessageKind × UInt32}
    (h : shape.2.toNat ≤ shape.1.maximumPayloadBytes) :
    decodeHeader (headerBytes (headerOf shape) ++ payload) = .ok (headerOf shape) := by
  have hlen := length_headerBytes (headerOf shape)
  have hcheck : checkPayloadLength (headerOf shape) = .ok () := check_eq_ok.mpr h
  rw [decodeHeader, if_neg (by simp [hlen]), List.take_left' hlen]
  exact ((codec_header.finish _).postcheck _).decode_encode ⟨trivial, hcheck⟩
    (encode_eq_ok.mpr (putHeader_apply _ []))

theorem headerBytes_decodeHeader {header : FrameHeader} (h : decodeHeader bytes = .ok header) :
    ∃ shape, header = headerOf shape ∧ shape.2.toNat ≤ shape.1.maximumPayloadBytes ∧
      bytes = headerBytes header ++ bytes.drop frameHeaderBytes := by
  unfold decodeHeader at h
  split_ifs at h with hlen
  obtain ⟨shape, rfl, ⟨-, hcheck⟩, he⟩ :=
    ((codec_header.finish _).postcheck _).encode_decode h
  refine ⟨shape, rfl, check_eq_ok.mp hcheck, ?_⟩
  have htake : headerBytes (headerOf shape) = bytes.take frameHeaderBytes := by
    have := (putHeader_apply (headerOf shape) []).symm.trans (encode_eq_ok.mp he)
    simpa using this
  rw [htake, List.take_append_drop]

theorem encodeFrame_eq_ok :
    encodeFrame frame = .ok bytes ↔ ∃ payload flags, encodePayload frame = .ok (payload, flags) ∧
      payload.length ≤ frame.kind.maximumPayloadBytes ∧ payload.length < 2 ^ 32 ∧
      bytes = headerBytes (.new frame.kind flags (UInt32.ofNat payload.length)) ++ payload := by
  have hput : ∀ header payload,
      encode (do putHeader header; putBytes payload) = .ok (headerBytes header ++ payload) := by
    intro header payload
    exact encode_eq_ok.mpr (bind_eq_ok.mpr ⟨(), _, putHeader_apply header [], rfl⟩)
  unfold encodeFrame
  simp only [Result.bind_eq_ok, Prod.exists, rejectIf_eq_ok, check_eq_ok, hput,
    Unique.exists_iff, not_lt, gt_iff_lt, Except.ok.injEq, eq_comm (a := bytes)]

/-- The payload decoder that the kind selects undoes the payload encoder of the frame. -/
theorem decodePayload_encodePayload {flags : UInt16}
    (h : encodePayload frame = .ok (payload, flags)) :
    decodePayload frame.kind payload = .ok frame ∧ flags = expectedFlags frame.kind := by
  cases frame with
  | control message =>
    obtain ⟨_, he, ⟨⟩⟩ := map_eq_ok.mp h
    have hd := decodeControl_encodeControl he
    cases message <;> exact ⟨map_eq_ok.mpr ⟨_, hd, rfl⟩, rfl⟩
  | syncRequest =>
    obtain ⟨_, he, ⟨⟩⟩ := map_eq_ok.mp h
    have hd := (codec_syncRequest.finish .trailingBytes).decode_encode trivial he
    exact ⟨map_eq_ok.mpr ⟨_, hd, rfl⟩, rfl⟩
  | syncResponse =>
    obtain ⟨_, he, ⟨⟩⟩ := map_eq_ok.mp h
    exact ⟨map_eq_ok.mpr ⟨_, codec_syncResponse.decode_encode trivial he, rfl⟩, rfl⟩
  | audio =>
    obtain ⟨_, he, ⟨⟩⟩ := map_eq_ok.mp h
    obtain ⟨encoded, he, hcheck⟩ := Result.bind_eq_ok.mp he
    obtain ⟨⟨⟩, -, hpure⟩ := Result.bind_eq_ok.mp hcheck
    cases hpure
    exact ⟨map_eq_ok.mpr ⟨_, codec_audio.decode_encode trivial he, rfl⟩, rfl⟩

/-- The payload encoder of a decoded frame reproduces the payload. -/
theorem encodePayload_decodePayload (h : decodePayload kind payload = .ok frame)
    (hlen : payload.length ≤ kind.maximumPayloadBytes) :
    frame.kind = kind ∧ encodePayload frame = .ok (payload, expectedFlags kind) := by
  unfold decodePayload at h
  split_ifs at h with hcontrol
  · obtain ⟨message, hd, rfl⟩ := map_eq_ok.mp h
    obtain ⟨rfl, he⟩ := encodeControl_decodeControl hd
    refine ⟨rfl, map_eq_ok.mpr ⟨_, he, ?_⟩⟩
    cases message <;> rfl
  · split at h
    · obtain ⟨_, hd, rfl⟩ := map_eq_ok.mp h
      obtain ⟨_, rfl, -, he⟩ := (codec_syncRequest.finish _).encode_decode hd
      exact ⟨rfl, map_eq_ok.mpr ⟨_, he, rfl⟩⟩
    · obtain ⟨_, hd, rfl⟩ := map_eq_ok.mp h
      obtain ⟨_, rfl, -, he⟩ := codec_syncResponse.encode_decode hd
      exact ⟨rfl, map_eq_ok.mpr ⟨_, he, rfl⟩⟩
    · obtain ⟨_, hd, rfl⟩ := map_eq_ok.mp h
      obtain ⟨_, rfl, -, he⟩ := codec_audio.encode_decode hd
      refine ⟨rfl, map_eq_ok.mpr ⟨payload, ?_, rfl⟩⟩
      refine Result.bind_eq_ok.mpr ⟨payload, he, Result.bind_eq_ok.mpr ⟨(), ?_, rfl⟩⟩
      exact rejectIf_eq_ok.mpr (not_lt.mpr hlen)
    · cases h

theorem decodeFrame_eq_ok :
    decodeFrame bytes = .ok frame ↔ ∃ header, decodeHeader bytes = .ok header ∧
      bytes.length = frameHeaderBytes + header.payloadLength.toNat ∧
      decodePayload header.kind (bytes.drop frameHeaderBytes) = .ok frame := by
  unfold decodeFrame
  simp only [Result.bind_eq_ok, rejectIf_eq_ok, Unique.exists_iff, not_lt]
  refine exists_congr fun header => and_congr_right fun _ => ?_
  constructor
  · rintro ⟨hle, hge, hd⟩
    rw [List.take_of_length_le hge] at hd
    exact ⟨le_antisymm hge hle, hd⟩
  · rintro ⟨hlen, hd⟩
    refine ⟨hlen.ge, hlen.le, ?_⟩
    rwa [List.take_of_length_le hlen.le]

/-- A decoded frame re-encodes to the bytes it was decoded from. -/
theorem encodeFrame_of_decodeFrame (h : decodeFrame bytes = .ok frame) :
    encodeFrame frame = .ok bytes := by
  obtain ⟨header, hheader, hlen, hpayload⟩ := decodeFrame_eq_ok.mp h
  obtain ⟨shape, rfl, hmax, hbytes⟩ := headerBytes_decodeHeader hheader
  have hdrop : (bytes.drop frameHeaderBytes).length = shape.2.toNat := by
    rw [List.length_drop, hlen, Nat.add_sub_cancel_left]
    rfl
  obtain ⟨hkind, he⟩ := encodePayload_decodePayload hpayload (hdrop.trans_le hmax)
  refine encodeFrame_eq_ok.mpr ⟨_, _, he, ?_, hdrop ▸ shape.2.toNat_lt, ?_⟩
  · rw [hkind, hdrop]
    exact hmax
  · rw [hkind, hdrop, UInt32.ofNat_toNat]
    exact hbytes

/-- An encoded frame decodes to itself. -/
theorem decodeFrame_of_encodeFrame (h : encodeFrame frame = .ok bytes) :
    decodeFrame bytes = .ok frame := by
  obtain ⟨payload, flags, he, hmax, hlt, rfl⟩ := encodeFrame_eq_ok.mp h
  obtain ⟨hd, rfl⟩ := decodePayload_encodePayload he
  let shape : MessageKind × UInt32 := (frame.kind, UInt32.ofNat payload.length)
  have hlen : shape.2.toNat = payload.length := by
    rw [UInt32.toNat_ofNat']
    omega
  have hdeclared : (headerOf shape).payloadLength.toNat = payload.length := hlen
  change decodeFrame (headerBytes (headerOf shape) ++ payload) = _
  refine decodeFrame_eq_ok.mpr
    ⟨headerOf shape, decodeHeader_headerBytes (hlen.trans_le hmax), ?_, ?_⟩
  · rw [List.length_append, length_headerBytes, hdeclared]
  · rw [List.drop_left' (length_headerBytes _)]
    exact hd

/-- The header alone fixes the length of an accepted byte string, so no accepted byte string
is a proper prefix of another. -/
theorem eq_of_prefix_of_decodeFrame {bytes' : List UInt8} {frame' : ProtocolFrame}
    (hp : bytes <+: bytes') (h : decodeFrame bytes = .ok frame)
    (h' : decodeFrame bytes' = .ok frame') : bytes = bytes' := by
  obtain ⟨header, hheader, hlen, -⟩ := decodeFrame_eq_ok.mp h
  obtain ⟨header', hheader', hlen', -⟩ := decodeFrame_eq_ok.mp h'
  obtain ⟨suffix, rfl⟩ := hp
  have hsame : decodeHeader (bytes ++ suffix) = decodeHeader bytes := by
    unfold decodeHeader
    rw [if_neg (by simp; omega), if_neg (by omega), List.take_append_of_le_length (by omega)]
  obtain rfl : header = header' := Except.ok.inj (hheader.symm.trans (hsame.symm.trans hheader'))
  have hnil : suffix = [] := List.length_eq_zero_iff.mp (by
    rw [List.length_append] at hlen'
    omega)
  rw [hnil, List.append_nil]

/-- **Encoding is lossless and prefix-free.** An encoding decodes to its frame, no other frame
shares it, and no proper prefix or extension of it decodes. -/
theorem decodeFrame_encodeFrame {frame : ProtocolFrame} {bytes : List UInt8}
    (h : encodeFrame frame = .ok bytes) :
    decodeFrame bytes = .ok frame ∧
      (∀ frame', encodeFrame frame' = .ok bytes → frame' = frame) ∧
      ∀ bytes', (bytes' <+: bytes ∨ bytes <+: bytes') → bytes' ≠ bytes →
        ∀ frame', decodeFrame bytes' ≠ .ok frame' := by
  have hd := decodeFrame_of_encodeFrame h
  refine ⟨hd, fun frame' h' => ?_, fun bytes' hp hne frame' h' => hne ?_⟩
  · exact Except.ok.inj ((decodeFrame_of_encodeFrame h').symm.trans hd)
  · rcases hp with hp | hp
    · exact eq_of_prefix_of_decodeFrame hp h' hd
    · exact (eq_of_prefix_of_decodeFrame hp hd h').symm

/-- **The encoding is canonical.** An accepted byte string is exactly the encoding of the frame
it decodes to, and no other byte string decodes to that frame. -/
theorem encodeFrame_decodeFrame {bytes : List UInt8} {frame : ProtocolFrame}
    (h : decodeFrame bytes = .ok frame) :
    encodeFrame frame = .ok bytes ∧ ∀ bytes', decodeFrame bytes' = .ok frame → bytes' = bytes := by
  refine ⟨encodeFrame_of_decodeFrame h, fun bytes' h' => ?_⟩
  exact Except.ok.inj ((encodeFrame_of_decodeFrame h').symm.trans (encodeFrame_of_decodeFrame h))

/-- A clock-synchronization request of session `s`. -/
def sampleFrame : ProtocolFrame :=
  .syncRequest ⟨⟨"s", by decide⟩, 7, ⟨9⟩⟩

/-- The encoding of `sampleFrame`. -/
def sampleBytes : List UInt8 :=
  [83, 68, 80, 50, 0, 3, 0, 100, 0, 0, 0, 16, 0, 0, 0, 19, 0, 1, 115,
    0, 0, 0, 0, 0, 0, 0, 7, 0, 0, 0, 0, 0, 0, 0, 9]

theorem decodeFrame_sampleBytes : decodeFrame sampleBytes = .ok sampleFrame :=
  (decodeFrame_encodeFrame (by decide : encodeFrame sampleFrame = .ok sampleBytes)).1

theorem encodeFrame_sampleFrame : encodeFrame sampleFrame = .ok sampleBytes :=
  (encodeFrame_decodeFrame (by decide : decodeFrame sampleBytes = .ok sampleFrame)).1

end SilentDisco.Protocol
