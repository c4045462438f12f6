import SilentDisco.Audio.PlaylistUpdates
import SilentDisco.Protocol.RoundTrip

/-!
# Announcing the tracks of the queue

A track of the queue passes three checks before a listener learns its name: the descriptor and
the queue entry when they are built, the identity check of the playlist worker, and the text
rule of the wire format. The limits of the three differ, and so do their rules on blanks and
control characters.

## Main definitions

* `IsCleanText`: text without surrounding blanks and control characters
* `AnnouncedAtStart`, `AnnouncedAtBoundary`: the frames that carry the name of a track encode

## Main results

* `queued_tracks_can_be_announced`: which queued tracks pass the identity check, and which
  identities the wire accepts
-/

namespace SilentDisco

open Result Protocol AudioSourceDescriptor

/-- Text without surrounding blanks and without control characters. -/
def IsCleanText (value : String) : Prop :=
  trim value = value ∧ ∀ c ∈ value.toList, isControl c = false

instance (value : String) : Decidable (IsCleanText value) := inferInstanceAs (Decidable (_ ∧ _))

/-! ## The three rules -/

theorem validateHumanText_eq_ok {ε : Type} {value : String} {maximumBytes : ℕ} {error : ε} :
    validateHumanText value maximumBytes error = .ok () ↔
      value ≠ "" ∧ value.utf8ByteSize ≤ maximumBytes ∧ IsCleanText value := by
  change rejectIf _ error = .ok () ↔ _
  simp only [rejectIf_eq_ok, not_or, not_not, not_lt, gt_iff_lt, List.any_eq_true, not_exists,
    not_and, Bool.not_eq_true, IsCleanText]
  tauto

/-- The text rule of the wire, for a field that is not secret. -/
theorem Protocol.validateText_eq_ok {field value : String} {maximum : ℕ} :
    validateText field value maximum false = .ok () ↔
      value ≠ "" ∧ value.utf8ByteSize ≤ maximum ∧ IsCleanText value := by
  unfold validateText
  split_ifs with hshape hcontrol hsecret
  · refine iff_of_false (by simp) ?_
    rintro ⟨hne, hsize, htrim, -⟩
    rcases hshape with hblank | hpadded | hlong
    · exact hne (htrim ▸ hblank)
    · exact hpadded htrim
    · omega
  · refine iff_of_false (by simp) ?_
    rintro ⟨-, -, -, hclean⟩
    obtain ⟨c, hc, hcc⟩ := List.any_eq_true.mp hcontrol
    simp [hclean c hc] at hcc
  · exact absurd hsecret.1 (by simp)
  · push Not at hshape
    obtain ⟨hblank, htrim, hsize⟩ := hshape
    refine iff_of_true rfl ⟨htrim ▸ hblank, hsize, htrim, fun c hc => ?_⟩
    by_contra hcc
    exact hcontrol (List.any_eq_true.mpr ⟨c, hc, by simpa using hcc⟩)

variable {entryId displayName : String}

theorem validateTrackIdentity_eq_ok :
    validateTrackIdentity entryId displayName = .ok () ↔
      (entryId ≠ "" ∧ entryId.utf8ByteSize ≤ maxQueueEntryIdBytes ∧ IsCleanText entryId) ∧
        displayName ≠ "" ∧ displayName.utf8ByteSize ≤ maxDisplayNameBytes := by
  have hbound : maxQueueEntryIdBytes ≤ maxProtocolStringBytes := by decide
  unfold validateTrackIdentity
  simp only [rejectIf_eq_ok, not_or, not_not, not_lt, gt_iff_lt, List.any_eq_true, not_exists,
    not_and, Bool.not_eq_true, IsCleanText]
  constructor
  · tauto
  · rintro ⟨⟨hne, hsize, htrim, hcontrol⟩, hname⟩
    exact ⟨hne, hsize, hsize.trans hbound, htrim, hcontrol, hname⟩

/-! ## The frames that carry a name -/

namespace Protocol

open Wire

theorem emits_putU8 (value : UInt8) : Emits (putU8 value) True 1 :=
  emits_putBytes (by simp)

theorem emits_putU16 (value : UInt16) : Emits (putU16 value) True 2 :=
  emits_putBytes (by simp)

theorem emits_putU32 (value : UInt32) : Emits (putU32 value) True 4 :=
  emits_putBytes (by simp)

theorem emits_putU64 (value : UInt64) : Emits (putU64 value) True 8 :=
  emits_putBytes (by simp)

/-- A text field is written exactly when it follows the rule of the wire. -/
theorem emits_putStringBytes {field value : String} {maximum : ℕ} (hm : maximum < 2 ^ 16) :
    Emits (putString field maximum false value)
      (value ≠ "" ∧ value.utf8ByteSize ≤ maximum ∧ IsCleanText value)
      (2 + value.utf8ByteSize) := by
  have h : Emits (putString field maximum false value) _ (2 + value.utf8ByteSize) :=
    Emits.require fun _ => Emits.require fun _ => (emits_putU16 _).then (emits_putBytes le_rfl)
  refine h.congr ?_
  rw [validateText_eq_ok, check_eq_ok]
  constructor
  · rintro ⟨htext, -⟩
    exact htext
  · intro htext
    exact ⟨htext, htext.2.1.trans_lt hm, trivial, trivial⟩

theorem emits_putString {field value : String} {maximum : ℕ} (hm : maximum < 2 ^ 16) :
    Emits (putString field maximum false value)
      (value ≠ "" ∧ value.utf8ByteSize ≤ maximum ∧ IsCleanText value) (2 + maximum) :=
  (emits_putStringBytes hm).mono fun htext => Nat.add_le_add_left htext.2.1 2

/-- The text of an identifier always follows the rule. -/
theorem emits_putIdentifierBytes {kind : IdentifierKind} (field : String) (id : Identifier kind) :
    Emits (putString field maxIdentifierBytes false id.value) True
      (2 + id.value.utf8ByteSize) := by
  refine (emits_putStringBytes (by decide)).congr (iff_of_true ?_ trivial)
  obtain ⟨hblank, hsize, htrim, hcontrol⟩ := validateIdentifier_eq_ok.mp id.valid
  exact ⟨htrim ▸ hblank, hsize, htrim, hcontrol⟩

theorem emits_putIdentifier {kind : IdentifierKind} (field : String) (id : Identifier kind) :
    Emits (putString field maxIdentifierBytes false id.value) True (2 + maxIdentifierBytes) :=
  (emits_putIdentifierBytes field id).mono fun _ =>
    Nat.add_le_add_left (validateIdentifier_eq_ok.mp id.valid).2.1 2

/-- A control frame is encoded exactly when its fields are written, if they cannot exceed the
payload limit. -/
theorem encodeFrame_control_iff {message : ControlMessage} {p : Prop} {n : ℕ}
    (h : Emits (putControl message) p n) (hn : n ≤ maxControlPayloadBytes) :
    (∃ bytes, encodeFrame (.control message) = .ok bytes) ↔ p := by
  have hkind : (ProtocolFrame.control message).kind.maximumPayloadBytes =
      maxControlPayloadBytes := by
    cases message <;> rfl
  rw [← h.encode_iff]
  constructor
  · rintro ⟨bytes, hbytes⟩
    obtain ⟨payload, flags, hpayload, -⟩ := encodeFrame_eq_ok.mp hbytes
    obtain ⟨payload, hencode, -⟩ := map_eq_ok.mp hpayload
    exact h.encode_iff.mpr (h.accepts (encode_eq_ok.mp hencode))
  · rintro ⟨payload, hencode, hlength⟩
    refine ⟨_, encodeFrame_eq_ok.mpr ⟨payload, 0, ?_, ?_, ?_, rfl⟩⟩
    · exact map_eq_ok.mpr ⟨payload, hencode, rfl⟩
    · rw [hkind]
      exact hlength.trans hn
    · exact (hlength.trans hn).trans_lt (by decide)

end Protocol

/-- Text that the wire carries as the identifier of an entry, and as its name. -/
def IsWireIdentity (entryId displayName : String) : Prop :=
  (entryId ≠ "" ∧ entryId.utf8ByteSize ≤ maxIdentifierBytes ∧ IsCleanText entryId) ∧
    displayName ≠ "" ∧ displayName.utf8ByteSize ≤ maxDisplayNameBytes ∧
      IsCleanText displayName

/-- The frame that starts a stream on the track is encoded. -/
def AnnouncedAtStart (stream : Protocol.StreamStart) (entryId displayName : String) : Prop :=
  ∃ bytes, encodeFrame (.control (.streamStart
    { stream with currentEntryId := some entryId, currentDisplayName := some displayName })) =
      .ok bytes

/-- The frame that moves a running stream on to the track is encoded. -/
def AnnouncedAtBoundary (boundary : Protocol.TrackBoundary) (entryId displayName : String) : Prop :=
  ∃ bytes, encodeFrame (.control (.trackBoundary { boundary with entryId, displayName })) =
    .ok bytes

theorem announcedAtStart_iff {stream : Protocol.StreamStart} :
    AnnouncedAtStart stream entryId displayName ↔ IsWireIdentity entryId displayName := by
  have hfields := (emits_putIdentifier "session_id" stream.sessionId).then <|
    (emits_putIdentifier "stream_id" stream.streamId).then <|
    (emits_putU64 stream.hostStartTimeMs.get).then <|
    (emits_putU32 stream.sampleRate).then <|
    (emits_putU16 stream.channels).then <|
    (emits_putU32 stream.samplesPerPacket).then <|
    ((emits_putU8 1).then
      (@emits_putString "current_entry_id" entryId maxIdentifierBytes (by decide))).then <|
    (emits_putU8 1).then
      (@emits_putString "current_display_name" displayName maxDisplayNameBytes (by decide))
  have hmessage : Wire.Emits (putControl (.streamStart
      { stream with currentEntryId := some entryId, currentDisplayName := some displayName }))
      (IsWireIdentity entryId displayName) _ :=
    hfields.congr (by simp only [true_and, IsWireIdentity])
  exact encodeFrame_control_iff hmessage (by decide)

theorem announcedAtBoundary_iff {boundary : Protocol.TrackBoundary} :
    AnnouncedAtBoundary boundary entryId displayName ↔ IsWireIdentity entryId displayName := by
  have hfields := (emits_putIdentifier "session_id" boundary.sessionId).then <|
    (emits_putIdentifier "stream_id" boundary.streamId).then <|
    (emits_putU64 boundary.firstSampleIndex.get).then <|
    (@emits_putString "entry_id" entryId maxIdentifierBytes (by decide)).then <|
    @emits_putString "display_name" displayName maxDisplayNameBytes (by decide)
  have hmessage : Wire.Emits (putControl (.trackBoundary
      { boundary with entryId, displayName })) (IsWireIdentity entryId displayName) _ :=
    hfields.congr (by simp only [true_and, IsWireIdentity])
  exact encodeFrame_control_iff hmessage (by decide)

/-! ## Tracks of the queue -/

/-- An entry of the queue: its parts were built by their constructors, and an edit of the queue
accepted it. -/
structure IsQueued (entry : QueueEntry) : Prop where
  described : ∃ sourceId displayName byteLength durationMs,
    new sourceId displayName byteLength durationMs = .ok entry.source
  built : ∃ entryId, QueueEntry.new entryId entry.source = .ok entry
  accepted : ∃ (queue queue' : HostQueue) (revision : UInt64) (entries : List QueueEntry),
    entry ∈ entries ∧ (queue.append revision entries = .ok queue' ∨
      queue.replaceAll revision entries = .ok queue')

/-- What the constructors guarantee about the name of a track. -/
theorem displayName_of_new {sourceId : String} {byteLength durationMs : Option UInt64}
    {source : AudioSourceDescriptor}
    (h : new sourceId displayName byteLength durationMs = .ok source) :
    source.displayName ≠ "" ∧ source.displayName.utf8ByteSize ≤ maxAudioSourceDisplayNameBytes ∧
      IsCleanText source.displayName := by
  unfold new at h
  simp only [bind_eq_ok] at h
  obtain ⟨⟨⟩, -, ⟨⟩, hname, ⟨⟩, -, hsource⟩ := h
  obtain rfl := Except.ok.inj hsource
  exact validateHumanText_eq_ok.mp hname

/-- What the constructor guarantees about the identifier of an entry. -/
theorem entryId_of_new {source : AudioSourceDescriptor} {entry : QueueEntry}
    (h : QueueEntry.new entryId source = .ok entry) :
    entry.entryId ≠ "" ∧ entry.entryId.utf8ByteSize ≤ maxQueueEntryIdBytes ∧
      IsCleanText entry.entryId := by
  unfold QueueEntry.new at h
  obtain ⟨⟨⟩, hid, hentry⟩ := bind_eq_ok.mp h
  obtain rfl := Except.ok.inj hentry
  exact validateHumanText_eq_ok.mp hid

theorem isWireIdentity_iff (h : validateTrackIdentity entryId displayName = .ok ()) :
    IsWireIdentity entryId displayName ↔ IsCleanText displayName := by
  obtain ⟨hid, hne, hsize⟩ := validateTrackIdentity_eq_ok.mp h
  exact ⟨fun hwire => hwire.2.2.2, fun hclean => ⟨hid, hne, hsize, hclean⟩⟩

/-- **Announcing the queue.** A queued track passes the identity check exactly when its name is
within the limit of the wire, which is half the limit of the descriptor. An identity that passes
the check is encoded, at the start of a stream and at a boundary, exactly when its name is also
clean text: the check itself does not look for blanks and control characters in the name. -/
theorem queued_tracks_can_be_announced (entry : QueueEntry) (entryId displayName : String) :
    (IsQueued entry →
      (validateTrackIdentity entry.entryId entry.source.displayName = .ok () ↔
        entry.source.displayName.utf8ByteSize ≤ Protocol.maxDisplayNameBytes)) ∧
    (validateTrackIdentity entryId displayName = .ok () →
      (∀ stream, AnnouncedAtStart stream entryId displayName ↔ IsCleanText displayName) ∧
        ∀ boundary, AnnouncedAtBoundary boundary entryId displayName ↔
          IsCleanText displayName) := by
  constructor
  · rintro ⟨⟨sourceId, displayName, byteLength, durationMs, hsource⟩, ⟨entryId, hentry⟩, -⟩
    obtain ⟨hne, -, -⟩ := displayName_of_new hsource
    rw [validateTrackIdentity_eq_ok]
    exact ⟨fun h => h.2.2, fun hsize => ⟨entryId_of_new hentry, hne, hsize⟩⟩
  · intro h
    exact ⟨fun stream => announcedAtStart_iff.trans (isWireIdentity_iff h),
      fun boundary => announcedAtBoundary_iff.trans (isWireIdentity_iff h)⟩

/-- An entry named by `length` letters. -/
def namedEntry (length : ℕ) : QueueEntry :=
  { entryId := "e"
    source := ⟨"s", String.ofList (List.replicate length 'a'), none, none⟩ }

theorem isQueued_namedEntry {length : ℕ}
    (hsource : new "s" (String.ofList (List.replicate length 'a')) none none =
      .ok (namedEntry length).source) : IsQueued (namedEntry length) where
  described := ⟨_, _, _, _, hsource⟩
  built := ⟨"e", rfl⟩
  accepted := ⟨{}, { entries := [namedEntry length], revision := 1 }, 0, [namedEntry length],
    List.mem_singleton_self _, .inl rfl⟩

theorem queued_tracks_can_be_announced_short :
    (IsQueued (namedEntry 3) ∧ validateTrackIdentity "e" "aaa" = .ok ()) ∧
      ∀ stream, AnnouncedAtStart stream "e" "aaa" := by
  have hqueued : IsQueued (namedEntry 3) := isQueued_namedEntry (by decide)
  obtain ⟨hpasses, hannounced⟩ := queued_tracks_can_be_announced (namedEntry 3) "e" "aaa"
  have hidentity : validateTrackIdentity "e" "aaa" = .ok () := (hpasses hqueued).mpr (by decide)
  have hplain : IsPlain "aaa" := ⟨by decide, by simp⟩
  have hclean : IsCleanText "aaa" := ⟨hplain.trim_eq, fun _ hc => hplain.not_isControl hc⟩
  exact ⟨⟨hqueued, hidentity⟩, fun stream => ((hannounced hidentity).1 stream).mpr hclean⟩

theorem not_queued_tracks_can_be_announced :
    (IsQueued (namedEntry 129) ∧ validateTrackIdentity (namedEntry 129).entryId
        (namedEntry 129).source.displayName =
      .error (.mk .packetize "playlist track identity exceeds protocol bounds")) ∧
    validateTrackIdentity "e" " a" = .ok () ∧
      (∀ stream, ¬ AnnouncedAtStart stream "e" " a") ∧
        ∀ boundary, ¬ AnnouncedAtBoundary boundary "e" " a" := by
  have hpadded : ¬ IsWireIdentity "e" " a" := fun h => absurd h.2.2.2 (by decide)
  refine ⟨⟨isQueued_namedEntry (by decide +kernel), by decide +kernel⟩, by decide, ?_, ?_⟩
  · exact fun stream h => hpadded (announcedAtStart_iff.mp h)
  · exact fun boundary h => hpadded (announcedAtBoundary_iff.mp h)

end SilentDisco
