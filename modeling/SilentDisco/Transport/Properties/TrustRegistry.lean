import SilentDisco.Transport.SecureTrust

/-!
# Persistence of the trust registry

The registry saves what its loader checks. The invariant is that the registry is loadable: its
host key is valid, it has at most as many records as the loader takes, and each record has a
fingerprint and a valid name. Enrollment keeps it for every key but one whose fingerprint is zero,
which the loader rejects and `enroll` does not.

## Main definitions

* `HostVerifiedTrust.Loadable`: what the loader checks
* `HostVerifiedTrust.Persists`: the registry can be saved and loaded

## Main results

* `Loadable.call`, `Revoked.call`: what one call keeps
* `trust_registry_persists`: the registry of every run, with its revocations
-/

namespace SilentDisco.Transport

open Result SortedBy Json

/-! ## Sizes -/

section Sizes

/-- The fixed texts of the snapshot. -/
theorem utf8Len_literals :
    String.utf8Len "\x7b\"fingerprint\":".toList = 15 ∧
    String.utf8Len ",\"display_name\":".toList = 16 ∧
    String.utf8Len ",\"revoked\":".toList = 11 ∧
    String.utf8Len "\x7b\"version\":".toList = 11 ∧
    String.utf8Len ",\"host_fingerprint\":".toList = 20 ∧
    String.utf8Len ",\"listeners\":".toList = 13 ∧
    String.utf8Len "\x7d".toList = 1 := by
  decide

theorem size_fingerprint_le (fingerprint : Fingerprint) :
    String.utf8Len fingerprint.print ≤ 130 := by
  have hbyte : ∀ byte ∈ fingerprint.toList, String.utf8Len (number byte.toNat) ≤ 3 :=
    fun byte _ => size_number_le (by decide) (byte.toNat_lt.trans (by decide))
  have hlength : fingerprint.toList.length = 32 := fingerprint.length_toList
  have hsize := size_array_le hbyte
  rw [hlength] at hsize
  exact hsize

theorem size_displayName_le {name : String} (h : validDisplayName name = true) :
    String.utf8Len (string name) ≤ 258 := by
  simp only [validDisplayName, Bool.and_eq_true, decide_eq_true_eq, Bool.not_eq_true',
    List.any_eq_false, Bool.not_eq_true] at h
  obtain ⟨⟨-, hsize⟩, hcontrol⟩ := h
  have hprintable : ∀ c ∈ name.toList, 32 ≤ c.toNat := by
    intro c hc
    by_contra hlt
    have hnot := hcontrol c hc
    simp only [isControl, Bool.or_eq_false_iff, decide_eq_false_iff_not] at hnot
    omega
  have hle : name.utf8ByteSize ≤ 128 := hsize
  exact (size_string_le hprintable).trans (by omega)

theorem size_record_le {record : StoredListener}
    (h : validDisplayName record.displayName = true) : String.utf8Len record.print ≤ 436 := by
  obtain ⟨hfingerprint, hname, hrevoked, -, -, -, hclose⟩ := utf8Len_literals
  have hflag := size_append_le hrevoked.le (size_bool_le record.revoked)
  have hnamed := size_append_le hname.le (size_append_le (size_displayName_le h) hflag)
  have hprint := size_append_le (size_fingerprint_le record.fingerprint) hnamed
  exact size_append_le (size_append_le hfingerprint.le hprint) hclose.le

theorem size_snapshot_le {snapshot : TrustSnapshot}
    (hlength : snapshot.listeners.length ≤ maxTrustedListeners)
    (hvalid : ∀ record ∈ snapshot.listeners, validDisplayName record.displayName = true) :
    snapshot.toJson.utf8ByteSize ≤ maxSnapshotBytes := by
  obtain ⟨-, -, -, hversion, hhost, hlisteners, hclose⟩ := utf8Len_literals
  have hnumber : String.utf8Len (number snapshot.version.toNat) ≤ 10 :=
    size_number_le (by decide) (snapshot.version.toNat_lt.trans (by decide))
  have harray : String.utf8Len (array StoredListener.print snapshot.listeners) ≤ 2 + 256 * 437 :=
    (size_array_le fun record hrecord => size_record_le (hvalid record hrecord)).trans
      (Nat.add_le_add_left (Nat.mul_le_mul_right 437 hlength) 2)
  have hrecords := size_append_le hlisteners.le harray
  have hkey := size_append_le hhost.le
    (size_append_le (size_fingerprint_le snapshot.hostFingerprint) hrecords)
  have hprint := size_append_le
    (size_append_le hversion.le (size_append_le hnumber hkey)) hclose.le
  rw [TrustSnapshot.toJson, String.utf8ByteSize_ofList]
  exact hprint.trans (by decide)

end Sizes

/-! ## Snapshots can be read back -/

section Printing

theorem unambiguous_fingerprint : Json.Unambiguous (fun _ => True) Fingerprint.print := by
  have hbyte : Json.Unambiguous Json.NoDigit fun byte : UInt8 => number byte.toNat :=
    unambiguous_number.comap fun _ _ => UInt8.toNat_inj.mp
  refine (unambiguous_array hbyte ?_ ?_ ?_).comap fun _ _ => Vector.toList_inj.mp
  · exact noDigit_cons (by decide)
  · exact noDigit_cons (by decide)
  · exact fun byte => head?_number_append (by decide)

/-- A record is printed from its fields. -/
theorem unambiguous_record : Json.Unambiguous (fun _ => True) StoredListener.print := by
  have hrevoked := unambiguous_bool.literal ",\"revoked\":".toList
  have hname := (unambiguous_string.append hrevoked fun _ _ _ => trivial).literal
    ",\"display_name\":".toList
  have hfields := ((unambiguous_fingerprint.append hname fun _ _ _ => trivial).literal
    "\x7b\"fingerprint\":".toList).close "\x7d".toList
    fun _ => trivial
  refine hfields.comap (f := fun record : StoredListener =>
    (record.fingerprint, record.displayName, record.revoked)) ?_
  rintro ⟨⟩ ⟨⟩ ⟨⟩
  rfl

theorem unambiguous_snapshot : Json.Unambiguous (fun _ => True) TrustSnapshot.print := by
  have hrecords := (unambiguous_array unambiguous_record (fun _ => trivial)
    (fun _ => trivial) fun _ _ h => absurd (Option.some.inj h) (by decide)).literal
    ",\"listeners\":".toList
  have hhost := (unambiguous_fingerprint.append hrecords fun _ _ _ => trivial).literal
    ",\"host_fingerprint\":".toList
  have hversion : Json.Unambiguous Json.NoDigit fun version : UInt32 =>
      number version.toNat :=
    unambiguous_number.comap fun _ _ => UInt32.toNat_inj.mp
  have hseparated : ",\"host_fingerprint\":".toList.head? = some ',' := by decide
  have hversioned := hversion.append hhost fun _ s _ => by
    rw [List.append_assoc]
    exact noDigit_append hseparated (by decide) _
  have hfields := (hversioned.literal "\x7b\"version\":".toList).close "\x7d".toList
    fun _ => trivial
  refine hfields.comap (f := fun snapshot : TrustSnapshot =>
    (snapshot.version, snapshot.hostFingerprint, snapshot.listeners)) ?_
  rintro ⟨⟩ ⟨⟩ ⟨⟩
  rfl

theorem toJson_injective : Function.Injective TrustSnapshot.toJson := fun _ _ h =>
  unambiguous_snapshot.injective (String.ofList_injective h)

/-- The parser of exactly the texts that serialization writes. -/
noncomputable def strictParser : SnapshotParser := Function.partialInv TrustSnapshot.toJson

theorem readsBack_strictParser : strictParser.ReadsBack :=
  Function.partialInv_left toJson_injective

end Printing

/-! ## The order of fingerprints -/

theorem rank_injective : Function.Injective Fingerprint.rank := by
  intro x y h
  refine Vector.toList_inj.mp ?_
  rw [← Wire.bigEndian_ofBigEndian x.toList, ← Wire.bigEndian_ofBigEndian y.toList,
    Vector.length_toList, Vector.length_toList]
  exact congrArg (Wire.bigEndian 32) h

/-! ## Loading what was saved -/

/-- The checks of the loader on one record. -/
def StoredListener.Loadable (record : StoredListener) : Prop :=
  record.fingerprint ≠ zeroBytes ∧ validDisplayName record.displayName = true

/-- A key to be enrolled has a fingerprint. -/
def TrustCall.EnrollsFingerprint : TrustCall → Prop
  | .enroll key _ => key.fingerprint ≠ zeroBytes
  | _ => True

namespace HostVerifiedTrust

variable {crypto : Cryptography} {fromStr : SnapshotParser} {hostPublicKey : List UInt8}
  {trust trust' : HostVerifiedTrust}

/-- What the loader checks. -/
structure Loadable (crypto : Cryptography) (hostPublicKey : List UInt8)
    (trust : HostVerifiedTrust) : Prop where
  host : Transport.hostFingerprint crypto hostPublicKey = .ok trust.hostFingerprint
  length_le : trust.listeners.length ≤ maxTrustedListeners
  records : ∀ record ∈ trust.listeners, record.Loadable

/-- Records in order are loaded behind the ones already there. -/
theorem loadListeners_of_sorted (listeners : Listeners) {records : List StoredListener}
    (hsorted : records.Pairwise fun a b => a.fingerprint.rank < b.fingerprint.rank)
    (hbehind : ∀ a ∈ listeners, ∀ b ∈ records, a.fingerprint.rank < b.fingerprint.rank)
    (hrecords : ∀ record ∈ records, record.Loadable) :
    ∃ loaded, loadListeners listeners records = .ok loaded ∧
      loaded.toList = listeners.toList ++ records := by
  induction records generalizing listeners with
  | nil => exact ⟨listeners, rfl, (List.append_nil _).symm⟩
  | cons record rest ih =>
    obtain ⟨hfirst, hrest⟩ := List.pairwise_cons.mp hsorted
    have hlast := fun a ha => hbehind a ha record List.mem_cons_self
    have hnew : ¬(record.fingerprint = zeroBytes ∨ (!validDisplayName record.displayName) = true ∨
        listeners.contains record.fingerprint.rank = true) := by
      rintro (hzero | hname | hcontains)
      · exact (hrecords record List.mem_cons_self).1 hzero
      · rw [(hrecords record List.mem_cons_self).2] at hname
        cases hname
      · obtain ⟨a, ha, hrank⟩ := contains_iff.mp hcontains
        exact (hlast a ha).ne hrank
    obtain ⟨loaded, hload, hloaded⟩ := ih (listeners.insert record) hrest
      (fun a ha b hb => by
        rcases mem_insert.mp ha with rfl | ⟨ha, -⟩
        · exact hfirst b hb
        · exact hbehind a ha b (List.mem_cons_of_mem record hb))
      (fun other hother => hrecords other (List.mem_cons_of_mem record hother))
    refine ⟨loaded, ?_, ?_⟩
    · rw [loadListeners, if_neg hnew, hload]
    · rw [hloaded, toList_insert_of_lt hlast, List.append_assoc, List.singleton_append]

/-- What the loader returns has passed its checks. -/
theorem loadListeners_spec (listeners : Listeners) (records : List StoredListener) :
    Returns (fun loaded => loaded.length = listeners.length + records.length ∧
      ∀ record ∈ loaded, record ∈ listeners ∨ record.Loadable)
        (loadListeners listeners records) := by
  induction records generalizing listeners with
  | nil => exact .ok ⟨rfl, fun record hrecord => .inl hrecord⟩
  | cons record rest ih =>
    rw [loadListeners]
    refine Returns.ite (fun _ => .error) fun hnew => (ih _).imp fun loaded hloaded => ?_
    obtain ⟨hlength, hmem⟩ := hloaded
    simp only [not_or, Bool.not_eq_true, Bool.not_eq_false'] at hnew
    obtain ⟨hzero, hname, hcontains⟩ := hnew
    have hother : ∀ b ∈ listeners, b.fingerprint.rank ≠ record.fingerprint.rank := fun b hb hrank =>
      absurd (contains_iff.mpr ⟨b, hb, hrank⟩) (by rw [hcontains]; exact Bool.false_ne_true)
    refine ⟨?_, fun other hmember => ?_⟩
    · rw [hlength, length_insert hother, List.length_cons]
      omega
    · rcases hmem other hmember with hinserted | hother
      · rcases mem_insert.mp hinserted with rfl | ⟨hold, -⟩
        · exact .inr ⟨hzero, hname⟩
        · exact .inl hold
      · exact .inr hother

theorem loadable_of_new (h : new crypto hostPublicKey = .ok trust) :
    trust.Loadable crypto hostPublicKey := by
  obtain ⟨fingerprint, hhost, htrust⟩ := bind_eq_ok.mp h
  cases htrust
  exact ⟨hhost, Nat.zero_le _, fun record hrecord => absurd hrecord not_mem_empty⟩

theorem loadable_of_fromJson {json : String}
    (h : fromJson crypto fromStr hostPublicKey json = .ok trust) :
    trust.Loadable crypto hostPublicKey := by
  simp only [fromJson, bind_eq_ok, check_eq_ok, rejectIf_eq_ok] at h
  obtain ⟨fingerprint, hhost, -, -, snapshot, -, -, -, -, -, -, hcount, listeners, hload, htrust⟩ :=
    h
  obtain ⟨hlength, hmem⟩ := loadListeners_spec _ _ listeners hload
  cases htrust
  refine ⟨hhost, ?_, fun record hrecord => ?_⟩
  · rw [hlength]
    exact (Nat.zero_add _).trans_le (Nat.le_of_not_lt hcount)
  · exact (hmem record hrecord).resolve_left not_mem_empty

namespace Loadable

variable (h : trust.Loadable crypto hostPublicKey)

include h

/-- A loadable registry is saved within the size limit. -/
theorem size_toJson_le : trust.snapshot.toJson.utf8ByteSize ≤ maxSnapshotBytes :=
  size_snapshot_le h.length_le fun record hrecord => (h.records record hrecord).2

/-- A loadable registry is loaded as it was saved. -/
theorem fromJson_toJson (hread : fromStr.ReadsBack) :
    fromJson crypto fromStr hostPublicKey trust.snapshot.toJson = .ok trust := by
  obtain ⟨loaded, hload, hloaded⟩ := loadListeners_of_sorted .empty
    trust.listeners.sorted (fun a ha => absurd ha not_mem_empty) h.records
  have hsame : loaded = trust.listeners := ext_toList (hloaded.trans (List.nil_append _))
  simp only [fromJson, bind_eq_ok, check_eq_ok, rejectIf_eq_ok]
  refine ⟨trust.hostFingerprint, h.host, (), h.size_toJson_le.not_gt, trust.snapshot, ?_,
    (), rfl, (), rfl, (), h.length_le.not_gt, trust.listeners, ?_, rfl⟩
  · rw [hread]
    rfl
  · rw [← hsame]
    exact hload

theorem reload_eq (hread : fromStr.ReadsBack) :
    trust.reload crypto fromStr hostPublicKey = .ok trust :=
  h.fromJson_toJson hread

/-- A record that passes the checks, in place of another one or where there is room. -/
theorem insert {record : StoredListener} (hrecord : record.Loadable)
    (hroom : trust.listeners.contains record.fingerprint.rank = true ∨
      trust.listeners.length < maxTrustedListeners) :
    Loadable crypto hostPublicKey { trust with listeners := trust.listeners.insert record } := by
  refine ⟨h.host, ?_, fun other hother => ?_⟩
  · by_cases hcontains : trust.listeners.contains record.fingerprint.rank = true
    · obtain ⟨old, hold, hrank⟩ := contains_iff.mp hcontains
      exact (length_insert_of_mem hold hrank).trans_le h.length_le
    · refine (length_insert fun b hb hrank => hcontains ?_).trans_le
        (hroom.resolve_left hcontains)
      exact contains_iff.mpr ⟨b, hb, hrank⟩
  · rcases mem_insert.mp hother with rfl | ⟨hother, -⟩
    · exact hrecord
    · exact h.records other hother

theorem enroll {key : VerifiedListenerKey} {displayName : String}
    (hkey : key.fingerprint ≠ zeroBytes) (henroll : trust.enroll key displayName = .ok trust') :
    trust'.Loadable crypto hostPublicKey := by
  simp only [HostVerifiedTrust.enroll, bind_eq_ok, check_eq_ok, rejectIf_eq_ok] at henroll
  obtain ⟨-, -, -, hname, -, hroom, htrust⟩ := henroll
  cases htrust
  refine h.insert ⟨hkey, hname⟩ ?_
  by_contra hfull
  obtain ⟨hcontains, hlength⟩ := not_or.mp hfull
  exact hroom ⟨by simpa using hcontains, Nat.le_of_not_lt hlength⟩

theorem revokeRecord (fingerprint host : Fingerprint) :
    (trust.revokeRecord fingerprint host).1.Loadable crypto hostPublicKey := by
  unfold HostVerifiedTrust.revokeRecord
  split_ifs with hhost
  · exact h
  cases hfind : trust.listeners.find? fingerprint.rank with
  | none => exact h
  | some record =>
    obtain ⟨hrecord, -⟩ := find?_eq_some.mp hfind
    exact h.insert (h.records record hrecord)
      (.inl (contains_iff.mpr ⟨record, hrecord, rfl⟩))

theorem call (hread : fromStr.ReadsBack) {c : TrustCall} (hc : c.EnrollsFingerprint) :
    (trust.call crypto fromStr hostPublicKey c).1.Loadable crypto hostPublicKey := by
  cases c with
  | enroll key displayName =>
    change (trust.orSelf (trust.enroll key displayName)).Loadable crypto hostPublicKey
    cases henroll : trust.enroll key displayName with
    | error => exact h
    | ok => exact h.enroll hc henroll
  | revoke key => exact h.revokeRecord key.fingerprint key.hostFingerprint
  | revokeStored stored => exact h.revokeRecord stored.fingerprint stored.hostFingerprint
  | reload =>
    change (trust.orSelf (trust.reload crypto fromStr hostPublicKey)).Loadable crypto hostPublicKey
    rw [h.reload_eq hread]
    exact h

end Loadable

/-! ## Revocations -/

/-- The record of a fingerprint is revoked. -/
def Revoked (trust : HostVerifiedTrust) (fingerprint : Fingerprint) : Prop :=
  ∃ record ∈ trust.listeners, record.fingerprint = fingerprint ∧ record.revoked = true

/-- The call enrolls a fingerprint. -/
def Enrolls (fingerprint : Fingerprint) (trust : HostVerifiedTrust) (call : TrustCall) : Prop :=
  ∃ key displayName, call = .enroll key displayName ∧ key.fingerprint = fingerprint ∧
    ∃ enrolled, trust.enroll key displayName = .ok enrolled

/-- The call revokes a fingerprint, and returns that it did. -/
def Revokes (fingerprint : Fingerprint) (trust : HostVerifiedTrust) (call : TrustCall) : Prop :=
  (∃ key, call = .revoke key ∧ key.fingerprint = fingerprint ∧ (trust.revoke key).2 = true) ∨
  ∃ stored, call = .revokeStored stored ∧ stored.fingerprint = fingerprint ∧
    (trust.revokeStored stored).2 = true

variable {fingerprint : Fingerprint}

theorem find?_rank_eq_some {record : StoredListener} :
    trust.listeners.find? fingerprint.rank = some record ↔
      record ∈ trust.listeners ∧ record.fingerprint = fingerprint := by
  rw [find?_eq_some]
  exact and_congr_right fun _ => rank_injective.eq_iff

section

variable (h : trust.Revoked fingerprint)
include h

/-- A revoked key is reported as such, unless it answered another host. -/
theorem Revoked.disposition {key : VerifiedListenerKey}
    (hkey : key.fingerprint = fingerprint) :
    trust.disposition key =
      if key.hostFingerprint ≠ trust.hostFingerprint then .unknown else .revoked := by
  obtain ⟨record, hrecord, hfingerprint, hrevoked⟩ := h
  unfold HostVerifiedTrust.disposition
  rw [find?_rank_eq_some.mpr ⟨hrecord, hfingerprint.trans hkey.symm⟩]
  dsimp only
  rw [if_pos hrevoked]

theorem Revoked.not_trusted {key : VerifiedListenerKey}
    (hkey : key.fingerprint = fingerprint) : trust.disposition key ≠ .trusted := by
  rw [h.disposition hkey]
  split_ifs <;> decide

/-- Another record does not change a revocation, nor does one that is revoked. -/
theorem Revoked.insert {record : StoredListener}
    (hrecord : record.fingerprint = fingerprint → record.revoked = true) :
    Revoked { trust with listeners := trust.listeners.insert record } fingerprint := by
  obtain ⟨old, hold, hfingerprint, hrevoked⟩ := h
  by_cases hsame : record.fingerprint = fingerprint
  · exact ⟨record, mem_insert.mpr (.inl rfl), hsame, hrecord hsame⟩
  · refine ⟨old, mem_insert.mpr (.inr ⟨hold, fun hrank => hsame ?_⟩), hfingerprint, hrevoked⟩
    exact (rank_injective hrank).symm.trans hfingerprint

theorem Revoked.revokeRecord (other host : Fingerprint) :
    (trust.revokeRecord other host).1.Revoked fingerprint := by
  unfold HostVerifiedTrust.revokeRecord
  split_ifs with hhost
  · exact h
  cases trust.listeners.find? other.rank with
  | none => exact h
  | some => exact h.insert fun _ => rfl

theorem Revoked.call (hloadable : trust.Loadable crypto hostPublicKey)
    (hread : fromStr.ReadsBack) {c : TrustCall} (hc : ¬Enrolls fingerprint trust c) :
    (trust.call crypto fromStr hostPublicKey c).1.Revoked fingerprint := by
  cases c with
  | enroll key displayName =>
    change (trust.orSelf (trust.enroll key displayName)).Revoked fingerprint
    cases henroll : trust.enroll key displayName with
    | error => exact h
    | ok enrolled =>
      have hother : key.fingerprint ≠ fingerprint := fun hkey =>
        hc ⟨key, displayName, rfl, hkey, enrolled, henroll⟩
      simp only [HostVerifiedTrust.enroll, bind_eq_ok, check_eq_ok, rejectIf_eq_ok] at henroll
      obtain ⟨-, -, -, -, -, -, htrust⟩ := henroll
      cases htrust
      exact h.insert fun hkey => absurd hkey hother
  | revoke key => exact h.revokeRecord key.fingerprint key.hostFingerprint
  | revokeStored stored => exact h.revokeRecord stored.fingerprint stored.hostFingerprint
  | reload =>
    change (trust.orSelf (trust.reload crypto fromStr hostPublicKey)).Revoked fingerprint
    rw [hloadable.reload_eq hread]
    exact h

end

theorem revoked_of_revokeRecord {host : Fingerprint}
    (h : (trust.revokeRecord fingerprint host).2 = true) :
    (trust.revokeRecord fingerprint host).1.Revoked fingerprint := by
  unfold HostVerifiedTrust.revokeRecord at h ⊢
  split_ifs at h ⊢ with hhost
  cases hfind : trust.listeners.find? fingerprint.rank with
  | none =>
    rw [hfind] at h
    cases h
  | some =>
    obtain ⟨-, hfingerprint⟩ := find?_rank_eq_some.mp hfind
    exact ⟨_, mem_insert.mpr (.inl rfl), hfingerprint, rfl⟩

theorem revoked_of_revokes {c : TrustCall} (h : Revokes fingerprint trust c) :
    (trust.call crypto fromStr hostPublicKey c).1.Revoked fingerprint := by
  rcases h with ⟨key, rfl, rfl, hchanged⟩ | ⟨stored, rfl, rfl, hchanged⟩
  · exact revoked_of_revokeRecord hchanged
  · exact revoked_of_revokeRecord hchanged

end HostVerifiedTrust

/-! ## Runs -/

section Runs

variable {crypto : Cryptography} {fromStr : SnapshotParser} {hostPublicKey : List UInt8}
  {trust : HostVerifiedTrust} {calls : List TrustCall}

/-- The registry can be saved, within the limit of the loader, and is loaded as it was. -/
def HostVerifiedTrust.Persists (crypto : Cryptography) (fromStr : SnapshotParser)
    (hostPublicKey : List UInt8) (trust : HostVerifiedTrust) : Prop :=
  ∃ json, trust.toJson = .ok json ∧ json.utf8ByteSize ≤ maxSnapshotBytes ∧
    HostVerifiedTrust.fromJson crypto fromStr hostPublicKey json = .ok trust

theorem loadable_of_init (h : (trustRegistry crypto fromStr hostPublicKey).init trust) :
    trust.Loadable crypto hostPublicKey := by
  rcases h with hnew | ⟨json, hload⟩
  · exact HostVerifiedTrust.loadable_of_new hnew
  · exact HostVerifiedTrust.loadable_of_fromJson hload

theorem loadable_after (hread : fromStr.ReadsBack) (h : trust.Loadable crypto hostPublicKey)
    (hcalls : ∀ call ∈ calls, call.EnrollsFingerprint) :
    ((trustRegistry crypto fromStr hostPublicKey).after trust calls).Loadable crypto
      hostPublicKey :=
  Machine.Along.invariant (M := trustRegistry crypto fromStr hostPublicKey)
    (I := HostVerifiedTrust.Loadable crypto hostPublicKey)
    (G := fun _ call => call.EnrollsFingerprint)
    (fun _ _ hloadable hcall => hloadable.call hread hcall) h (Machine.along_of_forall hcalls)

theorem revoked_after (hread : fromStr.ReadsBack) (h : trust.Loadable crypto hostPublicKey)
    (hcalls : ∀ call ∈ calls, call.EnrollsFingerprint) {fingerprint : Fingerprint}
    (hrevoked : trust.Revoked fingerprint)
    (hkept : (trustRegistry crypto fromStr hostPublicKey).Along
      (fun trust call => ¬HostVerifiedTrust.Enrolls fingerprint trust call) trust calls) :
    ((trustRegistry crypto fromStr hostPublicKey).after trust calls).Revoked fingerprint := by
  -- A reload keeps the revocation because the registry stays loadable.
  refine (Machine.Along.invariant
    (I := fun trust => trust.Loadable crypto hostPublicKey ∧ trust.Revoked fingerprint)
    (fun trust call hinv hcall => ?_) ⟨h, hrevoked⟩
    ((Machine.along_of_forall hcalls).and hkept)).2
  exact ⟨hinv.1.call hread hcall.1, hinv.2.call hinv.1 hread hcall.2⟩

/-- A revocation that is not followed by an enrollment of the key is reported. -/
theorem not_trusted_after (hread : fromStr.ReadsBack) (h : trust.Loadable crypto hostPublicKey)
    {before later : List TrustCall}
    (hcalls : ∀ call ∈ before ++ later, call.EnrollsFingerprint) {fingerprint : Fingerprint}
    (hrevoked : ((trustRegistry crypto fromStr hostPublicKey).after trust before).Revoked
      fingerprint)
    (hkept : (trustRegistry crypto fromStr hostPublicKey).Along
      (fun trust call => ¬HostVerifiedTrust.Enrolls fingerprint trust call)
      ((trustRegistry crypto fromStr hostPublicKey).after trust before) later)
    {key : VerifiedListenerKey} (hkey : key.fingerprint = fingerprint) :
    ((trustRegistry crypto fromStr hostPublicKey).after trust (before ++ later)).disposition key ≠
      .trusted := by
  obtain ⟨hbefore, hlater⟩ := List.forall_mem_append.mp hcalls
  have hloadable := loadable_after hread h hbefore
  rw [Machine.after_append]
  exact (revoked_after hread hloadable hlater hrevoked hkept).not_trusted hkey

/-- As long as every key that is enrolled has a fingerprint, the registry can be saved and loaded
after every call, and a fingerprint that was revoked, in a loaded record or by a call, is not
reported as trusted until it is enrolled again. -/
theorem trust_registry_persists (hread : fromStr.ReadsBack)
    (hinit : (trustRegistry crypto fromStr hostPublicKey).init trust)
    (hcalls : ∀ call ∈ calls, call.EnrollsFingerprint) :
    let registry := trustRegistry crypto fromStr hostPublicKey
    (registry.after trust calls).Persists crypto fromStr hostPublicKey ∧
    (∀ before later fingerprint, before ++ later = calls →
      (registry.after trust before).Revoked fingerprint →
      registry.Along (fun trust call => ¬HostVerifiedTrust.Enrolls fingerprint trust call)
        (registry.after trust before) later →
      ∀ key : VerifiedListenerKey, key.fingerprint = fingerprint →
        (registry.after trust calls).disposition key ≠ .trusted) ∧
    ∀ before call later fingerprint, before ++ call :: later = calls →
      HostVerifiedTrust.Revokes fingerprint (registry.after trust before) call →
      registry.Along (fun trust call => ¬HostVerifiedTrust.Enrolls fingerprint trust call)
        (registry.after trust (before ++ [call])) later →
      ∀ key : VerifiedListenerKey, key.fingerprint = fingerprint →
        (registry.after trust calls).disposition key ≠ .trusted := by
  intro registry
  have hloadable := loadable_of_init hinit
  refine ⟨?_, ?_, ?_⟩
  · have hafter := loadable_after hread hloadable hcalls
    exact ⟨_, rfl, hafter.size_toJson_le, hafter.fromJson_toJson hread⟩
  · rintro before later fingerprint rfl hrevoked hkept key hkey
    exact not_trusted_after hread hloadable hcalls hrevoked hkept hkey
  · rintro before call later fingerprint rfl hrevokes hkept key hkey
    have hrevoked : (registry.after trust (before ++ [call])).Revoked fingerprint := by
      rw [Machine.after_append]
      exact HostVerifiedTrust.revoked_of_revokes hrevokes
    rw [List.append_cons] at hcalls ⊢
    exact not_trusted_after hread hloadable hcalls hrevoked hkept hkey

end Runs

namespace TrustScenario

/-- A fingerprint repeats the first byte of its key. -/
def crypto : Cryptography where
  validKey _ := true
  validSignature _ := true
  verifies _ _ _ := true
  sha256 key := Vector.replicate 32 (key.headD 0)

def hostPublicKey : List UInt8 := [1]

def empty : HostVerifiedTrust where
  hostFingerprint := crypto.sha256 hostPublicKey
  listeners := .empty

def listener (first : UInt8) : VerifiedListenerKey where
  fingerprint := crypto.sha256 [first]
  hostFingerprint := crypto.sha256 hostPublicKey

theorem valid_sessionId : validateIdentifier .session "secure-session" = .ok () := by decide

def challenge : PendingListenerProof where
  sessionId := ⟨"secure-session", valid_sessionId⟩
  generation := 1
  hostFingerprint := crypto.sha256 hostPublicKey
  nonce := Vector.replicate 32 7
  exporterBinding := Vector.replicate 32 9
  consumed := false

def calls : List TrustCall :=
  [.enroll (listener 2) "Ada", .revoke (listener 2), .reload, .reload]

theorem not_enrolls_reload {fingerprint : Fingerprint} {trust : HostVerifiedTrust} :
    ¬HostVerifiedTrust.Enrolls fingerprint trust .reload := by
  rintro ⟨key, displayName, heq, -⟩
  cases heq

end TrustScenario

open TrustScenario in
/-- A listener that was enrolled and revoked, after the registry was saved and loaded twice. -/
theorem trust_registry_persists_revoked :
    let registry := trustRegistry crypto strictParser hostPublicKey
    strictParser.ReadsBack ∧ registry.init empty ∧ (∀ call ∈ calls, call.EnrollsFingerprint) ∧
    (registry.after empty calls).Persists crypto strictParser hostPublicKey ∧
    (registry.after empty calls).disposition (listener 2) ≠ .trusted := by
  intro registry
  have hinit : registry.init empty := .inl rfl
  have hcalls : ∀ call ∈ calls, call.EnrollsFingerprint := by
    intro call hcall
    simp only [calls, List.mem_cons, List.not_mem_nil, or_false] at hcall
    rcases hcall with rfl | rfl | rfl | rfl
    · exact fun hzero => absurd (congrArg Vector.toList hzero) (by decide)
    all_goals trivial
  obtain ⟨hpersists, -, hrevoked⟩ := trust_registry_persists readsBack_strictParser hinit hcalls
  refine ⟨readsBack_strictParser, hinit, hcalls, hpersists, ?_⟩
  refine hrevoked [.enroll (listener 2) "Ada"] (.revoke (listener 2)) [.reload, .reload]
    (listener 2).fingerprint rfl (.inl ⟨listener 2, rfl, rfl, ?_⟩) ?_ (listener 2) rfl
  · decide
  · exact ⟨not_enrolls_reload, not_enrolls_reload, trivial⟩

open TrustScenario in
/-- A proof of possession gives a key whose fingerprint is zero; `enroll` takes it, and the loader
rejects the registry that was saved with it. -/
theorem not_trust_registry_persists :
    strictParser.ReadsBack ∧
    PendingListenerProof.new crypto challenge.sessionId 1 hostPublicKey challenge.nonce
      challenge.exporterBinding = .ok challenge ∧
    (challenge.verifyAndConsume crypto [0] []).2 = .ok (listener 0) ∧
    HostVerifiedTrust.new crypto hostPublicKey = .ok empty ∧
    ∃ enrolled, empty.enroll (listener 0) "Ada" = .ok enrolled ∧
      ¬enrolled.Persists crypto strictParser hostPublicKey := by
  refine ⟨readsBack_strictParser, rfl, by decide, rfl, _, rfl, ?_⟩
  rintro ⟨json, -, -, hload⟩
  have hrecord := (HostVerifiedTrust.loadable_of_fromJson hload).records
    { fingerprint := (listener 0).fingerprint, displayName := "Ada", revoked := false }
    (SortedBy.mem_insert.mpr (.inl rfl))
  exact hrecord.1 rfl

end SilentDisco.Transport
