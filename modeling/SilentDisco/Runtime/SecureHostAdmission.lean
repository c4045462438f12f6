import SilentDisco.Runtime.HostAdmission
import SilentDisco.Transport.SecureTrust

/-!
# Admission by a listener proof

A listener that proves to hold a key is admitted under a name made from the key, with the trust that
the host has recorded for it. What the peer claims about both is not used.

## Main definitions

* `VerifiedListenerKey.canonicalDeviceId`: the name of a key
* `verifyAndClassifyJoin`: the admission of a request
* `listenerProof`: the attempts on a challenge

## Main results

* `signingTranscript_injective`: a transcript determines what it binds
* `listener_proofs_do_not_transfer`: that, with the single use and the claims that do not count
-/

namespace SilentDisco

open Result Transport

/-- The format `02x`. -/
def hexByte (byte : UInt8) : List Char :=
  [Nat.digitChar (byte.toNat / 16), Nat.digitChar (byte.toNat % 16)]

theorem isPlain_canonical (bytes : List UInt8) :
    IsPlain ("v4-" ++ String.ofList (bytes.flatMap hexByte)) := by
  have hdigit : ∀ n < 16, 0x21 ≤ (Nat.digitChar n).toNat ∧ (Nat.digitChar n).toNat ≤ 0x7E := by
    decide
  have hstem : ∀ c ∈ "v4-".toList, 0x21 ≤ c.toNat ∧ c.toNat ≤ 0x7E := by simp
  refine ⟨fun hempty => ?_, fun c hc => ?_⟩
  · simpa using congrArg String.toList hempty
  · rw [String.toList_append, List.mem_append] at hc
    rcases hc with hc | hc
    · exact hstem c hc
    · rw [String.toList_ofList] at hc
      obtain ⟨byte, -, hc⟩ := List.mem_flatMap.mp hc
      simp only [hexByte, List.mem_cons, List.not_mem_nil, or_false] at hc
      have hbyte := byte.toNat_lt
      rcases hc with rfl | rfl
      · exact hdigit _ (by omega)
      · exact hdigit _ (by omega)

def Transport.VerifiedListenerKey.canonicalDeviceId (key : VerifiedListenerKey) : DeviceId where
  value := "v4-" ++ String.ofList (key.fingerprint.toList.flatMap hexByte)
  valid := validateIdentifier_of_isPlain (isPlain_canonical _) (by
    simp [hexByte, maxIdentifierBytes])

structure VerifiedJoinAdmission where
  verifiedKey : VerifiedListenerKey
  request : JoinRequestSummary
  disposition : JoinRequestDisposition
  deriving DecidableEq

inductive VerifiedJoinError
  | proof (error : ListenerProofError)
  | revokedListener
  deriving DecidableEq

/-- Classify a join by the records of the host, with the challenge that is left. -/
def verifyAndClassifyJoin (crypto : Cryptography) (draft : HostDraft) (request : JoinRequestSummary)
    (proof : PendingListenerProof) (listenerPublicKey signature : List UInt8)
    (trust : HostVerifiedTrust) :
    PendingListenerProof × Except VerifiedJoinError VerifiedJoinAdmission :=
  (proof.verifyAndConsume crypto listenerPublicKey signature).map id fun verified => do
    let verifiedKey ← verified.mapError .proof
    let trustState ← match trust.disposition verifiedKey with
      | .trusted => .ok .trusted
      | .unknown => .ok .sessionOnly
      | .revoked => .error .revokedListener
    let request := { request with deviceId := verifiedKey.canonicalDeviceId, trustState }
    return { verifiedKey, request, disposition := classifyJoinRequest draft request }

/-- The attempts to answer a challenge, each a key and a signature. -/
def listenerProof (crypto : Cryptography) :
    Machine PendingListenerProof (List UInt8 × List UInt8)
      (Except ListenerProofError VerifiedListenerKey) where
  init _ := True
  step pending attempt := pending.verifyAndConsume crypto attempt.1 attempt.2

namespace Transport.PendingListenerProof

variable {crypto : Cryptography} {pending other : PendingListenerProof}
  {key otherKey transcript signature : List UInt8}

/-- The listeners prove the same: what a transcript binds is equal. -/
structure ProvesSame (crypto : Cryptography) (pending other : PendingListenerProof)
    (key otherKey : List UInt8) : Prop where
  host : pending.hostFingerprint = other.hostFingerprint
  listener : crypto.sha256 key = crypto.sha256 otherKey
  session : pending.sessionId = other.sessionId
  generation : pending.generation = other.generation
  nonce : pending.nonce = other.nonce
  exporter : pending.exporterBinding = other.exporterBinding

/-- A transcript determines what it binds. -/
theorem signingTranscript_injective (h : pending.signingTranscript crypto key = .ok transcript)
    (hother : other.signingTranscript crypto otherKey = .ok transcript) :
    ProvesSame crypto pending other key otherKey := by
  simp only [signingTranscript, bind_eq_ok, check_eq_ok] at h hother
  obtain ⟨-, -, -, hlength, h⟩ := h
  obtain ⟨-, -, -, hlength', hother⟩ := hother
  have heq := (Except.ok.inj h).trans (Except.ok.inj hother).symm
  simp only [List.append_assoc] at heq
  -- from the first field to the last: all but the session have a fixed width
  obtain ⟨-, heq⟩ := List.append_inj heq rfl
  obtain ⟨hhost, heq⟩ := List.append_inj heq (by simp)
  obtain ⟨hlistener, heq⟩ := List.append_inj heq (by simp)
  obtain ⟨hwidth, heq⟩ := List.append_inj heq (by simp)
  have hsame := congrArg Wire.ofBigEndian hwidth
  rw [Wire.ofBigEndian_bigEndian, Wire.ofBigEndian_bigEndian,
    Nat.mod_eq_of_lt (b := 256 ^ 2) hlength, Nat.mod_eq_of_lt (b := 256 ^ 2) hlength'] at hsame
  obtain ⟨hsession, heq⟩ := List.append_inj heq hsame
  obtain ⟨hgeneration, heq⟩ := List.append_inj heq (by simp)
  obtain ⟨hnonce, hbinding⟩ := List.append_inj heq (by simp)
  have htext := congrArg fromUtf8 hsession
  rw [fromUtf8_asBytes, fromUtf8_asBytes] at htext
  have hnumber := congrArg Wire.ofBigEndian hgeneration
  rw [Wire.ofBigEndian_bigEndian, Wire.ofBigEndian_bigEndian,
    Nat.mod_eq_of_lt (b := 256 ^ 8) pending.generation.toNat_lt,
    Nat.mod_eq_of_lt (b := 256 ^ 8) other.generation.toNat_lt] at hnumber
  exact ⟨Vector.toList_inj.mp hhost, Vector.toList_inj.mp hlistener,
    Identifier.ext (Option.some.inj htext), UInt64.toNat_inj.mp hnumber,
    Vector.toList_inj.mp hnonce, Vector.toList_inj.mp hbinding⟩

/-- The first attempt that is accepted has a signature of the challenge's own transcript. -/
theorem verifyAndConsume_eq_ok {verified : VerifiedListenerKey}
    (h : (pending.verifyAndConsume crypto key signature).2 = .ok verified) :
    verified = ⟨crypto.sha256 key, pending.hostFingerprint⟩ ∧
      ∃ transcript, pending.signingTranscript crypto key = .ok transcript ∧
        crypto.verifies key transcript signature = true := by
  unfold verifyAndConsume at h
  split_ifs at h
  simp only [bind_eq_ok, check_eq_ok] at h
  obtain ⟨transcript, htranscript, -, -, -, -, -, hverifies, hpure⟩ := h
  cases hpure
  exact ⟨rfl, transcript, htranscript, hverifies⟩

theorem consumed_verifyAndConsume :
    (pending.verifyAndConsume crypto key signature).1.consumed = true := by
  unfold verifyAndConsume
  split_ifs with hconsumed
  · exact hconsumed
  · rfl

/-- A consumed challenge accepts nothing. -/
theorem outputs_of_consumed (h : pending.consumed = true)
    (attempts : List (List UInt8 × List UInt8)) :
    ∀ result ∈ (listenerProof crypto).outputs pending attempts,
      result = .error .alreadyConsumed := by
  induction attempts with
  | nil => simp [Machine.outputs]
  | cons attempt attempts ih =>
    have hstep : (listenerProof crypto).step pending attempt = (pending, .error .alreadyConsumed) :=
      if_pos h
    intro result hresult
    rw [Machine.outputs, Machine.out, Machine.next, hstep] at hresult
    rcases List.mem_cons.mp hresult with rfl | hlater
    · rfl
    · exact ih result hlater

end Transport.PendingListenerProof

/-- An admission is of the key that the challenge was answered with, under the key's name. -/
theorem verifyAndClassifyJoin_eq_ok {crypto : Cryptography} {draft : HostDraft}
    {request : JoinRequestSummary} {pending : PendingListenerProof} {key signature : List UInt8}
    {trust : HostVerifiedTrust} {admission : VerifiedJoinAdmission}
    (h : (verifyAndClassifyJoin crypto draft request pending key signature trust).2 =
      .ok admission) :
    (pending.verifyAndConsume crypto key signature).2 = .ok admission.verifiedKey ∧
      admission.request.deviceId = admission.verifiedKey.canonicalDeviceId := by
  simp only [verifyAndClassifyJoin, Prod.map_snd, bind_eq_ok, mapError_eq_ok] at h
  obtain ⟨verifiedKey, hverified, h⟩ := h
  cases hdisposition : trust.disposition verifiedKey with
  | trusted | unknown =>
    rw [hdisposition] at h
    cases h
    exact ⟨hverified, rfl⟩
  | revoked =>
    rw [hdisposition] at h
    cases h

/-- **The proof of a listener does not transfer.** A transcript determines the host, the listener,
the session, the generation, the nonce and the channel. Of all attempts on a challenge only the
first may succeed, with a signature of its own transcript. An admission makes one attempt, succeeds
only with it, for the key that answered, and does not depend on the device and the trust that the
request claims. -/
theorem listener_proofs_do_not_transfer (crypto : Cryptography) (pending : PendingListenerProof) :
    (∀ (other : PendingListenerProof) key otherKey transcript,
      pending.signingTranscript crypto key = .ok transcript →
      other.signingTranscript crypto otherKey = .ok transcript →
      pending.ProvesSame crypto other key otherKey) ∧
    (∀ attempts i verified,
      ((listenerProof crypto).outputs pending attempts)[i]? = some (.ok verified) →
      i = 0 ∧ ∃ key signature transcript, attempts.head? = some (key, signature) ∧
        verified = ⟨crypto.sha256 key, pending.hostFingerprint⟩ ∧
        pending.signingTranscript crypto key = .ok transcript ∧
        crypto.verifies key transcript signature = true) ∧
    (∀ draft request key signature trust,
      (verifyAndClassifyJoin crypto draft request pending key signature trust).1 =
        (pending.verifyAndConsume crypto key signature).1 ∧
      ∀ admission,
        (verifyAndClassifyJoin crypto draft request pending key signature trust).2 = .ok admission →
        (pending.verifyAndConsume crypto key signature).2 = .ok admission.verifiedKey ∧
          admission.request.deviceId = admission.verifiedKey.canonicalDeviceId) ∧
    ∀ draft (request : JoinRequestSummary) deviceId trustState key signature trust,
      verifyAndClassifyJoin crypto draft { request with deviceId, trustState } pending key signature
        trust = verifyAndClassifyJoin crypto draft request pending key signature trust := by
  refine ⟨fun _ _ _ _ => PendingListenerProof.signingTranscript_injective, ?_,
    fun _ _ _ _ _ => ⟨rfl, fun _ => verifyAndClassifyJoin_eq_ok⟩, fun _ _ _ _ _ _ _ => rfl⟩
  intro attempts i verified hverified
  cases attempts with
  | nil => cases hverified
  | cons attempt attempts =>
    cases i with
    | zero =>
      obtain ⟨hkey, transcript, htranscript, hverifies⟩ :=
        PendingListenerProof.verifyAndConsume_eq_ok (Option.some.inj hverified)
      exact ⟨rfl, attempt.1, attempt.2, transcript, rfl, hkey, htranscript, hverifies⟩
    | succ i =>
      cases PendingListenerProof.outputs_of_consumed
        PendingListenerProof.consumed_verifyAndConsume attempts _ (List.mem_of_getElem? hverified)

namespace ListenerProofScenario

theorem valid_session : validateIdentifier .session "session" = .ok () := by decide

/-- The signature of a key is the key. -/
def crypto : Cryptography where
  validKey _ := true
  validSignature _ := true
  verifies key _ signature := key = signature
  sha256 _ := .replicate 32 2

def pending : PendingListenerProof where
  sessionId := ⟨"session", valid_session⟩
  generation := 1
  hostFingerprint := .replicate 32 2
  nonce := .replicate 32 1
  exporterBinding := .replicate 32 1
  consumed := false

def key : VerifiedListenerKey := ⟨.replicate 32 2, .replicate 32 2⟩

/-- The peer claims another device, and no trust. -/
def request : JoinRequestSummary where
  requestId := ⟨"join-1", by decide⟩
  deviceId := ⟨"claimed-1", by decide⟩
  displayName := "Listener"
  trustState := .sessionOnly
  inviteCodeValid := false
  receivedAt := ⟨10⟩

def trust : HostVerifiedTrust where
  hostFingerprint := key.hostFingerprint
  listeners := SortedBy.empty.insert ⟨key.fingerprint, "Listener", false⟩

def join (proof : PendingListenerProof) :
    PendingListenerProof × Except VerifiedJoinError VerifiedJoinAdmission :=
  verifyAndClassifyJoin crypto { approvalMode := .trustedDevices } request proof [7] [7] trust

end ListenerProofScenario

open ListenerProofScenario in
/-- A listener of trusted-devices mode is admitted once by its proof; whoever repeats the proof is
not. -/
theorem listener_proofs_do_not_transfer_once :
    (join pending).2 = .ok
        { verifiedKey := key, request := { request with
            deviceId := key.canonicalDeviceId, trustState := .trusted }
          disposition := .autoApprove true } ∧
      ∀ admission, (join (join pending).1).2 ≠ .ok admission := by
  refine ⟨by decide +kernel, fun admission hadmission => ?_⟩
  obtain ⟨-, honce, -⟩ := listener_proofs_do_not_transfer crypto pending
  obtain ⟨-, -, hproof, -⟩ := listener_proofs_do_not_transfer crypto (join pending).1
  have hverified := ((hproof _ _ _ _ _).2 admission hadmission).1
  exact absurd (honce [([7], [7]), ([7], [7])] 1 _ (congrArg some hverified)).1 one_ne_zero

end SilentDisco
