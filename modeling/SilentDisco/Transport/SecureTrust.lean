import SilentDisco.Domain.Identifiers
import SilentDisco.Library.Json
import SilentDisco.Library.Runs
import SilentDisco.Library.SortedBy
import SilentDisco.Library.Wire

/-!
# Listener keys and trust records

A listener of the secure transport proves that it holds a key by a signature over a transcript
that binds the host, the session and the channel. A challenge is consumed by the first attempt.
A host keeps the listener keys it always admits, or has revoked, under the fingerprint of its own
key. The registry is saved as compact JSON and loaded with checks.

## Main definitions

* `Cryptography`: key parsing, signatures and the hash
* `PendingListenerProof.new`, `signingTranscript`, `verifyAndConsume`: a challenge
* `HostVerifiedTrust.new`, `fromJson`, `toJson`: a registry, loaded and saved
* `HostVerifiedTrust.disposition`, `enroll`, `revoke`, `revokeStored`: the calls
* `trustRegistry`: the machine of all calls
-/

namespace SilentDisco.Transport

open Result

abbrev Fingerprint := Vector UInt8 32

/-- The cryptography of the secure transport, on encoded keys and signatures. -/
structure Cryptography where
  /-- `VerifyingKey::from_public_key_der` accepts the key. -/
  validKey : List UInt8 → Bool
  /-- `Signature::from_der` accepts the signature. -/
  validSignature : List UInt8 → Bool
  /-- The signature of a transcript under a key. -/
  verifies : List UInt8 → List UInt8 → List UInt8 → Bool
  /-- The hash `Sha256::digest`. -/
  sha256 : List UInt8 → Fingerprint

inductive ListenerProofError
  | invalidChallenge | invalidPublicKey | invalidSignatureEncoding | signatureMismatch
  | alreadyConsumed
  deriving DecidableEq

structure VerifiedListenerKey where
  fingerprint : Fingerprint
  hostFingerprint : Fingerprint
  deriving DecidableEq

structure PendingListenerProof where
  sessionId : SessionId
  generation : UInt64
  hostFingerprint : Fingerprint
  nonce : Vector UInt8 32
  exporterBinding : Vector UInt8 32
  consumed : Bool

/-- The bytes of a fingerprint, nonce or binding that is missing. -/
def zeroBytes : Vector UInt8 32 := Vector.replicate 32 0

def proofDomain : List UInt8 := asBytes "silent-disco-v4-listener-proof\x00"

namespace PendingListenerProof

variable (crypto : Cryptography)

def new (sessionId : SessionId) (generation : UInt64) (hostPublicKey : List UInt8)
    (nonce exporterBinding : Vector UInt8 32) : Except ListenerProofError PendingListenerProof := do
  rejectIf (generation = 0 ∨ nonce = zeroBytes ∨ exporterBinding = zeroBytes) .invalidChallenge
  check (crypto.validKey hostPublicKey) .invalidPublicKey
  return {
    sessionId, generation, nonce, exporterBinding
    hostFingerprint := crypto.sha256 hostPublicKey
    consumed := false }

variable (pending : PendingListenerProof)

/-- The bytes that the listener signs. -/
def signingTranscript (listenerPublicKey : List UInt8) :
    Except ListenerProofError (List UInt8) := do
  check (crypto.validKey listenerPublicKey) .invalidPublicKey
  let session := asBytes pending.sessionId.value
  check (session.length < 2 ^ 16) .invalidChallenge
  return proofDomain ++ pending.hostFingerprint.toList ++
    (crypto.sha256 listenerPublicKey).toList ++ Wire.bigEndian 2 session.length ++ session ++
    Wire.bigEndian 8 pending.generation.toNat ++ pending.nonce.toList ++
    pending.exporterBinding.toList

/-- Check a signature, with the challenge that is left. -/
def verifyAndConsume (listenerPublicKey signature : List UInt8) :
    PendingListenerProof × Except ListenerProofError VerifiedListenerKey :=
  if pending.consumed then (pending, .error .alreadyConsumed)
  else
    ({ pending with consumed := true }, do
      let transcript ← pending.signingTranscript crypto listenerPublicKey
      check (crypto.validKey listenerPublicKey) .invalidPublicKey
      check (crypto.validSignature signature) .invalidSignatureEncoding
      check (crypto.verifies listenerPublicKey transcript signature) .signatureMismatch
      return {
        fingerprint := crypto.sha256 listenerPublicKey
        hostFingerprint := pending.hostFingerprint })

end PendingListenerProof

/-! ## Records -/

def trustRecordVersion : UInt32 := 1

def maxTrustedListeners : ℕ := 256

def maxDisplayNameBytes : ℕ := 128

def maxSnapshotBytes : ℕ := 131072

inductive HostTrustError
  | invalidHostKey | invalidSnapshot | wrongHostIdentity | unsupportedVersion | tooManyListeners
  | invalidDisplayName
  deriving DecidableEq

inductive VerifiedTrustDisposition
  | trusted | unknown | revoked
  deriving DecidableEq

structure StoredListenerId where
  fingerprint : Fingerprint
  hostFingerprint : Fingerprint
  deriving DecidableEq

structure StoredListener where
  fingerprint : Fingerprint
  displayName : String
  revoked : Bool
  deriving DecidableEq

structure TrustSnapshot where
  version : UInt32
  hostFingerprint : Fingerprint
  listeners : List StoredListener
  deriving DecidableEq

/-! ## Serialization -/

def Fingerprint.print (fingerprint : Fingerprint) : List Char :=
  Json.array (fun byte : UInt8 => Json.number byte.toNat) fingerprint.toList

def StoredListener.print (record : StoredListener) : List Char :=
  "\x7b\"fingerprint\":".toList ++ (record.fingerprint.print ++
    (",\"display_name\":".toList ++ (Json.string record.displayName ++
      (",\"revoked\":".toList ++ Json.bool record.revoked)))) ++ "\x7d".toList

def TrustSnapshot.print (snapshot : TrustSnapshot) : List Char :=
  "\x7b\"version\":".toList ++ (Json.number snapshot.version.toNat ++
    (",\"host_fingerprint\":".toList ++ (snapshot.hostFingerprint.print ++
      (",\"listeners\":".toList ++ Json.array StoredListener.print snapshot.listeners)))) ++
  "\x7d".toList

/-- The text `serde_json::to_string` returns. -/
def TrustSnapshot.toJson (snapshot : TrustSnapshot) : String := String.ofList snapshot.print

/-- The parser of snapshots, `serde_json::from_str`. -/
abbrev SnapshotParser := String → Option TrustSnapshot

/-- The parser reads what serialization writes. -/
def SnapshotParser.ReadsBack (fromStr : SnapshotParser) : Prop :=
  ∀ snapshot : TrustSnapshot, fromStr snapshot.toJson = some snapshot

/-! ## The registry -/

/-- The place of a fingerprint in the order of byte strings. -/
def Fingerprint.rank (fingerprint : Fingerprint) : ℕ := Wire.ofBigEndian fingerprint.toList

/-- Records in the order of their fingerprints. -/
abbrev Listeners := SortedBy fun record : StoredListener => record.fingerprint.rank

structure HostVerifiedTrust where
  hostFingerprint : Fingerprint
  listeners : Listeners
  deriving DecidableEq

def hostFingerprint (crypto : Cryptography) (hostPublicKey : List UInt8) :
    Except HostTrustError Fingerprint := do
  check (crypto.validKey hostPublicKey) .invalidHostKey
  return crypto.sha256 hostPublicKey

def validDisplayName (name : String) : Bool :=
  trim name ≠ "" && name.utf8ByteSize ≤ maxDisplayNameBytes && !name.toList.any isControl

namespace HostVerifiedTrust

def new (crypto : Cryptography) (hostPublicKey : List UInt8) :
    Except HostTrustError HostVerifiedTrust := do
  return { hostFingerprint := ← Transport.hostFingerprint crypto hostPublicKey
           listeners := .empty }

/-- The loop of `fromJson` over the records. -/
def loadListeners : Listeners → List StoredListener → Except HostTrustError Listeners
  | listeners, [] => .ok listeners
  | listeners, record :: rest =>
    if record.fingerprint = zeroBytes ∨ !validDisplayName record.displayName ∨
        listeners.contains record.fingerprint.rank then .error .invalidSnapshot
    else loadListeners (listeners.insert record) rest

def fromJson (crypto : Cryptography) (fromStr : SnapshotParser) (hostPublicKey : List UInt8)
    (json : String) : Except HostTrustError HostVerifiedTrust := do
  let expectedHost ← Transport.hostFingerprint crypto hostPublicKey
  rejectIf (json.utf8ByteSize > maxSnapshotBytes) .invalidSnapshot
  let snapshot ← (fromStr json).elim (.error .invalidSnapshot) .ok
  check (snapshot.version = trustRecordVersion) .unsupportedVersion
  check (snapshot.hostFingerprint = expectedHost) .wrongHostIdentity
  rejectIf (snapshot.listeners.length > maxTrustedListeners) .tooManyListeners
  let listeners ← loadListeners .empty snapshot.listeners
  return { hostFingerprint := expectedHost, listeners }

variable (trust : HostVerifiedTrust)

def snapshot : TrustSnapshot where
  version := trustRecordVersion
  hostFingerprint := trust.hostFingerprint
  listeners := trust.listeners.toList

/-- Save the registry; serialization of a snapshot does not fail. -/
def toJson : Except HostTrustError String := .ok trust.snapshot.toJson

variable (key : VerifiedListenerKey)

def disposition : VerifiedTrustDisposition :=
  if key.hostFingerprint ≠ trust.hostFingerprint then .unknown
  else
    match trust.listeners.find? key.fingerprint.rank with
    | some record => if record.revoked then .revoked else .trusted
    | none => .unknown

def enroll (displayName : String) : Except HostTrustError HostVerifiedTrust := do
  check (key.hostFingerprint = trust.hostFingerprint) .wrongHostIdentity
  check (validDisplayName displayName) .invalidDisplayName
  rejectIf (!trust.listeners.contains key.fingerprint.rank ∧
    trust.listeners.length ≥ maxTrustedListeners) .tooManyListeners
  return { trust with
    listeners := trust.listeners.insert
      { fingerprint := key.fingerprint, displayName, revoked := false } }

/-- Revoke the record of a fingerprint, which `revokeStored` and `revoke` share. -/
def revokeRecord (fingerprint hostFingerprint : Fingerprint) : HostVerifiedTrust × Bool :=
  if hostFingerprint ≠ trust.hostFingerprint then (trust, false)
  else
    match trust.listeners.find? fingerprint.rank with
    | some record =>
      ({ trust with listeners := trust.listeners.insert { record with revoked := true } }, true)
    | none => (trust, false)

def revokeStored (id : StoredListenerId) : HostVerifiedTrust × Bool :=
  trust.revokeRecord id.fingerprint id.hostFingerprint

def revoke : HostVerifiedTrust × Bool :=
  trust.revokeRecord key.fingerprint key.hostFingerprint

end HostVerifiedTrust

/-! ## The machine -/

inductive TrustCall
  | enroll (key : VerifiedListenerKey) (displayName : String)
  | revoke (key : VerifiedListenerKey)
  | revokeStored (stored : StoredListenerId)
  /-- Save the registry and load it. -/
  | reload
  deriving DecidableEq

/-- What a call returns. -/
inductive TrustReply
  | enrolled (result : Except HostTrustError Unit)
  | revoked (changed : Bool)
  | reloaded (result : Except HostTrustError Unit)

namespace HostVerifiedTrust

/-- A call that fails leaves the registry as it was. -/
def orSelf (trust : HostVerifiedTrust) (result : Except HostTrustError HostVerifiedTrust) :
    HostVerifiedTrust :=
  result.toOption.getD trust

variable (crypto : Cryptography) (fromStr : SnapshotParser) (hostPublicKey : List UInt8)

/-- Save the registry and load what was saved. -/
def reload (trust : HostVerifiedTrust) : Except HostTrustError HostVerifiedTrust := do
  fromJson crypto fromStr hostPublicKey (← trust.toJson)

def call (trust : HostVerifiedTrust) : TrustCall → HostVerifiedTrust × TrustReply
  | .enroll key displayName =>
    let result := trust.enroll key displayName
    (trust.orSelf result, .enrolled (result.map fun _ => ()))
  | .revoke key => (trust.revoke key).map id .revoked
  | .revokeStored stored => (trust.revokeStored stored).map id .revoked
  | .reload =>
    let result := trust.reload crypto fromStr hostPublicKey
    (trust.orSelf result, .reloaded (result.map fun _ => ()))

end HostVerifiedTrust

/-- The registry of a host key, from an empty one or one that was loaded. -/
def trustRegistry (crypto : Cryptography) (fromStr : SnapshotParser)
    (hostPublicKey : List UInt8) : Machine HostVerifiedTrust TrustCall TrustReply where
  init trust := HostVerifiedTrust.new crypto hostPublicKey = .ok trust ∨
    ∃ json, HostVerifiedTrust.fromJson crypto fromStr hostPublicKey json = .ok trust
  step := HostVerifiedTrust.call crypto fromStr hostPublicKey

end SilentDisco.Transport
