import SilentDisco.Library.Json
import SilentDisco.Library.Runs
import SilentDisco.Transport.SecureTrust

/-!
# Signed invitations and the store that consumes them

A signed invitation is accepted once: its nonce goes into a ledger table, in one transaction with
the check that the ledger does not have it. The ledger drops a nonce when the invitation it came
with has expired.

## Main definitions

* `validateUnsigned`, `canonicalUnsigned`: the checks of an invitation and the text its host signs
* `NonceTable`: the ledger, with the constraints of its schema
* `P2Store.validateAndConsumeQr`, `cleanup`, `listRecentListenerSessions`: the calls
* `p2Store`: the machine of these calls
-/

namespace SilentDisco.P2

open Result Transport

def maxRecentQueryLimit : UInt32 := 20

def maxQrLifetimeMs : UInt64 := 600000

def qrClockSkewMs : UInt64 := 60000

def maxNameBytes : ℕ := 256

def maxPublicKeyBytes : ℕ := 1024

def maxQrPayloadBytes : ℕ := 16384

def maxManualEndpointPayloadBytes : ℕ := 2048

inductive P2Error
  | invalidArgument (message : String)
  | storage (message : String)
  | corruptStore (message : String)
  | invalidQr (message : String)
  | expiredQr
  | replayedQr
  | invalidSignature
  deriving DecidableEq

def P2Error.message : P2Error → String
  | .invalidArgument message => "invalid P2 argument: " ++ message
  | .storage message => "P2 storage failure: " ++ message
  | .corruptStore message => "P2 storage is corrupt: " ++ message
  | .invalidQr message => "invalid Silent Disco QR invitation: " ++ message
  | .expiredQr => "Silent Disco QR invitation has expired"
  | .replayedQr => "Silent Disco QR invitation was already used on this phone"
  | .invalidSignature => "Silent Disco QR invitation signature is invalid"

/-! ## Invitations -/

structure UnsignedQrDocument where
  v : UInt8
  alg : String
  sid : String
  sn : String
  hn : String
  pk : String
  am : String
  code : Option String
  iat : UInt64
  exp : UInt64
  nonce : String
  conn : Option String
  deriving DecidableEq

structure SignedQrDocument extends UnsignedQrDocument where
  sig : String
  deriving DecidableEq

structure ValidatedQrInvitation where
  sessionId : String
  sessionName : String
  hostName : String
  hostPublicKey : List UInt8
  hostFingerprint : String
  approvalMode : String
  inviteCode : Option String
  issuedAtMs : UInt64
  expiresAtMs : UInt64
  nonce : String
  connectionPayloadJson : Option String
  deriving DecidableEq

/-- What the store uses of other components. -/
structure QrEnvironment where
  /-- `serde_json::from_str`, or its error text. -/
  fromStr : String → Except String SignedQrDocument
  /-- Unpadded base64url. -/
  decodeBase64 : String → Option (List UInt8)
  crypto : Cryptography
  /-- The check of `ManualHostEndpoint::parse` at a time, or its error text. -/
  parseEndpoint : String → UInt64 → Except String Unit

/-- `u64::saturating_add`. -/
def saturatingAdd (a b : UInt64) : UInt64 := UInt64.ofNat (min (a.toNat + b.toNat) (2 ^ 64 - 1))

def validateName (value field : String) : Except P2Error Unit :=
  rejectIf (trim value ≠ value ∨ value = "" ∨ value.utf8ByteSize > maxNameBytes ∨
    '\x00' ∈ value.toList) (.invalidArgument (field ++ " is invalid"))

/-- The characters of a nonce. -/
def isNonceCharacter (c : Char) : Bool := c.isAlphanum || c = '-' || c = '_'

def validateNonce (value : String) : Except P2Error Unit :=
  rejectIf (¬(16 ≤ value.utf8ByteSize ∧ value.utf8ByteSize ≤ 80) ∨
    !value.toList.all isNonceCharacter) (.invalidQr "nonce is invalid")

def validateConnectionPayload (env : QrEnvironment) (nowMs : UInt64) :
    Option String → Except P2Error Unit
  | none => .ok ()
  | some value => do
    rejectIf (value = "" ∨ value.utf8ByteSize > maxManualEndpointPayloadBytes)
      (.invalidQr "connection payload size is unsupported")
    (env.parseEndpoint value nowMs).mapError fun error =>
      .invalidQr ("connection payload is invalid: " ++ error)

/-- The invite code goes with the mode that uses one. -/
def validateInviteCode (am : String) (code : Option String) : Except P2Error Unit :=
  if am = "invite_code" then
    match code with
    | none => .error (.invalidQr "invite code is missing")
    | some code =>
      rejectIf (trim code ≠ code ∨ ¬(4 ≤ code.utf8ByteSize ∧ code.utf8ByteSize ≤ 32))
        (.invalidQr "invite code is invalid")
  else
    rejectIf code.isSome (.invalidQr "invite code is present for a mode that does not use one")

def validateUnsigned (env : QrEnvironment) (document : UnsignedQrDocument) (nowMs : UInt64) :
    Except P2Error Unit := do
  rejectIf (document.v ≠ 1 ∨ document.alg ≠ "ES256")
    (.invalidQr "unsupported invitation version or signature algorithm")
  (validateIdentifier .session document.sid).mapError fun _ =>
    .invalidQr "session identifier is invalid"
  (validateName document.sn "session name").mapError fun error => .invalidQr error.message
  (validateName document.hn "host name").mapError fun error => .invalidQr error.message
  check (document.am ∈ ["manual", "invite_code", "approved_devices"])
    (.invalidQr "approval mode is invalid")
  validateInviteCode document.am document.code
  rejectIf (document.iat = 0 ∨ document.exp ≤ document.iat ∨
    document.exp - document.iat > maxQrLifetimeMs) (.invalidQr "invitation lifetime is invalid")
  rejectIf (saturatingAdd nowMs qrClockSkewMs < document.iat)
    (.invalidQr "invitation was issued too far in the future")
  rejectIf (nowMs > saturatingAdd document.exp qrClockSkewMs) .expiredQr
  validateNonce document.nonce
  validateConnectionPayload env nowMs document.conn

/-- A string as JSON text. -/
def jsonString (value : String) : String := String.ofList (Json.string value)

def jsonOption (value : Option String) : String := value.elim "null" jsonString

/-- The text that the host signs. -/
def canonicalUnsigned (document : UnsignedQrDocument) : String :=
  "\x7b\"v\":" ++ toString document.v.toNat ++ ",\"alg\":" ++ jsonString document.alg ++
  ",\"sid\":" ++ jsonString document.sid ++ ",\"sn\":" ++ jsonString document.sn ++
  ",\"hn\":" ++ jsonString document.hn ++ ",\"pk\":" ++ jsonString document.pk ++
  ",\"am\":" ++ jsonString document.am ++ ",\"code\":" ++ jsonOption document.code ++
  ",\"iat\":" ++ toString document.iat.toNat ++ ",\"exp\":" ++ toString document.exp.toNat ++
  ",\"nonce\":" ++ jsonString document.nonce ++ ",\"conn\":" ++ jsonOption document.conn ++ "\x7d"

/-- The fingerprint of a key in hexadecimal digits. -/
def publicKeyFingerprint (crypto : Cryptography) (publicKey : List UInt8) : String :=
  String.ofList ((crypto.sha256 publicKey).toList.flatMap fun byte =>
    [Nat.digitChar (byte.toNat / 16), Nat.digitChar (byte.toNat % 16)])

/-- Parse an invitation, check it and its signature. -/
def verifyQr (env : QrEnvironment) (payload : String) (nowMs : UInt64) :
    Except P2Error (UnsignedQrDocument × List UInt8) := do
  rejectIf (payload = "" ∨ payload.utf8ByteSize > maxQrPayloadBytes)
    (.invalidQr "payload size is unsupported")
  let signed ← (env.fromStr payload).mapError .invalidQr
  let unsigned := signed.toUnsignedQrDocument
  validateUnsigned env unsigned nowMs
  let publicKey ← (env.decodeBase64 unsigned.pk).elim
    (.error (.invalidQr "host public key is not valid base64url")) .ok
  rejectIf (publicKey = [] ∨ publicKey.length > maxPublicKeyBytes)
    (.invalidQr "host public key size is unsupported")
  check (env.crypto.validKey publicKey) (.invalidQr "host public key is not a P-256 key")
  let signature ← (env.decodeBase64 signed.sig).elim
    (.error (.invalidQr "signature is not valid base64url")) .ok
  check (env.crypto.validSignature signature) .invalidSignature
  check (env.crypto.verifies publicKey (asBytes (canonicalUnsigned unsigned)) signature)
    .invalidSignature
  return (unsigned, publicKey)

/-! ## Tables -/

def toSqlMillis (value : UInt64) : Except P2Error ℤ := do
  check (value.toNat < 2 ^ 63) (.invalidArgument "timestamp is too large")
  return value.toNat

def fromSqlMillis (value : ℤ) : Except P2Error UInt64 := do
  check (0 ≤ value) (.corruptStore "negative timestamp")
  return UInt64.ofNat value.toNat

structure ConsumedNonce where
  nonce : String
  consumedAtMs : ℤ
  expiresAtMs : ℤ
  deriving DecidableEq

/-- The constraints of the schema on a row. -/
structure ConsumedNonce.Checked (row : ConsumedNonce) : Prop where
  nonce : 16 ≤ row.nonce.length ∧ row.nonce.length ≤ 80
  consumedAtMs : 0 < row.consumedAtMs
  expiresAtMs : row.consumedAtMs ≤ row.expiresAtMs

instance (row : ConsumedNonce) : Decidable row.Checked :=
  decidable_of_iff ((16 ≤ row.nonce.length ∧ row.nonce.length ≤ 80) ∧ 0 < row.consumedAtMs ∧
    row.consumedAtMs ≤ row.expiresAtMs)
    ⟨fun h => ⟨h.1, h.2.1, h.2.2⟩, fun h => ⟨h.nonce, h.consumedAtMs, h.expiresAtMs⟩⟩

/-- The table `consumed_qr_nonces`. -/
structure NonceTable where
  rows : List ConsumedNonce
  checked : ∀ row ∈ rows, row.Checked
  /-- The nonce is the primary key. -/
  unique : (rows.map ConsumedNonce.nonce).Nodup

namespace NonceTable

def empty : NonceTable := ⟨[], List.forall_mem_nil _, List.nodup_nil⟩

variable (table : NonceTable)

def contains (nonce : String) : Bool := nonce ∈ table.rows.map ConsumedNonce.nonce

/-- Delete the rows that expire before a time. -/
def deleteExpired (now : ℤ) : NonceTable where
  rows := table.rows.filter fun row => now ≤ row.expiresAtMs
  checked row hrow := table.checked row (List.mem_of_mem_filter hrow)
  unique := (List.filter_sublist.map _).nodup table.unique

/-- Insert a row that meets the constraints. -/
def insert (row : ConsumedNonce) : Option NonceTable :=
  if h : row.Checked ∧ row.nonce ∉ table.rows.map ConsumedNonce.nonce then
    some {
      rows := row :: table.rows
      checked := List.forall_mem_cons.mpr ⟨h.1, table.checked⟩
      unique := List.nodup_cons.mpr ⟨h.2, table.unique⟩ }
  else none

end NonceTable

inductive RecentSessionRole
  | host | listener
  deriving DecidableEq

inductive RecentSessionOutcome
  | completed | cancelled | failed
  deriving DecidableEq

/-- A row of the table `recent_sessions`; its constraints make the texts of the enumerations. -/
structure RecentSession where
  sessionId : String
  role : RecentSessionRole
  sessionName : String
  hostName : String
  hostFingerprint : Option String
  startedAtMs : ℤ
  endedAtMs : ℤ
  outcome : RecentSessionOutcome
  deriving DecidableEq

structure RecentSessionRecord where
  sessionId : String
  role : RecentSessionRole
  sessionName : String
  hostName : String
  hostFingerprint : Option String
  startedAtMs : UInt64
  endedAtMs : UInt64
  outcome : RecentSessionOutcome
  deriving DecidableEq

def validateFingerprint (value : Option String) : Except P2Error Unit :=
  check (∀ text ∈ value, text.utf8ByteSize = 64 ∧
    text.toList.all fun c => c.isDigit || ('a' ≤ c && c ≤ 'f'))
    (.invalidArgument "host fingerprint is invalid")

def RecentSessionRecord.validate (record : RecentSessionRecord) : Except P2Error Unit := do
  (validateIdentifier .session record.sessionId).mapError fun _ =>
    .invalidArgument "invalid session identifier"
  validateName record.sessionName "session name"
  validateName record.hostName "host name"
  validateFingerprint record.hostFingerprint
  rejectIf (record.startedAtMs = 0 ∨ record.endedAtMs < record.startedAtMs)
    (.invalidArgument "recent-session timestamps are invalid")

/-- Read a row. -/
def RecentSession.read (row : RecentSession) : Except P2Error RecentSessionRecord := do
  let record : RecentSessionRecord := {
    sessionId := row.sessionId
    role := row.role
    sessionName := row.sessionName
    hostName := row.hostName
    hostFingerprint := row.hostFingerprint
    startedAtMs := ← fromSqlMillis row.startedAtMs
    endedAtMs := ← fromSqlMillis row.endedAtMs
    outcome := row.outcome }
  record.validate
  return record

/-! ## The store -/

structure P2Store where
  recentSessions : List RecentSession
  consumedQrNonces : NonceTable

namespace P2Store

variable (store : P2Store)

/-- Run the statements of a transaction and commit it. A failure, of a statement or of the storage,
leaves the store as it was. -/
def transaction {α : Type} (fault : Option String) (statements : Except P2Error (P2Store × α)) :
    P2Store × Except P2Error α :=
  match fault, statements with
  | some error, _ => (store, .error (.storage error))
  | none, .error error => (store, .error error)
  | none, .ok (next, value) => (next, .ok value)

/-- The statements that consume a nonce. -/
def consume (constraintError : String) (unsigned : UnsignedQrDocument) (nowMs : UInt64) :
    Except P2Error (P2Store × Unit) := do
  let live := store.consumedQrNonces.deleteExpired (← toSqlMillis nowMs)
  rejectIf (live.contains unsigned.nonce) .replayedQr
  let row : ConsumedNonce := {
    nonce := unsigned.nonce
    consumedAtMs := ← toSqlMillis nowMs
    expiresAtMs := ← toSqlMillis unsigned.exp }
  let consumedQrNonces ← (live.insert row).elim (.error (.storage constraintError)) .ok
  return ({ store with consumedQrNonces }, ())

/-- Accept an invitation and consume its nonce. -/
def validateAndConsumeQr (env : QrEnvironment) (fault : Option String) (constraintError : String)
    (payload : String) (nowMs : UInt64) : P2Store × Except P2Error ValidatedQrInvitation :=
  match verifyQr env payload nowMs with
  | .error error => (store, .error error)
  | .ok (unsigned, publicKey) =>
    (store.transaction fault (store.consume constraintError unsigned nowMs)).map id
      (Except.map fun _ => {
      sessionId := unsigned.sid
      sessionName := unsigned.sn
      hostName := unsigned.hn
      hostPublicKey := publicKey
      hostFingerprint := publicKeyFingerprint env.crypto publicKey
      approvalMode := unsigned.am
      inviteCode := unsigned.code
      issuedAtMs := unsigned.iat
      expiresAtMs := unsigned.exp
      nonce := unsigned.nonce
      connectionPayloadJson := unsigned.conn })

/-- The time before which recent sessions are dropped. -/
def cutoff (nowMs maxAgeMs : UInt64) : UInt64 := UInt64.ofNat (nowMs.toNat - maxAgeMs.toNat)

/-- The statements of `cleanup`. -/
def dropExpired (nowMs recentMaxAgeMs : UInt64) : Except P2Error (P2Store × Unit) := do
  let oldest ← toSqlMillis (cutoff nowMs recentMaxAgeMs)
  let now ← toSqlMillis nowMs
  return ({
    recentSessions := store.recentSessions.filter fun row => oldest ≤ row.endedAtMs
    consumedQrNonces := store.consumedQrNonces.deleteExpired now }, ())

def cleanup (fault : Option String) (nowMs recentMaxAgeMs : UInt64) :
    P2Store × Except P2Error Unit :=
  if nowMs = 0 ∨ recentMaxAgeMs = 0 then
    (store, .error (.invalidArgument "cleanup bounds are invalid"))
  else store.transaction fault (store.dropExpired nowMs recentMaxAgeMs)

/-- Latest first, then by session. -/
def listedBefore (a b : RecentSession) : Bool :=
  b.endedAtMs < a.endedAtMs || (a.endedAtMs = b.endedAtMs && a.sessionId ≤ b.sessionId)

/-- The query of the sessions of a listener. -/
def queryListenerSessions (oldest : ℤ) (limit : UInt32) :
    Except P2Error (List RecentSessionRecord) :=
  let rows := store.recentSessions.filter fun row =>
    row.role = .listener && decide (oldest ≤ row.endedAtMs)
  ((rows.mergeSort listedBefore).take limit.toNat).mapM RecentSession.read

def listRecentListenerSessions (fault queryFault : Option String) (nowMs maxAgeMs : UInt64)
    (limit : UInt32) : P2Store × Except P2Error (List RecentSessionRecord) :=
  if nowMs = 0 ∨ maxAgeMs = 0 ∨ limit = 0 ∨ limit > maxRecentQueryLimit then
    (store, .error (.invalidArgument "recent-session query bounds are invalid"))
  else
    let cleaned := store.cleanup fault nowMs maxAgeMs
    (cleaned.1, do
      cleaned.2
      let oldest ← toSqlMillis (cutoff nowMs maxAgeMs)
      queryFault.elim (cleaned.1.queryListenerSessions oldest limit) fun error =>
        .error (.storage error))

end P2Store

/-! ## The machine -/

inductive StoreCall
  | validateAndConsumeQr (payload : String)
  | cleanup (recentMaxAgeMs : UInt64)
  | listRecentListenerSessions (maxAgeMs : UInt64) (limit : UInt32)
  deriving DecidableEq

/-- A call at a time, with the errors the storage raises on its own. -/
structure StoreInput where
  nowMs : UInt64
  call : StoreCall
  fault : Option String := none
  queryFault : Option String := none
  constraintError : String := "CHECK constraint failed"

inductive StoreReply
  | invitation (result : Except P2Error ValidatedQrInvitation)
  | cleaned (result : Except P2Error Unit)
  | sessions (result : Except P2Error (List RecentSessionRecord))

def P2Store.answer (env : QrEnvironment) (store : P2Store) (input : StoreInput) :
    P2Store × StoreReply :=
  match input.call with
  | .validateAndConsumeQr payload =>
    (store.validateAndConsumeQr env input.fault input.constraintError payload input.nowMs).map id
      .invitation
  | .cleanup recentMaxAgeMs =>
    (store.cleanup input.fault input.nowMs recentMaxAgeMs).map id .cleaned
  | .listRecentListenerSessions maxAgeMs limit =>
    (store.listRecentListenerSessions input.fault input.queryFault input.nowMs maxAgeMs limit).map
      id .sessions

/-- The calls on one store, whatever it contains. -/
def p2Store (env : QrEnvironment) : Machine P2Store StoreInput StoreReply where
  init _ := True
  step := P2Store.answer env

end SilentDisco.P2
