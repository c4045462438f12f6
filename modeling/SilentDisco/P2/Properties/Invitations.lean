import SilentDisco.P2.Store

/-!
# Accepted invitations

A nonce that was consumed stays in the ledger as long as the invitation it came with has not
expired. After that the ledger may drop it, while the invitation is still accepted within the
clock skew; the schema then rejects the row, since it would expire before it was consumed.

The text that the host signs was printed from one document. An invitation that is accepted has the
fields of the document whose text was verified, so all of them are what the owner of the key signed.

## Main definitions

* `P2Store.Holds store nonce expiresAtMs`: the ledger has a nonce with its expiry

## Main results

* `qr_single_use`: what two accepted invitations with one nonce have to satisfy
* `signature_covers_invitation`: an accepted invitation has the fields that were signed
-/

namespace SilentDisco.P2

open Result

variable {env : QrEnvironment} {store next : P2Store} {input : StoreInput}

@[simp] theorem toSqlMillis_eq_ok {value : UInt64} {millis : ℤ} :
    toSqlMillis value = .ok millis ↔ value.toNat < 2 ^ 63 ∧ (value.toNat : ℤ) = millis := by
  unfold toSqlMillis
  simp [pure, Except.pure]

namespace NonceTable

variable {table : NonceTable} {row : ConsumedNonce} {now : ℤ}

theorem mem_deleteExpired :
    row ∈ (table.deleteExpired now).rows ↔ row ∈ table.rows ∧ now ≤ row.expiresAtMs := by
  unfold deleteExpired
  simp

theorem insert_eq_some {inserted : NonceTable} (h : table.insert row = some inserted) :
    row.Checked ∧ inserted.rows = row :: table.rows := by
  unfold insert at h
  split_ifs at h with hrow
  cases h
  exact ⟨hrow.1, rfl⟩

theorem contains_of_mem (h : row ∈ table.rows) : table.contains row.nonce = true :=
  decide_eq_true (List.mem_map_of_mem h)

end NonceTable

/-- The invitation of a document, under the key that it names. -/
def UnsignedQrDocument.invitation (document : UnsignedQrDocument) (crypto : Transport.Cryptography)
    (publicKey : List UInt8) : ValidatedQrInvitation where
  sessionId := document.sid
  sessionName := document.sn
  hostName := document.hn
  hostPublicKey := publicKey
  hostFingerprint := publicKeyFingerprint crypto publicKey
  approvalMode := document.am
  inviteCode := document.code
  issuedAtMs := document.iat
  expiresAtMs := document.exp
  nonce := document.nonce
  connectionPayloadJson := document.conn

namespace P2Store

/-- The ledger has a nonce with its expiry. -/
def Holds (store : P2Store) (nonce : String) (expiresAtMs : UInt64) : Prop :=
  ∃ row ∈ store.consumedQrNonces.rows, row.nonce = nonce ∧ row.expiresAtMs = expiresAtMs.toNat

variable {nowMs expiresAtMs : UInt64} {nonce : String}

/-- What it takes to consume a nonce. -/
theorem consume_spec {constraintError : String} {unsigned : UnsignedQrDocument}
    (h : store.consume constraintError unsigned nowMs = .ok (next, ())) :
    nowMs ≤ unsigned.exp ∧ next.Holds unsigned.nonce unsigned.exp ∧
      (∀ row ∈ store.consumedQrNonces.rows, (nowMs.toNat : ℤ) ≤ row.expiresAtMs →
        row.nonce ≠ unsigned.nonce ∧ row ∈ next.consumedQrNonces.rows) := by
  simp only [consume, bind_eq_ok, rejectIf_eq_ok, toSqlMillis_eq_ok] at h
  obtain ⟨now, ⟨-, rfl⟩, -, hunused, -, ⟨-, rfl⟩, expires, ⟨-, rfl⟩, table, hinsert, hnext⟩ := h
  cases hnext
  cases hrow : (store.consumedQrNonces.deleteExpired nowMs.toNat).insert
      ⟨unsigned.nonce, nowMs.toNat, unsigned.exp.toNat⟩ with
  | none =>
    rw [hrow] at hinsert
    cases hinsert
  | some inserted =>
    rw [hrow] at hinsert
    cases hinsert
    obtain ⟨hchecked, hrows⟩ := NonceTable.insert_eq_some hrow
    refine ⟨UInt64.le_iff_toNat_le.mpr (Int.ofNat_le.mp hchecked.expiresAtMs), ?_, ?_⟩
    · exact ⟨_, hrows ▸ List.mem_cons_self, rfl, rfl⟩
    · intro row hmem hlive
      have hkept := NonceTable.mem_deleteExpired.mpr ⟨hmem, hlive⟩
      refine ⟨fun hnonce => hunused ?_, hrows ▸ List.mem_cons_of_mem _ hkept⟩
      exact hnonce ▸ NonceTable.contains_of_mem hkept

section Transaction

variable {α : Type} {fault : Option String} {statements : Except P2Error (P2Store × α)} {value : α}

/-- A property of the store that the statements establish, or that it had. -/
theorem transaction_induction {P : P2Store → Prop} (hstore : P store)
    (hnext : ∀ next value, statements = .ok (next, value) → P next) :
    P (store.transaction fault statements).1 := by
  cases fault with
  | some => exact hstore
  | none =>
    cases hstatements : statements with
    | error => exact hstore
    | ok result => exact hnext result.1 result.2 hstatements

theorem transaction_eq_ok (h : (store.transaction fault statements).2 = .ok value) :
    statements = .ok ((store.transaction fault statements).1, value) := by
  cases fault with
  | some => cases h
  | none =>
    cases statements with
    | error => cases h
    | ok =>
      cases h
      rfl

end Transaction

theorem Holds.mono (h : store.Holds nonce expiresAtMs)
    (hrows : ∀ row ∈ store.consumedQrNonces.rows, row.expiresAtMs = expiresAtMs.toNat →
      row ∈ next.consumedQrNonces.rows) : next.Holds nonce expiresAtMs := by
  obtain ⟨row, hrow, hnonce, hexpires⟩ := h
  exact ⟨row, hrows row hrow hexpires, hnonce, hexpires⟩

theorem Holds.cleanup {recentMaxAgeMs : UInt64} {fault : Option String}
    (h : store.Holds nonce expiresAtMs) (hnow : nowMs ≤ expiresAtMs) :
    (store.cleanup fault nowMs recentMaxAgeMs).1.Holds nonce expiresAtMs := by
  unfold P2Store.cleanup
  split_ifs with hbounds
  · exact h
  refine transaction_induction (P := fun store => store.Holds nonce expiresAtMs) h
    fun next value hnext => ?_
  simp only [dropExpired, bind_eq_ok, toSqlMillis_eq_ok] at hnext
  obtain ⟨oldest, -, now, ⟨-, rfl⟩, hnext⟩ := hnext
  cases hnext
  refine h.mono fun row hrow hexpires => NonceTable.mem_deleteExpired.mpr ⟨hrow, ?_⟩
  rw [hexpires]
  exact Int.ofNat_le.mpr (UInt64.le_iff_toNat_le.mp hnow)

/-- A call before the expiry keeps the nonce. -/
theorem Holds.answer (h : store.Holds nonce expiresAtMs) (hnow : input.nowMs ≤ expiresAtMs) :
    (store.answer env input).1.Holds nonce expiresAtMs := by
  obtain ⟨nowMs, call, fault, queryFault, constraintError⟩ := input
  cases call with
  | validateAndConsumeQr payload =>
    change (store.validateAndConsumeQr env fault constraintError payload nowMs).1.Holds nonce _
    unfold validateAndConsumeQr
    cases verifyQr env payload nowMs with
    | error => exact h
    | ok =>
      refine transaction_induction (P := fun store => store.Holds nonce expiresAtMs) h
        fun next value hnext => ?_
      obtain ⟨-, -, hlive⟩ := consume_spec hnext
      refine h.mono fun row hrow hexpires => (hlive row hrow ?_).2
      rw [hexpires]
      exact Int.ofNat_le.mpr (UInt64.le_iff_toNat_le.mp hnow)
  | cleanup => exact h.cleanup hnow
  | listRecentListenerSessions maxAgeMs limit =>
    change (store.listRecentListenerSessions fault queryFault nowMs maxAgeMs limit).1.Holds nonce _
    unfold listRecentListenerSessions
    split_ifs with hbounds
    · exact h
    · exact h.cleanup hnow

/-- What it takes to accept an invitation. -/
theorem validateAndConsumeQr_spec {fault : Option String} {constraintError payload : String}
    {invitation : ValidatedQrInvitation}
    (h : (store.validateAndConsumeQr env fault constraintError payload nowMs).2 = .ok invitation) :
    ∃ unsigned, verifyQr env payload nowMs = .ok (unsigned, invitation.hostPublicKey) ∧
      invitation = unsigned.invitation env.crypto invitation.hostPublicKey ∧
      store.consume constraintError unsigned nowMs =
        .ok ((store.validateAndConsumeQr env fault constraintError payload nowMs).1, ()) := by
  unfold validateAndConsumeQr at h ⊢
  cases hverify : verifyQr env payload nowMs with
  | error =>
    rw [hverify] at h
    cases h
  | ok verified =>
    rw [hverify] at h
    obtain ⟨⟨⟩, hvalue, rfl⟩ := map_eq_ok.mp h
    exact ⟨verified.1, rfl, rfl, transaction_eq_ok hvalue⟩

/-- A call that accepts an invitation consumes its nonce. -/
theorem consume_of_accepted {invitation : ValidatedQrInvitation}
    (h : (store.answer env input).2 = .invitation (.ok invitation)) :
    ∃ unsigned, unsigned.nonce = invitation.nonce ∧ unsigned.exp = invitation.expiresAtMs ∧
      store.consume input.constraintError unsigned input.nowMs =
        .ok ((store.answer env input).1, ()) := by
  obtain ⟨nowMs, call, fault, queryFault, constraintError⟩ := input
  cases call with
  | cleanup | listRecentListenerSessions => cases h
  | validateAndConsumeQr =>
    obtain ⟨unsigned, -, hinvitation, hconsume⟩ :=
      validateAndConsumeQr_spec (StoreReply.invitation.inj h)
    rw [hinvitation]
    exact ⟨unsigned, rfl, rfl, hconsume⟩

end P2Store

/-! ## Runs -/

/-- If two calls accept invitations with one nonce, the later call comes after the first invitation
has expired, and its own invitation has not: one invitation is never accepted twice. -/
theorem qr_single_use (env : QrEnvironment) (store : P2Store) (before between : List StoreInput)
    (x y : StoreInput)
    (htimes : ((before ++ x :: between ++ [y]).map StoreInput.nowMs).Pairwise (· ≤ ·))
    (first second : ValidatedQrInvitation)
    (hfirst : (p2Store env).out ((p2Store env).after store before) x = .invitation (.ok first))
    (hsecond : (p2Store env).out ((p2Store env).after store (before ++ x :: between)) y =
      .invitation (.ok second))
    (hnonce : first.nonce = second.nonce) :
    first.expiresAtMs < y.nowMs ∧ y.nowMs ≤ second.expiresAtMs := by
  obtain ⟨unsigned, hunsigned, hexp, hconsume⟩ := P2Store.consume_of_accepted hfirst
  obtain ⟨unsigned', hunsigned', hexp', hconsume'⟩ := P2Store.consume_of_accepted hsecond
  obtain ⟨-, hholds, -⟩ := P2Store.consume_spec hconsume
  obtain ⟨hlive', -, hfresh'⟩ := P2Store.consume_spec hconsume'
  rw [hunsigned, hexp] at hholds
  refine ⟨?_, hexp' ▸ hlive'⟩
  by_contra hnot
  have hnow : y.nowMs ≤ first.expiresAtMs := UInt64.not_lt.mp hnot
  -- Until the later call the nonce stays in the ledger, since no call comes after the expiry.
  have hbetween : ∀ z ∈ between, z.nowMs ≤ first.expiresAtMs := by
    intro z hz
    rw [List.map_append, List.pairwise_append] at htimes
    refine UInt64.le_trans (htimes.2.2 z.nowMs ?_ y.nowMs List.mem_cons_self) hnow
    exact List.mem_map_of_mem (List.mem_append_right before (List.mem_cons_of_mem x hz))
  have hstill := Machine.Along.invariant (M := p2Store env)
    (I := fun store => store.Holds first.nonce first.expiresAtMs)
    (G := fun _ z => z.nowMs ≤ first.expiresAtMs) (fun _ _ h hz => h.answer hz) hholds
    (Machine.along_of_forall hbetween)
  obtain ⟨row, hrow, hrownonce, hrowexpires⟩ := hstill
  rw [Machine.after_append] at hfresh'
  refine (hfresh' row hrow ?_).1 (hrownonce.trans (hnonce.trans hunsigned'.symm))
  rw [hrowexpires]
  exact Int.ofNat_le.mpr (UInt64.le_iff_toNat_le.mp hnow)

namespace InvitationScenario

/-- A payload is the number of the minute its invitation expires in. -/
def document (payload : String) : SignedQrDocument where
  v := 1
  alg := "ES256"
  sid := "session-1"
  sn := "Party"
  hn := "Host"
  pk := "key"
  am := "manual"
  code := none
  iat := 1
  exp := UInt64.ofNat (payload.length * 60000)
  nonce := "nonce-1234567890abcdef"
  conn := none
  sig := "signature"

def environment : QrEnvironment where
  fromStr payload := .ok (document payload)
  decodeBase64 _ := some [1]
  crypto := {
    validKey := fun _ => true
    validSignature := fun _ => true
    verifies := fun _ _ _ => true
    sha256 := fun _ => Vector.replicate 32 0 }
  parseEndpoint _ _ := .ok ()

def empty : P2Store := ⟨[], .empty⟩

def scan (nowMs : UInt64) (payload : String) : StoreInput where
  nowMs
  call := .validateAndConsumeQr payload

def invitation (payload : String) : ValidatedQrInvitation where
  sessionId := "session-1"
  sessionName := "Party"
  hostName := "Host"
  hostPublicKey := [1]
  hostFingerprint := publicKeyFingerprint environment.crypto [1]
  approvalMode := "manual"
  inviteCode := none
  issuedAtMs := 1
  expiresAtMs := UInt64.ofNat (payload.length * 60000)
  nonce := "nonce-1234567890abcdef"
  connectionPayloadJson := none

end InvitationScenario

open InvitationScenario in
/-- An invitation that expires after one minute is accepted, and after that minute another one with
the same nonce, which expires after two. -/
theorem not_qr_single_use :
    let first := (p2Store environment).step empty (scan 60000 "1")
    let second := (p2Store environment).step first.1 (scan 60001 "22")
    (invitation "1").nonce = (invitation "22").nonce ∧
    first.2 = .invitation (.ok (invitation "1")) ∧
    second.2 = .invitation (.ok (invitation "22")) := by
  refine ⟨rfl, ?_, ?_⟩
  · rfl
  · rfl

open InvitationScenario in
/-- Two invitations with one nonce that are both accepted. -/
theorem qr_single_use_renewed :
    (invitation "1").expiresAtMs < (scan 60001 "22").nowMs ∧
      (scan 60001 "22").nowMs ≤ (invitation "22").expiresAtMs :=
  qr_single_use environment empty [] [] (scan 60000 "1") (scan 60001 "22") (by decide)
    (invitation "1") (invitation "22") rfl rfl rfl

/-! ## What the signature covers -/

open Json

/-- The characters of an optional string. -/
def printOption (value : Option String) : List Char := value.elim "null".toList string

/-- A string starts with a quotation mark, which `null` does not. -/
theorem unambiguous_printOption : Json.Unambiguous (fun _ => True) printOption := by
  intro a b s t hs ht heq
  cases a with
  | none =>
    cases b with
    | none => exact ⟨rfl, List.append_cancel_left heq⟩
    | some => exact absurd (List.cons.inj heq).1 (by decide)
  | some text =>
    cases b with
    | none => exact absurd (List.cons.inj heq).1 (by decide)
    | some other =>
      obtain ⟨rfl, hrest⟩ := unambiguous_string hs ht heq
      exact ⟨rfl, hrest⟩

theorem toList_jsonString (value : String) : (jsonString value).toList = string value :=
  String.toList_ofList

theorem toList_jsonOption (value : Option String) :
    (jsonOption value).toList = printOption value := by
  cases value with
  | none => rfl
  | some text => exact toList_jsonString text

theorem toList_repr (n : ℕ) : n.repr.toList = number n := String.toList_ofList

/-- The text that is signed determines the document. -/
theorem canonicalUnsigned_injective : Function.Injective canonicalUnsigned := by
  have hword : Json.Unambiguous Json.NoDigit fun n : UInt64 => number n.toNat :=
    unambiguous_number.comap fun _ _ => UInt64.toNat_inj.mp
  have hbyte : Json.Unambiguous Json.NoDigit fun n : UInt8 => number n.toNat :=
    unambiguous_number.comap fun _ _ => UInt8.toNat_inj.mp
  have hcomma {text s : List Char} : Json.NoDigit (',' :: text ++ s) :=
    noDigit_cons (by decide) _
  -- from the last field to the first
  have conn := (unambiguous_printOption.literal ",\"conn\":".toList).close "\x7d".toList
    fun _ => trivial
  have nonce := (unambiguous_string.append conn fun _ _ _ => trivial).literal
    ",\"nonce\":".toList
  have exp := (hword.append nonce fun _ _ _ => hcomma).literal ",\"exp\":".toList
  have iat := (hword.append exp fun _ _ _ => hcomma).literal ",\"iat\":".toList
  have code := (unambiguous_printOption.append iat fun _ _ _ => trivial).literal
    ",\"code\":".toList
  have am := (unambiguous_string.append code fun _ _ _ => trivial).literal ",\"am\":".toList
  have pk := (unambiguous_string.append am fun _ _ _ => trivial).literal ",\"pk\":".toList
  have hn := (unambiguous_string.append pk fun _ _ _ => trivial).literal ",\"hn\":".toList
  have sn := (unambiguous_string.append hn fun _ _ _ => trivial).literal ",\"sn\":".toList
  have sid := (unambiguous_string.append sn fun _ _ _ => trivial).literal ",\"sid\":".toList
  have alg := (unambiguous_string.append sid fun _ _ _ => trivial).literal ",\"alg\":".toList
  have v := (hbyte.append alg fun _ _ _ => hcomma).literal "\x7b\"v\":".toList
  intro a b heq
  have htext := congrArg String.toList heq
  unfold canonicalUnsigned at htext
  simp only [String.toList_append, Nat.toString_eq_repr] at htext
  simp only [toList_jsonString, toList_jsonOption, toList_repr, List.append_assoc] at htext
  obtain ⟨hfields, -⟩ := @v (a.v, a.alg, a.sid, a.sn, a.hn, a.pk, a.am, a.code, a.iat, a.exp,
    a.nonce, a.conn) (b.v, b.alg, b.sid, b.sn, b.hn, b.pk, b.am, b.code, b.iat, b.exp, b.nonce,
    b.conn) [] [] trivial trivial (by simpa only [List.append_assoc, List.append_nil] using htext)
  cases a
  cases b
  cases hfields
  rfl

/-! ## Accepted invitations -/

/-- The payload has a document, the key that it names, and a signature of its text. -/
structure Signs (env : QrEnvironment) (payload : String) (document : UnsignedQrDocument)
    (publicKey signature : List UInt8) : Prop where
  parsed : ∃ signed, env.fromStr payload = .ok signed ∧ signed.toUnsignedQrDocument = document ∧
    env.decodeBase64 signed.sig = some signature
  key : env.decodeBase64 document.pk = some publicKey
  verified : env.crypto.verifies publicKey (asBytes (canonicalUnsigned document)) signature = true

theorem verifyQr_eq_ok {env : QrEnvironment} {payload : String} {nowMs : UInt64}
    {document : UnsignedQrDocument} {publicKey : List UInt8}
    (h : verifyQr env payload nowMs = .ok (document, publicKey)) :
    ∃ signature, Signs env payload document publicKey signature := by
  have helim {value : Option (List UInt8)} {error : P2Error} {bytes : List UInt8}
      (hvalue : (value.elim (.error error) .ok : Except P2Error (List UInt8)) = .ok bytes) :
      value = some bytes := by
    cases value with
    | none => cases hvalue
    | some => exact congrArg some (Except.ok.inj hvalue)
  simp only [verifyQr, bind_eq_ok, mapError_eq_ok, check_eq_ok] at h
  obtain ⟨-, -, signed, hparsed, -, -, key, hkey, -, -, -, -, signature, hsignature, -, -, -,
    hverified, hpure⟩ := h
  cases hpure
  exact ⟨signature, ⟨signed, hparsed, rfl, helim hsignature⟩, helim hkey, hverified⟩

/-- **The signature covers every field of an invitation.** The text that is signed determines the
document, and the fields of an accepted invitation are those of the one document whose text was
verified under the returned key. -/
theorem signature_covers_invitation (env : QrEnvironment) (store : P2Store)
    (fault : Option String) (constraintError payload : String) (nowMs : UInt64) :
    Function.Injective canonicalUnsigned ∧
      ∀ invitation, (store.validateAndConsumeQr env fault constraintError payload nowMs).2 =
          .ok invitation →
        ∃ document signature, Signs env payload document invitation.hostPublicKey signature ∧
          invitation = document.invitation env.crypto invitation.hostPublicKey ∧
          ∀ other, asBytes (canonicalUnsigned other) = asBytes (canonicalUnsigned document) →
            other = document := by
  refine ⟨canonicalUnsigned_injective, fun invitation h => ?_⟩
  obtain ⟨document, hverify, hinvitation, -⟩ := P2Store.validateAndConsumeQr_spec h
  obtain ⟨signature, hsigns⟩ := verifyQr_eq_ok hverify
  refine ⟨document, signature, hsigns, hinvitation, fun other hother => ?_⟩
  have htext := congrArg fromUtf8 hother
  rw [fromUtf8_asBytes, fromUtf8_asBytes] at htext
  exact canonicalUnsigned_injective (Option.some.inj htext)

open InvitationScenario in
/-- An invitation that expires after one minute. -/
theorem signature_covers_invitation_minute :
    ∃ document signature, Signs environment "1" document [1] signature ∧
      invitation "1" = document.invitation environment.crypto [1] ∧
      ∀ other, asBytes (canonicalUnsigned other) = asBytes (canonicalUnsigned document) →
        other = document :=
  (signature_covers_invitation environment empty none "" "1" 60000).2 (invitation "1") rfl

end SilentDisco.P2
