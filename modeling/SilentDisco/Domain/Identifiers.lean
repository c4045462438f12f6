import Mathlib

/-!
# Text and identifiers

Strings as the core sees them: UTF-8 bytes, whitespace trimming, control characters, and the
three bounded-text checks the records share. Opaque string identifiers are validated when they are
built, so the type of an identifier carries the proof that its text passed validation. Numeric
identifiers are 64-bit.

## Main definitions

* `asBytes`, `fromUtf8`: a string's UTF-8 bytes, and decoding them
* `validateToken`, `validateHumanText`, `validateBoundedText`: bounded-text checks, with the
  error each caller reports
* `Identifier kind`: a validated identifier; `SessionId`, `StreamId`, `DeviceId`, `RequestId`
  and `OperationId` are its kinds

## Main results

* `fromUtf8_asBytes`, `asBytes_of_fromUtf8`: decoding and encoding are inverse
* `Identifier.new_value`, `Identifier.new_eq_ok`: construction succeeds exactly on valid text
-/

namespace SilentDisco

section Text

variable {ε : Type}

variable (value : String)

/-- The UTF-8 bytes of a string. -/
def asBytes : List UInt8 := value.toByteArray.data.toList

/-- Decode UTF-8 bytes. -/
def fromUtf8 (bytes : List UInt8) : Option String := String.fromUTF8? ⟨bytes.toArray⟩

theorem fromUtf8_asBytes : fromUtf8 (asBytes value) = some value := by
  unfold fromUtf8 asBytes String.fromUTF8?
  simp only [Array.toArray_toList]
  rw [dif_pos value.isValidUTF8]
  rfl

theorem asBytes_of_fromUtf8 {bytes : List UInt8} {value : String}
    (h : fromUtf8 bytes = some value) : asBytes value = bytes := by
  unfold fromUtf8 String.fromUTF8? at h
  split_ifs at h with hv
  obtain rfl := Option.some.inj h
  rfl

/-- The Unicode `White_Space` property. -/
def isWhitespace (c : Char) : Bool :=
  let n := c.toNat
  (9 ≤ n && n ≤ 13) || n == 0x20 || n == 0x85 || n == 0xA0 || n == 0x1680 ||
    (0x2000 ≤ n && n ≤ 0x200A) || n == 0x2028 || n == 0x2029 || n == 0x202F || n == 0x205F ||
    n == 0x3000

/-- The Unicode general category `Cc`. -/
def isControl (c : Char) : Bool :=
  let n := c.toNat
  n < 0x20 || (0x7F ≤ n && n ≤ 0x9F)

/-- Remove leading and trailing whitespace. -/
def trim : String :=
  String.ofList ((value.toList.dropWhile isWhitespace).reverse.dropWhile isWhitespace).reverse

/-- Unpadded, bounded text without control or whitespace characters. -/
def validateToken (maximumBytes : ℕ) (error : ε) : Except ε Unit :=
  if value = "" ∨ trim value ≠ value ∨ value.utf8ByteSize > maximumBytes ∨
      value.toList.any (fun c => isControl c || isWhitespace c) then .error error
  else .ok ()

/-- Unpadded, bounded text without control characters. -/
def validateHumanText (maximumBytes : ℕ) (error : ε) : Except ε Unit :=
  if value = "" ∨ trim value ≠ value ∨ value.utf8ByteSize > maximumBytes ∨
      value.toList.any isControl then .error error
  else .ok ()

/-- Bounded text without NUL. -/
def validateBoundedText (maximumBytes : ℕ) (error : ε) : Except ε Unit :=
  if value = "" ∨ value.utf8ByteSize > maximumBytes ∨ value.toList.any (· == '\x00') then
    .error error
  else .ok ()

/-! ## Plain text

Identifiers and field values the core generates itself are printable ASCII without blanks,
which every text rule accepts. -/

/-- Nonempty printable ASCII without blanks. -/
def IsPlain : Prop :=
  value ≠ "" ∧ ∀ c ∈ value.toList, 0x21 ≤ c.toNat ∧ c.toNat ≤ 0x7E

instance (value : String) : Decidable (IsPlain value) := inferInstanceAs (Decidable (_ ∧ _))

section Plain

variable {value : String}

theorem IsPlain.not_isWhitespace (h : IsPlain value) {c : Char} (hc : c ∈ value.toList) :
    isWhitespace c = false := by
  have := h.2 c hc
  simp only [isWhitespace, Bool.or_eq_false_iff, Bool.and_eq_false_iff, decide_eq_false_iff_not,
    beq_eq_false_iff_ne]
  omega

theorem IsPlain.not_isControl (h : IsPlain value) {c : Char} (hc : c ∈ value.toList) :
    isControl c = false := by
  have := h.2 c hc
  simp only [isControl, Bool.or_eq_false_iff, Bool.and_eq_false_iff, decide_eq_false_iff_not]
  omega

private theorem dropWhile_eq_self {l : List Char} (h : ∀ c ∈ l, isWhitespace c = false) :
    l.dropWhile isWhitespace = l := by
  cases l with
  | nil => rfl
  | cons c => simp [h c (by simp)]

theorem IsPlain.trim_eq (h : IsPlain value) : trim value = value := by
  have hw : ∀ c ∈ value.toList, isWhitespace c = false := fun c => h.not_isWhitespace
  have hr : ∀ c ∈ value.toList.reverse, isWhitespace c = false := by simpa using hw
  rw [trim, dropWhile_eq_self hw, dropWhile_eq_self hr, List.reverse_reverse, String.ofList_toList]

theorem utf8ByteSize_ofList_of_ascii {l : List Char} (h : ∀ c ∈ l, c.toNat ≤ 0x7E) :
    (String.ofList l).utf8ByteSize = l.length := by
  induction l with
  | nil => rfl
  | cons c l ih =>
    have hc : c.utf8Size = 1 := Char.utf8Size_eq_one_iff.mpr (UInt32.le_iff_toNat_le.mpr
      (le_trans (h c (by simp)) (by decide)))
    rw [String.ofList_cons, String.utf8ByteSize_append, String.utf8ByteSize_singleton, hc,
      ih fun d hd => h d (by simp [hd]), List.length_cons, Nat.add_comm]

theorem IsPlain.utf8ByteSize_eq (h : IsPlain value) : value.utf8ByteSize = value.toList.length := by
  conv_lhs => rw [← @String.ofList_toList value]
  exact utf8ByteSize_ofList_of_ascii fun c hc => (h.2 c hc).2

theorem IsPlain.validateToken {maximumBytes : ℕ} (h : IsPlain value)
    (hl : value.toList.length ≤ maximumBytes) (error : ε) :
    validateToken value maximumBytes error = .ok () := by
  refine if_neg ?_
  rintro (he | ht | hb | ha)
  · exact h.1 he
  · exact ht h.trim_eq
  · exact absurd (h.utf8ByteSize_eq ▸ hb) (by omega)
  · obtain ⟨c, hc, hcc⟩ := List.any_eq_true.mp ha
    simp [h.not_isControl hc, h.not_isWhitespace hc] at hcc

theorem IsPlain.validateBoundedText {maximumBytes : ℕ} (h : IsPlain value)
    (hl : value.toList.length ≤ maximumBytes) (error : ε) :
    validateBoundedText value maximumBytes error = .ok () := by
  refine if_neg ?_
  rintro (he | hb | ha)
  · exact h.1 he
  · exact absurd (h.utf8ByteSize_eq ▸ hb) (by omega)
  · obtain ⟨c, hc, hcc⟩ := List.any_eq_true.mp ha
    obtain rfl := beq_iff_eq.mp hcc
    exact absurd (h.2 _ hc).1 (by decide)

/-- A plain stem followed by a decimal number is plain. -/
theorem isPlain_append_repr {stem : String} (h : ∀ c ∈ stem.toList, 0x21 ≤ c.toNat ∧ c.toNat ≤ 0x7E)
    (n : ℕ) : IsPlain (stem ++ n.repr) := by
  refine ⟨fun he => ?_, fun c hc => ?_⟩
  · have := congrArg String.toList he
    simp at this
  · rw [String.toList_append, Nat.toList_repr, List.mem_append] at hc
    rcases hc with hc | hc
    · exact h c hc
    · have := Nat.isDigit_of_mem_toDigits (by omega) (by omega) hc
      simp only [Char.isDigit, Bool.and_eq_true, decide_eq_true_eq, ge_iff_le,
        UInt32.le_iff_toNat_le] at this
      exact ⟨le_trans (by decide) this.1, le_trans this.2 (by decide)⟩

theorem length_append_repr_le (stem : String) {n : ℕ} (hn : n < 2 ^ 64) :
    (stem ++ n.repr).toList.length ≤ stem.toList.length + 20 := by
  rw [String.toList_append, Nat.toList_repr, List.length_append, Nat.add_le_add_iff_left,
    Nat.length_toDigits_le_iff (by omega) (by omega)]
  omega

end Plain

end Text

/-! ## Identifiers -/

/-- Maximum UTF-8 byte length of every identifier. -/
def maxIdentifierBytes : ℕ := 128

/-- Which identifier failed validation. -/
inductive IdentifierKind
  | session | stream | device | request | operation | diagnosticRun
  deriving DecidableEq

/-- Why an identifier is rejected. -/
inductive IdValidationReason
  | empty
  | tooLong (actualBytes maximumBytes : ℕ)
  | surroundingWhitespace
  | controlCharacter (byteIndex : ℕ)
  deriving DecidableEq

/-- A validation failure; it never holds the rejected value. -/
structure IdValidationError where
  identifierKind : IdentifierKind
  reason : IdValidationReason
  deriving DecidableEq

/-- The byte index of the first control character. -/
def controlCharacterIndex (value : String) : ℕ :=
  ((value.toList.takeWhile fun c => !isControl c).map Char.utf8Size).sum

/-- The check every identifier passes at construction. -/
def validateIdentifier (identifierKind : IdentifierKind) (value : String) :
    Except IdValidationError Unit :=
  if trim value = "" then .error ⟨identifierKind, .empty⟩
  else if value.utf8ByteSize > maxIdentifierBytes then
    .error ⟨identifierKind, .tooLong value.utf8ByteSize maxIdentifierBytes⟩
  else if trim value ≠ value then .error ⟨identifierKind, .surroundingWhitespace⟩
  else if value.toList.any isControl then
    .error ⟨identifierKind, .controlCharacter (controlCharacterIndex value)⟩
  else .ok ()

/-- A validated identifier. -/
structure Identifier (kind : IdentifierKind) where
  value : String
  valid : validateIdentifier kind value = .ok ()
  deriving DecidableEq

abbrev SessionId := Identifier .session
abbrev StreamId := Identifier .stream
abbrev DeviceId := Identifier .device
abbrev RequestId := Identifier .request
abbrev OperationId := Identifier .operation

/-- Build an identifier, or report why its text is rejected. -/
def Identifier.new (kind : IdentifierKind) (value : String) :
    Except IdValidationError (Identifier kind) :=
  match h : validateIdentifier kind value with
  | .ok () => .ok ⟨value, h⟩
  | .error e => .error e

variable {kind : IdentifierKind}

@[ext] theorem Identifier.ext {a b : Identifier kind} (h : a.value = b.value) : a = b := by
  cases a
  cases b
  simpa using h

theorem Identifier.new_eq_ok {value : String} {id : Identifier kind} :
    Identifier.new kind value = .ok id ↔ id.value = value := by
  constructor
  · intro h
    unfold Identifier.new at h
    split at h
    · obtain rfl := Except.ok.inj h
      rfl
    · cases h
  · rintro rfl
    unfold Identifier.new
    split
    · rfl
    · next e h => exact absurd (h.symm.trans id.valid) (by simp)

@[simp] theorem Identifier.new_value (id : Identifier kind) :
    Identifier.new kind id.value = .ok id :=
  Identifier.new_eq_ok.mpr rfl

theorem validateIdentifier_eq_ok {value : String} :
    validateIdentifier kind value = .ok () ↔
      trim value ≠ "" ∧ value.utf8ByteSize ≤ maxIdentifierBytes ∧ trim value = value ∧
        ∀ c ∈ value.toList, isControl c = false := by
  unfold validateIdentifier
  split_ifs <;> simp_all

instance decidableMem (id : Identifier kind) (ids : List (Identifier kind)) :
    Decidable (id ∈ ids) := inferInstance

theorem validateIdentifier_of_isPlain {value : String} (h : IsPlain value)
    (hl : value.toList.length ≤ maxIdentifierBytes) : validateIdentifier kind value = .ok () := by
  rw [validateIdentifier_eq_ok, h.trim_eq, h.utf8ByteSize_eq]
  exact ⟨h.1, hl, rfl, fun c hc => h.not_isControl hc⟩

/-- Milliseconds of a monotonic clock. -/
structure MonotonicMillis where
  get : UInt64
  deriving DecidableEq

/-- The position of a packet in its stream. -/
structure PacketSequence where
  get : UInt64
  deriving DecidableEq

/-- The position of a sample in its stream. -/
structure SampleIndex where
  get : UInt64
  deriving DecidableEq

namespace Scenario

theorem valid_session : validateIdentifier .session "session-1" = .ok () := by decide

theorem valid_stream : validateIdentifier .stream "stream-1" = .ok () := by decide

theorem valid_listener : validateIdentifier .device "listener-1" = .ok () := by decide

theorem valid_command : validateIdentifier .operation "command-1" = .ok () := by decide

theorem valid_effect1 : validateIdentifier .operation "effect-1" = .ok () := by decide

theorem valid_effect2 : validateIdentifier .operation "effect-2" = .ok () := by decide

theorem valid_effect3 : validateIdentifier .operation "effect-3" = .ok () := by decide

end Scenario

end SilentDisco
