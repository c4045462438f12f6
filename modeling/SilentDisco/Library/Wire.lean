import SilentDisco.Library.Result

/-!
# Writers and cursor readers

A writer appends bytes to an output or fails; a reader advances a cursor over a fixed byte
string or fails. A writer and a reader form a *codec* when reading undoes writing and writing
undoes reading. Both directions compose field by field, so a message format is lawful once
its fields are.

## Main definitions

* `Writer`, `Reader`: appending writers and cursor readers over byte lists
* `Codec R S emb put get`: on values satisfying `S`, `get` reads back what `put` writes, and
  `put` rewrites what `get` reads; `R` constrains the bytes that follow
* `Emits put p n`: `put` succeeds exactly under `p`, with at most `n` bytes

## Main results

* `Codec.cons`, `Codec.last`, `Codec.triple`: a record codec from the codecs of its fields
* `Codec.decode_encode`, `Codec.encode_decode`: the two directions on whole inputs
* `Emits.then`, `Emits.require`, `Emits.encode_iff`: when a sequence of writers succeeds
-/

namespace Wire

variable {ε α β γ σ : Type} {bs : List UInt8}

/-! ## Big-endian words -/

/-- The `k` low bytes of `n`, most significant first. -/
def bigEndian : ℕ → ℕ → List UInt8
  | 0, _ => []
  | k + 1, n => bigEndian k (n / 256) ++ [UInt8.ofNat n]

/-- The number a big-endian byte string denotes. -/
def ofBigEndian (bs : List UInt8) : ℕ := bs.foldl (fun n b => n * 256 + b.toNat) 0

@[simp] theorem length_bigEndian (k n : ℕ) : (bigEndian k n).length = k := by
  induction k generalizing n with
  | zero => rfl
  | succ k ih => simp [bigEndian, ih]

theorem ofBigEndian_snoc (bs : List UInt8) (b : UInt8) :
    ofBigEndian (bs ++ [b]) = ofBigEndian bs * 256 + b.toNat := by
  simp [ofBigEndian]

theorem ofBigEndian_bigEndian (k n : ℕ) : ofBigEndian (bigEndian k n) = n % 256 ^ k := by
  induction k generalizing n with
  | zero => simp [bigEndian, ofBigEndian, Nat.mod_one]
  | succ k ih =>
    rw [bigEndian, ofBigEndian_snoc, ih, pow_succ, mul_comm (256 ^ k) 256, Nat.mod_mul]
    simp only [UInt8.toNat_ofNat']
    omega

theorem bigEndian_ofBigEndian (bs : List UInt8) : bigEndian bs.length (ofBigEndian bs) = bs := by
  induction bs using List.reverseRecOn with
  | nil => rfl
  | append_singleton bs b ih =>
    have hb : b.toNat < 256 := b.toNat_lt
    rw [List.length_append, List.length_singleton, bigEndian, ofBigEndian_snoc,
      show (ofBigEndian bs * 256 + b.toNat) / 256 = ofBigEndian bs by omega, ih]
    congr 2
    apply UInt8.toNat_inj.mp
    rw [UInt8.toNat_ofNat']
    omega

theorem ofBigEndian_lt (bs : List UInt8) : ofBigEndian bs < 256 ^ bs.length := by
  induction bs using List.reverseRecOn with
  | nil => simp [ofBigEndian]
  | append_singleton bs b =>
    have hb : b.toNat < 256 := b.toNat_lt
    rw [ofBigEndian_snoc, List.length_append, List.length_singleton, pow_succ]
    omega

/-! ## Writers and readers -/

/-- A computation that appends to an output or fails. -/
abbrev Writer (ε α : Type) := StateT (List UInt8) (Except ε) α

/-- A cursor over a fixed byte string. -/
structure Cursor where
  bytes : List UInt8
  position : ℕ
  deriving DecidableEq

/-- A computation that advances a cursor or fails. -/
abbrev Reader (ε α : Type) := StateT Cursor (Except ε) α

/-- The number of bytes after the cursor. -/
def Cursor.remaining (c : Cursor) : ℕ := c.bytes.length - c.position

/-- Append a byte string. -/
def putBytes (bs : List UInt8) : Writer ε Unit := fun out => .ok ((), out ++ bs)

/-- Read the next `n` bytes; fail with `truncated` when fewer remain. -/
def take (truncated : ε) (n : ℕ) : Reader ε (List UInt8) := fun c =>
  if c.position + n ≤ c.bytes.length then
    .ok ((c.bytes.drop c.position).take n, ⟨c.bytes, c.position + n⟩)
  else .error truncated

/-- Lift a state-independent result. -/
def ofResult {σ : Type} (x : Except ε α) : StateT σ (Except ε) α := fun s => x.map (·, s)

/-- Fail with `trailing` unless the cursor is at the end. -/
def finish (trailing : ε) : Reader ε Unit := fun c =>
  if c.remaining = 0 then .ok ((), c) else .error trailing

/-- Run a writer on the empty output. -/
def encode (put : Writer ε Unit) : Except ε (List UInt8) := (put []).map (·.2)

/-- Run a reader from the start of a byte string. -/
def decode (get : Reader ε α) (bs : List UInt8) : Except ε α := (get ⟨bs, 0⟩).map (·.1)

theorem bind_eq_ok {m : StateT σ (Except ε) α} {f : α → StateT σ (Except ε) β} {s t : σ} {b : β} :
    (m >>= f) s = .ok (b, t) ↔ ∃ a u, m s = .ok (a, u) ∧ f a u = .ok (b, t) := by
  change (m s >>= fun p => f p.1 p.2) = _ ↔ _
  cases h : m s with
  | error => simp [bind, Except.bind]
  | ok => simp [bind, Except.bind, Prod.ext_iff]

theorem pure_eq_ok {a b : α} {s t : σ} :
    (pure a : StateT σ (Except ε) α) s = .ok (b, t) ↔ a = b ∧ s = t := by
  change Except.ok (a, s) = _ ↔ _
  simp

theorem ofResult_eq_ok {x : Except ε α} {a : α} {s t : σ} :
    ofResult x s = .ok (a, t) ↔ x = .ok a ∧ s = t := by
  unfold ofResult
  cases x <;> simp [Except.map]

theorem ofResult_bind_eq_ok {x : Except ε α} {f : α → StateT σ (Except ε) β} {s : σ} {r : β × σ} :
    (ofResult x >>= f) s = .ok r ↔ ∃ a, x = .ok a ∧ f a s = .ok r := by
  constructor
  · intro h
    obtain ⟨a, _, hlift, hf⟩ := bind_eq_ok.mp h
    obtain ⟨hx, rfl⟩ := ofResult_eq_ok.mp hlift
    exact ⟨a, hx, hf⟩
  · rintro ⟨a, hx, hf⟩
    exact bind_eq_ok.mpr ⟨a, s, ofResult_eq_ok.mpr ⟨hx, rfl⟩, hf⟩

theorem putBytes_eq_ok {out out' : List UInt8} :
    (putBytes bs : Writer ε Unit) out = .ok ((), out') ↔ out' = out ++ bs := by
  simp [putBytes, eq_comm]

theorem take_eq_ok {e : ε} {n : ℕ} {c c' : Cursor} :
    take e n c = .ok (bs, c') ↔
      c.position + n ≤ c.bytes.length ∧ bs = (c.bytes.drop c.position).take n ∧
        c' = ⟨c.bytes, c.position + n⟩ := by
  unfold take
  split_ifs with h <;> simp [h, eq_comm]

theorem finish_eq_ok {e : ε} {c c' : Cursor} :
    finish e c = .ok ((), c') ↔ c.bytes.length ≤ c.position ∧ c' = c := by
  unfold finish Cursor.remaining
  split_ifs with h
  · simp [show c.bytes.length ≤ c.position by omega, eq_comm]
  · simp [show ¬ c.bytes.length ≤ c.position by omega]

theorem encode_eq_ok {put : Writer ε Unit} : encode put = .ok bs ↔ put [] = .ok ((), bs) := by
  unfold encode
  cases put [] <;> simp [Except.map, Prod.ext_iff]

theorem decode_eq_ok {get : Reader ε α} {a : α} :
    decode get bs = .ok a ↔ ∃ c, get ⟨bs, 0⟩ = .ok (a, c) := by
  unfold decode
  cases get ⟨bs, 0⟩ <;> simp [Except.map, Prod.ext_iff]

/-! ## When a writer succeeds -/

/-- `put` succeeds exactly under `p`, and then appends at most `n` bytes. -/
structure Emits (put : Writer ε Unit) (p : Prop) (n : ℕ) : Prop where
  writes : p → ∀ out, ∃ bs, put out = .ok ((), out ++ bs) ∧ bs.length ≤ n
  accepts : ∀ {out out'}, put out = .ok ((), out') → p

section Emits

variable {put rest : Writer ε Unit} {p q : Prop} {m n : ℕ}

theorem emits_putBytes {bs : List UInt8} (hbs : bs.length ≤ n) :
    Emits (putBytes bs : Writer ε Unit) True n where
  writes := fun _ _ => ⟨bs, rfl, hbs⟩
  accepts := fun _ => trivial

/-- One writer after another. -/
theorem Emits.then (hput : Emits put p m) (hrest : Emits rest q n) :
    Emits (put >>= fun _ => rest) (p ∧ q) (m + n) where
  writes := by
    rintro ⟨hp, hq⟩ out
    obtain ⟨bs, hfirst, hm⟩ := hput.writes hp out
    obtain ⟨bs', hlast, hn⟩ := hrest.writes hq (out ++ bs)
    refine ⟨bs ++ bs', bind_eq_ok.mpr ⟨(), _, hfirst, ?_⟩, ?_⟩
    · rw [hlast, List.append_assoc]
    · rw [List.length_append]
      exact Nat.add_le_add hm hn
  accepts := by
    intro out out' h
    obtain ⟨⟨⟩, middle, hfirst, hlast⟩ := bind_eq_ok.mp h
    exact ⟨hput.accepts hfirst, hrest.accepts hlast⟩

/-- A check before a writer, whose bytes are bounded where the check passes. -/
theorem Emits.require {x : Except ε Unit} (h : x = .ok () → Emits put p n) :
    Emits (ofResult x >>= fun _ => put) (x = .ok () ∧ p) n where
  writes := by
    rintro ⟨hx, hp⟩ out
    obtain ⟨bs, hput, hn⟩ := (h hx).writes hp out
    exact ⟨bs, ofResult_bind_eq_ok.mpr ⟨(), hx, hput⟩, hn⟩
  accepts := by
    intro out out' hput
    obtain ⟨⟨⟩, hx, hput⟩ := ofResult_bind_eq_ok.mp hput
    exact ⟨hx, (h hx).accepts hput⟩

theorem Emits.congr (h : Emits put p n) (hpq : p ↔ q) : Emits put q n :=
  propext hpq ▸ h

theorem Emits.mono (h : Emits put p m) (hle : p → m ≤ n) : Emits put p n where
  writes := by
    intro hp out
    obtain ⟨bs, hput, hm⟩ := h.writes hp out
    exact ⟨bs, hput, hm.trans (hle hp)⟩
  accepts := h.accepts

theorem Emits.encode_iff (h : Emits put p n) : (∃ bs, encode put = .ok bs ∧ bs.length ≤ n) ↔ p := by
  constructor
  · rintro ⟨bs, hbs, -⟩
    exact h.accepts (encode_eq_ok.mp hbs)
  · intro hp
    obtain ⟨bs, hput, hn⟩ := h.writes hp []
    exact ⟨bs, encode_eq_ok.mpr hput, hn⟩

end Emits

/-- `put` appends at most `n` bytes. -/
def AtMost (put : Writer ε Unit) (n : ℕ) : Prop :=
  ∀ out out', put out = .ok ((), out') → out'.length ≤ out.length + n

section AtMost

variable {put rest : Writer ε Unit} {m n : ℕ}

theorem atMost_putBytes {bs : List UInt8} (hbs : bs.length ≤ n) :
    AtMost (putBytes bs : Writer ε Unit) n := by
  intro out out' h
  rw [putBytes_eq_ok.mp h, List.length_append]
  exact Nat.add_le_add_left hbs _

theorem AtMost.then (hput : AtMost put m) (hrest : AtMost rest n) :
    AtMost (put >>= fun _ => rest) (m + n) := by
  intro out out' h
  obtain ⟨⟨⟩, middle, hfirst, hlast⟩ := bind_eq_ok.mp h
  have hm := hput out middle hfirst
  have hn := hrest middle out' hlast
  omega

/-- A check before a writer, which may bound its bytes. -/
theorem AtMost.require {x : Except ε Unit} (h : x = .ok () → AtMost put n) :
    AtMost (ofResult x >>= fun _ => put) n := by
  intro out out' hput
  obtain ⟨⟨⟩, hx, hput⟩ := ofResult_bind_eq_ok.mp hput
  exact h hx out out' hput

theorem AtMost.mono (h : AtMost put m) (hle : m ≤ n) : AtMost put n :=
  fun out out' hput => (h out out' hput).trans (Nat.add_le_add_left hle _)

theorem AtMost.length_le (h : AtMost put n) {bs : List UInt8} (hbs : encode put = .ok bs) :
    bs.length ≤ n :=
  (h [] bs (encode_eq_ok.mp hbs)).trans_eq (Nat.zero_add n)

end AtMost

/-! ## Codecs -/

/-- On the values satisfying `S`, `get` reads `emb v` back from the bytes `put v` appends, and
`put v` appends the bytes from which `get` reads `emb v`, whenever the bytes that follow
satisfy `R`. -/
structure Codec (R : List UInt8 → Prop) (S : α → Prop) (emb : α → β)
    (put : α → Writer ε Unit) (get : Reader ε β) : Prop where
  read_back : ∀ {v out out'}, S v → put v out = .ok ((), out') →
    ∃ bs, out' = out ++ bs ∧ ∀ pre rest, R rest →
      get ⟨pre ++ (bs ++ rest), pre.length⟩ =
        .ok (emb v, ⟨pre ++ (bs ++ rest), (pre ++ bs).length⟩)
  write_back : ∀ {pre suf w c}, get ⟨pre ++ suf, pre.length⟩ = .ok (w, c) →
    ∃ v bs rest, w = emb v ∧ S v ∧ suf = bs ++ rest ∧ R rest ∧
      c = ⟨pre ++ (bs ++ rest), (pre ++ bs).length⟩ ∧ ∀ out, put v out = .ok ((), out ++ bs)

/-- A codec for one field: no side condition, and any bytes may follow. -/
abbrev Field (put : α → Writer ε Unit) (get : Reader ε α) : Prop :=
  Codec (fun _ => True) (fun _ => True) id put get

/-- A fixed number of raw bytes is a codec on the byte strings of that length. -/
theorem codec_take (e : ε) (n : ℕ) :
    Codec (fun _ => True) (fun bs => bs.length = n) id (@putBytes ε) (take e n) where
  read_back := by
    intro v out out' hv h
    refine ⟨v, putBytes_eq_ok.mp h, fun pre rest _ => take_eq_ok.mpr ⟨?_, ?_, ?_⟩⟩
    · simp only [List.length_append]
      omega
    · simp [hv]
    · simp [hv]
  write_back := by
    intro pre suf w c h
    obtain ⟨hl, rfl, rfl⟩ := take_eq_ok.mp h
    simp only [List.length_append, Nat.add_le_add_iff_left] at hl
    refine ⟨suf.take n, suf.take n, suf.drop n, ?_, ?_, ?_, trivial, ?_, fun out => rfl⟩
    · simp
    · simpa using hl
    · simp
    · simp [hl]

variable {R : List UInt8 → Prop} {S : α → Prop} {emb : α → β} {put : α → Writer ε Unit}
  {get : Reader ε β}

/-- Transport a codec along a partial decoding of its values with a total inverse. -/
theorem Codec.refine {get : Reader ε α} (h : Codec R S id put get) (T : β → Prop)
    (parse : α → Except ε β) (print : β → α)
    (parse_print : ∀ b, T b → S (print b) ∧ parse (print b) = .ok b)
    (print_parse : ∀ a b, S a → parse a = .ok b → T b ∧ print b = a) :
    Codec R T id (fun b => put (print b)) (get >>= fun a => ofResult (parse a)) where
  read_back := by
    intro v out out' hv hp
    obtain ⟨bs, rfl, hget⟩ := h.read_back (parse_print v hv).1 hp
    refine ⟨bs, rfl, fun pre rest hr => bind_eq_ok.mpr ⟨_, _, hget pre rest hr, ?_⟩⟩
    exact ofResult_eq_ok.mpr ⟨(parse_print v hv).2, rfl⟩
  write_back := by
    intro pre suf w c hg
    obtain ⟨a, c', hget, hw⟩ := bind_eq_ok.mp hg
    obtain ⟨hparse, rfl⟩ := ofResult_eq_ok.mp hw
    obtain ⟨v, bs, rest, rfl, hv, rfl, hr, rfl, hput⟩ := h.write_back hget
    obtain ⟨hT, rfl⟩ := print_parse _ _ hv hparse
    exact ⟨w, bs, rest, rfl, hT, rfl, hr, rfl, hput⟩

/-- A check made before reading that every value of the codec passes. -/
theorem Codec.precheck (h : Codec R S emb put get) (x : Except ε Unit)
    (hx : ∀ v, S v → x = .ok ()) : Codec R S emb put (ofResult x >>= fun _ => get) where
  read_back := by
    intro v out out' hv hput
    obtain ⟨bs, rfl, hget⟩ := h.read_back hv hput
    exact ⟨bs, rfl, fun pre rest hr => ofResult_bind_eq_ok.mpr ⟨(), hx v hv, hget pre rest hr⟩⟩
  write_back := by
    intro pre suf w c hg
    obtain ⟨⟨⟩, -, hget⟩ := ofResult_bind_eq_ok.mp hg
    exact h.write_back hget

/-- A check made after reading restricts the codec to the values that pass it. -/
theorem Codec.postcheck (h : Codec R S emb put get) (x : β → Except ε Unit) :
    Codec R (fun v => S v ∧ x (emb v) = .ok ()) emb put
      (get >>= fun w => ofResult (x w) >>= fun _ => pure w) where
  read_back := by
    rintro v out out' ⟨hv, hx⟩ hput
    obtain ⟨bs, rfl, hg⟩ := h.read_back hv hput
    refine ⟨bs, rfl, fun pre rest hr => bind_eq_ok.mpr ⟨_, _, hg pre rest hr, ?_⟩⟩
    exact ofResult_bind_eq_ok.mpr ⟨(), hx, rfl⟩
  write_back := by
    intro pre suf w c hg
    obtain ⟨_, c₁, hget, hrest⟩ := bind_eq_ok.mp hg
    obtain ⟨⟨⟩, hx, hw⟩ := ofResult_bind_eq_ok.mp hrest
    obtain ⟨rfl, rfl⟩ := pure_eq_ok.mp hw
    obtain ⟨v, bs, rest, rfl, hv, rfl, hr, rfl, hp⟩ := h.write_back hget
    exact ⟨v, bs, rest, rfl, ⟨hv, hx⟩, rfl, hr, rfl, hp⟩

/-- A field whose value the format fixes, checked after it is read. -/
theorem Codec.literal {T : γ → Prop} {put : γ → Writer ε Unit} {get : Reader ε γ}
    (h : Codec (fun _ => True) T id put get) (proj : α → γ) (c : γ) (x : γ → Except ε Unit)
    (hT : T c) (hproj : ∀ v, S v → proj v = c) (hx : ∀ a, x a = .ok () ↔ a = c)
    {putRest : α → Writer ε Unit} {getRest : γ → Reader ε β}
    (hrest : Codec R S emb putRest (getRest c)) :
    Codec R S emb (fun v => put (proj v) >>= fun _ => putRest v)
      (get >>= fun a => ofResult (x a) >>= fun _ => getRest a) where
  read_back := by
    intro v out out' hv hp
    obtain ⟨⟨⟩, out₁, hp₁, hp₂⟩ := bind_eq_ok.mp hp
    rw [hproj v hv] at hp₁
    obtain ⟨bs₁, rfl, hg₁⟩ := h.read_back hT hp₁
    obtain ⟨bs₂, rfl, hg₂⟩ := hrest.read_back hv hp₂
    refine ⟨bs₁ ++ bs₂, List.append_assoc _ _ _, fun pre rest hr => bind_eq_ok.mpr ?_⟩
    refine ⟨c, _, by simpa using hg₁ pre (bs₂ ++ rest) trivial, ?_⟩
    refine ofResult_bind_eq_ok.mpr ⟨(), (hx c).mpr rfl, ?_⟩
    simpa using hg₂ (pre ++ bs₁) rest hr
  write_back := by
    intro pre suf w c' hg
    obtain ⟨a, c₁, hg₁, hg₂⟩ := bind_eq_ok.mp hg
    obtain ⟨⟨⟩, ha, hg₃⟩ := ofResult_bind_eq_ok.mp hg₂
    obtain rfl := (hx a).mp ha
    obtain ⟨_, bs₁, rest₁, rfl, -, rfl, -, rfl, hp₁⟩ := h.write_back hg₁
    rw [← List.append_assoc] at hg₃
    obtain ⟨v, bs₂, rest, rfl, hv, rfl, hr, rfl, hp₂⟩ := hrest.write_back hg₃
    refine ⟨v, bs₁ ++ bs₂, rest, rfl, hv, by simp, hr, by simp, fun out => ?_⟩
    refine bind_eq_ok.mpr ⟨(), _, ?_, by simpa using hp₂ (out ++ bs₁)⟩
    rw [hproj v hv]
    exact hp₁ out

/-- A first field followed by a codec for the rest of the record. -/
theorem Codec.cons (proj : α → γ) {put : γ → Writer ε Unit} {get : Reader ε γ} (h : Field put get)
    {putRest : α → Writer ε Unit} {getRest : γ → Reader ε β}
    (hrest : ∀ a, Codec R (fun v => S v ∧ proj v = a) emb putRest (getRest a)) :
    Codec R S emb (fun v => put (proj v) >>= fun _ => putRest v) (get >>= getRest) where
  read_back := by
    intro v out out' hv hp
    obtain ⟨⟨⟩, out₁, hp₁, hp₂⟩ := bind_eq_ok.mp hp
    obtain ⟨bs₁, rfl, hg₁⟩ := h.read_back trivial hp₁
    obtain ⟨bs₂, rfl, hg₂⟩ := (hrest (proj v)).read_back ⟨hv, rfl⟩ hp₂
    refine ⟨bs₁ ++ bs₂, List.append_assoc _ _ _, fun pre rest hr => bind_eq_ok.mpr ?_⟩
    refine ⟨proj v, _, by simpa using hg₁ pre (bs₂ ++ rest) trivial, ?_⟩
    simpa using hg₂ (pre ++ bs₁) rest hr
  write_back := by
    intro pre suf w c hg
    obtain ⟨a, c₁, hg₁, hg₂⟩ := bind_eq_ok.mp hg
    obtain ⟨_, bs₁, rest₁, rfl, -, rfl, -, rfl, hp₁⟩ := h.write_back hg₁
    rw [← List.append_assoc] at hg₂
    obtain ⟨v, bs₂, rest, rfl, ⟨hv, rfl⟩, rfl, hr, rfl, hp₂⟩ := (hrest _).write_back hg₂
    refine ⟨v, bs₁ ++ bs₂, rest, rfl, hv, by simp, hr, by simp, fun out => ?_⟩
    exact bind_eq_ok.mpr ⟨(), _, hp₁ out, by simpa using hp₂ (out ++ bs₁)⟩

/-- The last field of a record: the value is rebuilt from the fields read before. -/
theorem Codec.last (proj : α → γ) (mk : γ → α) {put : γ → Writer ε Unit} {get : Reader ε γ}
    (h : Codec R (fun _ => True) id put get) (hmk : ∀ a, S (mk a) ∧ proj (mk a) = a)
    (hS : ∀ v, S v → mk (proj v) = v) :
    Codec R S emb (fun v => put (proj v)) (get >>= fun a => pure (emb (mk a))) where
  read_back := by
    intro v out out' hv hp
    obtain ⟨bs, rfl, hg⟩ := h.read_back trivial hp
    refine ⟨bs, rfl, fun pre rest hr => bind_eq_ok.mpr ⟨_, _, hg pre rest hr, ?_⟩⟩
    exact pure_eq_ok.mpr ⟨by rw [id, hS v hv], rfl⟩
  write_back := by
    intro pre suf w c hg
    obtain ⟨a, c₁, hget, hw⟩ := bind_eq_ok.mp hg
    obtain ⟨rfl, rfl⟩ := pure_eq_ok.mp hw
    obtain ⟨_, bs, rest, rfl, -, rfl, hr, rfl, hp⟩ := h.write_back hget
    refine ⟨mk _, bs, rest, rfl, (hmk _).1, rfl, hr, rfl, fun out => ?_⟩
    rw [(hmk _).2]
    exact hp out

/-- A record of three fields. -/
theorem Codec.triple {γ₁ γ₂ γ₃ : Type} (mk : γ₁ → γ₂ → γ₃ → α) (proj₁ : α → γ₁) (proj₂ : α → γ₂)
    (proj₃ : α → γ₃) {put₁ : γ₁ → Writer ε Unit} {get₁ : Reader ε γ₁} {put₂ : γ₂ → Writer ε Unit}
    {get₂ : Reader ε γ₂} {put₃ : γ₃ → Writer ε Unit} {get₃ : Reader ε γ₃} (h₁ : Field put₁ get₁)
    (h₂ : Field put₂ get₂) (h₃ : Field put₃ get₃)
    (hproj : ∀ a b c, proj₁ (mk a b c) = a ∧ proj₂ (mk a b c) = b ∧ proj₃ (mk a b c) = c)
    (hmk : ∀ v, mk (proj₁ v) (proj₂ v) (proj₃ v) = v) :
    Codec (fun _ => True) (fun _ => True) emb
      (fun v => put₁ (proj₁ v) >>= fun _ => put₂ (proj₂ v) >>= fun _ => put₃ (proj₃ v))
      (get₁ >>= fun a => get₂ >>= fun b => get₃ >>= fun c => pure (emb (mk a b c))) := by
  refine Codec.cons proj₁ h₁ fun a => Codec.cons proj₂ h₂ fun b =>
    Codec.last proj₃ (mk a b) h₃ (fun c => ?_) ?_
  · obtain ⟨ha, hb, hc⟩ := hproj a b c
    exact ⟨⟨⟨trivial, ha⟩, hb⟩, hc⟩
  · rintro v ⟨⟨-, rfl⟩, rfl⟩
    exact hmk v

/-- Require the end of the input after a record. -/
theorem Codec.finish (h : Codec (fun _ => True) S emb put get) (e : ε) :
    Codec (· = []) S emb put (get >>= fun w => Wire.finish e >>= fun _ => pure w) where
  read_back := by
    intro v out out' hv hp
    obtain ⟨bs, rfl, hg⟩ := h.read_back hv hp
    refine ⟨bs, rfl, ?_⟩
    rintro pre _ rfl
    refine bind_eq_ok.mpr ⟨_, _, hg pre [] trivial, bind_eq_ok.mpr ⟨(), _, ?_, rfl⟩⟩
    exact finish_eq_ok.mpr ⟨by simp, rfl⟩
  write_back := by
    intro pre suf w c hg
    obtain ⟨_, c₁, hget, hf⟩ := bind_eq_ok.mp hg
    obtain ⟨⟨⟩, c₂, hend, hw⟩ := bind_eq_ok.mp hf
    obtain ⟨hl, rfl⟩ := finish_eq_ok.mp hend
    obtain ⟨rfl, rfl⟩ := pure_eq_ok.mp hw
    obtain ⟨v, bs, rest, rfl, hv, rfl, -, rfl, hp⟩ := h.write_back hget
    obtain rfl : rest = [] := List.length_eq_zero_iff.mp (by simpa using hl)
    exact ⟨v, bs, [], rfl, hv, rfl, rfl, rfl, hp⟩

/-- Checks made before writing that establish the condition on the values. -/
theorem Codec.require {put' : α → Writer ε Unit} (h : Codec R S emb put get)
    (hput : ∀ v out r, put' v out = .ok r ↔ S v ∧ put v out = .ok r) :
    Codec R (fun _ => True) emb put' get where
  read_back := by
    intro v out out' _ hp
    obtain ⟨hv, hp⟩ := (hput v out _).mp hp
    exact h.read_back hv hp
  write_back := by
    intro pre suf w c hg
    obtain ⟨v, bs, rest, rfl, hv, rfl, hr, rfl, hp⟩ := h.write_back hg
    exact ⟨v, bs, rest, rfl, trivial, rfl, hr, rfl, fun out => (hput v out _).mpr ⟨hv, hp out⟩⟩

/-- A check made before writing and after reading. -/
theorem Codec.guard (h : Codec R (fun _ => True) emb put get) (x : α → Except ε Unit)
    (y : β → Except ε Unit) (hxy : ∀ v, x v = .ok () ↔ y (emb v) = .ok ()) :
    Codec R (fun _ => True) emb (fun v => ofResult (x v) >>= fun _ => put v)
      (get >>= fun w => ofResult (y w) >>= fun _ => pure w) := by
  refine (h.postcheck y).require fun v out r => ?_
  simp only [ofResult_bind_eq_ok, Unique.exists_iff, true_and, ← hxy]

/-! ## Whole inputs -/

section Whole

variable {S : α → Prop} {emb : α → β} {put : α → Writer ε Unit} {get : Reader ε β}

theorem Codec.decode_encode (h : Codec (· = []) S emb put get) {v : α} {bs : List UInt8}
    (hv : S v) (he : encode (put v) = .ok bs) : decode get bs = .ok (emb v) := by
  obtain ⟨bs', hbs, hg⟩ := h.read_back hv (encode_eq_ok.mp he)
  obtain rfl : bs = bs' := by simpa using hbs
  exact decode_eq_ok.mpr ⟨_, by simpa using hg [] [] rfl⟩

theorem Codec.encode_decode (h : Codec (· = []) S emb put get) {w : β} {bs : List UInt8}
    (hd : decode get bs = .ok w) : ∃ v, w = emb v ∧ S v ∧ encode (put v) = .ok bs := by
  obtain ⟨c, hg⟩ := decode_eq_ok.mp hd
  change get ⟨[] ++ bs, ([] : List UInt8).length⟩ = _ at hg
  obtain ⟨v, bs', rest, rfl, hv, rfl, rfl, -, hp⟩ := h.write_back hg
  exact ⟨v, rfl, hv, encode_eq_ok.mpr (by simpa using hp [])⟩

end Whole

/-! ## Words -/

/-- Big-endian words of `k` bytes are a codec for any type of `256 ^ k` numbers. -/
theorem field_word (e : ε) (k : ℕ) (toNat : α → ℕ) (ofNat : ℕ → α)
    (toNat_lt : ∀ a, toNat a < 256 ^ k) (ofNat_toNat : ∀ a, ofNat (toNat a) = a)
    (toNat_ofNat : ∀ n, n < 256 ^ k → toNat (ofNat n) = n) :
    Field (fun a => putBytes (bigEndian k (toNat a)))
      (take e k >>= fun bs => pure (ofNat (ofBigEndian bs))) := by
  refine (codec_take e k).refine _ (fun bs => .ok (ofNat (ofBigEndian bs)))
    (fun a => bigEndian k (toNat a)) (fun a _ => ⟨length_bigEndian k _, ?_⟩) ?_
  · rw [ofBigEndian_bigEndian, Nat.mod_eq_of_lt (toNat_lt a), ofNat_toNat]
  · rintro bs _ rfl ⟨⟩
    rw [toNat_ofNat _ (ofBigEndian_lt bs), bigEndian_ofBigEndian]
    exact ⟨trivial, rfl⟩

end Wire
