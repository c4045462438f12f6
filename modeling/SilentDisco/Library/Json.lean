import Mathlib

/-!
# Compact JSON

Printers of JSON without spaces, as lists of characters. A printed text was printed from one value,
if what follows it is not read as part of it, and its size is bounded by that of the value.

## Main definitions

* `Json.Unambiguous R print`: texts that go on as `R` allows determine what was printed
* `Json.number`, `Json.bool`, `Json.string`, `Json.array`: the printers

## Main results

* `Json.Unambiguous.append`, `Json.Unambiguous.literal`, `Json.Unambiguous.comap`: records
* `Json.unambiguous_number`, `Json.unambiguous_bool`, `Json.unambiguous_string`,
  `Json.unambiguous_array`: the printers can be read back
-/

namespace Json

variable {α β : Type}

/-- A text that was printed, and that goes on as `R` allows, determines what was printed. -/
def Unambiguous (R : List Char → Prop) (print : α → List Char) : Prop :=
  ∀ ⦃a b : α⦄ ⦃s t : List Char⦄, R s → R t → print a ++ s = print b ++ t → a = b ∧ s = t

section Unambiguous

variable {R R' : List Char → Prop} {print : α → List Char} {print' : β → List Char}

/-- One printer after another. -/
theorem Unambiguous.append (h : Unambiguous R print) (h' : Unambiguous R' print')
    (hnext : ∀ b s, R' s → R (print' b ++ s)) :
    Unambiguous R' fun value : α × β => print value.1 ++ print' value.2 := by
  rintro ⟨a, b⟩ ⟨c, d⟩ s t hs ht heq
  rw [List.append_assoc, List.append_assoc] at heq
  obtain ⟨rfl, hrest⟩ := h (hnext b s hs) (hnext d t ht) heq
  obtain ⟨rfl, hst⟩ := h' hs ht hrest
  exact ⟨rfl, hst⟩

/-- A fixed text before a printer. -/
theorem Unambiguous.literal (h : Unambiguous R print) (text : List Char) :
    Unambiguous R fun a => text ++ print a := by
  intro a b s t hs ht heq
  rw [List.append_assoc, List.append_assoc] at heq
  exact h hs ht (List.append_cancel_left heq)

/-- A fixed text after a printer. -/
theorem Unambiguous.close (h : Unambiguous R print) (text : List Char)
    (htext : ∀ s, R (text ++ s)) : Unambiguous (fun _ => True) fun a => print a ++ text := by
  intro a b s t _ _ heq
  rw [List.append_assoc, List.append_assoc] at heq
  obtain ⟨rfl, hrest⟩ := h (htext s) (htext t) heq
  exact ⟨rfl, List.append_cancel_left hrest⟩

theorem Unambiguous.comap (h : Unambiguous R print) {f : β → α} (hf : Function.Injective f) :
    Unambiguous R fun b => print (f b) := by
  intro a b s t hs ht heq
  obtain ⟨hab, hst⟩ := h hs ht heq
  exact ⟨hf hab, hst⟩

theorem Unambiguous.injective (h : Unambiguous (fun _ => True) print) :
    Function.Injective print := by
  intro a b heq
  exact (h trivial trivial (congrArg (· ++ []) heq)).1

end Unambiguous

/-! ## Numbers and truth values -/

def number (n : ℕ) : List Char := Nat.toDigits 10 n

/-- The text does not go on with a digit. -/
def NoDigit (s : List Char) : Prop := ∀ c ∈ s.head?, c.isDigit = false

theorem takeWhile_number (n : ℕ) {s : List Char} (hs : NoDigit s) :
    (number n ++ s).takeWhile Char.isDigit = number n := by
  have hdigits : ∀ c ∈ number n, c.isDigit = true := fun c hc =>
    Nat.isDigit_of_mem_toDigits (by decide) le_rfl hc
  rw [List.takeWhile_append_of_pos hdigits]
  cases s with
  | nil => exact List.append_nil _
  | cons c =>
    rw [List.takeWhile_cons_of_neg (by rw [hs c rfl]; exact Bool.false_ne_true), List.append_nil]

theorem unambiguous_number : Unambiguous NoDigit number := by
  intro m n s t hs ht heq
  have hdigits : number m = number n := by
    rw [← takeWhile_number m hs, heq, takeWhile_number n ht]
  have hmn : m = n := by
    rw [← Nat.ofDigitChars_ten_toDigits (n := m), ← Nat.ofDigitChars_ten_toDigits (n := n)]
    exact congrArg (Nat.ofDigitChars 10 · 0) hdigits
  subst hmn
  exact ⟨rfl, List.append_cancel_left heq⟩

theorem noDigit_cons {c : Char} (h : c.isDigit = false) (s : List Char) : NoDigit (c :: s) := by
  rintro d ⟨⟩
  exact h

theorem noDigit_append {c : Char} {text : List Char} (hhead : text.head? = some c)
    (h : c.isDigit = false) (s : List Char) : NoDigit (text ++ s) := by
  obtain ⟨rest, rfl⟩ := List.head?_eq_some_iff.mp hhead
  exact noDigit_cons h (rest ++ s)

/-- A number begins with a digit. -/
theorem head?_number_append {c : Char} (h : c.isDigit = false) {n : ℕ} (s : List Char) :
    (number n ++ s).head? ≠ some c := by
  intro hhead
  have hne : number n ≠ [] := Nat.toDigits_ne_nil
  have hnumber : (number n).head? = some c := by rwa [List.head?_append_of_ne_nil _ hne] at hhead
  have hdigit := Nat.isDigit_of_mem_toDigits (by decide) le_rfl (List.mem_of_head? hnumber)
  rw [h] at hdigit
  cases hdigit

def bool (b : Bool) : List Char := if b then "true".toList else "false".toList

theorem unambiguous_bool : Unambiguous (fun _ => True) bool := by
  intro a b s t _ _ heq
  cases a <;> cases b <;> simp_all [bool]

/-! ## Strings -/

/-- A control character, after the backslash. -/
def escapeControl : ℕ → List Char
  | 8 => ['b']
  | 9 => ['t']
  | 10 => ['n']
  | 12 => ['f']
  | 13 => ['r']
  | n => ['u', '0', '0', Nat.digitChar (n / 16), Nat.digitChar (n % 16)]

/-- A character of a string. -/
def escape (c : Char) : List Char :=
  if c = '"' then ['\\', '"']
  else if c = '\\' then ['\\', '\\']
  else if c.toNat < 32 then '\\' :: escapeControl c.toNat
  else [c]

/-- The characters of a string and the quote that closes it. -/
def characters (cs : List Char) : List Char := cs.flatMap escape ++ ['"']

def string (s : String) : List Char := '"' :: characters s.toList

def hexValue (c : Char) : ℕ := if c.isDigit then c.toNat - 48 else c.toNat - 87

/-- Read a control character, after the backslash. -/
def controlOf : List Char → Option (Char × List Char)
  | 'b' :: s => some (Char.ofNat 8, s)
  | 't' :: s => some (Char.ofNat 9, s)
  | 'n' :: s => some (Char.ofNat 10, s)
  | 'f' :: s => some (Char.ofNat 12, s)
  | 'r' :: s => some (Char.ofNat 13, s)
  | 'u' :: _ :: _ :: high :: low :: s => some (Char.ofNat (hexValue high * 16 + hexValue low), s)
  | _ => none

/-- Read a character. -/
def unescape : List Char → Option (Char × List Char)
  | [] => none
  | c :: s =>
    if c ≠ '\\' then some (c, s)
    else if s.head? = some '"' ∨ s.head? = some '\\' then s.head?.map (·, s.tail)
    else controlOf s

theorem unescape_control {n : ℕ} (hn : n < 32) (s : List Char) :
    unescape ('\\' :: (escapeControl n ++ s)) = some (Char.ofNat n, s) := by
  interval_cases n <;> rfl

theorem unescape_escape (c : Char) (s : List Char) : unescape (escape c ++ s) = some (c, s) := by
  unfold escape
  split_ifs with hquote hbackslash hcontrol
  · rw [hquote]
    rfl
  · rw [hbackslash]
    rfl
  · have hread := unescape_control hcontrol s
    rwa [Char.ofNat_toNat] at hread
  · exact if_pos hbackslash

/-- A character is not taken for the closing quote. -/
theorem head?_escape_append (c : Char) (s : List Char) : (escape c ++ s).head? ≠ some '"' := by
  unfold escape
  split_ifs with hquote hbackslash hcontrol
  · simp
  · simp
  · simp
  · simpa using hquote

theorem characters_cons (c : Char) (cs : List Char) :
    characters (c :: cs) = escape c ++ characters cs := by
  rw [characters, List.flatMap_cons, List.append_assoc]
  rfl

theorem unambiguous_characters : Unambiguous (fun _ => True) characters := by
  intro cs ds s t _ _ heq
  induction cs generalizing ds with
  | nil =>
    cases ds with
    | nil => exact ⟨rfl, (List.cons.inj heq).2⟩
    | cons d =>
      rw [characters_cons, List.append_assoc] at heq
      exact absurd (congrArg List.head? heq).symm (head?_escape_append d _)
  | cons c cs ih =>
    rw [characters_cons, List.append_assoc] at heq
    cases ds with
    | nil => exact absurd (congrArg List.head? heq) (head?_escape_append c _)
    | cons =>
      rw [characters_cons, List.append_assoc] at heq
      have hread := congrArg unescape heq
      rw [unescape_escape, unescape_escape] at hread
      obtain ⟨rfl, hrest⟩ := Prod.mk.inj (Option.some.inj hread)
      obtain ⟨rfl, hst⟩ := ih hrest
      exact ⟨rfl, hst⟩

theorem unambiguous_string : Unambiguous (fun _ => True) string :=
  (unambiguous_characters.comap fun _ _ h => String.toList_injective h).literal ['"']

/-! ## Arrays -/

/-- The elements of an array after the first one, and the bracket that closes it. -/
def elements (print : α → List Char) : List α → List Char
  | [] => [']']
  | x :: xs => ',' :: (print x ++ elements print xs)

def array (print : α → List Char) : List α → List Char
  | [] => ['[', ']']
  | x :: xs => '[' :: (print x ++ elements print xs)

section Array

variable {R : List Char → Prop} {print : α → List Char}

theorem elements_allowed (hcomma : ∀ s, R (',' :: s)) (hbracket : ∀ s, R (']' :: s))
    (xs : List α) (s : List Char) : R (elements print xs ++ s) := by
  cases xs with
  | nil => exact hbracket s
  | cons => exact hcomma _

theorem elements_cons_append (x : α) (xs : List α) (s : List Char) :
    elements print (x :: xs) ++ s = ',' :: (print x ++ (elements print xs ++ s)) := by
  rw [elements, List.cons_append, List.append_assoc]

theorem array_cons_append (x : α) (xs : List α) (s : List Char) :
    array print (x :: xs) ++ s = '[' :: (print x ++ (elements print xs ++ s)) := by
  rw [array, List.cons_append, List.append_assoc]

theorem unambiguous_elements (h : Unambiguous R print) (hcomma : ∀ s, R (',' :: s))
    (hbracket : ∀ s, R (']' :: s)) : Unambiguous (fun _ => True) (elements print) := by
  intro xs ys s t _ _ heq
  induction xs generalizing ys with
  | nil =>
    cases ys with
    | nil => exact ⟨rfl, (List.cons.inj heq).2⟩
    | cons => exact absurd (List.cons.inj heq).1 (by decide)
  | cons x xs ih =>
    rw [elements_cons_append] at heq
    cases ys with
    | nil => exact absurd (List.cons.inj heq).1 (by decide)
    | cons y ys =>
      rw [elements_cons_append] at heq
      obtain ⟨rfl, hrest⟩ := h (elements_allowed hcomma hbracket xs s)
        (elements_allowed hcomma hbracket ys t) (List.cons.inj heq).2
      obtain ⟨rfl, hst⟩ := ih hrest
      exact ⟨rfl, hst⟩

/-- An array can be read back if no element is taken for the bracket that closes it. -/
theorem unambiguous_array (h : Unambiguous R print) (hcomma : ∀ s, R (',' :: s))
    (hbracket : ∀ s, R (']' :: s)) (hopen : ∀ x s, (print x ++ s).head? ≠ some ']') :
    Unambiguous (fun _ => True) (array print) := by
  intro xs ys s t hs ht heq
  cases xs with
  | nil =>
    cases ys with
    | nil => exact ⟨rfl, (List.cons.inj (List.cons.inj heq).2).2⟩
    | cons y =>
      rw [array_cons_append] at heq
      exact absurd (congrArg List.head? (List.cons.inj heq).2).symm (hopen y _)
  | cons x xs =>
    rw [array_cons_append] at heq
    cases ys with
    | nil => exact absurd (congrArg List.head? (List.cons.inj heq).2) (hopen x _)
    | cons y ys =>
      rw [array_cons_append] at heq
      obtain ⟨rfl, hrest⟩ := h (elements_allowed hcomma hbracket xs s)
        (elements_allowed hcomma hbracket ys t) (List.cons.inj heq).2
      obtain ⟨rfl, hst⟩ := unambiguous_elements h hcomma hbracket hs ht hrest
      exact ⟨rfl, hst⟩

end Array

/-! ## Sizes -/

theorem size_eq_length {cs : List Char} (h : ∀ c ∈ cs, c.utf8Size = 1) :
    String.utf8Len cs = cs.length := by
  induction cs with
  | nil => rfl
  | cons c cs ih =>
    rw [String.utf8Len_cons, ih fun d hd => h d (List.mem_cons_of_mem c hd),
      h c List.mem_cons_self, List.length_cons]

theorem size_append_le {s t : List Char} {m n : ℕ} (hs : String.utf8Len s ≤ m)
    (ht : String.utf8Len t ≤ n) : String.utf8Len (s ++ t) ≤ m + n := by
  rw [String.utf8Len_append]
  exact Nat.add_le_add hs ht

theorem utf8Size_of_isDigit {c : Char} (h : c.isDigit = true) : c.utf8Size = 1 := by
  have hle : c.toNat ≤ '9'.toNat := (Char.isDigit_iff_toNat.mp h).2
  exact Char.utf8Size_eq_one_iff.mpr (UInt32.le_iff_toNat_le.mpr (hle.trans (by decide)))

theorem size_number_le {n k : ℕ} (hk : 0 < k) (hn : n < 10 ^ k) :
    String.utf8Len (number n) ≤ k := by
  have hlength := (Nat.length_toDigits_le_iff (b := 10) (by decide) hk).mpr hn
  refine (size_eq_length fun c hc => utf8Size_of_isDigit ?_).trans_le hlength
  exact Nat.isDigit_of_mem_toDigits (by decide) le_rfl hc

theorem size_bool_le (b : Bool) : String.utf8Len (bool b) ≤ 5 := by
  cases b <;> decide

/-- Only control characters take more than one other character. -/
theorem size_escape_le {c : Char} (h : 32 ≤ c.toNat) :
    String.utf8Len (escape c) ≤ 2 * c.utf8Size := by
  have hpos := c.utf8Size_pos
  unfold escape
  split_ifs with hquote hbackslash hcontrol
  · rw [hquote]
    decide
  · rw [hbackslash]
    decide
  · omega
  · rw [String.utf8Len_cons, String.utf8Len_nil]
    omega

theorem size_characters_le {cs : List Char} (h : ∀ c ∈ cs, 32 ≤ c.toNat) :
    String.utf8Len (characters cs) ≤ 2 * String.utf8Len cs + 1 := by
  induction cs with
  | nil => decide
  | cons c cs ih =>
    have hc := size_escape_le (h c List.mem_cons_self)
    have hcs := ih fun d hd => h d (List.mem_cons_of_mem c hd)
    rw [characters_cons, String.utf8Len_append, String.utf8Len_cons]
    omega

theorem size_string_le {s : String} (h : ∀ c ∈ s.toList, 32 ≤ c.toNat) :
    String.utf8Len (string s) ≤ 2 * s.utf8ByteSize + 2 := by
  have hsize : s.utf8ByteSize = String.utf8Len s.toList := by
    rw [← String.utf8ByteSize_ofList, String.ofList_toList]
  have hquote : Char.utf8Size '"' = 1 := by decide
  have hcharacters := size_characters_le h
  rw [string, String.utf8Len_cons, hsize, hquote]
  omega

theorem size_elements_le {print : α → List Char} {xs : List α} {n : ℕ}
    (h : ∀ x ∈ xs, String.utf8Len (print x) ≤ n) :
    String.utf8Len (elements print xs) ≤ 1 + xs.length * (n + 1) := by
  induction xs with
  | nil => exact Nat.le_add_right 1 _
  | cons x xs ih =>
    have hcomma : Char.utf8Size ',' = 1 := by decide
    have hx := h x List.mem_cons_self
    have hxs := ih fun y hy => h y (List.mem_cons_of_mem x hy)
    rw [elements, String.utf8Len_cons, String.utf8Len_append, hcomma, List.length_cons, Nat.add_mul]
    omega

theorem size_array_le {print : α → List Char} {xs : List α} {n : ℕ}
    (h : ∀ x ∈ xs, String.utf8Len (print x) ≤ n) :
    String.utf8Len (array print xs) ≤ 2 + xs.length * (n + 1) := by
  cases xs with
  | nil => exact Nat.le_add_right 2 _
  | cons x =>
    have hbracket : Char.utf8Size '[' = 1 := by decide
    have hx := h x List.mem_cons_self
    have hxs := size_elements_le fun y hy => h y (List.mem_cons_of_mem x hy)
    rw [array, String.utf8Len_cons, String.utf8Len_append, hbracket, List.length_cons, Nat.add_mul]
    omega

end Json
