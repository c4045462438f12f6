import Mathlib

/-!
# Fallible computations

Inversion of the computations that fail with an error: a sequence succeeds exactly when its
parts do, and a check succeeds exactly when its condition holds.

## Main definitions

* `check`, `rejectIf`: fail unless, or if, a condition holds
* `Result.Returns P`: every value that a computation returns satisfies `P`

## Main results

* `Result.bind_eq_ok`, `Result.map_eq_ok`, `Result.mapError_eq_ok`: inversion of sequencing
* `Result.check_eq_ok`, `Result.rejectIf_eq_ok`: inversion of checks
* `Result.Returns.bind`, `Result.Returns.andThen`: postconditions of a sequence
-/

namespace Result

variable {ε ε' α β : Type}

/-- Fail with `e` unless `p` holds. -/
def check (p : Prop) [Decidable p] (e : ε) : Except ε Unit :=
  if p then .ok () else .error e

/-- Fail with `e` if `p` holds. -/
def rejectIf (p : Prop) [Decidable p] (e : ε) : Except ε Unit :=
  if p then .error e else .ok ()

@[simp] theorem bind_eq_ok {first : Except ε α} {rest : α → Except ε β} {value : β} :
    (first >>= rest) = .ok value ↔ ∃ a, first = .ok a ∧ rest a = .ok value := by
  rcases first with error | a <;> simp [bind, Except.bind]

@[simp] theorem map_eq_ok {result : Except ε α} {f : α → β} {value : β} :
    result.map f = .ok value ↔ ∃ a, result = .ok a ∧ f a = value := by
  rcases result with error | a <;> simp [Except.map]

@[simp] theorem mapError_eq_ok {result : Except ε α} {convert : ε → ε'} {value : α} :
    result.mapError convert = .ok value ↔ result = .ok value := by
  rcases result with error | a <;> simp [Except.mapError]

@[simp] theorem check_eq_ok {p : Prop} [Decidable p] {e : ε} {u : Unit} :
    check p e = .ok u ↔ p := by
  unfold check
  split_ifs with h <;> simp [h]

@[simp] theorem rejectIf_eq_ok {p : Prop} [Decidable p] {e : ε} {u : Unit} :
    rejectIf p e = .ok u ↔ ¬p := by
  unfold rejectIf
  split_ifs with h <;> simp [h]

theorem eq_ok_get {r : Except ε α} (h : r.toOption.isSome = true) : r = .ok (r.toOption.get h) := by
  cases r with
  | ok => rfl
  | error => cases h

/-! ## Postconditions -/

/-- Every value that a computation returns satisfies `P`; a failure returns none. -/
def Returns (P : α → Prop) (result : Except ε α) : Prop := ∀ a, result = .ok a → P a

namespace Returns

variable {P Q : α → Prop} {R : β → Prop} {a : α} {result : Except ε α} {rest : α → Except ε β}

theorem ok (h : P a) : Returns P (.ok a : Except ε α) := by
  rintro _ ⟨⟩
  exact h

theorem error {e : ε} : Returns P (.error e : Except ε α) := nofun

theorem imp (h : ∀ a, Q a → P a) (hresult : Returns Q result) : Returns P result :=
  fun a ha => h a (hresult a ha)

/-- What the first computation returns is what the rest may assume. -/
theorem bind (hresult : Returns Q result) (hrest : ∀ a, Q a → Returns R (rest a)) :
    Returns R (result >>= rest) := by
  intro b hb
  obtain ⟨a, ha, hb⟩ := bind_eq_ok.mp hb
  exact hrest a (hresult a ha) b hb

/-- A first computation of which nothing is known. -/
theorem andThen (hrest : ∀ a, Returns R (rest a)) : Returns R (result >>= rest) :=
  bind (Q := fun _ => True) (fun _ _ => trivial) fun a _ => hrest a

theorem ite {p : Prop} [Decidable p] {other : Except ε α} (hthen : p → Returns P result)
    (helse : ¬p → Returns P other) : Returns P (if p then result else other) := by
  split_ifs with h
  · exact hthen h
  · exact helse h

theorem check {p : Prop} [Decidable p] {e : ε} : Returns (fun _ => p) (Result.check p e) :=
  fun _ => check_eq_ok.mp

theorem rejectIf {p : Prop} [Decidable p] {e : ε} : Returns (fun _ => ¬p) (Result.rejectIf p e) :=
  fun _ => rejectIf_eq_ok.mp

theorem mapError {convert : ε → ε'} : Returns (result = .ok ·) (result.mapError convert) :=
  fun _ => mapError_eq_ok.mp

end Returns

end Result
