import Mathlib

/-!
# Runs of a state machine

A machine takes one input at a time and answers it with an output. A run is the list of its
inputs; `after` is the state a run leads to. A property of single steps holds *along* a run
when every step of the run has it, which also expresses a condition on the inputs of the run.

## Main definitions

* `Machine`: initial states and a step function
* `Machine.after`, `Machine.Reachable`: the state after a run, and the states after some run
* `Machine.outputs`, `Machine.record`: the outputs of a run, and a history variable of it
* `Machine.Along P`, `Machine.Sometime P`: every step, and some step, of a run satisfies `P`
* `Machine.Traces R`: the runs of a step relation
* `Ascends low xs high`: strictly increasing numbers between two bounds
* `loop body rounds`: at most `rounds` rounds of `body`

## Main results

* `Machine.invariant_after`, `Machine.Along.invariant`: a preserved property holds after a run
* `Machine.sometime_or_after`: what every step keeps unless it has `P` lasts, or some step has `P`
* `Machine.traces_of_step`: a machine whose steps are steps of a relation follows its traces
-/

structure Machine (σ ι ω : Type) where
  /-- The initial states. -/
  init : σ → Prop
  /-- The next state and the output. -/
  step : σ → ι → σ × ω

namespace Machine

variable {σ ι ω γ : Type} (M : Machine σ ι ω)

/-- The state after one input. -/
def next (s : σ) (x : ι) : σ := (M.step s x).1

/-- The output of one input. -/
def out (s : σ) (x : ι) : ω := (M.step s x).2

/-- The state after the inputs `xs`. -/
def after : σ → List ι → σ
  | s, [] => s
  | s, x :: xs => after (M.next s x) xs

/-- The states some run leads to. -/
def Reachable (s : σ) : Prop := ∃ s₀ xs, M.init s₀ ∧ M.after s₀ xs = s

/-- Every step of the run satisfies `P`, given the state before it and its input. -/
def Along (P : σ → ι → Prop) : σ → List ι → Prop
  | _, [] => True
  | s, x :: xs => P s x ∧ Along P (M.next s x) xs

/-- Some step of the run satisfies `P`, given the state before it and its input. -/
def Sometime (P : σ → ι → Prop) : σ → List ι → Prop
  | _, [] => False
  | s, x :: xs => P s x ∨ Sometime P (M.next s x) xs

/-- The outputs of a run. -/
def outputs : σ → List ι → List ω
  | _, [] => []
  | s, x :: xs => M.out s x :: outputs (M.next s x) xs

/-- The outputs of the inputs of a run that satisfy `p`. -/
def outputsOf (p : ι → Bool) : σ → List ι → List ω
  | _, [] => []
  | s, x :: xs =>
    if p x then M.out s x :: outputsOf p (M.next s x) xs else outputsOf p (M.next s x) xs

/-- The value of a history variable after a run, updated from the state before each step and its
input. -/
def record (update : γ → σ → ι → γ) : γ → σ → List ι → γ
  | g, _, [] => g
  | g, s, x :: xs => record update (update g s x) (M.next s x) xs

variable {M} {s : σ} {x : ι} {xs : List ι} {I K : σ → Prop} {G P Q : σ → ι → Prop}

@[simp] theorem after_nil (s : σ) : M.after s [] = s := rfl

@[simp] theorem after_cons (s : σ) (x : ι) (xs : List ι) :
    M.after s (x :: xs) = M.after (M.next s x) xs := rfl

theorem after_append (s : σ) (xs ys : List ι) :
    M.after s (xs ++ ys) = M.after (M.after s xs) ys := by
  induction xs generalizing s with
  | nil => rfl
  | cons x xs ih => exact ih _

theorem outputs_append (s : σ) (xs ys : List ι) :
    M.outputs s (xs ++ ys) = M.outputs s xs ++ M.outputs (M.after s xs) ys := by
  induction xs generalizing s with
  | nil => rfl
  | cons x xs ih => exact congrArg (M.out s x :: ·) (ih _)

theorem Reachable.of_init (h : M.init s) : M.Reachable s := ⟨s, [], h, rfl⟩

theorem Reachable.after (h : M.Reachable s) (xs : List ι) : M.Reachable (M.after s xs) := by
  obtain ⟨s₀, ys, h₀, rfl⟩ := h
  exact ⟨s₀, ys ++ xs, h₀, after_append s₀ ys xs⟩

theorem Reachable.next (h : M.Reachable s) (x : ι) : M.Reachable (M.next s x) :=
  h.after [x]

/-- A property that every step preserves holds after every run. -/
theorem invariant_after (hstep : ∀ s x, I s → I (M.next s x)) (hs : I s) (xs : List ι) :
    I (M.after s xs) := by
  induction xs generalizing s with
  | nil => exact hs
  | cons x xs ih => exact ih (hstep s x hs)

/-- A property that holds initially and is preserved by every step holds in every reachable
state. -/
theorem Reachable.invariant (h₀ : ∀ s, M.init s → I s) (hstep : ∀ s x, I s → I (M.next s x))
    {s : σ} (h : M.Reachable s) : I s := by
  obtain ⟨s₀, xs, hinit, rfl⟩ := h
  exact invariant_after hstep (h₀ s₀ hinit) xs

@[simp] theorem along_nil (P : σ → ι → Prop) (s : σ) : M.Along P s [] := trivial

@[simp] theorem along_cons : M.Along P s (x :: xs) ↔ P s x ∧ M.Along P (M.next s x) xs := Iff.rfl

instance decidableAlong {P : σ → ι → Prop} [∀ s x, Decidable (P s x)] :
    ∀ (s : σ) (xs : List ι), Decidable (M.Along P s xs)
  | _, [] => isTrue trivial
  | s, x :: xs => @instDecidableAnd _ _ _ (decidableAlong (M.next s x) xs)

/-- A run whose steps meet `G` keeps an invariant that the steps meeting `G` preserve, and
every step has the property the invariant and `G` imply. -/
theorem along_of_invariant (hstep : ∀ s x, I s → G s x → P s x ∧ I (M.next s x)) (hs : I s)
    (hG : M.Along G s xs) : M.Along P s xs := by
  induction xs generalizing s with
  | nil => trivial
  | cons x xs ih =>
    obtain ⟨hx, hxs⟩ := hG
    obtain ⟨hP, hI⟩ := hstep s x hs hx
    exact ⟨hP, ih hI hxs⟩

/-- A property that an invariant of every step implies holds along every run. -/
theorem along_of_preserved (hstep : ∀ s x, I s → P s x ∧ I (M.next s x)) (hs : I s) (xs : List ι) :
    M.Along P s xs := by
  induction xs generalizing s with
  | nil => trivial
  | cons x xs ih => exact (hstep s x hs).imp id ih

theorem along_append {xs ys : List ι} :
    M.Along P s (xs ++ ys) ↔ M.Along P s xs ∧ M.Along P (M.after s xs) ys := by
  induction xs generalizing s with
  | nil => simp
  | cons x xs ih => rw [List.cons_append, along_cons, along_cons, ih, after_cons, and_assoc]

/-- An invariant of the steps that meet `G` holds after a run of such steps. -/
theorem Along.invariant (hstep : ∀ s x, I s → G s x → I (M.next s x)) {s : σ} (hs : I s)
    {xs : List ι} (hG : M.Along G s xs) : I (M.after s xs) := by
  induction xs generalizing s with
  | nil => exact hs
  | cons x xs ih =>
    obtain ⟨hx, hxs⟩ := hG
    exact ih (hstep s x hs hx) hxs

/-- An invariant that also speaks of the number of steps. -/
theorem Along.invariant_length {I : ℕ → σ → Prop}
    (hstep : ∀ k s x, I k s → G s x → I (k + 1) (M.next s x)) {k : ℕ} (hs : I k s)
    (hG : M.Along G s xs) : I (k + xs.length) (M.after s xs) := by
  induction xs generalizing k s with
  | nil => exact hs
  | cons x xs ih =>
    obtain ⟨hx, hxs⟩ := hG
    have hnext := ih (hstep k s x hs hx) hxs
    rwa [Nat.add_assoc, Nat.add_comm 1] at hnext

instance decidableSometime {P : σ → ι → Prop} [∀ s x, Decidable (P s x)] :
    ∀ (s : σ) (xs : List ι), Decidable (M.Sometime P s xs)
  | _, [] => isFalse not_false
  | s, x :: xs => @instDecidableOr _ _ _ (decidableSometime (M.next s x) xs)

/-- If every step keeps `K` unless it satisfies `P`, then some step of a run satisfies `P`, or
`K` holds after it. -/
theorem sometime_or_after (hstep : ∀ s x, I s → G s x → I (M.next s x))
    (hkeep : ∀ s x, I s → G s x → K s → P s x ∨ K (M.next s x)) (hs : I s) (hK : K s)
    (hG : M.Along G s xs) : M.Sometime P s xs ∨ K (M.after s xs) := by
  induction xs generalizing s with
  | nil => exact .inr hK
  | cons x xs ih =>
    obtain ⟨hx, hxs⟩ := hG
    rcases hkeep s x hs hx hK with hP | hK'
    · exact .inl (.inl hP)
    · exact (ih (hstep s x hs hx) hK' hxs).imp .inr id

/-- What holds after a run held before it, or some step of the run introduced it. -/
theorem sometime_of_after (hstep : ∀ s x, K (M.next s x) → K s ∨ P s x) (hK : K (M.after s xs)) :
    K s ∨ M.Sometime P s xs := by
  induction xs generalizing s with
  | nil => exact .inl hK
  | cons x xs ih =>
    rcases ih hK with hnext | hlater
    · exact (hstep s x hnext).imp id .inl
    · exact .inr (.inr hlater)

/-- If every step keeps what is observed or increases its version, then so does every run: equal
versions of a run mean equal observations. -/
theorem version_after {α : Type} {version : σ → ℕ} {observe : σ → α}
    (hstep : ∀ s x, version s < version (M.next s x) ∨
      version (M.next s x) = version s ∧ observe (M.next s x) = observe s) (s : σ) (xs : List ι) :
    version s < version (M.after s xs) ∨
      version (M.after s xs) = version s ∧ observe (M.after s xs) = observe s := by
  induction xs generalizing s with
  | nil => exact .inr ⟨rfl, rfl⟩
  | cons x xs ih =>
    rcases hstep s x, ih (M.next s x) with ⟨hless | ⟨hsame, hseen⟩, hless' | ⟨hsame', hseen'⟩⟩
    · exact .inl (hless.trans hless')
    · exact .inl (hsame' ▸ hless)
    · exact .inl (hsame ▸ hless')
    · exact .inr ⟨hsame'.trans hsame, hseen'.trans hseen⟩

/-- If the inputs outside `p` keep a state related to the same one, and those in `p` are answered
alike in related states and keep them related, then the inputs in `p` are answered in a run as
in the run without the others. -/
theorem outputsOf_eq_outputs_filter {R : σ → σ → Prop} {p : ι → Bool}
    (houtside : ∀ s t x, R s t → p x = false → R (M.next s x) t)
    (hinside : ∀ s t x, R s t → G s x → p x = true →
      M.out s x = M.out t x ∧ R (M.next s x) (M.next t x)) {s t : σ} (hR : R s t)
    (hG : M.Along G s xs) : M.outputsOf p s xs = M.outputs t (xs.filter p) := by
  induction xs generalizing s t with
  | nil => rfl
  | cons x xs ih =>
    obtain ⟨hx, hxs⟩ := hG
    rw [outputsOf, List.filter_cons]
    cases hp : p x with
    | false => exact ih (houtside s t x hR hp) hxs
    | true =>
      obtain ⟨hout, hnext⟩ := hinside s t x hR hx hp
      exact congrArg₂ List.cons hout (ih hnext hxs)

theorem Along.imp (h : ∀ s x, G s x → P s x) (hG : M.Along G s xs) : M.Along P s xs :=
  along_of_invariant (I := fun _ => True) (fun s x _ hx => ⟨h s x hx, trivial⟩) trivial hG

theorem Along.and (hP : M.Along P s xs) (hQ : M.Along Q s xs) :
    M.Along (fun s x => P s x ∧ Q s x) s xs := by
  induction xs generalizing s with
  | nil => trivial
  | cons x xs ih => exact ⟨⟨hP.1, hQ.1⟩, ih hP.2 hQ.2⟩

/-- A condition on the inputs alone. -/
theorem along_of_forall {Q : ι → Prop} (h : ∀ x ∈ xs, Q x) : M.Along (fun _ x => Q x) s xs := by
  induction xs generalizing s with
  | nil => trivial
  | cons x xs ih =>
    obtain ⟨hx, hxs⟩ := List.forall_mem_cons.mp h
    exact ⟨hx, ih hxs⟩

theorem record_append (update : γ → σ → ι → γ) (g : γ) (s : σ) (xs ys : List ι) :
    M.record update g s (xs ++ ys) =
      M.record update (M.record update g s xs) (M.after s xs) ys := by
  induction xs generalizing g s with
  | nil => rfl
  | cons x xs ih => exact ih _ _

/-- An invariant of the state and a history variable, that the steps meeting `G` preserve. -/
theorem Along.invariant_record {update : γ → σ → ι → γ} {I : σ → γ → Prop}
    (hstep : ∀ s g x, I s g → G s x → I (M.next s x) (update g s x)) {g : γ} (h : I s g)
    (hG : M.Along G s xs) : I (M.after s xs) (M.record update g s xs) := by
  induction xs generalizing s g with
  | nil => exact h
  | cons x xs ih =>
    obtain ⟨hx, hxs⟩ := hG
    exact ih (hstep s g x h hx) hxs

/-- An invariant of the state and a history variable. -/
theorem invariant_record {update : γ → σ → ι → γ} {I : σ → γ → Prop}
    (hstep : ∀ s g x, I s g → I (M.next s x) (update g s x)) {g : γ} (h : I s g) (xs : List ι) :
    I (M.after s xs) (M.record update g s xs) :=
  Along.invariant_record (fun s g x hI _ => hstep s g x hI) h
    (along_of_forall (Q := fun _ => True) fun _ _ => trivial)

/-- Machines that take the same steps along a run agree on it. -/
theorem agree {M N : Machine σ ι ω}
    (hstep : ∀ s x, I s → G s x → M.step s x = N.step s x ∧ I (N.next s x)) (hs : I s)
    (hG : M.Along G s xs) : M.after s xs = N.after s xs ∧ M.outputs s xs = N.outputs s xs := by
  induction xs generalizing s with
  | nil => exact ⟨rfl, rfl⟩
  | cons x xs ih =>
    obtain ⟨hx, hxs⟩ := hG
    obtain ⟨heq, hI⟩ := hstep s x hs hx
    have hnext : M.next s x = N.next s x := congrArg Prod.fst heq
    rw [hnext] at hxs
    obtain ⟨hafter, houtputs⟩ := ih hI hxs
    rw [after_cons, after_cons, outputs, outputs, hnext]
    exact ⟨hafter, congrArg₂ List.cons (congrArg Prod.snd heq) houtputs⟩

/-- An invariant of the state and the outputs so far, that the steps meeting `G` preserve. -/
theorem Along.invariant_outputs {I : σ → List ω → Prop}
    (hstep : ∀ s os x, I s os → G s x → I (M.next s x) (os ++ [M.out s x])) {os : List ω}
    (h : I s os) (hG : M.Along G s xs) : I (M.after s xs) (os ++ M.outputs s xs) := by
  induction xs generalizing s os with
  | nil =>
    rw [outputs, List.append_nil]
    exact h
  | cons x xs ih =>
    obtain ⟨hx, hxs⟩ := hG
    have hnext := ih (hstep s os x h hx) hxs
    rw [List.append_assoc] at hnext
    exact hnext

/-- An invariant of the state and the outputs so far. -/
theorem invariant_outputs {I : σ → List ω → Prop}
    (hstep : ∀ s os x, I s os → I (M.next s x) (os ++ [M.out s x])) {os : List ω} (h : I s os)
    (xs : List ι) : I (M.after s xs) (os ++ M.outputs s xs) :=
  Along.invariant_outputs (fun s os x hI _ => hstep s os x hI) h
    (along_of_forall (Q := fun _ => True) fun _ _ => trivial)

/-- Two conditions on steps that agree under an invariant that one of them preserves. -/
theorem along_congr (hiff : ∀ s x, I s → (G s x ↔ P s x))
    (hstep : ∀ s x, I s → P s x → I (M.next s x)) (hs : I s) : M.Along G s xs ↔ M.Along P s xs := by
  induction xs generalizing s with
  | nil => exact Iff.rfl
  | cons x xs ih =>
    rw [along_cons, along_cons, hiff s x hs]
    exact and_congr_right fun hx => ih (hstep s x hs hx)

variable (M) in
/-- The machine that also updates a history variable from each step it observes. -/
def instrument (observe : γ → σ → ι → σ → γ) (g₀ : γ) : Machine (γ × σ) ι ω where
  init p := p.1 = g₀ ∧ M.init p.2
  step p x := ((observe p.1 p.2 x (M.next p.2 x), M.next p.2 x), M.out p.2 x)

section Instrument

variable {observe : γ → σ → ι → σ → γ} {g₀ : γ}

/-- A history variable does not change the run it observes. -/
theorem along_instrument {P : σ → ι → Prop} {p : γ × σ} {xs : List ι} :
    (M.instrument observe g₀).Along (fun p x => P p.2 x) p xs ↔ M.Along P p.2 xs := by
  induction xs generalizing p with
  | nil => exact Iff.rfl
  | cons x xs ih => exact and_congr_right fun _ => ih

end Instrument

/-! ## Refinement -/

/-- The runs of a step relation: their inputs and outputs, in order. -/
inductive Traces {τ : Type} (R : τ → ι → τ → ω → Prop) : τ → List ι → List ω → τ → Prop
  | nil (t : τ) : Traces R t [] [] t
  | cons {t t' t'' : τ} {x : ι} {o : ω} {xs : List ι} {os : List ω} (h : R t x t' o)
      (hrest : Traces R t' xs os t'') : Traces R t (x :: xs) (o :: os) t''

theorem traces_of_step {τ : Type} {R : τ → ι → τ → ω → Prop} {abs : σ → τ}
    (hstep : ∀ s x, R (abs s) x (abs (M.next s x)) (M.out s x)) (s : σ) (xs : List ι) :
    Traces R (abs s) xs (M.outputs s xs) (abs (M.after s xs)) := by
  induction xs generalizing s with
  | nil => exact .nil _
  | cons x xs ih => exact .cons (hstep s x) (ih _)

end Machine

/-! ## Ascending stamps -/

/-- Strictly increasing numbers from `low` on and below `high`. -/
structure Ascends (low : ℕ) (xs : List ℕ) (high : ℕ) : Prop where
  le : low ≤ high
  increasing : xs.Pairwise (· < ·)
  bounds : ∀ x ∈ xs, low ≤ x ∧ x < high

namespace Ascends

variable {low mid high : ℕ} {xs ys : List ℕ}

theorem nil (h : low ≤ high) : Ascends low [] high :=
  ⟨h, .nil, fun _ hx => absurd hx List.not_mem_nil⟩

theorem singleton {x : ℕ} (hlow : low ≤ x) (hhigh : x < high) : Ascends low [x] high := by
  refine ⟨by omega, List.pairwise_singleton _ _, fun y hy => ?_⟩
  obtain rfl := List.mem_singleton.mp hy
  exact ⟨hlow, hhigh⟩

theorem append (hxs : Ascends low xs mid) (hys : Ascends mid ys high) :
    Ascends low (xs ++ ys) high := by
  refine ⟨hxs.le.trans hys.le, List.pairwise_append.mpr ⟨hxs.increasing, hys.increasing, ?_⟩, ?_⟩
  · intro x hx y hy
    exact (hxs.bounds x hx).2.trans_le (hys.bounds y hy).1
  · intro x hx
    rcases List.mem_append.mp hx with hx | hx
    · exact (hxs.bounds x hx).imp_right fun h => h.trans_le hys.le
    · exact (hys.bounds x hx).imp_left hxs.le.trans

end Ascends

/-- If the stamps of every step lie between the clock before it and the clock after it, then the
stamps of a run ascend from one clock to the other. -/
theorem Machine.Along.ascends {σ ι ω : Type} {M : Machine σ ι ω} {I : σ → Prop}
    {G : σ → ι → Prop} (clock : σ → ℕ) (stamps : ω → List ℕ)
    (hstep : ∀ s x, I s → G s x →
      I (M.next s x) ∧ Ascends (clock s) (stamps (M.out s x)) (clock (M.next s x)))
    {s : σ} (hs : I s) {xs : List ι} (hG : M.Along G s xs) :
    Ascends (clock s) ((M.outputs s xs).flatMap stamps) (clock (M.after s xs)) := by
  induction xs generalizing s with
  | nil => exact .nil le_rfl
  | cons x xs ih =>
    obtain ⟨hx, hxs⟩ := hG
    obtain ⟨hI, hascends⟩ := hstep s x hs hx
    rw [outputs, List.flatMap_cons]
    exact hascends.append (ih hI hxs)

/-! ## Bounded loops -/

section Loops

variable {σ : Type} {body : σ → Option σ}

/-- At most `rounds` rounds of `body`. -/
def loop (body : σ → Option σ) : ℕ → σ → σ
  | 0, s => s
  | rounds + 1, s =>
    match body s with
    | none => s
    | some s' => loop body rounds s'

theorem loop_of_none {s : σ} (h : body s = none) (rounds : ℕ) : loop body rounds s = s := by
  cases rounds with
  | zero => rfl
  | succ => simp [loop, h]

theorem loop_succ {s s' : σ} (h : body s = some s') (rounds : ℕ) :
    loop body (rounds + 1) s = loop body rounds s' := by
  simp [loop, h]

/-- A reflexive relation that a round extends holds between the first and the last state, under
an invariant of the rounds. -/
theorem loop_rel {I : σ → Prop} {R : σ → σ → Prop} (hrefl : ∀ s, I s → R s s)
    (hround : ∀ s s' t, I s → body s = some s' → I s' ∧ (R s' t → R s t)) :
    ∀ (rounds : ℕ) {s : σ}, I s → I (loop body rounds s) ∧ R s (loop body rounds s)
  | 0, _, hs => ⟨hs, hrefl _ hs⟩
  | rounds + 1, s, hs => by
    cases hbody : body s with
    | none =>
      rw [loop_of_none hbody]
      exact ⟨hs, hrefl s hs⟩
    | some s' =>
      rw [loop_succ hbody]
      obtain ⟨hs', hextend⟩ := hround s s' (loop body rounds s') hs hbody
      obtain ⟨hlast, hR⟩ := loop_rel hrefl hround rounds hs'
      exact ⟨hlast, hextend hR⟩

/-- If every round decreases a measure, then as many rounds as the measure end the loop. -/
theorem loop_ends {I : σ → Prop} {measure : σ → ℕ}
    (hround : ∀ s s', I s → body s = some s' → I s' ∧ measure s' < measure s) :
    ∀ (rounds : ℕ) {s : σ}, I s → measure s ≤ rounds → body (loop body rounds s) = none
  | 0, s, hs, hmeasure => by
    cases hbody : body s with
    | none => exact hbody
    | some s' => exact absurd (hround s s' hs hbody).2 (by omega)
  | rounds + 1, s, hs, hmeasure => by
    cases hbody : body s with
    | none =>
      rw [loop_of_none hbody]
      exact hbody
    | some s' =>
      rw [loop_succ hbody]
      obtain ⟨hs', hless⟩ := hround s s' hs hbody
      exact loop_ends hround rounds hs' (by omega)

end Loops
