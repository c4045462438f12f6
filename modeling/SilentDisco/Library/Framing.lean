import Mathlib

/-!
# Frames in a stream

A scanner looks at the beginning of a buffer: it finds a frame, it rejects what it sees, or it
waits for more. If its answer does not depend on what follows, then the frames of a stream do not
depend on how the stream arrives.

## Main definitions

* `Scan`: the answer of a scanner
* `Framing scan`: the answer does not depend on what follows
* `Starts scan stream frames rest`: the frames at the beginning of a stream, and the rest
* `Blocked scan rest`: no frame starts here, whatever follows

## Main results

* `Starts.append`, `Starts.trans`: a stream that goes on
* `Framing.exists_starts`, `Starts.isPrefix`, `Starts.unique`: a stream has a longest list of frames
-/

inductive Scan (φ ε : Type)
  | incomplete
  | rejected (error : ε)
  | frame (value : φ) (size : ℕ)
  deriving DecidableEq

variable {α φ ε : Type}

/-- What a scanner finds does not depend on what follows. -/
structure Framing (scan : List α → Scan φ ε) : Prop where
  empty : scan [] = .incomplete
  size_pos : ∀ {stream value size}, scan stream = .frame value size → 0 < size
  size_le : ∀ {stream value size}, scan stream = .frame value size → size ≤ stream.length
  append : ∀ {stream} more, scan stream ≠ .incomplete → scan (stream ++ more) = scan stream
  narrow : ∀ {stream more value size}, scan (stream ++ more) = .frame value size →
    size ≤ stream.length → scan stream = .frame value size

/-- The stream starts with the frames, and the rest follows. -/
inductive Starts (scan : List α → Scan φ ε) : List α → List (φ × ℕ) → List α → Prop
  | nil (rest : List α) : Starts scan rest [] rest
  | cons {stream rest : List α} {value : φ} {size : ℕ} {frames : List (φ × ℕ)}
      (hframe : scan stream = .frame value size)
      (hrest : Starts scan (stream.drop size) frames rest) :
      Starts scan stream ((value, size) :: frames) rest

/-- No frame starts here. -/
def Frameless (scan : List α → Scan φ ε) (rest : List α) : Prop :=
  ∀ value size, scan rest ≠ .frame value size

/-- No frame starts here, whatever follows. -/
def Blocked (scan : List α → Scan φ ε) (rest : List α) : Prop :=
  ∀ more, Frameless scan (rest ++ more)

variable {scan : List α → Scan φ ε} {stream rest rest' : List α} {frames frames' : List (φ × ℕ)}

theorem Framing.append_frame (hscan : Framing scan) {value : φ} {size : ℕ}
    (h : scan stream = .frame value size) (more : List α) :
    scan (stream ++ more) = .frame value size :=
  (hscan.append more (by simp [h])).trans h

theorem Framing.append_rejected (hscan : Framing scan) {error : ε}
    (h : scan stream = .rejected error) (more : List α) : scan (stream ++ more) = .rejected error :=
  (hscan.append more (by simp [h])).trans h

/-- What follows a stream follows the rest. -/
theorem Starts.append (hscan : Framing scan) (h : Starts scan stream frames rest)
    (more : List α) : Starts scan (stream ++ more) frames (rest ++ more) := by
  induction h with
  | nil => exact .nil _
  | cons hframe _ ih =>
    refine .cons (hscan.append_frame hframe more) ?_
    rw [List.drop_append_of_le_length (hscan.size_le hframe)]
    exact ih

theorem Starts.trans (h : Starts scan stream frames rest) (h' : Starts scan rest frames' rest') :
    Starts scan stream (frames ++ frames') rest' := by
  induction h with
  | nil => exact h'
  | cons hframe _ ih => exact .cons hframe (ih h')

/-- Frames up to a place where none starts are the longest list of frames. -/
theorem Starts.isPrefix (h : Starts scan stream frames rest) (hrest : Frameless scan rest)
    (h' : Starts scan stream frames' rest') : frames' <+: frames := by
  induction h generalizing frames' with
  | nil =>
    cases h' with
    | nil => exact List.prefix_rfl
    | cons hframe => exact absurd hframe (hrest _ _)
  | cons hframe _ ih =>
    cases h' with
    | nil => exact List.nil_prefix
    | cons hframe' htail =>
      obtain ⟨rfl, rfl⟩ := Scan.frame.inj (hframe.symm.trans hframe')
      exact (List.prefix_cons_inj _).mpr (ih hrest htail)

/-- Every stream has a longest list of frames. -/
theorem Framing.exists_starts (hscan : Framing scan) (stream : List α) :
    ∃ frames rest, Starts scan stream frames rest ∧ Frameless scan rest := by
  induction hlength : stream.length using Nat.strong_induction_on generalizing stream with
  | _ length ih =>
    by_cases hless : Frameless scan stream
    · exact ⟨[], stream, .nil stream, hless⟩
    · unfold Frameless at hless
      push Not at hless
      obtain ⟨value, size, hframe⟩ := hless
      have hpos := hscan.size_pos hframe
      have hle := hscan.size_le hframe
      obtain ⟨frames, rest, hstarts, hrest⟩ :=
        ih (stream.drop size).length (by rw [List.length_drop]; omega) _ rfl
      exact ⟨(value, size) :: frames, rest, .cons hframe hstarts, hrest⟩

theorem Starts.rest_eq (h : Starts scan stream frames rest) (h' : Starts scan stream frames rest') :
    rest = rest' := by
  induction h with
  | nil =>
    cases h'
    rfl
  | cons _ _ ih =>
    cases h' with
    | cons _ htail => exact ih htail

/-- The stream determines its frames. -/
theorem Starts.unique (h : Starts scan stream frames rest) (hrest : Frameless scan rest)
    (h' : Starts scan stream frames' rest') (hrest' : Frameless scan rest') :
    frames = frames' ∧ rest = rest' := by
  have hframes : frames = frames' :=
    (h'.isPrefix hrest' h).eq_of_length_le (h.isPrefix hrest h').length_le
  subst hframes
  exact ⟨rfl, h.rest_eq h'⟩

theorem frameless_of_incomplete (h : scan rest = .incomplete) : Frameless scan rest := by
  intro value size hframe
  cases h.symm.trans hframe

/-- What is rejected stays rejected. -/
theorem blocked_of_rejected (hscan : Framing scan) {error : ε} (h : scan rest = .rejected error) :
    Blocked scan rest := by
  intro more value size hframe
  cases (hscan.append_rejected h more).symm.trans hframe

/-- A buffer that is as long as any frame and still incomplete is not the beginning of one. -/
theorem blocked_of_long (hscan : Framing scan) (h : scan rest = .incomplete)
    (hlong : ∀ stream value size, scan stream = .frame value size → size ≤ rest.length) :
    Blocked scan rest := by
  intro more value size hframe
  have hnarrow := hscan.narrow hframe (hlong _ _ _ hframe)
  cases h.symm.trans hnarrow

theorem Framing.ne_nil_of_rejected (hscan : Framing scan) {error : ε}
    (h : scan rest = .rejected error) : rest ≠ [] := by
  rintro rfl
  cases hscan.empty.symm.trans h
