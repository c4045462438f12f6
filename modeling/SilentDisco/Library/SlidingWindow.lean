import Mathlib

/-!
# Sliding windows

A set of numbers of which only the part near its greatest element is remembered: the window
holds the greatest element and a bit map of `w` bits. Bit `i` tells whether the number `i` below
the greatest one belongs to the set. A number that fell out of the window is taken to belong.

## Main definitions

* `SlidingWindow.Represents top seen s`: the window stands for the set `s`
* `SlidingWindow.Accepts w s n`: `n` is new, and not below the window

## Main results

* `SlidingWindow.accepts_of_lt`, `SlidingWindow.Represents.accepts_iff`: the verdict of a window
* `SlidingWindow.Represents.advance`, `SlidingWindow.Represents.mark`: the window after a number
  is added above, or in it
-/

namespace SlidingWindow

open BitVec

variable {w top n : ℕ} {seen : BitVec w} {s : Set ℕ}

/-- The greatest number and the bit map of a window stand for a set. -/
def Represents (top : Option ℕ) (seen : BitVec w) (s : Set ℕ) : Prop :=
  match top with
  | none => s = ∅
  | some top => IsGreatest s top ∧ ∀ i < w, seen.getLsbD i = true ↔ i ≤ top ∧ top - i ∈ s

@[simp] theorem represents_none : Represents none seen s ↔ s = ∅ := Iff.rfl

/-- The number is new, and less than `w` below the greatest one. -/
def Accepts (w : ℕ) (s : Set ℕ) (n : ℕ) : Prop := n ∉ s ∧ ∀ top, IsGreatest s top → top < n + w

/-! ## Verdicts -/

theorem getLsbD_shiftLeft_one {i j : ℕ} (hi : i < w) : (1#w <<< i).getLsbD j = decide (i = j) := by
  change (twoPow w i).getLsbD j = _
  simp [getLsbD_twoPow, hi]

/-- The mask of a bit selects it. -/
theorem and_shiftLeft_one_ne_zero {i : ℕ} (hi : i < w) :
    seen &&& (1#w <<< i) ≠ 0#w ↔ seen.getLsbD i = true := by
  have hmask : 1#w <<< i ≠ 0#w := by
    intro hzero
    have hbit := getLsbD_shiftLeft_one (j := i) hi
    rw [hzero] at hbit
    simp at hbit
  change seen &&& twoPow w i ≠ 0#w ↔ _
  rw [and_twoPow]
  split_ifs with hbit
  · exact iff_of_true hmask hbit
  · exact iff_of_false (fun hne => hne rfl) hbit

theorem accepts_empty : Accepts w ∅ n :=
  ⟨Set.notMem_empty n, fun _ htop => absurd htop.1 (Set.notMem_empty _)⟩

/-- A number above the window is accepted. -/
theorem accepts_of_lt (h : IsGreatest s top) (hlt : top < n) : Accepts w s n := by
  refine ⟨fun hmem => absurd (h.2 hmem) (not_le.mpr hlt), fun other hother => ?_⟩
  rw [hother.unique h]
  omega

/-- A number that is not above the window is accepted exactly if it is in the window and its bit
is clear. -/
theorem Represents.accepts_iff (h : Represents (some top) seen s) (hle : n ≤ top) :
    Accepts w s n ↔ top - n < w ∧ seen.getLsbD (top - n) = false := by
  obtain ⟨hgreatest, hbits⟩ := h
  have hback : top - (top - n) = n := Nat.sub_sub_self hle
  constructor
  · rintro ⟨hnew, hinside⟩
    have hlt : top - n < w := by
      have := hinside top hgreatest
      omega
    refine ⟨hlt, Bool.eq_false_iff.mpr fun hbit => hnew ?_⟩
    have hmem := ((hbits _ hlt).mp hbit).2
    rwa [hback] at hmem
  · rintro ⟨hlt, hclear⟩
    refine ⟨fun hmem => ?_, fun other hother => ?_⟩
    · have hbit := (hbits _ hlt).mpr ⟨Nat.sub_le top n, hback.symm ▸ hmem⟩
      exact absurd hbit (Bool.eq_false_iff.mp hclear)
    · rw [hother.unique hgreatest]
      omega

/-! ## Updates -/

/-- The first number of a window. -/
theorem represents_singleton (hw : 0 < w) : Represents (some n) (1#w) {n} := by
  refine ⟨isGreatest_singleton, fun i hi => ?_⟩
  simp only [getLsbD_one, Set.mem_singleton_iff]
  simp [hw]
  omega

/-- A number above the window becomes its greatest one. -/
theorem Represents.advance (h : Represents (some top) seen s) (hlt : top < n) :
    Represents (some n) (seen <<< (n - top) ||| 1#w) (insert n s) := by
  obtain ⟨hgreatest, hbits⟩ := h
  refine ⟨⟨Set.mem_insert n s, ?_⟩, fun i hi => ?_⟩
  · rintro other (rfl | hother)
    · exact le_rfl
    · exact (hgreatest.2 hother).trans hlt.le
  · rw [getLsbD_or, getLsbD_shiftLeft, getLsbD_one]
    rcases Nat.eq_zero_or_pos i with rfl | hpos
    · simp [hi]
    · have hother : n - i ≠ n := by omega
      rw [Set.mem_insert_iff, or_iff_right hother]
      by_cases hshifted : n - top ≤ i
      · have hback : top - (i - (n - top)) = n - i := by omega
        have hbit := hbits (i - (n - top)) (by omega)
        rw [hback] at hbit
        simp only [hi, not_lt.mpr hshifted, hpos.ne', decide_true, decide_false, Bool.not_false,
          Bool.true_and, Bool.and_false, Bool.or_false, hbit]
        exact and_congr_left' (by omega)
      · -- Between the old and the new greatest number there is none of the set.
        have hnone : ¬(i ≤ n ∧ n - i ∈ s) := fun hmem => by
          have := hgreatest.2 hmem.2
          omega
        simp [hnone, hi, not_le.mp hshifted, hpos.ne']

/-- A number in the window sets its bit. -/
theorem Represents.mark (h : Represents (some top) seen s) (hle : n ≤ top) (hlt : top - n < w) :
    Represents (some top) (seen ||| 1#w <<< (top - n)) (insert n s) := by
  obtain ⟨hgreatest, hbits⟩ := h
  refine ⟨⟨Set.mem_insert_of_mem n hgreatest.1, ?_⟩, fun i hi => ?_⟩
  · rintro other (rfl | hother)
    · exact hle
    · exact hgreatest.2 hother
  · rw [getLsbD_or, getLsbD_shiftLeft_one hlt, Bool.or_eq_true, hbits i hi,
      decide_eq_true_iff, Set.mem_insert_iff]
    constructor
    · rintro (⟨hi, hmem⟩ | rfl)
      · exact ⟨hi, .inr hmem⟩
      · exact ⟨Nat.sub_le top n, .inl (Nat.sub_sub_self hle)⟩
    · rintro ⟨hi, hsame | hmem⟩
      · exact .inr (by omega)
      · exact .inl ⟨hi, hmem⟩

end SlidingWindow
