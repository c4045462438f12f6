import Mathlib

/-!
# Blocks of one width

A list cut from its front into full blocks of one width, and what is left. A list that arrives
in pieces can be cut piece by piece: what is left of one piece is put in front of the next.

## Main definitions

* `Blocks.full`, `Blocks.rest`: the full blocks, and what is left
* `Blocks.padded`: all blocks, the last one padded

## Main results

* `Blocks.full_append`, `Blocks.rest_append`: cutting piece by piece
* `Blocks.flatten_padded`: the padded blocks are the list and less than one block of padding
-/

namespace Blocks

variable {α : Type} {width : ℕ} {xs : List α}

/-- The full blocks at the front of a list. -/
def full (width : ℕ) (xs : List α) : List (List α) :=
  if 0 < width ∧ width ≤ xs.length then xs.take width :: full width (xs.drop width) else []
termination_by xs.length
decreasing_by
  rw [List.length_drop]
  omega

/-- What follows the full blocks. -/
def rest (width : ℕ) (xs : List α) : List α :=
  if 0 < width ∧ width ≤ xs.length then rest width (xs.drop width) else xs
termination_by xs.length
decreasing_by
  rw [List.length_drop]
  omega

theorem full_of_lt (h : xs.length < width) : full width xs = [] := by
  rw [full, if_neg fun hcut => absurd hcut.2 (Nat.not_le.mpr h)]

theorem rest_of_lt (h : xs.length < width) : rest width xs = xs := by
  rw [rest, if_neg fun hcut => absurd hcut.2 (Nat.not_le.mpr h)]

theorem full_of_le (hpos : 0 < width) (h : width ≤ xs.length) :
    full width xs = xs.take width :: full width (xs.drop width) := by
  rw [full, if_pos ⟨hpos, h⟩]

theorem rest_of_le (hpos : 0 < width) (h : width ≤ xs.length) :
    rest width xs = rest width (xs.drop width) := by
  rw [rest, if_pos ⟨hpos, h⟩]

/-- A list that continues is cut where it was, and then from what was left. -/
theorem full_append (xs ys : List α) :
    full width (xs ++ ys) = full width xs ++ full width (rest width xs ++ ys) := by
  fun_induction full width xs with
  | case1 xs hcut ih =>
    have hle : width ≤ (xs ++ ys).length := by
      rw [List.length_append]
      omega
    rw [full_of_le hcut.1 hle, rest_of_le hcut.1 hcut.2, List.take_append_of_le_length hcut.2,
      List.drop_append_of_le_length hcut.2, ih, List.cons_append]
  | case2 xs hcut => rw [rest, if_neg hcut, List.nil_append]

theorem rest_append (xs ys : List α) :
    rest width (xs ++ ys) = rest width (rest width xs ++ ys) := by
  fun_induction rest width xs with
  | case1 xs hcut ih =>
    have hle : width ≤ (xs ++ ys).length := by
      rw [List.length_append]
      omega
    rw [rest_of_le hcut.1 hle, List.drop_append_of_le_length hcut.2, ih]
  | case2 => rfl

theorem length_rest_lt (hpos : 0 < width) (xs : List α) : (rest width xs).length < width := by
  fun_induction rest width xs with
  | case1 xs hcut ih => exact ih
  | case2 xs hcut => exact Nat.lt_of_not_le fun hle => hcut ⟨hpos, hle⟩

/-- The blocks and what is left are the list. -/
theorem flatten_full (width : ℕ) (xs : List α) : (full width xs).flatten ++ rest width xs = xs := by
  fun_induction full width xs with
  | case1 xs hcut ih =>
    rw [rest_of_le hcut.1 hcut.2, List.flatten_cons, List.append_assoc, ih, List.take_append_drop]
  | case2 xs hcut => rw [rest, if_neg hcut, List.flatten_nil, List.nil_append]

theorem length_of_mem_full {block : List α} (h : block ∈ full width xs) : block.length = width := by
  fun_induction full width xs with
  | case1 xs hcut ih =>
    rcases List.mem_cons.mp h with rfl | hmem
    · exact List.length_take_of_le hcut.2
    · exact ih hmem
  | case2 => exact absurd h List.not_mem_nil

/-- The length of a list, counted in blocks. -/
theorem length_eq (width : ℕ) (xs : List α) :
    (full width xs).length * width + (rest width xs).length = xs.length := by
  fun_induction full width xs with
  | case1 xs hcut ih =>
    rw [List.length_drop] at ih
    rw [rest_of_le hcut.1 hcut.2, List.length_cons, Nat.add_mul, Nat.one_mul]
    omega
  | case2 xs hcut => rw [rest, if_neg hcut, List.length_nil, Nat.zero_mul, Nat.zero_add]

/-- Padding of the last block: none if nothing is left. -/
def padding (width : ℕ) (xs : List α) : ℕ :=
  if rest width xs = [] then 0 else width - (rest width xs).length

/-- The blocks of a list, the last one padded. -/
def padded (width : ℕ) (pad : α) (xs : List α) : List (List α) :=
  if rest width xs = [] then full width xs
  else full width xs ++ [rest width xs ++ List.replicate (padding width xs) pad]

theorem padding_lt (hpos : 0 < width) (xs : List α) : padding width xs < width := by
  unfold padding
  split_ifs with hrest
  · exact hpos
  · exact Nat.sub_lt hpos (List.length_pos_iff.mpr hrest)

/-- Padding keeps a divisor of the width and of the list's length. -/
theorem dvd_padding {n : ℕ} (hwidth : n ∣ width) (hxs : n ∣ xs.length) : n ∣ padding width xs := by
  have hrest : n ∣ (rest width xs).length := by
    rw [← length_eq width xs] at hxs
    exact (Nat.dvd_add_right (hwidth.mul_left _)).mp hxs
  unfold padding
  split_ifs
  · exact dvd_zero n
  · exact Nat.dvd_sub hwidth hrest

/-- The padded blocks are the list and the padding. -/
theorem flatten_padded (pad : α) (xs : List α) :
    (padded width pad xs).flatten = xs ++ List.replicate (padding width xs) pad := by
  have hfull := flatten_full width xs
  unfold padded
  split_ifs with hrest
  · rw [hrest, List.append_nil] at hfull
    rw [hfull, padding, if_pos hrest, List.replicate_zero, List.append_nil]
  · rw [List.flatten_append, List.flatten_singleton, ← List.append_assoc, hfull]

theorem length_of_mem_padded (hpos : 0 < width) {pad : α} {block : List α}
    (h : block ∈ padded width pad xs) : block.length = width := by
  unfold padded at h
  split_ifs at h with hrest
  · exact length_of_mem_full h
  · rcases List.mem_append.mp h with hmem | hmem
    · exact length_of_mem_full hmem
    · obtain rfl := List.mem_singleton.mp hmem
      have hlt := length_rest_lt hpos xs
      rw [List.length_append, List.length_replicate, padding, if_neg hrest]
      omega

/-- The full blocks are the first of the padded ones. -/
theorem full_prefix_padded (width : ℕ) (pad : α) (xs : List α) :
    full width xs <+: padded width pad xs := by
  unfold padded
  split_ifs
  · exact List.prefix_rfl
  · exact List.prefix_append _ _

/-- All padded blocks but the last one start before the end of the list. -/
theorem index_mul_lt {pad : α} {n : ℕ} (hpos : 0 < width) (h : n < (padded width pad xs).length) :
    n * width < xs.length := by
  have hlength := length_eq width xs
  unfold padded at h
  split_ifs at h with hrest
  · have hmul : (n + 1) * width ≤ (full width xs).length * width := Nat.mul_le_mul_right _ h
    rw [Nat.add_mul, Nat.one_mul] at hmul
    omega
  · rw [List.length_append, List.length_singleton] at h
    have hmul : n * width ≤ (full width xs).length * width :=
      Nat.mul_le_mul_right _ (Nat.le_of_lt_succ h)
    have hleft := List.length_pos_iff.mpr hrest
    omega

end Blocks
