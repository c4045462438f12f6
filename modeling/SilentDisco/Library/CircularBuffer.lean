import Mathlib

/-!
# Circular buffers

Items are numbered from the first one on, and item `k` is stored in slot `k % m`. As long as no
more than `m` items are live, no two of them share a slot, so the slots hold the live part of the
whole history.

## Main definitions

* `CircularBuffer.Holds m slots history low`: the slots hold the items from `low` on
* `CircularBuffer.write`, `CircularBuffer.read`: the loops over consecutive slots

## Main results

* `CircularBuffer.Holds.write`: items written after the live ones are held with them
* `CircularBuffer.Holds.read`: reading from the first live item on gives the history back
-/

namespace CircularBuffer

variable {α : Type} {m low : ℕ} {slots history : List α}

/-- Write items into the slots of consecutive numbers, the first one in slot `slot 0`. -/
def write (slot : ℕ → ℕ) (slots items : List α) : List α :=
  items.zipIdx.foldl (fun slots (item, k) => slots.set (slot k) item) slots

/-- Read the slots of consecutive numbers. -/
def read (slot : ℕ → ℕ) (slots : List α) (default : α) (n : ℕ) : List α :=
  (List.range n).map fun k => slots.getD (slot k) default

/-- Only the slots of the items matter. -/
theorem write_congr {slot slot' : ℕ → ℕ} {items : List α}
    (h : ∀ k < items.length, slot k = slot' k) :
    write slot slots items = write slot' slots items := by
  refine List.foldl_ext _ _ _ fun slots entry hentry => ?_
  change slots.set (slot entry.2) entry.1 = slots.set (slot' entry.2) entry.1
  rw [h entry.2 (List.snd_lt_of_mem_zipIdx hentry)]

theorem read_congr {slot slot' : ℕ → ℕ} {n : ℕ} (default : α) (h : ∀ k < n, slot k = slot' k) :
    read slot slots default n = read slot' slots default n :=
  List.map_congr_left fun k hk => by rw [h k (List.mem_range.mp hk)]

/-- The slots hold the items of a history from number `low` on. -/
structure Holds (m : ℕ) (slots history : List α) (low : ℕ) : Prop where
  length_eq : slots.length = m
  low_le : low ≤ history.length
  /-- The live items fit. -/
  le_add : history.length ≤ low + m
  item : ∀ k, low ≤ k → k < history.length → slots[k % m]? = history[k]?

/-- Live items are in different slots. -/
theorem slot_ne {i j : ℕ} (hlt : i < j) (hj : j < i + m) : i % m ≠ j % m := by
  intro heq
  have hdvd : m ∣ j - i := (Nat.modEq_iff_dvd' hlt.le).mp heq
  exact absurd (Nat.le_of_dvd (by omega) hdvd) (by omega)

namespace Holds

theorem nil (m : ℕ) (slots : List α) (h : slots.length = m) : Holds m slots [] 0 where
  length_eq := h
  low_le := le_rfl
  le_add := Nat.zero_le _
  item _ _ hk := absurd hk (Nat.not_lt_zero _)

variable (h : Holds m slots history low)
include h

/-- Items that are released are not held any more. -/
theorem release {low' : ℕ} (hle : low ≤ low')
    (hlength : low' ≤ history.length) : Holds m slots history low' where
  length_eq := h.length_eq
  low_le := hlength
  le_add := h.le_add.trans (Nat.add_le_add_right hle m)
  item k hk := h.item k (hle.trans hk)

/-- One more item. -/
theorem write_one (item : α) (hfits : history.length < low + m) :
    Holds m (slots.set (history.length % m) item) (history ++ [item]) low := by
  have hm : 0 < m := by
    have := h.low_le
    omega
  refine ⟨(List.length_set).trans h.length_eq, ?_, ?_, fun k hlow hk => ?_⟩
  · exact h.low_le.trans (by simp)
  · rw [List.length_append, List.length_singleton]
    omega
  · rw [List.length_append, List.length_singleton] at hk
    rcases Nat.lt_succ_iff_lt_or_eq.mp hk with hold | rfl
    · have hne : history.length % m ≠ k % m := (slot_ne hold (by omega)).symm
      rw [List.getElem?_set_ne hne, List.getElem?_append_left hold]
      exact h.item k hlow hold
    · have hslot : history.length % m < slots.length :=
        (Nat.mod_lt _ hm).trans_eq h.length_eq.symm
      rw [List.getElem?_set_self hslot, List.getElem?_concat_length]

/-- Items written after the live ones are held with them. -/
theorem write {slot : ℕ → ℕ} {items : List α}
    (hslot : ∀ k < items.length, slot k = (history.length + k) % m)
    (hfits : history.length + items.length ≤ low + m) :
    Holds m (CircularBuffer.write slot slots items) (history ++ items) low := by
  unfold CircularBuffer.write
  induction items using List.reverseRecOn with
  | nil =>
    rw [List.append_nil]
    exact h
  | append_singleton items item ih =>
    rw [List.length_append, List.length_singleton] at hslot hfits
    have hheld := ih (fun k hk => hslot k (by omega)) (by omega)
    have hlast : slot items.length = (history ++ items).length % m := by
      rw [hslot items.length (by omega), List.length_append]
    rw [List.zipIdx_append, List.foldl_append, ← List.append_assoc]
    have hone := hheld.write_one item (by rw [List.length_append]; omega)
    rw [← hlast] at hone
    simpa using hone

/-- Reading from the first live item on gives the history back. -/
theorem read {slot : ℕ → ℕ} {n : ℕ} (default : α)
    (hslot : ∀ k < n, slot k = (low + k) % m) (hlength : low + n ≤ history.length) :
    CircularBuffer.read slot slots default n = (history.drop low).take n := by
  refine List.ext_getElem? fun k => ?_
  by_cases hk : k < n
  · have hitem := h.item (low + k) (Nat.le_add_right _ _) (by omega)
    rw [List.getElem?_take_of_lt hk, List.getElem?_drop, ← hitem, CircularBuffer.read,
      List.getElem?_map, List.getElem?_range hk, Option.map_some, hslot k hk,
      List.getD_eq_getElem?_getD, hitem, List.getElem?_eq_getElem (by omega)]
    rfl
  · rw [List.getElem?_eq_none, List.getElem?_eq_none]
    · rw [List.length_take]
      omega
    · simpa [CircularBuffer.read] using hk

end Holds

end CircularBuffer
