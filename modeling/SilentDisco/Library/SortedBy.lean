import Mathlib

/-!
# Sorted records

Records in the order of a numeric key that no two of them share: an ordered map whose values
carry their key. The order is part of the type.

## Main definitions

* `SortedBy key`: records in strict order of their keys
* `SortedBy.insert`, `SortedBy.remove`: add a record, and remove the one with a key
* `SortedBy.first?`, `SortedBy.last?`: the records with the least and the greatest key

## Main results

* `SortedBy.mem_insert`, `SortedBy.mem_remove`: what an update keeps
* `SortedBy.find?_eq_some`: the record with a key
-/

/-- Records in strict order of their keys. -/
structure SortedBy {α : Type} (key : α → ℕ) where
  toList : List α
  sorted : toList.Pairwise fun a b => key a < key b

namespace SortedBy

variable {α : Type} {key : α → ℕ}

instance [DecidableEq α] : DecidableEq (SortedBy key) := fun m n =>
  decidable_of_iff (m.toList = n.toList)
    ⟨fun h => by cases m; cases n; cases h; rfl, congrArg toList⟩

instance : Membership α (SortedBy key) := ⟨fun m a => a ∈ m.toList⟩

@[simp] theorem mem_toList {m : SortedBy key} {a : α} : a ∈ m.toList ↔ a ∈ m := Iff.rfl

/-- No records. -/
def empty : SortedBy key := ⟨[], .nil⟩

instance : Inhabited (SortedBy key) := ⟨empty⟩

variable (m : SortedBy key)

def length : ℕ := m.toList.length

def isEmpty : Bool := m.toList.isEmpty

/-- The record with the least key. -/
def first? : Option α := m.toList.head?

/-- The record with the greatest key. -/
def last? : Option α := m.toList.getLast?

/-- The record with a key. -/
def find? (k : ℕ) : Option α := m.toList.find? fun a => key a = k

def contains (k : ℕ) : Bool := m.toList.any fun a => key a = k

/-- Remove the record with a key. -/
def remove (k : ℕ) : SortedBy key where
  toList := m.toList.filter fun a => key a ≠ k
  sorted := m.sorted.filter _

/-- Keep the records that satisfy a condition. -/
def filter (p : α → Bool) : SortedBy key where
  toList := m.toList.filter p
  sorted := m.sorted.filter p

/-- Add a record, in place of one with the same key. -/
def insert (a : α) : SortedBy key where
  toList := m.toList.filter (fun b => key b < key a) ++ a :: m.toList.filter fun b => key a < key b
  sorted := by
    refine List.pairwise_append.mpr ⟨m.sorted.filter _, ?_, ?_⟩
    · refine List.pairwise_cons.mpr ⟨fun b hb => ?_, m.sorted.filter _⟩
      exact of_decide_eq_true (List.mem_filter.mp hb).2
    · intro b hb c hc
      have hba : key b < key a := of_decide_eq_true (List.mem_filter.mp hb).2
      rcases List.mem_cons.mp hc with rfl | hc
      · exact hba
      · exact hba.trans (of_decide_eq_true (List.mem_filter.mp hc).2)

variable {m} {a b : α} {k : ℕ}

@[simp] theorem not_mem_empty : a ∉ (empty : SortedBy key) := List.not_mem_nil

theorem isEmpty_iff : m.isEmpty = true ↔ ∀ a, a ∉ m := by
  unfold isEmpty
  rw [List.isEmpty_iff, List.eq_nil_iff_forall_not_mem]
  rfl

theorem nodup_keys : (m.toList.map key).Nodup :=
  List.Pairwise.map key (fun _ _ h => Nat.ne_of_lt h) m.sorted

/-- A key identifies its record. -/
theorem eq_of_key_eq (ha : a ∈ m) (hb : b ∈ m) (h : key a = key b) : a = b :=
  List.inj_on_of_nodup_map nodup_keys ha hb h

theorem mem_remove : a ∈ m.remove k ↔ a ∈ m ∧ key a ≠ k := by
  change a ∈ m.toList.filter _ ↔ _
  simp

theorem mem_insert : b ∈ m.insert a ↔ b = a ∨ b ∈ m ∧ key b ≠ key a := by
  change b ∈ m.toList.filter (fun b => key b < key a) ++ a :: m.toList.filter _ ↔ _
  simp only [List.mem_append, List.mem_cons, List.mem_filter, decide_eq_true_eq, mem_toList]
  constructor
  · rintro (⟨hb, hlt⟩ | rfl | ⟨hb, hlt⟩)
    · exact .inr ⟨hb, hlt.ne⟩
    · exact .inl rfl
    · exact .inr ⟨hb, hlt.ne'⟩
  · rintro (rfl | ⟨hb, hne⟩)
    · exact .inr (.inl rfl)
    · rcases Nat.lt_or_gt_of_ne hne with hlt | hlt
      · exact .inl ⟨hb, hlt⟩
      · exact .inr (.inr ⟨hb, hlt⟩)

theorem contains_iff : m.contains k = true ↔ ∃ a ∈ m, key a = k := by
  unfold contains
  simp

theorem find?_eq_some : m.find? k = some a ↔ a ∈ m ∧ key a = k := by
  constructor
  · intro hfind
    exact ⟨List.mem_of_find?_eq_some hfind, by simpa using List.find?_some hfind⟩
  · rintro ⟨ha, rfl⟩
    cases hfind : m.find? (key a) with
    | none => simpa using List.find?_eq_none.mp hfind a ha
    | some b =>
      have hb : key b = key a := by simpa using List.find?_some hfind
      rw [eq_of_key_eq (List.mem_of_find?_eq_some hfind) ha hb]

theorem find?_eq_none : m.find? k = none ↔ ∀ a ∈ m, key a ≠ k := by
  unfold find?
  simp

theorem mem_of_first? (h : m.first? = some a) : a ∈ m := List.mem_of_head? h

theorem mem_of_last? (h : m.last? = some a) : a ∈ m := List.mem_of_getLast? h

theorem first?_eq_none : m.first? = none ↔ ∀ a, a ∉ m := by
  unfold first?
  rw [List.head?_eq_none_iff, List.eq_nil_iff_forall_not_mem]
  rfl

theorem last?_eq_none : m.last? = none ↔ ∀ a, a ∉ m := by
  unfold last?
  rw [List.getLast?_eq_none_iff, List.eq_nil_iff_forall_not_mem]
  rfl

/-- The first record has the least key. -/
theorem key_le_of_first? (h : m.first? = some a) (hb : b ∈ m) : key a ≤ key b := by
  obtain ⟨rest, hrest⟩ := List.head?_eq_some_iff.mp h
  have hsorted := m.sorted
  have hmem : b ∈ m.toList := hb
  rw [hrest] at hsorted hmem
  rcases List.mem_cons.mp hmem with rfl | hmem
  · exact le_rfl
  · exact ((List.pairwise_cons.mp hsorted).1 b hmem).le

/-- The last record has the greatest key. -/
theorem le_key_of_last? (h : m.last? = some a) (hb : b ∈ m) : key b ≤ key a := by
  obtain ⟨init, hinit⟩ := List.getLast?_eq_some_iff.mp h
  have hsorted := m.sorted
  have hmem : b ∈ m.toList := hb
  rw [hinit] at hsorted hmem
  rcases List.mem_append.mp hmem with hmem | hmem
  · exact ((List.pairwise_append.mp hsorted).2.2 b hmem a (List.mem_singleton_self a)).le
  · rw [List.mem_singleton.mp hmem]

theorem ext_toList {m n : SortedBy key} (h : m.toList = n.toList) : m = n := by
  cases m
  cases n
  cases h
  rfl

/-- A record with a greater key than all others comes last. -/
theorem toList_insert_of_lt (h : ∀ b ∈ m, key b < key a) :
    (m.insert a).toList = m.toList ++ [a] := by
  have hbefore : m.toList.filter (fun b => key b < key a) = m.toList :=
    List.filter_eq_self.mpr fun b hb => decide_eq_true (h b hb)
  have hafter : m.toList.filter (fun b => key a < key b) = [] :=
    List.filter_eq_nil_iff.mpr fun b hb hlt => (h b hb).asymm (of_decide_eq_true hlt)
  change m.toList.filter _ ++ a :: m.toList.filter _ = _
  rw [hbefore, hafter]

/-! ## Lengths -/

/-- There are no more records than keys in a range. -/
theorem length_le {low width : ℕ} (h : ∀ a ∈ m, low ≤ key a ∧ key a < low + width) :
    m.length ≤ width := by
  have hsubset : m.toList.map key ⊆ List.range' low width := by
    intro k hk
    obtain ⟨a, ha, rfl⟩ := List.mem_map.mp hk
    exact List.mem_range'_1.mpr (h a ha)
  have hle := (nodup_keys (m := m)).subperm hsubset |>.length_le
  simpa [length] using hle

theorem length_insert (h : ∀ b ∈ m, key b ≠ key a) : (m.insert a).length = m.length + 1 := by
  have hsplit := List.length_eq_length_filter_add (l := m.toList) fun b => decide (key b < key a)
  have hrest : (m.toList.filter fun b => !decide (key b < key a)) =
      m.toList.filter fun b => decide (key a < key b) := by
    refine List.filter_congr fun b hb => ?_
    have hne := h b hb
    simp only [← decide_not, decide_eq_decide]
    omega
  change (m.toList.filter _ ++ a :: m.toList.filter _).length = m.toList.length + 1
  rw [List.length_append, List.length_cons, hsplit, hrest]
  omega

theorem length_remove (ha : a ∈ m) : (m.remove (key a)).length + 1 = m.length := by
  have hkeys : (m.remove (key a)).toList.map key = (m.toList.map key).erase (key a) := by
    rw [nodup_keys.erase_eq_filter, List.filter_map]
    exact congrArg (List.map key) (List.filter_congr fun b _ => Bool.eq_iff_iff.mpr (by simp))
  have hlength := congrArg List.length hkeys
  have hpos : 0 < m.toList.length := List.length_pos_of_mem ha
  rw [List.length_map, List.length_erase_of_mem (List.mem_map_of_mem ha),
    List.length_map] at hlength
  simp only [length, hlength]
  omega

/-- A record that replaces another one. -/
theorem length_insert_of_mem (hb : b ∈ m) (h : key b = key a) : (m.insert a).length = m.length := by
  have hperm : ((m.insert a).toList.map key).Perm (m.toList.map key) := by
    refine (List.perm_ext_iff_of_nodup nodup_keys nodup_keys).mpr fun k => ?_
    simp only [List.mem_map, mem_toList]
    constructor
    · rintro ⟨c, hc, rfl⟩
      rcases mem_insert.mp hc with rfl | ⟨hc, -⟩
      · exact ⟨b, hb, h⟩
      · exact ⟨c, hc, rfl⟩
    · rintro ⟨c, hc, rfl⟩
      by_cases hca : key c = key a
      · exact ⟨a, mem_insert.mpr (.inl rfl), hca.symm⟩
      · exact ⟨c, mem_insert.mpr (.inr ⟨hc, hca⟩), rfl⟩
  simpa [length] using hperm.length_eq

end SortedBy
