import Mathlib

/-!
# Keyed lists

Lists of records that are identified by a key. The key is unique in a well-formed list, but
the operations are defined on every list: they act on the first record with the key.

## Main definitions

* `Keyed.replaceFirst`: overwrite the first record with the same key
* `Keyed.removeFirst`: remove the first record with a key

## Main results

* `Keyed.map_replaceFirst`, `Keyed.map_modify`: overwriting keeps the keys
* `Keyed.nodup_append`: adding a record with a new key keeps the keys unique
* `Keyed.lookup_eq_some`, `Keyed.mem_removeFirst`: lookup and removal in an association list
  with unique keys
-/

namespace Keyed

variable {α κ β : Type} [DecidableEq κ]

/-- Overwrite the first record that has the key of `x`. -/
def replaceFirst (key : α → κ) (x : α) (l : List α) : List α :=
  l.set (l.findIdx fun y => key y = key x) x

section Records

variable {key : α → κ} {x y : α} {l : List α}

theorem map_replaceFirst : (replaceFirst key x l).map key = l.map key := by
  unfold replaceFirst
  rw [List.map_set]
  refine List.ext_getElem (by simp) fun i _ hi => ?_
  rw [List.getElem_set]
  split_ifs with heq
  · subst heq
    have hlt : l.findIdx (fun y => key y = key x) < l.length := by simpa using hi
    have := List.findIdx_getElem (w := hlt)
    simpa using (of_decide_eq_true this).symm
  · rfl

omit [DecidableEq κ] in
/-- Changing a record without changing its key keeps the keys. -/
theorem map_modify {f : α → α} (hf : ∀ y, key (f y) = key y) (i : ℕ) :
    (l.modify i f).map key = l.map key := by
  induction l generalizing i with
  | nil => simp
  | cons y l ih =>
    cases i with
    | zero => simp [hf]
    | succ => simp [ih]

omit [DecidableEq κ] in
theorem nodup_append : ((l ++ [x]).map key).Nodup ↔ (l.map key).Nodup ∧ ∀ y ∈ l, key y ≠ key x := by
  rw [List.map_append, List.nodup_append]
  constructor
  · rintro ⟨hl, -, hne⟩
    exact ⟨hl, fun y hy => hne _ (List.mem_map_of_mem hy) _ (by simp)⟩
  · rintro ⟨hl, hne⟩
    refine ⟨hl, by simp, fun a ha b hb => ?_⟩
    obtain ⟨y, hy, rfl⟩ := List.mem_map.mp ha
    obtain rfl : b = key x := by simpa using hb
    exact hne y hy

end Records

section Entries

variable {k : κ} {v : β} {l : List (κ × β)}

/-- Remove the first entry with key `k`. -/
def removeFirst (k : κ) (l : List (κ × β)) : List (κ × β) :=
  l.eraseP fun entry => entry.1 = k

theorem mem_of_lookup (h : l.lookup k = some v) : (k, v) ∈ l := by
  obtain ⟨l₁, l₂, rfl, -⟩ := List.lookup_eq_some_iff.mp h
  simp

theorem lookup_eq_some (hl : (l.map Prod.fst).Nodup) : l.lookup k = some v ↔ (k, v) ∈ l := by
  refine ⟨mem_of_lookup, fun h => ?_⟩
  obtain ⟨l₁, l₂, rfl⟩ := List.append_of_mem h
  refine List.lookup_eq_some_iff.mpr ⟨l₁, l₂, rfl, fun p hp => ?_⟩
  rw [List.map_append, List.nodup_append] at hl
  have hne := hl.2.2 _ (List.mem_map_of_mem (f := Prod.fst) hp) k (by simp)
  simpa using Ne.symm hne

theorem removeFirst_subset {e : κ × β} (h : e ∈ removeFirst k l) : e ∈ l :=
  List.mem_of_mem_eraseP h

theorem mem_removeFirst (hl : (l.map Prod.fst).Nodup) {e : κ × β} :
    e ∈ removeFirst k l ↔ e ∈ l ∧ e.1 ≠ k := by
  unfold removeFirst
  induction l with
  | nil => simp
  | cons a l ih =>
    rw [List.map_cons, List.nodup_cons] at hl
    by_cases ha : a.1 = k
    · -- The head is removed, and no later entry has its key.
      have htail : ∀ b ∈ l, b.1 ≠ k := by
        rintro b hb rfl
        exact hl.1 (ha ▸ List.mem_map_of_mem hb)
      rw [List.eraseP_cons_of_pos (by simpa using ha), List.mem_cons]
      constructor
      · intro he
        exact ⟨.inr he, htail e he⟩
      · rintro ⟨rfl | he, hne⟩
        · exact absurd ha hne
        · exact he
    · rw [List.eraseP_cons_of_neg (by simpa using ha), List.mem_cons, List.mem_cons, ih hl.2]
      constructor
      · rintro (rfl | ⟨he, hne⟩)
        · exact ⟨.inl rfl, ha⟩
        · exact ⟨.inr he, hne⟩
      · rintro ⟨rfl | he, hne⟩
        · exact .inl rfl
        · exact .inr ⟨he, hne⟩

/-- Lookup finds the entry that is removed. -/
theorem perm_removeFirst (h : l.lookup k = some v) : l.Perm ((k, v) :: removeFirst k l) := by
  obtain ⟨l₁, l₂, rfl, hbefore⟩ := List.lookup_eq_some_iff.mp h
  have hkeep : ∀ p ∈ l₁, ¬decide (p.1 = k) = true := fun p hp heq => by
    have hp' := hbefore p hp
    simp [of_decide_eq_true heq] at hp'
  rw [removeFirst, List.eraseP_append_right _ hkeep, List.eraseP_cons_of_pos (by simp)]
  exact List.perm_middle

/-- Removing the entry that lookup finds keeps every entry with another value. -/
theorem mem_removeFirst_of_ne (h : l.lookup k = some v) {e : κ × β} (he : e ∈ l)
    (hne : e.2 ≠ v) : e ∈ removeFirst k l := by
  rcases List.mem_cons.mp ((perm_removeFirst h).mem_iff.mp he) with rfl | hmem
  · exact absurd rfl hne
  · exact hmem

end Entries

end Keyed
