import Mathlib.Data.List.Nodup
import Mathlib.Data.List.Perm.Basic
import Mathlib.Data.List.GetD

/-!
# Arrays with back-pointers, and swap-and-pop removal

An array of distinct entries in which every entry records its own slot (`idx l[j] = j`,
`Indexed`) lets an entry be found and removed in constant time: the last entry is written over
the removed one, its recorded slot is set to the freed slot, and the last slot is popped
(`swapPop`).

* Swap-and-pop is a permutation of erasing the slot (`swapPop_perm`), so on a duplicate-free
  array it removes exactly the one entry and keeps the others distinct (`mem_swapPop`,
  `nodup_swapPop`).
* With the moved entry's slot rewritten it keeps the array indexed (`Indexed.swapPop`), and so
  does appending a new entry with its slot (`Indexed.append`).
* An indexed array finds its entries: `l[idx a] = a` for every entry `a` (`Indexed.getElem_idx`).

Nothing here is specific to an application; the lemmas are about an arbitrary list and an
arbitrary slot map.
-/

namespace IndexedArray

variable {α : Type}

/-- Remove the entry at slot `i` by writing the last entry over it and popping the last slot;
`d` is what reading past the end returns. -/
def swapPop (l : List α) (i : ℕ) (d : α) : List α :=
  (l.set i (l.getD (l.length - 1) d)).dropLast

/-- Every entry of `l` records its own slot in `idx`. -/
def Indexed (l : List α) (idx : α → ℕ) : Prop :=
  ∀ (j : ℕ) (hj : j < l.length), idx l[j] = j

variable {l : List α} {i : ℕ} {d : α} {idx idx' : α → ℕ}

@[simp] theorem length_swapPop : (swapPop l i d).length = l.length - 1 := by
  simp [swapPop]

theorem getElem_swapPop {j : ℕ} (hj : j < (swapPop l i d).length) :
    (swapPop l i d)[j] = if i = j then l.getD (l.length - 1) d else l.getD j d := by
  have hjl : j < l.length := by simp at hj; omega
  rw [List.getD_eq_getElem _ _ hjl]
  simp [swapPop, List.getElem_set]

/-- Swap-and-pop reorders what erasing the slot leaves: the last entry moves to the front of the
rest. -/
theorem swapPop_perm (d : α) (hi : i < l.length) : (swapPop l i d).Perm (l.eraseIdx i) := by
  have hne : l ≠ [] := List.ne_nil_of_length_pos (by omega)
  have hlast : l.getD (l.length - 1) d = l.getLast hne := by
    rw [List.getD_eq_getElem _ _ (by omega), List.getLast_eq_getElem]
  unfold swapPop
  rcases Nat.lt_or_ge i (l.length - 1) with hlt | hge
  · -- the last entry lands in slot `i` of `l.dropLast`; erasing slot `i` of `l` leaves it last
    have hlen : i < l.dropLast.length := by simpa using hlt
    rw [← List.eraseIdx_length_sub_one, List.length_set, List.eraseIdx_set_gt hlt,
      List.eraseIdx_length_sub_one]
    conv_rhs => rw [← List.dropLast_concat_getLast hne]
    rw [List.eraseIdx_append_of_lt_length hlen, hlast]
    exact (List.set_perm_cons_eraseIdx hlen _).trans (List.perm_append_singleton _ _).symm
  · -- `i` is the last slot: the entry is written over itself and popped
    have hi' : i + 1 = l.length := by omega
    have hself : l.getD (l.length - 1) d = l[i] := by
      rw [List.getD_eq_getElem _ _ (by omega)]
      congr 1
      omega
    rw [hself, List.set_getElem_self, List.eraseIdx_eq_dropLast hi']

/-- On a duplicate-free array, swap-and-pop at slot `i` removes exactly the entry at `i`. -/
theorem mem_swapPop [DecidableEq α] (hnd : l.Nodup) (hi : i < l.length) {a : α} :
    a ∈ swapPop l i d ↔ a ∈ l ∧ a ≠ l[i] := by
  rw [(swapPop_perm d hi).mem_iff, ← hnd.erase_getElem i hi, hnd.mem_erase_iff, and_comm]

theorem nodup_swapPop (hnd : l.Nodup) (hi : i < l.length) : (swapPop l i d).Nodup :=
  (swapPop_perm d hi).nodup_iff.2 (hnd.eraseIdx i)

namespace Indexed

theorem nil (idx : α → ℕ) : Indexed [] idx := fun _ hj => absurd hj (Nat.not_lt_zero _)

/-- Only the slots that the entries record matter. -/
theorem congr (h : Indexed l idx) (hidx : ∀ a, idx' a = idx a) : Indexed l idx' :=
  fun j hj => (hidx _).trans (h j hj)

/-- An entry of an indexed array sits at the slot it records. -/
theorem getElem_idx (h : Indexed l idx) {a : α} (ha : a ∈ l) :
    ∃ hlt : idx a < l.length, l[idx a] = a := by
  obtain ⟨k, hk, rfl⟩ := List.getElem_of_mem ha
  rw [h k hk]
  exact ⟨hk, rfl⟩

/-- Appending a new entry that records the new last slot keeps the array indexed. -/
theorem append (h : Indexed l idx) {b : α} (hb : b ∉ l) (hnew : idx' b = l.length)
    (hother : ∀ a, a ≠ b → idx' a = idx a) : Indexed (l ++ [b]) idx' := by
  intro j hj
  rw [List.getElem_append]
  split_ifs with hjl
  · -- an old entry, which is not `b`
    rw [hother _ fun heq => hb (heq ▸ List.getElem_mem hjl), h j hjl]
  · simp only [List.length_append, List.length_singleton] at hj
    simp only [List.getElem_singleton, hnew]
    omega

/-- Swap-and-pop keeps a duplicate-free array indexed once the moved entry records the freed
slot. -/
theorem swapPop (h : Indexed l idx) (hnd : l.Nodup) (hi : i < l.length)
    (hmoved : idx' (l.getD (l.length - 1) d) = i)
    (hother : ∀ a, a ≠ l.getD (l.length - 1) d → idx' a = idx a) :
    Indexed (IndexedArray.swapPop l i d) idx' := by
  intro j hj
  have hjl : j < l.length - 1 := by simpa using hj
  rw [getElem_swapPop]
  split_ifs with hij
  · exact hmoved.trans hij
  · -- an entry that keeps its slot; it is not the last entry, which sits in the last slot
    rw [List.getD_eq_getElem _ _ (by omega)]
    have hne : l[j] ≠ l.getD (l.length - 1) d := by
      rw [List.getD_eq_getElem _ _ (by omega), Ne, hnd.getElem_inj_iff]
      omega
    rw [hother _ hne, h j]

end Indexed

end IndexedArray
