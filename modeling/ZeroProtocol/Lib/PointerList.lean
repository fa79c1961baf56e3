import Mathlib.Data.List.Nodup
import Mathlib.Logic.Function.Basic

/-!
# Doubly linked lists stored in pointer maps

A doubly linked list kept in storage is a map from ids to nodes, each node holding the id
of the next and of the previous node, plus a `head` and a `tail`; a distinguished `null` id
ends the list at both sides.  This file relates such a pointer structure to the list of
ids it encodes.

`Represents null l head tail next prev` says that `next` and `prev` are, pointwise, the
successor and predecessor functions of the duplicate-free list `l` (`succIn`, `predIn`),
and that `head`, `tail` are its ends.  The point of stating it pointwise is that every
pointer write of an insertion or removal is one `Function.update`, and each of the
operations below is proved once from two facts about `succIn`:

* `succIn_of_getLast?`: the successor of the last element of `l₁` in `l₁ ++ l₂` is the first
  element of `l₂`;
* `succIn_append_cons`: splicing `x` into `l₁ ++ l₂` changes the successor of no element
  other than `x` and the last element of `l₁`.

The predecessor versions follow by reversing the list.  `walk_eq` finally shows that
following the `next` pointers from `head` visits exactly `l`.
-/

namespace PointerList

open Function

variable {α : Type*} [DecidableEq α]

section Succ

variable (null : α)

/-- The element after `x` in `l`; `null` when `x` is the last element or not in `l`. -/
def succIn : List α → α → α
  | [], _ => null
  | a :: l, x => if x = a then l.headD null else succIn l x

/-- The element before `x` in `l`; `null` when `x` is the first element or not in `l`. -/
def predIn (l : List α) (x : α) : α :=
  succIn null l.reverse x

/-- The ids visited by following `next` from `x`, for at most `fuel` steps, stopping at
`null`. -/
def walk (next : α → α) : ℕ → α → List α
  | 0, _ => []
  | fuel + 1, x => if x = null then [] else x :: walk next fuel (next x)

end Succ

variable {null : α}

omit [DecidableEq α] in
theorem exists_append_singleton {l : List α} (hl : l ≠ []) : ∃ t a, l = t ++ [a] := by
  obtain ⟨t, a, rfl⟩ := (List.eq_nil_or_concat l).resolve_left hl
  exact ⟨t, a, List.concat_eq_append⟩

@[simp] theorem succIn_nil (x : α) : succIn null [] x = null := rfl

theorem succIn_cons (a x : α) (l : List α) :
    succIn null (a :: l) x = if x = a then l.headD null else succIn null l x := rfl

theorem succIn_of_notMem {l : List α} {x : α} (hx : x ∉ l) : succIn null l x = null := by
  induction l with
  | nil => rfl
  | cons a l ih =>
      rw [List.mem_cons, not_or] at hx
      rw [succIn_cons, if_neg hx.1, ih hx.2]

/-- The successor of the last element of `l₁` is the first element of `l₂`. -/
theorem succIn_of_getLast? {l₁ l₂ : List α} {z : α} (hnodup : (l₁ ++ l₂).Nodup)
    (hlast : l₁.getLast? = some z) : succIn null (l₁ ++ l₂) z = l₂.headD null := by
  induction l₁ with
  | nil => simp at hlast
  | cons a t ih =>
      rw [List.cons_append, List.nodup_cons] at hnodup
      rw [List.cons_append, succIn_cons]
      rcases t with _ | ⟨b, t⟩
      · simp only [List.getLast?_singleton, Option.some.injEq] at hlast
        simp [hlast]
      · rw [List.getLast?_cons_cons] at hlast
        have hza : z ≠ a := fun hza =>
          hnodup.1 (List.mem_append_left _ (hza ▸ List.mem_of_getLast? hlast))
        rw [if_neg hza]
        exact ih hnodup.2 hlast

/-- Splicing `x` between `l₁` and `l₂` changes the successor of no element but `x` and the
last element of `l₁`. -/
theorem succIn_append_cons {l₁ l₂ : List α} {x z : α} (hnodup : (l₁ ++ x :: l₂).Nodup)
    (hzx : z ≠ x) (hlast : l₁.getLast? ≠ some z) :
    succIn null (l₁ ++ x :: l₂) z = succIn null (l₁ ++ l₂) z := by
  induction l₁ with
  | nil => simp [succIn_cons, hzx]
  | cons a t ih =>
      rw [List.cons_append, List.nodup_cons] at hnodup
      simp only [List.cons_append, succIn_cons]
      rcases t with _ | ⟨b, t⟩
      · -- `a` is the last element, so `z ≠ a`
        have hza : z ≠ a := fun hza => hlast (by simp [hza])
        simp only [List.nil_append, if_neg hza]
        simp [succIn_cons, hzx]
      · rw [List.getLast?_cons_cons] at hlast
        by_cases hza : z = a
        · simp [hza]
        · rw [if_neg hza, if_neg hza]
          exact ih hnodup.2 hlast

/-- The predecessor of the first element of `l₂` is the last element of `l₁`. -/
theorem predIn_of_head? {l₁ l₂ : List α} {z : α} (hnodup : (l₁ ++ l₂).Nodup)
    (hhead : l₂.head? = some z) : predIn null (l₁ ++ l₂) z = l₁.getLastD null := by
  have hrev : (l₂.reverse ++ l₁.reverse).Nodup := by
    rw [← List.reverse_append, List.nodup_reverse]
    exact hnodup
  unfold predIn
  rw [List.reverse_append, succIn_of_getLast? hrev (by rwa [List.getLast?_reverse]),
    List.headD_eq_head?, List.head?_reverse, List.getLastD_eq_getLast?]

/-- Splicing `x` between `l₁` and `l₂` changes the predecessor of no element but `x` and
the first element of `l₂`. -/
theorem predIn_append_cons {l₁ l₂ : List α} {x z : α} (hnodup : (l₁ ++ x :: l₂).Nodup)
    (hzx : z ≠ x) (hhead : l₂.head? ≠ some z) :
    predIn null (l₁ ++ x :: l₂) z = predIn null (l₁ ++ l₂) z := by
  have hsplit : (l₁ ++ x :: l₂).reverse = l₂.reverse ++ x :: l₁.reverse := by simp
  have hrev : (l₂.reverse ++ x :: l₁.reverse).Nodup := by
    rw [← hsplit, List.nodup_reverse]
    exact hnodup
  unfold predIn
  rw [hsplit, succIn_append_cons hrev hzx (by rwa [List.getLast?_reverse]),
    List.reverse_append]

/-! ## The representation -/

/-- The maps `next` and `prev` encode the list `l` with ends `head` and `tail`. -/
structure Represents (null : α) (l : List α) (head tail : α) (next prev : α → α) : Prop where
  nodup : l.Nodup
  null_notMem : null ∉ l
  head_eq : head = l.headD null
  tail_eq : tail = l.getLastD null
  next_eq : ∀ x, next x = succIn null l x
  prev_eq : ∀ x, prev x = predIn null l x

namespace Represents

variable {l : List α} {head tail : α} {next prev : α → α}

theorem empty : Represents null [] null null (fun _ => null) (fun _ => null) :=
  ⟨List.nodup_nil, List.not_mem_nil, rfl, rfl, fun _ => rfl, fun _ => rfl⟩

theorem next_of_notMem (h : Represents null l head tail next prev) {x : α} (hx : x ∉ l) :
    next x = null := by
  rw [h.next_eq, succIn_of_notMem hx]

theorem prev_of_notMem (h : Represents null l head tail next prev) {x : α} (hx : x ∉ l) :
    prev x = null := by
  rw [h.prev_eq, predIn, succIn_of_notMem (by simpa using hx)]

theorem next_null (h : Represents null l head tail next prev) : next null = null :=
  h.next_of_notMem h.null_notMem

theorem prev_null (h : Represents null l head tail next prev) : prev null = null :=
  h.prev_of_notMem h.null_notMem

theorem ne_null_of_mem (h : Represents null l head tail next prev) {x : α} (hx : x ∈ l) :
    x ≠ null := by
  rintro rfl
  exact h.null_notMem hx

theorem head_eq_null_iff (h : Represents null l head tail next prev) :
    head = null ↔ l = [] := by
  rcases l with _ | ⟨a, t⟩
  · simp [h.head_eq]
  · simp [h.head_eq, h.ne_null_of_mem (List.mem_cons_self ..)]

theorem tail_eq_null_iff (h : Represents null l head tail next prev) :
    tail = null ↔ l = [] := by
  by_cases hl : l = []
  · simp [h.tail_eq, hl]
  · obtain ⟨t, a, rfl⟩ := exists_append_singleton hl
    simp [h.tail_eq, List.getLastD_eq_getLast?, h.ne_null_of_mem (by simp : a ∈ t ++ [a])]

/-- The successor of a node is the first node after it. -/
theorem next_of_split (h : Represents null l head tail next prev) {l₁ l₂ : List α} {x : α}
    (hl : l = l₁ ++ x :: l₂) : next x = l₂.headD null := by
  rw [h.next_eq, hl, show l₁ ++ x :: l₂ = (l₁ ++ [x]) ++ l₂ by simp]
  exact succIn_of_getLast? (by simpa [hl] using h.nodup) (by simp)

/-- The predecessor of a node is the last node before it. -/
theorem prev_of_split (h : Represents null l head tail next prev) {l₁ l₂ : List α} {x : α}
    (hl : l = l₁ ++ x :: l₂) : prev x = l₁.getLastD null := by
  rw [h.prev_eq, hl]
  exact predIn_of_head? (by simpa [hl] using h.nodup) rfl

/-- A node with a successor is followed by it in the list. -/
theorem next_split (h : Represents null l head tail next prev) {x : α} (hx : next x ≠ null) :
    ∃ l₁ l₂, l = l₁ ++ x :: next x :: l₂ := by
  have hmem : x ∈ l := by
    by_contra hnot
    exact hx (h.next_of_notMem hnot)
  obtain ⟨l₁, l₂, hl⟩ := List.append_of_mem hmem
  have hnext := h.next_of_split hl
  rcases l₂ with _ | ⟨y, t⟩
  · exact absurd hnext hx
  · exact ⟨l₁, t, by rw [hl, hnext, List.headD_cons]⟩

/-- A node with a predecessor is preceded by it in the list. -/
theorem prev_split (h : Represents null l head tail next prev) {x : α} (hx : prev x ≠ null) :
    ∃ l₁ l₂, l = l₁ ++ prev x :: x :: l₂ := by
  have hmem : x ∈ l := by
    by_contra hnot
    exact hx (h.prev_of_notMem hnot)
  obtain ⟨l₁, l₂, hl⟩ := List.append_of_mem hmem
  have hprev := h.prev_of_split hl
  by_cases hl₁ : l₁ = []
  · subst hl₁
    exact absurd hprev hx
  · obtain ⟨t, y, rfl⟩ := exists_append_singleton hl₁
    rw [List.getLastD_eq_getLast?, List.getLast?_concat, Option.getD_some] at hprev
    exact ⟨t, l₂, by rw [hl, hprev]; simp⟩

/-- A successor points back to its predecessor. -/
theorem prev_next (h : Represents null l head tail next prev) {x : α} (hx : next x ≠ null) :
    prev (next x) = x := by
  obtain ⟨l₁, l₂, hl⟩ := h.next_split hx
  rw [h.prev_of_split (show l = (l₁ ++ [x]) ++ next x :: l₂ by simp [hl])]
  simp [List.getLastD_eq_getLast?]

/-- A predecessor points forward to its successor. -/
theorem next_prev (h : Represents null l head tail next prev) {x : α} (hx : prev x ≠ null) :
    next (prev x) = x := by
  obtain ⟨l₁, l₂, hl⟩ := h.prev_split hx
  rw [h.next_of_split hl, List.headD_cons]

/-- Following `next` moves one place down the list. -/
theorem idxOf_next (h : Represents null l head tail next prev) {x : α} (hx : next x ≠ null) :
    l.idxOf (next x) = l.idxOf x + 1 := by
  obtain ⟨l₁, l₂, hl⟩ := h.next_split hx
  have hnodup := h.nodup
  rw [hl, List.nodup_append, List.nodup_cons, List.mem_cons, not_or] at hnodup
  -- neither node occurs before the split, and they differ
  have hx₁ : x ∉ l₁ := fun hm => hnodup.2.2 x hm x List.mem_cons_self rfl
  have hn₁ : next x ∉ l₁ := fun hm => hnodup.2.2 _ hm _ (by simp) rfl
  rw [hl, List.idxOf_append_of_notMem hx₁, List.idxOf_append_of_notMem hn₁, List.idxOf_cons_self,
    List.idxOf_cons_ne _ hnodup.2.1.1.1, List.idxOf_cons_self]

/-- Following `prev` moves one place up the list. -/
theorem idxOf_prev (h : Represents null l head tail next prev) {x : α} (hx : prev x ≠ null) :
    l.idxOf (prev x) + 1 = l.idxOf x := by
  have hnext : next (prev x) = x := h.next_prev hx
  have hx' : next (prev x) ≠ null := by
    rw [hnext]
    rintro rfl
    exact hx h.prev_null
  rw [← h.idxOf_next hx', hnext]

/-- A node without a successor is the tail. -/
theorem tail_eq_of_next_eq_null (h : Represents null l head tail next prev) {x : α}
    (hx : x ∈ l) (hn : next x = null) : tail = x := by
  obtain ⟨l₁, l₂, hl⟩ := List.append_of_mem hx
  rcases l₂ with _ | ⟨y, t⟩
  · rw [h.tail_eq, hl]
    simp [List.getLastD_eq_getLast?]
  · rw [h.next_of_split hl, List.headD_cons] at hn
    exact absurd hn (h.ne_null_of_mem (by simp [hl]))

/-- A node without a predecessor is the head. -/
theorem head_eq_of_prev_eq_null (h : Represents null l head tail next prev) {x : α}
    (hx : x ∈ l) (hp : prev x = null) : head = x := by
  obtain ⟨l₁, l₂, hl⟩ := List.append_of_mem hx
  by_cases hl₁ : l₁ = []
  · rw [h.head_eq, hl, hl₁]
    rfl
  · obtain ⟨t, y, rfl⟩ := exists_append_singleton hl₁
    rw [h.prev_of_split hl, List.getLastD_eq_getLast?, List.getLast?_concat,
      Option.getD_some] at hp
    exact absurd hp (h.ne_null_of_mem (by simp [hl]))

/-- A head that is not `null` is the first node. -/
theorem head?_eq (h : Represents null l head tail next prev) (hh : head ≠ null) :
    l.head? = some head := by
  rcases l with _ | ⟨a, t⟩
  · exact absurd h.head_eq hh
  · rw [h.head_eq]
    rfl

/-- A tail that is not `null` is the last node. -/
theorem getLast?_eq (h : Represents null l head tail next prev) (ht : tail ≠ null) :
    l.getLast? = some tail := by
  rw [h.tail_eq, List.getLastD_eq_getLast?] at ht ⊢
  cases hlast : l.getLast? with
  | none => rw [hlast] at ht; exact absurd rfl ht
  | some a => rfl

theorem prev_head (h : Represents null l head tail next prev) : prev head = null := by
  rcases l with _ | ⟨a, t⟩
  · rw [h.head_eq]
    exact h.prev_null
  · rw [h.head_eq, h.prev_eq, List.headD_cons, show a :: t = [] ++ a :: t from rfl,
      predIn_of_head? h.nodup rfl]
    rfl

theorem next_tail (h : Represents null l head tail next prev) : next tail = null := by
  by_cases hl : l = []
  · rw [h.tail_eq, hl]
    exact h.next_null
  · obtain ⟨t, a, rfl⟩ := exists_append_singleton hl
    rw [h.tail_eq, h.next_eq, List.getLastD_eq_getLast?, List.getLast?_concat, Option.getD_some,
      show t ++ [a] = (t ++ [a]) ++ [] by simp, succIn_of_getLast? (by simpa using h.nodup)
      (by simp)]
    rfl

/-! ## Insertion

One lemma for each way the pointers of a new node `x` are written. -/

/-- The first node of an empty list is both its head and its tail. -/
theorem insert_empty (h : Represents null [] head tail next prev) {x : α} (hx : x ≠ null) :
    Represents null [x] x x next prev := by
  refine ⟨List.nodup_singleton x, by simpa [eq_comm] using hx, rfl, rfl, fun z => ?_, fun z => ?_⟩
  · rw [h.next_eq]
    simp [succIn_cons]
  · rw [h.prev_eq]
    simp [predIn, succIn_cons]

/-- A new node in front of a non-empty list becomes its head. -/
theorem insert_front (h : Represents null l head tail next prev) (hl : l ≠ []) {x : α}
    (hxl : x ∉ l) (hx : x ≠ null) :
    Represents null (x :: l) x tail (update next x head) (update prev head x) := by
  obtain ⟨a, t, rfl⟩ := List.exists_cons_of_ne_nil hl
  have hnodup : (x :: a :: t).Nodup := List.nodup_cons.mpr ⟨hxl, h.nodup⟩
  refine ⟨hnodup, ?_, rfl, ?_, fun z => ?_, fun z => ?_⟩
  · rw [List.mem_cons, not_or]
    exact ⟨fun hn => hx hn.symm, h.null_notMem⟩
  · simp only [h.tail_eq, List.getLastD_cons]
  · rw [update_apply, succIn_cons, h.head_eq]
    split_ifs
    · rfl
    · exact h.next_eq z
  · rw [update_apply, h.head_eq, List.headD_cons]
    by_cases hza : z = a
    · rw [if_pos hza, hza, show x :: a :: t = [x] ++ a :: t from rfl,
        predIn_of_head? hnodup rfl]
      rfl
    · rw [if_neg hza]
      by_cases hzx : z = x
      · rw [hzx, h.prev_of_notMem hxl, show x :: a :: t = [] ++ x :: a :: t from rfl,
          predIn_of_head? hnodup rfl]
        rfl
      · rw [show x :: a :: t = [] ++ x :: a :: t from rfl,
          predIn_append_cons hnodup hzx (by simpa [eq_comm] using hza), h.prev_eq]
        rfl

/-- A new node after the last node of a non-empty list becomes its tail. -/
theorem insert_back (h : Represents null l head tail next prev) (hl : l ≠ []) {x : α}
    (hxl : x ∉ l) (hx : x ≠ null) :
    Represents null (l ++ [x]) head x (update next tail x) (update prev x tail) := by
  obtain ⟨t, a, rfl⟩ := exists_append_singleton hl
  have hnodup : ((t ++ [a]) ++ x :: []).Nodup := by
    rw [List.nodup_append]
    refine ⟨h.nodup, List.nodup_singleton x, ?_⟩
    rintro b hb c hc rfl
    rw [List.mem_singleton] at hc
    exact hxl (hc ▸ hb)
  have htail : tail = a := by
    rw [h.tail_eq, List.getLastD_eq_getLast?, List.getLast?_concat, Option.getD_some]
  refine ⟨hnodup, ?_, ?_, by simp, fun z => ?_, fun z => ?_⟩
  · rw [List.mem_append, not_or, List.mem_singleton]
    exact ⟨h.null_notMem, fun hn => hx hn.symm⟩
  · rw [h.head_eq]
    rcases t with _ | ⟨b, t⟩ <;> rfl
  · rw [update_apply, htail]
    by_cases hza : z = a
    · rw [if_pos hza, hza, succIn_of_getLast? hnodup (by simp)]
      rfl
    · rw [if_neg hza]
      by_cases hzx : z = x
      · rw [hzx, h.next_of_notMem hxl, show (t ++ [a]) ++ [x] = ((t ++ [a]) ++ [x]) ++ [] by simp,
          succIn_of_getLast? (by simpa using hnodup) (by simp)]
        rfl
      · rw [succIn_append_cons hnodup hzx (by simpa [eq_comm] using hza), List.append_nil,
          h.next_eq]
  · rw [update_apply, htail]
    by_cases hzx : z = x
    · rw [if_pos hzx, hzx, predIn_of_head? hnodup rfl]
      simp [List.getLastD_eq_getLast?]
    · rw [if_neg hzx, predIn_append_cons hnodup hzx (by simp), List.append_nil, h.prev_eq]

/-- A new node between two adjacent nodes `p` and `n`. -/
theorem insert_between {l₁ l₂ : List α} {p n : α}
    (h : Represents null (l₁ ++ p :: n :: l₂) head tail next prev) {x : α}
    (hxl : x ∉ l₁ ++ p :: n :: l₂) (hx : x ≠ null) :
    Represents null (l₁ ++ p :: x :: n :: l₂) head tail
      (update (update next x n) p x) (update (update prev x p) n x) := by
  have heq : l₁ ++ p :: x :: n :: l₂ = (l₁ ++ [p]) ++ x :: n :: l₂ := by simp
  have heq' : l₁ ++ p :: n :: l₂ = (l₁ ++ [p]) ++ n :: l₂ := by simp
  have hold : ((l₁ ++ [p]) ++ n :: l₂).Nodup := heq' ▸ h.nodup
  have hxold : x ∉ (l₁ ++ [p]) ++ n :: l₂ := heq' ▸ hxl
  have hnodup : ((l₁ ++ [p]) ++ x :: n :: l₂).Nodup := by
    rw [List.nodup_append] at hold ⊢
    refine ⟨hold.1, List.nodup_cons.mpr ⟨fun hmem => hxold (List.mem_append_right _ hmem),
      hold.2.1⟩, ?_⟩
    rintro a ha b hb rfl
    rcases List.mem_cons.mp hb with rfl | hb
    · exact hxold (List.mem_append_left _ ha)
    · exact hold.2.2 a ha a hb rfl
  refine ⟨heq ▸ hnodup, ?_, ?_, ?_, fun z => ?_, fun z => ?_⟩
  · rw [heq, List.mem_append, List.mem_cons, ← or_assoc, or_comm (a := null ∈ l₁ ++ [p]),
      or_assoc, ← List.mem_append, ← heq']
    rintro (hn | hn)
    · exact hx hn.symm
    · exact h.null_notMem hn
  · rw [h.head_eq]
    rcases l₁ with _ | ⟨b, t⟩ <;> rfl
  · rw [h.tail_eq, List.getLastD_eq_getLast?, List.getLastD_eq_getLast?]
    simp [List.getLast?_append]
  · rw [update_apply, update_apply, heq]
    by_cases hzp : z = p
    · rw [if_pos hzp, hzp, succIn_of_getLast? hnodup (by simp)]
      rfl
    · rw [if_neg hzp]
      by_cases hzx : z = x
      · rw [if_pos hzx, hzx, show (l₁ ++ [p]) ++ x :: n :: l₂ = (l₁ ++ [p] ++ [x]) ++ n :: l₂ by
          simp, succIn_of_getLast? (by simpa using hnodup) (by simp)]
        rfl
      · rw [if_neg hzx, succIn_append_cons hnodup hzx (by simpa [eq_comm] using hzp), ← heq',
          h.next_eq]
  · rw [update_apply, update_apply, heq]
    by_cases hzn : z = n
    · rw [if_pos hzn, hzn, show (l₁ ++ [p]) ++ x :: n :: l₂ = (l₁ ++ [p] ++ [x]) ++ n :: l₂ by
        simp, predIn_of_head? (by simpa using hnodup) rfl]
      simp [List.getLastD_eq_getLast?]
    · rw [if_neg hzn]
      by_cases hzx : z = x
      · rw [if_pos hzx, hzx, predIn_of_head? hnodup rfl]
        simp [List.getLastD_eq_getLast?]
      · rw [if_neg hzx, predIn_append_cons hnodup hzx (by simpa [eq_comm] using hzn), ← heq',
          h.prev_eq]

/-! ## Removal

One lemma for each position of the removed node; its own pointers are cleared. -/

/-- Removing the only node empties the list. -/
theorem remove_single {x : α} (h : Represents null [x] head tail next prev) :
    Represents null [] null null (update next x null) (update prev x null) := by
  refine ⟨List.nodup_nil, List.not_mem_nil, rfl, rfl, fun z => ?_, fun z => ?_⟩
  · rw [update_apply]
    split_ifs with hz
    · rfl
    · rw [h.next_eq, succIn_cons, if_neg hz]
  · rw [update_apply]
    split_ifs with hz
    · rfl
    · rw [h.prev_eq, predIn, List.reverse_singleton, succIn_cons, if_neg hz]
      rfl

/-- Removing the head of a list of at least two nodes: its successor becomes the head. -/
theorem remove_head {x : α} {t : List α} (h : Represents null (x :: t) head tail next prev)
    (ht : t ≠ []) :
    Represents null t (next x) tail (update next x null)
      (update (update prev (next x) null) x null) := by
  have hnodup := List.nodup_cons.mp h.nodup
  have hnext : next x = t.headD null := by
    rw [h.next_eq, succIn_cons, if_pos rfl]
  obtain ⟨b, t, rfl⟩ := List.exists_cons_of_ne_nil ht
  refine ⟨hnodup.2, fun hmem => h.null_notMem (List.mem_cons_of_mem _ hmem), hnext, ?_,
    fun z => ?_, fun z => ?_⟩
  · simp only [h.tail_eq, List.getLastD_cons]
  · rw [update_apply]
    split_ifs with hzx
    · rw [succIn_of_notMem (hzx ▸ hnodup.1)]
    · rw [h.next_eq, succIn_cons, if_neg hzx]
  · rw [update_apply, update_apply, hnext, List.headD_cons]
    split_ifs with hzx hzb
    · rw [predIn, succIn_of_notMem (by rw [List.mem_reverse]; exact hzx ▸ hnodup.1)]
    · rw [hzb, show b :: t = [] ++ b :: t from rfl, predIn_of_head? hnodup.2 rfl]
      rfl
    · rw [h.prev_eq, show x :: b :: t = [] ++ x :: b :: t from rfl,
        predIn_append_cons h.nodup hzx (by simpa [eq_comm] using hzb)]
      rfl

/-- Removing the tail of a list of at least two nodes: its predecessor becomes the tail. -/
theorem remove_tail {x : α} {t : List α} (h : Represents null (t ++ [x]) head tail next prev)
    (ht : t ≠ []) :
    Represents null t head (prev x) (update (update next (prev x) null) x null)
      (update prev x null) := by
  have hnodup := List.nodup_append.mp h.nodup
  have hxt : x ∉ t := fun hmem => hnodup.2.2 x hmem x (List.mem_singleton_self x) rfl
  have hprev : prev x = t.getLastD null := by
    rw [h.prev_eq]
    exact predIn_of_head? h.nodup rfl
  obtain ⟨t, b, rfl⟩ := exists_append_singleton ht
  rw [List.getLastD_eq_getLast?, List.getLast?_concat, Option.getD_some] at hprev
  refine ⟨hnodup.1, fun hmem => h.null_notMem (List.mem_append_left _ hmem), ?_, ?_,
    fun z => ?_, fun z => ?_⟩
  · rw [h.head_eq]
    rcases t with _ | ⟨c, t⟩ <;> rfl
  · rw [hprev, List.getLastD_eq_getLast?, List.getLast?_concat, Option.getD_some]
  · rw [update_apply, update_apply, hprev]
    split_ifs with hzx hzb
    · rw [succIn_of_notMem (hzx ▸ hxt)]
    · rw [hzb, show t ++ [b] = (t ++ [b]) ++ [] by simp,
        succIn_of_getLast? (by simpa using hnodup.1) (by simp)]
      rfl
    · rw [h.next_eq, show t ++ [b] ++ [x] = (t ++ [b]) ++ x :: [] from rfl,
        succIn_append_cons h.nodup hzx (by simpa [eq_comm] using hzb), List.append_nil]
  · rw [update_apply]
    split_ifs with hzx
    · rw [predIn, succIn_of_notMem (by rw [List.mem_reverse]; exact hzx ▸ hxt)]
    · rw [h.prev_eq, show t ++ [b] ++ [x] = (t ++ [b]) ++ x :: [] from rfl,
        predIn_append_cons h.nodup hzx (by simp), List.append_nil]

/-- Removing a node with a predecessor and a successor links the two. -/
theorem remove_middle {l₁ l₂ : List α} {x : α}
    (h : Represents null (l₁ ++ x :: l₂) head tail next prev) (h₁ : l₁ ≠ []) (h₂ : l₂ ≠ []) :
    Represents null (l₁ ++ l₂) head tail (update (update next (prev x) (next x)) x null)
      (update (update prev (next x) (prev x)) x null) := by
  have hnodup := h.nodup
  have hsplit := List.nodup_append.mp hnodup
  have hxl₁ : x ∉ l₁ := fun hmem => hsplit.2.2 x hmem x (List.mem_cons_self ..) rfl
  have hxl₂ : x ∉ l₂ := (List.nodup_cons.mp hsplit.2.1).1
  have hold : (l₁ ++ l₂).Nodup := List.nodup_append.mpr ⟨hsplit.1,
    (List.nodup_cons.mp hsplit.2.1).2, fun a ha b hb => hsplit.2.2 a ha b (List.mem_cons_of_mem _ hb)⟩
  have hxl : x ∉ l₁ ++ l₂ := by
    rw [List.mem_append, not_or]
    exact ⟨hxl₁, hxl₂⟩
  have hnext : next x = l₂.headD null := by
    rw [h.next_eq, show l₁ ++ x :: l₂ = (l₁ ++ [x]) ++ l₂ by simp,
      succIn_of_getLast? (by simpa using hnodup) (by simp)]
  have hprev : prev x = l₁.getLastD null := by
    rw [h.prev_eq]
    exact predIn_of_head? hnodup rfl
  obtain ⟨t₁, p, rfl⟩ := exists_append_singleton h₁
  obtain ⟨n, t₂, rfl⟩ := List.exists_cons_of_ne_nil h₂
  rw [List.getLastD_eq_getLast?, List.getLast?_concat, Option.getD_some] at hprev
  rw [List.headD_cons] at hnext
  refine ⟨hold, fun hmem => h.null_notMem ?_, ?_, ?_, fun z => ?_, fun z => ?_⟩
  · rw [List.mem_append] at hmem ⊢
    exact hmem.imp id (List.mem_cons_of_mem _)
  · rw [h.head_eq]
    rcases t₁ with _ | ⟨b, t⟩ <;> rfl
  · rw [h.tail_eq, List.getLastD_eq_getLast?, List.getLastD_eq_getLast?]
    simp [List.getLast?_append]
  · rw [update_apply, update_apply, hprev, hnext]
    split_ifs with hzx hzp
    · exact (succIn_of_notMem (hzx ▸ hxl)).symm
    · rw [hzp, succIn_of_getLast? hold (by simp)]
      rfl
    · rw [h.next_eq, succIn_append_cons hnodup hzx (by simpa [eq_comm] using hzp)]
  · rw [update_apply, update_apply, hprev, hnext]
    split_ifs with hzx hzn
    · rw [predIn, succIn_of_notMem (by rw [List.mem_reverse]; exact hzx ▸ hxl)]
    · rw [hzn, predIn_of_head? hold rfl]
      simp [List.getLastD_eq_getLast?]
    · rw [h.prev_eq, predIn_append_cons hnodup hzx (by simpa [eq_comm] using hzn)]

/-! ## Traversal -/

/-- Following `next` from any element of `l` visits exactly the rest of `l`, given at least
as many steps as there are elements left. -/
theorem walk_suffix (h : Represents null l head tail next prev) :
    ∀ (suf pre : List α), l = pre ++ suf → ∀ fuel, suf.length ≤ fuel →
      walk null next fuel (suf.headD null) = suf := by
  intro suf
  induction suf with
  | nil =>
      intro pre _ fuel _
      cases fuel <;> simp [walk]
  | cons a t ih =>
      intro pre hl fuel hfuel
      obtain ⟨fuel, rfl⟩ : ∃ k, fuel = k + 1 := ⟨fuel - 1, by simp at hfuel; omega⟩
      have ha : a ≠ null := h.ne_null_of_mem (by simp [hl])
      have hnext : next a = t.headD null := by
        rw [h.next_eq, hl, show pre ++ a :: t = (pre ++ [a]) ++ t by simp]
        exact succIn_of_getLast? (by simpa [← hl] using h.nodup) (by simp)
      rw [List.headD_cons, walk, if_neg ha, hnext,
        ih (pre ++ [a]) (by simp [hl]) fuel (by simpa using hfuel)]

/-- Following `next` from the head visits exactly the list. -/
theorem walk_eq (h : Represents null l head tail next prev) {fuel : ℕ} (hfuel : l.length ≤ fuel) :
    walk null next fuel head = l := by
  rw [h.head_eq]
  exact h.walk_suffix l [] rfl fuel hfuel

end Represents

/-! ## Order along the list -/

omit [DecidableEq α] in
/-- A new element between two parts of a list related pairwise by `R` keeps the list
related pairwise, if it stands in `R` after everything before it and before everything
after it. -/
theorem pairwise_insert_of_bounds {R : α → α → Prop} {A B : List α} {x : α}
    (h : (A ++ B).Pairwise R) (hA : ∀ a ∈ A, R a x) (hB : ∀ b ∈ B, R x b) :
    (A ++ x :: B).Pairwise R := by
  rw [List.pairwise_append] at h ⊢
  refine ⟨h.1, List.pairwise_cons.mpr ⟨hB, h.2.1⟩, fun a ha b hb => ?_⟩
  rcases List.mem_cons.mp hb with rfl | hb
  · exact hA a ha
  · exact h.2.2 a ha b hb

end PointerList
