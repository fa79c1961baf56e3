import ZeroProtocol.SortedTroves.Model

/-!
# The representation invariant of `SortedTroves`

`Valid getNominalICR d l` says that the storage `d` holds the list `l`: the pointers encode
`l` (`PointerList.Represents`), `exists` marks exactly its members, `size` is its length and
at most `maxSize`, and `l` is sorted by `getNominalICR`, largest first.

The proof that every call keeps `Valid` follows the code.

* `Fits l NICR prevId nextId` says where a node with key `NICR` may go in `l`, and
  `_validInsertPosition` accepts only positions that fit.
* Each search loop keeps a one-sided bound on the node it stands on: `_descendList` on a
  node whose key is at least `NICR`, `_ascendList` on one whose key is at most `NICR`.  On a
  sorted list the loop can then only stop at a position that fits, and `_findInsertPosition`
  drops exactly the hints for which the bound fails.
* `splice` at a fitting position inserts the node into `l` and keeps it sorted, with one case
  of `PointerList.Represents` for each branch of `_insert`; `unlink` and `deleteNode` remove
  it, with one case for each branch of `_remove`.

The keys are a fixed function throughout, and a call that moves a node is given the key
the node has (`Op.KeysMatch`): this is how the trove manager calls the list.
`WellFormed` states on the storage alone what a caller relies on; `Valid.wellFormed`
derives it from `Valid`, and `reachable_wellFormed` holds it over every run.
-/

namespace ZeroProtocol.SortedTroves

open PointerList Function

variable (getNominalICR : Address → ℕ)

/-- Storage `d` holds the list `l`, sorted by `getNominalICR` from largest to smallest. -/
structure Valid (d : Data) (l : List Address) : Prop where
  represents : Represents 0 l d.head d.tail d.next d.prev
  contains_iff : ∀ x, d.contains x = true ↔ x ∈ l
  size_eq : d.size = l.length
  size_le : d.size ≤ d.maxSize
  sorted : l.Pairwise (fun a b => getNominalICR b ≤ getNominalICR a)

/-- Where a node with key `NICR` may go in `l`: between `prevId` and `nextId`, with `0`
standing for either end. -/
inductive Fits (l : List Address) (NICR : ℕ) : Address → Address → Prop
  | empty : l = [] → Fits l NICR 0 0
  | front {nextId : Address} : l.head? = some nextId → getNominalICR nextId ≤ NICR →
      Fits l NICR 0 nextId
  | back {prevId : Address} : l.getLast? = some prevId → NICR ≤ getNominalICR prevId →
      Fits l NICR prevId 0
  | between {prevId nextId : Address} (l₁ l₂ : List Address) :
      l = l₁ ++ prevId :: nextId :: l₂ → getNominalICR nextId ≤ NICR →
      NICR ≤ getNominalICR prevId → Fits l NICR prevId nextId

/-- A call gives the node it inserts or moves the key that node has. -/
def Op.KeysMatch : Op → Prop
  | .insert id NICR _ _ => getNominalICR id = NICR
  | .remove _ => True
  | .reInsert id newNICR _ _ => getNominalICR id = newNICR

/-- One successful call, with any gas and any hints, that keeps the keys. -/
def Step (d d' : Data) : Prop :=
  ∃ (op : Op) (gas : ℕ), op.KeysMatch getNominalICR ∧ op.run getNominalICR d gas = .ok d'

/-- What a caller of the list relies on, stated on the storage alone. -/
structure WellFormed (d : Data) : Prop where
  /-- Following `nextId` from `head` visits exactly the members, each once, and stops at
  `tail` after `size` of them. -/
  traversal : ∃ l : List Address, l.Nodup ∧ (∀ x, d.contains x = true ↔ x ∈ l) ∧
    d.size = l.length ∧ l.getLastD 0 = d.tail ∧
    ∀ fuel, d.size ≤ fuel → walk 0 d.next fuel d.head = l
  size_le_maxSize : d.size ≤ d.maxSize
  next_eq_iff_prev_eq : ∀ x y, x ≠ 0 → y ≠ 0 → (d.next x = y ↔ d.prev y = x)
  prev_head : d.prev d.head = 0
  next_tail : d.next d.tail = 0
  head_eq_zero_iff : d.head = 0 ↔ d.size = 0
  tail_eq_zero_iff : d.tail = 0 ↔ d.size = 0
  not_contains_zero : d.contains 0 = false
  next_zero : d.next 0 = 0
  prev_zero : d.prev 0 = 0
  key_next_le : ∀ x, d.contains x = true → d.next x ≠ 0 →
    getNominalICR (d.next x) ≤ getNominalICR x

/-- The invariant of `_descendList`'s loop on `(prevId, nextId)`: `nextId` follows `prevId`,
a member with key at least `NICR`, or `0` on an empty list. -/
def DescendInv (d : Data) (l : List Address) (NICR : ℕ) (s : Address × Address) : Prop :=
  s.2 = d.next s.1 ∧ ((s.1 = 0 ∧ l = []) ∨ (s.1 ∈ l ∧ NICR ≤ getNominalICR s.1))

/-- The invariant of `_ascendList`'s loop on `(prevId, nextId)`: `prevId` precedes `nextId`,
a member with key at most `NICR`. -/
def AscendInv (d : Data) (l : List Address) (NICR : ℕ) (s : Address × Address) : Prop :=
  s.1 = d.prev s.2 ∧ s.2 ∈ l ∧ getNominalICR s.2 ≤ NICR

variable {getNominalICR} {d : Data} {l : List Address}

namespace Valid

theorem empty (maxSize : ℕ) : Valid getNominalICR (Data.empty maxSize) [] where
  represents := Represents.empty
  contains_iff := by simp
  size_eq := rfl
  size_le := Nat.zero_le _
  sorted := List.Pairwise.nil

theorem ne_zero (hv : Valid getNominalICR d l) {x : Address} (hx : x ∈ l) : x ≠ 0 :=
  hv.represents.ne_null_of_mem hx

theorem head_mem (hv : Valid getNominalICR d l) (hh : d.head ≠ 0) : d.head ∈ l :=
  List.mem_of_mem_head? (hv.represents.head?_eq hh)

/-- Consecutive nodes are in order. -/
theorem key_le_of_split (hv : Valid getNominalICR d l) {l₁ l₂ : List Address}
    {a b : Address} (hl : l = l₁ ++ a :: b :: l₂) : getNominalICR b ≤ getNominalICR a := by
  have hs := hv.sorted
  rw [hl, List.pairwise_append, List.pairwise_cons] at hs
  exact hs.2.1.1 b (List.mem_cons_self ..)

/-! ## Insert positions -/

/-- `_validInsertPosition` accepts only positions that fit. -/
theorem fits_of_validInsertPosition (hv : Valid getNominalICR d l) {NICR : ℕ}
    {prevId nextId : Address} (h : validInsertPosition getNominalICR d NICR prevId nextId = true) :
    Fits getNominalICR l NICR prevId nextId := by
  unfold validInsertPosition at h
  split_ifs at h with hboth hprev hnext
  · -- `(0, 0)` on an empty list
    obtain ⟨rfl, rfl⟩ := hboth
    have hsize : d.size = 0 := by simpa [Data.isEmpty] using h
    exact Fits.empty (List.eq_nil_of_length_eq_zero (hv.size_eq ▸ hsize))
  · -- `(0, nextId)` with `nextId` the head
    subst hprev
    have hn : nextId ≠ 0 := by simpa using hboth
    simp only [Bool.and_eq_true, beq_iff_eq, decide_eq_true_eq] at h
    obtain ⟨hhead, hkey⟩ := h
    exact Fits.front (hhead ▸ hv.represents.head?_eq (hhead ▸ hn)) hkey
  · -- `(prevId, 0)` with `prevId` the tail
    subst hnext
    simp only [Bool.and_eq_true, beq_iff_eq, decide_eq_true_eq] at h
    obtain ⟨htail, hkey⟩ := h
    exact Fits.back (htail ▸ hv.represents.getLast?_eq (htail ▸ hprev)) hkey
  · -- two adjacent nodes
    simp only [Bool.and_eq_true, beq_iff_eq, decide_eq_true_eq] at h
    obtain ⟨⟨hadj, hp⟩, hn⟩ := h
    obtain ⟨l₁, l₂, hl⟩ := hv.represents.next_split (hadj ▸ hnext)
    exact Fits.between l₁ l₂ (by rw [hl, hadj]) hn hp

/-- A round of `_descendList`: a node with key at least `NICR` that does not start a valid
position has a successor, whose key is again at least `NICR`. -/
theorem next_of_invalid (hv : Valid getNominalICR d l) {NICR : ℕ} {p : Address} (hp : p ∈ l)
    (hkey : NICR ≤ getNominalICR p)
    (hinvalid : validInsertPosition getNominalICR d NICR p (d.next p) = false) :
    d.next p ∈ l ∧ NICR ≤ getNominalICR (d.next p) := by
  have hp0 : p ≠ 0 := hv.ne_zero hp
  by_cases hn : d.next p = 0
  · -- `p` would be the tail, after which the position is valid
    have htail : d.tail = p := hv.represents.tail_eq_of_next_eq_null hp hn
    simp [validInsertPosition, hp0, hn, htail, hkey] at hinvalid
  · obtain ⟨l₁, l₂, hl⟩ := hv.represents.next_split hn
    simp only [validInsertPosition, hp0, hn, and_self, if_false, beq_self_eq_true,
      decide_eq_true hkey, Bool.true_and, decide_eq_false_iff_not, not_le] at hinvalid
    exact ⟨by rw [hl]; simp, hinvalid.le⟩

/-- A round of `_ascendList`: a node with key at most `NICR` that does not end a valid
position has a predecessor, whose key is again at most `NICR`. -/
theorem prev_of_invalid (hv : Valid getNominalICR d l) {NICR : ℕ} {n : Address} (hn : n ∈ l)
    (hkey : getNominalICR n ≤ NICR)
    (hinvalid : validInsertPosition getNominalICR d NICR (d.prev n) n = false) :
    d.prev n ∈ l ∧ getNominalICR (d.prev n) ≤ NICR := by
  have hn0 : n ≠ 0 := hv.ne_zero hn
  by_cases hp : d.prev n = 0
  · -- `n` would be the head, before which the position is valid
    have hhead : d.head = n := hv.represents.head_eq_of_prev_eq_null hn hp
    simp [validInsertPosition, hp, hn0, hhead, hkey] at hinvalid
  · obtain ⟨l₁, l₂, hl⟩ := hv.represents.prev_split hp
    simp only [validInsertPosition, hp, hn0, and_self, if_false,
      hv.represents.next_prev hp, beq_self_eq_true, decide_eq_true hkey, Bool.true_and,
      Bool.and_true, decide_eq_false_iff_not, not_le] at hinvalid
    exact ⟨by rw [hl]; simp, hinvalid.le⟩

/-- A round of `_descendList`'s loop keeps its invariant and moves one place down the list. -/
theorem descendInv_step (hv : Valid getNominalICR d l) {NICR : ℕ} {s : Address × Address}
    (hinv : DescendInv getNominalICR d l NICR s)
    (hcond : (s.1 != 0 && !validInsertPosition getNominalICR d NICR s.1 s.2) = true) :
    DescendInv getNominalICR d l NICR (d.next s.1, d.next (d.next s.1)) ∧
      l.idxOf (d.next s.1) = l.idxOf s.1 + 1 ∧ s.1 ∈ l := by
  obtain ⟨p, n⟩ := s
  obtain ⟨hn, hbound⟩ := hinv
  simp only [Bool.and_eq_true, bne_iff_ne, ne_eq, Bool.not_eq_true'] at hcond hn
  subst hn
  -- the test holds, so the loop stands on a member and not on `0`
  have hmem : p ∈ l ∧ NICR ≤ getNominalICR p := hbound.resolve_left (fun h => hcond.1 h.1)
  have hnext := hv.next_of_invalid hmem.1 hmem.2 hcond.2
  exact ⟨⟨rfl, Or.inr hnext⟩, hv.represents.idxOf_next (hv.ne_zero hnext.1), hmem.1⟩

/-- A round of `_ascendList`'s loop keeps its invariant and moves one place up the list. -/
theorem ascendInv_step (hv : Valid getNominalICR d l) {NICR : ℕ} {s : Address × Address}
    (hinv : AscendInv getNominalICR d l NICR s)
    (hcond : (s.2 != 0 && !validInsertPosition getNominalICR d NICR s.1 s.2) = true) :
    AscendInv getNominalICR d l NICR (d.prev (d.prev s.2), d.prev s.2) ∧
      l.idxOf (d.prev s.2) + 1 = l.idxOf s.2 := by
  obtain ⟨p, n⟩ := s
  obtain ⟨hp, hmem, hbound⟩ := hinv
  simp only [Bool.and_eq_true, bne_iff_ne, ne_eq, Bool.not_eq_true'] at hcond hp
  subst hp
  have hprev := hv.prev_of_invalid hmem hbound hcond.2
  exact ⟨⟨rfl, hprev⟩, hv.represents.idxOf_prev (hv.ne_zero hprev.1)⟩

/-- The `while` loop of `_descendList`, started on `p` with its successor: on a node with key
at least `NICR`, or on `0` when the list is empty, it can only stop at a fitting position. -/
theorem fits_of_descendLoop (hv : Valid getNominalICR d l) {NICR gas : ℕ} {p : Address}
    {r : Address × Address} (hstart : (p = 0 ∧ l = []) ∨ (p ∈ l ∧ NICR ≤ getNominalICR p))
    (h : descendLoop getNominalICR d NICR gas (p, d.next p) = .ok r) :
    Fits getNominalICR l NICR r.1 r.2 := by
  obtain ⟨⟨hn, hbound⟩, hexit⟩ := Loop.whileGas_inv (DescendInv getNominalICR d l NICR)
    (fun _ hinv hcond => (hv.descendInv_step hinv hcond).1) gas _ r ⟨rfl, hstart⟩ h
  obtain ⟨p', n'⟩ := r
  simp only [Bool.and_eq_false_iff, bne_eq_false_iff_eq, Bool.not_eq_false'] at hexit hn
  subst hn
  by_cases hp' : p' = 0
  · -- the loop left the list: only possible on an empty list
    subst hp'
    obtain ⟨-, hl⟩ := hbound.resolve_right (fun h => hv.ne_zero h.1 rfl)
    rw [hv.represents.next_null]
    exact Fits.empty hl
  · exact hv.fits_of_validInsertPosition (hexit.resolve_left hp')

/-- The `while` loop of `_ascendList`, started on a node `n` with key at most `NICR` and its
predecessor, can only stop at a fitting position. -/
theorem fits_of_ascendLoop (hv : Valid getNominalICR d l) {NICR gas : ℕ} {n : Address}
    {r : Address × Address} (hn : n ∈ l) (hkey : getNominalICR n ≤ NICR)
    (h : ascendLoop getNominalICR d NICR gas (d.prev n, n) = .ok r) :
    Fits getNominalICR l NICR r.1 r.2 := by
  obtain ⟨⟨-, hmem, -⟩, hexit⟩ := Loop.whileGas_inv (AscendInv getNominalICR d l NICR)
    (fun _ hinv hcond => (hv.ascendInv_step hinv hcond).1) gas _ r ⟨rfl, hn, hkey⟩ h
  obtain ⟨p', n'⟩ := r
  simp only [Bool.and_eq_false_iff, bne_eq_false_iff_eq, Bool.not_eq_false'] at hexit
  exact hv.fits_of_validInsertPosition (hexit.resolve_left (hv.ne_zero hmem))

/-- `_descendList`'s loop returns within `l.length` rounds. -/
theorem descendLoop_ok (hv : Valid getNominalICR d l) {NICR gas : ℕ} {p : Address}
    (hstart : (p = 0 ∧ l = []) ∨ (p ∈ l ∧ NICR ≤ getNominalICR p)) (hgas : l.length ≤ gas) :
    ∃ r, descendLoop getNominalICR d NICR gas (p, d.next p) = .ok r := by
  -- the measure is the number of places from the current node to the end of the list
  refine Loop.whileGas_ok (DescendInv getNominalICR d l NICR) (fun s => l.length - l.idxOf s.1)
    (fun s hinv hcond => ?_) gas _ ⟨rfl, hstart⟩ (by omega)
  obtain ⟨hinv', hidx, hmem⟩ := hv.descendInv_step hinv hcond
  have hlt : l.idxOf s.1 < l.length := List.idxOf_lt_length_of_mem hmem
  refine ⟨hinv', ?_⟩
  show l.length - l.idxOf (d.next s.1) < l.length - l.idxOf s.1
  omega

/-- `_ascendList`'s loop, started on a member with key at most `NICR`, returns within
`l.length` rounds. -/
theorem ascendLoop_ok (hv : Valid getNominalICR d l) {NICR gas : ℕ} {n : Address} (hn : n ∈ l)
    (hkey : getNominalICR n ≤ NICR) (hgas : l.length ≤ gas) :
    ∃ r, ascendLoop getNominalICR d NICR gas (d.prev n, n) = .ok r := by
  -- the measure is the number of places above the current node
  have hlt : l.idxOf n < l.length := List.idxOf_lt_length_of_mem hn
  refine Loop.whileGas_ok (AscendInv getNominalICR d l NICR) (fun s => l.idxOf s.2)
    (fun s hinv hcond => ?_) gas _ ⟨rfl, hn, hkey⟩ (by dsimp only; omega)
  obtain ⟨hinv', hidx⟩ := hv.ascendInv_step hinv hcond
  refine ⟨hinv', ?_⟩
  show l.idxOf (d.prev s.2) < l.idxOf s.2
  omega

/-- Unless `_descendList` stops before the head, its loop starts within its invariant. -/
theorem descendStart (hv : Valid getNominalICR d l) {NICR : ℕ} {startId : Address}
    (hstart : startId = d.head ∨ (startId ∈ l ∧ NICR ≤ getNominalICR startId))
    (hfront : ¬(d.head = startId ∧ NICR ≥ getNominalICR startId)) :
    (startId = 0 ∧ l = []) ∨ (startId ∈ l ∧ NICR ≤ getNominalICR startId) := by
  rcases hstart with rfl | hstart
  · by_cases h0 : d.head = 0
    · exact Or.inl ⟨h0, hv.represents.head_eq_null_iff.mp h0⟩
    · -- the head did not take the node, so its key is above `NICR`
      have hkey : NICR < getNominalICR d.head := by simpa using hfront
      exact Or.inr ⟨hv.head_mem h0, hkey.le⟩
  · exact Or.inr hstart

/-- `_descendList` from the head, or from a node with key at least `NICR`. -/
theorem fits_of_descendList (hv : Valid getNominalICR d l) {NICR gas : ℕ} {startId : Address}
    {r : Address × Address}
    (hstart : startId = d.head ∨ (startId ∈ l ∧ NICR ≤ getNominalICR startId))
    (h : descendList getNominalICR d gas NICR startId = .ok r) :
    Fits getNominalICR l NICR r.1 r.2 := by
  unfold descendList at h
  split_ifs at h with hfront
  · -- the position before the head
    obtain ⟨hhead, hkey⟩ := hfront
    rw [Revert.pure_eq_ok] at h
    subst h
    by_cases h0 : startId = 0
    · subst h0
      exact Fits.empty (hv.represents.head_eq_null_iff.mp hhead)
    · exact Fits.front (hhead ▸ hv.represents.head?_eq (hhead ▸ h0)) hkey
  · exact hv.fits_of_descendLoop (hv.descendStart hstart hfront) h

theorem descendList_ok (hv : Valid getNominalICR d l) {NICR gas : ℕ} {startId : Address}
    (hstart : startId = d.head ∨ (startId ∈ l ∧ NICR ≤ getNominalICR startId))
    (hgas : l.length ≤ gas) : ∃ r, descendList getNominalICR d gas NICR startId = .ok r := by
  unfold descendList
  split_ifs with hfront
  · exact ⟨_, rfl⟩
  · exact hv.descendLoop_ok (hv.descendStart hstart hfront) hgas

/-- `_ascendList` from a node with key at most `NICR`. -/
theorem fits_of_ascendList (hv : Valid getNominalICR d l) {NICR gas : ℕ} {startId : Address}
    {r : Address × Address} (hstart : startId ∈ l) (hkey : getNominalICR startId ≤ NICR)
    (h : ascendList getNominalICR d gas NICR startId = .ok r) :
    Fits getNominalICR l NICR r.1 r.2 := by
  unfold ascendList at h
  split_ifs at h with hback
  · -- the position after the tail
    obtain ⟨htail, hkey'⟩ := hback
    rw [Revert.pure_eq_ok] at h
    subst h
    exact Fits.back (htail ▸ hv.represents.getLast?_eq (htail ▸ hv.ne_zero hstart)) hkey'
  · exact hv.fits_of_ascendLoop hstart hkey h

theorem ascendList_ok (hv : Valid getNominalICR d l) {NICR gas : ℕ} {startId : Address}
    (hstart : startId ∈ l) (hkey : getNominalICR startId ≤ NICR) (hgas : l.length ≤ gas) :
    ∃ r, ascendList getNominalICR d gas NICR startId = .ok r := by
  unfold ascendList
  split_ifs with hback
  · exact ⟨_, rfl⟩
  · exact hv.ascendLoop_ok hstart hkey hgas

/-- A `prevId` hint that `_findInsertPosition` keeps is `0` or a member with key at least
`NICR`. -/
theorem prevHint_bound (hv : Valid getNominalICR d l) {NICR : ℕ} {prevId p : Address}
    (hp : (if prevId ≠ 0 ∧ (!d.contains prevId ||
      decide (NICR > getNominalICR prevId)) = true then 0 else prevId) = p) :
    p = 0 ∨ (p ∈ l ∧ NICR ≤ getNominalICR p) := by
  subst hp
  split_ifs with hstale
  · exact Or.inl rfl
  · by_cases h0 : prevId = 0
    · exact Or.inl h0
    · simp only [h0, ne_eq, not_false_eq_true, true_and, Bool.or_eq_true, Bool.not_eq_true',
        decide_eq_true_eq, not_or, Bool.not_eq_false, not_lt] at hstale
      exact Or.inr ⟨(hv.contains_iff prevId).mp hstale.1, hstale.2⟩

/-- A `nextId` hint that `_findInsertPosition` keeps is `0` or a member with key at most
`NICR`. -/
theorem nextHint_bound (hv : Valid getNominalICR d l) {NICR : ℕ} {nextId n : Address}
    (hn : (if nextId ≠ 0 ∧ (!d.contains nextId ||
      decide (NICR < getNominalICR nextId)) = true then 0 else nextId) = n) :
    n = 0 ∨ (n ∈ l ∧ getNominalICR n ≤ NICR) := by
  subst hn
  split_ifs with hstale
  · exact Or.inl rfl
  · by_cases h0 : nextId = 0
    · exact Or.inl h0
    · simp only [h0, ne_eq, not_false_eq_true, true_and, Bool.or_eq_true, Bool.not_eq_true',
        decide_eq_true_eq, not_or, Bool.not_eq_false, not_lt] at hstale
      exact Or.inr ⟨(hv.contains_iff nextId).mp hstale.1, hstale.2⟩

/-- `_findInsertPosition` returns a fitting position, whatever the hints. -/
theorem fits_of_findInsertPosition (hv : Valid getNominalICR d l) {NICR gas : ℕ}
    {prevId nextId : Address} {r : Address × Address}
    (h : findInsertPosition getNominalICR d gas NICR prevId nextId = .ok r) :
    Fits getNominalICR l NICR r.1 r.2 := by
  unfold findInsertPosition at h
  dsimp only at h
  -- a hint that survives is a member on the right side of `NICR`
  generalize hp : (if prevId ≠ 0 ∧ (!d.contains prevId ||
    decide (NICR > getNominalICR prevId)) = true then 0 else prevId) = p at h
  generalize hn : (if nextId ≠ 0 ∧ (!d.contains nextId ||
    decide (NICR < getNominalICR nextId)) = true then 0 else nextId) = n at h
  have hp' := hv.prevHint_bound hp
  have hn' := hv.nextHint_bound hn
  split_ifs at h with hboth hprev hnext
  · exact hv.fits_of_descendList (Or.inl rfl) h
  · have hn0 : n ≠ 0 := fun h0 => hboth ⟨hprev, h0⟩
    obtain ⟨hmem, hkey⟩ := hn'.resolve_left hn0
    exact hv.fits_of_ascendList hmem hkey h
  · exact hv.fits_of_descendList (Or.inr (hp'.resolve_left hprev)) h
  · exact hv.fits_of_descendList (Or.inr (hp'.resolve_left hprev)) h

/-- `_findInsertPosition` returns within `l.length` rounds of whichever loop it runs. -/
theorem findInsertPosition_ok (hv : Valid getNominalICR d l) {NICR gas : ℕ}
    {prevId nextId : Address} (hgas : l.length ≤ gas) :
    ∃ r, findInsertPosition getNominalICR d gas NICR prevId nextId = .ok r := by
  unfold findInsertPosition
  dsimp only
  generalize hp : (if prevId ≠ 0 ∧ (!d.contains prevId ||
    decide (NICR > getNominalICR prevId)) = true then 0 else prevId) = p
  generalize hn : (if nextId ≠ 0 ∧ (!d.contains nextId ||
    decide (NICR < getNominalICR nextId)) = true then 0 else nextId) = n
  have hp' := hv.prevHint_bound hp
  have hn' := hv.nextHint_bound hn
  -- the same four cases as the search itself
  split_ifs with hboth hprev hnext
  · exact hv.descendList_ok (Or.inl rfl) hgas
  · obtain ⟨hmem, hkey⟩ := hn'.resolve_left (fun h0 => hboth ⟨hprev, h0⟩)
    exact hv.ascendList_ok hmem hkey hgas
  · exact hv.descendList_ok (Or.inr (hp'.resolve_left hprev)) hgas
  · exact hv.descendList_ok (Or.inr (hp'.resolve_left hprev)) hgas

/-- Conversely, `_validInsertPosition` accepts every fitting position. -/
theorem validInsertPosition_of_fits (hv : Valid getNominalICR d l) {NICR : ℕ}
    {prevId nextId : Address} (hfits : Fits getNominalICR l NICR prevId nextId) :
    validInsertPosition getNominalICR d NICR prevId nextId = true := by
  cases hfits with
  | empty hl =>
      have hsize : d.size = 0 := by rw [hv.size_eq, hl, List.length_nil]
      simp [validInsertPosition, Data.isEmpty, hsize]
  | @front nextId hhead hkey =>
      have hn0 : nextId ≠ 0 := hv.ne_zero (List.mem_of_mem_head? hhead)
      have hdhead : d.head = nextId := by
        rw [hv.represents.head_eq]
        obtain ⟨t, rfl⟩ := List.head?_eq_some_iff.mp hhead
        rfl
      simp [validInsertPosition, hn0, hdhead, hkey]
  | @back prevId hlast hkey =>
      have hp0 : prevId ≠ 0 := hv.ne_zero (List.mem_of_getLast? hlast)
      have hdtail : d.tail = prevId := by
        rw [hv.represents.tail_eq, List.getLastD_eq_getLast?, hlast, Option.getD_some]
      simp [validInsertPosition, hp0, hdtail, hkey]
  | @between prevId nextId l₁ l₂ hl hn hp =>
      have hp0 : prevId ≠ 0 := hv.ne_zero (by simp [hl])
      have hn0 : nextId ≠ 0 := hv.ne_zero (by simp [hl])
      have hnext : d.next prevId = nextId := by
        rw [hv.represents.next_of_split hl, List.headD_cons]
      simp [validInsertPosition, hp0, hn0, hnext, hn, hp]

/-! ## Insertion -/

/-- The bookkeeping half of `_insert`: with the pointers encoding `l'`, a permutation of
`id :: l`, the flags, the size and the order agree. -/
theorem of_insert (hv : Valid getNominalICR d l) {d' : Data} {l' : List Address} {id : Address}
    (hperm : l'.Perm (id :: l)) (hrep : Represents 0 l' d'.head d'.tail d'.next d'.prev)
    (hcontains : ∀ x, d'.contains x = (x == id || d.contains x))
    (hsize : d'.size = d.size + 1) (hmax : d'.maxSize = d.maxSize) (hfull : d.isFull = false)
    (hsorted : l'.Pairwise (fun a b => getNominalICR b ≤ getNominalICR a)) :
    Valid getNominalICR d' l' where
  represents := hrep
  contains_iff x := by
    rw [hcontains, hperm.mem_iff, List.mem_cons, Bool.or_eq_true, beq_iff_eq, hv.contains_iff]
  size_eq := by rw [hsize, hperm.length_eq, hv.size_eq, List.length_cons]
  size_le := by
    have hne : d.size ≠ d.maxSize := by simpa [Data.isFull] using hfull
    have := hv.size_le
    omega
  sorted := hsorted

/-- The splice of `_insert` at a fitting position: one case for each branch of the code. -/
theorem splice_valid (hv : Valid getNominalICR d l) {id prevId nextId : Address}
    (hfits : Fits getNominalICR l (getNominalICR id) prevId nextId) (hnew : d.contains id = false)
    (hid : id ≠ 0) (hfull : d.isFull = false) :
    ∃ l', l'.Perm (id :: l) ∧ Valid getNominalICR
      ((splice d id prevId nextId).setSize ((splice d id prevId nextId).size + 1)) l' := by
  have hidl : id ∉ l := fun hmem => by simp [(hv.contains_iff id).mpr hmem] at hnew
  have hcontains : ∀ x, ((splice d id prevId nextId).setSize
      ((splice d id prevId nextId).size + 1)).contains x = (x == id || d.contains x) := by simp
  cases hfits with
  | empty hl =>
      -- insert as head and tail
      subst hl
      refine ⟨[id], List.Perm.refl _, hv.of_insert (List.Perm.refl _) ?_ hcontains (by simp)
        (by simp) hfull (List.pairwise_singleton _ _)⟩
      simpa [splice] using hv.represents.insert_empty hid
  | @front nextId hhead hkey =>
      -- insert before the head
      have hne : l ≠ [] := by rintro rfl; simp at hhead
      have hn0 : nextId ≠ 0 := hv.ne_zero (List.mem_of_mem_head? hhead)
      have hdhead : d.head = nextId := by
        rw [hv.represents.head_eq]
        obtain ⟨t, rfl⟩ := List.head?_eq_some_iff.mp hhead
        rfl
      refine ⟨id :: l, List.Perm.refl _, hv.of_insert (List.Perm.refl _) ?_ hcontains (by simp)
        (by simp) hfull ?_⟩
      · simpa [splice, hn0] using hv.represents.insert_front hne hidl hid
      · obtain ⟨t, rfl⟩ := List.head?_eq_some_iff.mp hhead
        refine pairwise_insert_of_bounds (A := []) hv.sorted (by simp) fun b hb => ?_
        rcases List.mem_cons.mp hb with rfl | hb
        · exact hkey
        · exact le_trans (List.rel_of_pairwise_cons hv.sorted hb) hkey
  | @back prevId hlast hkey =>
      -- insert after the tail
      have hne : l ≠ [] := by rintro rfl; simp at hlast
      have hp0 : prevId ≠ 0 := hv.ne_zero (List.mem_of_getLast? hlast)
      have hdtail : d.tail = prevId := by
        rw [hv.represents.tail_eq, List.getLastD_eq_getLast?, hlast, Option.getD_some]
      refine ⟨l ++ [id], List.perm_append_singleton _ _, hv.of_insert
        (List.perm_append_singleton _ _) ?_ hcontains (by simp) (by simp) hfull ?_⟩
      · simpa [splice, hp0] using hv.represents.insert_back hne hidl hid
      · obtain ⟨t, a, rfl⟩ := exists_append_singleton hne
        rw [List.getLast?_concat, Option.some.injEq] at hlast
        subst hlast
        refine pairwise_insert_of_bounds (B := []) (by simpa using hv.sorted) (fun x hx => ?_)
          (by simp)
        rcases List.mem_append.mp hx with hx | hx
        · have hs := hv.sorted
          rw [List.pairwise_append] at hs
          exact le_trans hkey (hs.2.2 x hx a (List.mem_singleton_self _))
        · rw [List.mem_singleton] at hx
          exact hx ▸ hkey
  | @between prevId nextId l₁ l₂ hl hn hp =>
      -- insert between two adjacent nodes
      have hp0 : prevId ≠ 0 := hv.ne_zero (by simp [hl])
      have hn0 : nextId ≠ 0 := hv.ne_zero (by simp [hl])
      subst hl
      have hperm : (l₁ ++ prevId :: id :: nextId :: l₂).Perm
          (id :: (l₁ ++ prevId :: nextId :: l₂)) := by
        have h : ((l₁ ++ [prevId]) ++ id :: nextId :: l₂).Perm
            (id :: ((l₁ ++ [prevId]) ++ nextId :: l₂)) := List.perm_middle
        simpa using h
      refine ⟨_, hperm, hv.of_insert hperm ?_ hcontains (by simp) (by simp) hfull ?_⟩
      · simpa [splice, hp0, hn0] using hv.represents.insert_between hidl hid
      · have hs := hv.sorted
        rw [List.pairwise_append] at hs
        have hsplit : l₁ ++ prevId :: id :: nextId :: l₂ =
            (l₁ ++ [prevId]) ++ id :: (nextId :: l₂) := by simp
        rw [hsplit]
        refine pairwise_insert_of_bounds (by simpa using hv.sorted) (fun a ha => ?_)
          (fun b hb => ?_)
        · rcases List.mem_append.mp ha with ha | ha
          · exact le_trans hp (hs.2.2 a ha prevId (List.mem_cons_self ..))
          · rw [List.mem_singleton] at ha
            exact ha ▸ hp
        · rcases List.mem_cons.mp hb with rfl | hb
          · exact hn
          · exact le_trans (List.rel_of_pairwise_cons (List.pairwise_cons.mp hs.2.1).2 hb) hn

/-- `_insert` keeps the invariant, and the new list is the old one with `id` added. -/
theorem insert (hv : Valid getNominalICR d l) {d' : Data} {gas NICR : ℕ}
    {id prevId nextId : Address} (hkey : getNominalICR id = NICR)
    (h : SortedTroves.insert getNominalICR d gas id NICR prevId nextId = .ok d') :
    ∃ l', l'.Perm (id :: l) ∧ Valid getNominalICR d' l' := by
  unfold SortedTroves.insert at h
  simp only [Revert.require_bind_eq_ok] at h
  obtain ⟨hfull, hnew, hid, -, h⟩ := h
  subst hkey
  split_ifs at h with hvalid
  · -- the hint was not valid: search from it
    simp only [Revert.bind_eq_ok, Revert.pure_eq_ok] at h
    obtain ⟨r, hpos, rfl⟩ := h
    exact hv.splice_valid (hv.fits_of_findInsertPosition hpos) hnew hid hfull
  · -- the hint was valid
    simp only [Revert.bind_eq_ok, Revert.pure_eq_ok] at h
    obtain ⟨r, rfl, rfl⟩ := h
    exact hv.splice_valid (hv.fits_of_validInsertPosition (by simpa using hvalid)) hnew hid
      hfull

/-! ## Removal -/

/-- The pointers after `unlink` and `deleteNode` encode the list without `id`: one case for
each branch of `_remove`, told apart by where `id` stands in the list. -/
theorem represents_remove (hv : Valid getNominalICR d l) {id : Address} (hid : id ∈ l) :
    Represents 0 (l.erase id) ((unlink d id).deleteNode id).head
      ((unlink d id).deleteNode id).tail ((unlink d id).deleteNode id).next
      ((unlink d id).deleteNode id).prev := by
  obtain ⟨l₁, l₂, hl⟩ := List.append_of_mem hid
  have hrep : Represents 0 (l₁ ++ id :: l₂) d.head d.tail d.next d.prev := hl ▸ hv.represents
  have hsplit := List.nodup_append.mp hrep.nodup
  have hidl₁ : id ∉ l₁ := fun hmem => hsplit.2.2 id hmem id (List.mem_cons_self ..) rfl
  have hsize : d.size = l₁.length + l₂.length + 1 := by
    rw [hv.size_eq, hl, List.length_append, List.length_cons]
    omega
  rw [hl, List.erase_append_right _ hidl₁, List.erase_cons_head]
  by_cases h₁ : l₁ = [] <;> by_cases h₂ : l₂ = []
  · -- the only node
    subst h₁ h₂
    have hs : ¬d.size > 1 := by simp [hsize]
    rw [unlink, if_neg hs]
    simpa using hrep.remove_single
  · -- the head of a longer list
    subst h₁
    have hs : d.size > 1 := by simp [hsize, List.length_pos_iff.mpr h₂]
    have hh : id = d.head := by rw [hrep.head_eq]; rfl
    rw [unlink, if_pos hs, if_pos hh]
    simpa [← hh] using hrep.remove_head h₂
  · -- the tail of a longer list
    subst h₂
    have hs : d.size > 1 := by simp [hsize, List.length_pos_iff.mpr h₁]
    obtain ⟨a, t, rfl⟩ := List.exists_cons_of_ne_nil h₁
    have hh : id ≠ d.head := by
      rw [hrep.head_eq]
      exact fun h => hidl₁ (h ▸ List.mem_cons_self ..)
    have ht : id = d.tail := by
      rw [hrep.tail_eq, List.getLastD_eq_getLast?, List.getLast?_append]
      simp
    rw [unlink, if_pos hs, if_neg hh, if_pos ht]
    simpa [← ht] using hrep.remove_tail h₁
  · -- a node with a predecessor and a successor
    have hs : d.size > 1 := by simp [hsize, List.length_pos_iff.mpr h₁]
    obtain ⟨a, t, rfl⟩ := List.exists_cons_of_ne_nil h₁
    have hh : id ≠ d.head := by
      rw [hrep.head_eq]
      exact fun h => hidl₁ (h ▸ List.mem_cons_self ..)
    have ht : id ≠ d.tail := by
      have hmem : d.tail ∈ l₂ := by
        obtain ⟨u, b, rfl⟩ := exists_append_singleton h₂
        rw [hrep.tail_eq, show a :: t ++ id :: (u ++ [b]) = (a :: t ++ id :: u) ++ [b] by simp,
          List.getLastD_eq_getLast?, List.getLast?_concat, Option.getD_some]
        simp
      exact fun h => (List.nodup_cons.mp hsplit.2.1).1 (h ▸ hmem)
    -- the predecessor is in `l₁`, so writing its pointer leaves `id`'s own node alone
    have hprev : d.prev id ≠ id := by
      rw [hrep.prev_of_split rfl]
      obtain ⟨u, b, hu⟩ := exists_append_singleton h₁
      rw [hu, List.getLastD_eq_getLast?, List.getLast?_concat, Option.getD_some]
      exact fun h => hidl₁ (by rw [hu, ← h]; simp)
    rw [unlink, if_pos hs, if_neg hh, if_neg ht]
    simpa [Function.update_of_ne hprev.symm] using hrep.remove_middle h₁ h₂

/-- `_remove` keeps the invariant, and the new list is the old one without `id`. -/
theorem remove (hv : Valid getNominalICR d l) {d' : Data} {id : Address}
    (h : SortedTroves.remove d id = .ok d') : Valid getNominalICR d' (l.erase id) := by
  unfold SortedTroves.remove at h
  simp only [Revert.require_bind_eq_ok] at h
  obtain ⟨hmem, h⟩ := h
  simp only [Revert.bind_eq_ok, SafeMath.sub_eq_ok, Revert.pure_eq_ok] at h
  obtain ⟨size, ⟨-, rfl⟩, rfl⟩ := h
  have hid : id ∈ l := (hv.contains_iff id).mp hmem
  refine ⟨by simpa using hv.represents_remove hid, fun x => ?_, ?_, ?_,
    hv.sorted.sublist List.erase_sublist⟩
  · rw [hv.represents.nodup.mem_erase_iff, ← hv.contains_iff]
    simp
  · rw [List.length_erase_of_mem hid, ← hv.size_eq]
    simp
  · have := hv.size_le
    simp only [Data.setSize_size, Data.setSize_maxSize, Data.deleteNode_size,
      Data.deleteNode_maxSize, unlink_size, unlink_maxSize]
    omega

/-- `reInsert` keeps the invariant and the members. -/
theorem reInsert (hv : Valid getNominalICR d l) {d' : Data} {gas newNICR : ℕ}
    {id prevId nextId : Address} (hkey : getNominalICR id = newNICR)
    (h : SortedTroves.reInsert getNominalICR d gas id newNICR prevId nextId = .ok d') :
    ∃ l', l'.Perm l ∧ Valid getNominalICR d' l' := by
  unfold SortedTroves.reInsert at h
  simp only [Revert.require_bind_eq_ok] at h
  obtain ⟨hmem, -, h⟩ := h
  rw [Revert.bind_eq_ok] at h
  obtain ⟨d₁, hremove, hinsert⟩ := h
  obtain ⟨l', hperm, hv'⟩ := (hv.remove hremove).insert hkey hinsert
  exact ⟨l', hperm.trans (List.perm_cons_erase ((hv.contains_iff id).mp hmem)).symm, hv'⟩

/-- **Step lemma.**  Every call that keeps the keys keeps the invariant. -/
theorem step (hv : Valid getNominalICR d l) {d' : Data} (hs : Step getNominalICR d d') :
    ∃ l', Valid getNominalICR d' l' := by
  obtain ⟨op, gas, hkeys, hrun⟩ := hs
  cases op with
  | insert id NICR prevId nextId =>
      obtain ⟨l', -, hv'⟩ := hv.insert hkeys hrun
      exact ⟨l', hv'⟩
  | remove id => exact ⟨_, hv.remove hrun⟩
  | reInsert id newNICR prevId nextId =>
      obtain ⟨l', -, hv'⟩ := hv.reInsert hkeys hrun
      exact ⟨l', hv'⟩

/-- The invariant, read on the storage. -/
theorem wellFormed (hv : Valid getNominalICR d l) : WellFormed getNominalICR d where
  traversal := ⟨l, hv.represents.nodup, hv.contains_iff, hv.size_eq, hv.represents.tail_eq.symm,
    fun _ hfuel => hv.represents.walk_eq (hv.size_eq ▸ hfuel)⟩
  size_le_maxSize := hv.size_le
  next_eq_iff_prev_eq x y hx hy := by
    constructor
    · rintro rfl
      exact hv.represents.prev_next hy
    · rintro rfl
      exact hv.represents.next_prev hx
  prev_head := hv.represents.prev_head
  next_tail := hv.represents.next_tail
  head_eq_zero_iff := by rw [hv.represents.head_eq_null_iff, hv.size_eq, List.length_eq_zero_iff]
  tail_eq_zero_iff := by rw [hv.represents.tail_eq_null_iff, hv.size_eq, List.length_eq_zero_iff]
  not_contains_zero := by
    cases h : d.contains 0 with
    | false => rfl
    | true => exact absurd ((hv.contains_iff 0).mp h) hv.represents.null_notMem
  next_zero := hv.represents.next_null
  prev_zero := hv.represents.prev_null
  key_next_le x _ hn := by
    obtain ⟨l₁, l₂, hl⟩ := hv.represents.next_split hn
    exact hv.key_le_of_split hl

end Valid

/-! ## Runs -/

/-- **Run lemma.**  Every list reached from the empty one by calls that keep the keys holds
a sorted list. -/
theorem reachable_valid {maxSize : ℕ}
    (h : Reachability.Reachable (Step getNominalICR) (Data.empty maxSize) d) :
    ∃ l, Valid getNominalICR d l :=
  Reachability.Reachable.induction (P := fun s => ∃ l, Valid getNominalICR s l)
    ⟨[], Valid.empty maxSize⟩ (fun _ _ ⟨_, hv⟩ hs => hv.step hs) h

/-- Every list reached from the empty one, by any calls of `insert`, `remove` and
`reInsert` with any hints that give each moved node its key, is well formed. -/
theorem reachable_wellFormed {maxSize : ℕ}
    (h : Reachability.Reachable (Step getNominalICR) (Data.empty maxSize) d) :
    WellFormed getNominalICR d := by
  obtain ⟨l, hv⟩ := reachable_valid h
  exact hv.wellFormed

/-- The list that three insertions of the keys `5`, `7` and `6`, with no hints, build. -/
theorem reachable_three_inserts {d₁ d₂ d₃ : Data}
    (h₁ : Op.run (fun x => x) (Data.empty 3) 1 (.insert 5 5 0 0) = .ok d₁)
    (h₂ : Op.run (fun x => x) d₁ 1 (.insert 7 7 0 0) = .ok d₂)
    (h₃ : Op.run (fun x => x) d₂ 1 (.insert 6 6 0 0) = .ok d₃) :
    Reachability.Reachable (Step (fun x => x)) (Data.empty 3) d₃ :=
  Reachability.Reachable.tail (Reachability.Reachable.tail
    (Reachability.Reachable.tail Reachability.Reachable.init ⟨.insert 5 5 0 0, 1, rfl, h₁⟩)
    ⟨.insert 7 7 0 0, 1, rfl, h₂⟩) ⟨.insert 6 6 0 0, 1, rfl, h₃⟩

/-- Three insertions with no hints, the last two found by `_findInsertPosition` (before the
head, then inside the list), give a well-formed list `7, 6, 5`. -/
theorem wellFormed_after_three_inserts :
    ∃ d₁ d₂ d₃, Op.run (fun x => x) (Data.empty 3) 1 (.insert 5 5 0 0) = .ok d₁ ∧
      Op.run (fun x => x) d₁ 1 (.insert 7 7 0 0) = .ok d₂ ∧
      Op.run (fun x => x) d₂ 1 (.insert 6 6 0 0) = .ok d₃ ∧
      d₃.head = 7 ∧ d₃.next 7 = 6 ∧ d₃.next 6 = 5 ∧ d₃.tail = 5 ∧
      WellFormed (fun x => x) d₃ := by
  refine ⟨_, _, _, rfl, rfl, rfl, rfl, rfl, rfl, rfl, ?_⟩
  exact reachable_wellFormed (reachable_three_inserts rfl rfl rfl)

/-! ## The search for a position -/

/-- On a sorted list, `_findInsertPosition` with any key and any two hints returns, each of
its loops running at most `size` rounds, and returns a position that `_validInsertPosition`
accepts; it returns `(0, 0)` only on an empty list. -/
theorem findInsertPosition_returns_valid (hv : Valid getNominalICR d l) {gas : ℕ}
    (hgas : d.size ≤ gas) (NICR : ℕ) (prevId nextId : Address) :
    ∃ r, findInsertPosition getNominalICR d gas NICR prevId nextId = .ok r ∧
      validInsertPosition getNominalICR d NICR r.1 r.2 = true ∧ (r = (0, 0) → d.size = 0) := by
  obtain ⟨r, hr⟩ : ∃ r, findInsertPosition getNominalICR d gas NICR prevId nextId = .ok r :=
    hv.findInsertPosition_ok (hv.size_eq ▸ hgas)
  have hvalid := hv.validInsertPosition_of_fits (hv.fits_of_findInsertPosition hr)
  refine ⟨r, hr, hvalid, ?_⟩
  rintro rfl
  simpa [validInsertPosition, Data.isEmpty] using hvalid

/-- On the list `7, 6, 5`, a key of `4` with a stale `prevId` and an absent `nextId`. -/
theorem findInsertPosition_returns_valid_three_inserts :
    ∃ d₁ d₂ d₃, Op.run (fun x => x) (Data.empty 3) 1 (.insert 5 5 0 0) = .ok d₁ ∧
      Op.run (fun x => x) d₁ 1 (.insert 7 7 0 0) = .ok d₂ ∧
      Op.run (fun x => x) d₂ 1 (.insert 6 6 0 0) = .ok d₃ ∧
      ∃ l, Valid (fun x => x) d₃ l ∧ d₃.size ≤ 3 ∧
      ∃ r, findInsertPosition (fun x => x) d₃ 3 4 9 2 = .ok r ∧
        validInsertPosition (fun x => x) d₃ 4 r.1 r.2 = true ∧ (r = (0, 0) → d₃.size = 0) := by
  refine ⟨_, _, _, rfl, rfl, rfl, ?_⟩
  obtain ⟨l, hv⟩ := reachable_valid (reachable_three_inserts rfl rfl rfl)
  exact ⟨l, hv, by decide, findInsertPosition_returns_valid hv (by decide) 4 9 2⟩

end ZeroProtocol.SortedTroves
