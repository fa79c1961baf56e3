import ZeroProtocol.Dependencies.LiquityMath
import ZeroProtocol.Lib.PointerList
import ZeroProtocol.Lib.Loop

/-!
# `SortedTroves`: the sorted doubly linked list of troves

`SortedTroves.sol` keeps the active troves in a doubly linked list sorted by nominal
collateral ratio (NICR), largest first.  The keys are not stored: every comparison asks the
trove manager for `getNominalICR` of a node at the moment of the call.  Here that callback
is the parameter `getNominalICR : Address → ℕ`.

Storage is `Data`: `head`, `tail`, `maxSize`, `size` and the map `nodes`.  Each Solidity
assignment to a node field is one of `setExists`, `setNext`, `setPrev`, and `delete` is
`deleteNode`, which resets the node to the all-zero `Node.empty`.

The two search loops `_descendList` and `_ascendList` walk the list until they reach a
valid insert position.  On a list that is not well formed they could run until the
transaction runs out of gas; the model runs them as `Loop.whileGas` with an explicit `gas`
budget, one unit per round, and reverts when it is spent.

Access control (`_requireCallerIsBOorTroveM`, `_requireCallerIsTroveManager`), the owner's
`setParams`, and the events are not modelled.
-/

namespace ZeroProtocol.SortedTroves

/-- A list node: whether the id is in the list, and its two neighbours. -/
structure Node where
  «exists» : Bool
  nextId : Address
  prevId : Address
  deriving DecidableEq, Repr

/-- The all-zero node: what an id never written reads as, and what `delete` leaves. -/
def Node.empty : Node := ⟨false, 0, 0⟩

/-- The list's storage. -/
structure Data where
  head : Address
  tail : Address
  maxSize : ℕ
  size : ℕ
  nodes : Address → Node

namespace Data

/-- The list before the first insertion, with capacity `maxSize`. -/
def empty (maxSize : ℕ) : Data := ⟨0, 0, maxSize, 0, fun _ => Node.empty⟩

/-- The `nextId` pointers as a function. -/
def next (d : Data) (x : Address) : Address := (d.nodes x).nextId

/-- The `prevId` pointers as a function. -/
def prev (d : Data) (x : Address) : Address := (d.nodes x).prevId

/-- Solidity's `data.head = id`. -/
def setHead (d : Data) (id : Address) : Data := { d with head := id }

/-- Solidity's `data.tail = id`. -/
def setTail (d : Data) (id : Address) : Data := { d with tail := id }

/-- Solidity's `data.size = n`. -/
def setSize (d : Data) (n : ℕ) : Data := { d with size := n }

/-- Solidity's `data.nodes[id].exists = true`. -/
def setExists (d : Data) (id : Address) : Data :=
  { d with nodes := Function.update d.nodes id { d.nodes id with «exists» := true } }

/-- Solidity's `data.nodes[id].nextId = y`. -/
def setNext (d : Data) (id y : Address) : Data :=
  { d with nodes := Function.update d.nodes id { d.nodes id with nextId := y } }

/-- Solidity's `data.nodes[id].prevId = y`. -/
def setPrev (d : Data) (id y : Address) : Data :=
  { d with nodes := Function.update d.nodes id { d.nodes id with prevId := y } }

/-- Solidity's `delete data.nodes[id]`. -/
def deleteNode (d : Data) (id : Address) : Data :=
  { d with nodes := Function.update d.nodes id Node.empty }

/-- Whether the list contains `id`. -/
def contains (d : Data) (id : Address) : Bool := (d.nodes id).exists

/-- Whether the list holds `maxSize` nodes. -/
def isFull (d : Data) : Bool := d.size == d.maxSize

/-- Whether the list holds no node. -/
def isEmpty (d : Data) : Bool := d.size == 0

end Data

section Operations

variable (getNominalICR : Address → ℕ) (d : Data)

/-- Source `_validInsertPosition`: whether a node with `NICR` fits between `prevId` and `nextId`. -/
def validInsertPosition (NICR : ℕ) (prevId nextId : Address) : Bool :=
  if prevId = 0 ∧ nextId = 0 then
    -- `(null, null)` is a valid insert position if the list is empty
    d.isEmpty
  else if prevId = 0 then
    d.head == nextId && decide (NICR ≥ getNominalICR nextId)
  else if nextId = 0 then
    d.tail == prevId && decide (NICR ≤ getNominalICR prevId)
  else
    d.next prevId == nextId && decide (getNominalICR prevId ≥ NICR) &&
      decide (NICR ≥ getNominalICR nextId)

/-- The `while` loop of `_descendList` on `(prevId, nextId)`: move one node down while
`prevId` is not `0` and the pair is not a valid insert position. -/
def descendLoop (NICR gas : ℕ) : Address × Address → Except String (Address × Address) :=
  Loop.whileGas
    (fun (prevId, nextId) =>
      prevId != 0 && !validInsertPosition getNominalICR d NICR prevId nextId)
    (fun (prevId, _) =>
      let prevId := d.next prevId
      (prevId, d.next prevId))
    gas

/-- Source `_descendList`: search downwards from `startId`. -/
def descendList (gas NICR : ℕ) (startId : Address) : Except String (Address × Address) :=
  -- If `_startId` is the head, check if the insert position is before the head
  if d.head = startId ∧ NICR ≥ getNominalICR startId then pure (0, startId)
  else descendLoop getNominalICR d NICR gas (startId, d.next startId)

/-- The `while` loop of `_ascendList` on `(prevId, nextId)`: move one node up while
`nextId` is not `0` and the pair is not a valid insert position. -/
def ascendLoop (NICR gas : ℕ) : Address × Address → Except String (Address × Address) :=
  Loop.whileGas
    (fun (prevId, nextId) =>
      nextId != 0 && !validInsertPosition getNominalICR d NICR prevId nextId)
    (fun (_, nextId) =>
      let nextId := d.prev nextId
      (d.prev nextId, nextId))
    gas

/-- Source `_ascendList`: search upwards from `startId`. -/
def ascendList (gas NICR : ℕ) (startId : Address) : Except String (Address × Address) :=
  -- If `_startId` is the tail, check if the insert position is after the tail
  if d.tail = startId ∧ NICR ≤ getNominalICR startId then pure (startId, 0)
  else ascendLoop getNominalICR d NICR gas (d.prev startId, startId)

/-- Source `_findInsertPosition`: drop the hints that are stale, then search from what is left. -/
def findInsertPosition (gas NICR : ℕ) (prevId nextId : Address) :
    Except String (Address × Address) :=
  -- `prevId` does not exist anymore or now has a smaller NICR than the given NICR
  let prevId := if prevId ≠ 0 ∧ (!d.contains prevId || decide (NICR > getNominalICR prevId))
    then 0 else prevId
  -- `nextId` does not exist anymore or now has a larger NICR than the given NICR
  let nextId := if nextId ≠ 0 ∧ (!d.contains nextId || decide (NICR < getNominalICR nextId))
    then 0 else nextId
  if prevId = 0 ∧ nextId = 0 then descendList getNominalICR d gas NICR d.head
  else if prevId = 0 then ascendList getNominalICR d gas NICR nextId
  else if nextId = 0 then descendList getNominalICR d gas NICR prevId
  else descendList getNominalICR d gas NICR prevId

/-- The splice of `_insert` once the position `(prevId, nextId)` is fixed. -/
def splice (id prevId nextId : Address) : Data :=
  let d := d.setExists id
  if prevId = 0 ∧ nextId = 0 then
    -- Insert as head and tail
    (d.setHead id).setTail id
  else if prevId = 0 then
    -- Insert before `prevId` as the head
    let d := d.setNext id d.head
    let d := d.setPrev d.head id
    d.setHead id
  else if nextId = 0 then
    -- Insert after `nextId` as the tail
    let d := d.setPrev id d.tail
    let d := d.setNext d.tail id
    d.setTail id
  else
    -- Insert at insert position between `prevId` and `nextId`
    let d := d.setNext id nextId
    let d := d.setPrev id prevId
    let d := d.setNext prevId id
    d.setPrev nextId id

/-- Source `_insert`: check the preconditions, fix the position, splice the node in. -/
def insert (gas : ℕ) (id : Address) (NICR : ℕ) (prevId nextId : Address) :
    Except String Data := do
  Revert.require (d.isFull = false) "SortedTroves: List is full"
  Revert.require (d.contains id = false) "SortedTroves: List already contains the node"
  Revert.require (id ≠ 0) "SortedTroves: Id cannot be zero"
  Revert.require (NICR > 0) "SortedTroves: NICR must be positive"
  let (prevId, nextId) ←
    if validInsertPosition getNominalICR d NICR prevId nextId = false then
      -- Sender's hint was not a valid insert position
      findInsertPosition getNominalICR d gas NICR prevId nextId
    else pure (prevId, nextId)
  let d := splice d id prevId nextId
  pure (d.setSize (d.size + 1))

/-- The unlinking of `_remove`, before the node is deleted. -/
def unlink (id : Address) : Data :=
  if d.size > 1 then
    if id = d.head then
      -- Set head to next node, and the prev pointer of the new head to null
      let d := d.setHead (d.next id)
      d.setPrev d.head 0
    else if id = d.tail then
      -- Set tail to previous node, and the next pointer of the new tail to null
      let d := d.setTail (d.prev id)
      d.setNext d.tail 0
    else
      -- Link the previous node to the next node, and back
      let d := d.setNext (d.prev id) (d.next id)
      d.setPrev (d.next id) (d.prev id)
  else
    -- List contains a single node: set the head and tail to null
    (d.setHead 0).setTail 0

/-- Source `_remove`: unlink the node, delete it and decrement `size`. -/
def remove (id : Address) : Except String Data := do
  Revert.require (d.contains id = true) "SortedTroves: List does not contain the id"
  let d := (unlink d id).deleteNode id
  let size ← SafeMath.sub d.size 1
  pure (d.setSize size)

/-- Source `reInsert`: remove the node and insert it again with its new NICR. -/
def reInsert (gas : ℕ) (id : Address) (newNICR : ℕ) (prevId nextId : Address) :
    Except String Data := do
  Revert.require (d.contains id = true) "SortedTroves: List does not contain the id"
  Revert.require (newNICR > 0) "SortedTroves: NICR must be positive"
  let d ← remove d id
  insert getNominalICR d gas id newNICR prevId nextId

/-- The list's external operations, as the trove manager and borrower operations call
them. -/
inductive Op
  | insert (id : Address) (NICR : ℕ) (prevId nextId : Address)
  | remove (id : Address)
  | reInsert (id : Address) (newNICR : ℕ) (prevId nextId : Address)
  deriving DecidableEq, Repr

/-- One external call, with `gas` rounds for each search loop. -/
def Op.run (gas : ℕ) : Op → Except String Data
  | .insert id NICR prevId nextId =>
      SortedTroves.insert getNominalICR d gas id NICR prevId nextId
  | .remove id => SortedTroves.remove d id
  | .reInsert id newNICR prevId nextId =>
      SortedTroves.reInsert getNominalICR d gas id newNICR prevId nextId

end Operations

/-! ## Field lemmas

Each storage write changes one field; these lemmas say which, so that proofs about the
operations rewrite through them and never unfold a setter. -/

namespace Data

variable (d : Data) (id y : Address) (n : ℕ)

@[simp] theorem setExists_next : (d.setExists id).next = d.next := by
  funext z
  rcases eq_or_ne z id with rfl | hz <;> simp [next, setExists, *]

@[simp] theorem setExists_prev : (d.setExists id).prev = d.prev := by
  funext z
  rcases eq_or_ne z id with rfl | hz <;> simp [prev, setExists, *]

@[simp] theorem setNext_next : (d.setNext id y).next = Function.update d.next id y := by
  funext z
  rcases eq_or_ne z id with rfl | hz <;> simp [next, setNext, *]

@[simp] theorem setNext_prev : (d.setNext id y).prev = d.prev := by
  funext z
  rcases eq_or_ne z id with rfl | hz <;> simp [prev, setNext, *]

@[simp] theorem setPrev_next : (d.setPrev id y).next = d.next := by
  funext z
  rcases eq_or_ne z id with rfl | hz <;> simp [next, setPrev, *]

@[simp] theorem setPrev_prev : (d.setPrev id y).prev = Function.update d.prev id y := by
  funext z
  rcases eq_or_ne z id with rfl | hz <;> simp [prev, setPrev, *]

@[simp] theorem deleteNode_next : (d.deleteNode id).next = Function.update d.next id 0 := by
  funext z
  rcases eq_or_ne z id with rfl | hz <;> simp [next, deleteNode, Node.empty, *]

@[simp] theorem deleteNode_prev : (d.deleteNode id).prev = Function.update d.prev id 0 := by
  funext z
  rcases eq_or_ne z id with rfl | hz <;> simp [prev, deleteNode, Node.empty, *]

@[simp] theorem setExists_contains (z : Address) :
    (d.setExists id).contains z = (z == id || d.contains z) := by
  rcases eq_or_ne z id with rfl | hz <;> simp [contains, setExists, *]

@[simp] theorem setNext_contains (z : Address) : (d.setNext id y).contains z = d.contains z := by
  rcases eq_or_ne z id with rfl | hz <;> simp [contains, setNext, *]

@[simp] theorem setPrev_contains (z : Address) : (d.setPrev id y).contains z = d.contains z := by
  rcases eq_or_ne z id with rfl | hz <;> simp [contains, setPrev, *]

@[simp] theorem deleteNode_contains (z : Address) :
    (d.deleteNode id).contains z = (z != id && d.contains z) := by
  rcases eq_or_ne z id with rfl | hz <;> simp [contains, deleteNode, Node.empty, *]

@[simp] theorem setHead_next : (d.setHead id).next = d.next := rfl
@[simp] theorem setHead_prev : (d.setHead id).prev = d.prev := rfl
@[simp] theorem setHead_contains : (d.setHead id).contains = d.contains := rfl
@[simp] theorem setHead_head : (d.setHead id).head = id := rfl
@[simp] theorem setHead_tail : (d.setHead id).tail = d.tail := rfl
@[simp] theorem setHead_size : (d.setHead id).size = d.size := rfl
@[simp] theorem setHead_maxSize : (d.setHead id).maxSize = d.maxSize := rfl
@[simp] theorem setTail_next : (d.setTail id).next = d.next := rfl
@[simp] theorem setTail_prev : (d.setTail id).prev = d.prev := rfl
@[simp] theorem setTail_contains : (d.setTail id).contains = d.contains := rfl
@[simp] theorem setTail_head : (d.setTail id).head = d.head := rfl
@[simp] theorem setTail_tail : (d.setTail id).tail = id := rfl
@[simp] theorem setTail_size : (d.setTail id).size = d.size := rfl
@[simp] theorem setTail_maxSize : (d.setTail id).maxSize = d.maxSize := rfl
@[simp] theorem setSize_next : (d.setSize n).next = d.next := rfl
@[simp] theorem setSize_prev : (d.setSize n).prev = d.prev := rfl
@[simp] theorem setSize_contains : (d.setSize n).contains = d.contains := rfl
@[simp] theorem setSize_head : (d.setSize n).head = d.head := rfl
@[simp] theorem setSize_tail : (d.setSize n).tail = d.tail := rfl
@[simp] theorem setSize_size : (d.setSize n).size = n := rfl
@[simp] theorem setSize_maxSize : (d.setSize n).maxSize = d.maxSize := rfl
@[simp] theorem setExists_head : (d.setExists id).head = d.head := rfl
@[simp] theorem setExists_tail : (d.setExists id).tail = d.tail := rfl
@[simp] theorem setExists_size : (d.setExists id).size = d.size := rfl
@[simp] theorem setExists_maxSize : (d.setExists id).maxSize = d.maxSize := rfl
@[simp] theorem setNext_head : (d.setNext id y).head = d.head := rfl
@[simp] theorem setNext_tail : (d.setNext id y).tail = d.tail := rfl
@[simp] theorem setNext_size : (d.setNext id y).size = d.size := rfl
@[simp] theorem setNext_maxSize : (d.setNext id y).maxSize = d.maxSize := rfl
@[simp] theorem setPrev_head : (d.setPrev id y).head = d.head := rfl
@[simp] theorem setPrev_tail : (d.setPrev id y).tail = d.tail := rfl
@[simp] theorem setPrev_size : (d.setPrev id y).size = d.size := rfl
@[simp] theorem setPrev_maxSize : (d.setPrev id y).maxSize = d.maxSize := rfl
@[simp] theorem deleteNode_head : (d.deleteNode id).head = d.head := rfl
@[simp] theorem deleteNode_tail : (d.deleteNode id).tail = d.tail := rfl
@[simp] theorem deleteNode_size : (d.deleteNode id).size = d.size := rfl
@[simp] theorem deleteNode_maxSize : (d.deleteNode id).maxSize = d.maxSize := rfl

@[simp] theorem empty_next (m : ℕ) : (empty m).next = fun _ => 0 := rfl
@[simp] theorem empty_prev (m : ℕ) : (empty m).prev = fun _ => 0 := rfl
@[simp] theorem empty_contains (m : ℕ) (z : Address) : (empty m).contains z = false := rfl

end Data

section Splice

variable (d : Data) (id prevId nextId : Address)

/-- Splicing a node in marks it as a member and changes no other membership. -/
@[simp] theorem splice_contains (z : Address) :
    (splice d id prevId nextId).contains z = (z == id || d.contains z) := by
  unfold splice
  split_ifs <;> simp

@[simp] theorem splice_size : (splice d id prevId nextId).size = d.size := by
  unfold splice
  split_ifs <;> simp

@[simp] theorem splice_maxSize : (splice d id prevId nextId).maxSize = d.maxSize := by
  unfold splice
  split_ifs <;> simp

@[simp] theorem unlink_contains : (unlink d id).contains = d.contains := by
  unfold unlink
  split_ifs <;> funext z <;> simp

@[simp] theorem unlink_size : (unlink d id).size = d.size := by
  unfold unlink
  split_ifs <;> simp

@[simp] theorem unlink_maxSize : (unlink d id).maxSize = d.maxSize := by
  unfold unlink
  split_ifs <;> simp

end Splice

section Membership

variable {getNominalICR : Address → ℕ} {d d' : Data} {gas : ℕ} {id : Address}

/-- What a successful `_insert` needs and writes: `id` was not a member, and it is spliced in at
some position, with the size one up. -/
theorem insert_eq_ok {NICR : ℕ} {prevId nextId : Address}
    (h : insert getNominalICR d gas id NICR prevId nextId = .ok d') :
    d.contains id = false ∧ ∃ p n : Address, d' = (splice d id p n).setSize (d.size + 1) := by
  unfold insert at h
  simp only [Revert.require_bind_eq_ok] at h
  obtain ⟨-, hnew, -, -, h⟩ := h
  refine ⟨hnew, ?_⟩
  -- the position found by the search or the valid hint: the splice is the same either way
  split_ifs at h
  all_goals
    simp only [Revert.bind_eq_ok, Revert.pure_eq_ok] at h
    obtain ⟨⟨p, n⟩, -, rfl⟩ := h
    exact ⟨p, n, by rw [splice_size]⟩

/-- What a successful `_remove` needs and writes: `id` was a member, and it is unlinked and
deleted, with the size one down. -/
theorem remove_eq_ok (h : remove d id = .ok d') :
    d.contains id = true ∧ 1 ≤ d.size ∧
      d' = ((unlink d id).deleteNode id).setSize (d.size - 1) := by
  unfold remove at h
  simp only [Revert.require_bind_eq_ok] at h
  obtain ⟨hmem, h⟩ := h
  simp only [Revert.bind_eq_ok, SafeMath.sub_eq_ok, Revert.pure_eq_ok] at h
  obtain ⟨size, ⟨hle, rfl⟩, rfl⟩ := h
  exact ⟨hmem, by simpa using hle, by simp⟩

/-- A successful `_insert` adds `id` to the members, wherever the hints put it. -/
theorem insert_contains {NICR : ℕ} {prevId nextId : Address}
    (h : insert getNominalICR d gas id NICR prevId nextId = .ok d') (z : Address) :
    d'.contains z = (z == id || d.contains z) := by
  obtain ⟨-, p, n, rfl⟩ := insert_eq_ok h
  simp

theorem insert_size {NICR : ℕ} {prevId nextId : Address}
    (h : insert getNominalICR d gas id NICR prevId nextId = .ok d') : d'.size = d.size + 1 := by
  obtain ⟨-, p, n, rfl⟩ := insert_eq_ok h
  simp

/-- A successful `_remove` takes `id`, which was a member, out of the members. -/
theorem remove_contains (h : remove d id = .ok d') (z : Address) :
    d'.contains z = (z != id && d.contains z) := by
  obtain ⟨-, -, rfl⟩ := remove_eq_ok h
  simp

theorem remove_size (h : remove d id = .ok d') : d'.size + 1 = d.size := by
  obtain ⟨-, hsize, rfl⟩ := remove_eq_ok h
  simp only [Data.setSize_size]
  omega

/-- A successful `reInsert` keeps the members: `id` leaves and comes back. -/
theorem reInsert_contains {newNICR : ℕ} {prevId nextId : Address}
    (h : reInsert getNominalICR d gas id newNICR prevId nextId = .ok d') :
    d'.contains = d.contains := by
  unfold reInsert at h
  simp only [Revert.require_bind_eq_ok] at h
  obtain ⟨hmem, -, h⟩ := h
  obtain ⟨d₁, hremove, hinsert⟩ := Revert.bind_eq_ok.1 h
  funext z
  rw [insert_contains hinsert, remove_contains hremove]
  by_cases hz : z = id
  · subst hz
    simp [hmem]
  · simp only [bne, beq_false_of_ne hz, Bool.false_or, Bool.not_false, Bool.true_and]

/-- A successful `reInsert` keeps the size. -/
theorem reInsert_size {newNICR : ℕ} {prevId nextId : Address}
    (h : reInsert getNominalICR d gas id newNICR prevId nextId = .ok d') : d'.size = d.size := by
  unfold reInsert at h
  simp only [Revert.require_bind_eq_ok] at h
  obtain ⟨-, -, h⟩ := h
  obtain ⟨d₁, hremove, hinsert⟩ := Revert.bind_eq_ok.1 h
  rw [insert_size hinsert, remove_size hremove]

end Membership

end ZeroProtocol.SortedTroves
