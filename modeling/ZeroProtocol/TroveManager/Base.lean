import ZeroProtocol.System.State

/-!
# `TroveManagerBase`: a trove's current amounts, stakes and closing

The trove manager's view of a trove adds to its recorded debt and collateral the rewards of
the redistributions since its snapshots: for each running total `L`, its stake times the
growth of `L` since the snapshot.  The state-changing functions apply those rewards, move
them from the default pool to the active pool, recompute stakes and close troves.

`L_ETH.sub(snapshot)` and `L_ZUSDDebt.sub(snapshot)` are written as truncated subtraction:
every snapshot is either zero or a value that `L` had before, and `L` only grows, so the
contract's checked subtraction never fails on a reachable state.  The trove manager's
`getNominalICR` is the key that the sorted list reads back, and a total function is what
`SortedTroves` takes.

Functions that change only the trove manager's storage act on `TroveManagerStorage`; those
that also move pool balances or the sorted list act on the whole `System`.
-/

namespace ZeroProtocol.TroveManager

open LiquityMath

namespace TroveManagerStorage

variable (tm : TroveManagerStorage) (borrower : Address)

/-- Write the record of `borrower` through `f`. -/
def updateTrove (f : Trove → Trove) : TroveManagerStorage :=
  { tm with Troves := Function.update tm.Troves borrower (f (tm.Troves borrower)) }

@[simp] theorem updateTrove_Troves (f : Trove → Trove) :
    (tm.updateTrove borrower f).Troves =
      Function.update tm.Troves borrower (f (tm.Troves borrower)) := rfl

@[simp] theorem updateTrove_rewardSnapshots (f : Trove → Trove) :
    (tm.updateTrove borrower f).rewardSnapshots = tm.rewardSnapshots := rfl

@[simp] theorem updateTrove_L_ETH (f : Trove → Trove) :
    (tm.updateTrove borrower f).L_ETH = tm.L_ETH := rfl

@[simp] theorem updateTrove_L_ZUSDDebt (f : Trove → Trove) :
    (tm.updateTrove borrower f).L_ZUSDDebt = tm.L_ZUSDDebt := rfl

@[simp] theorem updateTrove_totalStakes (f : Trove → Trove) :
    (tm.updateTrove borrower f).totalStakes = tm.totalStakes := rfl

@[simp] theorem updateTrove_TroveOwners (f : Trove → Trove) :
    (tm.updateTrove borrower f).TroveOwners = tm.TroveOwners := rfl

@[simp] theorem updateTrove_fees (f : Trove → Trove) :
    (tm.updateTrove borrower f).fees = tm.fees := rfl

end TroveManagerStorage

section Views

variable (tm : TroveManagerStorage) (borrower : Address)

/-- A trove's pending reward from a running total `L` whose value at its last snapshot was
`snapshot`: the shape that `_getPendingETHReward` and `_getPendingZUSDDebtReward` share. -/
def pendingReward (trove : Trove) (L snapshot : ℕ) : ℕ :=
  let rewardPerUnitStaked := L - snapshot
  if rewardPerUnitStaked = 0 ∨ trove.status ≠ .active then 0
  else trove.stake * rewardPerUnitStaked / DECIMAL_PRECISION

/-- Source `_getPendingETHReward`. -/
def getPendingETHReward : ℕ :=
  pendingReward (tm.Troves borrower) tm.L_ETH (tm.rewardSnapshots borrower).ETH

/-- Source `_getPendingZUSDDebtReward`. -/
def getPendingZUSDDebtReward : ℕ :=
  pendingReward (tm.Troves borrower) tm.L_ZUSDDebt (tm.rewardSnapshots borrower).ZUSDDebt

/-- Source `_getCurrentTroveAmounts`: collateral and debt with the pending rewards. -/
def getCurrentTroveAmounts : ℕ × ℕ :=
  ((tm.Troves borrower).coll + getPendingETHReward tm borrower,
    (tm.Troves borrower).debt + getPendingZUSDDebtReward tm borrower)

/-- Source `_getCurrentICR`. -/
def getCurrentICR (price : ℕ) : ℕ :=
  computeCR (getCurrentTroveAmounts tm borrower).1 (getCurrentTroveAmounts tm borrower).2 price

/-- Source `getNominalICR`: the key of `borrower` in the sorted list. -/
def getNominalICR : ℕ :=
  computeNominalCR (getCurrentTroveAmounts tm borrower).1 (getCurrentTroveAmounts tm borrower).2

/-- Source `_hasPendingRewards`: only the collateral snapshot is compared. -/
def hasPendingRewards : Bool :=
  (tm.Troves borrower).status == .active && decide ((tm.rewardSnapshots borrower).ETH < tm.L_ETH)

/-- Source `getEntireDebtAndColl`: debt, collateral, pending debt and pending collateral. -/
def getEntireDebtAndColl : ℕ × ℕ × ℕ × ℕ :=
  ((tm.Troves borrower).debt + getPendingZUSDDebtReward tm borrower,
    (tm.Troves borrower).coll + getPendingETHReward tm borrower,
    getPendingZUSDDebtReward tm borrower, getPendingETHReward tm borrower)

/-- Source `_computeNewStake`: collateral scaled by the snapshot ratio of the last
liquidation. -/
def computeNewStake (coll : ℕ) : Except String ℕ :=
  if tm.totalCollateralSnapshot = 0 then pure coll
  else do
    Revert.assert (tm.totalStakesSnapshot > 0)
    pure (coll * tm.totalStakesSnapshot / tm.totalCollateralSnapshot)

end Views

section Updates

variable (tm : TroveManagerStorage) (borrower : Address)

/-- Source `_updateTroveRewardSnapshots`. -/
def updateTroveRewardSnapshots : TroveManagerStorage :=
  { tm with rewardSnapshots :=
      Function.update tm.rewardSnapshots borrower ⟨tm.L_ETH, tm.L_ZUSDDebt⟩ }

@[simp] theorem updateTroveRewardSnapshots_Troves :
    (updateTroveRewardSnapshots tm borrower).Troves = tm.Troves := rfl

@[simp] theorem updateTroveRewardSnapshots_rewardSnapshots :
    (updateTroveRewardSnapshots tm borrower).rewardSnapshots =
      Function.update tm.rewardSnapshots borrower ⟨tm.L_ETH, tm.L_ZUSDDebt⟩ := rfl

@[simp] theorem updateTroveRewardSnapshots_L_ETH :
    (updateTroveRewardSnapshots tm borrower).L_ETH = tm.L_ETH := rfl

@[simp] theorem updateTroveRewardSnapshots_L_ZUSDDebt :
    (updateTroveRewardSnapshots tm borrower).L_ZUSDDebt = tm.L_ZUSDDebt := rfl

@[simp] theorem updateTroveRewardSnapshots_fees :
    (updateTroveRewardSnapshots tm borrower).fees = tm.fees := rfl

/-- Source `_removeStake`. -/
def removeStake : Except String TroveManagerStorage := do
  let stake := (tm.Troves borrower).stake
  let totalStakes ← SafeMath.sub tm.totalStakes stake
  pure { tm.updateTrove borrower (fun t => { t with stake := 0 }) with totalStakes := totalStakes }

/-- Source `_updateStakeAndTotalStakes`: the new storage and the new stake. -/
def updateStakeAndTotalStakes : Except String (TroveManagerStorage × ℕ) := do
  let newStake ← computeNewStake tm (tm.Troves borrower).coll
  let oldStake := (tm.Troves borrower).stake
  let tm' := tm.updateTrove borrower fun t => { t with stake := newStake }
  let totalStakes ← SafeMath.sub tm.totalStakes oldStake
  pure ({ tm' with totalStakes := totalStakes + newStake }, newStake)

/-- Source `_addTroveOwnerToArray`: the new storage and the trove's index. -/
def addTroveOwnerToArray : TroveManagerStorage × ℕ :=
  let TroveOwners := tm.TroveOwners ++ [borrower]
  let index := TroveOwners.length - 1
  ({ tm.updateTrove borrower (fun t => { t with arrayIndex := index }) with
      TroveOwners := TroveOwners }, index)

/-- Source `_removeTroveOwner`: move the last owner into the hole, then pop. -/
def removeTroveOwner (TroveOwnersArrayLength : ℕ) : Except String TroveManagerStorage := do
  let troveStatus := (tm.Troves borrower).status
  -- set by the caller, `_closeTrove`
  Revert.assert (troveStatus ≠ .nonExistent ∧ troveStatus ≠ .active)
  let index := (tm.Troves borrower).arrayIndex
  let idxLast ← SafeMath.sub TroveOwnersArrayLength 1
  Revert.assert (index ≤ idxLast)
  let addressToMove := tm.TroveOwners.getD idxLast 0
  let tm := { tm with TroveOwners := tm.TroveOwners.set index addressToMove }
  let tm := tm.updateTrove addressToMove fun t => { t with arrayIndex := index }
  pure { tm with TroveOwners := tm.TroveOwners.dropLast }

@[simp] theorem addTroveOwnerToArray_fees : (addTroveOwnerToArray tm borrower).1.fees = tm.fees :=
  rfl

end Updates

/-! The writes of stakes and of the owners array leave the fee state to the fee functions. -/

section FeeFrames

variable {tm tm' : TroveManagerStorage} {borrower : Address}

theorem removeStake_fees (h : removeStake tm borrower = .ok tm') : tm'.fees = tm.fees := by
  simp only [removeStake, Revert.bind_eq_ok, Revert.pure_eq_ok] at h
  obtain ⟨_, -, rfl⟩ := h
  rfl

theorem updateStakeAndTotalStakes_fees {stake : ℕ}
    (h : updateStakeAndTotalStakes tm borrower = .ok (tm', stake)) : tm'.fees = tm.fees := by
  simp only [updateStakeAndTotalStakes, Revert.bind_eq_ok, Revert.pure_eq_ok, Prod.mk.injEq] at h
  obtain ⟨_, -, _, -, rfl, -⟩ := h
  rfl

theorem removeTroveOwner_fees {length : ℕ} (h : removeTroveOwner tm borrower length = .ok tm') :
    tm'.fees = tm.fees := by
  simp only [removeTroveOwner, Revert.bind_eq_ok, Revert.pure_eq_ok] at h
  obtain ⟨_, -, _, -, _, -, rfl⟩ := h
  rfl

end FeeFrames

section System

variable (st : System) (borrower : Address)

/-- Source `_movePendingTroveRewardsToActivePool`. -/
def movePendingTroveRewardsToActivePool (ZUSD ETH : ℕ) : Except String System := do
  let defaultPool ← st.defaultPool.decreaseZUSDDebt ZUSD
  let activePool := st.activePool.increaseZUSDDebt ZUSD
  let defaultPool ← defaultPool.sendETHToActivePool ETH
  pure { st with defaultPool := defaultPool, activePool := activePool.receive ETH }

/-- Source `_applyPendingRewards`: add the pending rewards to the trove, take new snapshots
and move the rewards to the active pool; nothing when `_hasPendingRewards` is false. -/
def applyPendingRewards : Except String System := do
  let tm := st.troveManager
  if hasPendingRewards tm borrower then
    Revert.require ((tm.Troves borrower).status = .active)
      "TroveManager: Trove does not exist or is closed"
    let pendingETHReward := getPendingETHReward tm borrower
    let pendingZUSDDebtReward := getPendingZUSDDebtReward tm borrower
    let tm := tm.updateTrove borrower fun t =>
      { t with coll := t.coll + pendingETHReward, debt := t.debt + pendingZUSDDebtReward }
    let tm := updateTroveRewardSnapshots tm borrower
    movePendingTroveRewardsToActivePool { st with troveManager := tm }
      pendingZUSDDebtReward pendingETHReward
  else pure st

/-- Source `_closeTrove`: zero the trove, drop it from the owners array and the list. -/
def closeTrove (closedStatus : Status) : Except String System := do
  Revert.assert (closedStatus ≠ .nonExistent ∧ closedStatus ≠ .active)
  let tm := st.troveManager
  let TroveOwnersArrayLength := tm.TroveOwners.length
  Revert.require (TroveOwnersArrayLength > 1 ∧ st.sortedTroves.size > 1)
    "TroveManager: Only one trove in the system"
  let tm := tm.updateTrove borrower fun t =>
    { t with status := closedStatus, coll := 0, debt := 0 }
  let tm := { tm with rewardSnapshots := Function.update tm.rewardSnapshots borrower ⟨0, 0⟩ }
  let tm ← removeTroveOwner tm borrower TroveOwnersArrayLength
  let sortedTroves ← SortedTroves.remove st.sortedTroves borrower
  pure { st with troveManager := tm, sortedTroves := sortedTroves }

end System

end ZeroProtocol.TroveManager
