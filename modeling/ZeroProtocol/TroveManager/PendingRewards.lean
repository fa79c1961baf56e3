import ZeroProtocol.System.Step
import Mathlib.Algebra.BigOperators.Group.Finset.Basic

/-!
# Pending rewards and redistributions

A redistribution raises `L_ETH` and `L_ZUSDDebt` by the liquidated collateral and debt per unit
of stake, each rounded down, with the rounding error carried to the next redistribution.  A
trove's pending reward from each total is its stake times the total's growth since the trove's
snapshot, and `applyPendingRewards` adds both rewards to the trove and takes new snapshots: but
only when `hasPendingRewards` holds, and that compares the collateral snapshot alone.

When `hasPendingRewards` holds, applying the rewards leaves none pending
(`pendingRewards_eq_zero_of_applyPendingRewards`); and the collateral reward is always applied
(`getPendingETHReward_eq_zero_of_applyPendingRewards`).  The debt reward is not: the two totals do
not grow together, and a redistribution of little collateral and somewhat more debt, against
the total stake, leaves `L_ETH` where it was and raises `L_ZUSDDebt`
(`redistributeDebtAndColl_stale`).  Every trove whose snapshots were current then has a pending
debt that `hasPendingRewards` does not see (`hidden_pendingDebt_of_redistribution`), and which
`applyPendingRewards` leaves where it is (`applyPendingRewards_by_collateral_snapshot`).

The run `staleDebtRun` reaches such a state from deployment.  In it the pending debt survives
`applyPendingRewards`, the rounded pending debts put two troves of the sorted list out of order,
and a later top-up of a trove's collateral raises its stake under its old debt snapshot, so
that the pending debts exceed what the default pool holds.
-/

namespace ZeroProtocol.TroveManager

open LiquityMath

section Pending

variable {tm : TroveManagerStorage} {borrower : Address}

/-- A total that has not grown past the snapshot gives no reward. -/
theorem pendingReward_of_le {trove : Trove} {L snapshot : ℕ} (h : L ≤ snapshot) :
    pendingReward trove L snapshot = 0 := by
  simp [pendingReward, Nat.sub_eq_zero_of_le h]

/-- A trove that is not active has no reward. -/
theorem pendingReward_of_ne_active {trove : Trove} {L snapshot : ℕ}
    (h : trove.status ≠ .active) : pendingReward trove L snapshot = 0 := by
  simp [pendingReward, h]

/-- What `hasPendingRewards` does see: without it, the collateral reward is zero. -/
theorem getPendingETHReward_of_not_hasPendingRewards (h : hasPendingRewards tm borrower = false) :
    getPendingETHReward tm borrower = 0 := by
  simp only [hasPendingRewards, Bool.and_eq_false_iff, beq_eq_false_iff_ne, ne_eq,
    decide_eq_false_iff_not, not_lt] at h
  rcases h with hstatus | hle
  · exact pendingReward_of_ne_active hstatus
  · exact pendingReward_of_le hle

/-- Right after its snapshots are taken, a trove has no pending rewards. -/
theorem pendingRewards_updateTroveRewardSnapshots :
    getPendingETHReward (updateTroveRewardSnapshots tm borrower) borrower = 0 ∧
      getPendingZUSDDebtReward (updateTroveRewardSnapshots tm borrower) borrower = 0 := by
  constructor <;> apply pendingReward_of_le <;> simp

end Pending

section Apply

variable {st st' : System} {borrower : Address}

/-- Source `_movePendingTroveRewardsToActivePool` succeeds when the default pool holds the
rewards, and moves them to the active pool. -/
theorem movePendingTroveRewardsToActivePool_eq_ok {ZUSD ETH : ℕ} :
    movePendingTroveRewardsToActivePool st ZUSD ETH = .ok st' ↔
      ZUSD ≤ st.defaultPool.ZUSDDebt ∧ ETH ≤ st.defaultPool.ETH ∧
      st' = { st with
        defaultPool := ⟨st.defaultPool.ETH - ETH, st.defaultPool.ZUSDDebt - ZUSD⟩
        activePool := ⟨st.activePool.ETH + ETH, st.activePool.ZUSDDebt + ZUSD⟩ } := by
  simp only [movePendingTroveRewardsToActivePool, Revert.bind_eq_ok,
    DefaultPool.decreaseZUSDDebt_eq_ok, DefaultPool.sendETHToActivePool_eq_ok, Revert.pure_eq_ok]
  constructor
  · rintro ⟨_, ⟨hZUSD, rfl⟩, _, ⟨hETH, rfl⟩, rfl⟩
    exact ⟨hZUSD, hETH, rfl⟩
  · rintro ⟨hZUSD, hETH, rfl⟩
    exact ⟨_, ⟨hZUSD, rfl⟩, _, ⟨hETH, rfl⟩, rfl⟩

/-- Without pending rewards by `hasPendingRewards`, applying them changes nothing. -/
theorem applyPendingRewards_of_not_hasPendingRewards
    (h : hasPendingRewards st.troveManager borrower = false) :
    applyPendingRewards st borrower = .ok st := by
  simp [applyPendingRewards, h]

/-- With pending rewards, `applyPendingRewards` adds both rewards to the trove and snapshots
the current totals. -/
theorem applyPendingRewards_troveManager (hp : hasPendingRewards st.troveManager borrower = true)
    (h : applyPendingRewards st borrower = .ok st') :
    st'.troveManager = updateTroveRewardSnapshots
      (st.troveManager.updateTrove borrower fun t =>
        { t with coll := t.coll + getPendingETHReward st.troveManager borrower
                 debt := t.debt + getPendingZUSDDebtReward st.troveManager borrower })
      borrower := by
  simp only [applyPendingRewards, hp, if_true, Revert.require_bind_eq_ok] at h
  obtain ⟨-, h⟩ := h
  obtain ⟨-, -, rfl⟩ := movePendingTroveRewardsToActivePool_eq_ok.mp h
  rfl

/-- With pending rewards, none are left after `applyPendingRewards`, and the trove has grown
by exactly the rewards reported before the call. -/
theorem pendingRewards_eq_zero_of_applyPendingRewards
    (hp : hasPendingRewards st.troveManager borrower = true)
    (h : applyPendingRewards st borrower = .ok st') :
    getPendingETHReward st'.troveManager borrower = 0 ∧
      getPendingZUSDDebtReward st'.troveManager borrower = 0 ∧
      (st'.troveManager.Troves borrower).coll =
        (st.troveManager.Troves borrower).coll + getPendingETHReward st.troveManager borrower ∧
      (st'.troveManager.Troves borrower).debt =
        (st.troveManager.Troves borrower).debt + getPendingZUSDDebtReward st.troveManager borrower := by
  rw [applyPendingRewards_troveManager hp h]
  exact ⟨pendingRewards_updateTroveRewardSnapshots.1, pendingRewards_updateTroveRewardSnapshots.2,
    by simp, by simp⟩

/-- The collateral reward is always applied: after `applyPendingRewards` none is pending. -/
theorem getPendingETHReward_eq_zero_of_applyPendingRewards
    (h : applyPendingRewards st borrower = .ok st') :
    getPendingETHReward st'.troveManager borrower = 0 := by
  cases hp : hasPendingRewards st.troveManager borrower with
  | true => exact (pendingRewards_eq_zero_of_applyPendingRewards hp h).1
  | false =>
    rw [applyPendingRewards_of_not_hasPendingRewards hp, Except.ok.injEq] at h
    exact h ▸ getPendingETHReward_of_not_hasPendingRewards hp

end Apply

section Redistribution

variable {st st' : System} {debt coll : ℕ}

/-- Source `_redistributeDebtAndColl` of a nonzero debt: each running total grows by its
amount per unit of stake, with the last rounding error added and the new one kept; the troves
and their snapshots are not touched. -/
theorem redistributeDebtAndColl_L (hdebt : debt ≠ 0)
    (h : redistributeDebtAndColl st debt coll = .ok st') :
    st'.troveManager.L_ETH = st.troveManager.L_ETH +
        (coll * DECIMAL_PRECISION + st.troveManager.lastETHError_Redistribution) /
          st.troveManager.totalStakes ∧
      st'.troveManager.L_ZUSDDebt = st.troveManager.L_ZUSDDebt +
        (debt * DECIMAL_PRECISION + st.troveManager.lastZUSDDebtError_Redistribution) /
          st.troveManager.totalStakes ∧
      st'.troveManager.Troves = st.troveManager.Troves ∧
      st'.troveManager.rewardSnapshots = st.troveManager.rewardSnapshots := by
  simp only [redistributeDebtAndColl, hdebt, if_false, Revert.bind_eq_ok, SafeMath.div_eq_ok,
    SafeMath.sub_eq_ok, ActivePool.decreaseZUSDDebt_eq_ok, ActivePool.sendETH_eq_ok,
    Revert.pure_eq_ok] at h
  -- the quotients stay named: substituted into the record, they make the kernel's check of
  -- the frame equations unfold the products by `DECIMAL_PRECISION`
  obtain ⟨ETHReward, ⟨-, hETH⟩, ZUSDReward, ⟨-, hZUSD⟩, _, -, _, -, _, -, _, -, rfl⟩ := h
  exact ⟨congrArg (_ + ·) hETH, congrArg (_ + ·) hZUSD, rfl, rfl⟩

/-- A redistribution whose collateral per unit of stake rounds down to zero while its debt
per unit of stake does not leaves `L_ETH` where it was and raises `L_ZUSDDebt`. -/
theorem redistributeDebtAndColl_stale (hdebt : debt ≠ 0)
    (h : redistributeDebtAndColl st debt coll = .ok st')
    (hcoll : coll * DECIMAL_PRECISION + st.troveManager.lastETHError_Redistribution <
      st.troveManager.totalStakes)
    (hdebtBig : st.troveManager.totalStakes ≤
      debt * DECIMAL_PRECISION + st.troveManager.lastZUSDDebtError_Redistribution) :
    st'.troveManager.L_ETH = st.troveManager.L_ETH ∧
      st.troveManager.L_ZUSDDebt < st'.troveManager.L_ZUSDDebt := by
  obtain ⟨hETH, hZUSD, -, -⟩ := redistributeDebtAndColl_L hdebt h
  have hpos : 0 < st.troveManager.totalStakes := Nat.lt_of_le_of_lt (Nat.zero_le _) hcoll
  have hone : 1 ≤ (debt * DECIMAL_PRECISION + st.troveManager.lastZUSDDebtError_Redistribution) /
      st.troveManager.totalStakes := (Nat.one_le_div_iff hpos).mpr hdebtBig
  rw [hETH, hZUSD, Nat.div_eq_of_lt hcoll]
  omega

/-- After such a redistribution, an active trove whose snapshots were current and whose stake
is at least one unit has a pending debt that `hasPendingRewards` does not report. -/
theorem hidden_pendingDebt_of_redistribution {borrower : Address} (hdebt : debt ≠ 0)
    (h : redistributeDebtAndColl st debt coll = .ok st')
    (hcoll : coll * DECIMAL_PRECISION + st.troveManager.lastETHError_Redistribution <
      st.troveManager.totalStakes)
    (hdebtBig : st.troveManager.totalStakes ≤
      debt * DECIMAL_PRECISION + st.troveManager.lastZUSDDebtError_Redistribution)
    (hactive : (st.troveManager.Troves borrower).status = .active)
    (hsnapshot : st.troveManager.rewardSnapshots borrower =
      ⟨st.troveManager.L_ETH, st.troveManager.L_ZUSDDebt⟩)
    (hstake : DECIMAL_PRECISION ≤ (st.troveManager.Troves borrower).stake) :
    hasPendingRewards st'.troveManager borrower = false ∧
      0 < getPendingZUSDDebtReward st'.troveManager borrower := by
  obtain ⟨hETH, hZUSD⟩ := redistributeDebtAndColl_stale hdebt h hcoll hdebtBig
  obtain ⟨-, -, hTroves, hsnapshots⟩ := redistributeDebtAndColl_L hdebt h
  have hgrowth : 0 < st'.troveManager.L_ZUSDDebt - st.troveManager.L_ZUSDDebt := by omega
  constructor
  · simp [hasPendingRewards, hTroves, hsnapshots, hsnapshot, hETH]
  · simp only [getPendingZUSDDebtReward, pendingReward, hTroves, hsnapshots, hsnapshot,
      hactive, ne_eq, not_true_eq_false, or_false]
    rw [if_neg hgrowth.ne']
    exact Nat.div_pos (le_trans hstake (Nat.le_mul_of_pos_right _ hgrowth))
      DECIMAL_PRECISION_pos

end Redistribution

/-! ## A reachable state with a hidden pending debt -/

/-- Five accounts at deployment: troves `1` and `2` with the same nominal ratio, `2` twice the
size of `1` and inserted after it, so above it; trove `3` with a debt of 300 ZUSD, which account
`4` covers in the Stability Pool but for 24032 wei; the price halves, and `3` is liquidated by
`5`.  The 24032 wei of debt and 200 wei of collateral that the pool cannot take are
redistributed: `L_ZUSDDebt` becomes `1` and `L_ETH` stays `0`. -/
def staleDebtRun : List (Op × ℕ) :=
  [(.openTrove 1 (80005 * 10 ^ 17) (10 ^ 18) 179104477611940298508 0 0, 10),
   (.openTrove 2 (16001 * 10 ^ 18) (10 ^ 18) 378109452736318407961 0 0, 10),
   (.openTrove 3 (25 * 10 ^ 17) (10 ^ 18) 278606965174129353234 0 0, 10),
   (.openTrove 4 (30 * 10 ^ 18) (10 ^ 18) (1000 * 10 ^ 18) 0 0, 10),
   (.provideToSP 4 (300 * 10 ^ 18 - 24032) 0, 0),
   (.setPrice (100 * 10 ^ 18), 0),
   (.liquidate 5 3, 0)]

/-- The states of `staleDebtRun` that the examples below read, from one evaluation of the run:
before the liquidation, when a redistribution of 24040 wei of debt and 200 wei of collateral
would pass over the collateral of trove `1`; after it, with trove `2` at the head above trove `1`
and 8000 wei of pending debt on trove `1` that `hasPendingRewards` does not report; and after
account `1` tops its trove up with 8000 ether. -/
theorem staleDebtRun_states :
    ∃ st₆, Reachable Config.sample System.sample st₆ ∧
      (runPasses (redistributeDebtAndColl st₆ 24040 200) (fun _ => true) = true ∧
        200 * DECIMAL_PRECISION + st₆.troveManager.lastETHError_Redistribution <
          st₆.troveManager.totalStakes ∧
        st₆.troveManager.totalStakes ≤
          24040 * DECIMAL_PRECISION + st₆.troveManager.lastZUSDDebtError_Redistribution ∧
        (st₆.troveManager.Troves 1).status = .active ∧
        st₆.troveManager.rewardSnapshots 1 =
          ⟨st₆.troveManager.L_ETH, st₆.troveManager.L_ZUSDDebt⟩ ∧
        DECIMAL_PRECISION ≤ (st₆.troveManager.Troves 1).stake) ∧
    ∃ st, runAll Config.sample (staleDebtRun.drop 6) st₆ = .ok st ∧
      ((st.troveManager.Troves 1).status = .active ∧
        hasPendingRewards st.troveManager 1 = false ∧
        getPendingZUSDDebtReward st.troveManager 1 = 8000 ∧
        st.sortedTroves.head = 2 ∧ st.sortedTroves.contains 2 = true ∧
        st.sortedTroves.next 2 = 1 ∧
        getNominalICR st.troveManager 2 < getNominalICR st.troveManager 1) ∧
    ∃ st', (Op.addColl 1 (8000 * 10 ^ 18) 0 0).run Config.sample 10 st = .ok st' ∧
      computeNominalCR ((st.troveManager.Troves 1).coll + 8000 * 10 ^ 18)
        (st.troveManager.Troves 1).debt ≠ getNominalICR st'.troveManager 1 ∧
      (st'.troveManager.Troves 1).status = .active ∧
      (st'.troveManager.Troves 2).status = .active ∧
      (st'.troveManager.Troves 4).status = .active ∧
      getPendingZUSDDebtReward st'.troveManager 1 = 16000 ∧
      getPendingZUSDDebtReward st'.troveManager 2 = 16001 ∧
      getPendingZUSDDebtReward st'.troveManager 4 = 30 ∧
      st'.defaultPool.ZUSDDebt = 24032 := by
  -- one evaluation: the checks of the later states are runs nested in the check of the first
  obtain ⟨st₆, hreach, hbefore, hrest⟩ :=
    @exists_reachable_of_decide Config.sample System.sample (staleDebtRun.take 6)
      (fun st₆ =>
        (runPasses (redistributeDebtAndColl st₆ 24040 200) (fun _ => true) = true ∧
          200 * DECIMAL_PRECISION + st₆.troveManager.lastETHError_Redistribution <
            st₆.troveManager.totalStakes ∧
          st₆.troveManager.totalStakes ≤
            24040 * DECIMAL_PRECISION + st₆.troveManager.lastZUSDDebtError_Redistribution ∧
          (st₆.troveManager.Troves 1).status = .active ∧
          st₆.troveManager.rewardSnapshots 1 =
            ⟨st₆.troveManager.L_ETH, st₆.troveManager.L_ZUSDDebt⟩ ∧
          DECIMAL_PRECISION ≤ (st₆.troveManager.Troves 1).stake) ∧
        runPasses (runAll Config.sample (staleDebtRun.drop 6) st₆) (fun st => decide (
          ((st.troveManager.Troves 1).status = .active ∧
            hasPendingRewards st.troveManager 1 = false ∧
            getPendingZUSDDebtReward st.troveManager 1 = 8000 ∧
            st.sortedTroves.head = 2 ∧ st.sortedTroves.contains 2 = true ∧
            st.sortedTroves.next 2 = 1 ∧
            getNominalICR st.troveManager 2 < getNominalICR st.troveManager 1) ∧
          runPasses ((Op.addColl 1 (8000 * 10 ^ 18) 0 0).run Config.sample 10 st) (fun st' =>
            decide (computeNominalCR ((st.troveManager.Troves 1).coll + 8000 * 10 ^ 18)
                (st.troveManager.Troves 1).debt ≠ getNominalICR st'.troveManager 1 ∧
              (st'.troveManager.Troves 1).status = .active ∧
              (st'.troveManager.Troves 2).status = .active ∧
              (st'.troveManager.Troves 4).status = .active ∧
              getPendingZUSDDebtReward st'.troveManager 1 = 16000 ∧
              getPendingZUSDDebtReward st'.troveManager 2 = 16001 ∧
              getPendingZUSDDebtReward st'.troveManager 4 = 30 ∧
              st'.defaultPool.ZUSDDebt = 24032)) = true)) = true) _
      (by decide +kernel)
  obtain ⟨st, hrun, hafter⟩ := exists_of_runPasses hrest
  obtain ⟨hafter, htopped⟩ := of_decide_eq_true hafter
  obtain ⟨st', hop, htopped⟩ := exists_of_runPasses htopped
  exact ⟨st₆, hreach, hbefore, st, hrun, hafter, st', hop, of_decide_eq_true htopped⟩

/-- **What `applyPendingRewards` applies.**  After the call no collateral reward is pending.  When
`hasPendingRewards` reports rewards, both are applied: the trove grows by them and none is left;
otherwise nothing changes.  And `hasPendingRewards` reads the collateral snapshot only: a
redistribution whose collateral per unit of stake rounds down to zero while its debt per unit
does not gives every active trove whose snapshots were current, and whose stake is at least one
unit, a pending debt that `hasPendingRewards` does not report and `applyPendingRewards` leaves. -/
theorem applyPendingRewards_by_collateral_snapshot :
    (∀ (st st' : System) (borrower : Address), applyPendingRewards st borrower = .ok st' →
      getPendingETHReward st'.troveManager borrower = 0 ∧
        (hasPendingRewards st.troveManager borrower = true →
          getPendingZUSDDebtReward st'.troveManager borrower = 0 ∧
          (st'.troveManager.Troves borrower).coll =
            (st.troveManager.Troves borrower).coll + getPendingETHReward st.troveManager borrower ∧
          (st'.troveManager.Troves borrower).debt =
            (st.troveManager.Troves borrower).debt +
              getPendingZUSDDebtReward st.troveManager borrower) ∧
        (hasPendingRewards st.troveManager borrower = false → st' = st)) ∧
    (∀ (st st' : System) (debt coll : ℕ) (borrower : Address), debt ≠ 0 →
      redistributeDebtAndColl st debt coll = .ok st' →
      coll * DECIMAL_PRECISION + st.troveManager.lastETHError_Redistribution <
        st.troveManager.totalStakes →
      st.troveManager.totalStakes ≤
        debt * DECIMAL_PRECISION + st.troveManager.lastZUSDDebtError_Redistribution →
      (st.troveManager.Troves borrower).status = .active →
      st.troveManager.rewardSnapshots borrower =
        ⟨st.troveManager.L_ETH, st.troveManager.L_ZUSDDebt⟩ →
      DECIMAL_PRECISION ≤ (st.troveManager.Troves borrower).stake →
      hasPendingRewards st'.troveManager borrower = false ∧
        0 < getPendingZUSDDebtReward st'.troveManager borrower ∧
        applyPendingRewards st' borrower = .ok st') := by
  constructor
  · intro st st' borrower h
    refine ⟨getPendingETHReward_eq_zero_of_applyPendingRewards h,
      fun hp => pendingRewards_eq_zero_of_applyPendingRewards hp h |>.2, fun hp => ?_⟩
    rw [applyPendingRewards_of_not_hasPendingRewards hp] at h
    exact (Except.ok.inj h).symm
  · intro st st' debt coll borrower hdebt h hcoll hdebtBig hactive hsnapshot hstake
    obtain ⟨hhidden, hpending⟩ := hidden_pendingDebt_of_redistribution hdebt h hcoll hdebtBig
      hactive hsnapshot hstake
    exact ⟨hhidden, hpending, applyPendingRewards_of_not_hasPendingRewards hhidden⟩

/-- Before the liquidation of `staleDebtRun`, a redistribution of 24040 wei of debt and 200 wei of
collateral over the 24034 ether of stake raises `L_ZUSDDebt` alone, and trove `1` is left with a
pending debt that the call does not apply. -/
theorem applyPendingRewards_by_collateral_snapshot_staleDebt :
    ∃ st st', Reachable Config.sample System.sample st ∧
      redistributeDebtAndColl st 24040 200 = .ok st' ∧
      hasPendingRewards st'.troveManager 1 = false ∧
      0 < getPendingZUSDDebtReward st'.troveManager 1 ∧ applyPendingRewards st' 1 = .ok st' := by
  obtain ⟨st, hreach, ⟨hnext, hcoll, hdebtBig, hactive, hsnapshot, hstake⟩, -⟩ :=
    staleDebtRun_states
  obtain ⟨st', hredistribute, -⟩ := exists_of_runPasses hnext
  exact ⟨st, st', hreach, hredistribute, applyPendingRewards_by_collateral_snapshot.2 st st' 24040
    200 1 (by decide) hredistribute hcoll hdebtBig hactive hsnapshot hstake⟩

/-- After `staleDebtRun`, trove `1` has a pending debt of 8000 wei that `hasPendingRewards` does
not report, so that `applyPendingRewards` leaves the trove and its pending debt as they were. -/
theorem pendingDebt_survives_applyPendingRewards :
    ∃ st, Reachable Config.sample System.sample st ∧
      (st.troveManager.Troves 1).status = .active ∧
      hasPendingRewards st.troveManager 1 = false ∧
      getPendingZUSDDebtReward st.troveManager 1 = 8000 ∧
      applyPendingRewards st 1 = .ok st := by
  obtain ⟨st₆, hreach₆, -, st, hrun, ⟨hactive, hhas, hpending, -⟩, -⟩ := staleDebtRun_states
  exact ⟨st, reachable_of_runAll hreach₆ hrun, hactive, hhas, hpending,
    applyPendingRewards_of_not_hasPendingRewards hhas⟩

/-- The order the sorted list relies on, read with the trove manager's current nominal ratios:
from head to tail they do not increase. -/
def SortedByNominalICR (st : System) : Prop :=
  ∀ x, st.sortedTroves.contains x = true → st.sortedTroves.next x ≠ 0 →
    getNominalICR st.troveManager (st.sortedTroves.next x) ≤ getNominalICR st.troveManager x

/-- After `staleDebtRun`, trove `2` heads the list with trove `1` after it, but the rounded
pending debts (16001 and 8000 wei on stakes of 16001 and 8000.5 ether) give `2` the lower
nominal ratio. -/
theorem sortedTroves_out_of_order :
    ∃ st, Reachable Config.sample System.sample st ∧
      st.sortedTroves.head = 2 ∧ st.sortedTroves.next 2 = 1 ∧
      getNominalICR st.troveManager 2 < getNominalICR st.troveManager 1 ∧
      ¬ SortedByNominalICR st := by
  obtain ⟨st₆, hreach₆, -, st, hrun, ⟨-, -, -, hhead, hcontains, hnext, hlt⟩, -⟩ :=
    staleDebtRun_states
  refine ⟨st, reachable_of_runAll hreach₆ hrun, hhead, hnext, hlt, fun hsorted => ?_⟩
  have hle := hsorted 2 hcontains (by rw [hnext]; decide)
  rw [hnext] at hle
  exact absurd hle (Nat.not_le.mpr hlt)

/-- The default pool holds at least the pending rewards of any set of active troves, as the
rewards' application draws them from it. -/
def DefaultPoolCoversPendingRewards (st : System) : Prop :=
  ∀ troves : Finset Address, (∀ b ∈ troves, (st.troveManager.Troves b).status = .active) →
    ∑ b ∈ troves, getPendingZUSDDebtReward st.troveManager b ≤ st.defaultPool.ZUSDDebt ∧
      ∑ b ∈ troves, getPendingETHReward st.troveManager b ≤ st.defaultPool.ETH

/-- After `staleDebtRun`, account `1` tops its trove up with 8000 ether.  Its stake doubles
while its debt snapshot stays at `0`, and the pending debts of the three active troves, 16000,
16001 and 30 wei, exceed the 24032 wei of the default pool. -/
theorem pendingDebt_exceeds_defaultPool :
    ∃ st, Reachable Config.sample System.sample st ∧
      ¬ DefaultPoolCoversPendingRewards st := by
  obtain ⟨st₆, hreach₆, -, st₇, hrun, -, st, hop, -, h1, h2, h4, hp1, hp2, hp4, hpool⟩ :=
    staleDebtRun_states
  have hreach := (reachable_of_runAll hreach₆ hrun).run hop
  refine ⟨st, hreach, fun hcovers => ?_⟩
  have hactive : ∀ b ∈ ({1, 2, 4} : Finset Address), (st.troveManager.Troves b).status = .active := by
    simp [h1, h2, h4]
  have hsum := (hcovers {1, 2, 4} hactive).1
  simp [Finset.sum_insert, hp1, hp2, hp4, hpool] at hsum

/-- After `staleDebtRun`, account `1` tops its trove up with 8000 ether.  As `hasPendingRewards`
reports nothing to apply, the call computes the trove's new nominal ratio, the key it reinserts
the trove under, from the recorded amounts alone; the trove's nominal ratio after the call also
counts its pending debt, 16000 wei on the doubled stake, and is another number. -/
theorem reInsert_key_ne_getNominalICR :
    ∃ st st' NICR, Reachable Config.sample System.sample st ∧
      hasPendingRewards st.troveManager 1 = false ∧
      (Op.addColl 1 (8000 * 10 ^ 18) 0 0).run Config.sample 10 st = .ok st' ∧
      BorrowerOperations.getNewNominalICRFromTroveChange (st.troveManager.Troves 1).coll
        (st.troveManager.Troves 1).debt (8000 * 10 ^ 18) true 0 false = .ok NICR ∧
      NICR ≠ getNominalICR st'.troveManager 1 := by
  obtain ⟨st₆, hreach₆, -, st, hrun, ⟨-, hhas, -⟩, st', hop, hne, -⟩ := staleDebtRun_states
  -- a top-up without a debt change: the new amounts are the old collateral plus the ether
  have hNICR : BorrowerOperations.getNewNominalICRFromTroveChange (st.troveManager.Troves 1).coll
      (st.troveManager.Troves 1).debt (8000 * 10 ^ 18) true 0 false =
        .ok (computeNominalCR ((st.troveManager.Troves 1).coll + 8000 * 10 ^ 18)
          (st.troveManager.Troves 1).debt) := by
    simp [BorrowerOperations.getNewNominalICRFromTroveChange,
      BorrowerOperations.getNewTroveAmounts, BorrowerOperations.applyChange, SafeMath.sub_of_le]
  exact ⟨st, st', _, reachable_of_runAll hreach₆ hrun, hhas, hop, hNICR, hne⟩

end ZeroProtocol.TroveManager
