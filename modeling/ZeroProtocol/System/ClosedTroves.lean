import ZeroProtocol.BorrowerOperations.Records
import ZeroProtocol.TroveManager.LiquidationAccounting

/-!
# Closed troves hold nothing

In every state the system reaches, a trove that is not active has no collateral and no debt
(`InactiveEmpty`).  A trove that was never opened has the empty record, `_closeTrove` zeroes
the trove it closes, and every other write of a trove's amounts is to an active trove: `openTrove`
makes the trove active as it writes it, an adjustment and the pending rewards require an active
trove, and a redemption writes a trove with debt, which the invariant itself shows to be active.
The writes of stakes, snapshots and array indices keep every trove's status and amounts
(`SameAmounts`), and so does every operation of the pools.

The invariant is what lets a trove be opened from the empty record: the amounts `openTrove`
records are exactly what it adds.
-/

namespace ZeroProtocol.TroveManager

open LiquityMath LiquityBase

/-- Every trove that is not active holds nothing. -/
def InactiveEmpty (T : Address → Trove) : Prop :=
  ∀ b, (T b).status ≠ .active → (T b).coll = 0 ∧ (T b).debt = 0

namespace InactiveEmpty

variable {T T' : Address → Trove}

theorem init : InactiveEmpty TroveManagerStorage.init.Troves := fun _ _ => ⟨rfl, rfl⟩

theorem of_sameAmounts (h : InactiveEmpty T) (hsame : SameAmounts T T') : InactiveEmpty T' := by
  intro b hb
  obtain ⟨hs, hc, hd⟩ := hsame b
  rw [hc, hd]
  exact h b (hs ▸ hb)

/-- Writing a record that is active or empty. -/
theorem update (h : InactiveEmpty T) {b : Address} {t : Trove}
    (ht : t.status ≠ .active → t.coll = 0 ∧ t.debt = 0) :
    InactiveEmpty (Function.update T b t) := by
  intro a ha
  by_cases hab : a = b
  · subst hab
    rw [Function.update_self] at ha ⊢
    exact ht ha
  · rw [Function.update_of_ne hab] at ha ⊢
    exact h a ha

/-- A trove with debt is active. -/
theorem active_of_debt_pos (h : InactiveEmpty T) {b : Address} (hdebt : 0 < (T b).debt) :
    (T b).status = .active := by
  by_contra hb
  have hzero := (h b hb).2
  omega

end InactiveEmpty

section TroveManager

variable {cfg : Config} {st st₁ st' : System} {borrower : Address}

theorem applyPendingRewards_inactiveEmpty (h : applyPendingRewards st borrower = .ok st')
    (hI : InactiveEmpty st.troveManager.Troves) : InactiveEmpty st'.troveManager.Troves := by
  rcases applyPendingRewards_Troves h with hsame | ⟨hactive, hTroves⟩
  · exact hI.of_sameAmounts hsame
  · rw [hTroves]
    exact hI.update fun hne => absurd hactive hne

/-- Closing a trove zeroes it; removing its owner moves another trove's index only. -/
theorem closeTrove_inactiveEmpty {status : Status} (h : closeTrove st borrower status = .ok st')
    (hI : InactiveEmpty st.troveManager.Troves) : InactiveEmpty st'.troveManager.Troves := by
  obtain ⟨-, -, tm', sortedTroves, howner, -, rfl⟩ := closeTrove_eq_ok h
  exact (hI.update fun _ => ⟨rfl, rfl⟩).of_sameAmounts (removeTroveOwner_sameAmounts howner)

theorem removeStake_inactiveEmpty {tm : TroveManagerStorage}
    (h : removeStake st.troveManager borrower = .ok tm)
    (hI : InactiveEmpty st.troveManager.Troves) : InactiveEmpty tm.Troves :=
  hI.of_sameAmounts (removeStake_sameAmounts h)

theorem withdrawPendingAndStake_inactiveEmpty {ZUSD ETH : ℕ}
    (h : withdrawPendingAndStake st borrower ZUSD ETH = .ok st')
    (hI : InactiveEmpty st.troveManager.Troves) : InactiveEmpty st'.troveManager.Troves := by
  simp only [withdrawPendingAndStake, Revert.bind_eq_ok, Revert.pure_eq_ok] at h
  obtain ⟨st₁, hmove, tm, hstake, rfl⟩ := h
  obtain ⟨-, htm, -⟩ := movePendingTroveRewardsToActivePool_keeps hmove
  rw [← htm] at hI
  exact removeStake_inactiveEmpty hstake hI

theorem liquidateNormalMode_inactiveEmpty {ZUSDInStabPool : ℕ} {v : LiquidationValues}
    (h : liquidateNormalMode cfg st borrower ZUSDInStabPool = .ok (st', v))
    (hI : InactiveEmpty st.troveManager.Troves) : InactiveEmpty st'.troveManager.Troves := by
  unfold liquidateNormalMode at h
  generalize getEntireDebtAndColl st.troveManager borrower = entire at h
  obtain ⟨debt, coll, pendingDebt, pendingColl⟩ := entire
  simp only [Revert.bind_eq_ok, SafeMath.sub_eq_ok, Revert.pure_eq_ok, Prod.mk.injEq] at h
  obtain ⟨st₁, hwithdraw, _, -, _, -, st₂, hclose, rfl, -⟩ := h
  exact closeTrove_inactiveEmpty hclose (withdrawPendingAndStake_inactiveEmpty hwithdraw hI)

theorem liquidateRecoveryMode_inactiveEmpty {ICR ZUSDInStabPool TCR price : ℕ}
    {v : LiquidationValues}
    (h : liquidateRecoveryMode cfg st borrower ICR ZUSDInStabPool TCR price = .ok (st', v))
    (hI : InactiveEmpty st.troveManager.Troves) : InactiveEmpty st'.troveManager.Troves := by
  unfold liquidateRecoveryMode at h
  generalize getEntireDebtAndColl st.troveManager borrower = entire at h
  obtain ⟨debt, coll, pendingDebt, pendingColl⟩ := entire
  split_ifs at h
  · -- the last trove is left alone
    obtain ⟨rfl, -⟩ := Prod.mk.inj (Revert.pure_eq_ok.1 h)
    exact hI
  · simp only [Revert.bind_eq_ok, SafeMath.sub_eq_ok, Revert.pure_eq_ok, Prod.mk.injEq] at h
    obtain ⟨_, -, st₁, hwithdraw, st₂, hclose, rfl, -⟩ := h
    exact closeTrove_inactiveEmpty hclose (withdrawPendingAndStake_inactiveEmpty hwithdraw hI)
  · simp only [Revert.bind_eq_ok, SafeMath.sub_eq_ok, Revert.pure_eq_ok, Prod.mk.injEq] at h
    obtain ⟨_, -, st₁, hwithdraw, _, -, st₂, hclose, rfl, -⟩ := h
    exact closeTrove_inactiveEmpty hclose (withdrawPendingAndStake_inactiveEmpty hwithdraw hI)
  simp only [Revert.bind_eq_ok, SafeMath.sub_eq_ok] at h
  obtain ⟨_, -, h⟩ := h
  split_ifs at h
  · -- the capped offset: rewards and stake out, the trove closed, the surplus credited
    simp only [Revert.bind_eq_ok, Revert.assert_eq_ok, Revert.pure_eq_ok, Prod.mk.injEq] at h
    obtain ⟨st₁, hmove, _, -, tm, hstake, _, -, st₂, hclose, rfl, -⟩ := h
    obtain ⟨-, htm, -⟩ := movePendingTroveRewardsToActivePool_keeps hmove
    rw [← htm] at hI
    have hI₂ := closeTrove_inactiveEmpty hclose (removeStake_inactiveEmpty hstake hI)
    split_ifs
    · exact hI₂
    · exact hI₂
  · obtain ⟨rfl, -⟩ := Prod.mk.inj (Revert.pure_eq_ok.1 h)
    exact hI

end TroveManager

section Sequences

variable {cfg : Config} {price : ℕ} {st st' : System} {user : Address}
  {totals totals' : LiquidationTotals}

theorem sequenceNormalStep_inactiveEmpty {remaining remaining' : ℕ}
    (h : sequenceNormalStep cfg st user remaining totals = .ok (st', remaining', totals'))
    (hI : InactiveEmpty st.troveManager.Troves) : InactiveEmpty st'.troveManager.Troves := by
  simp only [sequenceNormalStep, Revert.bind_eq_ok] at h
  obtain ⟨⟨st₁, v⟩, hliquidate, h⟩ := h
  simp only [SafeMath.sub_eq_ok, Revert.pure_eq_ok, Prod.mk.injEq] at h
  obtain ⟨_, -, rfl, -, -⟩ := h
  exact liquidateNormalMode_inactiveEmpty hliquidate hI

theorem sequenceRecoveryStep_inactiveEmpty {collDrop : LiquidationValues → Except String ℕ}
    {ICR : ℕ} {vars vars' : SequenceVars}
    (h : sequenceRecoveryStep cfg price collDrop st user ICR vars totals =
      .ok (st', vars', totals'))
    (hI : InactiveEmpty st.troveManager.Troves) : InactiveEmpty st'.troveManager.Troves := by
  simp only [sequenceRecoveryStep, Revert.bind_eq_ok] at h
  obtain ⟨⟨st₁, v⟩, hliquidate, h⟩ := h
  simp only [SafeMath.sub_eq_ok, Revert.pure_eq_ok, Prod.mk.injEq] at h
  obtain ⟨_, -, _, -, _, -, rfl, -, -⟩ := h
  exact liquidateRecoveryMode_inactiveEmpty hliquidate hI

end Sequences

section Calls

variable {cfg : Config} {st st' : System} {liquidator : Address}

/-- The tail of a liquidation writes no trove record. -/
theorem finishLiquidation_inactiveEmpty {st₁ : System} {remaining : ℕ}
    {totals : LiquidationTotals} {log : List (Address × LiquidationValues)}
    (hacc : SequenceAccounts st st₁ remaining totals log)
    (h : finishLiquidation cfg st₁ liquidator totals = .ok st')
    (hI : InactiveEmpty st₁.troveManager.Troves) : InactiveEmpty st'.troveManager.Troves := by
  rw [(hacc.finish_flow h).Troves]
  exact hI

theorem liquidateTroves_inactiveEmpty {n : ℕ} (h : liquidateTroves cfg st liquidator n = .ok st')
    (hI : InactiveEmpty st.troveManager.Troves) : InactiveEmpty st'.troveManager.Troves := by
  obtain ⟨st₁, totals, ⟨-, hsequence⟩ | ⟨-, hsequence⟩, hfinish⟩ := liquidateTroves_cases h
  · obtain ⟨_, _, hacc⟩ :=
      liquidateTrovesSequenceRecoveryMode_accounts (SequenceAccounts.init st) hsequence
    obtain ⟨_, hI₁⟩ := liquidateTrovesSequenceRecoveryMode_induction
      (I := fun st _ _ => InactiveEmpty st.troveManager.Troves)
      (fun hI _ _ hstep => sequenceRecoveryStep_inactiveEmpty hstep hI)
      (fun hI _ _ _ hstep => sequenceNormalStep_inactiveEmpty hstep hI) hI hsequence
    exact finishLiquidation_inactiveEmpty hacc hfinish hI₁
  · obtain ⟨_, _, hacc⟩ :=
      liquidateTrovesSequenceNormalMode_accounts (SequenceAccounts.init st) hsequence
    obtain ⟨_, hI₁⟩ := liquidateTrovesSequenceNormalMode_induction
      (I := fun st _ _ => InactiveEmpty st.troveManager.Troves)
      (fun hI _ hstep => sequenceNormalStep_inactiveEmpty hstep hI) hI hsequence
    exact finishLiquidation_inactiveEmpty hacc hfinish hI₁

theorem batchLiquidateTroves_inactiveEmpty {troveArray : List Address}
    (h : batchLiquidateTroves cfg st liquidator troveArray = .ok st')
    (hI : InactiveEmpty st.troveManager.Troves) : InactiveEmpty st'.troveManager.Troves := by
  obtain ⟨st₁, totals, ⟨-, hsequence⟩ | ⟨-, hsequence⟩, hfinish⟩ := batchLiquidateTroves_cases h
  · obtain ⟨_, _, hacc⟩ :=
      batchLiquidateSequenceRecoveryMode_accounts (SequenceAccounts.init st) hsequence
    obtain ⟨_, hI₁⟩ := batchLiquidateSequenceRecoveryMode_induction
      (I := fun st _ _ => InactiveEmpty st.troveManager.Troves)
      (fun hI _ hstep => sequenceRecoveryStep_inactiveEmpty hstep hI)
      (fun hI _ _ hstep => sequenceNormalStep_inactiveEmpty hstep hI) hI hsequence
    exact finishLiquidation_inactiveEmpty hacc hfinish hI₁
  · obtain ⟨_, _, hacc⟩ :=
      batchLiquidateSequenceNormalMode_accounts (SequenceAccounts.init st) hsequence
    obtain ⟨_, hI₁⟩ := batchLiquidateSequenceNormalMode_induction
      (I := fun st _ _ => InactiveEmpty st.troveManager.Troves)
      (fun hI _ hstep => sequenceNormalStep_inactiveEmpty hstep hI) hI hsequence
    exact finishLiquidation_inactiveEmpty hacc hfinish hI₁

theorem liquidate_inactiveEmpty {borrower : Address}
    (h : liquidate cfg st liquidator borrower = .ok st')
    (hI : InactiveEmpty st.troveManager.Troves) : InactiveEmpty st'.troveManager.Troves := by
  rw [liquidate, Revert.require_bind_eq_ok] at h
  exact batchLiquidateTroves_inactiveEmpty h.2 hI

end Calls

section Redemptions

variable {cfg : Config} {st st' : System} {gas price : ℕ} {borrower : Address}

/-- Closing a trove by redemption moves ZUSD and ether only. -/
theorem redeemCloseTrove_frame {ZUSD ETH : ℕ}
    (h : redeemCloseTrove cfg st borrower ZUSD ETH = .ok st') :
    st'.troveManager = st.troveManager ∧ st'.sortedTroves = st.sortedTroves := by
  simp only [redeemCloseTrove, Revert.bind_eq_ok, Revert.pure_eq_ok] at h
  obtain ⟨_, -, _, -, _, -, rfl⟩ := h
  exact ⟨rfl, rfl⟩

/-- A redemption closes the trove, or leaves it, or writes it; a trove it writes has at least
the gas compensation as debt, so it is active. -/
theorem redeemCollateralFromTrove_inactiveEmpty {maxZUSDamount NICR : ℕ}
    {upperHint lowerHint : Address} {v : SingleRedemptionValues}
    (h : redeemCollateralFromTrove cfg st gas borrower maxZUSDamount price upperHint lowerHint NICR =
      .ok (st', v))
    (hI : InactiveEmpty st.troveManager.Troves) : InactiveEmpty st'.troveManager.Troves := by
  obtain ⟨hgas, -, -, -, -, hcases⟩ := redeemCollateralFromTrove_eq_ok h
  have hactive : (st.troveManager.Troves borrower).status = .active :=
    hI.active_of_debt_pos (lt_of_lt_of_le (by decide) hgas)
  rcases hcases with ⟨-, -, tm, st₂, hstake, hclose, hredeem⟩ | ⟨-, rfl⟩ |
    ⟨-, -, -, sortedTroves, tm, stake, -, hstake, rfl⟩
  · rw [(redeemCloseTrove_frame hredeem).1]
    exact closeTrove_inactiveEmpty hclose (removeStake_inactiveEmpty hstake hI)
  · -- a cancelled partial redemption writes nothing
    exact hI
  · -- the partial redemption writes the active trove
    refine InactiveEmpty.of_sameAmounts ?_ (updateStakeAndTotalStakes_sameAmounts hstake)
    exact hI.update fun hne => absurd hactive hne

/-- **Run lemma** for the redemption walk, by its induction rule. -/
theorem redeemLoop_inactiveEmpty {upperHint lowerHint : Address} {NICR : ℕ}
    {maxIterations : ℕ} {st st' : System} {currentBorrower : Address}
    {totals totals' : RedemptionTotals}
    (h : redeemLoop cfg gas price upperHint lowerHint NICR maxIterations st currentBorrower
      totals = .ok (st', totals'))
    (hI : InactiveEmpty st.troveManager.Troves) : InactiveEmpty st'.troveManager.Troves :=
  redeemLoop_induction (J := fun st _ => InactiveEmpty st.troveManager.Troves)
    (fun hpending hI => applyPendingRewards_inactiveEmpty hpending hI)
    (fun hredeem hI => ⟨fun _ => redeemCollateralFromTrove_inactiveEmpty hredeem hI,
      fun _ => redeemCollateralFromTrove_inactiveEmpty hredeem hI⟩) h hI

theorem redeemCollateral_inactiveEmpty {sender firstHint upperHint lowerHint : Address}
    {ZUSDamount NICR maxIterations maxFeePercentage : ℕ}
    (h : redeemCollateral cfg st gas sender ZUSDamount firstHint upperHint lowerHint NICR
      maxIterations maxFeePercentage = .ok st')
    (hI : InactiveEmpty st.troveManager.Troves) : InactiveEmpty st'.troveManager.Troves := by
  obtain ⟨currentBorrower, st₁, totals, fees, newBaseRate, ETHFee, zusdToken, hloop, -, -, -, -, -,
    -, -, rfl⟩ := redeemCollateral_eq_ok h
  -- the rest sets the fee state and moves ether and ZUSD
  exact (redeemLoop_inactiveEmpty hloop hI :)

end Redemptions

end ZeroProtocol.TroveManager

namespace ZeroProtocol.BorrowerOperations

open TroveManager

variable {cfg : Config} {st st' : System} {gas : ℕ}

theorem openTrove_inactiveEmpty {sender upperHint lowerHint : Address}
    {value maxFeePercentage ZUSDAmount : ℕ}
    (h : openTrove cfg st gas sender value maxFeePercentage ZUSDAmount upperHint lowerHint =
      .ok st')
    (hI : InactiveEmpty st.troveManager.Troves) : InactiveEmpty st'.troveManager.Troves := by
  obtain ⟨-, fee, -, -, hsame⟩ := openTrove_spec h
  refine InactiveEmpty.of_sameAmounts ?_ hsame
  -- the opened trove is active
  exact hI.update fun hne => absurd rfl hne

theorem adjustSenderTrove_inactiveEmpty {caller borrower upperHint lowerHint tokensRecipient : Address}
    {value collWithdrawal ZUSDChange maxFeePercentage : ℕ} {isDebtIncrease : Bool}
    (h : adjustSenderTrove cfg st gas caller value borrower collWithdrawal ZUSDChange
      isDebtIncrease upperHint lowerHint maxFeePercentage tokensRecipient = .ok st')
    (hI : InactiveEmpty st.troveManager.Troves) : InactiveEmpty st'.troveManager.Troves := by
  obtain ⟨st₁, fee, newColl, newDebt, hpending, hactive, -, -, -, hsame⟩ :=
    adjustSenderTrove_spec h
  refine InactiveEmpty.of_sameAmounts ?_ hsame
  -- the adjusted trove is active
  exact (applyPendingRewards_inactiveEmpty hpending hI).update fun hne => absurd hactive hne

theorem closeTrove_inactiveEmpty {sender : Address} (h : closeTrove cfg st sender = .ok st')
    (hI : InactiveEmpty st.troveManager.Troves) : InactiveEmpty st'.troveManager.Troves := by
  obtain ⟨-, -, st₁, newTCR, tm, st₂, st₃, st₄, hpending, -, -, -, -, hstake, hclose, hburn₁, hburn₂,
    -, rfl⟩ := closeTrove_eq_ok h
  have hI₂ := TroveManager.closeTrove_inactiveEmpty hclose
    (removeStake_inactiveEmpty hstake (applyPendingRewards_inactiveEmpty hpending hI))
  -- the burns and the collateral sent back write no trove
  show InactiveEmpty st₄.troveManager.Troves
  rw [(burnZusdAndDecreaseActivePoolDebt_frame hburn₂).1,
    (burnZusdAndDecreaseActivePoolDebt_frame hburn₁).1]
  exact hI₂

end ZeroProtocol.BorrowerOperations

namespace ZeroProtocol.StabilityPool

open TroveManager

variable {cfg : Config} {st st' : System} {sender : Address}

theorem provideToSP_troveManager {amount : ℕ} {frontEndTag : Address}
    (h : provideToSP cfg st sender amount frontEndTag = .ok st') :
    st'.troveManager = st.troveManager := by
  simp only [provideToSP, Revert.bind_eq_ok, Revert.pure_eq_ok] at h
  obtain ⟨_, -, _, -, _, -, st₁, hissue, h⟩ := h
  obtain ⟨ci, sp, rfl, -, -⟩ := triggerZEROIssuance_frame hissue
  obtain ⟨_, -, _, -, _, -, _, -, _, -, _, -, _, -, rfl⟩ := h
  rfl

theorem withdrawFromSpTo_troveManager {amount : ℕ} {receiver : Address}
    (h : withdrawFromSpTo cfg st sender amount receiver = .ok st') :
    st'.troveManager = st.troveManager := by
  simp only [withdrawFromSpTo] at h
  obtain ⟨_, -, h⟩ := Revert.bind_eq_ok.1 h
  -- a withdrawal of a nonzero amount checks the troves first
  split at h
  on_goal 1 => obtain ⟨_, -, h⟩ := Revert.bind_eq_ok.1 h
  all_goals
    simp only [Revert.bind_eq_ok, Revert.pure_eq_ok] at h
    obtain ⟨_, -, st₁, hissue, h⟩ := h
    obtain ⟨ci, sp, rfl, -, -⟩ := triggerZEROIssuance_frame hissue
    obtain ⟨_, -, _, -, _, -, _, -, _, -, _, -, _, -, _, -, _, -, rfl⟩ := h
    rfl

theorem withdrawETHGainToTrove_inactiveEmpty {gas : ℕ} {upperHint lowerHint : Address}
    (h : withdrawETHGainToTrove cfg st gas sender upperHint lowerHint = .ok st')
    (hI : InactiveEmpty st.troveManager.Troves) : InactiveEmpty st'.troveManager.Troves := by
  simp only [withdrawETHGainToTrove, Revert.bind_eq_ok] at h
  obtain ⟨_, -, _, -, _, -, st₁, hissue, h⟩ := h
  obtain ⟨ci, sp, rfl, -, -⟩ := triggerZEROIssuance_frame hissue
  obtain ⟨_, -, _, -, _, -, _, -, _, -, _, -, hmove⟩ := h
  -- the gain moves into the trove through an adjustment
  exact BorrowerOperations.adjustSenderTrove_inactiveEmpty hmove hI

end ZeroProtocol.StabilityPool

namespace ZeroProtocol

open TroveManager

variable {cfg : Config} {st st' : System}

/-- **Step lemma.**  Every call keeps the troves that are not active empty. -/
theorem Op.run_inactiveEmpty {op : Op} {gas : ℕ} (h : op.run cfg gas st = .ok st')
    (hI : InactiveEmpty st.troveManager.Troves) : InactiveEmpty st'.troveManager.Troves := by
  cases op with
  | openTrove => exact BorrowerOperations.openTrove_inactiveEmpty h hI
  | adjustTrove => exact BorrowerOperations.adjustSenderTrove_inactiveEmpty h hI
  | addColl =>
    rw [Op.run, BorrowerOperations.addColl] at h
    exact BorrowerOperations.adjustSenderTrove_inactiveEmpty h hI
  | withdrawColl =>
    rw [Op.run, BorrowerOperations.withdrawColl] at h
    exact BorrowerOperations.adjustSenderTrove_inactiveEmpty h hI
  | withdrawZUSD =>
    rw [Op.run, BorrowerOperations.withdrawZUSD] at h
    exact BorrowerOperations.adjustSenderTrove_inactiveEmpty h hI
  | repayZUSD =>
    rw [Op.run, BorrowerOperations.repayZUSD] at h
    exact BorrowerOperations.adjustSenderTrove_inactiveEmpty h hI
  | closeTrove => exact BorrowerOperations.closeTrove_inactiveEmpty h hI
  | claimCollateral =>
    simp only [Op.run, BorrowerOperations.claimCollateral, Revert.bind_eq_ok,
      Revert.pure_eq_ok] at h
    obtain ⟨_, -, rfl⟩ := h
    exact hI
  | liquidate => exact liquidate_inactiveEmpty h hI
  | liquidateTroves => exact liquidateTroves_inactiveEmpty h hI
  | batchLiquidateTroves => exact batchLiquidateTroves_inactiveEmpty h hI
  | redeemCollateral => exact redeemCollateral_inactiveEmpty h hI
  | provideToSP => exact StabilityPool.provideToSP_troveManager h ▸ hI
  | withdrawFromSP => exact StabilityPool.withdrawFromSpTo_troveManager h ▸ hI
  | withdrawETHGainToTrove => exact StabilityPool.withdrawETHGainToTrove_inactiveEmpty h hI
  | registerFrontEnd =>
    simp only [Op.run, StabilityPool.registerFrontEnd, Revert.bind_eq_ok, Revert.pure_eq_ok] at h
    obtain ⟨_, -, _, -, _, -, rfl⟩ := h
    exact hI
  | approveZERO =>
    simp only [Op.run, Revert.bind_eq_ok, Revert.pure_eq_ok] at h
    obtain ⟨_, -, rfl⟩ := h
    exact hI
  | receiveZero =>
    simp only [Op.run, Revert.bind_eq_ok, Revert.pure_eq_ok] at h
    obtain ⟨_, -, rfl⟩ := h
    exact hI
  | setPrice =>
    rw [Op.run, Revert.pure_eq_ok] at h
    exact h ▸ hI
  | advanceTime =>
    rw [Op.run, Revert.pure_eq_ok] at h
    exact h ▸ hI

/-- **Run lemma.**  In every state reached from deployment, a trove that is not active has no
collateral and no debt. -/
theorem reachable_inactiveEmpty {timestamp price maxSize : ℕ}
    (h : Reachable cfg (System.init timestamp price maxSize) st) :
    InactiveEmpty st.troveManager.Troves :=
  Reachability.Reachable.induction (P := fun st => InactiveEmpty st.troveManager.Troves)
    InactiveEmpty.init (fun _ _ hI ⟨_, _, hrun⟩ => Op.run_inactiveEmpty hrun hI) h

end ZeroProtocol
