import ZeroProtocol.System.RedemptionValue
import ZeroProtocol.DevFrontend.ValidateTroveChange
import ZeroProtocol.LibBase.Fees

/-!
# The fee state along a run

The trove manager's fee state, the base rate and the time of the last fee operation, is the state
of the fee functions of `TroveManager.Fees`, whose runs are sequences of `FeeStep`s from
`FeeState.init`.  This file connects those runs to the system's.

Two functions write the fee state: `_triggerBorrowingFee`, which decays the base rate at the time
of a borrowing, and the tail of `redeemCollateral`, which decays it and raises it by the ether
drawn.  Each is one `FeeStep`.  Every other write of the trove manager (stakes, snapshots, the
owners array, closing a trove, the liquidation's totals) leaves the fee state as it is, so:

* each call moves the fee state by at most one `FeeStep` (`Op.run_fees`);
* by `Reachability.Reachable.map`, the fee state of every state the system reaches is a state the
  fee functions reach from `FeeState.init` (`reachable_feeStep`);
* so the bounds that the fee functions promise hold in every reachable state of the system
  (`reachable_feeState_bounds`).

The SDK's fee calculator, as `getFees` reads it, predicts the contract in every reachable state
where the two sides' parameters agree, up to 32 bits of minutes since the last fee operation
(`getFees_predicts_contract`).

A redemption's fee operation raises the base rate by half the redeemed fraction of the supply and
asserts that the result is positive; while the base rate is zero, a redemption that draws less
than `BETA` wei's worth of the supply fails that `assert` (`redemption_baseRate_assert_fails`).
-/

namespace ZeroProtocol

open LiquityMath LiquityBase TroveManager

/-! ## Borrower operations -/

namespace BorrowerOperations

variable {cfg : Config} {st st' : System} {gas : ℕ}

/-- Charging the borrowing fee is one fee operation: a borrowing at the call's time. -/
theorem triggerBorrowingFee_feeStep {ZUSDAmount maxFeePercentage fee : ℕ}
    (h : triggerBorrowingFee cfg st ZUSDAmount maxFeePercentage = .ok (st', fee)) :
    FeeStep st.troveManager.fees st'.troveManager.fees := by
  obtain ⟨fees, zusdToken, hfees, -, -, rfl⟩ := triggerBorrowingFee_eq_ok h
  exact ⟨.borrow st.timestamp, hfees⟩

/-- `_openTrove` charges the fee in Normal Mode only; the record, its snapshots and stake, the
owners array and the mints leave the fee state. -/
theorem openTrove_fees {sender upperHint lowerHint : Address}
    {value maxFeePercentage ZUSDAmount : ℕ}
    (h : openTrove cfg st gas sender value maxFeePercentage ZUSDAmount upperHint lowerHint =
      .ok st') :
    st'.troveManager.fees = st.troveManager.fees ∨
      FeeStep st.troveManager.fees st'.troveManager.fees := by
  obtain ⟨-, st₁, fee, tm₂, stake, sortedTroves, st₃, hfee, -, -, hstake, -, hmint₁, hmint₂⟩ :=
    openTrove_eq_ok h
  have hrest : st'.troveManager.fees = st₁.troveManager.fees := by
    rw [(mintZusdAndIncreaseActivePoolDebt_frame hmint₂).1,
      (mintZusdAndIncreaseActivePoolDebt_frame hmint₁).1]
    show tm₂.fees = _
    rw [updateStakeAndTotalStakes_fees hstake]
    rfl
  rw [hrest]
  rcases hfee with ⟨-, hfee⟩ | ⟨-, rfl, -⟩
  · exact .inr (triggerBorrowingFee_feeStep hfee)
  · exact .inl rfl

/-- `_adjustSenderTrove` charges the fee on a debt increase in Normal Mode only; the pending
rewards, the new amounts and stake and the moves of tokens and ether leave the fee state. -/
theorem adjustSenderTrove_fees {caller borrower upperHint lowerHint tokensRecipient : Address}
    {value collWithdrawal ZUSDChange maxFeePercentage : ℕ} {isDebtIncrease : Bool}
    (h : adjustSenderTrove cfg st gas caller value borrower collWithdrawal ZUSDChange
      isDebtIncrease upperHint lowerHint maxFeePercentage tokensRecipient = .ok st') :
    st'.troveManager.fees = st.troveManager.fees ∨
      FeeStep st.troveManager.fees st'.troveManager.fees := by
  obtain ⟨-, -, st₁, st₂, fee, oldICR, newICR, tm₃, tm₄, stake, NICR, sortedTroves, hpending, hfee,
    -, -, hupdate, hstake, -, -, hmove⟩ := adjustSenderTrove_eq_ok h
  have hrest : st'.troveManager.fees = st₂.troveManager.fees := by
    rw [(moveTokensAndETHfromAdjustment_frame hmove).1]
    exact (updateStakeAndTotalStakes_fees hstake).trans (updateTroveFromAdjustment_fees hupdate)
  rw [hrest, ← (applyPendingRewards_frame hpending).2.1]
  rcases hfee with ⟨-, -, hfee⟩ | ⟨-, rfl, -⟩
  · exact .inr (triggerBorrowingFee_feeStep hfee)
  · exact .inl rfl

/-- `closeTrove` charges no fee: the pending rewards, the stake, the closing, the burns and the
collateral sent back leave the fee state. -/
theorem closeTrove_fees {sender : Address} (h : closeTrove cfg st sender = .ok st') :
    st'.troveManager.fees = st.troveManager.fees := by
  obtain ⟨-, -, st₁, newTCR, tm, st₂, st₃, st₄, hpending, -, -, -, -, hstake, hclose, hburn₁, hburn₂,
    -, rfl⟩ := closeTrove_eq_ok h
  obtain ⟨htm₃, -⟩ := burnZusdAndDecreaseActivePoolDebt_frame hburn₁
  obtain ⟨htm₄, -⟩ := burnZusdAndDecreaseActivePoolDebt_frame hburn₂
  show st₄.troveManager.fees = _
  rw [htm₄, htm₃, TroveManager.closeTrove_fees hclose]
  exact (removeStake_fees hstake).trans (applyPendingRewards_frame hpending).2.1

end BorrowerOperations

/-! ## Liquidations and redemptions -/

namespace TroveManager

variable {cfg : Config} {st st' : System} {liquidator : Address}

/-- A liquidation call writes no fee state: its sequence keeps it, and so does the tail. -/
theorem liquidateTroves_fees {n : ℕ} (h : liquidateTroves cfg st liquidator n = .ok st') :
    st'.troveManager.fees = st.troveManager.fees := by
  obtain ⟨st₁, remaining, totals, log, hacc, hfinish⟩ := liquidateTroves_sequence h
  exact (hacc.finish_flow hfinish).fees.trans hacc.keeps.fees

theorem batchLiquidateTroves_fees {troveArray : List Address}
    (h : batchLiquidateTroves cfg st liquidator troveArray = .ok st') :
    st'.troveManager.fees = st.troveManager.fees := by
  obtain ⟨st₁, remaining, totals, log, hacc, hfinish⟩ := batchLiquidateTroves_sequence h
  exact (hacc.finish_flow hfinish).fees.trans hacc.keeps.fees

theorem liquidate_fees {borrower : Address} (h : liquidate cfg st liquidator borrower = .ok st') :
    st'.troveManager.fees = st.troveManager.fees := by
  rw [liquidate, Revert.require_bind_eq_ok] at h
  exact batchLiquidateTroves_fees h.2

variable {gas price : ℕ} {upperHint lowerHint : Address} {NICR : ℕ}

/-- Redeeming from one trove writes no fee state: a closing removes the stake and closes the
trove, a partial redemption writes the trove and its stake. -/
theorem redeemCollateralFromTrove_fees {borrower : Address} {maxZUSDamount : ℕ}
    {v : SingleRedemptionValues}
    (h : redeemCollateralFromTrove cfg st gas borrower maxZUSDamount price upperHint lowerHint
      NICR = .ok (st', v)) :
    st'.troveManager.fees = st.troveManager.fees := by
  obtain ⟨-, -, -, -, -, hcases⟩ := redeemCollateralFromTrove_eq_ok h
  rcases hcases with ⟨-, -, tm, st₂, hstake, hclose, hredeem⟩ | ⟨-, rfl⟩ |
    ⟨-, -, -, sortedTroves, tm, stake, -, hstake, rfl⟩
  · rw [(redeemCloseTrove_frame hredeem).1, closeTrove_fees hclose]
    exact removeStake_fees hstake
  · rfl
  · show tm.fees = _
    rw [updateStakeAndTotalStakes_fees hstake]
    rfl

/-- **Run lemma** for the redemption walk, by its induction rule: it writes no fee state. -/
theorem redeemLoop_fees {maxIterations : ℕ} {currentBorrower : Address}
    {totals totals' : RedemptionTotals}
    (h : redeemLoop cfg gas price upperHint lowerHint NICR maxIterations st currentBorrower
      totals = .ok (st', totals')) :
    st'.troveManager.fees = st.troveManager.fees :=
  redeemLoop_induction (J := fun s _ => s.troveManager.fees = st.troveManager.fees)
    (fun hpending hJ => (applyPendingRewards_frame hpending).2.1.trans hJ)
    (fun hredeem hJ => ⟨fun _ => (redeemCollateralFromTrove_fees hredeem).trans hJ,
      fun _ => (redeemCollateralFromTrove_fees hredeem).trans hJ⟩) h rfl

/-- A redemption is one fee operation: after the walk, which leaves the fee state, the base rate
is decayed and raised at the walk's time by the ether drawn, at the call's price and against the
system's debt at the call's start. -/
theorem redeemCollateral_feeStep {sender firstHint : Address}
    {ZUSDamount maxIterations maxFeePercentage : ℕ}
    (h : redeemCollateral cfg st gas sender ZUSDamount firstHint upperHint lowerHint NICR
      maxIterations maxFeePercentage = .ok st') :
    FeeStep st.troveManager.fees st'.troveManager.fees := by
  obtain ⟨currentBorrower, st₁, totals, fees, newBaseRate, ETHFee, zusdToken, hloop, -, hfees, -, -,
    -, -, -, rfl⟩ := redeemCollateral_eq_ok h
  rw [redeemLoop_fees hloop] at hfees
  exact ⟨.redeem st₁.timestamp totals.totalETHDrawn st.price (getEntireSystemDebt st),
    Revert.map_eq_ok.2 ⟨_, hfees, rfl⟩⟩

/-- One trove of 1800 ZUSD drawn against 20 ether at the deployment price of 200, and the
bootstrap period passing. -/
def smallRedemptionRun : List (Op × ℕ) :=
  [(.openTrove 1 (20 * 10 ^ 18) (10 ^ 18) (1800 * 10 ^ 18) 0 0, 10),
   (.advanceTime (14 * 24 * 60 * 60), 0)]

/-- After `smallRedemptionRun`, a redemption of 200 wei of ZUSD draws one wei of collateral
from the trove, with the hint of the trove's new nominal ratio; half of one wei's worth of the
supply's fraction floors to zero, the base rate has never been raised, and the `assert` of
`_updateBaseRateFromRedemption` fails for this and for every redemption of less than `BETA` wei
of the supply. -/
theorem redemption_baseRate_assert_fails :
    ∃ st, Reachable Config.sample System.sample st ∧ st.troveManager.fees.baseRate = 0 ∧
      (∀ ETHDrawn, ETHDrawn * st.price < BETA * getEntireSystemDebt st →
        updateBaseRateFromRedemption st.troveManager.fees st.timestamp ETHDrawn st.price
          (getEntireSystemDebt st) = .error "assert") ∧
      (∃ st₁ totals, redeemLoop Config.sample 10 st.price 0 0
          (computeNominalCR (20 * 10 ^ 18 - 1) (1829 * 10 ^ 18 - 200)) MAX_UINT256 st 1
          ⟨200, 0, 0⟩ = .ok (st₁, totals) ∧ totals.totalETHDrawn = 1) ∧
      (Op.redeemCollateral 1 200 0 0 0 (computeNominalCR (20 * 10 ^ 18 - 1)
        (1829 * 10 ^ 18 - 200)) 0 (10 ^ 18)).run Config.sample 10 st = .error "assert" := by
  obtain ⟨st, hreach, hbase, hclock, hloop, hrevert⟩ :=
    @exists_reachable_of_decide Config.sample System.sample smallRedemptionRun
      (fun st => st.troveManager.fees.baseRate = 0 ∧
        st.troveManager.fees.lastFeeOperationTime ≤ st.timestamp ∧
        (fun r => r.2.totalETHDrawn) <$> redeemLoop Config.sample 10 st.price 0 0
          (computeNominalCR (20 * 10 ^ 18 - 1) (1829 * 10 ^ 18 - 200)) MAX_UINT256 st 1
          ⟨200, 0, 0⟩ = .ok 1 ∧
        Revert.revertsWith ((Op.redeemCollateral 1 200 0 0 0 (computeNominalCR
          (20 * 10 ^ 18 - 1) (1829 * 10 ^ 18 - 200)) 0 (10 ^ 18)).run Config.sample 10 st)
          "assert" = true) _
      (by decide +kernel)
  obtain ⟨⟨st₁, totals⟩, hrun, hdrawn⟩ := Revert.map_eq_ok.mp hloop
  refine ⟨st, hreach, hbase, ?_, ⟨st₁, totals, hrun, hdrawn⟩, Revert.revertsWith_iff.mp hrevert⟩
  intro ETHDrawn hsmall
  exact updateBaseRateFromRedemption_eq_error
    (calcDecayedBaseRate_of_baseRate_eq_zero hbase hclock) hsmall

end TroveManager

/-! ## Runs -/

variable {cfg : Config} {st st' : System}

/-- **Step lemma.**  Every call moves the fee state by at most one fee operation. -/
theorem Op.run_fees {op : Op} {gas : ℕ} (h : op.run cfg gas st = .ok st') :
    st'.troveManager.fees = st.troveManager.fees ∨
      FeeStep st.troveManager.fees st'.troveManager.fees := by
  cases op with
  | openTrove => exact BorrowerOperations.openTrove_fees h
  | adjustTrove => exact BorrowerOperations.adjustSenderTrove_fees h
  | addColl | withdrawColl | withdrawZUSD | repayZUSD =>
    simp only [Op.run, BorrowerOperations.addColl, BorrowerOperations.withdrawColl,
      BorrowerOperations.withdrawZUSD, BorrowerOperations.repayZUSD] at h
    exact BorrowerOperations.adjustSenderTrove_fees h
  | closeTrove => exact .inl (BorrowerOperations.closeTrove_fees h)
  | claimCollateral =>
    simp only [Op.run, BorrowerOperations.claimCollateral, Revert.bind_eq_ok,
      Revert.pure_eq_ok] at h
    obtain ⟨_, -, rfl⟩ := h
    exact .inl rfl
  | liquidate => exact .inl (liquidate_fees h)
  | liquidateTroves => exact .inl (liquidateTroves_fees h)
  | batchLiquidateTroves => exact .inl (batchLiquidateTroves_fees h)
  | redeemCollateral => exact .inr (redeemCollateral_feeStep h)
  | provideToSP =>
    obtain ⟨ci, sp, zusdToken, rfl, -⟩ := StabilityPool.provideToSP_eq_ok h
    exact .inl rfl
  | withdrawFromSP =>
    obtain ⟨ci, sp, zusdToken, rfl, -⟩ := StabilityPool.withdrawFromSpTo_eq_ok h
    exact .inl rfl
  | withdrawETHGainToTrove =>
    -- the pool's part writes no trove; the gain then comes into the trove as an adjustment
    obtain ⟨ci, sp, gain, -, hmove⟩ := StabilityPool.withdrawETHGainToTrove_eq_ok h
    have hfees := BorrowerOperations.adjustSenderTrove_fees hmove
    exact hfees
  | registerFrontEnd =>
    obtain ⟨sp, rfl, -⟩ := StabilityPool.registerFrontEnd_eq_ok h
    exact .inl rfl
  | approveZERO | receiveZero =>
    simp only [Op.run, Revert.bind_eq_ok, Revert.pure_eq_ok] at h
    obtain ⟨_, -, rfl⟩ := h
    exact .inl rfl
  | setPrice | advanceTime =>
    rw [Op.run, Revert.pure_eq_ok] at h
    subst h
    exact .inl rfl

/-- **Run lemma.**  The fee state of every state reached from deployment is reached by the fee
functions from their initial state. -/
theorem reachable_feeStep {timestamp price maxSize : ℕ}
    (h : Reachable cfg (System.init timestamp price maxSize) st) :
    Reachability.Reachable FeeStep FeeState.init st.troveManager.fees :=
  Reachability.Reachable.map (f := fun st : System => st.troveManager.fees)
    (fun _ _ ⟨_, _, hrun⟩ => Op.run_fees hrun) h

/-- In every state the system reaches from deployment, with parameters whose borrowing fee floor
is at most its cap, the fee state meets the bounds of the fee functions: the base rate is at most
one, its decay never raises it and succeeds at every time not before the last fee operation, the
borrowing rate lies between the floor and the cap and the redemption rate is at most one, with
or without the decay. -/
theorem reachable_feeState_bounds {timestamp price maxSize : ℕ}
    (hp : cfg.params.BORROWING_FEE_FLOOR ≤ cfg.params.MAX_BORROWING_FEE)
    (h : Reachable cfg (System.init timestamp price maxSize) st) :
    FeeBounds cfg.params st.troveManager.fees :=
  feeBounds_of_baseRate_le hp (reachable_baseRate_le (reachable_feeStep h))

/-- After `equalKeyRun` and a redemption of 4020 ZUSD, the base rate is positive, and the bounds
hold. -/
theorem reachable_feeState_bounds_afterRedemption :
    ∃ st, Reachable Config.sample System.sample st ∧ 0 < st.troveManager.fees.baseRate ∧
      FeeBounds Config.sample.params st.troveManager.fees := by
  obtain ⟨st₀, hreach₀, -, -, -, -, -, -, -, st, hst, -, -, hpos⟩ := equalKeyRun_states
  have hreach := hreach₀.run hst
  exact ⟨st, hreach, hpos, reachable_feeState_bounds (by decide) hreach⟩

/-! ## What the SDK predicts -/

open LibBase ReadableEthersLiquity

/-- The pools' total is below the critical ratio in the SDK exactly when the system is in
Recovery Mode, when the two critical ratios agree. -/
theorem getTotal_collateralRatioIsBelowCritical (hccr : cfg.params.CCR = CRITICAL_COLLATERAL_RATIO)
    (st : System) :
    (getTotal st).collateralRatioIsBelowCritical st.price = checkRecoveryMode cfg st st.price :=
  DevFrontend.recoveryMode_eq_checkRecoveryMode hccr st 0 0 0

/-- In every state reached from deployment, with the contract's fee parameters and critical ratio
equal to the SDK's constants, and within 32 bits of minutes since the last fee operation, the
fees that `getFees` reads at the latest block predict the contract: the base rate is the decayed
one, the borrowing rate is the one a borrower operation is charged at (none in Recovery Mode),
and for the fraction of the supply that a redemption draws, the redemption rate is the contract's
rate at the base rate that the redemption writes.  A fee clock past the block makes the
contract's decay revert, where the SDK counts no time. -/
theorem getFees_predicts_contract {timestamp price maxSize : ℕ} (hp : SameRates cfg.params)
    (hccr : cfg.params.CCR = CRITICAL_COLLATERAL_RATIO)
    (h : Reachable cfg (System.init timestamp price maxSize) st)
    (hclock : st.troveManager.fees.lastFeeOperationTime ≤ st.timestamp)
    (hbits : (st.timestamp - st.troveManager.fees.lastFeeOperationTime) / 60 ≤ 0xffffffff) :
    (getFees st).baseRate (getFees st).timeOfLatestBlock =
        calcDecayedBaseRate st.troveManager.fees st.timestamp ∧
      (getFees st).borrowingRate (getFees st).timeOfLatestBlock =
        BorrowerOperations.borrowingRateAt cfg st ∧
      ∀ ETHDrawn redemptionPrice totalZUSDSupply fees newBaseRate,
        updateBaseRateFromRedemption st.troveManager.fees st.timestamp ETHDrawn redemptionPrice
          totalZUSDSupply = .ok (fees, newBaseRate) →
        (getFees st).redemptionRate (ETHDrawn * redemptionPrice / totalZUSDSupply)
          (getFees st).timeOfLatestBlock = .ok (calcRedemptionRate cfg.params newBaseRate) := by
  refine ⟨getFeesFactory_baseRate st.timestamp _ hclock hbits, ?_, ?_⟩
  · unfold getFees
    rw [getTotal_collateralRatioIsBelowCritical hccr, getFeesFactory_timeOfLatestBlock]
    cases hmode : checkRecoveryMode cfg st st.price with
    | false =>
      -- the decay's `assert` holds on the base rate of at most one that every run keeps
      obtain ⟨fees, hdecay⟩ :=
        decayBaseRateFromBorrowing_ok (reachable_baseRate_le (reachable_feeStep h)) hclock
      rw [getFeesFactory_borrowingRate _ hp hclock hbits, getBorrowingRateWithDecay,
        decayBaseRateFromBorrowing_baseRate hdecay, BorrowerOperations.borrowingRateAt, hmode,
        if_neg Bool.false_ne_true, hdecay]
      rfl
    | true =>
      rw [Fees.borrowingRate, getFeesFactory_recoveryMode, if_pos rfl,
        BorrowerOperations.borrowingRateAt, hmode, if_pos rfl]
  · intro ETHDrawn redemptionPrice totalZUSDSupply fees newBaseRate hredeem
    obtain ⟨decayed, hdecayed, -, rfl, -, -⟩ := updateBaseRateFromRedemption_eq_ok hredeem
    rw [getFees, getFeesFactory_timeOfLatestBlock,
      getFeesFactory_redemptionRate st.timestamp _ hp hclock hbits, hdecayed]
    rfl

/-- `Config.sample` with the fee parameters set to the SDK's rate constants. -/
def Config.sdkRates : Config where
  params := { LiquityBaseParams.initialize with
    BORROWING_FEE_FLOOR := MINIMUM_BORROWING_RATE
    REDEMPTION_FEE_FLOOR := MINIMUM_REDEMPTION_RATE
    MAX_BORROWING_FEE := MAXIMUM_BORROWING_RATE }
  addresses := Config.sample.addresses
  BOOTSTRAP_PERIOD := Config.sample.BOOTSTRAP_PERIOD
  zeroDeploymentStartTime := Config.sample.zeroDeploymentStartTime
  acceptsETH := Config.sample.acceptsETH

/-- Accounts `1` and `2` open troves of 1800 and 2000 ZUSD; after the bootstrap period `2`
redeems 100 ZUSD from trove `1`, with the hint of its new nominal ratio, and an hour passes. -/
def sdkRedemptionRun : List (Op × ℕ) :=
  [(.openTrove 1 (20 * 10 ^ 18) (10 ^ 18) (1800 * 10 ^ 18) 0 0, 10),
   (.openTrove 2 (100 * 10 ^ 18) (10 ^ 18) (2000 * 10 ^ 18) 0 0, 10),
   (.advanceTime (14 * 24 * 60 * 60), 0),
   (.redeemCollateral 2 (100 * 10 ^ 18) 0 0 0 (computeNominalCR (195 * 10 ^ 17) (1810 * 10 ^ 18))
     0 (10 ^ 18), 10),
   (.advanceTime (60 * 60), 0)]

/-- After `sdkRedemptionRun` under the SDK's rates, the base rate the redemption raised has
decayed for an hour, and the SDK's fees predict the contract's. -/
theorem getFees_predicts_contract_afterRedemption :
    ∃ st, Reachable Config.sdkRates System.sample st ∧ 0 < st.troveManager.fees.baseRate ∧
      (getFees st).baseRate (getFees st).timeOfLatestBlock =
          calcDecayedBaseRate st.troveManager.fees st.timestamp ∧
        (getFees st).borrowingRate (getFees st).timeOfLatestBlock =
          BorrowerOperations.borrowingRateAt Config.sdkRates st ∧
        ∀ ETHDrawn redemptionPrice totalZUSDSupply fees newBaseRate,
          updateBaseRateFromRedemption st.troveManager.fees st.timestamp ETHDrawn redemptionPrice
            totalZUSDSupply = .ok (fees, newBaseRate) →
          (getFees st).redemptionRate (ETHDrawn * redemptionPrice / totalZUSDSupply)
            (getFees st).timeOfLatestBlock =
              .ok (calcRedemptionRate Config.sdkRates.params newBaseRate) := by
  obtain ⟨st, hreach, hpos, hclock, hbits⟩ :=
    @exists_reachable_of_decide Config.sdkRates System.sample sdkRedemptionRun
      (fun st => 0 < st.troveManager.fees.baseRate ∧
        st.troveManager.fees.lastFeeOperationTime ≤ st.timestamp ∧
        (st.timestamp - st.troveManager.fees.lastFeeOperationTime) / 60 ≤ 0xffffffff) _
      (by decide +kernel)
  exact ⟨st, hreach, hpos, getFees_predicts_contract ⟨rfl, rfl, rfl⟩ (by decide) hreach hclock hbits⟩

end ZeroProtocol
