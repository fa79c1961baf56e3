import ZeroProtocol.TroveManager.Base
import ZeroProtocol.TroveManager.Fees

/-!
# `TroveManagerRedeemOps`: redemptions

A redemption swaps ZUSD for collateral at face value.  It walks the sorted list upwards from
the last trove whose `ICR` is at least `MCR` (or from a hint the caller checked to be that
trove), and from each trove takes as much debt as is left to redeem, down to the gas
compensation, with collateral worth the same at the current price.  A trove left with only
its gas compensation is closed and the rest of its collateral goes to the surplus pool; a
trove left with more is re-inserted at the `NICR` the caller's hint was computed for, and if
its `NICR` differs from the hint, or its net debt would fall below the minimum, the walk
stops before it.  The base rate is raised by the redeemed fraction of the supply, the
redemption fee goes to the fee distributor, and the redeemer's ZUSD is burned.

`maxIterations` bounds the walk and is the recursion's measure; `0` means no bound, which
the contract writes as `uint256(-1)`.  The fee distributor's `distributeFees` passes the
fee on to contracts that nothing here reads, and is not modelled; `gas` bounds each search
loop of the sorted list, as in `SortedTroves.insert`.
-/

namespace ZeroProtocol.TroveManager

open LiquityMath LiquityBase

/-- Source `SingleRedemptionValues`. -/
structure SingleRedemptionValues where
  ZUSDLot : ℕ
  ETHLot : ℕ
  cancelledPartial : Bool
  deriving DecidableEq, Repr

/-- Source `RedemptionTotals`, less the price and the starting supply, which stay fixed
during the walk. -/
structure RedemptionTotals where
  remainingZUSD : ℕ
  totalZUSDToRedeem : ℕ
  totalETHDrawn : ℕ
  deriving DecidableEq, Repr

section Requires

variable (cfg : Config) (st : System)

/-- Source `_requireValidMaxFeePercentage` of the trove manager. -/
def requireValidMaxFeePercentage (maxFeePercentage : ℕ) : Except String Unit :=
  Revert.require
    (maxFeePercentage ≥ cfg.params.REDEMPTION_FEE_FLOOR ∧ maxFeePercentage ≤ DECIMAL_PRECISION)
    "Max fee percentage must be between 0.5% and 100%"

/-- Source `_requireAfterBootstrapPeriod`: the ZERO token's deployment time plus the
bootstrap period has passed. -/
def requireAfterBootstrapPeriod : Except String Unit :=
  Revert.require (st.timestamp ≥ cfg.zeroDeploymentStartTime + cfg.BOOTSTRAP_PERIOD)
    "TroveManager: Redemptions are not allowed during bootstrap phase"

/-- Source `_requireTCRoverMCR`. -/
def requireTCRoverMCR (price : ℕ) : Except String Unit :=
  Revert.require (getTCR st price ≥ cfg.params.MCR) "TroveManager: Cannot redeem when TCR < MCR"

/-- Source `_requireAmountGreaterThanZero`. -/
def requireAmountGreaterThanZero (amount : ℕ) : Except String Unit :=
  Revert.require (amount > 0) "TroveManager: Amount must be greater than zero"

/-- Source `_requireZUSDBalanceCoversRedemption`. -/
def requireZUSDBalanceCoversRedemption (redeemer : Address) (amount : ℕ) :
    Except String Unit :=
  Revert.require (st.zusdToken.balances redeemer ≥ amount)
    "TroveManager: Requested redemption amount must be <= user's ZUSD token balance"

end Requires

section Walk

variable (cfg : Config) (st : System)

/-- Source `_isValidFirstRedemptionHint`: the hint is a trove at or above `MCR` whose
successor is below it, or the last trove. -/
def isValidFirstRedemptionHint (firstRedemptionHint : Address) (price : ℕ) : Bool :=
  if firstRedemptionHint = 0 ∨ st.sortedTroves.contains firstRedemptionHint = false ∨
      getCurrentICR st.troveManager firstRedemptionHint price < cfg.params.MCR then false
  else
    let nextTrove := st.sortedTroves.next firstRedemptionHint
    nextTrove == 0 || decide (getCurrentICR st.troveManager nextTrove price < cfg.params.MCR)

/-- The `while` loop of `_redeemCollateral` that finds the first trove to redeem from when
the hint is not valid: from `currentBorrower` upwards past every trove below `MCR`. -/
def skipUnderMCR (gas price : ℕ) (currentBorrower : Address) : Except String Address :=
  Loop.whileGas
    (fun b => b != 0 && decide (getCurrentICR st.troveManager b price < cfg.params.MCR))
    st.sortedTroves.prev gas currentBorrower

/-- Source `_redeemCloseTrove`: burn the gas compensation from the gas pool, remove it from
the active pool's debt, and send the trove's remaining collateral to the surplus pool. -/
def redeemCloseTrove (borrower : Address) (ZUSD ETH : ℕ) : Except String System := do
  let zusdToken ← ZUSDToken.burn st.zusdToken cfg.addresses.gasPool ZUSD
  let activePool ← st.activePool.decreaseZUSDDebt ZUSD
  let collSurplusPool := st.collSurplusPool.accountSurplus borrower ETH
  let activePool ← activePool.sendETH ETH
  pure { st with
    zusdToken := zusdToken, activePool := activePool
    collSurplusPool := collSurplusPool.receive ETH }

/-- Source `_redeemCollateralFromTrove`: redeem up to `maxZUSDamount` from `borrower`,
closing the trove when only its gas compensation is left. -/
def redeemCollateralFromTrove (gas : ℕ) (borrower : Address) (maxZUSDamount price : ℕ)
    (upperPartialRedemptionHint lowerPartialRedemptionHint : Address)
    (partialRedemptionHintNICR : ℕ) : Except String (System × SingleRedemptionValues) := do
  let trove := st.troveManager.Troves borrower
  -- the lot is capped by the entire debt minus the liquidation reserve
  let ZUSDLot := LiquityMath.min maxZUSDamount (← SafeMath.sub trove.debt ZUSD_GAS_COMPENSATION)
  let ETHLot ← SafeMath.div (ZUSDLot * DECIMAL_PRECISION) price
  let newDebt ← SafeMath.sub trove.debt ZUSDLot
  let newColl ← SafeMath.sub trove.coll ETHLot
  if newDebt = ZUSD_GAS_COMPENSATION then
    -- no debt left in the trove except the liquidation reserve: the trove gets closed
    let tm ← removeStake st.troveManager borrower
    let st ← closeTrove { st with troveManager := tm } borrower .closedByRedemption
    let st ← redeemCloseTrove cfg st borrower ZUSD_GAS_COMPENSATION newColl
    pure (st, ⟨ZUSDLot, ETHLot, false⟩)
  else
    let newNICR := computeNominalCR newColl newDebt
    -- an out-of-date hint, or a net debt below the minimum, cancels the partial redemption
    -- (the source's `||` does not evaluate the net debt when the hint is out of date)
    if newNICR ≠ partialRedemptionHintNICR then pure (st, ⟨ZUSDLot, ETHLot, true⟩) else
    let netDebt ← getNetDebt newDebt
    if netDebt < MIN_NET_DEBT then pure (st, ⟨ZUSDLot, ETHLot, true⟩) else
    -- the list reads the trove's key before its debt and collateral are written
    let sortedTroves ← SortedTroves.reInsert (getNominalICR st.troveManager) st.sortedTroves
      gas borrower newNICR upperPartialRedemptionHint lowerPartialRedemptionHint
    let tm := st.troveManager.updateTrove borrower fun t =>
      { t with debt := newDebt, coll := newColl }
    let (tm, _stake) ← updateStakeAndTotalStakes tm borrower
    pure ({ st with troveManager := tm, sortedTroves := sortedTroves }, ⟨ZUSDLot, ETHLot, false⟩)

/-- The main `while` loop of `_redeemCollateral`, with `maxIterations` rounds left: apply the
current trove's pending rewards, redeem from it, and move to the trove above it, until the
amount is redeemed, the list is exhausted or a partial redemption is cancelled. -/
def redeemLoop (gas price : ℕ) (upperPartialRedemptionHint lowerPartialRedemptionHint : Address)
    (partialRedemptionHintNICR : ℕ) :
    ℕ → System → Address → RedemptionTotals → Except String (System × RedemptionTotals)
  | 0, st, _, totals => pure (st, totals)
  | maxIterations + 1, st, currentBorrower, totals =>
    if currentBorrower = 0 ∨ totals.remainingZUSD = 0 then pure (st, totals) else do
    -- the trove above is read before the current one can leave the list
    let nextUserToCheck := st.sortedTroves.prev currentBorrower
    let st ← applyPendingRewards st currentBorrower
    let (st, singleRedemption) ← redeemCollateralFromTrove cfg st gas currentBorrower
      totals.remainingZUSD price upperPartialRedemptionHint lowerPartialRedemptionHint
      partialRedemptionHintNICR
    if singleRedemption.cancelledPartial then pure (st, totals) else
    let remainingZUSD ← SafeMath.sub totals.remainingZUSD singleRedemption.ZUSDLot
    redeemLoop gas price upperPartialRedemptionHint lowerPartialRedemptionHint
      partialRedemptionHintNICR maxIterations st nextUserToCheck
      ⟨remainingZUSD, totals.totalZUSDToRedeem + singleRedemption.ZUSDLot,
        totals.totalETHDrawn + singleRedemption.ETHLot⟩

/-- Source `_redeemCollateral` by `sender`: redeem `ZUSDamount`, pay the fee to the fee
distributor and the rest of the collateral drawn to the sender, and burn the ZUSD. -/
def redeemCollateral (gas : ℕ) (sender : Address) (ZUSDamount : ℕ)
    (firstRedemptionHint upperPartialRedemptionHint lowerPartialRedemptionHint : Address)
    (partialRedemptionHintNICR maxIterations maxFeePercentage : ℕ) : Except String System := do
  requireValidMaxFeePercentage cfg maxFeePercentage
  requireAfterBootstrapPeriod cfg st
  let price := st.price
  requireTCRoverMCR cfg st price
  requireAmountGreaterThanZero ZUSDamount
  requireZUSDBalanceCoversRedemption st sender ZUSDamount
  let totalZUSDSupplyAtStart := getEntireSystemDebt st
  -- the redeemer's balance is at most the total supply
  Revert.assert (st.zusdToken.balances sender ≤ totalZUSDSupplyAtStart)
  let currentBorrower ←
    if isValidFirstRedemptionHint cfg st firstRedemptionHint price then pure firstRedemptionHint
    else skipUnderMCR cfg st gas price st.sortedTroves.tail
  -- a bound of zero means no bound
  let maxIterations := if maxIterations = 0 then MAX_UINT256 else maxIterations
  let (st, totals) ← redeemLoop cfg gas price upperPartialRedemptionHint
    lowerPartialRedemptionHint partialRedemptionHintNICR maxIterations st currentBorrower
    ⟨ZUSDamount, 0, 0⟩
  Revert.require (totals.totalETHDrawn > 0) "TroveManager: Unable to redeem any amount"
  -- decay the base rate for the time passed, then raise it by the redeemed fraction
  let (fees, _newBaseRate) ← updateBaseRateFromRedemption st.troveManager.fees st.timestamp
    totals.totalETHDrawn price totalZUSDSupplyAtStart
  let ETHFee ← calcRedemptionFee (getRedemptionRate cfg.params fees) totals.totalETHDrawn
  requireUserAcceptsFee ETHFee totals.totalETHDrawn maxFeePercentage
  let activePool ← st.activePool.sendETH ETHFee
  let ETHToSendToRedeemer ← SafeMath.sub totals.totalETHDrawn ETHFee
  -- burn the ZUSD cancelled with debt and send the rest of the collateral to the redeemer
  let zusdToken ← ZUSDToken.burn st.zusdToken sender totals.totalZUSDToRedeem
  let activePool ← activePool.decreaseZUSDDebt totals.totalZUSDToRedeem
  let activePool ← activePool.sendETH ETHToSendToRedeemer
  pure { st with
    troveManager := { st.troveManager with fees := fees }
    zusdToken := zusdToken, activePool := activePool }

end Walk

end ZeroProtocol.TroveManager
