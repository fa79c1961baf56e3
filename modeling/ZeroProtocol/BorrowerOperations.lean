import ZeroProtocol.TroveManager.Liquidations

/-!
# `BorrowerOperations`: opening, adjusting and closing troves

A borrower opens a trove with ether and a ZUSD amount, adjusts its collateral and debt, and
closes it by repaying the debt.  Each operation first applies the trove's pending rewards,
checks the result against the current mode (in Normal Mode the new `ICR` must stay above
`MCR` and the new `TCR` above `CCR`; in Recovery Mode collateral may not be withdrawn and a
debt increase needs an `ICR` above `CCR` that does not fall), writes the trove through the
trove manager, re-sorts it, and moves ZUSD and ether.

The ether a transaction carries is the argument `value`.  The borrowing fee is minted to the
fee distributor, whose `distributeFees` passes it on to the fee-sharing collector and the
ZERO staking contract: those transfers move ZUSD between accounts that nothing here reads,
and are not modelled.  The wrappers that route ZUSD through the Mynt asset manager
(`adjustNueTrove`, `withdrawZusdAndConvertToDLLR`, `closeNueTrove`, `repayZusdFromDLLR`)
call a contract that is not in this repository and are not modelled.

`gas` bounds each search loop of the sorted list, as in `SortedTroves.insert`.

The Stability Pool's `withdrawETHGainToTrove` ends in `moveETHGainToTrove`, so it is written
at the end of this module.
-/

namespace ZeroProtocol.BorrowerOperations

open LiquityMath LiquityBase TroveManager

section Requires

variable (p : LiquityBaseParams)

/-- Source `_requireValidMaxFeePercentage`. -/
def requireValidMaxFeePercentage (maxFeePercentage : ℕ) (isRecoveryMode : Bool) :
    Except String Unit :=
  if isRecoveryMode then
    Revert.require (maxFeePercentage ≤ DECIMAL_PRECISION)
      "Max fee percentage must less than or equal to 100%"
  else
    Revert.require (maxFeePercentage ≥ p.BORROWING_FEE_FLOOR ∧ maxFeePercentage ≤ DECIMAL_PRECISION)
      "Max fee percentage must be between 0.5% and 100%"

/-- Source `_requireTroveisActive`. -/
def requireTroveisActive (tm : TroveManagerStorage) (borrower : Address) : Except String Unit :=
  Revert.require ((tm.Troves borrower).status = .active)
    "BorrowerOps: Trove does not exist or is closed"

/-- Source `_requireTroveisNotActive`. -/
def requireTroveisNotActive (tm : TroveManagerStorage) (borrower : Address) :
    Except String Unit :=
  Revert.require ((tm.Troves borrower).status ≠ .active) "BorrowerOps: Trove is active"

/-- Source `_requireAtLeastMinNetDebt`. -/
def requireAtLeastMinNetDebt (netDebt : ℕ) : Except String Unit :=
  Revert.require (netDebt ≥ MIN_NET_DEBT) "BorrowerOps: Trove's net debt must be greater than minimum"

/-- Source `_requireICRisAboveMCR`. -/
def requireICRisAboveMCR (newICR : ℕ) : Except String Unit :=
  Revert.require (newICR ≥ p.MCR)
    "BorrowerOps: An operation that would result in ICR < MCR is not permitted"

/-- Source `_requireICRisAboveCCR`. -/
def requireICRisAboveCCR (newICR : ℕ) : Except String Unit :=
  Revert.require (newICR ≥ p.CCR) "BorrowerOps: Operation must leave trove with ICR >= CCR"

/-- Source `_requireNewICRisAboveOldICR`. -/
def requireNewICRisAboveOldICR (newICR oldICR : ℕ) : Except String Unit :=
  Revert.require (newICR ≥ oldICR) "BorrowerOps: Cannot decrease your Trove's ICR in Recovery Mode"

/-- Source `_requireNewTCRisAboveCCR`. -/
def requireNewTCRisAboveCCR (newTCR : ℕ) : Except String Unit :=
  Revert.require (newTCR ≥ p.CCR)
    "BorrowerOps: An operation that would result in TCR < CCR is not permitted"

/-- Source `_requireSingularCollChange`. -/
def requireSingularCollChange (value collWithdrawal : ℕ) : Except String Unit :=
  Revert.require (value = 0 ∨ collWithdrawal = 0) "BorrowerOperations: Cannot withdraw and add coll"

/-- Source `_requireNonZeroAdjustment`. -/
def requireNonZeroAdjustment (value collWithdrawal ZUSDChange : ℕ) : Except String Unit :=
  Revert.require (value ≠ 0 ∨ collWithdrawal ≠ 0 ∨ ZUSDChange ≠ 0)
    "BorrowerOps: There must be either a collateral change or a debt change"

/-- Source `_requireNonZeroDebtChange`. -/
def requireNonZeroDebtChange (ZUSDChange : ℕ) : Except String Unit :=
  Revert.require (ZUSDChange > 0) "BorrowerOps: Debt increase requires non-zero debtChange"

/-- Source `_requireNoCollWithdrawal`. -/
def requireNoCollWithdrawal (collWithdrawal : ℕ) : Except String Unit :=
  Revert.require (collWithdrawal = 0) "BorrowerOps: Collateral withdrawal not permitted Recovery Mode"

/-- Source `_requireValidZUSDRepayment`. -/
def requireValidZUSDRepayment (currentDebt debtRepayment : ℕ) : Except String Unit := do
  let repayable ← SafeMath.sub currentDebt ZUSD_GAS_COMPENSATION
  Revert.require (debtRepayment ≤ repayable)
    "BorrowerOps: Amount repaid must not be larger than the Trove's debt"

/-- Source `_requireSufficientZUSDBalance`. -/
def requireSufficientZUSDBalance (zusdToken : Ledger Address) (borrower : Address)
    (debtRepayment : ℕ) : Except String Unit :=
  Revert.require (zusdToken.balances borrower ≥ debtRepayment)
    "BorrowerOps: Caller doesnt have enough ZUSD to make repayment"

end Requires

/-- Add or subtract a change, as `_getNewTroveAmounts` and `_getNewTCRFromTroveChange` do for
collateral and debt. -/
def applyChange (x change : ℕ) (isIncrease : Bool) : Except String ℕ :=
  if isIncrease then pure (x + change) else SafeMath.sub x change

/-- Source `_getNewTroveAmounts`. -/
def getNewTroveAmounts (coll debt collChange : ℕ) (isCollIncrease : Bool) (debtChange : ℕ)
    (isDebtIncrease : Bool) : Except String (ℕ × ℕ) := do
  let newColl ← applyChange coll collChange isCollIncrease
  let newDebt ← applyChange debt debtChange isDebtIncrease
  pure (newColl, newDebt)

/-- Source `_getNewICRFromTroveChange`. -/
def getNewICRFromTroveChange (coll debt collChange : ℕ) (isCollIncrease : Bool)
    (debtChange : ℕ) (isDebtIncrease : Bool) (price : ℕ) : Except String ℕ := do
  let (newColl, newDebt) ←
    getNewTroveAmounts coll debt collChange isCollIncrease debtChange isDebtIncrease
  pure (computeCR newColl newDebt price)

/-- Source `_getNewNominalICRFromTroveChange`. -/
def getNewNominalICRFromTroveChange (coll debt collChange : ℕ) (isCollIncrease : Bool)
    (debtChange : ℕ) (isDebtIncrease : Bool) : Except String ℕ := do
  let (newColl, newDebt) ←
    getNewTroveAmounts coll debt collChange isCollIncrease debtChange isDebtIncrease
  pure (computeNominalCR newColl newDebt)

/-- Source `_getNewTCRFromTroveChange`: the system's ratio after the change. -/
def getNewTCRFromTroveChange (st : System) (collChange : ℕ) (isCollIncrease : Bool)
    (debtChange : ℕ) (isDebtIncrease : Bool) (price : ℕ) : Except String ℕ := do
  let totalColl ← applyChange (getEntireSystemColl st) collChange isCollIncrease
  let totalDebt ← applyChange (getEntireSystemDebt st) debtChange isDebtIncrease
  pure (computeCR totalColl totalDebt price)

/-- Source `_getCollChange`: ether sent is a top-up, otherwise the requested withdrawal. -/
def getCollChange (collReceived requestedCollWithdrawal : ℕ) : ℕ × Bool :=
  if collReceived ≠ 0 then (collReceived, true) else (requestedCollWithdrawal, false)

section Operations

variable (cfg : Config) (st : System)

/-- Source `_triggerBorrowingFee`: decay the base rate, charge the fee on `ZUSDAmount` and mint
it to the fee distributor. -/
def triggerBorrowingFee (ZUSDAmount maxFeePercentage : ℕ) : Except String (System × ℕ) := do
  let fees ← decayBaseRateFromBorrowing st.troveManager.fees st.timestamp
  let ZUSDFee := getBorrowingFee cfg.params fees ZUSDAmount
  requireUserAcceptsFee ZUSDFee ZUSDAmount maxFeePercentage
  let zusdToken ← ZUSDToken.mint st.zusdToken cfg.addresses.feeDistributor ZUSDFee
  pure ({ st with troveManager := { st.troveManager with fees := fees }, zusdToken := zusdToken },
    ZUSDFee)

/-- Source `_mintZusdAndIncreaseActivePoolDebt`. -/
def mintZusdAndIncreaseActivePoolDebt (account : Address) (ZUSDAmount netDebtIncrease : ℕ) :
    Except String System := do
  let zusdToken ← ZUSDToken.mint st.zusdToken account ZUSDAmount
  pure { st with
    activePool := st.activePool.increaseZUSDDebt netDebtIncrease, zusdToken := zusdToken }

/-- Source `_burnZusdAndDecreaseActivePoolDebt`. -/
def burnZusdAndDecreaseActivePoolDebt (account : Address) (ZUSD : ℕ) : Except String System := do
  let activePool ← st.activePool.decreaseZUSDDebt ZUSD
  let zusdToken ← ZUSDToken.burn st.zusdToken account ZUSD
  pure { st with activePool := activePool, zusdToken := zusdToken }

/-- Source `_activePoolAddColl`: the ether goes to the active pool, whose `receive` counts
it. -/
def activePoolAddColl (amount : ℕ) : System :=
  { st with activePool := st.activePool.receive amount }

/-- Source `_updateTroveFromAdjustment`, through the trove manager's setters. -/
def updateTroveFromAdjustment (tm : TroveManagerStorage) (borrower : Address) (collChange : ℕ)
    (isCollIncrease : Bool) (debtChange : ℕ) (isDebtIncrease : Bool) :
    Except String TroveManagerStorage := do
  let newColl ← applyChange (tm.Troves borrower).coll collChange isCollIncrease
  let newDebt ← applyChange (tm.Troves borrower).debt debtChange isDebtIncrease
  pure (tm.updateTrove borrower fun t => { t with coll := newColl, debt := newDebt })

/-- Source `_moveTokensAndETHfromAdjustment`: mint or burn the ZUSD change, add or send the
collateral change. -/
def moveTokensAndETHfromAdjustment (borrower : Address) (collChange : ℕ) (isCollIncrease : Bool)
    (ZUSDChange : ℕ) (isDebtIncrease : Bool) (netDebtChange : ℕ) (tokensRecipient : Address) :
    Except String System := do
  let st ← if isDebtIncrease then
      mintZusdAndIncreaseActivePoolDebt st tokensRecipient ZUSDChange netDebtChange
    else burnZusdAndDecreaseActivePoolDebt st borrower ZUSDChange
  if isCollIncrease then pure (activePoolAddColl st collChange)
  else do
    let activePool ← st.activePool.sendETH collChange
    pure { st with activePool := activePool }

/-- Source `_openTrove` by `sender` with `value` ether: a new active trove with the composite
debt, inserted in the sorted list, with the ZUSD minted to the borrower and the gas pool. -/
def openTrove (gas : ℕ) (sender : Address) (value maxFeePercentage ZUSDAmount : ℕ)
    (upperHint lowerHint : Address) : Except String System := do
  let price := st.price
  let isRecoveryMode := checkRecoveryMode cfg st price
  requireValidMaxFeePercentage cfg.params maxFeePercentage isRecoveryMode
  requireTroveisNotActive st.troveManager sender
  let (st, ZUSDFee) ←
    if !isRecoveryMode then triggerBorrowingFee cfg st ZUSDAmount maxFeePercentage
    else pure (st, 0)
  let netDebt := ZUSDAmount + ZUSDFee
  requireAtLeastMinNetDebt netDebt
  -- ICR is based on the composite debt: requested ZUSD, borrowing fee and gas compensation
  let compositeDebt := getCompositeDebt netDebt
  Revert.assert (compositeDebt > 0)
  let ICR := computeCR value compositeDebt price
  let NICR := computeNominalCR value compositeDebt
  if isRecoveryMode then requireICRisAboveCCR cfg.params ICR
  else
    requireICRisAboveMCR cfg.params ICR
    let newTCR ← getNewTCRFromTroveChange st value true compositeDebt true price
    requireNewTCRisAboveCCR cfg.params newTCR
  -- `setTroveStatus`, `increaseTroveColl`, `increaseTroveDebt`
  let tm := st.troveManager.updateTrove sender fun t =>
    { t with status := .active, coll := t.coll + value, debt := t.debt + compositeDebt }
  let tm := updateTroveRewardSnapshots tm sender
  let (tm, _stake) ← updateStakeAndTotalStakes tm sender
  let sortedTroves ←
    SortedTroves.insert (getNominalICR tm) st.sortedTroves gas sender NICR upperHint lowerHint
  let (tm, _arrayIndex) := addTroveOwnerToArray tm sender
  let st := activePoolAddColl { st with troveManager := tm, sortedTroves := sortedTroves } value
  let st ← mintZusdAndIncreaseActivePoolDebt st sender ZUSDAmount netDebt
  -- Move the ZUSD gas compensation to the Gas Pool
  mintZusdAndIncreaseActivePoolDebt st cfg.addresses.gasPool ZUSD_GAS_COMPENSATION
    ZUSD_GAS_COMPENSATION

/-- Source `_requireValidAdjustmentInCurrentMode`. -/
def requireValidAdjustmentInCurrentMode (isRecoveryMode : Bool) (collWithdrawal : ℕ)
    (isDebtIncrease : Bool) (oldICR newICR collChange : ℕ) (isCollIncrease : Bool)
    (netDebtChange price : ℕ) : Except String Unit := do
  if isRecoveryMode then
    requireNoCollWithdrawal collWithdrawal
    if isDebtIncrease then
      requireICRisAboveCCR cfg.params newICR
      requireNewICRisAboveOldICR newICR oldICR
  else
    requireICRisAboveMCR cfg.params newICR
    let newTCR ←
      getNewTCRFromTroveChange st collChange isCollIncrease netDebtChange isDebtIncrease price
    requireNewTCRisAboveCCR cfg.params newTCR

/-- Source `_adjustSenderTrove` called by `caller` with `value` ether: change the trove of
`borrower` by a collateral top-up or withdrawal and a debt increase or repayment. -/
def adjustSenderTrove (gas : ℕ) (caller : Address) (value : ℕ) (borrower : Address)
    (collWithdrawal ZUSDChange : ℕ) (isDebtIncrease : Bool) (upperHint lowerHint : Address)
    (maxFeePercentage : ℕ) (tokensRecipient : Address) : Except String System := do
  let price := st.price
  let isRecoveryMode := checkRecoveryMode cfg st price
  if isDebtIncrease then
    requireValidMaxFeePercentage cfg.params maxFeePercentage isRecoveryMode
    requireNonZeroDebtChange ZUSDChange
  requireSingularCollChange value collWithdrawal
  requireNonZeroAdjustment value collWithdrawal ZUSDChange
  requireTroveisActive st.troveManager borrower
  -- either the borrower adjusting their own trove, or an ether gain from the Stability Pool
  Revert.assert (caller = borrower ∨
    (caller = cfg.addresses.stabilityPool ∧ value > 0 ∧ ZUSDChange = 0))
  let st ← applyPendingRewards st borrower
  let (collChange, isCollIncrease) := getCollChange value collWithdrawal
  let (st, ZUSDFee) ←
    if isDebtIncrease ∧ !isRecoveryMode then
      triggerBorrowingFee cfg st ZUSDChange maxFeePercentage
    else pure (st, 0)
  -- The raw debt change includes the fee
  let netDebtChange := ZUSDChange + ZUSDFee
  let debt := (st.troveManager.Troves borrower).debt
  let coll := (st.troveManager.Troves borrower).coll
  let oldICR := computeCR coll debt price
  let newICR ← getNewICRFromTroveChange coll debt collChange isCollIncrease netDebtChange
    isDebtIncrease price
  Revert.assert (collWithdrawal ≤ coll)
  requireValidAdjustmentInCurrentMode cfg st isRecoveryMode collWithdrawal isDebtIncrease oldICR
    newICR collChange isCollIncrease netDebtChange price
  if !isDebtIncrease ∧ ZUSDChange > 0 then
    let netDebt ← getNetDebt debt
    requireAtLeastMinNetDebt (← SafeMath.sub netDebt netDebtChange)
    requireValidZUSDRepayment debt netDebtChange
    requireSufficientZUSDBalance st.zusdToken borrower netDebtChange
  let tm ← updateTroveFromAdjustment st.troveManager borrower collChange isCollIncrease
    netDebtChange isDebtIncrease
  let (tm, _stake) ← updateStakeAndTotalStakes tm borrower
  let newNICR ← getNewNominalICRFromTroveChange coll debt collChange isCollIncrease netDebtChange
    isDebtIncrease
  let sortedTroves ← SortedTroves.reInsert (getNominalICR tm) st.sortedTroves gas borrower
    newNICR upperHint lowerHint
  -- the unmodified `ZUSDChange` is minted, as the fee is not sent to the user
  moveTokensAndETHfromAdjustment { st with troveManager := tm, sortedTroves := sortedTroves }
    caller collChange isCollIncrease ZUSDChange isDebtIncrease netDebtChange tokensRecipient

/-- Source `adjustTrove` by `sender`. -/
def adjustTrove (gas : ℕ) (sender : Address) (value maxFeePercentage collWithdrawal ZUSDChange : ℕ)
    (isDebtIncrease : Bool) (upperHint lowerHint : Address) : Except String System :=
  adjustSenderTrove cfg st gas sender value sender collWithdrawal ZUSDChange isDebtIncrease
    upperHint lowerHint maxFeePercentage sender

/-- Source `addColl` by `sender`. -/
def addColl (gas : ℕ) (sender : Address) (value : ℕ) (upperHint lowerHint : Address) :
    Except String System :=
  adjustSenderTrove cfg st gas sender value sender 0 0 false upperHint lowerHint 0 sender

/-- Source `moveETHGainToTrove`, called by the Stability Pool with the gain as `value`. -/
def moveETHGainToTrove (gas : ℕ) (value : ℕ) (borrower upperHint lowerHint : Address) :
    Except String System :=
  adjustSenderTrove cfg st gas cfg.addresses.stabilityPool value borrower 0 0 false upperHint
    lowerHint 0 cfg.addresses.stabilityPool

/-- Source `withdrawColl` by `sender`. -/
def withdrawColl (gas : ℕ) (sender : Address) (collWithdrawal : ℕ) (upperHint lowerHint : Address) :
    Except String System :=
  adjustSenderTrove cfg st gas sender 0 sender collWithdrawal 0 false upperHint lowerHint 0 sender

/-- Source `withdrawZUSD` by `sender`. -/
def withdrawZUSD (gas : ℕ) (sender : Address) (maxFeePercentage ZUSDAmount : ℕ)
    (upperHint lowerHint : Address) : Except String System :=
  adjustSenderTrove cfg st gas sender 0 sender 0 ZUSDAmount true upperHint lowerHint
    maxFeePercentage sender

/-- Source `repayZUSD` by `sender`. -/
def repayZUSD (gas : ℕ) (sender : Address) (ZUSDAmount : ℕ) (upperHint lowerHint : Address) :
    Except String System :=
  adjustSenderTrove cfg st gas sender 0 sender 0 ZUSDAmount false upperHint lowerHint 0 sender

/-- Source `_requireNotInRecoveryMode`. -/
def requireNotInRecoveryMode (price : ℕ) : Except String Unit :=
  Revert.require (checkRecoveryMode cfg st price = false)
    "BorrowerOps: Operation not permitted during Recovery Mode"

/-- Source `_closeTrove` by `sender`: repay the debt less the gas compensation, burn the gas
compensation, close the trove and return its collateral. -/
def closeTrove (sender : Address) : Except String System := do
  requireTroveisActive st.troveManager sender
  let price := st.price
  requireNotInRecoveryMode cfg st price
  let st ← applyPendingRewards st sender
  let coll := (st.troveManager.Troves sender).coll
  let debt := (st.troveManager.Troves sender).debt
  let repayment ← SafeMath.sub debt ZUSD_GAS_COMPENSATION
  requireSufficientZUSDBalance st.zusdToken sender repayment
  let newTCR ← getNewTCRFromTroveChange st coll false debt false price
  requireNewTCRisAboveCCR cfg.params newTCR
  let tm ← removeStake st.troveManager sender
  let st ← TroveManager.closeTrove { st with troveManager := tm } sender .closedByOwner
  -- Burn the repaid ZUSD from the user's balance and the gas compensation from the Gas Pool
  let st ← burnZusdAndDecreaseActivePoolDebt st sender repayment
  let st ← burnZusdAndDecreaseActivePoolDebt st cfg.addresses.gasPool ZUSD_GAS_COMPENSATION
  -- Send the collateral back to the user
  let activePool ← st.activePool.sendETH coll
  pure { st with activePool := activePool }

/-- Source `claimCollateral` by `sender`: the surplus pool sends the sender's balance. -/
def claimCollateral (sender : Address) : Except String System := do
  let (collSurplusPool, _) ← st.collSurplusPool.claimColl sender (cfg.acceptsETH sender)
  pure { st with collSurplusPool := collSurplusPool }

end Operations

end ZeroProtocol.BorrowerOperations

namespace ZeroProtocol.StabilityPool

open TroveManager

/-- Source `_requireUserHasTrove`. -/
def requireUserHasTrove (tm : TroveManagerStorage) (depositor : Address) : Except String Unit :=
  Revert.require ((tm.Troves depositor).status = .active)
    "StabilityPool: caller must have an active trove to withdraw ETHGain to"

/-- Source `_requireUserHasETHGain`. -/
def requireUserHasETHGain (sp : StabilityPoolStorage) (depositor : Address) :
    Except String Unit := do
  let ETHGain ← getDepositorETHGain sp depositor
  Revert.require (ETHGain > 0) "StabilityPool: caller must have non-zero ETH Gain"

/-- Source `withdrawETHGainToTrove` by `sender`: pay out the ZERO gains, keep the compounded
deposit, and move the ether gain into the sender's trove through borrower operations. -/
def withdrawETHGainToTrove (cfg : Config) (st : System) (gas : ℕ) (sender : Address)
    (upperHint lowerHint : Address) : Except String System := do
  let initialDeposit := (st.stabilityPool.deposits sender).initialValue
  requireUserHasDeposit initialDeposit
  requireUserHasTrove st.troveManager sender
  requireUserHasETHGain st.stabilityPool sender
  let st ← triggerZEROIssuance st
  let sp := st.stabilityPool
  let depositorETHGain ← getDepositorETHGain sp sender
  let compoundedZUSDDeposit ← getCompoundedZUSDDeposit sp sender
  -- the loss is needed only for the event log, but its subtraction is checked
  let _ZUSDLoss ← SafeMath.sub initialDeposit compoundedZUSDDeposit
  let frontEnd := (sp.deposits sender).frontEndTag
  payOutZEROGains cfg sp sender frontEnd
  -- update the front end's stake and the deposit, with new snapshots
  let compoundedFrontEndStake ← getCompoundedFrontEndStake sp frontEnd
  let sp := updateFrontEndStakeAndSnapshots sp frontEnd compoundedFrontEndStake
  let sp := updateDepositAndSnapshots sp sender compoundedZUSDDeposit
  let ETH ← SafeMath.sub sp.ETH depositorETHGain
  BorrowerOperations.moveETHGainToTrove cfg { st with stabilityPool := { sp with ETH := ETH } }
    gas depositorETHGain sender upperHint lowerHint

end ZeroProtocol.StabilityPool
