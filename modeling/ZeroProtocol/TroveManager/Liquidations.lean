import ZeroProtocol.StabilityPool.Model

/-!
# `TroveManager`: liquidations

A liquidation closes troves whose collateral ratio is too low and splits each one's entire
debt and collateral (pending rewards included) into a part offset against the Stability
Pool, a part redistributed to the other troves, the liquidator's gas compensation and, in
Recovery Mode, a collateral surplus left to the borrower.  The sequence functions only
close troves and tally those parts; the totals are moved between the pools once, at the end
(`finishLiquidation`, the common tail of `liquidateTroves` and `batchLiquidateTroves`).

The single-trove functions are `liquidateNormalMode` and the four branches of
`liquidateRecoveryMode`; the sequences walk the sorted list upwards from its last trove
(`liquidateTroves`, at most `n` troves, which is the recursion's measure) or a list the
caller gives (`batchLiquidateTroves`).  The recovery-mode sequences track the system's
collateral and debt as the liquidations proceed, and fall back to normal-mode liquidations
once the tracked ratio is out of Recovery Mode.
-/

namespace ZeroProtocol.TroveManager

open LiquityMath LiquityBase

/-- Source `LiquidationValues`: how one trove's debt and collateral are split. -/
structure LiquidationValues where
  entireTroveDebt : ℕ
  entireTroveColl : ℕ
  collGasCompensation : ℕ
  ZUSDGasCompensation : ℕ
  debtToOffset : ℕ
  collToSendToSP : ℕ
  debtToRedistribute : ℕ
  collToRedistribute : ℕ
  collSurplus : ℕ
  deriving DecidableEq, Repr

/-- The all-zero values of a trove that is not liquidated. -/
def LiquidationValues.zero : LiquidationValues := ⟨0, 0, 0, 0, 0, 0, 0, 0, 0⟩

/-- Source `LiquidationTotals`: the running totals of a liquidation sequence. -/
structure LiquidationTotals where
  totalCollInSequence : ℕ
  totalDebtInSequence : ℕ
  totalCollGasCompensation : ℕ
  totalZUSDGasCompensation : ℕ
  totalDebtToOffset : ℕ
  totalCollToSendToSP : ℕ
  totalDebtToRedistribute : ℕ
  totalCollToRedistribute : ℕ
  totalCollSurplus : ℕ
  deriving DecidableEq, Repr

/-- The totals at the start of a sequence. -/
def LiquidationTotals.zero : LiquidationTotals := ⟨0, 0, 0, 0, 0, 0, 0, 0, 0⟩

/-- Source `_addLiquidationValuesToTotals`. -/
def addLiquidationValuesToTotals (oldTotals : LiquidationTotals)
    (singleLiquidation : LiquidationValues) : LiquidationTotals where
  totalCollGasCompensation :=
    oldTotals.totalCollGasCompensation + singleLiquidation.collGasCompensation
  totalZUSDGasCompensation :=
    oldTotals.totalZUSDGasCompensation + singleLiquidation.ZUSDGasCompensation
  totalDebtInSequence := oldTotals.totalDebtInSequence + singleLiquidation.entireTroveDebt
  totalCollInSequence := oldTotals.totalCollInSequence + singleLiquidation.entireTroveColl
  totalDebtToOffset := oldTotals.totalDebtToOffset + singleLiquidation.debtToOffset
  totalCollToSendToSP := oldTotals.totalCollToSendToSP + singleLiquidation.collToSendToSP
  totalDebtToRedistribute :=
    oldTotals.totalDebtToRedistribute + singleLiquidation.debtToRedistribute
  totalCollToRedistribute :=
    oldTotals.totalCollToRedistribute + singleLiquidation.collToRedistribute
  totalCollSurplus := oldTotals.totalCollSurplus + singleLiquidation.collSurplus

/-- Source `_getOffsetAndRedistributionVals`: offset as much debt as the pool holds, with
the same share of the collateral, and redistribute the rest.  The result is
`(debtToOffset, collToSendToSP, debtToRedistribute, collToRedistribute)`. -/
def getOffsetAndRedistributionVals (debt coll ZUSDInStabPool : ℕ) :
    Except String (ℕ × ℕ × ℕ × ℕ) := do
  if ZUSDInStabPool > 0 then
    let debtToOffset := LiquityMath.min debt ZUSDInStabPool
    let collToSendToSP ← SafeMath.div (coll * debtToOffset) debt
    let debtToRedistribute ← SafeMath.sub debt debtToOffset
    let collToRedistribute ← SafeMath.sub coll collToSendToSP
    pure (debtToOffset, collToSendToSP, debtToRedistribute, collToRedistribute)
  else pure (0, 0, debt, coll)

/-- Source `_getCappedOffsetVals`: offset the whole debt against collateral worth `MCR`
times it; the rest of the collateral is surplus. -/
def getCappedOffsetVals (p : LiquityBaseParams) (entireTroveDebt entireTroveColl price : ℕ) :
    Except String LiquidationValues := do
  let collToOffset ← SafeMath.div (entireTroveDebt * p.MCR) price
  let collGasCompensation := getCollGasCompensation p collToOffset
  let collToSendToSP ← SafeMath.sub collToOffset collGasCompensation
  let collSurplus ← SafeMath.sub entireTroveColl collToOffset
  pure {
    entireTroveDebt := entireTroveDebt, entireTroveColl := entireTroveColl
    collGasCompensation := collGasCompensation, ZUSDGasCompensation := ZUSD_GAS_COMPENSATION
    debtToOffset := entireTroveDebt, collToSendToSP := collToSendToSP
    debtToRedistribute := 0, collToRedistribute := 0, collSurplus := collSurplus }

section Single

variable (cfg : Config) (st : System) (borrower : Address)

/-- The first steps of every liquidating branch: move the trove's pending rewards to the
active pool and remove its stake. -/
def withdrawPendingAndStake (pendingDebtReward pendingCollReward : ℕ) :
    Except String System := do
  let st ← movePendingTroveRewardsToActivePool st pendingDebtReward pendingCollReward
  let tm ← removeStake st.troveManager borrower
  pure { st with troveManager := tm }

/-- Source `_liquidateNormalMode`: offset what the pool can take, redistribute the rest. -/
def liquidateNormalMode (ZUSDInStabPool : ℕ) : Except String (System × LiquidationValues) := do
  let (entireTroveDebt, entireTroveColl, pendingDebtReward, pendingCollReward) :=
    getEntireDebtAndColl st.troveManager borrower
  let st ← withdrawPendingAndStake st borrower pendingDebtReward pendingCollReward
  let collGasCompensation := getCollGasCompensation cfg.params entireTroveColl
  let collToLiquidate ← SafeMath.sub entireTroveColl collGasCompensation
  let (debtToOffset, collToSendToSP, debtToRedistribute, collToRedistribute) ←
    getOffsetAndRedistributionVals entireTroveDebt collToLiquidate ZUSDInStabPool
  let st ← closeTrove st borrower .closedByLiquidation
  pure (st, {
    entireTroveDebt := entireTroveDebt, entireTroveColl := entireTroveColl
    collGasCompensation := collGasCompensation, ZUSDGasCompensation := ZUSD_GAS_COMPENSATION
    debtToOffset := debtToOffset, collToSendToSP := collToSendToSP
    debtToRedistribute := debtToRedistribute, collToRedistribute := collToRedistribute
    collSurplus := 0 })

/-- Source `_liquidateRecoveryMode`: below 100% redistribute everything, below `MCR` offset
and redistribute, below the current `TCR` offset at the capped rate if the pool covers the
whole debt, and otherwise leave the trove alone. -/
def liquidateRecoveryMode (ICR ZUSDInStabPool TCR price : ℕ) :
    Except String (System × LiquidationValues) := do
  -- don't liquidate if last trove
  if st.troveManager.TroveOwners.length ≤ 1 then return (st, LiquidationValues.zero)
  let (entireTroveDebt, entireTroveColl, pendingDebtReward, pendingCollReward) :=
    getEntireDebtAndColl st.troveManager borrower
  let collGasCompensation := getCollGasCompensation cfg.params entireTroveColl
  let collToLiquidate ← SafeMath.sub entireTroveColl collGasCompensation
  let single : LiquidationValues :=
    { LiquidationValues.zero with
      entireTroveDebt := entireTroveDebt, entireTroveColl := entireTroveColl
      collGasCompensation := collGasCompensation, ZUSDGasCompensation := ZUSD_GAS_COMPENSATION }
  if ICR ≤ _100pct then
    let st ← withdrawPendingAndStake st borrower pendingDebtReward pendingCollReward
    let st ← closeTrove st borrower .closedByLiquidation
    pure (st, { single with
      debtToRedistribute := entireTroveDebt, collToRedistribute := collToLiquidate })
  else if ICR > _100pct ∧ ICR < cfg.params.MCR then
    let st ← withdrawPendingAndStake st borrower pendingDebtReward pendingCollReward
    let (debtToOffset, collToSendToSP, debtToRedistribute, collToRedistribute) ←
      getOffsetAndRedistributionVals entireTroveDebt collToLiquidate ZUSDInStabPool
    let st ← closeTrove st borrower .closedByLiquidation
    pure (st, { single with
      debtToOffset := debtToOffset, collToSendToSP := collToSendToSP
      debtToRedistribute := debtToRedistribute, collToRedistribute := collToRedistribute })
  else if ICR ≥ cfg.params.MCR ∧ ICR < TCR ∧ entireTroveDebt ≤ ZUSDInStabPool then
    let st ← movePendingTroveRewardsToActivePool st pendingDebtReward pendingCollReward
    Revert.assert (ZUSDInStabPool ≠ 0)
    let tm ← removeStake st.troveManager borrower
    let st := { st with troveManager := tm }
    let single ← getCappedOffsetVals cfg.params entireTroveDebt entireTroveColl price
    let st ← closeTrove st borrower .closedByLiquidation
    let st := if single.collSurplus > 0 then
      { st with collSurplusPool := st.collSurplusPool.accountSurplus borrower single.collSurplus }
      else st
    pure (st, single)
  else pure (st, LiquidationValues.zero)

end Single

/-- Source `LocalVariables_LiquidationSequence`, less the loop's index and current trove: what a
recovery-mode sequence carries from one trove to the next. -/
structure SequenceVars where
  remainingZUSDInStabPool : ℕ
  backToNormalMode : Bool
  entireSystemDebt : ℕ
  entireSystemColl : ℕ
  deriving DecidableEq, Repr

section Sequences

variable (cfg : Config) (price : ℕ)

/-- Source `_checkPotentialRecoveryMode`. -/
def checkPotentialRecoveryMode (entireSystemColl entireSystemDebt : ℕ) : Bool :=
  decide (computeCR entireSystemColl entireSystemDebt price < cfg.params.CCR)

/-- One normal-mode liquidation inside a sequence: liquidate, lower the pool's remaining
ZUSD, add the values to the totals. -/
def sequenceNormalStep (st : System) (user : Address) (remaining : ℕ)
    (totals : LiquidationTotals) : Except String (System × ℕ × LiquidationTotals) := do
  let (st, single) ← liquidateNormalMode cfg st user remaining
  let remaining ← SafeMath.sub remaining single.debtToOffset
  pure (st, remaining, addLiquidationValuesToTotals totals single)

/-- One recovery-mode liquidation inside a sequence, updating the tracked system collateral
by `collDrop` (the two sequences subtract different parts of the trove's collateral). -/
def sequenceRecoveryStep (collDrop : LiquidationValues → Except String ℕ) (st : System)
    (user : Address) (ICR : ℕ) (vars : SequenceVars) (totals : LiquidationTotals) :
    Except String (System × SequenceVars × LiquidationTotals) := do
  let TCR := computeCR vars.entireSystemColl vars.entireSystemDebt price
  let (st, single) ←
    liquidateRecoveryMode cfg st user ICR vars.remainingZUSDInStabPool TCR price
  let remaining ← SafeMath.sub vars.remainingZUSDInStabPool single.debtToOffset
  let entireSystemDebt ← SafeMath.sub vars.entireSystemDebt single.debtToOffset
  let entireSystemColl ← collDrop single
  let backToNormalMode := !checkPotentialRecoveryMode cfg price entireSystemColl entireSystemDebt
  pure (st, ⟨remaining, backToNormalMode, entireSystemDebt, entireSystemColl⟩,
    addLiquidationValuesToTotals totals single)

/-- Source `_getTotalsFromLiquidateTrovesSequence_NormalMode`: liquidate the last trove of
the list while it is below `MCR`, at most `n` times. -/
def liquidateTrovesSequenceNormalMode :
    ℕ → System → ℕ → LiquidationTotals → Except String (System × LiquidationTotals)
  | 0, st, _, totals => pure (st, totals)
  | n + 1, st, remaining, totals =>
    let user := st.sortedTroves.tail
    if getCurrentICR st.troveManager user price < cfg.params.MCR then do
      let (st, remaining, totals) ← sequenceNormalStep cfg st user remaining totals
      liquidateTrovesSequenceNormalMode n st remaining totals
    -- break if the loop reaches a Trove with ICR >= MCR
    else pure (st, totals)

/-- Source `_getTotalsFromLiquidateTrovesSequence_RecoveryMode`: walk up from `user`, at
most `n` troves and never to the list's first trove, `firstUser`. -/
def liquidateTrovesSequenceRecoveryMode (firstUser : Address) :
    ℕ → System → Address → SequenceVars → LiquidationTotals →
      Except String (System × LiquidationTotals)
  | 0, st, _, _, totals => pure (st, totals)
  | n + 1, st, user, vars, totals =>
    if user = firstUser then pure (st, totals) else
    -- cached, because the current user is likely going to be deleted
    let nextUser := st.sortedTroves.prev user
    let ICR := getCurrentICR st.troveManager user price
    if !vars.backToNormalMode then
      -- Break the loop if ICR is greater than MCR and Stability Pool is empty
      if ICR ≥ cfg.params.MCR ∧ vars.remainingZUSDInStabPool = 0 then pure (st, totals)
      else do
        let collDrop := fun single : LiquidationValues => do
          let coll ← SafeMath.sub vars.entireSystemColl single.collToSendToSP
          SafeMath.sub coll single.collSurplus
        let (st, vars, totals) ←
          sequenceRecoveryStep cfg price collDrop st user ICR vars totals
        liquidateTrovesSequenceRecoveryMode firstUser n st nextUser vars totals
    else if ICR < cfg.params.MCR then do
      let (st, remaining, totals) ←
        sequenceNormalStep cfg st user vars.remainingZUSDInStabPool totals
      liquidateTrovesSequenceRecoveryMode firstUser n st nextUser
        { vars with remainingZUSDInStabPool := remaining } totals
    -- break if the loop reaches a Trove with ICR >= MCR
    else pure (st, totals)

/-- Source `_getTotalsFromBatchLiquidate_NormalMode`: liquidate each trove of the list below
`MCR`. -/
def batchLiquidateSequenceNormalMode :
    List Address → System → ℕ → LiquidationTotals → Except String (System × LiquidationTotals)
  | [], st, _, totals => pure (st, totals)
  | user :: troveArray, st, remaining, totals =>
    if getCurrentICR st.troveManager user price < cfg.params.MCR then do
      let (st, remaining, totals) ← sequenceNormalStep cfg st user remaining totals
      batchLiquidateSequenceNormalMode troveArray st remaining totals
    else batchLiquidateSequenceNormalMode troveArray st remaining totals

/-- Source `_getTotalFromBatchLiquidate_RecoveryMode`: as the sorted sequence, over the
caller's list, skipping troves that are not active or cannot be liquidated. -/
def batchLiquidateSequenceRecoveryMode :
    List Address → System → SequenceVars → LiquidationTotals →
      Except String (System × LiquidationTotals)
  | [], st, _, totals => pure (st, totals)
  | user :: troveArray, st, vars, totals =>
    -- Skip non-active troves
    if (st.troveManager.Troves user).status ≠ .active then
      batchLiquidateSequenceRecoveryMode troveArray st vars totals
    else
    let ICR := getCurrentICR st.troveManager user price
    if !vars.backToNormalMode then
      -- Skip this trove if ICR is greater than MCR and Stability Pool is empty
      if ICR ≥ cfg.params.MCR ∧ vars.remainingZUSDInStabPool = 0 then
        batchLiquidateSequenceRecoveryMode troveArray st vars totals
      else do
        let collDrop := fun single : LiquidationValues =>
          SafeMath.sub vars.entireSystemColl single.collToSendToSP
        let (st, vars, totals) ←
          sequenceRecoveryStep cfg price collDrop st user ICR vars totals
        batchLiquidateSequenceRecoveryMode troveArray st vars totals
    else if ICR < cfg.params.MCR then do
      let (st, remaining, totals) ←
        sequenceNormalStep cfg st user vars.remainingZUSDInStabPool totals
      batchLiquidateSequenceRecoveryMode troveArray st
        { vars with remainingZUSDInStabPool := remaining } totals
    else batchLiquidateSequenceRecoveryMode troveArray st vars totals

end Sequences

section Finish

variable (cfg : Config) (st : System)

/-- Source `_redistributeDebtAndColl`: add the debt and collateral per unit of stake to
`L_ZUSDDebt` and `L_ETH`, with error feedback, and move them to the default pool. -/
def redistributeDebtAndColl (debt coll : ℕ) : Except String System := do
  if debt = 0 then return st
  let tm := st.troveManager
  let ETHNumerator := coll * DECIMAL_PRECISION + tm.lastETHError_Redistribution
  let ZUSDDebtNumerator := debt * DECIMAL_PRECISION + tm.lastZUSDDebtError_Redistribution
  let ETHRewardPerUnitStaked ← SafeMath.div ETHNumerator tm.totalStakes
  let ZUSDDebtRewardPerUnitStaked ← SafeMath.div ZUSDDebtNumerator tm.totalStakes
  let lastETHError ← SafeMath.sub ETHNumerator (ETHRewardPerUnitStaked * tm.totalStakes)
  let lastZUSDDebtError ←
    SafeMath.sub ZUSDDebtNumerator (ZUSDDebtRewardPerUnitStaked * tm.totalStakes)
  let tm := { tm with
    lastETHError_Redistribution := lastETHError
    lastZUSDDebtError_Redistribution := lastZUSDDebtError
    L_ETH := tm.L_ETH + ETHRewardPerUnitStaked
    L_ZUSDDebt := tm.L_ZUSDDebt + ZUSDDebtRewardPerUnitStaked }
  -- Transfer coll and debt from ActivePool to DefaultPool
  let activePool ← st.activePool.decreaseZUSDDebt debt
  let defaultPool := st.defaultPool.increaseZUSDDebt debt
  let activePool ← activePool.sendETH coll
  pure { st with
    troveManager := tm, activePool := activePool, defaultPool := defaultPool.receive coll }

/-- Source `_updateSystemSnapshots_excludeCollRemainder`. -/
def updateSystemSnapshotsExcludeCollRemainder (collRemainder : ℕ) : Except String System := do
  let activeColl := st.activePool.ETH
  let liquidatedColl := st.defaultPool.ETH
  let activeCollLeft ← SafeMath.sub activeColl collRemainder
  pure { st with troveManager := { st.troveManager with
    totalStakesSnapshot := st.troveManager.totalStakes
    totalCollateralSnapshot := activeCollLeft + liquidatedColl } }

/-- Source `_sendGasCompensation`: the gas pool's ZUSD and the active pool's ether to the
liquidator. -/
def sendGasCompensation (liquidator : Address) (ZUSD ETH : ℕ) : Except String System := do
  let st ← if ZUSD > 0 then do
      let zusdToken ← ZUSDToken.transfer st.zusdToken cfg.addresses.gasPool liquidator ZUSD
      pure { st with zusdToken := zusdToken }
    else pure st
  if ETH > 0 then do
    let activePool ← st.activePool.sendETH ETH
    pure { st with activePool := activePool }
  else pure st

/-- The part of `liquidateTroves` and `batchLiquidateTroves` after the sequence: move the
totals to the Stability Pool, the default pool and the surplus pool, take the system
snapshots and pay the liquidator. -/
def finishLiquidation (liquidator : Address) (totals : LiquidationTotals) :
    Except String System := do
  Revert.require (totals.totalDebtInSequence > 0) "TroveManager: nothing to liquidate"
  let st ← StabilityPool.offset cfg st totals.totalDebtToOffset totals.totalCollToSendToSP
  let st ← redistributeDebtAndColl st totals.totalDebtToRedistribute
    totals.totalCollToRedistribute
  let st ← if totals.totalCollSurplus > 0 then do
      let activePool ← st.activePool.sendETH totals.totalCollSurplus
      pure { st with
        activePool := activePool
        collSurplusPool := st.collSurplusPool.receive totals.totalCollSurplus }
    else pure st
  let st ← updateSystemSnapshotsExcludeCollRemainder st totals.totalCollGasCompensation
  -- the liquidated collateral is computed for the event log, with checked subtractions
  let collLessCompensation ←
    SafeMath.sub totals.totalCollInSequence totals.totalCollGasCompensation
  let _liquidatedColl ← SafeMath.sub collLessCompensation totals.totalCollSurplus
  sendGasCompensation cfg st liquidator totals.totalZUSDGasCompensation
    totals.totalCollGasCompensation

/-- The sequence variables at the start of a recovery-mode sequence. -/
def SequenceVars.init (ZUSDInStabPool : ℕ) : SequenceVars :=
  ⟨ZUSDInStabPool, false, getEntireSystemDebt st, getEntireSystemColl st⟩

/-- Source `liquidateTroves` by `liquidator`: liquidate up to `n` troves from the bottom of
the sorted list. -/
def liquidateTroves (liquidator : Address) (n : ℕ) : Except String System := do
  let price := st.price
  let ZUSDInStabPool := st.stabilityPool.totalZUSDDeposits
  let (st', totals) ←
    if checkRecoveryMode cfg st price then
      liquidateTrovesSequenceRecoveryMode cfg price st.sortedTroves.head n st
        st.sortedTroves.tail (SequenceVars.init st ZUSDInStabPool) LiquidationTotals.zero
    else
      liquidateTrovesSequenceNormalMode cfg price n st ZUSDInStabPool LiquidationTotals.zero
  finishLiquidation cfg st' liquidator totals

/-- Source `batchLiquidateTroves` by `liquidator`. -/
def batchLiquidateTroves (liquidator : Address) (troveArray : List Address) :
    Except String System := do
  Revert.require (troveArray ≠ []) "TroveManager: Calldata address array must not be empty"
  let price := st.price
  let ZUSDInStabPool := st.stabilityPool.totalZUSDDeposits
  let (st', totals) ←
    if checkRecoveryMode cfg st price then
      batchLiquidateSequenceRecoveryMode cfg price troveArray st
        (SequenceVars.init st ZUSDInStabPool) LiquidationTotals.zero
    else
      batchLiquidateSequenceNormalMode cfg price troveArray st ZUSDInStabPool
        LiquidationTotals.zero
  finishLiquidation cfg st' liquidator totals

/-- Source `liquidate` by `liquidator`: a batch of one active trove. -/
def liquidate (liquidator borrower : Address) : Except String System := do
  Revert.require ((st.troveManager.Troves borrower).status = .active)
    "TroveManager: Trove does not exist or is closed"
  batchLiquidateTroves cfg st liquidator [borrower]

end Finish

end ZeroProtocol.TroveManager
