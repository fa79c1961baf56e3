import ZeroProtocol.TroveManager.Base

/-!
# `StabilityPool`: deposits, gains and offsets

A deposit's current value and gains are computed from its snapshots at every read
(`getCompoundedZUSDDeposit`, `getDepositorETHGain`, `getDepositorZEROGain`); the
state-changing functions first trigger the ZERO issuance, pay out the gains, then record the
new deposit with fresh snapshots.  `offset`, which only the trove manager calls during a
liquidation, cancels debt against the pool: it raises the sum `S` by the collateral gained
per unit deposited and scales the product `P` down by the ZUSD lost per unit, both with
floor division and the error feedback of the `last..._Offset` variables.

The views are `Except` values because their `SafeMath` operations can revert in the contract,
and a revert there reverts the transaction that reads them: a subtraction below zero, a division
by zero, and a product or sum above `2^256` (or, for the scale, `2^128`).  The ZERO
amounts passed to `sendZERO` are computed, and can revert, as in the contract, but the
transfer itself moves nothing (see `CommunityIssuance.sendZERO`).  Ether sent to a depositor
leaves the modelled system; only the pool's tracker `ETH` records it.
-/

namespace ZeroProtocol.StabilityPool

open LiquityMath

section Views

variable (sp : StabilityPoolStorage)

/-- The gain of `initialStake` from a running sum `sums` (`epochToScaleToSum` or
`epochToScaleToG`) since its snapshot `snapshotSum`, across at most one scale change: the
shape that `_getETHGainFromSnapshots` and `_getZEROGainFromSnapshots` share. -/
def gainFromSnapshots (sums : ℕ → ℕ → ℕ) (initialStake snapshotSum : ℕ)
    (snapshots : Snapshots) : Except String ℕ := do
  let firstPortion ← SafeMath.sub (sums snapshots.epoch snapshots.scale) snapshotSum
  let nextScale ← LiquitySafeMath128.add snapshots.scale 1
  let secondPortion := sums snapshots.epoch nextScale / SCALE_FACTOR
  let portions ← SafeMath.add firstPortion secondPortion
  let gain ← SafeMath.mul initialStake portions
  let gain ← SafeMath.div gain snapshots.P
  pure (gain / DECIMAL_PRECISION)

/-- Source `_getETHGainFromSnapshots`. -/
def getETHGainFromSnapshots (initialDeposit : ℕ) (snapshots : Snapshots) : Except String ℕ :=
  gainFromSnapshots sp.epochToScaleToSum initialDeposit snapshots.S snapshots

/-- Source `_getZEROGainFromSnapshots`. -/
def getZEROGainFromSnapshots (initialStake : ℕ) (snapshots : Snapshots) : Except String ℕ :=
  gainFromSnapshots sp.epochToScaleToG initialStake snapshots.G snapshots

/-- Source `getDepositorETHGain`. -/
def getDepositorETHGain (depositor : Address) : Except String ℕ :=
  let initialDeposit := (sp.deposits depositor).initialValue
  if initialDeposit = 0 then pure 0
  else getETHGainFromSnapshots sp initialDeposit (sp.depositSnapshots depositor)

/-- Source `getDepositorZEROGain`: the deposit's share of what it earned, the whole of it
without a front end and the kickback rate of its front end otherwise. -/
def getDepositorZEROGain (depositor : Address) : Except String ℕ := do
  let initialDeposit := (sp.deposits depositor).initialValue
  if initialDeposit = 0 then return 0
  let frontEndTag := (sp.deposits depositor).frontEndTag
  let kickbackRate :=
    if frontEndTag = 0 then DECIMAL_PRECISION else (sp.frontEnds frontEndTag).kickbackRate
  let gain ← getZEROGainFromSnapshots sp initialDeposit (sp.depositSnapshots depositor)
  let ZEROGain ← SafeMath.mul kickbackRate gain
  pure (ZEROGain / DECIMAL_PRECISION)

/-- Source `getFrontEndZEROGain`: the front end's share of what its tagged deposits earned. -/
def getFrontEndZEROGain (frontEnd : Address) : Except String ℕ := do
  let frontEndStake := sp.frontEndStakes frontEnd
  if frontEndStake = 0 then return 0
  let kickbackRate := (sp.frontEnds frontEnd).kickbackRate
  let frontEndShare ← SafeMath.sub DECIMAL_PRECISION kickbackRate
  let gain ← getZEROGainFromSnapshots sp frontEndStake (sp.frontEndSnapshots frontEnd)
  let ZEROGain ← SafeMath.mul frontEndShare gain
  pure (ZEROGain / DECIMAL_PRECISION)

/-- Source `_getCompoundedStakeFromSnapshots`: `initialStake * P / P_snapshot`, zero after a
pool-emptying epoch or two scale changes, and zero below a billionth of the stake. -/
def getCompoundedStakeFromSnapshots (initialStake : ℕ) (snapshots : Snapshots) :
    Except String ℕ := do
  -- If stake was made before a pool-emptying event, then it has been fully cancelled
  if snapshots.epoch < sp.currentEpoch then return 0
  let scaleDiff ← LiquitySafeMath128.sub sp.currentScale snapshots.scale
  let compoundedStake ←
    if scaleDiff = 0 then SafeMath.div (← SafeMath.mul initialStake sp.P) snapshots.P
    else if scaleDiff = 1 then do
      let compounded ← SafeMath.div (← SafeMath.mul initialStake sp.P) snapshots.P
      pure (compounded / SCALE_FACTOR)
    else pure 0
  if compoundedStake < initialStake / 10 ^ 9 then pure 0 else pure compoundedStake

/-- Source `getCompoundedZUSDDeposit`. -/
def getCompoundedZUSDDeposit (depositor : Address) : Except String ℕ :=
  let initialDeposit := (sp.deposits depositor).initialValue
  if initialDeposit = 0 then pure 0
  else getCompoundedStakeFromSnapshots sp initialDeposit (sp.depositSnapshots depositor)

/-- Source `getCompoundedFrontEndStake`. -/
def getCompoundedFrontEndStake (frontEnd : Address) : Except String ℕ :=
  let frontEndStake := sp.frontEndStakes frontEnd
  if frontEndStake = 0 then pure 0
  else getCompoundedStakeFromSnapshots sp frontEndStake (sp.frontEndSnapshots frontEnd)

end Views

section Requires

variable (sp : StabilityPoolStorage)

/-- Source `_requireUserHasDeposit`. -/
def requireUserHasDeposit (initialDeposit : ℕ) : Except String Unit :=
  Revert.require (initialDeposit > 0) "StabilityPool: User must have a non-zero deposit"

/-- Source `_requireUserHasNoDeposit`. -/
def requireUserHasNoDeposit (address : Address) : Except String Unit :=
  Revert.require ((sp.deposits address).initialValue = 0) "StabilityPool: User must have no deposit"

/-- Source `_requireNonZeroAmount`. -/
def requireNonZeroAmount (amount : ℕ) : Except String Unit :=
  Revert.require (amount > 0) "StabilityPool: Amount must be non-zero"

/-- Source `_requireFrontEndNotRegistered`. -/
def requireFrontEndNotRegistered (address : Address) : Except String Unit :=
  Revert.require ((sp.frontEnds address).registered = false)
    "StabilityPool: must not already be a registered front end"

/-- Source `_requireFrontEndIsRegisteredOrZero`. -/
def requireFrontEndIsRegisteredOrZero (address : Address) : Except String Unit :=
  Revert.require ((sp.frontEnds address).registered = true ∨ address = 0)
    "StabilityPool: Tag must be a registered front end, or the zero address"

/-- Source `_requireValidKickbackRate`. -/
def requireValidKickbackRate (kickbackRate : ℕ) : Except String Unit :=
  Revert.require (kickbackRate ≤ DECIMAL_PRECISION)
    "StabilityPool: Kickback rate must be in range [0,1]"

/-- Source `_requireNoUnderCollateralizedTroves`: the last trove of the sorted list is not
below `MCR` at the feed's price. -/
def requireNoUnderCollateralizedTroves (cfg : Config) (st : System) : Except String Unit :=
  let lowestTrove := st.sortedTroves.tail
  let ICR := TroveManager.getCurrentICR st.troveManager lowestTrove st.price
  Revert.require (ICR ≥ cfg.params.MCR)
    "StabilityPool: Cannot withdraw while there are troves with ICR < MCR"

end Requires

section Updates

variable (sp : StabilityPoolStorage)

/-- Source `_computeZEROPerUnitStaked`: the ZERO per unit deposited, with error feedback. -/
def computeZEROPerUnitStaked (ZEROIssuance totalZUSDDeposits : ℕ) :
    Except String (StabilityPoolStorage × ℕ) := do
  let ZERONumerator := ZEROIssuance * DECIMAL_PRECISION + sp.lastZEROError
  let ZEROPerUnitStaked ← SafeMath.div ZERONumerator totalZUSDDeposits
  let lastZEROError ← SafeMath.sub ZERONumerator (ZEROPerUnitStaked * totalZUSDDeposits)
  pure ({ sp with lastZEROError := lastZEROError }, ZEROPerUnitStaked)

/-- Source `_updateG`: add the new issuance per unit deposited, times `P`, to `G`; nothing
when the pool is empty or nothing was issued. -/
def updateG (ZEROIssuance : ℕ) : Except String StabilityPoolStorage := do
  let totalZUSD := sp.totalZUSDDeposits
  if totalZUSD = 0 ∨ ZEROIssuance = 0 then return sp
  let (sp, ZEROPerUnitStaked) ← computeZEROPerUnitStaked sp ZEROIssuance totalZUSD
  let marginalZEROGain := ZEROPerUnitStaked * sp.P
  let G := sp.epochToScaleToG sp.currentEpoch sp.currentScale + marginalZEROGain
  pure { sp with
    epochToScaleToG := setEntry sp.epochToScaleToG sp.currentEpoch sp.currentScale G }

/-- Source `_computeRewardsPerUnitStaked`: the collateral gained and the ZUSD lost per unit
deposited.  The loss is rounded up by one, after the error of the last offset is taken
off; a pool-emptying offset loses exactly one per unit. -/
def computeRewardsPerUnitStaked (collToAdd debtToOffset totalZUSDDeposits : ℕ) :
    Except String (StabilityPoolStorage × ℕ × ℕ) := do
  let ETHNumerator := collToAdd * DECIMAL_PRECISION + sp.lastETHError_Offset
  Revert.assert (debtToOffset ≤ totalZUSDDeposits)
  let (sp, ZUSDLossPerUnitStaked) ←
    if debtToOffset = totalZUSDDeposits then
      -- When the Pool depletes to 0, so does each deposit
      pure ({ sp with lastZUSDLossError_Offset := 0 }, DECIMAL_PRECISION)
    else do
      let ZUSDLossNumerator ←
        SafeMath.sub (debtToOffset * DECIMAL_PRECISION) sp.lastZUSDLossError_Offset
      let quotient ← SafeMath.div ZUSDLossNumerator totalZUSDDeposits
      let ZUSDLossPerUnitStaked := quotient + 1
      let lastZUSDLossError ←
        SafeMath.sub (ZUSDLossPerUnitStaked * totalZUSDDeposits) ZUSDLossNumerator
      pure ({ sp with lastZUSDLossError_Offset := lastZUSDLossError }, ZUSDLossPerUnitStaked)
  let ETHGainPerUnitStaked ← SafeMath.div ETHNumerator totalZUSDDeposits
  let lastETHError ← SafeMath.sub ETHNumerator (ETHGainPerUnitStaked * totalZUSDDeposits)
  pure ({ sp with lastETHError_Offset := lastETHError }, ETHGainPerUnitStaked,
    ZUSDLossPerUnitStaked)

/-- Source `_updateRewardSumAndProduct`: raise `S` by the gain times `P`, then scale `P` by
`1 - loss`, starting a new epoch when the pool was emptied and a new scale when `P` would
fall below `SCALE_FACTOR`. -/
def updateRewardSumAndProduct (ETHGainPerUnitStaked ZUSDLossPerUnitStaked : ℕ) :
    Except String StabilityPoolStorage := do
  let currentP := sp.P
  Revert.assert (ZUSDLossPerUnitStaked ≤ DECIMAL_PRECISION)
  let newProductFactor ← SafeMath.sub DECIMAL_PRECISION ZUSDLossPerUnitStaked
  let currentScaleCached := sp.currentScale
  let currentEpochCached := sp.currentEpoch
  let currentS := sp.epochToScaleToSum currentEpochCached currentScaleCached
  let marginalETHGain := ETHGainPerUnitStaked * currentP
  let newS := currentS + marginalETHGain
  let sp := { sp with
    epochToScaleToSum := setEntry sp.epochToScaleToSum currentEpochCached currentScaleCached newS }
  let (sp, newP) :=
    if newProductFactor = 0 then
      ({ sp with currentEpoch := currentEpochCached + 1, currentScale := 0 }, DECIMAL_PRECISION)
    else if currentP * newProductFactor / DECIMAL_PRECISION < SCALE_FACTOR then
      ({ sp with currentScale := currentScaleCached + 1 },
        currentP * newProductFactor * SCALE_FACTOR / DECIMAL_PRECISION)
    else (sp, currentP * newProductFactor / DECIMAL_PRECISION)
  Revert.assert (newP > 0)
  pure { sp with P := newP }

/-- Source `_setFrontEndTag`. -/
def setFrontEndTag (depositor frontEndTag : Address) : StabilityPoolStorage :=
  { sp with deposits :=
      Function.update sp.deposits depositor { sp.deposits depositor with frontEndTag := frontEndTag } }

/-- Source `_updateDepositAndSnapshots`: record the new value with the current `P`, `S`,
`G`, scale and epoch, or delete the tag and snapshots of an emptied deposit. -/
def updateDepositAndSnapshots (depositor : Address) (newValue : ℕ) : StabilityPoolStorage :=
  let deposit := { sp.deposits depositor with initialValue := newValue }
  let sp := { sp with deposits := Function.update sp.deposits depositor deposit }
  if newValue = 0 then
    { sp with
      deposits := Function.update sp.deposits depositor { deposit with frontEndTag := 0 }
      depositSnapshots := Function.update sp.depositSnapshots depositor Snapshots.zero }
  else
    let snapshots : Snapshots :=
      ⟨sp.epochToScaleToSum sp.currentEpoch sp.currentScale, sp.P,
        sp.epochToScaleToG sp.currentEpoch sp.currentScale, sp.currentScale, sp.currentEpoch⟩
    { sp with depositSnapshots := Function.update sp.depositSnapshots depositor snapshots }

/-- Source `_updateFrontEndStakeAndSnapshots`; the front end's `S` snapshot is never
written. -/
def updateFrontEndStakeAndSnapshots (frontEnd : Address) (newValue : ℕ) :
    StabilityPoolStorage :=
  let sp := { sp with frontEndStakes := Function.update sp.frontEndStakes frontEnd newValue }
  if newValue = 0 then
    { sp with frontEndSnapshots := Function.update sp.frontEndSnapshots frontEnd Snapshots.zero }
  else
    let snapshots : Snapshots := { sp.frontEndSnapshots frontEnd with
      P := sp.P, G := sp.epochToScaleToG sp.currentEpoch sp.currentScale,
      scale := sp.currentScale, epoch := sp.currentEpoch }
    { sp with frontEndSnapshots := Function.update sp.frontEndSnapshots frontEnd snapshots }

/-- Source `_sendETHGainTo`: lower the ether tracker by the gain sent. -/
def sendETHGainTo (amount : ℕ) (receiver : Address) : Except String StabilityPoolStorage := do
  Revert.require (receiver ≠ 0) "SP::_sendETHGainTo: _receiver is zero address"
  if amount = 0 then return sp
  let ETH ← SafeMath.sub sp.ETH amount
  pure { sp with ETH := ETH }

end Updates

section System

variable (cfg : Config) (st : System)

/-- Source `_triggerZEROIssuance`: issue the ZERO due since the last call and add it to `G`. -/
def triggerZEROIssuance : Except String System := do
  let (communityIssuance, ZEROIssuance) ←
    CommunityIssuance.issueZERO st.communityIssuance st.timestamp
  let sp ← updateG st.stabilityPool ZEROIssuance
  pure { st with communityIssuance := communityIssuance, stabilityPool := sp }

/-- Source `_payOutZEROGains`: compute and send the ZERO gains of the front end and the
depositor. -/
def payOutZEROGains (sp : StabilityPoolStorage) (depositor frontEnd : Address) :
    Except String Unit := do
  if frontEnd ≠ 0 then
    let frontEndZEROGain ← getFrontEndZEROGain sp frontEnd
    CommunityIssuance.sendZERO cfg.addresses.zeroToken frontEnd frontEndZEROGain
  let depositorZEROGain ← getDepositorZEROGain sp depositor
  CommunityIssuance.sendZERO cfg.addresses.zeroToken depositor depositorZEROGain

/-- Source `_sendZUSDToDepositor`: return ZUSD from the pool and lower its total. -/
def sendZUSDToDepositor (sp : StabilityPoolStorage) (depositor : Address) (ZUSDWithdrawal : ℕ) :
    Except String (Ledger Address × StabilityPoolStorage) := do
  if ZUSDWithdrawal = 0 then return (st.zusdToken, sp)
  let zusdToken ←
    ZUSDToken.transfer st.zusdToken cfg.addresses.stabilityPool depositor ZUSDWithdrawal
  -- `_decreaseZUSD`
  let totalZUSDDeposits ← SafeMath.sub sp.totalZUSDDeposits ZUSDWithdrawal
  pure (zusdToken, { sp with totalZUSDDeposits := totalZUSDDeposits })

/-- Source `provideToSP` by `sender`: pay out the gains, then add `amount` to the compounded
deposit and to the front end's compounded stake. -/
def provideToSP (sender : Address) (amount : ℕ) (frontEndTag : Address) :
    Except String System := do
  requireFrontEndIsRegisteredOrZero st.stabilityPool frontEndTag
  requireFrontEndNotRegistered st.stabilityPool sender
  requireNonZeroAmount amount
  let initialDeposit := (st.stabilityPool.deposits sender).initialValue
  let st ← triggerZEROIssuance st
  let sp := st.stabilityPool
  let sp := if initialDeposit = 0 then setFrontEndTag sp sender frontEndTag else sp
  let depositorETHGain ← getDepositorETHGain sp sender
  let compoundedZUSDDeposit ← getCompoundedZUSDDeposit sp sender
  -- the loss is needed only for the event log, but its subtraction is checked
  let _ZUSDLoss ← SafeMath.sub initialDeposit compoundedZUSDDeposit
  let frontEnd := (sp.deposits sender).frontEndTag
  payOutZEROGains cfg sp sender frontEnd
  let compoundedFrontEndStake ← getCompoundedFrontEndStake sp frontEnd
  let sp := updateFrontEndStakeAndSnapshots sp frontEnd (compoundedFrontEndStake + amount)
  -- `_sendZUSDtoStabilityPool`
  let zusdToken ← ZUSDToken.transfer st.zusdToken sender cfg.addresses.stabilityPool amount
  let sp := { sp with totalZUSDDeposits := sp.totalZUSDDeposits + amount }
  let sp := updateDepositAndSnapshots sp sender (compoundedZUSDDeposit + amount)
  let sp ← sendETHGainTo sp depositorETHGain sender
  pure { st with stabilityPool := sp, zusdToken := zusdToken }

/-- Source `_withdrawFromSpTo` called by `sender`: pay out the gains, then withdraw up to
`amount` of the compounded deposit to `receiver`. -/
def withdrawFromSpTo (sender : Address) (amount : ℕ) (receiver : Address) :
    Except String System := do
  Revert.require (receiver ≠ 0) "SP::_withdrawFromSpTo: _receiver is zero address"
  if amount ≠ 0 then requireNoUnderCollateralizedTroves cfg st
  let initialDeposit := (st.stabilityPool.deposits sender).initialValue
  requireUserHasDeposit initialDeposit
  let st ← triggerZEROIssuance st
  let sp := st.stabilityPool
  let depositorETHGain ← getDepositorETHGain sp sender
  let compoundedZUSDDeposit ← getCompoundedZUSDDeposit sp sender
  let ZUSDtoWithdraw := LiquityMath.min amount compoundedZUSDDeposit
  let _ZUSDLoss ← SafeMath.sub initialDeposit compoundedZUSDDeposit
  let frontEnd := (sp.deposits sender).frontEndTag
  payOutZEROGains cfg sp sender frontEnd
  let compoundedFrontEndStake ← getCompoundedFrontEndStake sp frontEnd
  let newFrontEndStake ← SafeMath.sub compoundedFrontEndStake ZUSDtoWithdraw
  let sp := updateFrontEndStakeAndSnapshots sp frontEnd newFrontEndStake
  let (zusdToken, sp) ← sendZUSDToDepositor cfg st sp receiver ZUSDtoWithdraw
  let newDeposit ← SafeMath.sub compoundedZUSDDeposit ZUSDtoWithdraw
  let sp := updateDepositAndSnapshots sp sender newDeposit
  let sp ← sendETHGainTo sp depositorETHGain sender
  pure { st with stabilityPool := sp, zusdToken := zusdToken }

/-- Source `withdrawFromSP` by `sender`. -/
def withdrawFromSP (sender : Address) (amount : ℕ) : Except String System :=
  withdrawFromSpTo cfg st sender amount sender

/-- Source `registerFrontEnd` by `sender`. -/
def registerFrontEnd (sender : Address) (kickbackRate : ℕ) : Except String System := do
  let sp := st.stabilityPool
  requireFrontEndNotRegistered sp sender
  requireUserHasNoDeposit sp sender
  requireValidKickbackRate kickbackRate
  let frontEnds := Function.update sp.frontEnds sender ⟨kickbackRate, true⟩
  pure { st with stabilityPool := { sp with frontEnds := frontEnds } }

/-- Source `_moveOffsetCollAndDebt`: cancel the offset debt against the pool's ZUSD, burn
it, and move the collateral from the active pool to the Stability Pool. -/
def moveOffsetCollAndDebt (collToAdd debtToOffset : ℕ) : Except String System := do
  let activePool ← st.activePool.decreaseZUSDDebt debtToOffset
  -- `_decreaseZUSD`
  let totalZUSDDeposits ← SafeMath.sub st.stabilityPool.totalZUSDDeposits debtToOffset
  let zusdToken ← ZUSDToken.burn st.zusdToken cfg.addresses.stabilityPool debtToOffset
  let activePool ← activePool.sendETH collToAdd
  -- the Stability Pool's `receive`
  let sp := { st.stabilityPool with
    totalZUSDDeposits := totalZUSDDeposits, ETH := st.stabilityPool.ETH + collToAdd }
  pure { st with activePool := activePool, zusdToken := zusdToken, stabilityPool := sp }

/-- Source `offset`: nothing when the pool or the debt is empty; otherwise issue ZERO, update
`S` and `P`, and move the debt and collateral. -/
def offset (debtToOffset collToAdd : ℕ) : Except String System := do
  let totalZUSD := st.stabilityPool.totalZUSDDeposits
  if totalZUSD = 0 ∨ debtToOffset = 0 then return st
  let st ← triggerZEROIssuance st
  let (sp, ETHGainPerUnitStaked, ZUSDLossPerUnitStaked) ←
    computeRewardsPerUnitStaked st.stabilityPool collToAdd debtToOffset totalZUSD
  let sp ← updateRewardSumAndProduct sp ETHGainPerUnitStaked ZUSDLossPerUnitStaked
  moveOffsetCollAndDebt cfg { st with stabilityPool := sp } collToAdd debtToOffset

end System

end ZeroProtocol.StabilityPool
