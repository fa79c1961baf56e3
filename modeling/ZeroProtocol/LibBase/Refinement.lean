import ZeroProtocol.LibBase.Trove
import ZeroProtocol.System.ClosedTroves

/-!
# The SDK's troves against the contract

A front end predicts with `lib-base` the trove that `openTrove` and `adjustTrove` will record,
computes from it the hints for the sorted list, and reads a trove through `lib-ethers` with the
redistribution it has not yet received.  The predictions agree with the contract to the wei,
although the two sides round differently in form: the SDK's `applyFee` multiplies the borrowed
amount by `1 + rate`, where the contract adds `rate * amount / 1e18`; the SDK adds the
liquidation reserve, where the contract's `_getCompositeDebt` adds the gas compensation; and the
SDK's nominal ratio is `mulDiv` by `100`, where the contract's is `NICR_PRECISION`.

A creation starts from the empty record, which holds in every reachable state by
`reachable_inactiveEmpty`, since the trove opened is not active.  An adjustment is compared on an
active trove with no pending rewards.  The rate is the one the contract charges at execution,
`borrowingRateAt`.

`getTroveBeforeRedistribution` and `getTotalRedistributed` read the trove manager's storage as
`ReadableEthersLiquity` does; the owner's address and status that it also returns are not
compared.
-/

namespace ZeroProtocol.LibBase

open LiquityMath LiquityBase BorrowerOperations
open TroveManager (TroveManagerStorage InactiveEmpty SameAmounts getEntireDebtAndColl
  getPendingETHReward getPendingZUSDDebtReward pendingReward applyPendingRewards_sameAmounts)

/-- Source `ReadableEthersLiquity.getTroveBeforeRedistribution`: an active trove's record, stake
and snapshots, and the empty trove for one that is not active. -/
def getTroveBeforeRedistribution (tm : TroveManagerStorage) (address : Address) :
    TroveWithPendingRedistribution :=
  if (tm.Troves address).status = .active then
    ⟨⟨(tm.Troves address).coll, (tm.Troves address).debt⟩, (tm.Troves address).stake,
      ⟨(tm.rewardSnapshots address).ETH, (tm.rewardSnapshots address).ZUSDDebt⟩⟩
  else ⟨emptyTrove, 0, emptyTrove⟩

/-- Source `getTotalRedistributed`. -/
def getTotalRedistributed (tm : TroveManagerStorage) : Trove := ⟨tm.L_ETH, tm.L_ZUSDDebt⟩

/-- Source `getTrove`: the trove with its pending redistribution applied. -/
def getTrove (tm : TroveManagerStorage) (address : Address) : Trove :=
  (getTroveBeforeRedistribution tm address).applyRedistribution (getTotalRedistributed tm)

/-- The arguments `PopulatableEthersLiquity.adjustTrove` passes to the contract for normalized
parameters: the ether sent, the collateral withdrawal, the debt change and whether it is an
increase. -/
def adjustTroveArgs (params : TroveAdjustmentParams) : ℕ × ℕ × ℕ × Bool :=
  (params.depositCollateral.getD 0, params.withdrawCollateral.getD 0,
    (params.borrowZUSD <|> params.repayZUSD).getD 0, params.borrowZUSD.isSome)

/-! ## The two sides' constants and rounding -/

theorem DIGITS_eq : Decimal.DIGITS = DECIMAL_PRECISION := rfl

theorem ZUSD_LIQUIDATION_RESERVE_eq : ZUSD_LIQUIDATION_RESERVE = ZUSD_GAS_COMPENSATION := rfl

/-- The SDK's nominal ratio is the contract's `_computeNominalCR`. -/
theorem nominalCollateralRatio_eq (t : Trove) :
    t.nominalCollateralRatio = computeNominalCR t.collateral t.debt := by
  have hprecision : NOMINAL_COLLATERAL_RATIO_PRECISION = NICR_PRECISION := rfl
  unfold Trove.nominalCollateralRatio Decimal.mulDiv computeNominalCR
  rw [hprecision]
  split_ifs with hzero hpos hpos
  · omega
  · rfl
  · rfl
  · omega

/-- An active trove's pending reward, as the SDK computes it: the growth of the total times the
stake, rounded down. -/
theorem pendingReward_of_active {trove : TroveManager.Trove} {L snapshot : ℕ}
    (h : trove.status = .active) :
    pendingReward trove L snapshot = (L - snapshot) * trove.stake / DECIMAL_PRECISION := by
  simp only [pendingReward, h, ne_eq, not_true_eq_false, or_false]
  split_ifs with hzero
  · rw [hzero, Nat.zero_mul, Nat.zero_div]
  · rw [Nat.mul_comm]

/-! ## The contract's arithmetic on the SDK's parameters -/

theorem applyChange_eq_ok {x change y : ℕ} {isIncrease : Bool} :
    applyChange x change isIncrease = .ok y ↔
      if isIncrease then y = x + change else change ≤ x ∧ y = x - change := by
  cases isIncrease with
  | false =>
    simp only [applyChange, Bool.false_eq_true, if_false]
    exact SafeMath.sub_eq_ok
  | true =>
    simp only [applyChange, if_true, Revert.pure_eq_ok]
    exact eq_comm

/-- The collateral the contract records for normalized parameters: the deposit is sent as ether,
which `_getCollChange` prefers, and the withdrawal is requested otherwise. -/
theorem coll_of_adjustTroveArgs {params : TroveAdjustmentParams} {coll newColl : ℕ}
    (hnonzero : ∀ v, params.depositCollateral = some v → v ≠ 0)
    (hpair : params.depositCollateral = none ∨ params.withdrawCollateral = none)
    (h : applyChange coll (getCollChange (adjustTroveArgs params).1 (adjustTroveArgs params).2.1).1
      (getCollChange (adjustTroveArgs params).1 (adjustTroveArgs params).2.1).2 = .ok newColl) :
    newColl = coll + params.depositCollateral.getD 0 - params.withdrawCollateral.getD 0 := by
  cases hdeposit : params.depositCollateral with
  | none =>
    -- no ether is sent: the withdrawal is the change
    simp only [adjustTroveArgs, hdeposit, Option.getD_none, getCollChange, ne_eq,
      not_true_eq_false, if_false, applyChange_eq_ok, Bool.false_eq_true] at h
    rw [Option.getD_none, Nat.add_zero]
    exact h.2
  | some v =>
    -- the deposit is sent as ether, and there is no withdrawal
    have hv := hnonzero v hdeposit
    have hwithdraw : params.withdrawCollateral = none := by
      simpa [hdeposit] using hpair
    simp only [adjustTroveArgs, hdeposit, hwithdraw, Option.getD_some, getCollChange, ne_eq, hv,
      not_false_eq_true, if_true, applyChange_eq_ok] at h
    rw [hwithdraw, Option.getD_some, Option.getD_none, Nat.sub_zero]
    exact h

/-- The debt the contract records for normalized parameters: a borrowed amount with its fee at
`r`, or a repayment. -/
theorem debt_of_adjustTroveArgs {params : TroveAdjustmentParams} {debt newDebt fee r : ℕ}
    (hpair : params.borrowZUSD = none ∨ params.repayZUSD = none)
    (hfee : fee = if (adjustTroveArgs params).2.2.2 then
      r * (adjustTroveArgs params).2.2.1 / DECIMAL_PRECISION else 0)
    (h : applyChange debt ((adjustTroveArgs params).2.2.1 + fee) (adjustTroveArgs params).2.2.2 =
      .ok newDebt) :
    newDebt = debt + (params.borrowZUSD.elim 0 fun b => b + r * b / DECIMAL_PRECISION) -
      params.repayZUSD.getD 0 := by
  cases hborrow : params.borrowZUSD with
  | none =>
    -- a repayment, or no debt change, without a fee
    simp only [adjustTroveArgs, hborrow, Option.isSome_none, Bool.false_eq_true, if_false,
      Option.orElse_eq_orElse, Option.orElse_eq_or, Option.none_or, applyChange_eq_ok] at hfee h
    rw [hfee, Nat.add_zero] at h
    rw [Option.elim_none, Nat.add_zero]
    exact h.2
  | some b =>
    -- a borrowing, with its fee, and no repayment
    have hrepay : params.repayZUSD = none := by
      simpa [hborrow] using hpair
    simp only [adjustTroveArgs, hborrow, Option.isSome_some, if_true, Option.orElse_eq_orElse,
      Option.orElse_eq_or, Option.some_or, Option.getD_some, applyChange_eq_ok] at hfee h
    rw [hfee] at h
    rw [Option.elim_some, hrepay, Option.getD_none, Nat.sub_zero]
    exact h

/-! ## The predictions are the records -/

section Refinement

variable {cfg : Config} {st st' : System}

/-- `getTrove` of an active trove is its entire collateral and debt, as `getEntireDebtAndColl`
computes them. -/
theorem getTrove_eq {borrower : Address} (h : (st.troveManager.Troves borrower).status = .active) :
    getTrove st.troveManager borrower =
      ⟨(getEntireDebtAndColl st.troveManager borrower).2.1,
        (getEntireDebtAndColl st.troveManager borrower).1⟩ := by
  rw [getTrove, getTroveBeforeRedistribution, if_pos h, applyRedistribution_eq]
  simp only [getEntireDebtAndColl, getPendingETHReward, getPendingZUSDDebtReward,
    pendingReward_of_active h, getTotalRedistributed, DIGITS_eq]

/-- A trove opened with amounts that normalization accepts records what `Trove.create`
predicts at the rate the contract charges, and is inserted at the predicted nominal ratio. -/
theorem create_eq_openTrove {timestamp price maxSize : ℕ}
    (hreach : Reachable cfg (System.init timestamp price maxSize) st) {r : ℕ}
    (hr : borrowingRateAt cfg st = .ok r) {depositCollateral borrowZUSD : Option ℕ}
    {params : TroveCreationParams}
    (hparams : normalizeTroveCreation depositCollateral borrowZUSD = .ok params)
    {gas maxFeePercentage : ℕ} {sender upperHint lowerHint : Address}
    (h : openTrove cfg st gas sender params.depositCollateral maxFeePercentage params.borrowZUSD
      upperHint lowerHint = .ok st') :
    Trove.create depositCollateral borrowZUSD r =
        .ok ⟨(st'.troveManager.Troves sender).coll, (st'.troveManager.Troves sender).debt⟩ ∧
      ∃ key, SortedTroves.insert key st.sortedTroves gas sender
        (Trove.nominalCollateralRatio
          ⟨(st'.troveManager.Troves sender).coll, (st'.troveManager.Troves sender).debt⟩)
        upperHint lowerHint = .ok st'.sortedTroves := by
  obtain ⟨hnotActive, fee, hrate, ⟨key, hinsert⟩, hsame⟩ := openTrove_spec h
  obtain ⟨⟨-, hcoll, hdebt⟩, -⟩ := sameAmounts_update_apply hsame
  -- the trove opened was not active, so it held nothing
  obtain ⟨hcoll₀, hdebt₀⟩ := reachable_inactiveEmpty hreach sender hnotActive
  have hcomposite : ZUSD_LIQUIDATION_RESERVE + params.borrowZUSD +
      r * params.borrowZUSD / Decimal.DIGITS = getCompositeDebt (params.borrowZUSD + fee) := by
    rw [hrate r hr, getCompositeDebt, ZUSD_LIQUIDATION_RESERVE_eq, DIGITS_eq]
    omega
  have hrecord : (⟨(st'.troveManager.Troves sender).coll, (st'.troveManager.Troves sender).debt⟩ :
      Trove) = ⟨params.depositCollateral, ZUSD_LIQUIDATION_RESERVE + params.borrowZUSD +
        r * params.borrowZUSD / Decimal.DIGITS⟩ := by
    rw [hcoll, hdebt, hcomposite]
    simp only [hcoll₀, hdebt₀, Nat.zero_add]
  rw [hrecord]
  refine ⟨create_eq hparams r, key, ?_⟩
  rw [nominalCollateralRatio_eq, hcomposite]
  exact hinsert

/-- An adjustment of an active trove without pending rewards, with parameters that
normalization accepts and passed to the contract as the SDK passes them, records what
`Trove.adjust` predicts from the recorded amounts at the rate the contract charges, and re-inserts
the trove at the predicted nominal ratio. -/
theorem adjust_eq_adjustTrove {r : ℕ} (hr : borrowingRateAt cfg st = .ok r) {borrower : Address}
    (hETH : getPendingETHReward st.troveManager borrower = 0)
    (hZUSD : getPendingZUSDDebtReward st.troveManager borrower = 0)
    {params params' : TroveAdjustmentParams} (hparams : normalizeTroveAdjustment params = .ok params')
    {gas maxFeePercentage : ℕ} {upperHint lowerHint : Address}
    (h : adjustTrove cfg st gas borrower (adjustTroveArgs params').1 maxFeePercentage
      (adjustTroveArgs params').2.1 (adjustTroveArgs params').2.2.1 (adjustTroveArgs params').2.2.2
      upperHint lowerHint = .ok st') :
    Trove.adjust ⟨(st.troveManager.Troves borrower).coll, (st.troveManager.Troves borrower).debt⟩
        params r =
        .ok ⟨(st'.troveManager.Troves borrower).coll, (st'.troveManager.Troves borrower).debt⟩ ∧
      ∃ key, SortedTroves.reInsert key st.sortedTroves gas borrower
        (Trove.nominalCollateralRatio
          ⟨(st'.troveManager.Troves borrower).coll, (st'.troveManager.Troves borrower).debt⟩)
        upperHint lowerHint = .ok st'.sortedTroves := by
  obtain ⟨st₁, fee, newColl, newDebt, hpending, -, hrate, hamounts, ⟨key, hreinsert⟩, hsame⟩ :=
    adjustSenderTrove_spec h
  obtain ⟨⟨-, hcoll, hdebt⟩, -⟩ := sameAmounts_update_apply hsame
  -- without pending rewards, the adjustment starts from the amounts the SDK read
  obtain ⟨-, hcoll₁, hdebt₁⟩ := applyPendingRewards_sameAmounts hETH hZUSD hpending borrower
  rw [hcoll₁, hdebt₁] at hamounts
  simp only [getNewTroveAmounts, Revert.bind_eq_ok, Revert.pure_eq_ok, Prod.mk.injEq] at hamounts
  obtain ⟨c, hc, d, hd, rfl, rfl⟩ := hamounts
  obtain ⟨hdeposit, -, -, -, hcollPair, hdebtPair⟩ := normalizeTroveAdjustment_spec hparams
  have hnonzero : ∀ v, params'.depositCollateral = some v → v ≠ 0 := by
    intro v hv
    rw [hdeposit, Option.filter_eq_some_iff] at hv
    simpa using hv.2
  have hc' := coll_of_adjustTroveArgs hnonzero hcollPair hc
  have hd' := debt_of_adjustTroveArgs hdebtPair (hrate r hr) hd
  rw [hcoll, hdebt]
  refine ⟨?_, key, ?_⟩
  · rw [adjust_eq hparams, hc', hd', DIGITS_eq]
  · rw [nominalCollateralRatio_eq]
    exact hreinsert

end Refinement

/-- What the SDK predicts from a state agrees with what the contract records from it: the trove a
creation or an adjustment at the contract's rate will record, the nominal ratio the sorted list
receives, and the trove `getTrove` reads. -/
structure PredictionsAgree (cfg : Config) (st : System) : Prop where
  /-- `Trove.create` is the trove a successful `openTrove` records, inserted at its ratio. -/
  create : ∀ r, borrowingRateAt cfg st = .ok r →
    ∀ depositCollateral borrowZUSD params,
      normalizeTroveCreation depositCollateral borrowZUSD = .ok params →
    ∀ gas maxFeePercentage sender upperHint lowerHint st',
      openTrove cfg st gas sender params.depositCollateral maxFeePercentage params.borrowZUSD
        upperHint lowerHint = .ok st' →
      Trove.create depositCollateral borrowZUSD r =
          .ok ⟨(st'.troveManager.Troves sender).coll, (st'.troveManager.Troves sender).debt⟩ ∧
        ∃ key, SortedTroves.insert key st.sortedTroves gas sender
          (Trove.nominalCollateralRatio
            ⟨(st'.troveManager.Troves sender).coll, (st'.troveManager.Troves sender).debt⟩)
          upperHint lowerHint = .ok st'.sortedTroves
  /-- `Trove.adjust` of an active trove without pending rewards is the trove a successful
  `adjustTrove` records, re-inserted at its ratio. -/
  adjust : ∀ r, borrowingRateAt cfg st = .ok r →
    ∀ borrower, (st.troveManager.Troves borrower).status = .active →
      getPendingETHReward st.troveManager borrower = 0 →
      getPendingZUSDDebtReward st.troveManager borrower = 0 →
    ∀ params params', normalizeTroveAdjustment params = .ok params' →
    ∀ gas maxFeePercentage upperHint lowerHint st',
      adjustTrove cfg st gas borrower (adjustTroveArgs params').1 maxFeePercentage
        (adjustTroveArgs params').2.1 (adjustTroveArgs params').2.2.1
        (adjustTroveArgs params').2.2.2 upperHint lowerHint = .ok st' →
      Trove.adjust
          ⟨(st.troveManager.Troves borrower).coll, (st.troveManager.Troves borrower).debt⟩
          params r =
          .ok ⟨(st'.troveManager.Troves borrower).coll, (st'.troveManager.Troves borrower).debt⟩ ∧
        ∃ key, SortedTroves.reInsert key st.sortedTroves gas borrower
          (Trove.nominalCollateralRatio
            ⟨(st'.troveManager.Troves borrower).coll, (st'.troveManager.Troves borrower).debt⟩)
          upperHint lowerHint = .ok st'.sortedTroves
  /-- `getTrove` of an active trove is what `getEntireDebtAndColl` computes. -/
  read : ∀ borrower, (st.troveManager.Troves borrower).status = .active →
    getTrove st.troveManager borrower =
      ⟨(getEntireDebtAndColl st.troveManager borrower).2.1,
        (getEntireDebtAndColl st.troveManager borrower).1⟩

/-- Accounts `1` and `2` open troves with 100 ether and 2000 ZUSD each. -/
def openingRun : List (Op × ℕ) :=
  [(.openTrove 1 (100 * 10 ^ 18) (10 ^ 18) (2000 * 10 ^ 18) 0 0, 10),
   (.openTrove 2 (100 * 10 ^ 18) (10 ^ 18) (2000 * 10 ^ 18) 0 0, 10)]

end ZeroProtocol.LibBase
