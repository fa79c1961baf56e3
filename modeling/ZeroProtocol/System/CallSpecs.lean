import ZeroProtocol.System.Step

/-!
# What each call writes

One inversion lemma for each modelled function that several invariants read: from a successful
call, the checks it passed and the writes it made, in order, as named intermediate results.
Every invariant of the troves, the owners array, the pools and the fee state then cites the
lemma of the function and never unfolds it.

* `TroveManager.closeTrove_eq_ok`: the closed record, the owners array without the trove, the
  list without it; the fee state stays (`closeTrove_fees`).
* `TroveManager.redeemCollateralFromTrove_eq_ok`: the lots, and one of three outcomes (the trove
  closed, the partial redemption cancelled, the trove written and re-inserted).
* `TroveManager.redeemLoop_induction`: the rule for the walk from trove to trove, one premise for
  the pending rewards applied and one for each trove redeemed.
* `TroveManager.redeemCollateral_eq_ok`: the walk, the fee state, the ether and the ZUSD burned.
* `BorrowerOperations.triggerBorrowingFee_eq_ok`: the decayed fee state, the fee at the rate it
  gives, and its mint.
* `BorrowerOperations.openTrove_eq_ok`, `adjustSenderTrove_eq_ok`, `closeTrove_eq_ok`: the
  fee charged (in Normal Mode only), the checks that the invariants read, and the writes.

The checks that no invariant reads (the maximum fee, the bootstrap period, the redemption's
first checks) are passed over.
-/

namespace ZeroProtocol

open LiquityMath LiquityBase

namespace TroveManager

variable {cfg : Config} {st st' : System} {borrower : Address}

/-- `_closeTrove` checks the status it is given and that another trove stays, zeroes the record
and its snapshots, and removes the trove from the owners array and the list. -/
theorem closeTrove_eq_ok {status : Status} (h : closeTrove st borrower status = .ok st') :
    (status ≠ .nonExistent ∧ status ≠ .active) ∧
    (st.troveManager.TroveOwners.length > 1 ∧ st.sortedTroves.size > 1) ∧
    ∃ tm sortedTroves,
      removeTroveOwner
        { st.troveManager.updateTrove borrower (fun t =>
            { t with status := status, coll := 0, debt := 0 }) with
          rewardSnapshots := Function.update st.troveManager.rewardSnapshots borrower ⟨0, 0⟩ }
        borrower st.troveManager.TroveOwners.length = .ok tm ∧
      SortedTroves.remove st.sortedTroves borrower = .ok sortedTroves ∧
      st' = { st with troveManager := tm, sortedTroves := sortedTroves } := by
  simp only [closeTrove, Revert.bind_eq_ok, Revert.assert_eq_ok, Revert.require_eq_ok,
    Revert.pure_eq_ok] at h
  obtain ⟨_, hstatus, _, hmore, tm, howner, sortedTroves, hremove, rfl⟩ := h
  exact ⟨hstatus, hmore, tm, sortedTroves, howner, hremove, rfl⟩

/-- Closing a trove leaves the fee state. -/
theorem closeTrove_fees {status : Status} (h : closeTrove st borrower status = .ok st') :
    st'.troveManager.fees = st.troveManager.fees := by
  obtain ⟨-, -, tm, sortedTroves, howner, -, rfl⟩ := closeTrove_eq_ok h
  rw [removeTroveOwner_fees howner]
  rfl

section Redemptions

variable {gas price : ℕ} {upperHint lowerHint : Address} {NICR : ℕ}

/-- `_redeemCollateralFromTrove` takes a lot of at most what is asked and of the debt above the
gas compensation, with the collateral it is worth at the price; then either only the gas
compensation is left and the trove is closed, or an out-of-date hint or a net debt below the
minimum cancels the partial redemption, or the trove is re-inserted in the list and written. -/
theorem redeemCollateralFromTrove_eq_ok {maxZUSDamount : ℕ} {v : SingleRedemptionValues}
    (h : redeemCollateralFromTrove cfg st gas borrower maxZUSDamount price upperHint lowerHint
      NICR = .ok (st', v)) :
    ZUSD_GAS_COMPENSATION ≤ (st.troveManager.Troves borrower).debt ∧
    v.ZUSDLot = LiquityMath.min maxZUSDamount
      ((st.troveManager.Troves borrower).debt - ZUSD_GAS_COMPENSATION) ∧
    0 < price ∧ v.ETHLot = v.ZUSDLot * DECIMAL_PRECISION / price ∧
    v.ETHLot ≤ (st.troveManager.Troves borrower).coll ∧
    (((st.troveManager.Troves borrower).debt - v.ZUSDLot = ZUSD_GAS_COMPENSATION ∧
        v.cancelledPartial = false ∧
        ∃ tm st₂, removeStake st.troveManager borrower = .ok tm ∧
          closeTrove { st with troveManager := tm } borrower .closedByRedemption = .ok st₂ ∧
          redeemCloseTrove cfg st₂ borrower ZUSD_GAS_COMPENSATION
            ((st.troveManager.Troves borrower).coll - v.ETHLot) = .ok st') ∨
      (v.cancelledPartial = true ∧ st' = st) ∨
      ((st.troveManager.Troves borrower).debt - v.ZUSDLot ≠ ZUSD_GAS_COMPENSATION ∧
        v.cancelledPartial = false ∧
        MIN_NET_DEBT + ZUSD_GAS_COMPENSATION ≤ (st.troveManager.Troves borrower).debt - v.ZUSDLot ∧
        ∃ sortedTroves tm stake,
          SortedTroves.reInsert (getNominalICR st.troveManager) st.sortedTroves gas borrower
            (computeNominalCR ((st.troveManager.Troves borrower).coll - v.ETHLot)
              ((st.troveManager.Troves borrower).debt - v.ZUSDLot)) upperHint lowerHint =
            .ok sortedTroves ∧
          updateStakeAndTotalStakes (st.troveManager.updateTrove borrower fun t =>
            { t with debt := (st.troveManager.Troves borrower).debt - v.ZUSDLot,
                     coll := (st.troveManager.Troves borrower).coll - v.ETHLot }) borrower =
            .ok (tm, stake) ∧
          st' = { st with troveManager := tm, sortedTroves := sortedTroves })) := by
  unfold redeemCollateralFromTrove at h
  simp only [Revert.bind_eq_ok, SafeMath.sub_eq_ok, SafeMath.div_eq_ok] at h
  -- the debt above the gas compensation stays named: substituting it runs into the constant
  obtain ⟨debtLeft, ⟨hgas, hdebtLeft⟩, ETHLot, ⟨hprice, rfl⟩, newDebt, ⟨hdebt, rfl⟩, newColl,
    ⟨hcoll, rfl⟩, h⟩ := h
  rw [← hdebtLeft]
  split_ifs at h with hclosed hhint
  · -- only the gas compensation is left: the trove is closed
    simp only [Revert.bind_eq_ok, Revert.pure_eq_ok, Prod.mk.injEq] at h
    obtain ⟨tm, hstake, st₂, hclose, st₃, hredeem, rfl, rfl⟩ := h
    exact ⟨hgas, rfl, hprice, rfl, hcoll, .inl ⟨hclosed, rfl, tm, st₂, hstake, hclose, hredeem⟩⟩
  · -- an out-of-date hint cancels the redemption
    obtain ⟨rfl, rfl⟩ := Prod.mk.inj (Revert.pure_eq_ok.1 h)
    exact ⟨hgas, rfl, hprice, rfl, hcoll, .inr (.inl ⟨rfl, rfl⟩)⟩
  · obtain ⟨netDebt, hnet, h⟩ := Revert.bind_eq_ok.1 h
    split_ifs at h with hmin
    · -- so does a net debt below the minimum
      obtain ⟨rfl, rfl⟩ := Prod.mk.inj (Revert.pure_eq_ok.1 h)
      exact ⟨hgas, rfl, hprice, rfl, hcoll, .inr (.inl ⟨rfl, rfl⟩)⟩
    · -- the partial redemption re-inserts the trove and writes it
      obtain ⟨sortedTroves, hreinsert, h⟩ := Revert.bind_eq_ok.1 h
      obtain ⟨⟨tm, stake⟩, hstake, h⟩ := Revert.bind_eq_ok.1 h
      obtain ⟨rfl, rfl⟩ := Prod.mk.inj (Revert.pure_eq_ok.1 h)
      obtain ⟨hnetle, hnetDebt⟩ := SafeMath.sub_eq_ok.1 hnet
      refine ⟨hgas, rfl, hprice, rfl, hcoll, .inr (.inr ⟨hclosed, rfl, ?_, sortedTroves, tm,
        stake, hreinsert, hstake, rfl⟩)⟩
      dsimp only
      omega

/-- **Induction rule** for the redemption walk, by induction on the rounds left, for a property
of the state and the running totals: applying a trove's pending rewards keeps it, and redeeming
from a trove keeps it with the totals as they are when the partial redemption is cancelled, and
with the trove's lots added when the walk goes on. -/
theorem redeemLoop_induction {J : System → RedemptionTotals → Prop}
    (hpending : ∀ {st st' : System} {borrower : Address} {totals : RedemptionTotals},
      applyPendingRewards st borrower = .ok st' → J st totals → J st' totals)
    (hredeem : ∀ {st st' : System} {borrower : Address} {totals : RedemptionTotals}
      {v : SingleRedemptionValues},
      redeemCollateralFromTrove cfg st gas borrower totals.remainingZUSD price upperHint lowerHint
        NICR = .ok (st', v) → J st totals →
      (v.cancelledPartial = true → J st' totals) ∧
      (v.ZUSDLot ≤ totals.remainingZUSD → J st' ⟨totals.remainingZUSD - v.ZUSDLot,
        totals.totalZUSDToRedeem + v.ZUSDLot, totals.totalETHDrawn + v.ETHLot⟩)) :
    ∀ {maxIterations : ℕ} {st st' : System} {currentBorrower : Address}
      {totals totals' : RedemptionTotals},
      redeemLoop cfg gas price upperHint lowerHint NICR maxIterations st currentBorrower totals =
        .ok (st', totals') →
      J st totals → J st' totals'
  | 0, _, _, _, _, _, h, hst => by
    obtain ⟨rfl, rfl⟩ := Prod.mk.inj (Revert.pure_eq_ok.1 h)
    exact hst
  | n + 1, _, _, _, _, _, h, hst => by
    simp only [redeemLoop] at h
    split_ifs at h
    · obtain ⟨rfl, rfl⟩ := Prod.mk.inj (Revert.pure_eq_ok.1 h)
      exact hst
    · obtain ⟨st₁, hpending₁, h⟩ := Revert.bind_eq_ok.1 h
      obtain ⟨⟨st₂, v⟩, hredeem₂, h⟩ := Revert.bind_eq_ok.1 h
      obtain ⟨hcancel, hnext⟩ := hredeem hredeem₂ (hpending hpending₁ hst)
      -- a cancelled partial redemption ends the walk
      split_ifs at h with hcancelled
      · obtain ⟨rfl, rfl⟩ := Prod.mk.inj (Revert.pure_eq_ok.1 h)
        exact hcancel hcancelled
      · obtain ⟨_, hsub, hrest⟩ := Revert.bind_eq_ok.1 h
        obtain ⟨hle, rfl⟩ := SafeMath.sub_eq_ok.1 hsub
        exact redeemLoop_induction (J := J) hpending hredeem hrest (hnext hle)

/-- `_redeemCollateral` walks the list from the first trove it finds, with a bound of zero read
as none, and must draw some ether; it then writes the fee state that
`_updateBaseRateFromRedemption` returns at the time and price of the call, with the supply of the
call's start, charges the fee on the ether drawn, burns the redeemed ZUSD from the sender, and
takes the redeemed debt and all the ether drawn out of the active pool. -/
theorem redeemCollateral_eq_ok {sender firstHint : Address}
    {ZUSDamount maxIterations maxFeePercentage : ℕ}
    (h : redeemCollateral cfg st gas sender ZUSDamount firstHint upperHint lowerHint NICR
      maxIterations maxFeePercentage = .ok st') :
    ∃ currentBorrower st₁ totals fees newBaseRate ETHFee zusdToken,
      redeemLoop cfg gas st.price upperHint lowerHint NICR
          (if maxIterations = 0 then MAX_UINT256 else maxIterations) st currentBorrower
          ⟨ZUSDamount, 0, 0⟩ = .ok (st₁, totals) ∧
      0 < totals.totalETHDrawn ∧
      updateBaseRateFromRedemption st₁.troveManager.fees st₁.timestamp totals.totalETHDrawn
          st.price (getEntireSystemDebt st) = .ok (fees, newBaseRate) ∧
      calcRedemptionFee (getRedemptionRate cfg.params fees) totals.totalETHDrawn = .ok ETHFee ∧
      ETHFee ≤ totals.totalETHDrawn ∧ totals.totalETHDrawn ≤ st₁.activePool.ETH ∧
      totals.totalZUSDToRedeem ≤ st₁.activePool.ZUSDDebt ∧
      ZUSDToken.burn st₁.zusdToken sender totals.totalZUSDToRedeem = .ok zusdToken ∧
      st' = { st₁ with
        troveManager := { st₁.troveManager with fees := fees }, zusdToken := zusdToken
        activePool := { st₁.activePool with
          ETH := st₁.activePool.ETH - totals.totalETHDrawn
          ZUSDDebt := st₁.activePool.ZUSDDebt - totals.totalZUSDToRedeem } } := by
  simp only [redeemCollateral, Revert.bind_eq_ok] at h
  obtain ⟨_, -, _, -, _, -, _, -, _, -, _, -, h⟩ := h
  rw [← Revert.ite_bind] at h
  obtain ⟨currentBorrower, -, h⟩ := Revert.bind_eq_ok.1 h
  obtain ⟨⟨st₁, totals⟩, hloop, h⟩ := Revert.bind_eq_ok.1 h
  simp only [Revert.bind_eq_ok, Revert.require_eq_ok, ActivePool.sendETH_eq_ok,
    SafeMath.sub_eq_ok, ActivePool.decreaseZUSDDebt_eq_ok, Revert.pure_eq_ok] at h
  obtain ⟨_, hdrawn, ⟨fees, newBaseRate⟩, hfees, ETHFee, hfee, _, -, _, ⟨hfeeETH, rfl⟩, _,
    ⟨hfeeDrawn, rfl⟩, zusdToken, hburn, _, ⟨hdebt, rfl⟩, _, ⟨hrest, rfl⟩, rfl⟩ := h
  refine ⟨currentBorrower, st₁, totals, fees, newBaseRate, ETHFee, zusdToken, hloop, hdrawn,
    hfees, hfee, hfeeDrawn, ?_, hdebt, hburn, ?_⟩
  · dsimp only at hrest
    omega
  · -- the fee and the rest leave the pool one after the other
    have hETH : st₁.activePool.ETH - ETHFee - (totals.totalETHDrawn - ETHFee) =
        st₁.activePool.ETH - totals.totalETHDrawn := by
      omega
    simp only [hETH]

end Redemptions

end TroveManager

namespace BorrowerOperations

open TroveManager

variable {cfg : Config} {st st' : System} {gas : ℕ}

/-- `_triggerBorrowingFee` decays the base rate at the call's time, charges the rate it then gives
on the amount, mints the fee to the fee distributor and writes the decayed fee state. -/
theorem triggerBorrowingFee_eq_ok {ZUSDAmount maxFeePercentage fee : ℕ}
    (h : triggerBorrowingFee cfg st ZUSDAmount maxFeePercentage = .ok (st', fee)) :
    ∃ fees zusdToken, decayBaseRateFromBorrowing st.troveManager.fees st.timestamp = .ok fees ∧
      fee = calcBorrowingRate cfg.params fees.baseRate * ZUSDAmount / DECIMAL_PRECISION ∧
      ZUSDToken.mint st.zusdToken cfg.addresses.feeDistributor fee = .ok zusdToken ∧
      st' = { st with troveManager := { st.troveManager with fees := fees }, zusdToken := zusdToken } := by
  simp only [triggerBorrowingFee, Revert.bind_eq_ok, Revert.pure_eq_ok, Prod.mk.injEq] at h
  obtain ⟨fees, hfees, _, -, zusdToken, hmint, rfl, rfl⟩ := h
  exact ⟨fees, zusdToken, hfees, rfl, hmint, rfl⟩

/-- `_openTrove` needs a trove that is not active; it charges the fee in Normal Mode only, checks
the net debt against the minimum and, in Normal Mode, the system's new ratio against `CCR`; it
writes the record with the composite debt, its snapshots and stake, inserts the trove in the
list, appends it to the owners array, adds the ether to the active pool, and mints the ZUSD to
the borrower and the gas compensation to the gas pool. -/
theorem openTrove_eq_ok {sender upperHint lowerHint : Address}
    {value maxFeePercentage ZUSDAmount : ℕ}
    (h : openTrove cfg st gas sender value maxFeePercentage ZUSDAmount upperHint lowerHint =
      .ok st') :
    (st.troveManager.Troves sender).status ≠ .active ∧
    ∃ st₁ fee tm₂ stake sortedTroves st₃,
      ((checkRecoveryMode cfg st st.price = false ∧
          triggerBorrowingFee cfg st ZUSDAmount maxFeePercentage = .ok (st₁, fee)) ∨
        (checkRecoveryMode cfg st st.price = true ∧ st₁ = st ∧ fee = 0)) ∧
      MIN_NET_DEBT ≤ ZUSDAmount + fee ∧
      (checkRecoveryMode cfg st st.price = false → ∃ newTCR,
        getNewTCRFromTroveChange st₁ value true (getCompositeDebt (ZUSDAmount + fee)) true
          st.price = .ok newTCR ∧ cfg.params.CCR ≤ newTCR) ∧
      updateStakeAndTotalStakes (updateTroveRewardSnapshots
          (st₁.troveManager.updateTrove sender fun t =>
            { t with status := .active, coll := t.coll + value,
                     debt := t.debt + getCompositeDebt (ZUSDAmount + fee) }) sender) sender =
        .ok (tm₂, stake) ∧
      SortedTroves.insert (getNominalICR tm₂) st₁.sortedTroves gas sender
          (computeNominalCR value (getCompositeDebt (ZUSDAmount + fee))) upperHint lowerHint =
        .ok sortedTroves ∧
      mintZusdAndIncreaseActivePoolDebt (activePoolAddColl { st₁ with
          troveManager := (addTroveOwnerToArray tm₂ sender).1, sortedTroves := sortedTroves }
          value) sender ZUSDAmount (ZUSDAmount + fee) = .ok st₃ ∧
      mintZusdAndIncreaseActivePoolDebt st₃ cfg.addresses.gasPool ZUSD_GAS_COMPENSATION
        ZUSD_GAS_COMPENSATION = .ok st' := by
  simp only [openTrove] at h
  obtain ⟨_, -, h⟩ := Revert.bind_eq_ok.1 h
  obtain ⟨_, hnotActive, h⟩ := Revert.bind_eq_ok.1 h
  rw [← Revert.ite_bind] at h
  obtain ⟨⟨st₁, fee⟩, hfee, h⟩ := Revert.bind_eq_ok.1 h
  -- the fee: charged in Normal Mode, none in Recovery Mode
  have hfee' : (checkRecoveryMode cfg st st.price = false ∧
        triggerBorrowingFee cfg st ZUSDAmount maxFeePercentage = .ok (st₁, fee)) ∨
      (checkRecoveryMode cfg st st.price = true ∧ st₁ = st ∧ fee = 0) := by
    split at hfee
    · rename_i hmode
      exact .inl ⟨by simpa using hmode, hfee⟩
    · rename_i hmode
      obtain ⟨rfl, rfl⟩ := Prod.mk.inj (Revert.pure_eq_ok.1 hfee)
      exact .inr ⟨by simpa using hmode, rfl, rfl⟩
  obtain ⟨_, hmin, h⟩ := Revert.bind_eq_ok.1 h
  obtain ⟨_, -, h⟩ := Revert.bind_eq_ok.1 h
  simp only [requireTroveisNotActive, requireAtLeastMinNetDebt, Revert.require_eq_ok]
    at hnotActive hmin
  -- the checks of each mode, then the same writes in both
  split at h
  · rename_i hmode
    obtain ⟨_, -, h⟩ := Revert.bind_eq_ok.1 h
    obtain ⟨⟨tm₂, stake⟩, hstake, h⟩ := Revert.bind_eq_ok.1 h
    obtain ⟨sortedTroves, hinsert, h⟩ := Revert.bind_eq_ok.1 h
    obtain ⟨st₃, hmint₁, hmint₂⟩ := Revert.bind_eq_ok.1 h
    exact ⟨hnotActive, st₁, fee, tm₂, stake, sortedTroves, st₃, hfee', hmin,
      fun hnormal => by simp [hnormal] at hmode, hstake, hinsert, hmint₁, hmint₂⟩
  · obtain ⟨_, -, h⟩ := Revert.bind_eq_ok.1 h
    obtain ⟨newTCR, hnew, h⟩ := Revert.bind_eq_ok.1 h
    obtain ⟨_, hcheck, h⟩ := Revert.bind_eq_ok.1 h
    obtain ⟨⟨tm₂, stake⟩, hstake, h⟩ := Revert.bind_eq_ok.1 h
    obtain ⟨sortedTroves, hinsert, h⟩ := Revert.bind_eq_ok.1 h
    obtain ⟨st₃, hmint₁, hmint₂⟩ := Revert.bind_eq_ok.1 h
    simp only [requireNewTCRisAboveCCR, Revert.require_eq_ok] at hcheck
    exact ⟨hnotActive, st₁, fee, tm₂, stake, sortedTroves, st₃, hfee', hmin,
      fun _ => ⟨newTCR, hnew, hcheck⟩, hstake, hinsert, hmint₁, hmint₂⟩

/-- `_adjustSenderTrove` needs a single collateral change and an active trove; it applies the
trove's pending rewards, charges the fee on a debt increase in Normal Mode only, checks the
adjustment against the current mode and a repayment against the minimum net debt; it writes the
trove's amounts and stake, re-inserts it in the list at the ratio of the new amounts, and moves
the ZUSD and the ether. -/
theorem adjustSenderTrove_eq_ok {caller borrower upperHint lowerHint tokensRecipient : Address}
    {value collWithdrawal ZUSDChange maxFeePercentage : ℕ} {isDebtIncrease : Bool}
    (h : adjustSenderTrove cfg st gas caller value borrower collWithdrawal ZUSDChange
      isDebtIncrease upperHint lowerHint maxFeePercentage tokensRecipient = .ok st') :
    (value = 0 ∨ collWithdrawal = 0) ∧ (st.troveManager.Troves borrower).status = .active ∧
    ∃ st₁ st₂ fee oldICR newICR tm₃ tm₄ stake NICR sortedTroves,
      applyPendingRewards st borrower = .ok st₁ ∧
      ((isDebtIncrease = true ∧ checkRecoveryMode cfg st st.price = false ∧
          triggerBorrowingFee cfg st₁ ZUSDChange maxFeePercentage = .ok (st₂, fee)) ∨
        (¬(isDebtIncrease = true ∧ checkRecoveryMode cfg st st.price = false) ∧ st₂ = st₁ ∧
          fee = 0)) ∧
      requireValidAdjustmentInCurrentMode cfg st₂ (checkRecoveryMode cfg st st.price)
        collWithdrawal isDebtIncrease oldICR newICR (getCollChange value collWithdrawal).1
        (getCollChange value collWithdrawal).2 (ZUSDChange + fee) st.price = .ok () ∧
      (isDebtIncrease = false → 0 < ZUSDChange →
        MIN_NET_DEBT + ZUSD_GAS_COMPENSATION + (ZUSDChange + fee) ≤
          (st₂.troveManager.Troves borrower).debt) ∧
      updateTroveFromAdjustment st₂.troveManager borrower (getCollChange value collWithdrawal).1
        (getCollChange value collWithdrawal).2 (ZUSDChange + fee) isDebtIncrease = .ok tm₃ ∧
      updateStakeAndTotalStakes tm₃ borrower = .ok (tm₄, stake) ∧
      getNewNominalICRFromTroveChange (st₂.troveManager.Troves borrower).coll
        (st₂.troveManager.Troves borrower).debt (getCollChange value collWithdrawal).1
        (getCollChange value collWithdrawal).2 (ZUSDChange + fee) isDebtIncrease = .ok NICR ∧
      SortedTroves.reInsert (getNominalICR tm₄) st₂.sortedTroves gas borrower NICR upperHint
        lowerHint = .ok sortedTroves ∧
      moveTokensAndETHfromAdjustment { st₂ with troveManager := tm₄, sortedTroves := sortedTroves }
        caller (getCollChange value collWithdrawal).1 (getCollChange value collWithdrawal).2
        ZUSDChange isDebtIncrease (ZUSDChange + fee) tokensRecipient = .ok st' := by
  simp only [adjustSenderTrove] at h
  -- a debt increase has two checks of its own
  split at h
  on_goal 1 =>
    obtain ⟨_, -, h⟩ := Revert.bind_eq_ok.1 h
    obtain ⟨_, -, h⟩ := Revert.bind_eq_ok.1 h
  all_goals
    obtain ⟨_, hsingular, h⟩ := Revert.bind_eq_ok.1 h
    obtain ⟨_, -, h⟩ := Revert.bind_eq_ok.1 h
    obtain ⟨_, hactive, h⟩ := Revert.bind_eq_ok.1 h
    obtain ⟨_, -, h⟩ := Revert.bind_eq_ok.1 h
    obtain ⟨st₁, hpending, h⟩ := Revert.bind_eq_ok.1 h
    rw [← Revert.ite_bind] at h
    obtain ⟨⟨st₂, fee⟩, hfee, h⟩ := Revert.bind_eq_ok.1 h
    simp only [requireSingularCollChange, requireTroveisActive, Revert.require_eq_ok]
      at hsingular hactive
    -- the fee: charged on a debt increase in Normal Mode, none otherwise
    have hfee' : (isDebtIncrease = true ∧ checkRecoveryMode cfg st st.price = false ∧
          triggerBorrowingFee cfg st₁ ZUSDChange maxFeePercentage = .ok (st₂, fee)) ∨
        (¬(isDebtIncrease = true ∧ checkRecoveryMode cfg st st.price = false) ∧ st₂ = st₁ ∧
          fee = 0) := by
      split at hfee
      · rename_i hcharge
        exact .inl ⟨hcharge.1, by simpa using hcharge.2, hfee⟩
      · rename_i hcharge
        obtain ⟨rfl, rfl⟩ := Prod.mk.inj (Revert.pure_eq_ok.1 hfee)
        exact .inr ⟨by simpa using hcharge, rfl, rfl⟩
    obtain ⟨newICR, -, h⟩ := Revert.bind_eq_ok.1 h
    obtain ⟨_, -, h⟩ := Revert.bind_eq_ok.1 h
    obtain ⟨_, hvalid, h⟩ := Revert.bind_eq_ok.1 h
  -- a repayment has checks of its own
  all_goals
    split at h
    on_goal 1 =>
      rename_i hrepay
      obtain ⟨netDebt, hnet, h⟩ := Revert.bind_eq_ok.1 h
      obtain ⟨left, hsub, h⟩ := Revert.bind_eq_ok.1 h
      obtain ⟨_, hmin, h⟩ := Revert.bind_eq_ok.1 h
      obtain ⟨_, -, h⟩ := Revert.bind_eq_ok.1 h
      obtain ⟨_, -, h⟩ := Revert.bind_eq_ok.1 h
      simp only [getNetDebt, SafeMath.sub_eq_ok, requireAtLeastMinNetDebt,
        Revert.require_eq_ok] at hnet hsub hmin
      have hrepayment : isDebtIncrease = false → 0 < ZUSDChange →
          MIN_NET_DEBT + ZUSD_GAS_COMPENSATION + (ZUSDChange + fee) ≤
            (st₂.troveManager.Troves borrower).debt := fun _ _ => by
        omega
    on_goal 2 =>
      rename_i hnone
      have hrepayment : isDebtIncrease = false → 0 < ZUSDChange →
          MIN_NET_DEBT + ZUSD_GAS_COMPENSATION + (ZUSDChange + fee) ≤
            (st₂.troveManager.Troves borrower).debt := fun hfalse hpos => by
        simp [hfalse, hpos] at hnone
    all_goals
      obtain ⟨tm₃, hupdate, h⟩ := Revert.bind_eq_ok.1 h
      obtain ⟨⟨tm₄, stake⟩, hstake, h⟩ := Revert.bind_eq_ok.1 h
      obtain ⟨NICR, hNICR, h⟩ := Revert.bind_eq_ok.1 h
      obtain ⟨sortedTroves, hreinsert, hmove⟩ := Revert.bind_eq_ok.1 h
      exact ⟨hsingular, hactive, st₁, st₂, fee, _, newICR, tm₃, tm₄, stake, NICR, sortedTroves,
        hpending, hfee', hvalid, hrepayment, hupdate, hstake, hNICR, hreinsert, hmove⟩

/-- `closeTrove` needs an active trove and Normal Mode; it applies the trove's pending rewards,
checks the sender's balance for the debt above the gas compensation and the system's new ratio
against `CCR`, removes the stake, closes the trove, burns the repayment from the sender and the
gas compensation from the gas pool, and sends the collateral back. -/
theorem closeTrove_eq_ok {sender : Address} (h : closeTrove cfg st sender = .ok st') :
    (st.troveManager.Troves sender).status = .active ∧ checkRecoveryMode cfg st st.price = false ∧
    ∃ st₁ newTCR tm st₂ st₃ st₄,
      applyPendingRewards st sender = .ok st₁ ∧
      ZUSD_GAS_COMPENSATION ≤ (st₁.troveManager.Troves sender).debt ∧
      (st₁.troveManager.Troves sender).debt - ZUSD_GAS_COMPENSATION ≤
        st₁.zusdToken.balances sender ∧
      getNewTCRFromTroveChange st₁ (st₁.troveManager.Troves sender).coll false
        (st₁.troveManager.Troves sender).debt false st.price = .ok newTCR ∧
      cfg.params.CCR ≤ newTCR ∧
      removeStake st₁.troveManager sender = .ok tm ∧
      TroveManager.closeTrove { st₁ with troveManager := tm } sender .closedByOwner = .ok st₂ ∧
      burnZusdAndDecreaseActivePoolDebt st₂ sender
        ((st₁.troveManager.Troves sender).debt - ZUSD_GAS_COMPENSATION) = .ok st₃ ∧
      burnZusdAndDecreaseActivePoolDebt st₃ cfg.addresses.gasPool ZUSD_GAS_COMPENSATION =
        .ok st₄ ∧
      (st₁.troveManager.Troves sender).coll ≤ st₄.activePool.ETH ∧
      st' = { st₄ with activePool := { st₄.activePool with
        ETH := st₄.activePool.ETH - (st₁.troveManager.Troves sender).coll } } := by
  simp only [closeTrove, Revert.bind_eq_ok, ActivePool.sendETH_eq_ok, SafeMath.sub_eq_ok,
    Revert.pure_eq_ok] at h
  -- the repayment stays named: substituting it runs into the constant
  obtain ⟨_, hactive, _, hmode, st₁, hpending, repayment, ⟨hgas, hrepayment⟩, _, hbalance, newTCR,
    hnew, _, hcheck, tm, hstake, st₂, hclose, st₃, hburn₁, st₄, hburn₂, _, ⟨hcoll, rfl⟩, rfl⟩ := h
  simp only [requireTroveisActive, requireNotInRecoveryMode, requireSufficientZUSDBalance,
    requireNewTCRisAboveCCR, Revert.require_eq_ok] at hactive hmode hbalance hcheck
  refine ⟨hactive, hmode, st₁, newTCR, tm, st₂, st₃, st₄, hpending, hgas, ?_, hnew, hcheck,
    hstake, hclose, ?_, hburn₂, hcoll, rfl⟩
  · rw [← hrepayment]
    exact hbalance
  · rw [← hrepayment]
    exact hburn₁

end BorrowerOperations

end ZeroProtocol
