import ZeroProtocol.BorrowerOperations.Records
import ZeroProtocol.TroveManager.LiquidationAccounting
import ZeroProtocol.System.Totals

/-!
# Induction rules for liquidation and redemption calls

A liquidation call writes the trove records and the sorted list in two ways only.  It closes
troves (`_closeTrove`), and it moves pending rewards and stakes, which keep every trove's status,
amounts and array index and the owners array (`SameSlots`) and leave the list alone.  The pools,
the surplus pool and the call's tail write neither.  So a property of the system that reads the
records' status, amounts and array indices, the owners array and the list, and that closing a
trove keeps (`ClosingInvariant`),
holds after every successful liquidation call that starts from a state where it holds.  This is
proved once here, by the sequences' induction rules, for any such property; a system invariant
about the troves then has to show only what `_closeTrove` does to it.

A redemption call walks the list, applying each trove's pending rewards and redeeming from it,
and then sets the fee state and moves ether and ZUSD.  A property that those steps keep holds
after the call (`redeemCollateral_induction`).

Every other call writes no trove and not the list, or is a borrower operation.  So a property that
liquidations keep holds after every call once opening, adjusting and closing a trove, applying
pending rewards and redeeming from a trove keep it (`ClosingInvariant.run`).
-/

namespace ZeroProtocol.TroveManager

open LiquityMath LiquityBase

/-- Two trove managers with the same owners array and the same recorded array indices. -/
structure SameOwners (tm tm' : TroveManagerStorage) : Prop where
  arrayIndex : ∀ b, (tm'.Troves b).arrayIndex = (tm.Troves b).arrayIndex
  TroveOwners : tm'.TroveOwners = tm.TroveOwners

namespace SameOwners

variable {tm₁ tm₂ tm₃ : TroveManagerStorage}

theorem refl (tm : TroveManagerStorage) : SameOwners tm tm := ⟨fun _ => rfl, rfl⟩

theorem trans (h₁ : SameOwners tm₁ tm₂) (h₂ : SameOwners tm₂ tm₃) : SameOwners tm₁ tm₃ :=
  ⟨fun b => (h₂.arrayIndex b).trans (h₁.arrayIndex b), h₂.TroveOwners.trans h₁.TroveOwners⟩

/-- Writing one record with its array index kept. -/
theorem update {borrower : Address} {t : Trove}
    (hTroves : tm₂.Troves = Function.update tm₁.Troves borrower t)
    (ht : t.arrayIndex = (tm₁.Troves borrower).arrayIndex)
    (hOwners : tm₂.TroveOwners = tm₁.TroveOwners) : SameOwners tm₁ tm₂ := by
  refine ⟨fun b => ?_, hOwners⟩
  rw [hTroves, Function.update_apply]
  split_ifs with hb
  · rw [hb, ht]
  · rfl

end SameOwners

/-- Two trove managers that also agree on every trove's status and amounts: what moving rewards
and removing a stake keep. -/
structure SameSlots (tm tm' : TroveManagerStorage) : Prop extends SameOwners tm tm' where
  amounts : SameAmounts tm.Troves tm'.Troves

theorem SameSlots.of_eq {tm tm' : TroveManagerStorage} (hTroves : tm'.Troves = tm.Troves)
    (hOwners : tm'.TroveOwners = tm.TroveOwners) : SameSlots tm tm' where
  arrayIndex b := by rw [hTroves]
  TroveOwners := hOwners
  amounts := hTroves ▸ SameAmounts.refl _

theorem removeStake_sameSlots {tm tm' : TroveManagerStorage} {borrower : Address}
    (h : removeStake tm borrower = .ok tm') : SameSlots tm tm' := by
  have hamounts := removeStake_sameAmounts h
  simp only [removeStake, Revert.bind_eq_ok, SafeMath.sub_eq_ok, Revert.pure_eq_ok] at h
  obtain ⟨_, -, rfl⟩ := h
  exact { toSameOwners := SameOwners.update rfl rfl rfl, amounts := hamounts }

/-- A property of the system that depends on the troves' status, amounts and array indices, the
owners array and the sorted list only, and that `_closeTrove` keeps. -/
structure ClosingInvariant (I : System → Prop) : Prop where
  frame : ∀ {st st' : System}, SameSlots st.troveManager st'.troveManager →
    st'.sortedTroves = st.sortedTroves → I st → I st'
  closeTrove : ∀ {st st' : System} {borrower : Address} {status : Status},
    closeTrove st borrower status = .ok st' → I st → I st'

namespace ClosingInvariant

variable {I : System → Prop} {cfg : Config} {st st' : System} {borrower : Address}

/-- A stretch that writes neither the records, the owners array nor the list keeps the
property. -/
theorem of_eq (hI : ClosingInvariant I) (h : I st)
    (hTroves : st'.troveManager.Troves = st.troveManager.Troves)
    (hOwners : st'.troveManager.TroveOwners = st.troveManager.TroveOwners)
    (hsorted : st'.sortedTroves = st.sortedTroves) : I st' :=
  hI.frame (SameSlots.of_eq hTroves hOwners) hsorted h

/-! ## One trove -/

theorem withdrawPendingAndStake (hI : ClosingInvariant I) {ZUSD ETH : ℕ}
    (h : withdrawPendingAndStake st borrower ZUSD ETH = .ok st') (hst : I st) : I st' := by
  simp only [TroveManager.withdrawPendingAndStake, Revert.bind_eq_ok, Revert.pure_eq_ok] at h
  obtain ⟨st₁, hmove, tm, hstake, rfl⟩ := h
  -- the rewards move between the pools; the stake leaves the amounts
  obtain ⟨-, htm, hsorted, -⟩ := movePendingTroveRewardsToActivePool_keeps hmove
  refine hI.frame ?_ hsorted hst
  rw [← htm]
  exact removeStake_sameSlots hstake

theorem liquidateNormalMode (hI : ClosingInvariant I) {ZUSDInStabPool : ℕ}
    {v : LiquidationValues}
    (h : liquidateNormalMode cfg st borrower ZUSDInStabPool = .ok (st', v)) (hst : I st) :
    I st' := by
  unfold TroveManager.liquidateNormalMode at h
  generalize getEntireDebtAndColl st.troveManager borrower = entire at h
  obtain ⟨debt, coll, pendingDebt, pendingColl⟩ := entire
  simp only [Revert.bind_eq_ok, SafeMath.sub_eq_ok, Revert.pure_eq_ok, Prod.mk.injEq] at h
  obtain ⟨st₁, hwithdraw, _, -, _, -, st₂, hclose, rfl, -⟩ := h
  exact hI.closeTrove hclose (hI.withdrawPendingAndStake hwithdraw hst)

theorem liquidateRecoveryMode (hI : ClosingInvariant I) {ICR ZUSDInStabPool TCR price : ℕ}
    {v : LiquidationValues}
    (h : liquidateRecoveryMode cfg st borrower ICR ZUSDInStabPool TCR price = .ok (st', v))
    (hst : I st) : I st' := by
  unfold TroveManager.liquidateRecoveryMode at h
  generalize getEntireDebtAndColl st.troveManager borrower = entire at h
  obtain ⟨debt, coll, pendingDebt, pendingColl⟩ := entire
  split_ifs at h
  · -- the last trove is left alone
    obtain ⟨rfl, -⟩ := Prod.mk.inj (Revert.pure_eq_ok.1 h)
    exact hst
  · simp only [Revert.bind_eq_ok, SafeMath.sub_eq_ok, Revert.pure_eq_ok, Prod.mk.injEq] at h
    obtain ⟨_, -, st₁, hwithdraw, st₂, hclose, rfl, -⟩ := h
    exact hI.closeTrove hclose (hI.withdrawPendingAndStake hwithdraw hst)
  · simp only [Revert.bind_eq_ok, SafeMath.sub_eq_ok, Revert.pure_eq_ok, Prod.mk.injEq] at h
    obtain ⟨_, -, st₁, hwithdraw, _, -, st₂, hclose, rfl, -⟩ := h
    exact hI.closeTrove hclose (hI.withdrawPendingAndStake hwithdraw hst)
  simp only [Revert.bind_eq_ok, SafeMath.sub_eq_ok] at h
  obtain ⟨_, -, h⟩ := h
  split_ifs at h
  · -- the capped offset: rewards and stake out, the trove closed, the surplus credited
    simp only [Revert.bind_eq_ok, Revert.assert_eq_ok, Revert.pure_eq_ok, Prod.mk.injEq] at h
    obtain ⟨st₁, hmove, _, -, tm, hstake, _, -, st₂, hclose, rfl, -⟩ := h
    obtain ⟨-, htm, hsorted, -⟩ := movePendingTroveRewardsToActivePool_keeps hmove
    have hst₁ : I { st₁ with troveManager := tm } :=
      hI.frame (htm ▸ removeStake_sameSlots hstake) hsorted hst
    have hst₂ := hI.closeTrove hclose hst₁
    -- a surplus, if any, is credited in the surplus pool
    split_ifs <;> exact hI.of_eq hst₂ rfl rfl rfl
  · obtain ⟨rfl, -⟩ := Prod.mk.inj (Revert.pure_eq_ok.1 h)
    exact hst

/-! ## Sequences and calls -/

variable {price : ℕ} {totals totals' : LiquidationTotals}

theorem sequenceNormalStep (hI : ClosingInvariant I) {remaining remaining' : ℕ}
    (h : sequenceNormalStep cfg st borrower remaining totals = .ok (st', remaining', totals'))
    (hst : I st) : I st' := by
  simp only [TroveManager.sequenceNormalStep, Revert.bind_eq_ok] at h
  obtain ⟨⟨st₁, v⟩, hliquidate, h⟩ := h
  simp only [SafeMath.sub_eq_ok, Revert.pure_eq_ok, Prod.mk.injEq] at h
  obtain ⟨_, -, rfl, -, -⟩ := h
  exact hI.liquidateNormalMode hliquidate hst

theorem sequenceRecoveryStep (hI : ClosingInvariant I)
    {collDrop : LiquidationValues → Except String ℕ} {ICR : ℕ} {vars vars' : SequenceVars}
    (h : sequenceRecoveryStep cfg price collDrop st borrower ICR vars totals =
      .ok (st', vars', totals'))
    (hst : I st) : I st' := by
  simp only [TroveManager.sequenceRecoveryStep, Revert.bind_eq_ok] at h
  obtain ⟨⟨st₁, v⟩, hliquidate, h⟩ := h
  simp only [SafeMath.sub_eq_ok, Revert.pure_eq_ok, Prod.mk.injEq] at h
  obtain ⟨_, -, _, -, _, -, rfl, -, -⟩ := h
  exact hI.liquidateRecoveryMode hliquidate hst

variable {liquidator : Address}

/-- The tail of a liquidation writes neither the records nor the list. -/
theorem finishLiquidation (hI : ClosingInvariant I) {st₁ : System} {remaining : ℕ}
    {log : List (Address × LiquidationValues)}
    (hacc : SequenceAccounts st st₁ remaining totals log)
    (h : finishLiquidation cfg st₁ liquidator totals = .ok st') (hst₁ : I st₁) : I st' :=
  hI.of_eq hst₁ (hacc.finish_flow h).Troves (hacc.finish_flow h).TroveOwners
    (hacc.finish_flow h).sortedTroves

/-- A `liquidateTroves` call keeps the property: each trove of the sequence is closed, in either
mode, and the tail writes no trove. -/
theorem liquidateTroves (hI : ClosingInvariant I) {n : ℕ}
    (h : liquidateTroves cfg st liquidator n = .ok st') (hst : I st) : I st' := by
  obtain ⟨st₁, totals, ⟨-, hsequence⟩ | ⟨-, hsequence⟩, hfinish⟩ := liquidateTroves_cases h
  · obtain ⟨_, _, hacc⟩ :=
      liquidateTrovesSequenceRecoveryMode_accounts (SequenceAccounts.init st) hsequence
    obtain ⟨_, hst₁⟩ := liquidateTrovesSequenceRecoveryMode_induction (I := fun st _ _ => I st)
      (fun hst _ _ hstep => hI.sequenceRecoveryStep hstep hst)
      (fun hst _ _ _ hstep => hI.sequenceNormalStep hstep hst) hst hsequence
    exact hI.finishLiquidation hacc hfinish hst₁
  · obtain ⟨_, _, hacc⟩ :=
      liquidateTrovesSequenceNormalMode_accounts (SequenceAccounts.init st) hsequence
    obtain ⟨_, hst₁⟩ := liquidateTrovesSequenceNormalMode_induction (I := fun st _ _ => I st)
      (fun hst _ hstep => hI.sequenceNormalStep hstep hst) hst hsequence
    exact hI.finishLiquidation hacc hfinish hst₁

/-- A `batchLiquidateTroves` call keeps the property. -/
theorem batchLiquidateTroves (hI : ClosingInvariant I) {troveArray : List Address}
    (h : batchLiquidateTroves cfg st liquidator troveArray = .ok st') (hst : I st) : I st' := by
  obtain ⟨st₁, totals, ⟨-, hsequence⟩ | ⟨-, hsequence⟩, hfinish⟩ := batchLiquidateTroves_cases h
  · obtain ⟨_, _, hacc⟩ :=
      batchLiquidateSequenceRecoveryMode_accounts (SequenceAccounts.init st) hsequence
    obtain ⟨_, hst₁⟩ := batchLiquidateSequenceRecoveryMode_induction (I := fun st _ _ => I st)
      (fun hst _ hstep => hI.sequenceRecoveryStep hstep hst)
      (fun hst _ _ hstep => hI.sequenceNormalStep hstep hst) hst hsequence
    exact hI.finishLiquidation hacc hfinish hst₁
  · obtain ⟨_, _, hacc⟩ :=
      batchLiquidateSequenceNormalMode_accounts (SequenceAccounts.init st) hsequence
    obtain ⟨_, hst₁⟩ := batchLiquidateSequenceNormalMode_induction (I := fun st _ _ => I st)
      (fun hst _ hstep => hI.sequenceNormalStep hstep hst) hst hsequence
    exact hI.finishLiquidation hacc hfinish hst₁

/-- A `liquidate` call is a batch of one trove. -/
theorem liquidate (hI : ClosingInvariant I)
    (h : liquidate cfg st liquidator borrower = .ok st') (hst : I st) : I st' := by
  rw [TroveManager.liquidate, Revert.require_bind_eq_ok] at h
  exact hI.batchLiquidateTroves h.2 hst

/-! ## Closing outside a liquidation -/

/-- A redemption that leaves only the gas compensation removes the trove's stake and closes it;
the burn and the collateral moved to the surplus pool write neither the records nor the list. -/
theorem redeemClosing (hI : ClosingInvariant I) {tm : TroveManagerStorage} {st₂ : System}
    {ZUSD ETH : ℕ} (hstake : removeStake st.troveManager borrower = .ok tm)
    (hclose : TroveManager.closeTrove { st with troveManager := tm } borrower .closedByRedemption =
      .ok st₂)
    (hredeem : redeemCloseTrove cfg st₂ borrower ZUSD ETH = .ok st') (hst : I st) : I st' := by
  have hst₂ := hI.closeTrove hclose (hI.frame (removeStake_sameSlots hstake) rfl hst)
  obtain ⟨htm, hsorted⟩ := redeemCloseTrove_frame hredeem
  exact hI.of_eq hst₂ (by rw [htm]) (by rw [htm]) hsorted

/-- A borrower's `closeTrove`, after the trove's pending rewards, removes its stake and closes it;
the burns and the collateral sent back write neither the records nor the list. -/
theorem borrowerCloseTrove (hI : ClosingInvariant I)
    (hpending : ∀ {st st' : System} {borrower : Address},
      applyPendingRewards st borrower = .ok st' → I st → I st')
    (h : BorrowerOperations.closeTrove cfg st borrower = .ok st') (hst : I st) : I st' := by
  obtain ⟨-, -, st₁, newTCR, tm, st₂, st₃, st₄, hpending₁, -, -, -, -, hstake, hclose, hburn₁,
    hburn₂, -, rfl⟩ := BorrowerOperations.closeTrove_eq_ok h
  have hst₂ := hI.closeTrove hclose
    (hI.frame (removeStake_sameSlots hstake) rfl (hpending hpending₁ hst))
  obtain ⟨htm₃, hsorted₃⟩ := BorrowerOperations.burnZusdAndDecreaseActivePoolDebt_frame hburn₁
  obtain ⟨htm₄, hsorted₄⟩ := BorrowerOperations.burnZusdAndDecreaseActivePoolDebt_frame hburn₂
  exact hI.of_eq hst₂ (by rw [← htm₃, ← htm₄]) (by rw [← htm₃, ← htm₄])
    (by rw [← hsorted₃, ← hsorted₄])

end ClosingInvariant

/-! ## The redemption walk -/

section Redemptions

variable {I : System → Prop} {cfg : Config} {gas price : ℕ} {upperHint lowerHint : Address}
  {NICR : ℕ}

/-- **Induction rule** for a redemption call: the walk, and then the writes of the fee state, the
ZUSD ledger and the active pool. -/
theorem redeemCollateral_induction {st st' : System}
    {sender firstHint : Address} {ZUSDamount maxIterations maxFeePercentage : ℕ}
    (hpending : ∀ {st st' : System} {borrower : Address},
      applyPendingRewards st borrower = .ok st' → I st → I st')
    (hredeem : ∀ {st st' : System} {borrower : Address} {maxZUSDamount price : ℕ}
      {v : SingleRedemptionValues},
      redeemCollateralFromTrove cfg st gas borrower maxZUSDamount price upperHint lowerHint NICR =
        .ok (st', v) → I st → I st')
    (htail : ∀ {st : System} {fees : FeeState} {zusdToken : Ledger Address}
      {activePool : ActivePool}, I st →
      I { st with
        troveManager := { st.troveManager with fees := fees }, zusdToken := zusdToken,
        activePool := activePool })
    (h : redeemCollateral cfg st gas sender ZUSDamount firstHint upperHint lowerHint NICR
      maxIterations maxFeePercentage = .ok st')
    (hst : I st) : I st' := by
  obtain ⟨currentBorrower, st₁, totals, fees, newBaseRate, ETHFee, zusdToken, hloop, -, -, -, -, -,
    -, -, rfl⟩ := redeemCollateral_eq_ok h
  have hst₁ := redeemLoop_induction (J := fun st _ => I st) hpending
    (fun hredeem₁ hst => ⟨fun _ => hredeem hredeem₁ hst, fun _ => hredeem hredeem₁ hst⟩) hloop hst
  exact htail hst₁

end Redemptions

/-! ## One call -/

section Calls

variable {I : System → Prop} {cfg : Config}

/-- **Induction rule** for one call: a property that liquidations keep holds after every call
once the borrower operations, applying pending rewards and redeeming from a trove keep it. -/
theorem ClosingInvariant.run (hI : ClosingInvariant I)
    (hopen : ∀ {st st' : System} {gas : ℕ} {sender upperHint lowerHint : Address}
      {value maxFeePercentage ZUSDAmount : ℕ},
      BorrowerOperations.openTrove cfg st gas sender value maxFeePercentage ZUSDAmount upperHint
        lowerHint = .ok st' → I st → I st')
    (hadjust : ∀ {st st' : System} {gas : ℕ}
      {caller borrower upperHint lowerHint tokensRecipient : Address}
      {value collWithdrawal ZUSDChange maxFeePercentage : ℕ} {isDebtIncrease : Bool},
      BorrowerOperations.adjustSenderTrove cfg st gas caller value borrower collWithdrawal
        ZUSDChange isDebtIncrease upperHint lowerHint maxFeePercentage tokensRecipient = .ok st' →
      I st → I st')
    (hclose : ∀ {st st' : System} {sender : Address},
      BorrowerOperations.closeTrove cfg st sender = .ok st' → I st → I st')
    (hpending : ∀ {st st' : System} {borrower : Address},
      applyPendingRewards st borrower = .ok st' → I st → I st')
    (hredeem : ∀ {st st' : System} {gas : ℕ} {borrower upperHint lowerHint : Address}
      {maxZUSDamount price NICR : ℕ} {v : SingleRedemptionValues},
      redeemCollateralFromTrove cfg st gas borrower maxZUSDamount price upperHint lowerHint NICR =
        .ok (st', v) → I st → I st')
    {st st' : System} {op : Op} {gas : ℕ} (h : op.run cfg gas st = .ok st') (hst : I st) :
    I st' := by
  cases op with
  | openTrove => exact hopen h hst
  | adjustTrove => exact hadjust h hst
  | addColl | withdrawColl | withdrawZUSD | repayZUSD =>
    simp only [Op.run, BorrowerOperations.addColl, BorrowerOperations.withdrawColl,
      BorrowerOperations.withdrawZUSD, BorrowerOperations.repayZUSD] at h
    exact hadjust h hst
  | closeTrove => exact hclose h hst
  | claimCollateral =>
    simp only [Op.run, BorrowerOperations.claimCollateral, Revert.bind_eq_ok,
      Revert.pure_eq_ok] at h
    obtain ⟨_, -, rfl⟩ := h
    exact hI.of_eq hst rfl rfl rfl
  | liquidate => exact hI.liquidate h hst
  | liquidateTroves => exact hI.liquidateTroves h hst
  | batchLiquidateTroves => exact hI.batchLiquidateTroves h hst
  | redeemCollateral =>
    exact redeemCollateral_induction hpending hredeem (fun hst => hI.of_eq hst rfl rfl rfl) h hst
  | provideToSP =>
    obtain ⟨ci, sp, zusdToken, rfl, -⟩ := StabilityPool.provideToSP_eq_ok h
    exact hI.of_eq hst rfl rfl rfl
  | withdrawFromSP =>
    obtain ⟨ci, sp, zusdToken, rfl, -⟩ := StabilityPool.withdrawFromSpTo_eq_ok h
    exact hI.of_eq hst rfl rfl rfl
  | withdrawETHGainToTrove =>
    -- the pool's part writes no trove; the gain then comes into the trove as an adjustment
    obtain ⟨ci, sp, gain, -, hmove⟩ := StabilityPool.withdrawETHGainToTrove_eq_ok h
    exact hadjust hmove (hI.of_eq hst rfl rfl rfl)
  | registerFrontEnd =>
    obtain ⟨sp, rfl, -⟩ := StabilityPool.registerFrontEnd_eq_ok h
    exact hI.of_eq hst rfl rfl rfl
  | approveZERO | receiveZero =>
    simp only [Op.run, Revert.bind_eq_ok, Revert.pure_eq_ok] at h
    obtain ⟨_, -, rfl⟩ := h
    exact hI.of_eq hst rfl rfl rfl
  | setPrice | advanceTime =>
    rw [Op.run, Revert.pure_eq_ok] at h
    subst h
    exact hI.of_eq hst rfl rfl rfl

end Calls

end ZeroProtocol.TroveManager
