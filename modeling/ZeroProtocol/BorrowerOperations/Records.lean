import ZeroProtocol.TroveManager.PendingRewards
import ZeroProtocol.System.CallSpecs

/-!
# What the borrower operations write in the trove records

`openTrove` and `adjustSenderTrove` write one trove's status, collateral and debt, and sort it
in the list at a nominal ratio computed from the new amounts.  Everything else they write in
the trove manager (stakes, reward snapshots, the owners array, the fee state) leaves every
trove's status and amounts as they were: the tables agree in the sense of `SameAmounts`.

The spec lemmas state the fee through `borrowingRateAt`, the rate at which a borrowing from a
state is charged: none in Recovery Mode, and otherwise `_calcBorrowingRate` of the base rate as
`_decayBaseRateFromBorrowing` leaves it.
-/

namespace ZeroProtocol.TroveManager

open LiquityMath

/-- Two tables of troves that agree on every trove's status, collateral and debt. -/
def SameAmounts (T T' : Address → Trove) : Prop :=
  ∀ b, (T' b).status = (T b).status ∧ (T' b).coll = (T b).coll ∧ (T' b).debt = (T b).debt

namespace SameAmounts

variable {T T₁ T₂ T₃ : Address → Trove}

theorem refl (T : Address → Trove) : SameAmounts T T := fun _ => ⟨rfl, rfl, rfl⟩

theorem trans (h₁ : SameAmounts T₁ T₂) (h₂ : SameAmounts T₂ T₃) : SameAmounts T₁ T₃ := fun b =>
  ⟨(h₂ b).1.trans (h₁ b).1, (h₂ b).2.1.trans (h₁ b).2.1, (h₂ b).2.2.trans (h₁ b).2.2⟩

/-- Writing a record with the same status and amounts. -/
theorem update {b : Address} {t : Trove} (hs : t.status = (T b).status) (hc : t.coll = (T b).coll)
    (hd : t.debt = (T b).debt) : SameAmounts T (Function.update T b t) := by
  intro a
  by_cases hab : a = b
  · subst hab
    rw [Function.update_self]
    exact ⟨hs, hc, hd⟩
  · rw [Function.update_of_ne hab]
    exact ⟨rfl, rfl, rfl⟩

end SameAmounts

section Writes

variable {tm tm' : TroveManagerStorage} {borrower : Address}

theorem updateStakeAndTotalStakes_sameAmounts {stake : ℕ}
    (h : updateStakeAndTotalStakes tm borrower = .ok (tm', stake)) :
    SameAmounts tm.Troves tm'.Troves := by
  simp only [updateStakeAndTotalStakes, Revert.bind_eq_ok, SafeMath.sub_eq_ok, Revert.pure_eq_ok,
    Prod.mk.injEq] at h
  obtain ⟨_, -, _, -, rfl, -⟩ := h
  exact SameAmounts.update rfl rfl rfl

theorem removeStake_sameAmounts (h : removeStake tm borrower = .ok tm') :
    SameAmounts tm.Troves tm'.Troves := by
  simp only [removeStake, Revert.bind_eq_ok, SafeMath.sub_eq_ok, Revert.pure_eq_ok] at h
  obtain ⟨_, -, rfl⟩ := h
  exact SameAmounts.update rfl rfl rfl

theorem addTroveOwnerToArray_sameAmounts :
    SameAmounts tm.Troves (addTroveOwnerToArray tm borrower).1.Troves :=
  SameAmounts.update rfl rfl rfl

theorem removeTroveOwner_sameAmounts {length : ℕ} (h : removeTroveOwner tm borrower length = .ok tm') :
    SameAmounts tm.Troves tm'.Troves := by
  simp only [removeTroveOwner, Revert.bind_eq_ok, Revert.assert_eq_ok, SafeMath.sub_eq_ok,
    Revert.pure_eq_ok] at h
  obtain ⟨_, -, _, -, _, -, rfl⟩ := h
  exact SameAmounts.update rfl rfl rfl

end Writes

section Pending

variable {st st' : System} {borrower : Address}

/-- Applying the pending rewards changes nothing, or grows the amounts of the borrower, which is
active, by its two rewards. -/
theorem applyPendingRewards_Troves (h : applyPendingRewards st borrower = .ok st') :
    SameAmounts st.troveManager.Troves st'.troveManager.Troves ∨
      ((st.troveManager.Troves borrower).status = .active ∧
        st'.troveManager.Troves = Function.update st.troveManager.Troves borrower
          { st.troveManager.Troves borrower with
            coll := (st.troveManager.Troves borrower).coll +
              getPendingETHReward st.troveManager borrower
            debt := (st.troveManager.Troves borrower).debt +
              getPendingZUSDDebtReward st.troveManager borrower }) := by
  cases hp : hasPendingRewards st.troveManager borrower with
  | false =>
    rw [applyPendingRewards_of_not_hasPendingRewards hp, Except.ok.injEq] at h
    exact .inl (h ▸ SameAmounts.refl _)
  | true =>
    have hactive : (st.troveManager.Troves borrower).status = .active := by
      simp only [hasPendingRewards, Bool.and_eq_true, beq_iff_eq] at hp
      exact hp.1
    exact .inr ⟨hactive, by rw [applyPendingRewards_troveManager hp h]; rfl⟩

/-- Applying the pending rewards leaves every trove's status. -/
theorem applyPendingRewards_status (h : applyPendingRewards st borrower = .ok st') (b : Address) :
    (st'.troveManager.Troves b).status = (st.troveManager.Troves b).status := by
  rcases applyPendingRewards_Troves h with hsame | ⟨-, hTroves⟩
  · exact (hsame b).1
  · rw [hTroves]
    by_cases hb : b = borrower
    · subst hb
      rw [Function.update_self]
    · rw [Function.update_of_ne hb]

/-- Without pending rewards, applying them leaves every trove's status and amounts. -/
theorem applyPendingRewards_sameAmounts (hETH : getPendingETHReward st.troveManager borrower = 0)
    (hZUSD : getPendingZUSDDebtReward st.troveManager borrower = 0)
    (h : applyPendingRewards st borrower = .ok st') :
    SameAmounts st.troveManager.Troves st'.troveManager.Troves := by
  rcases applyPendingRewards_Troves h with hsame | ⟨-, hTroves⟩
  · exact hsame
  · rw [hTroves, hETH, hZUSD]
    exact SameAmounts.update rfl rfl rfl

/-- Applying the pending rewards leaves the list, the fee state and the clock. -/
theorem applyPendingRewards_frame (h : applyPendingRewards st borrower = .ok st') :
    st'.sortedTroves = st.sortedTroves ∧ st'.troveManager.fees = st.troveManager.fees ∧
      st'.timestamp = st.timestamp := by
  cases hp : hasPendingRewards st.troveManager borrower with
  | false =>
    rw [applyPendingRewards_of_not_hasPendingRewards hp, Except.ok.injEq] at h
    exact h ▸ ⟨rfl, rfl, rfl⟩
  | true =>
    have htm := applyPendingRewards_troveManager hp h
    simp only [applyPendingRewards, hp, if_true, Revert.require_bind_eq_ok] at h
    obtain ⟨-, -, -, rfl⟩ := movePendingTroveRewardsToActivePool_eq_ok.mp h.2
    exact ⟨rfl, by rw [htm]; rfl, rfl⟩

end Pending

end ZeroProtocol.TroveManager

namespace ZeroProtocol.BorrowerOperations

open LiquityMath LiquityBase TroveManager

/-- The rate at which a borrowing from `st` is charged: none in Recovery Mode, and otherwise
`_calcBorrowingRate` of the base rate that `_decayBaseRateFromBorrowing` leaves. -/
def borrowingRateAt (cfg : Config) (st : System) : Except String ℕ :=
  if checkRecoveryMode cfg st st.price then pure 0
  else do
    let fees ← decayBaseRateFromBorrowing st.troveManager.fees st.timestamp
    pure (calcBorrowingRate cfg.params fees.baseRate)

section Frames

variable {cfg : Config} {st st' : System}

/-- Charging the borrowing fee decays the base rate, charges the rate it then gives, and leaves
the troves and the list. -/
theorem triggerBorrowingFee_spec {ZUSDAmount maxFeePercentage fee : ℕ}
    (h : triggerBorrowingFee cfg st ZUSDAmount maxFeePercentage = .ok (st', fee)) :
    ∃ fees, decayBaseRateFromBorrowing st.troveManager.fees st.timestamp = .ok fees ∧
      fee = calcBorrowingRate cfg.params fees.baseRate * ZUSDAmount / DECIMAL_PRECISION ∧
      st'.troveManager.Troves = st.troveManager.Troves ∧ st'.sortedTroves = st.sortedTroves := by
  obtain ⟨fees, zusdToken, hfees, rfl, -, rfl⟩ := triggerBorrowingFee_eq_ok h
  exact ⟨fees, hfees, rfl, rfl, rfl⟩

/-- In Normal Mode, the rate charged is the one `borrowingRateAt` gives. -/
theorem borrowingRateAt_eq {fees : FeeState} {r : ℕ}
    (hmode : checkRecoveryMode cfg st st.price = false)
    (hfees : decayBaseRateFromBorrowing st.troveManager.fees st.timestamp = .ok fees)
    (hr : borrowingRateAt cfg st = .ok r) : r = calcBorrowingRate cfg.params fees.baseRate := by
  simp only [borrowingRateAt, hmode, Bool.false_eq_true, if_false, hfees, Revert.ok_bind,
    Revert.pure_eq_ok] at hr
  exact hr.symm

theorem borrowingRateAt_of_recoveryMode {r : ℕ} (hmode : checkRecoveryMode cfg st st.price = true)
    (hr : borrowingRateAt cfg st = .ok r) : r = 0 := by
  simp only [borrowingRateAt, hmode, if_true, Revert.pure_eq_ok] at hr
  exact hr.symm

theorem mintZusdAndIncreaseActivePoolDebt_frame {account : Address} {ZUSDAmount netDebtIncrease : ℕ}
    (h : mintZusdAndIncreaseActivePoolDebt st account ZUSDAmount netDebtIncrease = .ok st') :
    st'.troveManager = st.troveManager ∧ st'.sortedTroves = st.sortedTroves := by
  simp only [mintZusdAndIncreaseActivePoolDebt, Revert.bind_eq_ok, Revert.pure_eq_ok] at h
  obtain ⟨_, -, rfl⟩ := h
  exact ⟨rfl, rfl⟩

theorem burnZusdAndDecreaseActivePoolDebt_frame {account : Address} {ZUSD : ℕ}
    (h : burnZusdAndDecreaseActivePoolDebt st account ZUSD = .ok st') :
    st'.troveManager = st.troveManager ∧ st'.sortedTroves = st.sortedTroves := by
  simp only [burnZusdAndDecreaseActivePoolDebt, Revert.bind_eq_ok, Revert.pure_eq_ok] at h
  obtain ⟨_, -, _, -, rfl⟩ := h
  exact ⟨rfl, rfl⟩

/-- Moving the tokens and ether of an adjustment touches neither the troves nor the list. -/
theorem moveTokensAndETHfromAdjustment_frame {borrower tokensRecipient : Address}
    {collChange ZUSDChange netDebtChange : ℕ} {isCollIncrease isDebtIncrease : Bool}
    (h : moveTokensAndETHfromAdjustment st borrower collChange isCollIncrease ZUSDChange
      isDebtIncrease netDebtChange tokensRecipient = .ok st') :
    st'.troveManager = st.troveManager ∧ st'.sortedTroves = st.sortedTroves := by
  unfold moveTokensAndETHfromAdjustment at h
  rw [← Revert.ite_bind] at h
  obtain ⟨st₁, h₁, h⟩ := Revert.bind_eq_ok.1 h
  -- the ZUSD is minted or burned first, then the ether moves
  have hframe₁ : st₁.troveManager = st.troveManager ∧ st₁.sortedTroves = st.sortedTroves := by
    split at h₁
    · exact mintZusdAndIncreaseActivePoolDebt_frame h₁
    · exact burnZusdAndDecreaseActivePoolDebt_frame h₁
  split at h
  · rw [Revert.pure_eq_ok] at h
    exact h ▸ hframe₁
  · simp only [Revert.bind_eq_ok, Revert.pure_eq_ok] at h
    obtain ⟨_, -, rfl⟩ := h
    exact hframe₁

end Frames

section Specs

variable {cfg : Config} {st st' : System} {gas : ℕ}

/-- The table a write of one record leaves, read at the written trove and at the others. -/
theorem sameAmounts_update_apply {T T' : Address → Trove} {b : Address} {t : Trove}
    (h : SameAmounts (Function.update T b t) T') :
    ((T' b).status = t.status ∧ (T' b).coll = t.coll ∧ (T' b).debt = t.debt) ∧
      ∀ a ≠ b, (T' a).status = (T a).status ∧ (T' a).coll = (T a).coll ∧ (T' a).debt = (T a).debt := by
  refine ⟨?_, fun a ha => ?_⟩
  · have hb := h b
    rwa [Function.update_self] at hb
  · have ha' := h a
    rwa [Function.update_of_ne ha] at ha'

/-- What a successful `openTrove` records: the sender's trove, which was not active, becomes
active with `value` more collateral and the composite debt more debt, the fee charged at the
rate `borrowingRateAt` gives; it is inserted in the list at the nominal ratio of `value` to the
composite debt; every other trove keeps its status and amounts. -/
theorem openTrove_spec {sender upperHint lowerHint : Address}
    {value maxFeePercentage ZUSDAmount : ℕ}
    (h : openTrove cfg st gas sender value maxFeePercentage ZUSDAmount upperHint lowerHint =
      .ok st') :
    (st.troveManager.Troves sender).status ≠ .active ∧
    ∃ fee, (∀ r, borrowingRateAt cfg st = .ok r → fee = r * ZUSDAmount / DECIMAL_PRECISION) ∧
      (∃ key, SortedTroves.insert key st.sortedTroves gas sender
        (computeNominalCR value (getCompositeDebt (ZUSDAmount + fee))) upperHint lowerHint =
          .ok st'.sortedTroves) ∧
      SameAmounts (Function.update st.troveManager.Troves sender
        { st.troveManager.Troves sender with
          status := .active
          coll := (st.troveManager.Troves sender).coll + value
          debt := (st.troveManager.Troves sender).debt + getCompositeDebt (ZUSDAmount + fee) })
        st'.troveManager.Troves := by
  obtain ⟨hnotActive, st₁, fee, tm₂, stake, sortedTroves, st₃, hfee, -, -, hstake, hinsert, hmint₁,
    hmint₂⟩ := openTrove_eq_ok h
  -- the fee: at the decayed rate in Normal Mode, none in Recovery Mode
  have hfee' : (∀ r, borrowingRateAt cfg st = .ok r → fee = r * ZUSDAmount / DECIMAL_PRECISION) ∧
      st₁.troveManager.Troves = st.troveManager.Troves ∧ st₁.sortedTroves = st.sortedTroves := by
    rcases hfee with ⟨hmode, hfee⟩ | ⟨hmode, rfl, rfl⟩
    · obtain ⟨fees, hfees, rfl, hTroves, hsorted⟩ := triggerBorrowingFee_spec hfee
      refine ⟨fun r hr => ?_, hTroves, hsorted⟩
      rw [borrowingRateAt_eq hmode hfees hr]
    · refine ⟨fun r hr => ?_, rfl, rfl⟩
      rw [borrowingRateAt_of_recoveryMode hmode hr, Nat.zero_mul, Nat.zero_div]
  obtain ⟨hrate, hTroves₁, hsorted₁⟩ := hfee'
  obtain ⟨htm₃, hsorted₃⟩ := mintZusdAndIncreaseActivePoolDebt_frame hmint₁
  obtain ⟨htm', hsorted'⟩ := mintZusdAndIncreaseActivePoolDebt_frame hmint₂
  refine ⟨hnotActive, fee, hrate, ⟨getNominalICR tm₂, ?_⟩, ?_⟩
  · rw [hsorted', hsorted₃, ← hsorted₁]
    exact hinsert
  · -- the stake, the snapshots and the owners array keep the amounts
    rw [htm', htm₃, ← hTroves₁]
    exact (updateStakeAndTotalStakes_sameAmounts hstake).trans addTroveOwnerToArray_sameAmounts

section Adjustment

variable {tm tm' : TroveManagerStorage} {borrower : Address} {collChange debtChange : ℕ}
  {isCollIncrease isDebtIncrease : Bool}

/-- `_updateTroveFromAdjustment` writes, through the trove manager's setters, the two amounts
that `_getNewTroveAmounts` computes from the changes. -/
theorem updateTroveFromAdjustment_eq_ok
    (h : updateTroveFromAdjustment tm borrower collChange isCollIncrease debtChange isDebtIncrease =
      .ok tm') :
    ∃ newColl newDebt, getNewTroveAmounts (tm.Troves borrower).coll (tm.Troves borrower).debt
        collChange isCollIncrease debtChange isDebtIncrease = .ok (newColl, newDebt) ∧
      tm' = tm.updateTrove borrower fun t => { t with coll := newColl, debt := newDebt } := by
  simp only [updateTroveFromAdjustment, Revert.bind_eq_ok, Revert.pure_eq_ok] at h
  obtain ⟨newColl, hcoll, newDebt, hdebt, rfl⟩ := h
  refine ⟨newColl, newDebt, ?_, rfl⟩
  simp only [getNewTroveAmounts, hcoll, hdebt, Revert.ok_bind]
  rfl

theorem updateTroveFromAdjustment_spec
    (h : updateTroveFromAdjustment tm borrower collChange isCollIncrease debtChange isDebtIncrease =
      .ok tm') :
    ∃ newColl newDebt, getNewTroveAmounts (tm.Troves borrower).coll (tm.Troves borrower).debt
        collChange isCollIncrease debtChange isDebtIncrease = .ok (newColl, newDebt) ∧
      tm'.Troves = Function.update tm.Troves borrower
        { tm.Troves borrower with coll := newColl, debt := newDebt } := by
  obtain ⟨newColl, newDebt, hamounts, rfl⟩ := updateTroveFromAdjustment_eq_ok h
  exact ⟨newColl, newDebt, hamounts, rfl⟩

theorem updateTroveFromAdjustment_fees
    (h : updateTroveFromAdjustment tm borrower collChange isCollIncrease debtChange isDebtIncrease =
      .ok tm') : tm'.fees = tm.fees := by
  obtain ⟨newColl, newDebt, -, rfl⟩ := updateTroveFromAdjustment_eq_ok h
  rfl

end Adjustment

theorem getNewNominalICRFromTroveChange_eq {coll debt collChange debtChange newColl newDebt NICR : ℕ}
    {isCollIncrease isDebtIncrease : Bool}
    (hamounts : getNewTroveAmounts coll debt collChange isCollIncrease debtChange isDebtIncrease =
      .ok (newColl, newDebt))
    (h : getNewNominalICRFromTroveChange coll debt collChange isCollIncrease debtChange
      isDebtIncrease = .ok NICR) : NICR = computeNominalCR newColl newDebt := by
  simp only [getNewNominalICRFromTroveChange, hamounts, Revert.ok_bind, Revert.pure_eq_ok] at h
  exact h.symm

/-- What a successful `adjustSenderTrove` records: the borrower's trove is active, and after its
pending rewards are applied (in `st₁`) its collateral and debt become what `_getNewTroveAmounts`
computes from the collateral change and the debt change with its fee, charged on a debt
increase at the rate `borrowingRateAt` gives; it is re-inserted at the nominal ratio of the new
amounts; every other trove keeps its status and amounts. -/
theorem adjustSenderTrove_spec {caller borrower upperHint lowerHint tokensRecipient : Address}
    {value collWithdrawal ZUSDChange maxFeePercentage : ℕ} {isDebtIncrease : Bool}
    (h : adjustSenderTrove cfg st gas caller value borrower collWithdrawal ZUSDChange
      isDebtIncrease upperHint lowerHint maxFeePercentage tokensRecipient = .ok st') :
    ∃ st₁ fee newColl newDebt, applyPendingRewards st borrower = .ok st₁ ∧
      (st₁.troveManager.Troves borrower).status = .active ∧
      (∀ r, borrowingRateAt cfg st = .ok r →
        fee = if isDebtIncrease then r * ZUSDChange / DECIMAL_PRECISION else 0) ∧
      getNewTroveAmounts (st₁.troveManager.Troves borrower).coll
        (st₁.troveManager.Troves borrower).debt (getCollChange value collWithdrawal).1
        (getCollChange value collWithdrawal).2 (ZUSDChange + fee) isDebtIncrease =
          .ok (newColl, newDebt) ∧
      (∃ key, SortedTroves.reInsert key st.sortedTroves gas borrower
        (computeNominalCR newColl newDebt) upperHint lowerHint = .ok st'.sortedTroves) ∧
      SameAmounts (Function.update st₁.troveManager.Troves borrower
        { st₁.troveManager.Troves borrower with coll := newColl, debt := newDebt })
        st'.troveManager.Troves := by
  obtain ⟨-, hactive, st₁, st₂, fee, -, -, tm₃, tm₄, stake, NICR, sortedTroves, hpending, hfee, -, -,
    hupdate, hstake, hNICR, hreinsert, hmove⟩ := adjustSenderTrove_eq_ok h
  obtain ⟨hsorted₁, hfees₁, htime₁⟩ := applyPendingRewards_frame hpending
  -- the fee: at the decayed rate on a debt increase in Normal Mode, none otherwise
  have hfee' : (∀ r, borrowingRateAt cfg st = .ok r →
        fee = if isDebtIncrease then r * ZUSDChange / DECIMAL_PRECISION else 0) ∧
      st₂.troveManager.Troves = st₁.troveManager.Troves ∧ st₂.sortedTroves = st₁.sortedTroves := by
    rcases hfee with ⟨hincrease, hmode, hfee⟩ | ⟨hcharge, rfl, rfl⟩
    · obtain ⟨fees, hdecay, rfl, hTroves, hsorted⟩ := triggerBorrowingFee_spec hfee
      rw [hfees₁, htime₁] at hdecay
      refine ⟨fun r hr => ?_, hTroves, hsorted⟩
      rw [if_pos hincrease, borrowingRateAt_eq hmode hdecay hr]
    · refine ⟨fun r hr => ?_, rfl, rfl⟩
      -- without a fee, a debt increase is one in Recovery Mode
      by_cases hmode : checkRecoveryMode cfg st st.price = true
      · rw [borrowingRateAt_of_recoveryMode hmode hr, Nat.zero_mul, Nat.zero_div, ite_self]
      · have hnot : isDebtIncrease = false := by simpa [hmode] using hcharge
        simp [hnot]
  obtain ⟨hrate, hTroves₂, hsorted₂⟩ := hfee'
  obtain ⟨newColl, newDebt, hamounts, hTroves₃⟩ := updateTroveFromAdjustment_spec hupdate
  have hNICR' := getNewNominalICRFromTroveChange_eq hamounts hNICR
  obtain ⟨htm', hsorted'⟩ := moveTokensAndETHfromAdjustment_frame hmove
  rw [hTroves₂] at hamounts hTroves₃
  refine ⟨st₁, fee, newColl, newDebt, hpending, ?_, hrate, hamounts, ⟨getNominalICR tm₄, ?_⟩, ?_⟩
  · rw [applyPendingRewards_status hpending, hactive]
  · rw [hsorted', ← hsorted₁, ← hsorted₂, ← hNICR']
    exact hreinsert
  · rw [htm', ← hTroves₃]
    exact updateStakeAndTotalStakes_sameAmounts hstake

end Specs

end ZeroProtocol.BorrowerOperations
