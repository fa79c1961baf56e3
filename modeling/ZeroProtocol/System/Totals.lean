import ZeroProtocol.System.ClosedTroves
import ZeroProtocol.StabilityPool.Compounding
import ZeroProtocol.Lib.LedgerMoves

/-!
# What each call does to the system's totals

Every call moves the ether of the active and default pools, their debt and the ZUSD supply by
amounts it computes (`Shift`).  ZUSD is minted only together with the same amount of debt in the
active pool, the borrowing fee included, and burned only together with the same amount of debt
taken off: the supply equals the debt of the two pools in every state the system reaches
(`reachable_totalSupply_eq`).

A borrower operation in Normal Mode checks the system's ratio after the change it is about to
make, computed from the pools' totals before it; the totals it then leaves are exactly those.
So no borrower operation takes the system from Normal Mode into Recovery Mode
(`borrowerOperation_keeps_normalMode`).  In Recovery Mode the check reads only the trove's own
ratios, rounded down to eighteen digits: it forbids a collateral withdrawal, and a debt increase
must leave the trove's ratio at least `CCR` and not below the old one.  A debt increase too small
to move the trove's rounded ratio passes it and lowers the system's ratio
(`recoveryMode_draw_lowers_TCR`).
-/

namespace ZeroProtocol

open LiquityMath LiquityBase

/-- How a stretch of a call moves the system's totals, as integers: the ether of the active and
default pools together by `coll`, their debt by `debt` and the ZUSD supply by `supply`.  The
ZUSD ledger moves by its own mints, burns and transfers; the price and the Stability Pool
stay. -/
structure Shift (st st' : System) (coll debt supply : ℤ) : Prop where
  coll : (getEntireSystemColl st' : ℤ) = getEntireSystemColl st + coll
  debt : (getEntireSystemDebt st' : ℤ) = getEntireSystemDebt st + debt
  supply : (st'.zusdToken.totalSupply : ℤ) = st.zusdToken.totalSupply + supply
  moves : Ledger.Moves st.zusdToken st'.zusdToken
  price : st'.price = st.price
  stabilityPool : st'.stabilityPool = st.stabilityPool

namespace Shift

variable {st₁ st₂ st₃ : System} {c₁ d₁ s₁ c₂ d₂ s₂ : ℤ}

theorem refl (st : System) : Shift st st 0 0 0 :=
  ⟨(add_zero _).symm, (add_zero _).symm, (add_zero _).symm, Ledger.Moves.refl _, rfl, rfl⟩

theorem trans (h₁ : Shift st₁ st₂ c₁ d₁ s₁) (h₂ : Shift st₂ st₃ c₂ d₂ s₂) :
    Shift st₁ st₃ (c₁ + c₂) (d₁ + d₂) (s₁ + s₂) where
  coll := by rw [h₂.coll, h₁.coll, add_assoc]
  debt := by rw [h₂.debt, h₁.debt, add_assoc]
  supply := by rw [h₂.supply, h₁.supply, add_assoc]
  moves := h₁.moves.trans h₂.moves
  price := h₂.price.trans h₁.price
  stabilityPool := h₂.stabilityPool.trans h₁.stabilityPool

theorem congr (h : Shift st₁ st₂ c₁ d₁ s₁) (hc : c₁ = c₂) (hd : d₁ = d₂) (hs : s₁ = s₂) :
    Shift st₁ st₂ c₂ d₂ s₂ := by
  subst hc hd hs
  exact h

/-- A stretch that keeps the totals and the ZUSD ledger. -/
theorem of_eq (hcoll : getEntireSystemColl st₂ = getEntireSystemColl st₁)
    (hdebt : getEntireSystemDebt st₂ = getEntireSystemDebt st₁)
    (hzusd : st₂.zusdToken = st₁.zusdToken)
    (hprice : st₂.price = st₁.price) (hsp : st₂.stabilityPool = st₁.stabilityPool) :
    Shift st₁ st₂ 0 0 0 where
  coll := by rw [hcoll, add_zero]
  debt := by rw [hdebt, add_zero]
  supply := by rw [hzusd, add_zero]
  moves := hzusd ▸ Ledger.Moves.refl _
  price := hprice
  stabilityPool := hsp

/-- A stretch that writes neither the pools nor the ZUSD ledger. -/
theorem of_frame (hactive : st₂.activePool = st₁.activePool)
    (hdefault : st₂.defaultPool = st₁.defaultPool)
    (hzusd : st₂.zusdToken = st₁.zusdToken)
    (hprice : st₂.price = st₁.price) (hsp : st₂.stabilityPool = st₁.stabilityPool) :
    Shift st₁ st₂ 0 0 0 :=
  of_eq (by rw [getEntireSystemColl, getEntireSystemColl, hactive, hdefault])
    (by rw [getEntireSystemDebt, getEntireSystemDebt, hactive, hdefault]) hzusd hprice hsp

/-- Sending ether out of the active pool. -/
theorem sendETH {ETH : ℕ} (hle : ETH ≤ st₁.activePool.ETH) :
    Shift st₁ { st₁ with activePool := { st₁.activePool with ETH := st₁.activePool.ETH - ETH } }
      (-ETH) 0 0 := by
  refine ⟨?_, ?_, ?_, Ledger.Moves.refl _, rfl, rfl⟩
  all_goals simp [getEntireSystemColl, getEntireSystemDebt]
  omega

/-- A stretch that moves nothing takes out no ether and no debt. -/
theorem exists_neg_of_zero (h : Shift st₁ st₂ 0 0 0) :
    ∃ ETH ZUSD : ℕ, Shift st₁ st₂ (-ETH) (-ZUSD) (-ZUSD) :=
  ⟨0, 0, by simpa using h⟩

/-- Two stretches that each take out ether and debt, and burn that debt, take out their sums. -/
theorem exists_neg_trans (h₁ : ∃ ETH ZUSD : ℕ, Shift st₁ st₂ (-ETH) (-ZUSD) (-ZUSD))
    (h₂ : ∃ ETH ZUSD : ℕ, Shift st₂ st₃ (-ETH) (-ZUSD) (-ZUSD)) :
    ∃ ETH ZUSD : ℕ, Shift st₁ st₃ (-ETH) (-ZUSD) (-ZUSD) := by
  obtain ⟨ETH₁, ZUSD₁, h₁⟩ := h₁
  obtain ⟨ETH₂, ZUSD₂, h₂⟩ := h₂
  exact ⟨ETH₁ + ETH₂, ZUSD₁ + ZUSD₂, (h₁.trans h₂).congr (by push_cast; ring) (by push_cast; ring)
    (by push_cast; ring)⟩

/-- The supply less the debt of the two pools stays when both move by the same amount. -/
theorem totalSupply_sub_debt (h : Shift st₁ st₂ c₁ d₁ d₁) :
    (st₂.zusdToken.totalSupply : ℤ) - getEntireSystemDebt st₂ =
      st₁.zusdToken.totalSupply - getEntireSystemDebt st₁ := by
  rw [h.supply, h.debt]
  ring

/-- The system's ratio after a shift is the ratio of the shifted totals. -/
theorem getTCR_eq (h : Shift st₁ st₂ c₁ d₁ s₁) {C D price : ℕ}
    (hC : (C : ℤ) = getEntireSystemColl st₁ + c₁) (hD : (D : ℤ) = getEntireSystemDebt st₁ + d₁) :
    getTCR st₂ price = computeCR C D price := by
  have hcoll : getEntireSystemColl st₂ = C := by have := h.coll; omega
  have hdebt : getEntireSystemDebt st₂ = D := by have := h.debt; omega
  rw [getTCR, hcoll, hdebt]

end Shift

/-- A change to an amount, up or down as `isIncrease` says, as an integer. -/
def signedChange (change : ℕ) (isIncrease : Bool) : ℤ :=
  if isIncrease then change else -change

@[simp] theorem signedChange_true (change : ℕ) : signedChange change true = change := rfl

@[simp] theorem signedChange_false (change : ℕ) : signedChange change false = -change := rfl

/-- A fee charged only on an increase adds to the change. -/
theorem fee_add_signedChange {change fee : ℕ} {isIncrease : Bool}
    (hfee : isIncrease = false → fee = 0) :
    (fee : ℤ) + signedChange change isIncrease = signedChange (change + fee) isIncrease := by
  cases isIncrease with
  | true => simp only [signedChange_true]; push_cast; ring
  | false => simp [hfee rfl]

namespace TroveManager

variable {cfg : Config} {st st' : System} {borrower : Address}

/-- Applying a trove's pending rewards moves them from the default pool to the active pool: the
totals stay. -/
theorem applyPendingRewards_shift (h : applyPendingRewards st borrower = .ok st') :
    Shift st st' 0 0 0 := by
  cases hp : hasPendingRewards st.troveManager borrower with
  | false =>
    rw [applyPendingRewards_of_not_hasPendingRewards hp, Except.ok.injEq] at h
    exact h ▸ Shift.refl st
  | true =>
    simp only [applyPendingRewards, hp, if_true, Revert.require_bind_eq_ok] at h
    obtain ⟨hZUSD, hETH, rfl⟩ := movePendingTroveRewardsToActivePool_eq_ok.mp h.2
    dsimp only at hZUSD hETH
    refine Shift.of_eq ?_ ?_ rfl rfl rfl
    · show st.activePool.ETH + _ + (st.defaultPool.ETH - _) = _
      rw [getEntireSystemColl]
      omega
    · show st.activePool.ZUSDDebt + _ + (st.defaultPool.ZUSDDebt - _) = _
      rw [getEntireSystemDebt]
      omega

/-- Closing a trove writes the trove manager and the list only. -/
theorem closeTrove_shift {status : Status} (h : closeTrove st borrower status = .ok st') :
    Shift st st' 0 0 0 := by
  obtain ⟨tm', sortedTroves, rfl, -⟩ := closeTrove_spec h
  exact Shift.of_frame rfl rfl rfl rfl rfl

section Redemptions

variable {gas price : ℕ}

/-- Closing a trove by redemption burns the gas compensation from the gas pool with its debt, and
moves the trove's collateral out to the surplus pool. -/
theorem redeemCloseTrove_shift {ZUSD ETH : ℕ}
    (h : redeemCloseTrove cfg st borrower ZUSD ETH = .ok st') :
    Shift st st' (-ETH) (-ZUSD) (-ZUSD) := by
  simp only [redeemCloseTrove, Revert.bind_eq_ok, ZUSDToken.burn_eq_ok,
    ActivePool.decreaseZUSDDebt_eq_ok, ActivePool.sendETH_eq_ok, Revert.pure_eq_ok] at h
  obtain ⟨l, ⟨-, hburn⟩, _, ⟨hdebt, rfl⟩, _, ⟨hETH, rfl⟩, rfl⟩ := h
  obtain ⟨hsupply, hcovered⟩ := Ledger.burn_totalSupply hburn
  dsimp only at hETH
  refine ⟨?_, ?_, ?_, Ledger.Moves.burn hburn, rfl, rfl⟩
  all_goals simp [getEntireSystemColl, getEntireSystemDebt, hsupply]
  all_goals omega

/-- Redeeming from one trove takes ether and debt out of the pools only when it closes the trove,
and then burns exactly the debt it takes; a partial redemption writes the trove alone, its ether
and debt leave with the whole redemption's. -/
theorem redeemCollateralFromTrove_shift {maxZUSDamount NICR : ℕ} {upperHint lowerHint : Address}
    {v : SingleRedemptionValues}
    (h : redeemCollateralFromTrove cfg st gas borrower maxZUSDamount price upperHint lowerHint
      NICR = .ok (st', v)) :
    ∃ ETH ZUSD : ℕ, Shift st st' (-ETH) (-ZUSD) (-ZUSD) := by
  obtain ⟨-, -, -, -, -, hcases⟩ := redeemCollateralFromTrove_eq_ok h
  rcases hcases with ⟨-, -, tm, st₂, -, hclose, hredeem⟩ | ⟨-, rfl⟩ |
    ⟨-, -, -, sortedTroves, tm, stake, -, -, rfl⟩
  · have hstake : Shift st { st with troveManager := tm } 0 0 0 :=
      Shift.of_frame rfl rfl rfl rfl rfl
    exact ⟨_, ZUSD_GAS_COMPENSATION, ((hstake.trans (closeTrove_shift hclose)).trans
      (redeemCloseTrove_shift hredeem)).congr (by ring) (by ring) (by ring)⟩
  · -- a cancelled partial redemption writes nothing
    exact Shift.exists_neg_of_zero (Shift.refl _)
  · -- a partial redemption writes the trove and the list only
    exact Shift.exists_neg_of_zero (Shift.of_frame rfl rfl rfl rfl rfl)

/-- **Run lemma** for the redemption walk, by its induction rule: it takes ether and debt out and
burns exactly that debt. -/
theorem redeemLoop_shift {upperHint lowerHint : Address} {NICR maxIterations : ℕ}
    {currentBorrower : Address} {totals totals' : RedemptionTotals}
    (h : redeemLoop cfg gas price upperHint lowerHint NICR maxIterations st currentBorrower
      totals = .ok (st', totals')) :
    ∃ ETH ZUSD : ℕ, Shift st st' (-ETH) (-ZUSD) (-ZUSD) :=
  redeemLoop_induction (J := fun s _ => ∃ ETH ZUSD : ℕ, Shift st s (-ETH) (-ZUSD) (-ZUSD))
    (fun hpending hJ =>
      Shift.exists_neg_trans hJ (Shift.exists_neg_of_zero (applyPendingRewards_shift hpending)))
    (fun hredeem hJ => ⟨fun _ => Shift.exists_neg_trans hJ (redeemCollateralFromTrove_shift hredeem),
      fun _ => Shift.exists_neg_trans hJ (redeemCollateralFromTrove_shift hredeem)⟩)
    h (Shift.exists_neg_of_zero (Shift.refl st))

/-- A redemption takes ether out of the active pool and burns the ZUSD it redeems with the same
debt. -/
theorem redeemCollateral_shift {sender firstHint upperHint lowerHint : Address}
    {ZUSDamount NICR maxIterations maxFeePercentage : ℕ}
    (h : redeemCollateral cfg st gas sender ZUSDamount firstHint upperHint lowerHint NICR
      maxIterations maxFeePercentage = .ok st') :
    ∃ ETH ZUSD : ℕ, Shift st st' (-ETH) (-ZUSD) (-ZUSD) := by
  obtain ⟨currentBorrower, st₁, totals, fees, newBaseRate, ETHFee, zusdToken, hloop, -, -, -, -,
    hETH, hdebt, hburn, rfl⟩ := redeemCollateral_eq_ok h
  -- the ether drawn leaves the active pool, the redeemed ZUSD is burned with its debt
  obtain ⟨-, hburn⟩ := ZUSDToken.burn_eq_ok.1 hburn
  obtain ⟨hsupply, hcovered⟩ := Ledger.burn_totalSupply hburn
  refine Shift.exists_neg_trans (redeemLoop_shift hloop)
    ⟨totals.totalETHDrawn, totals.totalZUSDToRedeem, ?_, ?_, ?_, Ledger.Moves.burn hburn, rfl, rfl⟩
  all_goals simp [getEntireSystemColl, getEntireSystemDebt, hsupply]
  all_goals omega

end Redemptions

end TroveManager

namespace BorrowerOperations

variable {cfg : Config} {st st' : System}

/-- The signed change that `applyChange` makes. -/
theorem applyChange_eq_ok {x change y : ℕ} {isIncrease : Bool}
    (h : applyChange x change isIncrease = .ok y) :
    (y : ℤ) = x + signedChange change isIncrease := by
  unfold applyChange at h
  cases isIncrease with
  | true =>
    rw [if_pos rfl, Revert.pure_eq_ok] at h
    simp [← h]
  | false =>
    rw [if_neg Bool.false_ne_true, SafeMath.sub_eq_ok] at h
    obtain ⟨hle, rfl⟩ := h
    simp only [signedChange_false]
    omega

/-- With `_requireSingularCollChange` passed, the collateral change of `_getCollChange` is the
ether sent less the withdrawal. -/
theorem signedChange_getCollChange {value collWithdrawal : ℕ} (h : value = 0 ∨ collWithdrawal = 0) :
    signedChange (getCollChange value collWithdrawal).1 (getCollChange value collWithdrawal).2 =
      value - collWithdrawal := by
  unfold getCollChange
  split_ifs with hvalue
  · simp [h.resolve_left hvalue]
  · simp [not_not.1 hvalue]

/-- The ratio that `_getNewTCRFromTroveChange` computes is that of the system's totals moved by
the two changes. -/
theorem getNewTCRFromTroveChange_eq_ok {collChange debtChange price newTCR : ℕ}
    {isCollIncrease isDebtIncrease : Bool}
    (h : getNewTCRFromTroveChange st collChange isCollIncrease debtChange isDebtIncrease price =
      .ok newTCR) :
    ∃ C D : ℕ, (C : ℤ) = getEntireSystemColl st + signedChange collChange isCollIncrease ∧
      (D : ℤ) = getEntireSystemDebt st + signedChange debtChange isDebtIncrease ∧
      newTCR = computeCR C D price := by
  simp only [getNewTCRFromTroveChange, Revert.bind_eq_ok, Revert.pure_eq_ok] at h
  obtain ⟨C, hC, D, hD, rfl⟩ := h
  exact ⟨C, D, applyChange_eq_ok hC, applyChange_eq_ok hD, rfl⟩

theorem triggerBorrowingFee_shift {ZUSDAmount maxFeePercentage fee : ℕ}
    (h : triggerBorrowingFee cfg st ZUSDAmount maxFeePercentage = .ok (st', fee)) :
    Shift st st' 0 0 fee := by
  obtain ⟨fees, zusdToken, -, -, hmint, rfl⟩ := triggerBorrowingFee_eq_ok h
  obtain ⟨-, rfl⟩ := ZUSDToken.mint_eq_ok.1 hmint
  refine ⟨(add_zero _).symm, (add_zero _).symm, ?_, Ledger.Moves.mint _ _ _, rfl, rfl⟩
  simp

theorem mintZusdAndIncreaseActivePoolDebt_shift {account : Address} {ZUSDAmount netDebtIncrease : ℕ}
    (h : mintZusdAndIncreaseActivePoolDebt st account ZUSDAmount netDebtIncrease = .ok st') :
    Shift st st' 0 netDebtIncrease ZUSDAmount := by
  simp only [mintZusdAndIncreaseActivePoolDebt, Revert.bind_eq_ok, ZUSDToken.mint_eq_ok,
    Revert.pure_eq_ok] at h
  obtain ⟨_, ⟨-, rfl⟩, rfl⟩ := h
  refine ⟨?_, ?_, ?_, Ledger.Moves.mint _ _ _, rfl, rfl⟩
  all_goals simp [getEntireSystemColl, getEntireSystemDebt]
  omega

theorem burnZusdAndDecreaseActivePoolDebt_shift {account : Address} {ZUSD : ℕ}
    (h : burnZusdAndDecreaseActivePoolDebt st account ZUSD = .ok st') :
    Shift st st' 0 (-ZUSD) (-ZUSD) := by
  simp only [burnZusdAndDecreaseActivePoolDebt, Revert.bind_eq_ok,
    ActivePool.decreaseZUSDDebt_eq_ok, ZUSDToken.burn_eq_ok, Revert.pure_eq_ok] at h
  obtain ⟨_, ⟨hle, rfl⟩, l, ⟨-, hburn⟩, rfl⟩ := h
  obtain ⟨hsupply, hcovered⟩ := Ledger.burn_totalSupply hburn
  refine ⟨?_, ?_, ?_, Ledger.Moves.burn hburn, rfl, rfl⟩
  all_goals simp [getEntireSystemColl, getEntireSystemDebt, hsupply]
  all_goals omega

theorem activePoolAddColl_shift (st : System) (amount : ℕ) :
    Shift st (activePoolAddColl st amount) amount 0 0 := by
  refine ⟨?_, ?_, ?_, Ledger.Moves.refl _, rfl, rfl⟩
  all_goals simp [activePoolAddColl, getEntireSystemColl, getEntireSystemDebt]
  omega

/-- Moving the tokens and ether of an adjustment: the ZUSD change minted with the debt change, or
burned with it, and the collateral change added or sent. -/
theorem moveTokensAndETHfromAdjustment_shift {borrower tokensRecipient : Address}
    {collChange ZUSDChange netDebtChange : ℕ} {isCollIncrease isDebtIncrease : Bool}
    (h : moveTokensAndETHfromAdjustment st borrower collChange isCollIncrease ZUSDChange
      isDebtIncrease netDebtChange tokensRecipient = .ok st') :
    Shift st st' (signedChange collChange isCollIncrease)
      (if isDebtIncrease then (netDebtChange : ℤ) else -ZUSDChange)
      (signedChange ZUSDChange isDebtIncrease) := by
  unfold moveTokensAndETHfromAdjustment at h
  rw [← Revert.ite_bind] at h
  obtain ⟨st₁, h₁, h⟩ := Revert.bind_eq_ok.1 h
  -- the ZUSD is minted or burned first, then the ether moves
  have hshift₁ : Shift st st₁ 0 (if isDebtIncrease then (netDebtChange : ℤ) else -ZUSDChange)
      (signedChange ZUSDChange isDebtIncrease) := by
    split at h₁
    · rename_i hinc
      simpa [hinc] using mintZusdAndIncreaseActivePoolDebt_shift h₁
    · rename_i hinc
      simpa [hinc] using burnZusdAndDecreaseActivePoolDebt_shift h₁
  split at h
  · rename_i hinc
    rw [Revert.pure_eq_ok] at h
    subst h
    simpa [hinc] using hshift₁.trans (activePoolAddColl_shift st₁ collChange)
  · rename_i hinc
    simp only [Revert.bind_eq_ok, ActivePool.sendETH_eq_ok, Revert.pure_eq_ok] at h
    obtain ⟨_, ⟨hle, rfl⟩, rfl⟩ := h
    simpa [hinc] using hshift₁.trans (Shift.sendETH hle)

section Operations

variable {gas : ℕ}

/-- What `openTrove` does to the totals: the ether sent comes in, and the composite debt is
recorded and minted, the fee to the fee distributor, the gas compensation to the gas pool and the
rest to the borrower.  In Normal Mode the ratio it leaves is the one it checked against
`CCR`. -/
theorem openTrove_shift {sender upperHint lowerHint : Address}
    {value maxFeePercentage ZUSDAmount : ℕ}
    (h : openTrove cfg st gas sender value maxFeePercentage ZUSDAmount upperHint lowerHint =
      .ok st') :
    ∃ fee, Shift st st' value (getCompositeDebt (ZUSDAmount + fee))
        (getCompositeDebt (ZUSDAmount + fee)) ∧
      (checkRecoveryMode cfg st st.price = false → cfg.params.CCR ≤ getTCR st' st.price) := by
  obtain ⟨-, st₁, fee, tm₂, stake, sortedTroves, st₃, hfee, -, hnormal, -, -, hmint₁, hmint₂⟩ :=
    openTrove_eq_ok h
  -- the fee is minted to the fee distributor, in Normal Mode only
  have hshift₁ : Shift st st₁ 0 0 fee := by
    rcases hfee with ⟨-, hfee⟩ | ⟨-, rfl, rfl⟩
    · exact triggerBorrowingFee_shift hfee
    · simpa using Shift.refl _
  -- the trove's records and the list move nothing; the ether comes in, the debt is minted
  have hmint := (activePoolAddColl_shift _ value).trans
    ((mintZusdAndIncreaseActivePoolDebt_shift hmint₁).trans
      (mintZusdAndIncreaseActivePoolDebt_shift hmint₂))
  have hrest : Shift st₁ st' value (getCompositeDebt (ZUSDAmount + fee))
      (ZUSDAmount + ZUSD_GAS_COMPENSATION) := by
    -- the frame's end state is read off the later stretch, so its proof waits for it
    refine (Shift.trans (by exact Shift.of_frame rfl rfl rfl rfl rfl) hmint).congr ?_ ?_ ?_
    · ring
    · push_cast [getCompositeDebt]
      ring
    · ring
  refine ⟨fee, (hshift₁.trans hrest).congr (by ring) (by ring) ?_, fun hmode => ?_⟩
  · push_cast [getCompositeDebt]
    ring
  -- in Normal Mode the ratio of the totals after the change is checked against `CCR`
  obtain ⟨newTCR, hnew, hcheck⟩ := hnormal hmode
  obtain ⟨C, D, hC, hD, rfl⟩ := getNewTCRFromTroveChange_eq_ok hnew
  rw [hrest.getTCR_eq (by simpa using hC) (by simpa using hD)]
  exact hcheck

/-- In Normal Mode, `_requireValidAdjustmentInCurrentMode` checks the ratio of the system's
totals moved by the adjustment against `CCR`. -/
theorem requireValidAdjustmentInCurrentMode_normal {collWithdrawal oldICR newICR collChange
      netDebtChange price : ℕ} {isDebtIncrease isCollIncrease : Bool}
    (h : requireValidAdjustmentInCurrentMode cfg st false collWithdrawal isDebtIncrease oldICR
      newICR collChange isCollIncrease netDebtChange price = .ok ()) :
    ∃ C D : ℕ, (C : ℤ) = getEntireSystemColl st + signedChange collChange isCollIncrease ∧
      (D : ℤ) = getEntireSystemDebt st + signedChange netDebtChange isDebtIncrease ∧
      cfg.params.CCR ≤ computeCR C D price := by
  simp only [requireValidAdjustmentInCurrentMode, Bool.false_eq_true, if_false,
    Revert.bind_eq_ok] at h
  obtain ⟨_, -, newTCR, hnew, hcheck⟩ := h
  obtain ⟨C, D, hC, hD, rfl⟩ := getNewTCRFromTroveChange_eq_ok hnew
  simp only [requireNewTCRisAboveCCR, Revert.require_eq_ok] at hcheck
  exact ⟨C, D, hC, hD, hcheck⟩

/-- What borrower operations promise about the system's mode, for a call from `st` to `st'`
at the feed's price in `st`: from Normal Mode the system's ratio stays at least `CCR`, and in
Recovery Mode it does not fall. -/
def ModeNotWorsened (cfg : Config) (st st' : System) : Prop :=
  (checkRecoveryMode cfg st st.price = false → cfg.params.CCR ≤ getTCR st' st.price) ∧
    (checkRecoveryMode cfg st st.price = true → getTCR st st.price ≤ getTCR st' st.price)

/-- Accounts `1` and `2` open troves with 10 and 100 ether against 1025 and 2030 ZUSD of debt;
the price falls to 30.51 ZUSD, below which the system is in Recovery Mode while trove `2`
stays above `CCR`. -/
def recoveryModeDrawRun : List (Op × ℕ) :=
  [(.openTrove 1 (10 * 10 ^ 18) (10 ^ 18) (1000 * 10 ^ 18) 0 0, 10),
   (.openTrove 2 (100 * 10 ^ 18) (10 ^ 18) (2000 * 10 ^ 18) 0 0, 10),
   (.setPrice 30510000000000000000, 0)]

/-- After `recoveryModeDrawRun`, account `2` draws 870 wei: its trove's rounded ratio stays at
`1.502955665024630541`, so the Recovery Mode check passes, and the system's falls from
`1.098559738134206219` by one step. -/
theorem recoveryMode_draw_lowers_TCR :
    ∃ st st', Reachable Config.sample System.sample st ∧
      checkRecoveryMode Config.sample st st.price = true ∧
      (Op.withdrawZUSD 2 (10 ^ 18) 870 0 0).run Config.sample 10 st = .ok st' ∧
      getTCR st' st.price < getTCR st st.price ∧
      ¬ ModeNotWorsened Config.sample st st' := by
  obtain ⟨st, hreach, hmode, hrun⟩ :=
    @exists_reachable_of_decide Config.sample System.sample recoveryModeDrawRun
      (fun st => checkRecoveryMode Config.sample st st.price = true ∧
        runPasses ((Op.withdrawZUSD 2 (10 ^ 18) 870 0 0).run Config.sample 10 st)
          (fun st' => decide (getTCR st' st.price < getTCR st st.price)) = true) _
      (by decide +kernel)
  obtain ⟨st', hop, hlt⟩ := exists_of_runPasses hrun
  have hlt := of_decide_eq_true hlt
  exact ⟨st, st', hreach, hmode, hop, hlt, fun h => absurd (h.2 hmode) (Nat.not_le.mpr hlt)⟩

/-- What `_adjustSenderTrove` does to the totals: the ether sent comes in or the withdrawal goes
out, and the debt moves with the ZUSD minted or burned, the fee included.  In Normal Mode the
ratio it leaves is the one it checked against `CCR`. -/
theorem adjustSenderTrove_shift {caller borrower upperHint lowerHint tokensRecipient : Address}
    {value collWithdrawal ZUSDChange maxFeePercentage : ℕ} {isDebtIncrease : Bool}
    (h : adjustSenderTrove cfg st gas caller value borrower collWithdrawal ZUSDChange
      isDebtIncrease upperHint lowerHint maxFeePercentage tokensRecipient = .ok st') :
    ∃ fee, Shift st st' (value - collWithdrawal) (signedChange (ZUSDChange + fee) isDebtIncrease)
        (signedChange (ZUSDChange + fee) isDebtIncrease) ∧
      (checkRecoveryMode cfg st st.price = false → cfg.params.CCR ≤ getTCR st' st.price) := by
  obtain ⟨hsingular, -, st₁, st₂, fee, oldICR, newICR, tm₃, tm₄, stake, NICR, sortedTroves, hpending,
    hfee, hvalid, -, -, -, -, -, hmove⟩ := adjustSenderTrove_eq_ok h
  have hcoll := signedChange_getCollChange hsingular
  generalize getCollChange value collWithdrawal = cc at hvalid hmove hcoll
  obtain ⟨collChange, isCollIncrease⟩ := cc
  -- the fee is charged and minted on a debt increase in Normal Mode only
  have hshift₂ : Shift st₁ st₂ 0 0 fee ∧ (isDebtIncrease = false → fee = 0) := by
    rcases hfee with ⟨hincrease, -, hfee⟩ | ⟨-, rfl, rfl⟩
    · exact ⟨triggerBorrowingFee_shift hfee, fun hfalse => by simp [hfalse] at hincrease⟩
    · exact ⟨by simpa using Shift.refl st₂, fun _ => rfl⟩
  obtain ⟨hshift₂, hfee₀⟩ := hshift₂
  -- the trove's records and the list move nothing; then the tokens and the ether move
  have hmove' := moveTokensAndETHfromAdjustment_shift hmove
  have hrest : Shift st₂ st' (signedChange collChange isCollIncrease)
      (signedChange (ZUSDChange + fee) isDebtIncrease) (signedChange ZUSDChange isDebtIncrease) := by
    refine (Shift.trans (by exact Shift.of_frame rfl rfl rfl rfl rfl) hmove').congr
      (zero_add _) ?_ (zero_add _)
    cases isDebtIncrease with
    | true => simp
    | false => simp [hfee₀ rfl]
  refine ⟨fee, ((TroveManager.applyPendingRewards_shift hpending).trans (hshift₂.trans hrest)).congr
    ?_ (by simp) ?_, fun hmode => ?_⟩
  · simp [hcoll]
  · rw [zero_add, fee_add_signedChange hfee₀]
  -- in Normal Mode the check was made on the totals that the tokens and the ether then move
  rw [hmode] at hvalid
  obtain ⟨C, D, hC, hD, hle⟩ := requireValidAdjustmentInCurrentMode_normal hvalid
  rw [hrest.getTCR_eq hC hD]
  exact hle

/-- What `closeTrove` does to the totals: the trove's debt is burned, the repayment from the
borrower and the gas compensation from the gas pool, and its collateral sent back.  Allowed in
Normal Mode only, it leaves the ratio that it checked against `CCR`. -/
theorem closeTrove_shift {sender : Address} (h : closeTrove cfg st sender = .ok st') :
    ∃ coll debt : ℕ, Shift st st' (-coll) (-debt) (-debt) ∧
      cfg.params.CCR ≤ getTCR st' st.price := by
  obtain ⟨-, -, st₁, newTCR, tm, st₂, st₃, st₄, hpending, hgas, -, hnew, hcheck, -, hclose, hburn₁,
    hburn₂, hle, rfl⟩ := closeTrove_eq_ok h
  set coll := (st₁.troveManager.Troves sender).coll
  set debt := (st₁.troveManager.Troves sender).debt
  -- the trove's records move nothing; the two burns take the whole debt
  have hstake : Shift st₁ { st₁ with troveManager := tm } 0 0 0 :=
    Shift.of_frame rfl rfl rfl rfl rfl
  have hrest : Shift st₁ _ (-coll) (-debt) (-debt) :=
    ((((hstake.trans (TroveManager.closeTrove_shift hclose)).trans
        (burnZusdAndDecreaseActivePoolDebt_shift hburn₁)).trans
        (burnZusdAndDecreaseActivePoolDebt_shift hburn₂)).trans (Shift.sendETH hle)).congr
      (by ring) (by push_cast [Nat.cast_sub hgas]; ring) (by push_cast [Nat.cast_sub hgas]; ring)
  refine ⟨coll, debt, (TroveManager.applyPendingRewards_shift hpending).trans hrest |>.congr
    (zero_add _) (zero_add _) (zero_add _), ?_⟩
  obtain ⟨C, D, hC, hD, rfl⟩ := getNewTCRFromTroveChange_eq_ok hnew
  rw [hrest.getTCR_eq hC hD]
  exact hcheck

end Operations

end BorrowerOperations

namespace StabilityPool

variable {cfg : Config} {st st' : System} {gas : ℕ} {sender upperHint lowerHint : Address}

/-- `withdrawETHGainToTrove` writes the sender's deposit in the Stability Pool and then, as a
borrower operation, moves the gain into the sender's trove. -/
theorem withdrawETHGainToTrove_eq_ok
    (h : withdrawETHGainToTrove cfg st gas sender upperHint lowerHint = .ok st') :
    ∃ ci sp gain, Writes (· = sender) st.stabilityPool sp ∧
      BorrowerOperations.moveETHGainToTrove cfg
        { st with communityIssuance := ci, stabilityPool := sp } gas gain sender upperHint
        lowerHint = .ok st' := by
  simp only [withdrawETHGainToTrove, Revert.bind_eq_ok] at h
  obtain ⟨_, -, _, -, _, -, st₁, hissue, h⟩ := h
  obtain ⟨ci, sp₁, hsp₁, rfl⟩ := triggerZEROIssuance_eq_ok hissue
  dsimp only at h
  obtain ⟨gain, -, compounded, -, _, -, _, -, stake, -, ETH, -, hmove⟩ := h
  -- the front end's stake, then the deposit, then the pool's ether
  have hw₂ : Writes (· = sender) sp₁
      (updateFrontEndStakeAndSnapshots sp₁ (sp₁.deposits sender).frontEndTag stake) :=
    Writes.of_evolves updateFrontEndStakeAndSnapshots_evolves
  generalize updateFrontEndStakeAndSnapshots sp₁ (sp₁.deposits sender).frontEndTag stake = sp₂
    at hmove hw₂
  have hw₃ : Writes (· = sender) sp₂ (updateDepositAndSnapshots sp₂ sender compounded) :=
    updateDepositAndSnapshots_writes _
  generalize updateDepositAndSnapshots sp₂ sender compounded = sp₃ at hmove hw₃
  refine ⟨ci, { sp₃ with ETH := ETH }, gain, ?_, hmove⟩
  exact (((Writes.of_evolves hsp₁).trans hw₂).trans hw₃).trans
    (Writes.of_evolves fun _ => Evolves.of_frame rfl rfl rfl rfl rfl rfl rfl rfl)

/-- An offset burns the debt it cancels from the Stability Pool's ZUSD. -/
theorem offset_moves {debtToOffset collToAdd : ℕ}
    (h : offset cfg st debtToOffset collToAdd = .ok st') :
    Ledger.Moves st.zusdToken st'.zusdToken := by
  simp only [offset] at h
  split_ifs at h
  · rw [Revert.pure_eq_ok] at h
    rw [h]
    exact Ledger.Moves.refl _
  · simp only [Revert.bind_eq_ok] at h
    obtain ⟨st₁, hissue, ⟨sp₁, ETHGain, ZUSDLoss⟩, -, sp₂, -, hmove⟩ := h
    obtain ⟨ci, sp, -, rfl⟩ := triggerZEROIssuance_eq_ok hissue
    simp only [moveOffsetCollAndDebt, Revert.bind_eq_ok, ZUSDToken.burn_eq_ok,
      Revert.pure_eq_ok] at hmove
    obtain ⟨_, -, _, -, l, ⟨-, hburn⟩, _, -, rfl⟩ := hmove
    exact Ledger.Moves.burn hburn

end StabilityPool

namespace TroveManager

variable {cfg : Config} {st st' : System} {liquidator : Address}

/-! ## The parts of a liquidation call -/

section Liquidations

theorem redistributeDebtAndColl_frame {debt coll : ℕ}
    (h : redistributeDebtAndColl st debt coll = .ok st') :
    st'.stabilityPool = st.stabilityPool ∧ st'.zusdToken = st.zusdToken := by
  unfold redistributeDebtAndColl at h
  split_ifs at h
  · rw [Revert.pure_eq_ok] at h
    rw [h]
    exact ⟨rfl, rfl⟩
  · simp only [Revert.bind_eq_ok, Revert.pure_eq_ok] at h
    obtain ⟨_, -, _, -, _, -, _, -, _, -, _, -, rfl⟩ := h
    exact ⟨rfl, rfl⟩

theorem updateSystemSnapshotsExcludeCollRemainder_frame {collRemainder : ℕ}
    (h : updateSystemSnapshotsExcludeCollRemainder st collRemainder = .ok st') :
    st'.stabilityPool = st.stabilityPool ∧ st'.zusdToken = st.zusdToken := by
  simp only [updateSystemSnapshotsExcludeCollRemainder, Revert.bind_eq_ok,
    Revert.pure_eq_ok] at h
  obtain ⟨_, -, rfl⟩ := h
  exact ⟨rfl, rfl⟩

/-- The gas compensation moves ZUSD from the gas pool to the liquidator by a transfer. -/
theorem sendGasCompensation_frame {ZUSD ETH : ℕ}
    (h : sendGasCompensation cfg st liquidator ZUSD ETH = .ok st') :
    st'.stabilityPool = st.stabilityPool ∧ Ledger.Moves st.zusdToken st'.zusdToken := by
  unfold sendGasCompensation at h
  -- the ZUSD to the liquidator, then the ether, each when it is positive
  split_ifs at h
  all_goals simp only [Revert.bind_eq_ok, ZUSDToken.transfer_eq_ok, Revert.pure_eq_ok] at h
  · obtain ⟨_, ⟨-, -, htransfer⟩, _, rfl, _, -, rfl⟩ := h
    exact ⟨rfl, Ledger.Moves.transfer htransfer⟩
  · obtain ⟨_, rfl, _, -, rfl⟩ := h
    exact ⟨rfl, Ledger.Moves.refl _⟩
  · obtain ⟨_, ⟨-, -, htransfer⟩, _, rfl, rfl⟩ := h
    exact ⟨rfl, Ledger.Moves.transfer htransfer⟩
  · obtain ⟨_, rfl, rfl⟩ := h
    exact ⟨rfl, Ledger.Moves.refl _⟩

/-- The tail of a liquidation is the offset, then steps that leave the Stability Pool and move
the ZUSD ledger by the gas compensation's transfer only. -/
theorem finishLiquidation_offset {totals : LiquidationTotals}
    (h : finishLiquidation cfg st liquidator totals = .ok st') :
    ∃ st₁, StabilityPool.offset cfg st totals.totalDebtToOffset totals.totalCollToSendToSP =
        .ok st₁ ∧ st'.stabilityPool = st₁.stabilityPool ∧
      Ledger.Moves st₁.zusdToken st'.zusdToken := by
  simp only [finishLiquidation, Revert.bind_eq_ok, Revert.require_eq_ok] at h
  obtain ⟨_, -, st₁, hoffset, st₂, hredistribute, h⟩ := h
  -- the surplus, if any, goes from the active pool to the surplus pool
  obtain ⟨st₃, hsp₃, hzusd₃, st₄, hsnapshots, hgas⟩ : ∃ st₃,
      st₃.stabilityPool = st₂.stabilityPool ∧ st₃.zusdToken = st₂.zusdToken ∧
      ∃ st₄, updateSystemSnapshotsExcludeCollRemainder st₃ totals.totalCollGasCompensation =
        .ok st₄ ∧ sendGasCompensation cfg st₄ liquidator totals.totalZUSDGasCompensation
          totals.totalCollGasCompensation = .ok st' := by
    split_ifs at h
    · simp only [Revert.bind_eq_ok, Revert.pure_eq_ok] at h
      obtain ⟨_, -, _, rfl, st₄, hsnapshots, _, -, _, -, hgas⟩ := h
      refine ⟨_, ?_, ?_, st₄, hsnapshots, hgas⟩ <;> rfl
    · simp only [Revert.bind_eq_ok, Revert.pure_eq_ok] at h
      obtain ⟨_, rfl, st₄, hsnapshots, _, -, _, -, hgas⟩ := h
      exact ⟨_, rfl, rfl, st₄, hsnapshots, hgas⟩
  obtain ⟨hsp₂, hzusd₂⟩ := redistributeDebtAndColl_frame hredistribute
  obtain ⟨hsp₄, hzusd₄⟩ := updateSystemSnapshotsExcludeCollRemainder_frame hsnapshots
  obtain ⟨hsp', hmoves⟩ := sendGasCompensation_frame hgas
  refine ⟨st₁, hoffset, by rw [hsp', hsp₄, hsp₃, hsp₂], ?_⟩
  rw [← hzusd₂, ← hzusd₃, ← hzusd₄]
  exact hmoves

/-- A `liquidateTroves` call walks the sorted troves, which writes neither the Stability Pool nor
the ZUSD ledger, and then runs the tail. -/
theorem liquidateTroves_finish {n : ℕ} (h : liquidateTroves cfg st liquidator n = .ok st') :
    ∃ st₁ totals, st₁.stabilityPool = st.stabilityPool ∧ st₁.zusdToken = st.zusdToken ∧
      finishLiquidation cfg st₁ liquidator totals = .ok st' := by
  obtain ⟨st₁, totals, hsequence, hfinish⟩ := liquidateTroves_cases h
  obtain ⟨remaining, log, hacc⟩ : ∃ remaining log, SequenceAccounts st st₁ remaining totals log := by
    rcases hsequence with ⟨-, hsequence⟩ | ⟨-, hsequence⟩
    · exact liquidateTrovesSequenceRecoveryMode_accounts (SequenceAccounts.init st) hsequence
    · exact liquidateTrovesSequenceNormalMode_accounts (SequenceAccounts.init st) hsequence
  exact ⟨st₁, totals, hacc.keeps.stabilityPool, hacc.keeps.zusdToken, hfinish⟩

/-- A `batchLiquidateTroves` call walks the caller's list, which writes neither the Stability Pool
nor the ZUSD ledger, and then runs the tail. -/
theorem batchLiquidateTroves_finish {troveArray : List Address}
    (h : batchLiquidateTroves cfg st liquidator troveArray = .ok st') :
    ∃ st₁ totals, st₁.stabilityPool = st.stabilityPool ∧ st₁.zusdToken = st.zusdToken ∧
      finishLiquidation cfg st₁ liquidator totals = .ok st' := by
  obtain ⟨st₁, totals, hsequence, hfinish⟩ := batchLiquidateTroves_cases h
  obtain ⟨remaining, log, hacc⟩ : ∃ remaining log, SequenceAccounts st st₁ remaining totals log := by
    rcases hsequence with ⟨-, hsequence⟩ | ⟨-, hsequence⟩
    · exact batchLiquidateSequenceRecoveryMode_accounts (SequenceAccounts.init st) hsequence
    · exact batchLiquidateSequenceNormalMode_accounts (SequenceAccounts.init st) hsequence
  exact ⟨st₁, totals, hacc.keeps.stabilityPool, hacc.keeps.zusdToken, hfinish⟩

/-- The tail of a liquidation moves the ZUSD ledger by the offset's burn and the gas
compensation's transfer. -/
theorem finishLiquidation_moves {totals : LiquidationTotals}
    (h : finishLiquidation cfg st liquidator totals = .ok st') :
    Ledger.Moves st.zusdToken st'.zusdToken := by
  obtain ⟨st₁, hoffset, -, hmoves⟩ := finishLiquidation_offset h
  exact (StabilityPool.offset_moves hoffset).trans hmoves

end Liquidations

end TroveManager

/-- A shift that leaves the ratio at the price it started from at least `CCR` leaves the
system in Normal Mode. -/
theorem Shift.checkRecoveryMode_eq_false {cfg : Config} {st₁ st₂ : System} {c d s : ℤ}
    (h : Shift st₁ st₂ c d s) (hle : cfg.params.CCR ≤ getTCR st₂ st₁.price) :
    checkRecoveryMode cfg st₂ st₂.price = false := by
  rw [checkRecoveryMode, h.price, decide_eq_false_iff_not, not_lt]
  exact hle

/-- A liquidation burns the ZUSD it offsets with the Stability Pool together with the same debt. -/
theorem TroveManager.LiquidationAccounts.totalSupply_sub_debt {st st' : System}
    {log : List (Address × TroveManager.LiquidationValues)}
    (h : TroveManager.LiquidationAccounts st st' log) :
    (st'.zusdToken.totalSupply : ℤ) - getEntireSystemDebt st' =
      st.zusdToken.totalSupply - getEntireSystemDebt st := by
  have hsupply := h.totalSupply
  have hdebt := h.ZUSDDebt
  simp only [getEntireSystemDebt]
  omega

/-- The calls of borrower operations that change a trove: opening, adjusting and closing one, and
moving a Stability Pool gain into one. -/
def Op.isBorrowerOperation : Op → Bool
  | .openTrove .. | .adjustTrove .. | .addColl .. | .withdrawColl .. | .withdrawZUSD ..
  | .repayZUSD .. | .closeTrove .. | .withdrawETHGainToTrove .. => true
  | _ => false

section Run

open TroveManager

variable {cfg : Config} {st st' : System} {op : Op} {gas : ℕ}

/-- **Step lemma.**  No call moves the ZUSD supply apart from the debt of the two pools. -/
theorem Op.run_totalSupply_sub_debt (h : op.run cfg gas st = .ok st') :
    (st'.zusdToken.totalSupply : ℤ) - getEntireSystemDebt st' =
      st.zusdToken.totalSupply - getEntireSystemDebt st := by
  cases op with
  | openTrove =>
    obtain ⟨_, hshift, -⟩ := BorrowerOperations.openTrove_shift h
    exact hshift.totalSupply_sub_debt
  | adjustTrove =>
    obtain ⟨_, hshift, -⟩ := BorrowerOperations.adjustSenderTrove_shift h
    exact hshift.totalSupply_sub_debt
  | addColl | withdrawColl | withdrawZUSD | repayZUSD =>
    simp only [Op.run, BorrowerOperations.addColl, BorrowerOperations.withdrawColl,
      BorrowerOperations.withdrawZUSD, BorrowerOperations.repayZUSD] at h
    obtain ⟨_, hshift, -⟩ := BorrowerOperations.adjustSenderTrove_shift h
    exact hshift.totalSupply_sub_debt
  | closeTrove =>
    obtain ⟨_, _, hshift, -⟩ := BorrowerOperations.closeTrove_shift h
    exact hshift.totalSupply_sub_debt
  | claimCollateral =>
    simp only [Op.run, BorrowerOperations.claimCollateral, Revert.bind_eq_ok,
      Revert.pure_eq_ok] at h
    obtain ⟨_, -, rfl⟩ := h
    rfl
  | liquidate =>
    simp only [Op.run, TroveManager.liquidate, Revert.require_bind_eq_ok] at h
    obtain ⟨log, hacc⟩ := batchLiquidateTroves_accounts h.2
    exact hacc.totalSupply_sub_debt
  | liquidateTroves =>
    obtain ⟨log, hacc⟩ := liquidateTroves_accounts h
    exact hacc.totalSupply_sub_debt
  | batchLiquidateTroves =>
    obtain ⟨log, hacc⟩ := batchLiquidateTroves_accounts h
    exact hacc.totalSupply_sub_debt
  | redeemCollateral =>
    obtain ⟨_, _, hshift⟩ := redeemCollateral_shift h
    exact hshift.totalSupply_sub_debt
  | provideToSP =>
    obtain ⟨ci, sp, zusdToken, rfl, hsupply, -⟩ := StabilityPool.provideToSP_eq_ok h
    simp only [hsupply, getEntireSystemDebt]
  | withdrawFromSP =>
    obtain ⟨ci, sp, zusdToken, rfl, hsupply, -⟩ := StabilityPool.withdrawFromSpTo_eq_ok h
    simp only [hsupply, getEntireSystemDebt]
  | withdrawETHGainToTrove =>
    -- the pool's part keeps the totals; the gain then comes into the trove
    obtain ⟨ci, sp, gain, -, hmove⟩ := StabilityPool.withdrawETHGainToTrove_eq_ok h
    obtain ⟨_, hshift, -⟩ := BorrowerOperations.adjustSenderTrove_shift hmove
    exact hshift.totalSupply_sub_debt
  | registerFrontEnd =>
    obtain ⟨sp, rfl, -⟩ := StabilityPool.registerFrontEnd_eq_ok h
    rfl
  | approveZERO | receiveZero =>
    simp only [Op.run, Revert.bind_eq_ok, Revert.pure_eq_ok] at h
    obtain ⟨_, -, rfl⟩ := h
    rfl
  | setPrice | advanceTime =>
    rw [Op.run, Revert.pure_eq_ok] at h
    subst h
    rfl

/-- **Run lemma.**  Along every run, the ZUSD supply less the debt of the two pools stays what it
was at the start. -/
theorem Reachable.totalSupply_sub_debt {init : System} (h : Reachable cfg init st) :
    (st.zusdToken.totalSupply : ℤ) - getEntireSystemDebt st =
      init.zusdToken.totalSupply - getEntireSystemDebt init :=
  Reachability.Reachable.induction (P := fun st => (st.zusdToken.totalSupply : ℤ) -
      getEntireSystemDebt st = init.zusdToken.totalSupply - getEntireSystemDebt init)
    rfl (fun _ _ hgap ⟨_, _, hrun⟩ => (Op.run_totalSupply_sub_debt hrun).trans hgap) h

/-- In every state reached from deployment, the ZUSD supply is the debt of the active and the
default pool. -/
theorem reachable_totalSupply_eq {timestamp price maxSize : ℕ}
    (h : Reachable cfg (System.init timestamp price maxSize) st) :
    st.zusdToken.totalSupply = st.activePool.ZUSDDebt + st.defaultPool.ZUSDDebt := by
  have hgap := Reachable.totalSupply_sub_debt h
  simp only [getEntireSystemDebt, System.init] at hgap
  omega

/-- After the liquidation run and the liquidation of trove `3` against the Stability Pool, the
supply is the debt. -/
theorem reachable_totalSupply_eq_liquidationRun :
    ∃ st, Reachable Config.sample System.sample st ∧ 0 < st.zusdToken.totalSupply ∧
      st.zusdToken.totalSupply = st.activePool.ZUSDDebt + st.defaultPool.ZUSDDebt := by
  obtain ⟨st₀, hreach₀, -, st, hst, -, hpos, -⟩ := liquidationRun_states
  have hreach := hreach₀.run hst
  exact ⟨st, hreach, hpos, reachable_totalSupply_eq hreach⟩

/-- **Step lemma.**  Every call changes the ZUSD ledger only by the token's own mints, burns and
transfers. -/
theorem Op.run_moves (h : op.run cfg gas st = .ok st') :
    Ledger.Moves st.zusdToken st'.zusdToken := by
  cases op with
  | openTrove =>
    obtain ⟨_, hshift, -⟩ := BorrowerOperations.openTrove_shift h
    exact hshift.moves
  | adjustTrove =>
    obtain ⟨_, hshift, -⟩ := BorrowerOperations.adjustSenderTrove_shift h
    exact hshift.moves
  | addColl | withdrawColl | withdrawZUSD | repayZUSD =>
    simp only [Op.run, BorrowerOperations.addColl, BorrowerOperations.withdrawColl,
      BorrowerOperations.withdrawZUSD, BorrowerOperations.repayZUSD] at h
    obtain ⟨_, hshift, -⟩ := BorrowerOperations.adjustSenderTrove_shift h
    exact hshift.moves
  | closeTrove =>
    obtain ⟨_, _, hshift, -⟩ := BorrowerOperations.closeTrove_shift h
    exact hshift.moves
  | claimCollateral =>
    simp only [Op.run, BorrowerOperations.claimCollateral, Revert.bind_eq_ok,
      Revert.pure_eq_ok] at h
    obtain ⟨_, -, rfl⟩ := h
    exact Ledger.Moves.refl _
  | liquidate =>
    simp only [Op.run, TroveManager.liquidate, Revert.require_bind_eq_ok] at h
    obtain ⟨st₁, totals, -, hzusd, hfinish⟩ := batchLiquidateTroves_finish h.2
    exact hzusd ▸ finishLiquidation_moves hfinish
  | liquidateTroves =>
    obtain ⟨st₁, totals, -, hzusd, hfinish⟩ := liquidateTroves_finish h
    exact hzusd ▸ finishLiquidation_moves hfinish
  | batchLiquidateTroves =>
    obtain ⟨st₁, totals, -, hzusd, hfinish⟩ := batchLiquidateTroves_finish h
    exact hzusd ▸ finishLiquidation_moves hfinish
  | redeemCollateral =>
    obtain ⟨_, _, hshift⟩ := redeemCollateral_shift h
    exact hshift.moves
  | provideToSP =>
    obtain ⟨ci, sp, zusdToken, rfl, -, hmoves, -⟩ := StabilityPool.provideToSP_eq_ok h
    exact hmoves
  | withdrawFromSP =>
    obtain ⟨ci, sp, zusdToken, rfl, -, hmoves, -⟩ := StabilityPool.withdrawFromSpTo_eq_ok h
    exact hmoves
  | withdrawETHGainToTrove =>
    -- the pool's part leaves the ledger; the gain then comes into the trove
    obtain ⟨ci, sp, gain, -, hmove⟩ := StabilityPool.withdrawETHGainToTrove_eq_ok h
    obtain ⟨_, hshift, -⟩ := BorrowerOperations.adjustSenderTrove_shift hmove
    exact hshift.moves
  | registerFrontEnd =>
    obtain ⟨sp, rfl, -⟩ := StabilityPool.registerFrontEnd_eq_ok h
    exact Ledger.Moves.refl _
  | approveZERO | receiveZero =>
    simp only [Op.run, Revert.bind_eq_ok, Revert.pure_eq_ok] at h
    obtain ⟨_, -, rfl⟩ := h
    exact Ledger.Moves.refl _
  | setPrice | advanceTime =>
    rw [Op.run, Revert.pure_eq_ok] at h
    subst h
    exact Ledger.Moves.refl _

/-- **Run lemma.**  Along every run, the ZUSD ledger changes by mints, burns and transfers only. -/
theorem Reachable.moves {init : System} (h : Reachable cfg init st) :
    Ledger.Moves init.zusdToken st.zusdToken :=
  Reachability.Reachable.induction (P := fun st => Ledger.Moves init.zusdToken st.zusdToken)
    (Ledger.Moves.refl _) (fun _ _ hmoves ⟨_, _, hrun⟩ => hmoves.trans (Op.run_moves hrun)) h

/-- In every state reached from deployment, the ZUSD balances vanish outside a finite set of
holders and add up, over it, to the debt of the active and the default pool. -/
theorem reachable_zusdBalances_sum {timestamp price maxSize : ℕ}
    (h : Reachable cfg (System.init timestamp price maxSize) st) :
    ∃ holders : Finset Address, (∀ a ∉ holders, st.zusdToken.balances a = 0) ∧
      ∑ a ∈ holders, st.zusdToken.balances a = st.activePool.ZUSDDebt + st.defaultPool.ZUSDDebt := by
  -- the deployed ledger is empty, so balanced over no holders at all
  have hinit : (System.init timestamp price maxSize).zusdToken.Balanced :=
    ⟨∅, fun _ _ => rfl, rfl⟩
  obtain ⟨holders, hzero, hsum⟩ := hinit.moves (Reachable.moves h)
  have hgap := Reachable.totalSupply_sub_debt h
  simp only [getEntireSystemDebt, System.init] at hgap
  exact ⟨holders, hzero, by omega⟩

/-- After the liquidation run and the liquidation of trove `3` against the Stability Pool, the
holders' ZUSD adds up to the debt. -/
theorem reachable_zusdBalances_sum_liquidationRun :
    ∃ st, Reachable Config.sample System.sample st ∧ 0 < st.zusdToken.totalSupply ∧
      ∃ holders : Finset Address, (∀ a ∉ holders, st.zusdToken.balances a = 0) ∧
        ∑ a ∈ holders, st.zusdToken.balances a =
          st.activePool.ZUSDDebt + st.defaultPool.ZUSDDebt := by
  obtain ⟨st₀, hreach₀, -, st, hst, -, hpos, -⟩ := liquidationRun_states
  have hreach := hreach₀.run hst
  exact ⟨st, hreach, hpos, reachable_zusdBalances_sum hreach⟩

/-- A borrower operation called in Normal Mode leaves the system in Normal Mode: each one checks
the ratio of the totals it is about to leave against `CCR` (closing a trove is not allowed in
Recovery Mode at all), and the totals it leaves are exactly those. -/
theorem borrowerOperation_keeps_normalMode (hop : op.isBorrowerOperation = true)
    (h : op.run cfg gas st = .ok st') (hnormal : checkRecoveryMode cfg st st.price = false) :
    checkRecoveryMode cfg st' st'.price = false := by
  cases op with
  | openTrove =>
    obtain ⟨_, hshift, hguard⟩ := BorrowerOperations.openTrove_shift h
    exact hshift.checkRecoveryMode_eq_false (hguard hnormal)
  | adjustTrove =>
    obtain ⟨_, hshift, hguard⟩ := BorrowerOperations.adjustSenderTrove_shift h
    exact hshift.checkRecoveryMode_eq_false (hguard hnormal)
  | addColl | withdrawColl | withdrawZUSD | repayZUSD =>
    simp only [Op.run, BorrowerOperations.addColl, BorrowerOperations.withdrawColl,
      BorrowerOperations.withdrawZUSD, BorrowerOperations.repayZUSD] at h
    obtain ⟨_, hshift, hguard⟩ := BorrowerOperations.adjustSenderTrove_shift h
    exact hshift.checkRecoveryMode_eq_false (hguard hnormal)
  | closeTrove =>
    obtain ⟨_, _, hshift, hle⟩ := BorrowerOperations.closeTrove_shift h
    exact hshift.checkRecoveryMode_eq_false hle
  | withdrawETHGainToTrove =>
    -- the pool's part writes neither the pools' totals nor the price, so the mode is the same
    obtain ⟨ci, sp, gain, -, hmove⟩ := StabilityPool.withdrawETHGainToTrove_eq_ok h
    obtain ⟨_, hshift, hguard⟩ := BorrowerOperations.adjustSenderTrove_shift hmove
    exact hshift.checkRecoveryMode_eq_false (hguard hnormal)
  | _ => simp [Op.isBorrowerOperation] at hop

/-- After the liquidation run the system is in Normal Mode, and account `1` draws 100 ZUSD more. -/
theorem borrowerOperation_keeps_normalMode_liquidationRun :
    ∃ st st', Reachable Config.sample System.sample st ∧
      checkRecoveryMode Config.sample st st.price = false ∧
      (Op.withdrawZUSD 1 (10 ^ 18) (100 * 10 ^ 18) 0 0).run Config.sample 10 st = .ok st' ∧
      checkRecoveryMode Config.sample st' st'.price = false := by
  obtain ⟨st, hreach, ⟨hnormal, -, ⟨st', hst'⟩, -⟩, -⟩ := liquidationRun_states
  exact ⟨st, st', hreach, hnormal, hst', borrowerOperation_keeps_normalMode rfl hst' hnormal⟩

end Run

end ZeroProtocol
