import ZeroProtocol.BorrowerOperations.Records
import ZeroProtocol.TroveManager.LiquidationAccounting

/-!
# What a borrower operation leaves alone

A borrower operation writes the trove manager, the sorted list, the active and default pools and
the ZUSD ledger.  It never writes the Stability Pool, the surplus pool, the ZERO side (the token
and its issuance), the price or the clock (`BorrowerFrame`).  Each function an operation is built
from says so, and the operations chain them with `BorrowerFrame.trans`.
-/

namespace ZeroProtocol

/-- The parts of the system that a borrower operation does not write. -/
structure BorrowerFrame (st st' : System) : Prop where
  collSurplusPool : st'.collSurplusPool = st.collSurplusPool
  stabilityPool : st'.stabilityPool = st.stabilityPool
  communityIssuance : st'.communityIssuance = st.communityIssuance
  zeroToken : st'.zeroToken = st.zeroToken
  price : st'.price = st.price
  timestamp : st'.timestamp = st.timestamp

namespace BorrowerFrame

variable {st₁ st₂ st₃ : System}

theorem refl (st : System) : BorrowerFrame st st := ⟨rfl, rfl, rfl, rfl, rfl, rfl⟩

theorem trans (h₁ : BorrowerFrame st₁ st₂) (h₂ : BorrowerFrame st₂ st₃) : BorrowerFrame st₁ st₃ :=
  ⟨h₂.collSurplusPool.trans h₁.collSurplusPool, h₂.stabilityPool.trans h₁.stabilityPool,
    h₂.communityIssuance.trans h₁.communityIssuance, h₂.zeroToken.trans h₁.zeroToken,
    h₂.price.trans h₁.price, h₂.timestamp.trans h₁.timestamp⟩

/-- A write of the trove side of the system only. -/
theorem of_writes (st : System) (tm : TroveManager.TroveManagerStorage)
    (sortedTroves : SortedTroves.Data) (activePool : ActivePool) (defaultPool : DefaultPool)
    (zusdToken : Ledger Address) :
    BorrowerFrame st { st with
      troveManager := tm, sortedTroves := sortedTroves, activePool := activePool,
      defaultPool := defaultPool, zusdToken := zusdToken } :=
  ⟨rfl, rfl, rfl, rfl, rfl, rfl⟩

end BorrowerFrame

variable {cfg : Config} {st st' : System}

namespace TroveManager

theorem applyPendingRewards_borrowerFrame {borrower : Address}
    (h : applyPendingRewards st borrower = .ok st') : BorrowerFrame st st' := by
  simp only [applyPendingRewards] at h
  split_ifs at h
  · simp only [Revert.require_bind_eq_ok] at h
    obtain ⟨hZUSD, hETH, rfl⟩ := movePendingTroveRewardsToActivePool_eq_ok.mp h.2
    exact BorrowerFrame.of_writes _ _ _ _ _ _
  · rw [Revert.pure_eq_ok] at h
    exact h ▸ BorrowerFrame.refl st

theorem closeTrove_borrowerFrame {borrower : Address} {status : Status}
    (h : closeTrove st borrower status = .ok st') : BorrowerFrame st st' := by
  obtain ⟨tm', sortedTroves, rfl, -⟩ := closeTrove_spec h
  exact BorrowerFrame.of_writes _ _ _ _ _ _

end TroveManager

namespace BorrowerOperations

open TroveManager

section Functions

theorem triggerBorrowingFee_borrowerFrame {ZUSDAmount maxFeePercentage fee : ℕ}
    (h : triggerBorrowingFee cfg st ZUSDAmount maxFeePercentage = .ok (st', fee)) :
    BorrowerFrame st st' := by
  obtain ⟨fees, zusdToken, -, -, -, rfl⟩ := triggerBorrowingFee_eq_ok h
  exact BorrowerFrame.of_writes _ _ _ _ _ _

theorem mintZusdAndIncreaseActivePoolDebt_borrowerFrame {account : Address}
    {ZUSDAmount netDebtIncrease : ℕ}
    (h : mintZusdAndIncreaseActivePoolDebt st account ZUSDAmount netDebtIncrease = .ok st') :
    BorrowerFrame st st' := by
  simp only [mintZusdAndIncreaseActivePoolDebt, Revert.bind_eq_ok, Revert.pure_eq_ok] at h
  obtain ⟨_, -, rfl⟩ := h
  exact BorrowerFrame.of_writes _ _ _ _ _ _

theorem burnZusdAndDecreaseActivePoolDebt_borrowerFrame {account : Address} {ZUSD : ℕ}
    (h : burnZusdAndDecreaseActivePoolDebt st account ZUSD = .ok st') : BorrowerFrame st st' := by
  simp only [burnZusdAndDecreaseActivePoolDebt, Revert.bind_eq_ok, Revert.pure_eq_ok] at h
  obtain ⟨_, -, _, -, rfl⟩ := h
  exact BorrowerFrame.of_writes _ _ _ _ _ _

theorem moveTokensAndETHfromAdjustment_borrowerFrame {borrower tokensRecipient : Address}
    {collChange ZUSDChange netDebtChange : ℕ} {isCollIncrease isDebtIncrease : Bool}
    (h : moveTokensAndETHfromAdjustment st borrower collChange isCollIncrease ZUSDChange
      isDebtIncrease netDebtChange tokensRecipient = .ok st') :
    BorrowerFrame st st' := by
  unfold moveTokensAndETHfromAdjustment at h
  rw [← Revert.ite_bind] at h
  obtain ⟨st₁, h₁, h⟩ := Revert.bind_eq_ok.1 h
  -- the ZUSD is minted or burned first, then the ether moves
  have hframe₁ : BorrowerFrame st st₁ := by
    split at h₁
    · exact mintZusdAndIncreaseActivePoolDebt_borrowerFrame h₁
    · exact burnZusdAndDecreaseActivePoolDebt_borrowerFrame h₁
  split at h
  · rw [Revert.pure_eq_ok] at h
    exact h ▸ hframe₁.trans (BorrowerFrame.of_writes _ _ _ _ _ _)
  · simp only [Revert.bind_eq_ok, Revert.pure_eq_ok] at h
    obtain ⟨_, -, rfl⟩ := h
    exact hframe₁.trans (BorrowerFrame.of_writes _ _ _ _ _ _)

end Functions

section Operations

variable {gas : ℕ}

theorem openTrove_borrowerFrame {sender upperHint lowerHint : Address}
    {value maxFeePercentage ZUSDAmount : ℕ}
    (h : openTrove cfg st gas sender value maxFeePercentage ZUSDAmount upperHint lowerHint =
      .ok st') :
    BorrowerFrame st st' := by
  obtain ⟨-, st₁, fee, tm₂, stake, sortedTroves, st₃, hfee, -, -, -, -, hmint₁, hmint₂⟩ :=
    openTrove_eq_ok h
  -- the fee is charged in Normal Mode only
  have hframe₁ : BorrowerFrame st st₁ := by
    rcases hfee with ⟨-, hfee⟩ | ⟨-, rfl, -⟩
    · exact triggerBorrowingFee_borrowerFrame hfee
    · exact BorrowerFrame.refl _
  exact (hframe₁.trans (BorrowerFrame.of_writes _ _ _ _ _ _)).trans
    ((mintZusdAndIncreaseActivePoolDebt_borrowerFrame hmint₁).trans
      (mintZusdAndIncreaseActivePoolDebt_borrowerFrame hmint₂))

theorem adjustSenderTrove_borrowerFrame
    {caller borrower upperHint lowerHint tokensRecipient : Address}
    {value collWithdrawal ZUSDChange maxFeePercentage : ℕ} {isDebtIncrease : Bool}
    (h : adjustSenderTrove cfg st gas caller value borrower collWithdrawal ZUSDChange
      isDebtIncrease upperHint lowerHint maxFeePercentage tokensRecipient = .ok st') :
    BorrowerFrame st st' := by
  obtain ⟨-, -, st₁, st₂, fee, -, -, tm₃, tm₄, stake, NICR, sortedTroves, hpending, hfee, -, -, -, -,
    -, -, hmove⟩ := adjustSenderTrove_eq_ok h
  -- the fee is charged on a debt increase in Normal Mode only
  have hframe₂ : BorrowerFrame st st₂ := by
    refine (applyPendingRewards_borrowerFrame hpending).trans ?_
    rcases hfee with ⟨-, -, hfee⟩ | ⟨-, rfl, -⟩
    · exact triggerBorrowingFee_borrowerFrame hfee
    · exact BorrowerFrame.refl _
  exact (hframe₂.trans (BorrowerFrame.of_writes _ _ _ _ _ _)).trans
    (moveTokensAndETHfromAdjustment_borrowerFrame hmove)

theorem closeTrove_borrowerFrame {sender : Address} (h : closeTrove cfg st sender = .ok st') :
    BorrowerFrame st st' := by
  obtain ⟨-, -, st₁, newTCR, tm, st₂, st₃, st₄, hpending, -, -, -, -, -, hclose, hburn₁, hburn₂, -,
    rfl⟩ := closeTrove_eq_ok h
  -- the rewards, the stake and the closing, then the two burns and the ether sent back
  exact (applyPendingRewards_borrowerFrame hpending).trans
    ((BorrowerFrame.of_writes _ _ _ _ _ _).trans ((TroveManager.closeTrove_borrowerFrame hclose).trans
      ((burnZusdAndDecreaseActivePoolDebt_borrowerFrame hburn₁).trans
        ((burnZusdAndDecreaseActivePoolDebt_borrowerFrame hburn₂).trans
          (BorrowerFrame.of_writes _ _ _ _ _ _)))))

end Operations

end BorrowerOperations

end ZeroProtocol
