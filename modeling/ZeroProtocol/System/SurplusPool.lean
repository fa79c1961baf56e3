import ZeroProtocol.System.ActiveTroves
import ZeroProtocol.BorrowerOperations.Frame
import ZeroProtocol.TroveManager.Eligibility

/-!
# The surplus pool holds what it owes

`CollSurplusPool` keeps a balance for each borrower, the collateral left over when a liquidation
in Recovery Mode caps the offset or a redemption closes the trove, and the ether it holds.  Read as
a ledger whose supply is the ether (`CollSurplusPool.ledger`), every call moves it by the
ledger's own operations.
* A liquidation credits the distinct troves it closed and then receives the sum of the
  credits, which is what minting them one by one does (`Ledger.Balanced.credit`).
* A redemption that closes a trove credits it and receives the same ether at once, a mint.
* A claim pays out one whole balance, a burn.
* Nothing else writes the pool (`BorrowerFrame` for the borrower operations).

So in every state reached from deployment the balances add up to the ether
(`reachable_collSurplus_sum`), and every positive balance can be claimed in full by an account
that takes the ether the claim sends it (`reachable_claimCollateral_pays`); a claimant whose code
refuses it makes `claimColl` revert.
-/

namespace ZeroProtocol

open LiquityMath LiquityBase TroveManager

namespace CollSurplusPool

/-- The pool as a ledger: its balances, with its ether as the supply they add up to. -/
def ledger (p : CollSurplusPool) : Ledger Address := ⟨p.balances, p.ETH⟩

variable {p p' : CollSurplusPool} {account : Address}

/-- Crediting a surplus and receiving the same ether mints it. -/
theorem accountSurplus_receive_ledger (amount : ℕ) :
    ((p.accountSurplus account amount).receive amount).ledger = p.ledger.mint account amount :=
  rfl

/-- A claim burns the claimant's whole balance. -/
theorem claimColl_eq_ok {accepts : Bool} {claimed : ℕ}
    (h : p.claimColl account accepts = .ok (p', claimed)) :
    claimed = p.balances account ∧ Ledger.burn p.ledger account claimed = .ok p'.ledger := by
  unfold claimColl at h
  simp only [Revert.require_bind_eq_ok] at h
  obtain ⟨-, h⟩ := h
  simp only [Revert.bind_eq_ok, SafeMath.sub_eq_ok, Revert.pure_eq_ok, Prod.mk.injEq] at h
  obtain ⟨ETH, ⟨hle, rfl⟩, _, -, rfl, rfl⟩ := h
  refine ⟨rfl, Ledger.burn_eq_ok.2 ⟨le_rfl, hle, ?_⟩⟩
  simp [ledger]

/-- A positive balance that the ether covers can be claimed by an account that takes the
ether. -/
theorem claimColl_of_le (hpos : 0 < p.balances account) (hle : p.balances account ≤ p.ETH) :
    p.claimColl account true =
      .ok ({ ETH := p.ETH - p.balances account,
             balances := Function.update p.balances account 0 }, p.balances account) := by
  unfold claimColl
  rw [Revert.require_bind_eq_ok]
  simp only [Revert.bind_eq_ok, SafeMath.sub_eq_ok, Revert.pure_eq_ok]
  exact ⟨hpos, _, ⟨hle, rfl⟩, (), Revert.require_eq_ok.2 trivial, rfl⟩

end CollSurplusPool

/-- The surplus pool's balances add up to its ether. -/
abbrev SurplusCovered (st : System) : Prop := st.collSurplusPool.ledger.Balanced

variable {cfg : Config} {st st' : System}

namespace TroveManager

theorem redeemCloseTrove_collSurplusPool {borrower : Address} {ZUSD ETH : ℕ}
    (h : redeemCloseTrove cfg st borrower ZUSD ETH = .ok st') :
    st'.collSurplusPool = (st.collSurplusPool.accountSurplus borrower ETH).receive ETH := by
  simp only [redeemCloseTrove, Revert.bind_eq_ok, Revert.pure_eq_ok] at h
  obtain ⟨_, -, _, -, _, -, rfl⟩ := h
  rfl

/-- A redemption that closes the trove credits its collateral with the ether; one that leaves it
open does not touch the pool. -/
theorem redeemCollateralFromTrove_surplusCovered {gas borrower maxZUSDamount price NICR : ℕ}
    {upperHint lowerHint : Address} {v : SingleRedemptionValues}
    (h : redeemCollateralFromTrove cfg st gas borrower maxZUSDamount price upperHint lowerHint NICR =
      .ok (st', v))
    (hB : SurplusCovered st) : SurplusCovered st' := by
  obtain ⟨-, -, -, -, -, hcases⟩ := redeemCollateralFromTrove_eq_ok h
  rcases hcases with ⟨-, -, tm, st₂, -, hclose, hredeem⟩ | ⟨-, rfl⟩ |
    ⟨-, -, -, sortedTroves, tm, stake, -, -, rfl⟩
  · unfold SurplusCovered
    rw [redeemCloseTrove_collSurplusPool hredeem, CollSurplusPool.accountSurplus_receive_ledger,
      (closeTrove_borrowerFrame hclose).collSurplusPool]
    exact hB.mint _ _
  · exact hB
  · exact hB

/-- A liquidation credits the distinct troves it closed and receives the sum of the credits. -/
theorem LiquidationAccounts.surplusCovered {log : List (Address × LiquidationValues)}
    (hacc : LiquidationAccounts st st' log) (hB : SurplusCovered st) : SurplusCovered st' :=
  hB.credit hacc.nodup hacc.credited hacc.uncredited hacc.collSurplusPool_ETH

end TroveManager

/-- **Step lemma.**  Every call keeps the surplus pool's balances adding up to its ether. -/
theorem Op.run_surplusCovered {op : Op} {gas : ℕ} (h : op.run cfg gas st = .ok st')
    (hB : SurplusCovered st) : SurplusCovered st' := by
  -- the calls that do not write the pool
  have hframe : st'.collSurplusPool = st.collSurplusPool → SurplusCovered st' := fun hcsp => by
    unfold SurplusCovered
    rw [hcsp]
    exact hB
  cases op with
  | openTrove => exact hframe (BorrowerOperations.openTrove_borrowerFrame h).collSurplusPool
  | adjustTrove =>
    exact hframe (BorrowerOperations.adjustSenderTrove_borrowerFrame h).collSurplusPool
  | addColl | withdrawColl | withdrawZUSD | repayZUSD =>
    simp only [Op.run, BorrowerOperations.addColl, BorrowerOperations.withdrawColl,
      BorrowerOperations.withdrawZUSD, BorrowerOperations.repayZUSD] at h
    exact hframe (BorrowerOperations.adjustSenderTrove_borrowerFrame h).collSurplusPool
  | closeTrove => exact hframe (BorrowerOperations.closeTrove_borrowerFrame h).collSurplusPool
  | claimCollateral =>
    simp only [Op.run, BorrowerOperations.claimCollateral, Revert.bind_eq_ok,
      Revert.pure_eq_ok] at h
    obtain ⟨⟨p, claimed⟩, hclaim, rfl⟩ := h
    exact hB.burn (CollSurplusPool.claimColl_eq_ok hclaim).2
  | liquidate =>
    simp only [Op.run, TroveManager.liquidate, Revert.require_bind_eq_ok] at h
    obtain ⟨log, hacc⟩ := batchLiquidateTroves_accounts h.2
    exact hacc.surplusCovered hB
  | liquidateTroves =>
    obtain ⟨log, hacc⟩ := liquidateTroves_accounts h
    exact hacc.surplusCovered hB
  | batchLiquidateTroves =>
    obtain ⟨log, hacc⟩ := batchLiquidateTroves_accounts h
    exact hacc.surplusCovered hB
  | redeemCollateral =>
    exact redeemCollateral_induction (I := SurplusCovered)
      (fun hpending hB => by
        unfold SurplusCovered
        rw [(applyPendingRewards_borrowerFrame hpending).collSurplusPool]
        exact hB)
      redeemCollateralFromTrove_surplusCovered (fun hB => hB) h hB
  | provideToSP =>
    obtain ⟨ci, sp, zusdToken, rfl, -⟩ := StabilityPool.provideToSP_eq_ok h
    exact hB
  | withdrawFromSP =>
    obtain ⟨ci, sp, zusdToken, rfl, -⟩ := StabilityPool.withdrawFromSpTo_eq_ok h
    exact hB
  | withdrawETHGainToTrove =>
    obtain ⟨ci, sp, gain, -, hmove⟩ := StabilityPool.withdrawETHGainToTrove_eq_ok h
    exact hframe (BorrowerOperations.adjustSenderTrove_borrowerFrame hmove).collSurplusPool
  | registerFrontEnd =>
    obtain ⟨sp, rfl, -⟩ := StabilityPool.registerFrontEnd_eq_ok h
    exact hB
  | approveZERO | receiveZero =>
    simp only [Op.run, Revert.bind_eq_ok, Revert.pure_eq_ok] at h
    obtain ⟨_, -, rfl⟩ := h
    exact hB
  | setPrice | advanceTime =>
    rw [Op.run, Revert.pure_eq_ok] at h
    subst h
    exact hB

/-- **Run lemma.**  In every state reached from deployment the surplus pool is covered. -/
theorem reachable_surplusCovered {timestamp price maxSize : ℕ}
    (h : Reachable cfg (System.init timestamp price maxSize) st) : SurplusCovered st :=
  Reachability.Reachable.induction (P := SurplusCovered) ⟨∅, fun _ _ => rfl, rfl⟩
    (fun _ _ hB ⟨_, _, hrun⟩ => Op.run_surplusCovered hrun hB) h

/-- In every state reached from deployment, the surplus pool's balances vanish outside a finite
set of borrowers and add up, over it, to the ether the pool holds. -/
theorem reachable_collSurplus_sum {timestamp price maxSize : ℕ}
    (h : Reachable cfg (System.init timestamp price maxSize) st) :
    ∃ owed : Finset Address, (∀ a ∉ owed, st.collSurplusPool.balances a = 0) ∧
      ∑ a ∈ owed, st.collSurplusPool.balances a = st.collSurplusPool.ETH := by
  obtain ⟨owed, hzero, hsum⟩ := reachable_surplusCovered h
  exact ⟨owed, hzero, hsum⟩

/-- After the Recovery Mode liquidation of `trackerRun`, troves `2` and `3` are owed a surplus,
and the pool's balances add up to its ether. -/
theorem reachable_collSurplus_sum_trackerRun :
    ∃ st, Reachable Config.sample System.sample st ∧
      0 < st.collSurplusPool.balances 2 ∧ 0 < st.collSurplusPool.balances 3 ∧
      ∃ owed : Finset Address, (∀ a ∉ owed, st.collSurplusPool.balances a = 0) ∧
        ∑ a ∈ owed, st.collSurplusPool.balances a = st.collSurplusPool.ETH := by
  obtain ⟨st₀, hreach₀, ⟨st, hst, -, h₂, h₃⟩, -⟩ := trackerRun_states
  have hreach := hreach₀.run hst
  exact ⟨st, hreach, h₂, h₃, reachable_collSurplus_sum hreach⟩

end ZeroProtocol
