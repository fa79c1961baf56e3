import ZeroProtocol.System.Totals

/-!
# The Stability Pool over whole runs

Every call writes at most one deposit of the Stability Pool, the caller's, and moves the pool as
`Writes` says: every other deposit evolves and the pool stays `Valid`.  The borrower operations and
redemptions leave the pool as it was (`Shift.stabilityPool`); a liquidation leaves it alone while
it walks its troves and then moves it by the offset (`finishLiquidation_evolves`).

Two results follow by induction over the runs:

* in every state reached from deployment the pool is valid, so every depositor's compounded
  deposit and gains revert only on overflow, and the compounded deposit is at most the initial
  one (`reachable_depositorViews`);
* along every run the pool's position moves forward and its running sums of ether and ZERO per
  unit staked only grow (`run_advances`).
-/

namespace ZeroProtocol

open LiquityMath LiquityBase StabilityPool

namespace TroveManager

variable {cfg : Config} {st st' : System}

/-! ## Liquidation calls -/

section Calls

variable {liquidator : Address}

/-- The tail of a liquidation moves the Stability Pool by the offset alone: the redistribution,
the surplus, the system snapshots and the gas compensation leave it. -/
theorem finishLiquidation_evolves {totals : LiquidationTotals}
    (h : finishLiquidation cfg st liquidator totals = .ok st') (d : Address) :
    Evolves d st.stabilityPool st'.stabilityPool := by
  obtain ⟨st₁, hoffset, hsp, -⟩ := finishLiquidation_offset h
  rw [hsp]
  exact offset_evolves hoffset d

/-- A `liquidateTroves` call moves the Stability Pool by its offset alone. -/
theorem liquidateTroves_evolves {n : ℕ} (h : liquidateTroves cfg st liquidator n = .ok st')
    (d : Address) : Evolves d st.stabilityPool st'.stabilityPool := by
  obtain ⟨st₁, totals, hsp, -, hfinish⟩ := liquidateTroves_finish h
  rw [← hsp]
  exact finishLiquidation_evolves hfinish d

/-- A `batchLiquidateTroves` call moves the Stability Pool by its offset alone. -/
theorem batchLiquidateTroves_evolves {troveArray : List Address}
    (h : batchLiquidateTroves cfg st liquidator troveArray = .ok st') (d : Address) :
    Evolves d st.stabilityPool st'.stabilityPool := by
  obtain ⟨st₁, totals, hsp, -, hfinish⟩ := batchLiquidateTroves_finish h
  rw [← hsp]
  exact finishLiquidation_evolves hfinish d

end Calls

end TroveManager

/-- A stretch that keeps the totals leaves the Stability Pool alone. -/
theorem Shift.writes {st st' : System} {c d s : ℤ} {touched : Address → Prop}
    (h : Shift st st' c d s) : Writes touched st.stabilityPool st'.stabilityPool := by
  rw [h.stabilityPool]
  exact Writes.refl _

/-- A change of the pool that writes one deposit at most moves the pool forward. -/
theorem StabilityPool.Writes.advances {sp sp' : StabilityPoolStorage} {a : Address}
    (h : Writes (· = a) sp sp') : Advances sp sp' :=
  (h.evolves (a + 1) (Nat.succ_ne_self a)).toAdvances

section Run

open TroveManager

variable {cfg : Config} {st st' : System} {op : Op} {gas : ℕ}

/-- **Step lemma.**  Every call writes one deposit of the Stability Pool at most, the
caller's. -/
theorem Op.run_writes (h : op.run cfg gas st = .ok st') :
    ∃ a, Writes (· = a) st.stabilityPool st'.stabilityPool := by
  cases op with
  | openTrove =>
    obtain ⟨_, hshift, -⟩ := BorrowerOperations.openTrove_shift h
    exact ⟨0, hshift.writes⟩
  | adjustTrove =>
    obtain ⟨_, hshift, -⟩ := BorrowerOperations.adjustSenderTrove_shift h
    exact ⟨0, hshift.writes⟩
  | addColl | withdrawColl | withdrawZUSD | repayZUSD =>
    simp only [Op.run, BorrowerOperations.addColl, BorrowerOperations.withdrawColl,
      BorrowerOperations.withdrawZUSD, BorrowerOperations.repayZUSD] at h
    obtain ⟨_, hshift, -⟩ := BorrowerOperations.adjustSenderTrove_shift h
    exact ⟨0, hshift.writes⟩
  | closeTrove =>
    obtain ⟨_, _, hshift, -⟩ := BorrowerOperations.closeTrove_shift h
    exact ⟨0, hshift.writes⟩
  | claimCollateral =>
    simp only [Op.run, BorrowerOperations.claimCollateral, Revert.bind_eq_ok,
      Revert.pure_eq_ok] at h
    obtain ⟨_, -, rfl⟩ := h
    exact ⟨0, Writes.refl _⟩
  | liquidate =>
    simp only [Op.run, TroveManager.liquidate, Revert.require_bind_eq_ok] at h
    exact ⟨0, Writes.of_evolves (batchLiquidateTroves_evolves h.2)⟩
  | liquidateTroves => exact ⟨0, Writes.of_evolves (liquidateTroves_evolves h)⟩
  | batchLiquidateTroves => exact ⟨0, Writes.of_evolves (batchLiquidateTroves_evolves h)⟩
  | redeemCollateral =>
    obtain ⟨_, _, hshift⟩ := redeemCollateral_shift h
    exact ⟨0, hshift.writes⟩
  | provideToSP sender =>
    obtain ⟨ci, sp, zusdToken, rfl, -, -, hwrites⟩ := StabilityPool.provideToSP_eq_ok h
    exact ⟨sender, hwrites⟩
  | withdrawFromSP sender =>
    obtain ⟨ci, sp, zusdToken, rfl, -, -, hwrites⟩ := StabilityPool.withdrawFromSpTo_eq_ok h
    exact ⟨sender, hwrites⟩
  | withdrawETHGainToTrove sender =>
    -- the pool's part writes the sender's deposit; the borrower operation leaves the pool
    obtain ⟨ci, sp, gain, hwrites, hmove⟩ := StabilityPool.withdrawETHGainToTrove_eq_ok h
    obtain ⟨_, hshift, -⟩ := BorrowerOperations.adjustSenderTrove_shift hmove
    exact ⟨sender, hwrites.trans hshift.writes⟩
  | registerFrontEnd =>
    obtain ⟨sp, rfl, hevolves⟩ := StabilityPool.registerFrontEnd_eq_ok h
    exact ⟨0, Writes.of_evolves hevolves⟩
  | approveZERO | receiveZero =>
    simp only [Op.run, Revert.bind_eq_ok, Revert.pure_eq_ok] at h
    obtain ⟨_, -, rfl⟩ := h
    exact ⟨0, Writes.refl _⟩
  | setPrice | advanceTime =>
    rw [Op.run, Revert.pure_eq_ok] at h
    subst h
    exact ⟨0, Writes.refl _⟩

/-- **Run lemma.**  In every state reached from deployment the Stability Pool is valid. -/
theorem reachable_stabilityPool_valid {timestamp price maxSize : ℕ}
    (h : Reachable cfg (System.init timestamp price maxSize) st) : Valid st.stabilityPool :=
  Reachability.Reachable.induction (P := fun st => Valid st.stabilityPool) Valid.init
    (fun _ _ hv ⟨_, _, hrun⟩ => (Op.run_writes hrun).elim fun _ hw => hw.valid hv) h

/-- In every state reached from deployment, every depositor's compounded deposit, ether gain and
ZERO gain revert only when a product or a sum overflows; the compounded deposit is at most the
deposit's initial value, and it is computed whenever the deposit times `P` fits in `uint256`. -/
theorem reachable_depositorViews {timestamp price maxSize : ℕ}
    (h : Reachable cfg (System.init timestamp price maxSize) st) (d : Address) :
    Revert.RevertsOnlyWith SafeMath.Overflow (getCompoundedZUSDDeposit st.stabilityPool d) ∧
      (∀ c, getCompoundedZUSDDeposit st.stabilityPool d = .ok c →
        c ≤ (st.stabilityPool.deposits d).initialValue) ∧
      ((st.stabilityPool.deposits d).initialValue * st.stabilityPool.P ≤ MAX_UINT256 →
        ∃ c, getCompoundedZUSDDeposit st.stabilityPool d = .ok c) ∧
      Revert.RevertsOnlyWith SafeMath.Overflow (getDepositorETHGain st.stabilityPool d) ∧
      Revert.RevertsOnlyWith SafeMath.Overflow (getDepositorZEROGain st.stabilityPool d) := by
  have hv := reachable_stabilityPool_valid h
  obtain ⟨hreverts, hle, hfits⟩ := hv.compoundedZUSDDeposit d
  exact ⟨hreverts, hle, hfits, hv.depositorETHGain d, hv.depositorZEROGain d⟩

/-- After the liquidation run and the liquidation of trove `3` against the Stability Pool, the
deposit of account `1` has lost part of its value; its views revert only on overflow, and the
compounded deposit, which fits, is computed. -/
theorem reachable_depositorViews_liquidationRun :
    ∃ st, Reachable Config.sample System.sample st ∧
      0 < (st.stabilityPool.deposits 1).initialValue ∧
      (st.stabilityPool.deposits 1).initialValue * st.stabilityPool.P ≤ MAX_UINT256 ∧
      Revert.RevertsOnlyWith SafeMath.Overflow (getCompoundedZUSDDeposit st.stabilityPool 1) ∧
      (∀ c, getCompoundedZUSDDeposit st.stabilityPool 1 = .ok c →
        c ≤ (st.stabilityPool.deposits 1).initialValue) ∧
      (∃ c, getCompoundedZUSDDeposit st.stabilityPool 1 = .ok c) ∧
      Revert.RevertsOnlyWith SafeMath.Overflow (getDepositorETHGain st.stabilityPool 1) ∧
      Revert.RevertsOnlyWith SafeMath.Overflow (getDepositorZEROGain st.stabilityPool 1) := by
  obtain ⟨st₀, hreach₀, -, st, hst, -, -, hpos, hfit, -⟩ := liquidationRun_states
  have hreach := hreach₀.run hst
  obtain ⟨hreverts, hle, hfits, hETH, hZERO⟩ := reachable_depositorViews hreach 1
  exact ⟨st, hreach, hpos, hfit, hreverts, hle, hfits hfit, hETH, hZERO⟩

/-- **Run lemma.**  Along every run, from any state, the Stability Pool's position moves forward,
its product stays positive once it is, its running sums of ether and ZERO per unit staked only
grow, and no registered front end changes. -/
theorem run_advances (h : Reachability.Reachable (Step cfg) st st') :
    Advances st.stabilityPool st'.stabilityPool :=
  Reachability.Reachable.induction (P := fun st' => Advances st.stabilityPool st'.stabilityPool)
    (Advances.refl _)
    (fun _ _ hadv ⟨_, _, hrun⟩ => (Op.run_writes hrun).elim fun _ hw => hadv.trans hw.advances)
    h

/-- The liquidation of trove `3` after the liquidation run offsets debt with the Stability Pool and
lowers its product. -/
theorem run_advances_liquidation :
    ∃ st st', Reachability.Reachable (Step Config.sample) st st' ∧
      st'.stabilityPool.P < st.stabilityPool.P ∧ Advances st.stabilityPool st'.stabilityPool := by
  obtain ⟨st, -, -, st', hst', hlt, -⟩ := liquidationRun_states
  have hrun' : Reachability.Reachable (Step Config.sample) st st' :=
    Reachability.Reachable.tail Reachability.Reachable.init ⟨_, _, hst'⟩
  exact ⟨st, st', hrun', hlt, run_advances hrun'⟩

end Run

end ZeroProtocol
