import ZeroProtocol.System.CallSpecs

/-!
# Stakes and the snapshot ratio

A trove's stake is its collateral scaled by `totalStakesSnapshot / totalCollateralSnapshot`,
the ratio of stakes to collateral that the last liquidation recorded (`computeNewStake`).  A
redistribution moves collateral onto the active troves without adding stake, so each
liquidation that snapshots it lowers the ratio.  Nothing keeps the ratio away from zero: a
large trove redistributed onto a small newcomer, again and again, shrinks it by the
newcomer's share of the collateral each time, and the floor then gives the next trove a
stake of zero.

Two reverts follow.  `redistributeDebtAndColl` divides by `totalStakes`, which is zero once
every remaining trove has a zero stake.  And a liquidation that is fully offset snapshots
that zero as `totalStakesSnapshot` while collateral remains, after which `computeNewStake`
fails its `assert` and no trove can be opened (`openTrove_ne_ok`).  The run
`stakeCollapseRun` reaches both from deployment.
-/

namespace ZeroProtocol.TroveManager

variable {tm : TroveManagerStorage} {borrower : Address}

/-! ## The stake computation reverts once the stakes' snapshot is zero -/

theorem computeNewStake_eq_error {coll : ℕ} (hC : 0 < tm.totalCollateralSnapshot)
    (hS : tm.totalStakesSnapshot = 0) : computeNewStake tm coll = .error "assert" := by
  simp [computeNewStake, Nat.pos_iff_ne_zero.1 hC, hS, Revert.assert, Revert.require, throw,
    throwThe, MonadExceptOf.throw]

theorem updateStakeAndTotalStakes_eq_error (hC : 0 < tm.totalCollateralSnapshot)
    (hS : tm.totalStakesSnapshot = 0) : updateStakeAndTotalStakes tm borrower = .error "assert" := by
  simp [updateStakeAndTotalStakes, computeNewStake_eq_error hC hS, bind, Except.bind]

end ZeroProtocol.TroveManager

namespace ZeroProtocol.BorrowerOperations

open TroveManager

variable {cfg : Config} {st st' : System}

/-- Charging the borrowing fee touches the fee state and the token, not the stake
snapshots. -/
theorem triggerBorrowingFee_stakeSnapshots {ZUSDAmount maxFeePercentage fee : ℕ} {st₁ : System}
    (h : triggerBorrowingFee cfg st ZUSDAmount maxFeePercentage = .ok (st₁, fee)) :
    st₁.troveManager.totalStakesSnapshot = st.troveManager.totalStakesSnapshot ∧
      st₁.troveManager.totalCollateralSnapshot = st.troveManager.totalCollateralSnapshot := by
  obtain ⟨fees, zusdToken, -, -, -, rfl⟩ := triggerBorrowingFee_eq_ok h
  exact ⟨rfl, rfl⟩

/-- While collateral remains and the stakes' snapshot is zero, every `openTrove` reverts:
whatever the mode, the fee and the checks, the new trove's stake is computed from the
snapshots, which the call has not changed by then. -/
theorem openTrove_ne_ok {gas : ℕ} {sender : Address} {value maxFeePercentage ZUSDAmount : ℕ}
    {upperHint lowerHint : Address} (hC : 0 < st.troveManager.totalCollateralSnapshot)
    (hS : st.troveManager.totalStakesSnapshot = 0) :
    openTrove cfg st gas sender value maxFeePercentage ZUSDAmount upperHint lowerHint ≠ .ok st' := by
  intro h
  obtain ⟨-, st₁, fee, tm₂, stake, sortedTroves, st₃, hfee, -, -, hupdate, -⟩ := openTrove_eq_ok h
  -- both ways of charging the fee leave the stake snapshots as they were
  have hsnap : st₁.troveManager.totalStakesSnapshot = 0 ∧
      0 < st₁.troveManager.totalCollateralSnapshot := by
    rcases hfee with ⟨-, hfee⟩ | ⟨-, rfl, -⟩
    · obtain ⟨hS₁, hC₁⟩ := triggerBorrowingFee_stakeSnapshots hfee
      exact ⟨hS₁.trans hS, hC₁ ▸ hC⟩
    · exact ⟨hS, hC⟩
  -- the stake update after the checks reverts
  rw [updateStakeAndTotalStakes_eq_error (by exact hsnap.2) (by exact hsnap.1)] at hupdate
  cases hupdate

end ZeroProtocol.BorrowerOperations

namespace ZeroProtocol.TroveManager

/-! ## A run in which the ratio collapses -/

/-- Trove `1` holds 1.5 million ether against the minimum debt and trove `2` three ether.
Each round drops the price until the large trove, which by then carries everything
liquidated before, has an ICR of 107%, liquidates it onto the newest three-ether trove
(the Stability Pool is empty), and opens the next one at the old price.  After four rounds
the snapshot ratio is 24 wei of stake to 1.47 million ether, and trove `6` receives stake
`0`; the price then falls once more, so that trove `5`, with all the collateral, can be
liquidated. -/
def stakeCollapseRun : List (Op × ℕ) :=
  [(.openTrove 2 (3 * 10 ^ 18) (10 ^ 18) (180 * 10 ^ 18) 0 0, 10),
   (.openTrove 1 (15 * 10 ^ 23) (10 ^ 18) (180 * 10 ^ 18) 0 0, 10),
   (.setPrice 143308666666666, 0), (.liquidate 99 1, 0),
   (.setPrice (200 * 10 ^ 18), 0), (.openTrove 3 (3 * 10 ^ 18) (10 ^ 18) (180 * 10 ^ 18) 0 0, 10),
   (.setPrice 288057042431405, 0), (.liquidate 99 2, 0),
   (.setPrice (200 * 10 ^ 18), 0), (.openTrove 4 (3 * 10 ^ 18) (10 ^ 18) (180 * 10 ^ 18) 0 0, 10),
   (.setPrice 434255970625668, 0), (.liquidate 99 3, 0),
   (.setPrice (200 * 10 ^ 18), 0), (.openTrove 5 (3 * 10 ^ 18) (10 ^ 18) (180 * 10 ^ 18) 0 0, 10),
   (.setPrice 581916367115605, 0), (.liquidate 99 4, 0),
   (.setPrice (200 * 10 ^ 18), 0), (.openTrove 6 (3 * 10 ^ 18) (10 ^ 18) (180 * 10 ^ 18) 0 0, 10),
   (.setPrice 731049220756208, 0)]

/-- Continuing `stakeCollapseRun`: account `7` opens a trove (of stake `0`) and deposits its
1100 ZUSD, enough to offset all of trove `5`'s debt, which is then liquidated without a
redistribution.  The troves left, `6` and `7`, both have stake `0`, and the snapshot records
a zero `totalStakes` against their collateral. -/
def stakeSnapshotRun : List (Op × ℕ) :=
  [(.setPrice (200 * 10 ^ 18), 0),
   (.openTrove 7 (10 * 10 ^ 18) (10 ^ 18) (1100 * 10 ^ 18) 0 0, 10),
   (.provideToSP 7 (1100 * 10 ^ 18) 0, 0),
   (.setPrice 731049220756208, 0), (.liquidate 99 5, 0)]

theorem stakes_collapse_to_zero :
    (∃ st, Reachable Config.sample System.sample st ∧
      (st.troveManager.Troves 6).status = .active ∧ (st.troveManager.Troves 6).stake = 0 ∧
      (Op.liquidate 99 5).run Config.sample 0 st = .error "SafeMath: division by zero") ∧
    ∃ st, Reachable Config.sample System.sample st ∧
      0 < st.troveManager.totalCollateralSnapshot ∧ st.troveManager.totalStakesSnapshot = 0 ∧
      ∀ (gas : ℕ) (sender : Address) (value maxFeePercentage ZUSDAmount : ℕ)
        (upperHint lowerHint : Address) (st' : System),
        (Op.openTrove sender value maxFeePercentage ZUSDAmount upperHint lowerHint).run
          Config.sample gas st ≠ .ok st' := by
  obtain ⟨st, hreach, hactive, hstake, hliq, hnext⟩ :=
    @exists_reachable_of_decide Config.sample System.sample stakeCollapseRun
      (fun st => (st.troveManager.Troves 6).status = .active ∧
        (st.troveManager.Troves 6).stake = 0 ∧
        Revert.revertsWith ((Op.liquidate 99 5).run Config.sample 0 st)
          "SafeMath: division by zero" = true ∧
        runPasses (runAll Config.sample stakeSnapshotRun st) (fun st' =>
          decide (0 < st'.troveManager.totalCollateralSnapshot ∧
            st'.troveManager.totalStakesSnapshot = 0)) = true) _
      (by decide +kernel)
  obtain ⟨st', hrun, hsnap⟩ := exists_of_runPasses hnext
  obtain ⟨hC, hS⟩ := of_decide_eq_true hsnap
  refine ⟨⟨st, hreach, hactive, hstake, Revert.revertsWith_iff.1 hliq⟩,
    ⟨st', reachable_of_runAll hreach hrun, hC, hS, ?_⟩⟩
  intro gas sender value maxFeePercentage ZUSDAmount upperHint lowerHint st''
  exact BorrowerOperations.openTrove_ne_ok hC hS

end ZeroProtocol.TroveManager
