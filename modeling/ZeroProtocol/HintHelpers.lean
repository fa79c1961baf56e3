import ZeroProtocol.TroveManager.PendingRewards

/-!
# `HintHelpers.getRedemptionHints`

A redemption's caller computes its hints off-chain with `getRedemptionHints`, which simulates
the walk of `redeemCollateral` on the current state: the same first loop from the tail past
every trove below `MCR`, then a walk upwards that takes each trove's net debt with its pending
debt reward in full, and stops at the first trove that holds more than is left.  For that
trove it returns the nominal ratio the trove would have after the partial redemption, with the
amount cut so that at least `MIN_NET_DEBT` stays; the amount that the walk can redeem is
returned as `truncatedZUSDamount`.

The simulation reads each trove's debt with its pending reward, while the contract's walk
applies a trove's pending rewards only when `_hasPendingRewards` reports them, which it does from
the collateral snapshot alone.  A pending debt without pending collateral therefore makes the
two disagree (`redemptionHints_disagree`).

`getApproxHint` and `computeNominalCR` of the same contract serve the sorted list's hints, which
the model's `SortedTroves.insert` searches for itself, and are not modelled.
-/

namespace ZeroProtocol.HintHelpers

open LiquityMath LiquityBase TroveManager

section Hints

variable (cfg : Config) (st : System)

/-- The second `while` loop of `getRedemptionHints`, with `maxIterations` rounds left, from
`currentTroveuser` with `remainingZUSD` to redeem: the partial redemption's nominal ratio (`0`
if there is none) and what is left to redeem. -/
def redemptionHintsLoop (price : ℕ) : ℕ → Address → ℕ → Except String (ℕ × ℕ)
  | 0, _, remainingZUSD => pure (0, remainingZUSD)
  | maxIterations + 1, currentTroveuser, remainingZUSD =>
    if currentTroveuser = 0 ∨ remainingZUSD = 0 then pure (0, remainingZUSD) else do
    let netZUSDDebt := (← getNetDebt (st.troveManager.Troves currentTroveuser).debt) +
      getPendingZUSDDebtReward st.troveManager currentTroveuser
    if netZUSDDebt > remainingZUSD then
      -- the walk ends here, with a partial redemption if the trove keeps `MIN_NET_DEBT`
      if netZUSDDebt > MIN_NET_DEBT then
        let maxRedeemableZUSD :=
          LiquityMath.min remainingZUSD (← SafeMath.sub netZUSDDebt MIN_NET_DEBT)
        let ETH := (st.troveManager.Troves currentTroveuser).coll +
          getPendingETHReward st.troveManager currentTroveuser
        let newColl ← SafeMath.sub ETH
          (← SafeMath.div (maxRedeemableZUSD * DECIMAL_PRECISION) price)
        let newDebt ← SafeMath.sub netZUSDDebt maxRedeemableZUSD
        let compositeDebt := getCompositeDebt newDebt
        let partialRedemptionHintNICR := computeNominalCR newColl compositeDebt
        let remainingZUSD ← SafeMath.sub remainingZUSD maxRedeemableZUSD
        pure (partialRedemptionHintNICR, remainingZUSD)
      else pure (0, remainingZUSD)
    else
      let remainingZUSD ← SafeMath.sub remainingZUSD netZUSDDebt
      redemptionHintsLoop price maxIterations (st.sortedTroves.prev currentTroveuser)
        remainingZUSD

/-- Source `getRedemptionHints`: the first trove at `MCR` or above, the nominal ratio of the
partial redemption, and the amount the walk can redeem.  `gas` bounds the first loop. -/
def getRedemptionHints (gas ZUSDamount price maxIterations : ℕ) :
    Except String (Address × ℕ × ℕ) := do
  let currentTroveuser ← Loop.whileGas
    (fun b => b != 0 && decide (getCurrentICR st.troveManager b price < cfg.params.MCR))
    st.sortedTroves.prev gas st.sortedTroves.tail
  let firstRedemptionHint := currentTroveuser
  -- a bound of zero means no bound
  let maxIterations := if maxIterations = 0 then MAX_UINT256 else maxIterations
  let (partialRedemptionHintNICR, remainingZUSD) ←
    redemptionHintsLoop st price maxIterations currentTroveuser ZUSDamount
  let truncatedZUSDamount ← SafeMath.sub ZUSDamount remainingZUSD
  pure (firstRedemptionHint, partialRedemptionHintNICR, truncatedZUSDamount)

end Hints

/-! ## Hints that the walk does not follow -/

/-- `staleDebtRun`, then account `2` draws 2000 ZUSD more and the bootstrap period passes.
Trove `4`, the tail, owes 30 wei and trove `2` above it 16000 wei of pending debt, with no
pending collateral. -/
def staleHintRun : List (Op × ℕ) :=
  staleDebtRun ++
  [(.withdrawZUSD 2 (10 ^ 18) (2000 * 10 ^ 18) 0 0, 10),
   (.advanceTime (14 * 24 * 60 * 60), 0)]

/-- After `staleHintRun`, the hints for 1505 ZUSD and 30 wei start at trove `4` and give a
partial redemption of trove `2`.  The walk of `redeemCollateral` with these hints, and with the
insert position above trove `2`'s new ratio, reads both troves without their pending debt: it
redeems trove `4` in full, leaves 30 wei more for trove `2`, finds a nominal ratio other than
the hint's, and stops, so that it burns 1005 ZUSD and leaves trove `2` as it was. -/
theorem redemptionHints_disagree :
    ∃ st, Reachable Config.sample System.sample st ∧
      ∃ first partialNICR,
        getRedemptionHints Config.sample st 10 (1505 * 10 ^ 18 + 30) st.price 0 =
          .ok (first, partialNICR, 1505 * 10 ^ 18 + 30) ∧ partialNICR ≠ 0 ∧
        ∃ st', (Op.redeemCollateral 2 (1505 * 10 ^ 18 + 30) first 1 0 partialNICR 0
            (10 ^ 18)).run Config.sample 10 st = .ok st' ∧
          st.zusdToken.balances 2 - st'.zusdToken.balances 2 = 1005 * 10 ^ 18 ∧
          getNominalICR st'.troveManager 2 ≠ partialNICR ∧
          st'.troveManager.Troves 2 = st.troveManager.Troves 2 := by
  obtain ⟨st, hreach, hhints, hredeem⟩ :=
    @exists_reachable_of_decide Config.sample System.sample staleHintRun
      (fun st => getRedemptionHints Config.sample st 10 (1505 * 10 ^ 18 + 30) st.price 0 =
          .ok (4, 837486910994764390890, 1505 * 10 ^ 18 + 30) ∧
        runPasses ((Op.redeemCollateral 2 (1505 * 10 ^ 18 + 30) 4 1 0 837486910994764390890 0
          (10 ^ 18)).run Config.sample 10 st) (fun st' =>
            decide (st.zusdToken.balances 2 - st'.zusdToken.balances 2 = 1005 * 10 ^ 18 ∧
              getNominalICR st'.troveManager 2 ≠ 837486910994764390890 ∧
              st'.troveManager.Troves 2 = st.troveManager.Troves 2)) = true) _
      (by decide +kernel)
  obtain ⟨st', hrun, hafter⟩ := exists_of_runPasses hredeem
  exact ⟨st, hreach, 4, 837486910994764390890, hhints, by decide, st', hrun,
    of_decide_eq_true hafter⟩

end ZeroProtocol.HintHelpers
