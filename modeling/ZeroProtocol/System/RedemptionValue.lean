import ZeroProtocol.TroveManager.CallRules

/-!
# A redemption pays out no more than face value

A redemption burns ZUSD from the redeemer and pays collateral out of the active pool: the fee to
the fee distributor, the rest to the redeemer.

* Each trove gives up a lot of debt and the collateral that lot is worth at the price, rounded
  down (`redeemCollateralFromTrove_value`), so over the walk the collateral drawn is worth at most
  the debt redeemed (`redeemLoop_value`, by `redeemLoop_induction` on the running totals).
* On the way the walk moves ether only between the pools that hold it for the troves (pending
  rewards from the default pool to the active pool, a closed trove's rest to the surplus pool,
  `heldETH`), and burns ZUSD only from the gas pool (`RedemptionFrame`).

So the ether that leaves the system in a redemption is worth at most the ZUSD that the redeemer
burns (`redeemCollateral_value`).
-/

namespace ZeroProtocol.TroveManager

open LiquityMath LiquityBase

/-- The ether the system holds for the troves: in the active and default pools and in the
surplus pool. -/
def heldETH (st : System) : ℕ :=
  st.activePool.ETH + st.defaultPool.ETH + st.collSurplusPool.ETH

/-- What each stretch of a redemption walk keeps: the ether held for the troves, and every ZUSD
balance but the gas pool's. -/
structure RedemptionFrame (cfg : Config) (st st' : System) : Prop where
  heldETH : heldETH st' = heldETH st
  balances : ∀ a, a ≠ cfg.addresses.gasPool → st'.zusdToken.balances a = st.zusdToken.balances a

namespace RedemptionFrame

variable {cfg : Config} {st₁ st₂ st₃ : System}

theorem refl (st : System) : RedemptionFrame cfg st st := ⟨rfl, fun _ _ => rfl⟩

theorem trans (h₁ : RedemptionFrame cfg st₁ st₂) (h₂ : RedemptionFrame cfg st₂ st₃) :
    RedemptionFrame cfg st₁ st₃ :=
  ⟨h₂.heldETH.trans h₁.heldETH, fun a ha => (h₂.balances a ha).trans (h₁.balances a ha)⟩

/-- A write of neither the pools nor the ZUSD ledger. -/
theorem of_eq (hactive : st₂.activePool = st₁.activePool)
    (hdefault : st₂.defaultPool = st₁.defaultPool)
    (hsurplus : st₂.collSurplusPool = st₁.collSurplusPool)
    (hzusd : st₂.zusdToken = st₁.zusdToken) : RedemptionFrame cfg st₁ st₂ where
  heldETH := by rw [TroveManager.heldETH, hactive, hdefault, hsurplus]; rfl
  balances _ _ := by rw [hzusd]

end RedemptionFrame

variable {cfg : Config} {st st' : System} {borrower : Address} {gas price : ℕ}

/-- Applying pending rewards moves ether from the default pool to the active pool. -/
theorem applyPendingRewards_redemptionFrame (h : applyPendingRewards st borrower = .ok st') :
    RedemptionFrame cfg st st' := by
  cases hp : hasPendingRewards st.troveManager borrower with
  | false =>
    rw [applyPendingRewards_of_not_hasPendingRewards hp, Except.ok.injEq] at h
    exact h ▸ RedemptionFrame.refl st
  | true =>
    simp only [applyPendingRewards, hp, if_true, Revert.require_bind_eq_ok] at h
    obtain ⟨-, hETH, rfl⟩ := movePendingTroveRewardsToActivePool_eq_ok.mp h.2
    refine ⟨?_, fun _ _ => rfl⟩
    simp only [heldETH]
    dsimp only at hETH
    omega

/-- Closing a trove in a redemption burns the gas compensation from the gas pool and moves the
trove's rest of collateral from the active pool to the surplus pool. -/
theorem redeemCloseTrove_redemptionFrame {ZUSD ETH : ℕ}
    (h : redeemCloseTrove cfg st borrower ZUSD ETH = .ok st') : RedemptionFrame cfg st st' := by
  simp only [redeemCloseTrove, Revert.bind_eq_ok, ZUSDToken.burn_eq_ok,
    ActivePool.decreaseZUSDDebt_eq_ok, ActivePool.sendETH_eq_ok, Revert.pure_eq_ok] at h
  obtain ⟨l, ⟨-, hburn⟩, _, ⟨-, rfl⟩, _, ⟨hETH, rfl⟩, rfl⟩ := h
  refine ⟨?_, fun a ha => Ledger.burn_balances_of_ne hburn ha⟩
  simp only [heldETH, CollSurplusPool.receive, CollSurplusPool.accountSurplus_ETH]
  dsimp only at hETH
  omega

/-- Redeeming from one trove takes a lot of at most what is asked, with collateral worth at most
the lot at the price, and keeps the ether held for the troves and the balances. -/
theorem redeemCollateralFromTrove_value {maxZUSDamount NICR : ℕ} {upperHint lowerHint : Address}
    {v : SingleRedemptionValues}
    (h : redeemCollateralFromTrove cfg st gas borrower maxZUSDamount price upperHint lowerHint
      NICR = .ok (st', v)) :
    v.ZUSDLot ≤ maxZUSDamount ∧ v.ETHLot * price ≤ v.ZUSDLot * DECIMAL_PRECISION ∧
      RedemptionFrame cfg st st' := by
  obtain ⟨-, hZUSDLot, -, hETHLot, -, hcases⟩ := redeemCollateralFromTrove_eq_ok h
  -- the lots are the same in every outcome
  have hlot : v.ZUSDLot ≤ maxZUSDamount := hZUSDLot ▸ LiquityMath.min_le_left _ _
  have hworth : v.ETHLot * price ≤ v.ZUSDLot * DECIMAL_PRECISION :=
    hETHLot ▸ Nat.div_mul_le_self _ price
  refine ⟨hlot, hworth, ?_⟩
  rcases hcases with ⟨-, -, tm, st₂, -, hclose, hredeem⟩ | ⟨-, rfl⟩ |
    ⟨-, -, -, sortedTroves, tm, stake, -, -, rfl⟩
  · -- only the gas compensation is left: the trove is closed and its rest goes to the surplus pool
    obtain ⟨tm', sortedTroves, rfl, -⟩ := closeTrove_spec hclose
    have hframe : RedemptionFrame cfg _ st' := redeemCloseTrove_redemptionFrame hredeem
    refine RedemptionFrame.trans ?_ hframe
    exact RedemptionFrame.of_eq rfl rfl rfl rfl
  · -- a cancelled partial redemption writes nothing
    exact RedemptionFrame.refl _
  · -- a partial redemption writes the trove and the list only
    exact RedemptionFrame.of_eq rfl rfl rfl rfl

section Walk

variable {upperHint lowerHint : Address} {NICR : ℕ}

/-- The redemption walk keeps the ether held for the troves and every balance but the gas
pool's; the collateral it draws stays worth at most the debt it redeems, and what it redeems and
what is left to redeem keep their sum. -/
theorem redeemLoop_value {maxIterations : ℕ} {currentBorrower : Address}
    {totals totals' : RedemptionTotals}
    (h : redeemLoop cfg gas price upperHint lowerHint NICR maxIterations st currentBorrower totals =
      .ok (st', totals'))
    (hworth : totals.totalETHDrawn * price ≤ totals.totalZUSDToRedeem * DECIMAL_PRECISION) :
    RedemptionFrame cfg st st' ∧
      totals'.totalETHDrawn * price ≤ totals'.totalZUSDToRedeem * DECIMAL_PRECISION ∧
      totals'.totalZUSDToRedeem + totals'.remainingZUSD =
        totals.totalZUSDToRedeem + totals.remainingZUSD := by
  refine redeemLoop_induction
    (J := fun st₁ t => RedemptionFrame cfg st st₁ ∧
      t.totalETHDrawn * price ≤ t.totalZUSDToRedeem * DECIMAL_PRECISION ∧
      t.totalZUSDToRedeem + t.remainingZUSD = totals.totalZUSDToRedeem + totals.remainingZUSD)
    (fun hpending ⟨hframe, hworth₁, hsum⟩ =>
      ⟨hframe.trans (applyPendingRewards_redemptionFrame hpending), hworth₁, hsum⟩)
    (fun hredeem ⟨hframe, hworth₁, hsum⟩ => ?_) h ⟨RedemptionFrame.refl st, hworth, rfl⟩
  obtain ⟨-, hlot, hframe₂⟩ := redeemCollateralFromTrove_value hredeem
  refine ⟨fun _ => ⟨hframe.trans hframe₂, hworth₁, hsum⟩, fun hle => ⟨hframe.trans hframe₂, ?_, ?_⟩⟩
  · -- the trove's lots add to the totals on both sides
    dsimp only
    rw [Nat.add_mul, Nat.add_mul]
    exact Nat.add_le_add hworth₁ hlot
  · dsimp only
    omega

end Walk

/-! ## Where the walk starts

`redeemCollateral` starts at the first hint when `isValidFirstRedemptionHint` accepts it, and
otherwise at the first trove from the tail whose `ICR` is at least `MCR`; its loop then redeems
from each trove in turn and moves to the one above it, without looking at the `ICR` again.
Nominal ratios are floored at `1e20` and ratios at the price; at a price above `1e20` two troves
can share a nominal ratio while only one of them is at `MCR`.  The sorted list puts the later of
two equal keys above the earlier one, and the walk moves upwards without another check. -/

/-- Troves `1` and `2` of 2030 ZUSD debt with 7.443333333333333334 and 7.443333333333333333
ether, opened at a price of 1000, and a larger trove `3`; then the price falls to 300 and the
bootstrap period passes.  At 300 the two small troves share the nominal ratio
`0.366666666666666666`, trove `1` is exactly at `MCR` and trove `2` one wei below it. -/
def equalKeyRun : List (Op × ℕ) :=
  [(.setPrice (1000 * 10 ^ 18), 0),
   (.openTrove 1 7443333333333333334 (10 ^ 18) (2000 * 10 ^ 18) 0 0, 10),
   (.openTrove 2 7443333333333333333 (10 ^ 18) (2000 * 10 ^ 18) 0 0, 10),
   (.openTrove 3 (100 * 10 ^ 18) (10 ^ 18) (5000 * 10 ^ 18) 0 0, 10),
   (.setPrice (300 * 10 ^ 18), 0),
   (.advanceTime (14 * 24 * 60 * 60), 0)]

/-- The state after `equalKeyRun` and the redemption of 4020 ZUSD by account `3` that the
examples of this and later modules read, from one evaluation of the run: the two small troves
share a key with trove `1` at the tail, at `MCR`, and trove `2` above it below `MCR`; the
redemption closes trove `2` and raises the base rate. -/
theorem equalKeyRun_states :
    ∃ st, Reachable Config.sample System.sample st ∧
      getNominalICR st.troveManager 1 = getNominalICR st.troveManager 2 ∧
      st.sortedTroves.tail = 1 ∧ st.sortedTroves.prev 1 = 2 ∧
      Config.sample.params.MCR ≤ getCurrentICR st.troveManager 1 st.price ∧
      getCurrentICR st.troveManager 2 st.price < Config.sample.params.MCR ∧
      skipUnderMCR Config.sample st 10 st.price st.sortedTroves.tail = .ok 1 ∧
      isValidFirstRedemptionHint Config.sample st 3 st.price = true ∧
      ∃ st', (Op.redeemCollateral 3 (4020 * 10 ^ 18) 0 0 0 0 0 (10 ^ 18)).run
          Config.sample 10 st = .ok st' ∧
        (st'.troveManager.Troves 2).status = .closedByRedemption ∧
        (st'.troveManager.Troves 2).debt < (st.troveManager.Troves 2).debt ∧
        0 < st'.troveManager.fees.baseRate := by
  obtain ⟨st, hreach, hkey, htail, hprev, hicr₁, hicr₂, hskip, hhint, hredeem⟩ :=
    @exists_reachable_of_decide Config.sample System.sample equalKeyRun
      (fun st => getNominalICR st.troveManager 1 = getNominalICR st.troveManager 2 ∧
        st.sortedTroves.tail = 1 ∧ st.sortedTroves.prev 1 = 2 ∧
        Config.sample.params.MCR ≤ getCurrentICR st.troveManager 1 st.price ∧
        getCurrentICR st.troveManager 2 st.price < Config.sample.params.MCR ∧
        skipUnderMCR Config.sample st 10 st.price st.sortedTroves.tail = .ok 1 ∧
        isValidFirstRedemptionHint Config.sample st 3 st.price = true ∧
        runPasses ((Op.redeemCollateral 3 (4020 * 10 ^ 18) 0 0 0 0 0 (10 ^ 18)).run
          Config.sample 10 st) (fun st' =>
            decide ((st'.troveManager.Troves 2).status = .closedByRedemption ∧
              (st'.troveManager.Troves 2).debt < (st.troveManager.Troves 2).debt ∧
              0 < st'.troveManager.fees.baseRate)) = true) _
      (by decide +kernel)
  obtain ⟨st', hrun, hafter⟩ := exists_of_runPasses hredeem
  exact ⟨st, hreach, hkey, htail, hprev, hicr₁, hicr₂, hskip, hhint, st', hrun,
    of_decide_eq_true hafter⟩

/-- After `equalKeyRun`, trove `1` is the tail and the first trove at `MCR`, so a redemption
without a hint starts there; but trove `2` above it, below `MCR`, is redeemed in full and closed
by the same call, and the hint `3`, which the contract accepts, would start the walk elsewhere. -/
theorem redemption_walks_below_MCR :
    ∃ st, Reachable Config.sample System.sample st ∧
      getNominalICR st.troveManager 1 = getNominalICR st.troveManager 2 ∧
      st.sortedTroves.tail = 1 ∧ st.sortedTroves.prev 1 = 2 ∧
      Config.sample.params.MCR ≤ getCurrentICR st.troveManager 1 st.price ∧
      getCurrentICR st.troveManager 2 st.price < Config.sample.params.MCR ∧
      skipUnderMCR Config.sample st 10 st.price st.sortedTroves.tail = .ok 1 ∧
      isValidFirstRedemptionHint Config.sample st 3 st.price = true ∧
      ∃ st', (Op.redeemCollateral 3 (4020 * 10 ^ 18) 0 0 0 0 0 (10 ^ 18)).run
          Config.sample 10 st = .ok st' ∧
        (st'.troveManager.Troves 2).status = .closedByRedemption ∧
        (st'.troveManager.Troves 2).debt < (st.troveManager.Troves 2).debt := by
  obtain ⟨st, hreach, hkey, htail, hprev, hicr₁, hicr₂, hskip, hhint, st', hrun, hclosed, hdebt, -⟩ :=
    equalKeyRun_states
  exact ⟨st, hreach, hkey, htail, hprev, hicr₁, hicr₂, hskip, hhint, st', hrun, hclosed, hdebt⟩

/-! ## The whole redemption -/

/-- In a successful redemption by anyone but the gas pool, the redeemer's ZUSD balance drops by
an amount `ZUSD` of at most the amount asked, and a positive amount `ETH` of ether leaves the
pools that hold it for the troves, worth at the price at most `ZUSD`. -/
theorem redeemCollateral_value {sender firstHint upperHint lowerHint : Address}
    {ZUSDamount NICR maxIterations maxFeePercentage : ℕ}
    (h : redeemCollateral cfg st gas sender ZUSDamount firstHint upperHint lowerHint NICR
      maxIterations maxFeePercentage = .ok st')
    (hsender : sender ≠ cfg.addresses.gasPool) :
    ∃ ZUSD ETH : ℕ, 0 < ETH ∧ ZUSD ≤ ZUSDamount ∧ ETH * st.price ≤ ZUSD * DECIMAL_PRECISION ∧
      st'.zusdToken.balances sender + ZUSD = st.zusdToken.balances sender ∧
      heldETH st' + ETH = heldETH st := by
  obtain ⟨currentBorrower, st₁, totals, fees, newBaseRate, ETHFee, zusdToken, hloop, hdrawn, -, -,
    -, hETH, -, hburn, rfl⟩ := redeemCollateral_eq_ok h
  obtain ⟨hframe, hworth, hsum⟩ := redeemLoop_value hloop (by simp)
  -- the ether drawn leaves the active pool, the redeemed ZUSD is burned from the sender
  obtain ⟨-, hburn⟩ := ZUSDToken.burn_eq_ok.1 hburn
  obtain ⟨hbalance, hcovered⟩ := Ledger.burn_balances_self hburn
  refine ⟨totals.totalZUSDToRedeem, totals.totalETHDrawn, hdrawn, ?_, hworth, ?_, ?_⟩
  · simp only [Nat.zero_add] at hsum
    omega
  · rw [hbalance, ← hframe.balances sender hsender]
    omega
  · rw [← hframe.heldETH]
    simp only [heldETH]
    omega

/-- After `equalKeyRun`, account `3` redeems 4020 ZUSD, which closes trove `2`; the ether drawn is
worth at most the ZUSD burned. -/
theorem redeemCollateral_value_equalKeyRun :
    ∃ st st', Reachable Config.sample System.sample st ∧
      (Op.redeemCollateral 3 (4020 * 10 ^ 18) 0 0 0 0 0 (10 ^ 18)).run Config.sample 10 st =
        .ok st' ∧
      (3 : Address) ≠ Config.sample.addresses.gasPool ∧
      ∃ ZUSD ETH : ℕ, 0 < ETH ∧ ZUSD ≤ 4020 * 10 ^ 18 ∧
        ETH * st.price ≤ ZUSD * DECIMAL_PRECISION ∧
        st'.zusdToken.balances 3 + ZUSD = st.zusdToken.balances 3 ∧
        heldETH st' + ETH = heldETH st := by
  obtain ⟨st, hreach, -, -, -, -, -, -, -, st', hrun, -⟩ := equalKeyRun_states
  have hsender : (3 : Address) ≠ Config.sample.addresses.gasPool := by decide
  exact ⟨st, st', hreach, hrun, hsender, redeemCollateral_value hrun hsender⟩

end ZeroProtocol.TroveManager
