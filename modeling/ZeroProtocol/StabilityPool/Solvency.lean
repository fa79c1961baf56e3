import ZeroProtocol.System.Step
import Mathlib.Algebra.BigOperators.Group.Finset.Basic

/-!
# What the Stability Pool owes and what it holds

An offset burns the liquidated debt from the pool's ZUSD and lowers the tracked total
`totalZUSDDeposits` by the same amount.  What each depositor is owed is computed apart from the
total: the initial deposit times the running product `P` since the deposit's snapshot.  Each
offset scales `P` by one minus the loss per unit deposited, and that loss is rounded up, so that
the error of any one offset favours the pool; but the rounding error is fed back into the next
offset's loss, and the product of the rounded factors can then round the other way.

Two offsets from a single deposit suffice: after `depositOverdrawRun` the deposit compounds to
200 wei more than the pool's total and its ZUSD, so the depositor cannot withdraw it; and the
ZERO that the pool's product then assigns to the deposit exceeds what the community pot has
issued.

The product itself is kept above zero by a change of scale, which multiplies it by
`SCALE_FACTOR` when it would fall below that.  It does so once per offset, so an offset that
takes nearly all of the pool leaves `P` below `SCALE_FACTOR`, and a further one fails the
contract's `assert(newP > 0)` (`updateRewardSumAndProduct_eq_error`): `productUnderflowRun`
reaches `P = 1`.

A front end's stake is meant to track the deposits tagged with it, and `withdrawFromSP`
subtracts each withdrawal from it.  But the stake is compounded from the snapshot of whichever
of its depositors acted last, with the earlier deposits' shares floored at that moment, while
each deposit compounds from its own snapshot.  After `frontEndShortfallRun` the stake is one wei
below the two deposits, and the second of them cannot be withdrawn in full.
-/

namespace ZeroProtocol.StabilityPool

open LiquityMath

section Offset

variable {cfg : Config} {st st' : System} {sp sp' : StabilityPoolStorage}

/-- Issuing ZERO writes only the community issuance and the pool's `G` and error term: the
pool's tracked total and its ether stay. -/
theorem triggerZEROIssuance_frame (h : triggerZEROIssuance st = .ok st') :
    ∃ ci sp, st' = { st with communityIssuance := ci, stabilityPool := sp } ∧
      sp.totalZUSDDeposits = st.stabilityPool.totalZUSDDeposits ∧
      sp.ETH = st.stabilityPool.ETH := by
  simp only [triggerZEROIssuance, updateG, computeZEROPerUnitStaked, Revert.bind_eq_ok,
    Revert.pure_eq_ok] at h
  obtain ⟨⟨ci, _⟩, -, sp, hsp, rfl⟩ := h
  refine ⟨ci, sp, rfl, ?_⟩
  split_ifs at hsp
  · rw [Revert.pure_eq_ok] at hsp
    exact hsp ▸ ⟨rfl, rfl⟩
  · simp only [Revert.bind_eq_ok, SafeMath.div_eq_ok, SafeMath.sub_eq_ok,
      Revert.pure_eq_ok] at hsp
    obtain ⟨_, ⟨_, -, _, -, rfl⟩, rfl⟩ := hsp
    exact ⟨rfl, rfl⟩

/-- Computing the rewards of an offset writes only the error terms. -/
theorem computeRewardsPerUnitStaked_frame {collToAdd debtToOffset total ETHGain ZUSDLoss : ℕ}
    (h : computeRewardsPerUnitStaked sp collToAdd debtToOffset total =
      .ok (sp', ETHGain, ZUSDLoss)) :
    sp'.totalZUSDDeposits = sp.totalZUSDDeposits ∧ sp'.ETH = sp.ETH := by
  simp only [computeRewardsPerUnitStaked] at h
  split_ifs at h
  all_goals
    simp only [Revert.bind_eq_ok, Revert.assert_eq_ok, SafeMath.sub_eq_ok, SafeMath.div_eq_ok,
      Revert.pure_eq_ok, Prod.mk.injEq] at h
  · obtain ⟨_, -, _, rfl, _, -, _, -, rfl, -, -⟩ := h
    exact ⟨rfl, rfl⟩
  · obtain ⟨_, -, _, -, _, -, _, -, _, rfl, _, -, _, -, rfl, -, -⟩ := h
    exact ⟨rfl, rfl⟩

/-- Updating `S` and `P` leaves the pool's total and its ether alone, in each of the three
cases of the new product. -/
theorem updateRewardSumAndProduct_frame {ETHGain ZUSDLoss : ℕ}
    (h : updateRewardSumAndProduct sp ETHGain ZUSDLoss = .ok sp') :
    sp'.totalZUSDDeposits = sp.totalZUSDDeposits ∧ sp'.ETH = sp.ETH := by
  simp only [updateRewardSumAndProduct, Revert.bind_eq_ok, Revert.assert_eq_ok,
    SafeMath.sub_eq_ok] at h
  obtain ⟨_, -, factor, -, h⟩ := h
  split_ifs at h <;>
  · obtain ⟨_, -, h⟩ := h
    rw [Revert.pure_eq_ok] at h
    exact h ▸ ⟨rfl, rfl⟩

/-- An offset whose product stays below one unit even after the scale change fails the
contract's `assert(newP > 0)`. -/
theorem updateRewardSumAndProduct_eq_error {ETHGain ZUSDLoss : ℕ}
    (hloss : ZUSDLoss < DECIMAL_PRECISION)
    (hP : sp.P * (DECIMAL_PRECISION - ZUSDLoss) * SCALE_FACTOR < DECIMAL_PRECISION) :
    updateRewardSumAndProduct sp ETHGain ZUSDLoss = .error "assert" := by
  have hfactor : DECIMAL_PRECISION - ZUSDLoss ≠ 0 := by omega
  have hlow : sp.P * (DECIMAL_PRECISION - ZUSDLoss) / DECIMAL_PRECISION < SCALE_FACTOR := by
    rw [Nat.div_eq_of_lt (lt_of_le_of_lt (Nat.le_mul_of_pos_right _ (by decide)) hP)]
    decide
  have hzero : sp.P * (DECIMAL_PRECISION - ZUSDLoss) * SCALE_FACTOR / DECIMAL_PRECISION = 0 :=
    Nat.div_eq_of_lt hP
  simp [updateRewardSumAndProduct, hloss.le, SafeMath.sub_of_le hloss.le, hfactor, hlow, hzero,
    Revert.assert, Revert.require, throw, throwThe, MonadExceptOf.throw, bind, Except.bind, pure,
    Except.pure]

end Offset

/-! ## A deposit that compounds past the pool -/

/-- The claim the pool's accounting is meant to keep: for any set of depositors, their
compounded deposits add up to at most the pool's total, and their ether gains to at most its
ether. -/
def DepositsCovered (sp : StabilityPoolStorage) : Prop :=
  ∀ (depositors : Finset Address) (compounded ETHGain : Address → ℕ),
    (∀ d ∈ depositors, getCompoundedZUSDDeposit sp d = .ok (compounded d) ∧
      getDepositorETHGain sp d = .ok (ETHGain d)) →
    ∑ d ∈ depositors, compounded d ≤ sp.totalZUSDDeposits ∧ ∑ d ∈ depositors, ETHGain d ≤ sp.ETH

/-- Accounts `1` and `2` open large troves, `3` and `4` troves of 300 and 200 ZUSD of debt;
`1` deposits 600 ZUSD; the price halves and `3`, then `4`, are liquidated against the pool. -/
def depositOverdrawRun : List (Op × ℕ) :=
  [(.openTrove 1 (100 * 10 ^ 18) (10 ^ 18) (2000 * 10 ^ 18) 0 0, 10),
   (.openTrove 2 (100 * 10 ^ 18) (10 ^ 18) (2000 * 10 ^ 18) 0 0, 10),
   (.openTrove 3 (25 * 10 ^ 17) (10 ^ 18) 278606965174129353234 0 0, 10),
   (.openTrove 4 (15 * 10 ^ 17) (10 ^ 18) 179104477611940298508 0 0, 10),
   (.provideToSP 1 (600 * 10 ^ 18) 0, 0),
   (.setPrice (100 * 10 ^ 18), 0),
   (.liquidate 5 3, 0),
   (.liquidate 5 4, 0)]

/-- After `depositOverdrawRun` the pool tracks and holds 100 ZUSD, but the deposit of `1`
compounds to 200 wei more (the loss factors `1 - 0.500000000000000001` and `1 - 0.666666666666666665`
multiply to more than a sixth); withdrawing it reverts. -/
theorem compoundedDeposit_exceeds_pool :
    ∃ st, Reachable Config.sample System.sample st ∧
      getCompoundedZUSDDeposit st.stabilityPool 1 = .ok 100000000000000000200 ∧
      st.stabilityPool.totalZUSDDeposits = 100 * 10 ^ 18 ∧
      st.zusdToken.balances Config.sample.addresses.stabilityPool = 100 * 10 ^ 18 ∧
      ¬ DepositsCovered st.stabilityPool ∧
      withdrawFromSP Config.sample st 1 100000000000000000200 =
        .error "ERC20: transfer amount exceeds balance" := by
  obtain ⟨st, hreach, hcompounded, hgain, htotal, hbalance, hwithdraw⟩ :=
    @exists_reachable_of_decide Config.sample System.sample depositOverdrawRun
      (fun st => getCompoundedZUSDDeposit st.stabilityPool 1 = .ok 100000000000000000200 ∧
        getDepositorETHGain st.stabilityPool 1 = .ok 3979999999999999797 ∧
        st.stabilityPool.totalZUSDDeposits = 100 * 10 ^ 18 ∧
        st.zusdToken.balances Config.sample.addresses.stabilityPool = 100 * 10 ^ 18 ∧
        Revert.revertsWith (withdrawFromSP Config.sample st 1 100000000000000000200)
          "ERC20: transfer amount exceeds balance" = true) _
      (by decide +kernel)
  refine ⟨st, hreach, hcompounded, htotal, hbalance, fun hcovered => ?_,
    Revert.revertsWith_iff.mp hwithdraw⟩
  have hsum := (hcovered {1} (fun _ => 100000000000000000200) (fun _ => 3979999999999999797)
    (by simp [hcompounded, hgain])).1
  simp [htotal] at hsum

/-- The claim for the ZERO rewards, without the ZERO already sent, which only adds to the left
side: the gains of any set of depositors and front ends add up to at most what the community
pot has issued. -/
def ZEROGainsCovered (st : System) : Prop :=
  ∀ (depositors frontEnds : Finset Address) (gain frontEndGain : Address → ℕ),
    (∀ d ∈ depositors, getDepositorZEROGain st.stabilityPool d = .ok (gain d)) →
    (∀ f ∈ frontEnds, getFrontEndZEROGain st.stabilityPool f = .ok (frontEndGain f)) →
    ∑ d ∈ depositors, gain d + ∑ f ∈ frontEnds, frontEndGain f ≤
      st.communityIssuance.totalZEROIssued

/-- After `depositOverdrawRun`, the funding wallet funds the pot with 32 million ZERO; a year
later `2` makes a deposit, which issues half of the pot to the pool.  The pool's product
assigns the deposit of `1`, its only depositor until then, 31999999 wei more than was issued. -/
theorem depositorZEROGain_exceeds_issued :
    ∃ st, Reachable Config.sample System.sample st ∧
      getDepositorZEROGain st.stabilityPool 1 = .ok 15999999999999465599999999 ∧
      st.communityIssuance.totalZEROIssued = 15999999999999465568000000 ∧
      ¬ ZEROGainsCovered st := by
  obtain ⟨st, hreach, hgain, hissued⟩ :=
    @exists_reachable_of_decide Config.sample System.sample
      (depositOverdrawRun ++
        [(.approveZERO 109 108 (32 * 10 ^ 24), 0), (.receiveZero 109 (32 * 10 ^ 24), 0),
         (.advanceTime (365 * 24 * 60 * 60), 0), (.provideToSP 2 (10 ^ 18) 0, 0)])
      (fun st => getDepositorZEROGain st.stabilityPool 1 = .ok 15999999999999465599999999 ∧
        st.communityIssuance.totalZEROIssued = 15999999999999465568000000) _
      (by decide +kernel)
  refine ⟨st, hreach, hgain, hissued, fun hcovered => ?_⟩
  have hsum := hcovered {1} ∅ (fun _ => 15999999999999465599999999) (fun _ => 0)
    (by simp [hgain]) (by simp)
  simp [hissued] at hsum

/-! ## A product below the scale factor -/

/-- Accounts `1` and `2` open large troves, `3`, `4` and `5` troves of 200.9 ZUSD of debt on
1.5 ether.  Before each of the first two liquidations (at half the price) the pool is topped up
to that debt plus 300 wei, so that each offset takes all but about 1.5e-18 of every deposit: the
loss per unit is `1e18 - 1` and the factor `1`.  The first offset takes `P` from `1e18` to
`1e9`, at a new scale; the second to `1`, at the next. -/
def productUnderflowRun : List (Op × ℕ) :=
  [(.openTrove 1 (100 * 10 ^ 18) (10 ^ 18) (2000 * 10 ^ 18) 0 0, 10),
   (.openTrove 2 (100 * 10 ^ 18) (10 ^ 18) (2000 * 10 ^ 18) 0 0, 10),
   (.openTrove 3 (15 * 10 ^ 17) (10 ^ 18) (180 * 10 ^ 18) 0 0, 10),
   (.openTrove 4 (15 * 10 ^ 17) (10 ^ 18) (180 * 10 ^ 18) 0 0, 10),
   (.openTrove 5 (15 * 10 ^ 17) (10 ^ 18) (180 * 10 ^ 18) 0 0, 10),
   (.provideToSP 1 (2009 * 10 ^ 17 + 300) 0, 0),
   (.setPrice (100 * 10 ^ 18), 0),
   (.liquidate 99 3, 0),
   (.provideToSP 2 (2009 * 10 ^ 17) 0, 0),
   (.liquidate 99 4, 0)]

/-- After `productUnderflowRun`, `P` is `1`.  From there every offset that takes more than
`1 - 1e-9` of the pool fails `assert(newP > 0)`, and so does the next liquidation when the pool
is topped up as before. -/
theorem P_below_scaleFactor :
    ∃ st, Reachable Config.sample System.sample st ∧ st.stabilityPool.P < SCALE_FACTOR ∧
      (∀ ETHGain ZUSDLoss, DECIMAL_PRECISION - SCALE_FACTOR < ZUSDLoss →
        ZUSDLoss < DECIMAL_PRECISION →
        updateRewardSumAndProduct st.stabilityPool ETHGain ZUSDLoss = .error "assert") ∧
      ∃ st₁, (Op.provideToSP 2 (2009 * 10 ^ 17) 0).run Config.sample 0 st = .ok st₁ ∧
        (Op.liquidate 99 5).run Config.sample 0 st₁ = .error "assert" := by
  obtain ⟨st, hreach, hP, hnext⟩ :=
    @exists_reachable_of_decide Config.sample System.sample productUnderflowRun
      (fun st => st.stabilityPool.P = 1 ∧
        runPasses ((Op.provideToSP 2 (2009 * 10 ^ 17) 0).run Config.sample 0 st) (fun st₁ =>
          Revert.revertsWith ((Op.liquidate 99 5).run Config.sample 0 st₁) "assert") = true) _
      (by decide +kernel)
  obtain ⟨st₁, hprovide, hliquidate⟩ := exists_of_runPasses hnext
  refine ⟨st, hreach, by rw [hP]; decide, ?_, st₁, hprovide, Revert.revertsWith_iff.1 hliquidate⟩
  intro ETHGain ZUSDLoss hbig hloss
  apply updateRewardSumAndProduct_eq_error hloss
  -- with `P = 1` the product is below one unit exactly when the loss exceeds `1 - 1e-9`
  rw [hP]
  simp only [DECIMAL_PRECISION, SCALE_FACTOR] at hbig hloss ⊢
  omega

/-! ## A front end's stake below its deposits -/

/-- The claim the front-end bookkeeping is meant to keep: a front end's compounded stake is at
least the compounded deposits of any set of depositors tagged with it. -/
def FrontEndStakeCovers (sp : StabilityPoolStorage) (frontEnd : Address) : Prop :=
  ∀ (depositors : Finset Address) (compounded : Address → ℕ) (stake : ℕ),
    getCompoundedFrontEndStake sp frontEnd = .ok stake →
    (∀ d ∈ depositors, (sp.deposits d).frontEndTag = frontEnd ∧
      getCompoundedZUSDDeposit sp d = .ok (compounded d)) →
    ∑ d ∈ depositors, compounded d ≤ stake

/-- Accounts `1` to `4` open the troves of `productUnderflowRun` and `7` registers as a front
end.  `1` deposits through it, and trove `3` is liquidated against the pool at half the price;
then `2` deposits through it, and trove `4` is liquidated. -/
def frontEndShortfallRun : List (Op × ℕ) :=
  [(.openTrove 1 (100 * 10 ^ 18) (10 ^ 18) (2000 * 10 ^ 18) 0 0, 10),
   (.openTrove 2 (100 * 10 ^ 18) (10 ^ 18) (2000 * 10 ^ 18) 0 0, 10),
   (.openTrove 3 (15 * 10 ^ 17) (10 ^ 18) (180 * 10 ^ 18) 0 0, 10),
   (.openTrove 4 (15 * 10 ^ 17) (10 ^ 18) (180 * 10 ^ 18) 0 0, 10),
   (.registerFrontEnd 7 (9 * 10 ^ 17), 0),
   (.provideToSP 1 (1000 * 10 ^ 18 + 2) 7, 0),
   (.setPrice (100 * 10 ^ 18), 0),
   (.liquidate 99 3, 0),
   (.provideToSP 2 (1000 * 10 ^ 18 + 1) 7, 0),
   (.liquidate 99 4, 0)]

/-- After `frontEndShortfallRun` the front end's stake, compounded from the second deposit's
snapshot with the first deposit's share floored there, is one wei below the two deposits, each
compounded from its own snapshot.  Once `1` withdraws its whole deposit, `2` cannot withdraw
its own. -/
theorem frontEndStake_below_deposits :
    ∃ st, Reachable Config.sample System.sample st ∧
      (st.stabilityPool.deposits 1).frontEndTag = 7 ∧
      (st.stabilityPool.deposits 2).frontEndTag = 7 ∧
      getCompoundedFrontEndStake st.stabilityPool 7 = .ok 1598199999999999998836 ∧
      getCompoundedZUSDDeposit st.stabilityPool 1 = .ok 709866944583402812001 ∧
      getCompoundedZUSDDeposit st.stabilityPool 2 = .ok 888333055416597186836 ∧
      ¬ FrontEndStakeCovers st.stabilityPool 7 ∧
      ∃ st₁, withdrawFromSP Config.sample st 1 709866944583402812001 = .ok st₁ ∧
        withdrawFromSP Config.sample st₁ 2 888333055416597186836 =
          .error "SafeMath: subtraction overflow" := by
  obtain ⟨st, hreach, htag₁, htag₂, hstake, hc₁, hc₂, hnext⟩ :=
    @exists_reachable_of_decide Config.sample System.sample frontEndShortfallRun
      (fun st => (st.stabilityPool.deposits 1).frontEndTag = 7 ∧
        (st.stabilityPool.deposits 2).frontEndTag = 7 ∧
        getCompoundedFrontEndStake st.stabilityPool 7 = .ok 1598199999999999998836 ∧
        getCompoundedZUSDDeposit st.stabilityPool 1 = .ok 709866944583402812001 ∧
        getCompoundedZUSDDeposit st.stabilityPool 2 = .ok 888333055416597186836 ∧
        runPasses (withdrawFromSP Config.sample st 1 709866944583402812001) (fun st₁ =>
          Revert.revertsWith (withdrawFromSP Config.sample st₁ 2 888333055416597186836)
            "SafeMath: subtraction overflow") = true) _
      (by decide +kernel)
  obtain ⟨st₁, hwithdraw₁, hwithdraw₂⟩ := exists_of_runPasses hnext
  refine ⟨st, hreach, htag₁, htag₂, hstake, hc₁, hc₂, fun hcovers => ?_, st₁, hwithdraw₁,
    Revert.revertsWith_iff.1 hwithdraw₂⟩
  -- the two tagged deposits alone exceed the stake
  have hsum := hcovers {1, 2}
    (fun d => if d = 1 then 709866944583402812001 else 888333055416597186836)
    1598199999999999998836 hstake (by simp [htag₁, htag₂, hc₁, hc₂])
  simp at hsum

end ZeroProtocol.StabilityPool
