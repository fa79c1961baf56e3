import ZeroProtocol.TroveManager.PendingRewards
import ZeroProtocol.System.CallSpecs
import ZeroProtocol.StabilityPool.Solvency
import Mathlib.Algebra.Order.BigOperators.Group.List

/-!
# Liquidations conserve value

A liquidation call closes troves one by one and splits each one's entire debt and collateral,
pending rewards included: the debt into a part offset against the Stability Pool and a part
redistributed, the collateral into the Stability Pool's share, the redistributed part, the
liquidator's gas compensation and the borrower's surplus.  Every branch of the single-trove
functions splits exactly (`LiquidationValues.Splits`), and never offsets more than the pool
has left.

The proof follows the call's two phases.  While the sequence runs, closing a trove only moves
its pending rewards from the default pool to the active pool, credits its surplus and removes it
from the list (`Liquidated`); the invariant `SequenceAccounts` records the troves closed so far,
in order, with their values, and each step of the four sequence functions keeps it.
`finishLiquidation` then moves the totals once, and `Flow` says where each amount goes.  The two
together give `LiquidationAccounts`: what the call as a whole takes from the active and default
pools is what the Stability Pool, the surplus pool and the liquidator receive.
-/

namespace ZeroProtocol.TroveManager

open LiquityMath LiquityBase

/-! ## One trove's split -/

/-- The split of one liquidated trove: its entire debt into offset and redistributed debt, its
entire collateral into the Stability Pool's share, the redistributed part, the gas compensation
and the surplus; no collateral goes to the Stability Pool without debt offset against it. -/
structure LiquidationValues.Splits (v : LiquidationValues) : Prop where
  debt : v.entireTroveDebt = v.debtToOffset + v.debtToRedistribute
  coll : v.entireTroveColl =
    v.collToSendToSP + v.collToRedistribute + v.collGasCompensation + v.collSurplus
  collToSendToSP_eq_zero : v.debtToOffset = 0 → v.collToSendToSP = 0

theorem getOffsetAndRedistributionVals_spec {debt coll ZUSDInStabPool debtToOffset
    collToSendToSP debtToRedistribute collToRedistribute : ℕ}
    (h : getOffsetAndRedistributionVals debt coll ZUSDInStabPool =
      .ok (debtToOffset, collToSendToSP, debtToRedistribute, collToRedistribute)) :
    debt = debtToOffset + debtToRedistribute ∧ coll = collToSendToSP + collToRedistribute ∧
      debtToOffset ≤ ZUSDInStabPool ∧ (debtToOffset = 0 → collToSendToSP = 0) := by
  unfold getOffsetAndRedistributionVals at h
  split_ifs at h
  · simp only [Revert.bind_eq_ok, SafeMath.div_eq_ok, SafeMath.sub_eq_ok, Revert.pure_eq_ok,
      Prod.mk.injEq] at h
    obtain ⟨_, ⟨-, rfl⟩, _, ⟨hdebt, rfl⟩, _, ⟨hcoll, rfl⟩, rfl, rfl, rfl, rfl⟩ := h
    refine ⟨by omega, by omega, LiquityMath.min_le_right _ _, fun h0 => ?_⟩
    rw [h0, Nat.mul_zero, Nat.zero_div]
  · rw [Revert.pure_eq_ok, Prod.mk.injEq, Prod.mk.injEq, Prod.mk.injEq] at h
    obtain ⟨rfl, rfl, rfl, rfl⟩ := h
    exact ⟨by omega, by omega, Nat.zero_le _, fun _ => rfl⟩

/-- The capped split offsets the whole debt; collateral worth `MCR` times the debt goes to the
Stability Pool and the gas compensation, and the rest is surplus. -/
theorem getCappedOffsetVals_spec {p : LiquityBaseParams} {debt coll price : ℕ}
    {v : LiquidationValues} (h : getCappedOffsetVals p debt coll price = .ok v) :
    v.Splits ∧ v.entireTroveDebt = debt ∧ v.entireTroveColl = coll ∧ v.debtToOffset = debt ∧
      v.collSurplus = coll - debt * p.MCR / price := by
  simp only [getCappedOffsetVals, Revert.bind_eq_ok, SafeMath.div_eq_ok, SafeMath.sub_eq_ok,
    Revert.pure_eq_ok] at h
  obtain ⟨collToOffset, ⟨-, hoff⟩, _, ⟨hgas, rfl⟩, _, ⟨hsurplus, rfl⟩, rfl⟩ := h
  refine ⟨⟨by simp, by dsimp only; omega, fun h0 => ?_⟩, rfl, rfl, rfl, by rw [hoff]⟩
  -- without debt nothing is offset at the capped rate either
  dsimp only at h0 ⊢
  simp [hoff, h0, getCollGasCompensation]

/-! ## What closing one trove keeps -/

section Frame

variable {tm tm' : TroveManagerStorage} {borrower b : Address}

/-- A trove's entire debt and collateral read its amounts, stake and status, its snapshots and
the running totals, and nothing else of the trove manager. -/
theorem getEntireDebtAndColl_congr (hdebt : (tm'.Troves b).debt = (tm.Troves b).debt)
    (hcoll : (tm'.Troves b).coll = (tm.Troves b).coll)
    (hstake : (tm'.Troves b).stake = (tm.Troves b).stake)
    (hstatus : (tm'.Troves b).status = (tm.Troves b).status)
    (hsnapshot : tm'.rewardSnapshots b = tm.rewardSnapshots b)
    (hETH : tm'.L_ETH = tm.L_ETH) (hZUSD : tm'.L_ZUSDDebt = tm.L_ZUSDDebt) :
    getEntireDebtAndColl tm' b = getEntireDebtAndColl tm b := by
  simp only [getEntireDebtAndColl, getPendingETHReward, getPendingZUSDDebtReward, pendingReward,
    hdebt, hcoll, hstake, hstatus, hsnapshot, hETH, hZUSD]

theorem getEntireDebtAndColl_updateTrove_of_ne {f : Trove → Trove} (hb : b ≠ borrower) :
    getEntireDebtAndColl (tm.updateTrove borrower f) b = getEntireDebtAndColl tm b := by
  apply getEntireDebtAndColl_congr <;> simp [Function.update_of_ne hb]

/-- Moving a trove in the owners array changes its index only. -/
theorem getEntireDebtAndColl_updateTrove_arrayIndex {index : ℕ} :
    getEntireDebtAndColl (tm.updateTrove borrower fun t => { t with arrayIndex := index }) b =
      getEntireDebtAndColl tm b := by
  rcases eq_or_ne b borrower with rfl | hb
  · apply getEntireDebtAndColl_congr <;> simp
  · exact getEntireDebtAndColl_updateTrove_of_ne hb

theorem removeStake_entire (h : removeStake tm borrower = .ok tm') (hb : b ≠ borrower) :
    getEntireDebtAndColl tm' b = getEntireDebtAndColl tm b := by
  simp only [removeStake, Revert.bind_eq_ok, SafeMath.sub_eq_ok, Revert.pure_eq_ok] at h
  obtain ⟨_, -, rfl⟩ := h
  apply getEntireDebtAndColl_congr <;> simp [Function.update_of_ne hb]

/-- Removing an owner from the array swaps and pops: no trove's amounts change. -/
theorem removeTroveOwner_entire {length : ℕ} (h : removeTroveOwner tm borrower length = .ok tm') :
    getEntireDebtAndColl tm' b = getEntireDebtAndColl tm b := by
  simp only [removeTroveOwner, Revert.bind_eq_ok, Revert.assert_eq_ok, SafeMath.sub_eq_ok,
    Revert.pure_eq_ok] at h
  obtain ⟨_, -, _, -, _, -, rfl⟩ := h
  exact getEntireDebtAndColl_updateTrove_arrayIndex

/-- The swap and pop leave every status as it was, and the array one owner shorter. -/
theorem removeTroveOwner_status {length : ℕ} (h : removeTroveOwner tm borrower length = .ok tm') :
    (tm'.Troves b).status = (tm.Troves b).status ∧
      tm'.TroveOwners.length = tm.TroveOwners.length - 1 := by
  simp only [removeTroveOwner, Revert.bind_eq_ok, Revert.assert_eq_ok, SafeMath.sub_eq_ok,
    Revert.pure_eq_ok] at h
  obtain ⟨_, -, _, -, _, -, rfl⟩ := h
  constructor
  · -- the moved owner's record changes its index only
    simp only [TroveManagerStorage.updateTrove_Troves, Function.update_apply]
    split_ifs with hb
    · rw [hb]
    · rfl
  · simp

variable {st st' : System}

/-- Closing a trove writes the trove manager and the list only: every other trove keeps its
amounts and its status, the closed trove, which the list held, leaves it, and at least one
owner stays in the array. -/
theorem closeTrove_spec {status : Status} (h : closeTrove st borrower status = .ok st') :
    ∃ tm' sortedTroves, st' = { st with troveManager := tm', sortedTroves := sortedTroves } ∧
      (∀ b ≠ borrower, getEntireDebtAndColl tm' b = getEntireDebtAndColl st.troveManager b) ∧
      (∀ b ≠ borrower, (tm'.Troves b).status = (st.troveManager.Troves b).status) ∧
      0 < tm'.TroveOwners.length ∧
      st.sortedTroves.contains borrower = true ∧
      ∀ b, sortedTroves.contains b = true ↔
        st.sortedTroves.contains b = true ∧ b ≠ borrower := by
  obtain ⟨-, ⟨hmore, -⟩, tm', sortedTroves, howner, hremove, rfl⟩ := closeTrove_eq_ok h
  refine ⟨tm', _, rfl, fun b hb => ?_, fun b hb => ?_, ?_, (SortedTroves.remove_eq_ok hremove).1,
    fun b => ?_⟩
  · rw [removeTroveOwner_entire howner]
    apply getEntireDebtAndColl_congr <;> simp [Function.update_of_ne hb]
  · rw [(removeTroveOwner_status howner).1]
    simp [Function.update_of_ne hb]
  · -- the array had more than one owner, and loses one
    rw [(removeTroveOwner_status (b := borrower) howner).2]
    simp only [TroveManagerStorage.updateTrove_TroveOwners]
    omega
  · simp [SortedTroves.remove_contains hremove, and_comm]

end Frame

/-- What a stretch of a liquidation sequence keeps, when it closes only troves that satisfy
`touched`: the ether and the debt of the active and default pools together, the Stability
Pool, the ZUSD ledger, the surplus pool's ether, the fee state, and the entire debt and
collateral of every other trove. -/
structure Keeps (touched : Address → Prop) (st st' : System) : Prop where
  ETH : st'.activePool.ETH + st'.defaultPool.ETH = st.activePool.ETH + st.defaultPool.ETH
  ZUSDDebt : st'.activePool.ZUSDDebt + st'.defaultPool.ZUSDDebt =
    st.activePool.ZUSDDebt + st.defaultPool.ZUSDDebt
  stabilityPool : st'.stabilityPool = st.stabilityPool
  zusdToken : st'.zusdToken = st.zusdToken
  collSurplusPool_ETH : st'.collSurplusPool.ETH = st.collSurplusPool.ETH
  entire : ∀ b, ¬ touched b →
    getEntireDebtAndColl st'.troveManager b = getEntireDebtAndColl st.troveManager b
  status : ∀ b, ¬ touched b →
    (st'.troveManager.Troves b).status = (st.troveManager.Troves b).status
  fees : st'.troveManager.fees = st.troveManager.fees

namespace Keeps

variable {P Q : Address → Prop} {st₁ st₂ st₃ : System}

theorem refl (st : System) : Keeps P st st :=
  ⟨rfl, rfl, rfl, rfl, rfl, fun _ _ => rfl, fun _ _ => rfl, rfl⟩

theorem trans (h₁ : Keeps P st₁ st₂) (h₂ : Keeps P st₂ st₃) : Keeps P st₁ st₃ where
  ETH := h₂.ETH.trans h₁.ETH
  ZUSDDebt := h₂.ZUSDDebt.trans h₁.ZUSDDebt
  stabilityPool := h₂.stabilityPool.trans h₁.stabilityPool
  zusdToken := h₂.zusdToken.trans h₁.zusdToken
  collSurplusPool_ETH := h₂.collSurplusPool_ETH.trans h₁.collSurplusPool_ETH
  entire b hb := (h₂.entire b hb).trans (h₁.entire b hb)
  status b hb := (h₂.status b hb).trans (h₁.status b hb)
  fees := h₂.fees.trans h₁.fees

theorem mono (h : Keeps P st₁ st₂) (hPQ : ∀ b, P b → Q b) : Keeps Q st₁ st₂ :=
  { h with
    entire := fun b hb => h.entire b (mt (hPQ b) hb)
    status := fun b hb => h.status b (mt (hPQ b) hb) }

end Keeps

section Single

variable {cfg : Config} {st st₁ st' : System} {borrower : Address}

/-- Moving a trove's pending rewards moves ether and debt from the default pool to the active
pool, and touches nothing else. -/
theorem movePendingTroveRewardsToActivePool_keeps {ZUSD ETH : ℕ}
    (h : movePendingTroveRewardsToActivePool st ZUSD ETH = .ok st') :
    Keeps (fun _ => False) st st' ∧ st'.troveManager = st.troveManager ∧
      st'.sortedTroves = st.sortedTroves ∧ st'.collSurplusPool = st.collSurplusPool := by
  obtain ⟨hZUSD, hETH, rfl⟩ := movePendingTroveRewardsToActivePool_eq_ok.mp h
  refine ⟨⟨?_, ?_, rfl, rfl, rfl, fun _ _ => rfl, fun _ _ => rfl, rfl⟩, rfl, rfl, rfl⟩
  · show st.activePool.ETH + ETH + (st.defaultPool.ETH - ETH) = _
    omega
  · show st.activePool.ZUSDDebt + ZUSD + (st.defaultPool.ZUSDDebt - ZUSD) = _
    omega

theorem removeStake_keeps {tm : TroveManagerStorage}
    (h : removeStake st.troveManager borrower = .ok tm) :
    Keeps (· = borrower) st { st with troveManager := tm } := by
  refine ⟨rfl, rfl, rfl, rfl, rfl, fun _ hb => removeStake_entire h hb, fun b hb => ?_,
    removeStake_fees h⟩
  simp only [removeStake, Revert.bind_eq_ok, SafeMath.sub_eq_ok, Revert.pure_eq_ok] at h
  obtain ⟨_, -, rfl⟩ := h
  simp [Function.update_of_ne hb]

/-- Closing a trove keeps everything `Keeps` names and the surplus pool; it takes the trove off
the list and leaves an owner in the array. -/
theorem closeTrove_keeps {status : Status} (h : closeTrove st borrower status = .ok st') :
    Keeps (· = borrower) st st' ∧ st'.collSurplusPool = st.collSurplusPool ∧
      0 < st'.troveManager.TroveOwners.length ∧ st.sortedTroves.contains borrower = true ∧
      ∀ b, st'.sortedTroves.contains b = true ↔
        st.sortedTroves.contains b = true ∧ b ≠ borrower := by
  obtain ⟨tm', _, rfl, hentire, hstatus, howners, hcontains, hremoved⟩ := closeTrove_spec h
  exact ⟨⟨rfl, rfl, rfl, rfl, rfl, hentire, hstatus, closeTrove_fees h⟩, rfl, howners, hcontains,
    hremoved⟩

theorem withdrawPendingAndStake_keeps {ZUSD ETH : ℕ}
    (h : withdrawPendingAndStake st borrower ZUSD ETH = .ok st') :
    Keeps (· = borrower) st st' ∧ st'.sortedTroves = st.sortedTroves ∧
      st'.collSurplusPool = st.collSurplusPool := by
  simp only [withdrawPendingAndStake, Revert.bind_eq_ok, Revert.pure_eq_ok] at h
  obtain ⟨st₁, hmove, tm, hstake, rfl⟩ := h
  obtain ⟨hkeeps, -, hsorted, hsurplus⟩ := movePendingTroveRewardsToActivePool_keeps hmove
  exact ⟨(hkeeps.mono fun _ => False.elim).trans (removeStake_keeps hstake), hsorted, hsurplus⟩

/-- What closing `borrower` in a liquidation, with the values `v` and against `ZUSDInStabPool`
left in the Stability Pool, does before the totals move: it keeps what `Keeps` names, takes the
trove, which the list held, off the list, credits its surplus and leaves an owner in the array;
the values split the trove's entire debt and collateral, and offset no more than the pool has
left. -/
structure Liquidated (ZUSDInStabPool : ℕ) (st st' : System) (borrower : Address)
    (v : LiquidationValues) : Prop where
  keeps : Keeps (· = borrower) st st'
  contains : st.sortedTroves.contains borrower = true
  removed : ∀ b, st'.sortedTroves.contains b = true ↔
    st.sortedTroves.contains b = true ∧ b ≠ borrower
  balances : st'.collSurplusPool.balances = Function.update st.collSurplusPool.balances borrower
    (st.collSurplusPool.balances borrower + v.collSurplus)
  owners : 0 < st'.troveManager.TroveOwners.length
  entireTroveDebt : v.entireTroveDebt = (getEntireDebtAndColl st.troveManager borrower).1
  entireTroveColl : v.entireTroveColl = (getEntireDebtAndColl st.troveManager borrower).2.1
  splits : v.Splits
  debtToOffset_le : v.debtToOffset ≤ ZUSDInStabPool

/-- The branches without a surplus: pending rewards and stake out, then the trove closed. -/
theorem liquidated_of_close {ZUSDInStabPool ZUSD ETH : ℕ} {v : LiquidationValues}
    (hwithdraw : withdrawPendingAndStake st borrower ZUSD ETH = .ok st₁)
    (hclose : closeTrove st₁ borrower .closedByLiquidation = .ok st')
    (hsurplus : v.collSurplus = 0)
    (hdebt : v.entireTroveDebt = (getEntireDebtAndColl st.troveManager borrower).1)
    (hcoll : v.entireTroveColl = (getEntireDebtAndColl st.troveManager borrower).2.1)
    (hsplits : v.Splits) (hle : v.debtToOffset ≤ ZUSDInStabPool) :
    Liquidated ZUSDInStabPool st st' borrower v := by
  obtain ⟨hkeeps₁, hsorted, hpool₁⟩ := withdrawPendingAndStake_keeps hwithdraw
  obtain ⟨hkeeps₂, hpool₂, howners, hcontains, hremoved⟩ := closeTrove_keeps hclose
  rw [hsorted] at hcontains hremoved
  refine ⟨hkeeps₁.trans hkeeps₂, hcontains, hremoved, ?_, howners, hdebt, hcoll, hsplits, hle⟩
  rw [hpool₂, hpool₁, hsurplus, Nat.add_zero, Function.update_eq_self]

/-- A normal-mode liquidation closes the trove and splits it. -/
theorem liquidateNormalMode_spec {ZUSDInStabPool : ℕ} {v : LiquidationValues}
    (h : liquidateNormalMode cfg st borrower ZUSDInStabPool = .ok (st', v)) :
    Liquidated ZUSDInStabPool st st' borrower v := by
  unfold liquidateNormalMode at h
  generalize hentire : getEntireDebtAndColl st.troveManager borrower = entire at h
  obtain ⟨debt, coll, pendingDebt, pendingColl⟩ := entire
  simp only [Revert.bind_eq_ok, SafeMath.sub_eq_ok, Revert.pure_eq_ok] at h
  obtain ⟨st₁, hwithdraw, _, ⟨hgas, rfl⟩, ⟨debtToOffset, collToSendToSP, debtToRedistribute,
    collToRedistribute⟩, hvals, st₂, hclose, hres⟩ := h
  simp only [Prod.mk.injEq] at hres
  obtain ⟨rfl, rfl⟩ := hres
  obtain ⟨hdebt, hcoll, hle, hzero⟩ := getOffsetAndRedistributionVals_spec hvals
  refine liquidated_of_close hwithdraw hclose rfl (by rw [hentire]) (by rw [hentire])
    ⟨hdebt, ?_, hzero⟩ hle
  dsimp only
  omega

/-- A recovery-mode liquidation either leaves the trove and the system alone, with all-zero
values, or closes the trove and splits it, for one of three reasons: at most 100% by
redistribution, below `MCR` as in Normal Mode, or below the system's ratio `TCR` with the pool
covering its debt, at the capped rate with the collateral above `MCR` times the debt as
surplus. -/
theorem liquidateRecoveryMode_spec {ICR ZUSDInStabPool TCR price : ℕ} {v : LiquidationValues}
    (h : liquidateRecoveryMode cfg st borrower ICR ZUSDInStabPool TCR price = .ok (st', v)) :
    (st' = st ∧ v = LiquidationValues.zero) ∨
      (Liquidated ZUSDInStabPool st st' borrower v ∧
        (ICR ≤ _100pct ∨ ICR < cfg.params.MCR ∨
          (ICR < TCR ∧ v.entireTroveDebt ≤ ZUSDInStabPool ∧
            v.collSurplus = v.entireTroveColl - v.entireTroveDebt * cfg.params.MCR / price))) := by
  unfold liquidateRecoveryMode at h
  generalize hentire : getEntireDebtAndColl st.troveManager borrower = entire at h
  obtain ⟨debt, coll, pendingDebt, pendingColl⟩ := entire
  split_ifs at h with hlast hlow hmid
  · -- the last trove is never liquidated
    rw [Revert.pure_eq_ok, Prod.mk.injEq] at h
    exact .inl ⟨h.1.symm, h.2.symm⟩
  · -- at most 100%: everything is redistributed
    simp only [Revert.bind_eq_ok, SafeMath.sub_eq_ok, Revert.pure_eq_ok, Prod.mk.injEq] at h
    obtain ⟨_, ⟨hgas, rfl⟩, st₁, hwithdraw, st₂, hclose, rfl, rfl⟩ := h
    refine .inr ⟨liquidated_of_close hwithdraw hclose rfl (by rw [hentire]) (by rw [hentire])
      ⟨by simp [LiquidationValues.zero], by simp [LiquidationValues.zero]; omega, fun _ => rfl⟩
      (Nat.zero_le _), .inl hlow⟩
  · -- between 100% and `MCR`: offset and redistribute as in Normal Mode
    simp only [Revert.bind_eq_ok, SafeMath.sub_eq_ok, Revert.pure_eq_ok] at h
    obtain ⟨_, ⟨hgas, rfl⟩, st₁, hwithdraw, ⟨debtToOffset, collToSendToSP, debtToRedistribute,
      collToRedistribute⟩, hvals, st₂, hclose, hres⟩ := h
    simp only [Prod.mk.injEq] at hres
    obtain ⟨rfl, rfl⟩ := hres
    obtain ⟨hdebt, hcoll, hle, hzero⟩ := getOffsetAndRedistributionVals_spec hvals
    refine .inr ⟨liquidated_of_close hwithdraw hclose rfl (by rw [hentire]) (by rw [hentire])
      ⟨hdebt, ?_, hzero⟩ hle, .inr (.inl hmid.2)⟩
    dsimp only [LiquidationValues.zero]
    omega
  simp only [Revert.bind_eq_ok, SafeMath.sub_eq_ok] at h
  obtain ⟨_, -, h⟩ := h
  split_ifs at h with hcapped
  · -- below the system's ratio with the pool covering the debt: the capped offset
    simp only [Revert.bind_eq_ok, Revert.assert_eq_ok, Revert.pure_eq_ok, Prod.mk.injEq] at h
    obtain ⟨st₁, hmove, _, -, tm, hstake, v, hcapped', st₂, hclose, hst', rfl⟩ := h
    obtain ⟨hsplits, hdebt, hcoll, hoffset, hsurplus⟩ := getCappedOffsetVals_spec hcapped'
    obtain ⟨hkeeps₁, -, hsorted, hpool₁⟩ := movePendingTroveRewardsToActivePool_keeps hmove
    obtain ⟨hkeeps₃, hpool₂, howners, hcontains, hremoved⟩ := closeTrove_keeps hclose
    -- a zero surplus is credited as well: crediting nothing changes nothing
    have hcredit : st' = { st₂ with
        collSurplusPool := st₂.collSurplusPool.accountSurplus borrower v.collSurplus } := by
      rw [← hst']
      split_ifs with hpos
      · rfl
      · rw [Nat.eq_zero_of_not_pos hpos, CollSurplusPool.accountSurplus_zero]
    subst hcredit
    simp only at hcontains hremoved hpool₂ howners
    rw [hsorted] at hcontains hremoved
    refine .inr ⟨⟨?_, hcontains, hremoved, ?_, howners, by rw [hdebt, hentire],
      by rw [hcoll, hentire], hsplits, hoffset ▸ hcapped.2.2⟩,
      .inr (.inr ⟨hcapped.2.1, hdebt ▸ hcapped.2.2, by rw [hsurplus, hdebt, hcoll]⟩)⟩
    · exact (((hkeeps₁.mono fun _ => False.elim).trans (removeStake_keeps hstake)).trans
        hkeeps₃).trans ⟨rfl, rfl, rfl, rfl, rfl, fun _ _ => rfl, fun _ _ => rfl, rfl⟩
    · simp only [CollSurplusPool.accountSurplus, hpool₂, hpool₁]
  · -- a trove that cannot be liquidated is skipped
    rw [Revert.pure_eq_ok, Prod.mk.injEq] at h
    exact .inl ⟨h.1.symm, h.2.symm⟩

end Single

/-! ## The sequences -/

section StepSpecs

variable {cfg : Config} {price : ℕ} {st st' : System} {user : Address}
  {totals totals' : LiquidationTotals}

/-- A normal-mode step is a normal-mode liquidation against the pool's remaining ZUSD, which
then drops by the debt offset, and the liquidation's values are added to the totals. -/
theorem sequenceNormalStep_eq_ok {remaining remaining' : ℕ}
    (h : sequenceNormalStep cfg st user remaining totals = .ok (st', remaining', totals')) :
    ∃ v, liquidateNormalMode cfg st user remaining = .ok (st', v) ∧
      remaining = remaining' + v.debtToOffset ∧ totals' = addLiquidationValuesToTotals totals v := by
  simp only [sequenceNormalStep, Revert.bind_eq_ok] at h
  obtain ⟨⟨st₁, v⟩, hliquidate, h⟩ := h
  simp only [SafeMath.sub_eq_ok, Revert.pure_eq_ok, Prod.mk.injEq] at h
  obtain ⟨_, ⟨hle, rfl⟩, rfl, rfl, rfl⟩ := h
  exact ⟨v, hliquidate, by omega, rfl⟩

/-- A normal-mode step closes the trove, lowers the pool's remaining ZUSD by the debt it offsets
and adds its values to the totals. -/
theorem sequenceNormalStep_spec {remaining remaining' : ℕ}
    (h : sequenceNormalStep cfg st user remaining totals = .ok (st', remaining', totals')) :
    ∃ v, Liquidated remaining st st' user v ∧ remaining = remaining' + v.debtToOffset ∧
      totals' = addLiquidationValuesToTotals totals v := by
  obtain ⟨v, hliquidate, hremaining, rfl⟩ := sequenceNormalStep_eq_ok h
  exact ⟨v, liquidateNormalMode_spec hliquidate, hremaining, rfl⟩

/-- A recovery-mode step is a recovery-mode liquidation against the pool's remaining ZUSD and the
ratio of the tracked totals; the remaining ZUSD and the tracked debt then drop by the debt
offset, the tracked collateral is what `collDrop` returns, and the mode flag is read from the new
tracked totals. -/
theorem sequenceRecoveryStep_eq_ok {collDrop : LiquidationValues → Except String ℕ} {ICR : ℕ}
    {vars vars' : SequenceVars}
    (h : sequenceRecoveryStep cfg price collDrop st user ICR vars totals =
      .ok (st', vars', totals')) :
    ∃ v, liquidateRecoveryMode cfg st user ICR vars.remainingZUSDInStabPool
        (computeCR vars.entireSystemColl vars.entireSystemDebt price) price = .ok (st', v) ∧
      vars.remainingZUSDInStabPool = vars'.remainingZUSDInStabPool + v.debtToOffset ∧
      vars.entireSystemDebt = vars'.entireSystemDebt + v.debtToOffset ∧
      collDrop v = .ok vars'.entireSystemColl ∧
      vars'.backToNormalMode =
        !checkPotentialRecoveryMode cfg price vars'.entireSystemColl vars'.entireSystemDebt ∧
      totals' = addLiquidationValuesToTotals totals v := by
  simp only [sequenceRecoveryStep, Revert.bind_eq_ok] at h
  obtain ⟨⟨st₁, v⟩, hliquidate, h⟩ := h
  simp only [SafeMath.sub_eq_ok, Revert.pure_eq_ok, Prod.mk.injEq] at h
  obtain ⟨_, ⟨hle, rfl⟩, _, ⟨hdebt, rfl⟩, _, hcoll, rfl, rfl, rfl⟩ := h
  exact ⟨v, hliquidate, by dsimp only; omega, by dsimp only; omega, hcoll, rfl, rfl⟩

/-- A recovery-mode step, against the ratio of the tracked totals, skips the trove or closes it
for one of the reasons of `liquidateRecoveryMode_spec`; the remaining ZUSD and the tracked debt
drop by the debt it offsets, the tracked collateral is what `collDrop` returns, and the mode
flag is read from the new tracked totals. -/
theorem sequenceRecoveryStep_spec {collDrop : LiquidationValues → Except String ℕ} {ICR : ℕ}
    {vars vars' : SequenceVars}
    (h : sequenceRecoveryStep cfg price collDrop st user ICR vars totals =
      .ok (st', vars', totals')) :
    ∃ v, ((st' = st ∧ v = LiquidationValues.zero) ∨
        (Liquidated vars.remainingZUSDInStabPool st st' user v ∧
          (ICR ≤ _100pct ∨ ICR < cfg.params.MCR ∨
            (ICR < computeCR vars.entireSystemColl vars.entireSystemDebt price ∧
              v.entireTroveDebt ≤ vars.remainingZUSDInStabPool ∧
              v.collSurplus =
                v.entireTroveColl - v.entireTroveDebt * cfg.params.MCR / price)))) ∧
      vars.remainingZUSDInStabPool = vars'.remainingZUSDInStabPool + v.debtToOffset ∧
      vars.entireSystemDebt = vars'.entireSystemDebt + v.debtToOffset ∧
      collDrop v = .ok vars'.entireSystemColl ∧
      vars'.backToNormalMode =
        !checkPotentialRecoveryMode cfg price vars'.entireSystemColl vars'.entireSystemDebt ∧
      totals' = addLiquidationValuesToTotals totals v := by
  obtain ⟨v, hliquidate, hremaining, hdebt, hcoll, hmode, rfl⟩ := sequenceRecoveryStep_eq_ok h
  exact ⟨v, liquidateRecoveryMode_spec hliquidate, hremaining, hdebt, hcoll, hmode, rfl⟩

/-- Whenever a normal-mode liquidation inside a sequence succeeds, it offsets no more than the
pool's remaining ZUSD, so the step's subtraction does not underflow and the step succeeds. -/
theorem sequenceNormalStep_of_liquidate {remaining : ℕ} {v : LiquidationValues}
    (h : liquidateNormalMode cfg st user remaining = .ok (st', v)) :
    v.debtToOffset ≤ remaining ∧
      sequenceNormalStep cfg st user remaining totals =
        .ok (st', remaining - v.debtToOffset, addLiquidationValuesToTotals totals v) := by
  have hle := (liquidateNormalMode_spec h).debtToOffset_le
  refine ⟨hle, ?_⟩
  simp only [sequenceNormalStep, h, Revert.ok_bind, SafeMath.sub_of_le hle]
  rfl

/-- A recovery-mode liquidation, skipped or not, offsets no more than the pool's remaining ZUSD. -/
theorem liquidateRecoveryMode_debtToOffset_le {ICR ZUSDInStabPool TCR : ℕ} {v : LiquidationValues}
    (h : liquidateRecoveryMode cfg st user ICR ZUSDInStabPool TCR price = .ok (st', v)) :
    v.debtToOffset ≤ ZUSDInStabPool := by
  rcases liquidateRecoveryMode_spec h with ⟨-, rfl⟩ | ⟨hliquidated, -⟩
  · exact Nat.zero_le _
  · exact hliquidated.debtToOffset_le

/-- Whenever a recovery-mode liquidation inside a sequence succeeds, the step's subtraction from
the pool's remaining ZUSD does not underflow: the step is what is left of it once that
subtraction is done. -/
theorem sequenceRecoveryStep_of_liquidate {collDrop : LiquidationValues → Except String ℕ}
    {ICR : ℕ} {vars : SequenceVars} {v : LiquidationValues}
    (h : liquidateRecoveryMode cfg st user ICR vars.remainingZUSDInStabPool
      (computeCR vars.entireSystemColl vars.entireSystemDebt price) price = .ok (st', v)) :
    v.debtToOffset ≤ vars.remainingZUSDInStabPool ∧
      sequenceRecoveryStep cfg price collDrop st user ICR vars totals = (do
        let entireSystemDebt ← SafeMath.sub vars.entireSystemDebt v.debtToOffset
        let entireSystemColl ← collDrop v
        pure (st', ⟨vars.remainingZUSDInStabPool - v.debtToOffset,
          !checkPotentialRecoveryMode cfg price entireSystemColl entireSystemDebt,
          entireSystemDebt, entireSystemColl⟩, addLiquidationValuesToTotals totals v)) := by
  have hle := liquidateRecoveryMode_debtToOffset_le h
  refine ⟨hle, ?_⟩
  simp only [sequenceRecoveryStep, h, Revert.ok_bind, SafeMath.sub_of_le hle, pure_bind]

end StepSpecs

section Log

variable {log : List (Address × LiquidationValues)} {p : Address × LiquidationValues}

/-- The sum over the troves of a log of one of their values. -/
def sumOf (log : List (Address × LiquidationValues)) (f : LiquidationValues → ℕ) : ℕ :=
  (log.map fun p => f p.2).sum

@[simp] theorem sumOf_nil (f : LiquidationValues → ℕ) : sumOf [] f = 0 := rfl

@[simp] theorem sumOf_append_singleton (f : LiquidationValues → ℕ) :
    sumOf (log ++ [p]) f = sumOf log f + f p.2 := by
  simp [sumOf]

/-- The totals of a log's troves, added up in order as the sequences add them. -/
def totalsOf (log : List (Address × LiquidationValues)) : LiquidationTotals :=
  log.foldl (fun totals p => addLiquidationValuesToTotals totals p.2) LiquidationTotals.zero

theorem totalsOf_append_singleton :
    totalsOf (log ++ [p]) = addLiquidationValuesToTotals (totalsOf log) p.2 := by
  rw [totalsOf, List.foldl_append]
  rfl

/-- Each total of a log is the sum of the value it adds up. -/
theorem totalsOf_total {total : LiquidationTotals → ℕ} {f : LiquidationValues → ℕ}
    (hzero : total LiquidationTotals.zero = 0)
    (hadd : ∀ totals v, total (addLiquidationValuesToTotals totals v) = total totals + f v)
    (log : List (Address × LiquidationValues)) : total (totalsOf log) = sumOf log f := by
  induction log using List.reverseRecOn with
  | nil => exact hzero
  | append_singleton log p ih => rw [totalsOf_append_singleton, hadd, ih, sumOf_append_singleton]

/-- A trove that is left alone adds nothing to the totals. -/
@[simp] theorem addLiquidationValuesToTotals_zero (totals : LiquidationTotals) :
    addLiquidationValuesToTotals totals LiquidationValues.zero = totals := rfl

end Log

/-- The invariant of a liquidation sequence started from `st₀`, once it has closed the troves of
`log`, in order and with their values: what `Keeps` names is kept, the closed troves are exactly
the ones taken off the list, each split its entire debt and collateral as they were at the
start, the surplus pool credits each its surplus, the pool's remaining ZUSD is its deposits
less the debt offset so far, and the totals are the log's. -/
structure SequenceAccounts (st₀ st : System) (remaining : ℕ) (totals : LiquidationTotals)
    (log : List (Address × LiquidationValues)) : Prop where
  keeps : Keeps (· ∈ log.map Prod.fst) st₀ st
  nodup : (log.map Prod.fst).Nodup
  contains : ∀ b, st.sortedTroves.contains b = true ↔
    st₀.sortedTroves.contains b = true ∧ b ∉ log.map Prod.fst
  listed : ∀ p ∈ log, st₀.sortedTroves.contains p.1 = true
  entireTroveDebt : ∀ p ∈ log,
    p.2.entireTroveDebt = (getEntireDebtAndColl st₀.troveManager p.1).1
  entireTroveColl : ∀ p ∈ log,
    p.2.entireTroveColl = (getEntireDebtAndColl st₀.troveManager p.1).2.1
  splits : ∀ p ∈ log, p.2.Splits
  credited : ∀ p ∈ log,
    st.collSurplusPool.balances p.1 = st₀.collSurplusPool.balances p.1 + p.2.collSurplus
  uncredited : ∀ b ∉ log.map Prod.fst,
    st.collSurplusPool.balances b = st₀.collSurplusPool.balances b
  remaining : remaining + sumOf log LiquidationValues.debtToOffset =
    st₀.stabilityPool.totalZUSDDeposits
  totals : totals = totalsOf log

namespace SequenceAccounts

variable {st₀ st st' : System} {remaining remaining' : ℕ} {totals totals' : LiquidationTotals}
  {log : List (Address × LiquidationValues)}

/-- A sequence starts with the Stability Pool's deposits, zero totals and nothing closed. -/
theorem init (st : System) :
    SequenceAccounts st st st.stabilityPool.totalZUSDDeposits LiquidationTotals.zero [] where
  keeps := Keeps.refl st
  nodup := List.nodup_nil
  contains _ := by simp
  listed _ h := absurd h List.not_mem_nil
  entireTroveDebt _ h := absurd h List.not_mem_nil
  entireTroveColl _ h := absurd h List.not_mem_nil
  splits _ h := absurd h List.not_mem_nil
  credited _ h := absurd h List.not_mem_nil
  uncredited _ _ := rfl
  remaining := rfl
  totals := rfl

/-- **Step lemma.**  Closing one more trove appends it to the log.  It is new to the log, since
the list held it and the troves of the log are off the list. -/
theorem liquidate {b : Address} {v : LiquidationValues}
    (hacc : SequenceAccounts st₀ st remaining totals log) (hl : Liquidated remaining st st' b v)
    (hremaining : remaining = remaining' + v.debtToOffset) :
    SequenceAccounts st₀ st' remaining' (addLiquidationValuesToTotals totals v)
      (log ++ [(b, v)]) := by
  obtain ⟨hlisted, hnew⟩ := (hacc.contains b).mp hl.contains
  have hne : ∀ p ∈ log, p.1 ≠ b := fun p hp hpb => hnew (hpb ▸ List.mem_map_of_mem hp)
  have hmap : (log ++ [(b, v)]).map Prod.fst = log.map Prod.fst ++ [b] := by simp
  have hcases : ∀ p ∈ log ++ [(b, v)], p ∈ log ∨ p = (b, v) := fun p hp => by simpa using hp
  refine ⟨?_, ?_, fun c => ?_, fun p hp => ?_, fun p hp => ?_, fun p hp => ?_, fun p hp => ?_,
    fun p hp => ?_, fun c hc => ?_, ?_, ?_⟩
  · rw [hmap]
    exact (hacc.keeps.mono fun c hc => List.mem_append_left _ hc).trans
      (hl.keeps.mono fun c hc => List.mem_append_right _ (hc ▸ List.mem_singleton_self c))
  · rw [hmap, List.nodup_append]
    refine ⟨hacc.nodup, List.nodup_singleton b, fun c hc d hd hcd => hnew ?_⟩
    rw [← List.mem_singleton.mp hd, ← hcd]
    exact hc
  · rw [hl.removed, hacc.contains, hmap]
    simp [and_assoc]
  · rcases hcases p hp with hp | rfl
    exacts [hacc.listed p hp, hlisted]
  · rcases hcases p hp with hp | rfl
    exacts [hacc.entireTroveDebt p hp, hl.entireTroveDebt.trans (by rw [hacc.keeps.entire b hnew])]
  · rcases hcases p hp with hp | rfl
    exacts [hacc.entireTroveColl p hp, hl.entireTroveColl.trans (by rw [hacc.keeps.entire b hnew])]
  · rcases hcases p hp with hp | rfl
    exacts [hacc.splits p hp, hl.splits]
  · rcases hcases p hp with hp | rfl
    · rw [hl.balances, Function.update_of_ne (hne p hp), hacc.credited p hp]
    · rw [hl.balances, Function.update_self, hacc.uncredited _ hnew]
  · rw [hmap, List.mem_append, List.mem_singleton, not_or] at hc
    rw [hl.balances, Function.update_of_ne hc.2, hacc.uncredited c hc.1]
  · rw [sumOf_append_singleton, ← hacc.remaining, hremaining]
    dsimp only
    omega
  · rw [hacc.totals, totalsOf_append_singleton]

/-- The debt offset so far is at most what the pool held at the start. -/
theorem debtToOffset_le (hacc : SequenceAccounts st₀ st remaining totals log) :
    sumOf log LiquidationValues.debtToOffset ≤ st₀.stabilityPool.totalZUSDDeposits := by
  have := hacc.remaining
  omega

section Steps

variable {cfg : Config} {price : ℕ} {user : Address}

theorem sequenceNormalStep
    (hacc : SequenceAccounts st₀ st remaining totals log)
    (h : TroveManager.sequenceNormalStep cfg st user remaining totals =
      .ok (st', remaining', totals')) :
    ∃ log', SequenceAccounts st₀ st' remaining' totals' log' := by
  obtain ⟨v, hl, hremaining, rfl⟩ := sequenceNormalStep_spec h
  exact ⟨_, hacc.liquidate hl hremaining⟩

theorem sequenceRecoveryStep {collDrop : LiquidationValues → Except String ℕ} {ICR : ℕ}
    {vars vars' : SequenceVars}
    (hacc : SequenceAccounts st₀ st vars.remainingZUSDInStabPool totals log)
    (h : TroveManager.sequenceRecoveryStep cfg price collDrop st user ICR vars totals =
      .ok (st', vars', totals')) :
    ∃ log', SequenceAccounts st₀ st' vars'.remainingZUSDInStabPool totals' log' := by
  obtain ⟨v, hcases, hremaining, -, -, -, rfl⟩ := sequenceRecoveryStep_spec h
  rcases hcases with ⟨rfl, rfl⟩ | ⟨hl, -⟩
  · -- a skipped trove changes nothing
    rw [addLiquidationValuesToTotals_zero]
    rw [hremaining] at hacc
    exact ⟨log, hacc⟩
  · exact ⟨_, hacc.liquidate hl hremaining⟩

end Steps

end SequenceAccounts

/-! ### Induction rules for the four sequences

Each sequence is a loop over troves whose body is `sequenceNormalStep` or `sequenceRecoveryStep`,
taken under the guard the source tests.  An invariant of the loop's state that each step keeps,
given its guard, holds when the loop ends.  The rules below say so once for each sequence; the
accounts of this module and the eligibility of `TroveManager.Eligibility` are instances. -/

section Induction

variable {cfg : Config} {price : ℕ} {α : Type}

/-- A loop that stops returns its state as it stands. -/
theorem exists_of_stop {I : System → α → LiquidationTotals → Prop} {st st' : System} {a : α}
    {totals totals' : LiquidationTotals} (hI : I st a totals)
    (h : (pure (st, totals) : Except String (System × LiquidationTotals)) = .ok (st', totals')) :
    ∃ a', I st' a' totals' := by
  rw [Revert.pure_eq_ok, Prod.mk.injEq] at h
  obtain ⟨rfl, rfl⟩ := h
  exact ⟨a, hI⟩

/-- **Induction rule** for the sorted sequence in Normal Mode, by induction on the number of
troves it may still close: each step closes the list's last trove, which is below `MCR`. -/
theorem liquidateTrovesSequenceNormalMode_induction {I : System → ℕ → LiquidationTotals → Prop}
    (hstep : ∀ {st st' : System} {remaining remaining' : ℕ} {totals totals' : LiquidationTotals},
      I st remaining totals →
      getCurrentICR st.troveManager st.sortedTroves.tail price < cfg.params.MCR →
      sequenceNormalStep cfg st st.sortedTroves.tail remaining totals =
        .ok (st', remaining', totals') → I st' remaining' totals') :
    ∀ {n : ℕ} {st st' : System} {remaining : ℕ} {totals totals' : LiquidationTotals},
      I st remaining totals →
      liquidateTrovesSequenceNormalMode cfg price n st remaining totals = .ok (st', totals') →
      ∃ remaining', I st' remaining' totals'
  | 0, _, _, _, _, _, hI, h => exists_of_stop hI h
  | n + 1, _, _, _, _, _, hI, h => by
    simp only [liquidateTrovesSequenceNormalMode] at h
    split_ifs at h with hICR
    · -- the last trove is below `MCR`: close it and go on
      rw [Revert.bind_eq_ok] at h
      obtain ⟨⟨st₁, remaining₁, totals₁⟩, hstep₁, hrest⟩ := h
      exact liquidateTrovesSequenceNormalMode_induction hstep (hstep hI hICR hstep₁) hrest
    · exact exists_of_stop hI h

/-- **Induction rule** for the sorted sequence in Recovery Mode: a recovery-mode step while the
tracked ratio is below `CCR`, a normal-mode step of a trove below `MCR` once it is back above,
and never a step at the list's first trove. -/
theorem liquidateTrovesSequenceRecoveryMode_induction {firstUser : Address}
    {I : System → SequenceVars → LiquidationTotals → Prop}
    (hrecovery : ∀ {st st' : System} {user : Address} {vars vars' : SequenceVars}
      {totals totals' : LiquidationTotals}, I st vars totals → user ≠ firstUser →
      vars.backToNormalMode = false →
      sequenceRecoveryStep cfg price (fun single => do
          let coll ← SafeMath.sub vars.entireSystemColl single.collToSendToSP
          SafeMath.sub coll single.collSurplus) st user
        (getCurrentICR st.troveManager user price) vars totals = .ok (st', vars', totals') →
      I st' vars' totals')
    (hnormal : ∀ {st st' : System} {user : Address} {vars : SequenceVars} {remaining' : ℕ}
      {totals totals' : LiquidationTotals}, I st vars totals → user ≠ firstUser →
      vars.backToNormalMode = true → getCurrentICR st.troveManager user price < cfg.params.MCR →
      sequenceNormalStep cfg st user vars.remainingZUSDInStabPool totals =
        .ok (st', remaining', totals') →
      I st' { vars with remainingZUSDInStabPool := remaining' } totals') :
    ∀ {n : ℕ} {st st' : System} {user : Address} {vars : SequenceVars}
      {totals totals' : LiquidationTotals}, I st vars totals →
      liquidateTrovesSequenceRecoveryMode cfg price firstUser n st user vars totals =
        .ok (st', totals') → ∃ vars', I st' vars' totals'
  | 0, _, _, _, _, _, _, hI, h => exists_of_stop hI h
  | n + 1, _, _, _, _, _, _, hI, h => by
    simp only [liquidateTrovesSequenceRecoveryMode] at h
    split_ifs at h with hfirst hmode hbreak hICR
    · exact exists_of_stop hI h
    · exact exists_of_stop hI h
    · rw [Revert.bind_eq_ok] at h
      obtain ⟨⟨st₁, vars₁, totals₁⟩, hstep, hrest⟩ := h
      exact liquidateTrovesSequenceRecoveryMode_induction hrecovery hnormal
        (hrecovery hI hfirst (by simpa using hmode) hstep) hrest
    · rw [Revert.bind_eq_ok] at h
      obtain ⟨⟨st₁, remaining₁, totals₁⟩, hstep, hrest⟩ := h
      exact liquidateTrovesSequenceRecoveryMode_induction hrecovery hnormal
        (hnormal hI hfirst (by simpa using hmode) hICR hstep) hrest
    · exact exists_of_stop hI h

/-- **Induction rule** for the caller's list in Normal Mode, by induction on the list: each step
closes a trove below `MCR`. -/
theorem batchLiquidateSequenceNormalMode_induction {I : System → ℕ → LiquidationTotals → Prop}
    (hstep : ∀ {st st' : System} {user : Address} {remaining remaining' : ℕ}
      {totals totals' : LiquidationTotals}, I st remaining totals →
      getCurrentICR st.troveManager user price < cfg.params.MCR →
      sequenceNormalStep cfg st user remaining totals = .ok (st', remaining', totals') →
      I st' remaining' totals') :
    ∀ {troveArray : List Address} {st st' : System} {remaining : ℕ}
      {totals totals' : LiquidationTotals}, I st remaining totals →
      batchLiquidateSequenceNormalMode cfg price troveArray st remaining totals =
        .ok (st', totals') → ∃ remaining', I st' remaining' totals'
  | [], _, _, _, _, _, hI, h => exists_of_stop hI h
  | _ :: _, _, _, _, _, _, hI, h => by
    simp only [batchLiquidateSequenceNormalMode] at h
    split_ifs at h with hICR
    · rw [Revert.bind_eq_ok] at h
      obtain ⟨⟨st₁, remaining₁, totals₁⟩, hstep₁, hrest⟩ := h
      exact batchLiquidateSequenceNormalMode_induction hstep (hstep hI hICR hstep₁) hrest
    · exact batchLiquidateSequenceNormalMode_induction hstep hI h

/-- **Induction rule** for the caller's list in Recovery Mode: as the sorted sequence, over the
active troves of the list, with the batch's update of the tracked collateral. -/
theorem batchLiquidateSequenceRecoveryMode_induction
    {I : System → SequenceVars → LiquidationTotals → Prop}
    (hrecovery : ∀ {st st' : System} {user : Address} {vars vars' : SequenceVars}
      {totals totals' : LiquidationTotals}, I st vars totals →
      vars.backToNormalMode = false →
      sequenceRecoveryStep cfg price
        (fun single => SafeMath.sub vars.entireSystemColl single.collToSendToSP) st user
        (getCurrentICR st.troveManager user price) vars totals = .ok (st', vars', totals') →
      I st' vars' totals')
    (hnormal : ∀ {st st' : System} {user : Address} {vars : SequenceVars} {remaining' : ℕ}
      {totals totals' : LiquidationTotals}, I st vars totals →
      vars.backToNormalMode = true → getCurrentICR st.troveManager user price < cfg.params.MCR →
      sequenceNormalStep cfg st user vars.remainingZUSDInStabPool totals =
        .ok (st', remaining', totals') →
      I st' { vars with remainingZUSDInStabPool := remaining' } totals') :
    ∀ {troveArray : List Address} {st st' : System} {vars : SequenceVars}
      {totals totals' : LiquidationTotals}, I st vars totals →
      batchLiquidateSequenceRecoveryMode cfg price troveArray st vars totals =
        .ok (st', totals') → ∃ vars', I st' vars' totals'
  | [], _, _, _, _, _, hI, h => exists_of_stop hI h
  | _ :: _, _, _, _, _, _, hI, h => by
    simp only [batchLiquidateSequenceRecoveryMode] at h
    split_ifs at h with hactive hmode hskip hICR
    · exact batchLiquidateSequenceRecoveryMode_induction hrecovery hnormal hI h
    · exact batchLiquidateSequenceRecoveryMode_induction hrecovery hnormal hI h
    · rw [Revert.bind_eq_ok] at h
      obtain ⟨⟨st₁, vars₁, totals₁⟩, hstep, hrest⟩ := h
      exact batchLiquidateSequenceRecoveryMode_induction hrecovery hnormal
        (hrecovery hI (by simpa using hmode) hstep) hrest
    · rw [Revert.bind_eq_ok] at h
      obtain ⟨⟨st₁, remaining₁, totals₁⟩, hstep, hrest⟩ := h
      exact batchLiquidateSequenceRecoveryMode_induction hrecovery hnormal
        (hnormal hI (by simpa using hmode) hICR hstep) hrest
    · exact batchLiquidateSequenceRecoveryMode_induction hrecovery hnormal hI h

end Induction

/-! ### Run lemmas: each sequence keeps the accounts -/

section Runs

variable {cfg : Config} {price : ℕ} {st₀ : System}

theorem liquidateTrovesSequenceNormalMode_accounts {n : ℕ} {st st' : System} {remaining : ℕ}
    {totals totals' : LiquidationTotals} {log : List (Address × LiquidationValues)}
    (hacc : SequenceAccounts st₀ st remaining totals log)
    (h : liquidateTrovesSequenceNormalMode cfg price n st remaining totals = .ok (st', totals')) :
    ∃ remaining' log', SequenceAccounts st₀ st' remaining' totals' log' :=
  @liquidateTrovesSequenceNormalMode_induction cfg price
    (fun st remaining totals => ∃ log, SequenceAccounts st₀ st remaining totals log)
    (fun ⟨_, hacc⟩ _ hstep => hacc.sequenceNormalStep hstep) n st st' remaining totals totals'
    ⟨log, hacc⟩ h

theorem liquidateTrovesSequenceRecoveryMode_accounts {firstUser : Address} {n : ℕ}
    {st st' : System} {user : Address} {vars : SequenceVars} {totals totals' : LiquidationTotals}
    {log : List (Address × LiquidationValues)}
    (hacc : SequenceAccounts st₀ st vars.remainingZUSDInStabPool totals log)
    (h : liquidateTrovesSequenceRecoveryMode cfg price firstUser n st user vars totals =
      .ok (st', totals')) :
    ∃ remaining' log', SequenceAccounts st₀ st' remaining' totals' log' := by
  obtain ⟨vars', log', hacc'⟩ :=
    @liquidateTrovesSequenceRecoveryMode_induction cfg price firstUser
      (fun st vars totals => ∃ log, SequenceAccounts st₀ st vars.remainingZUSDInStabPool totals log)
      (fun ⟨_, hacc⟩ _ _ hstep => hacc.sequenceRecoveryStep hstep)
      (fun ⟨_, hacc⟩ _ _ _ hstep => hacc.sequenceNormalStep hstep) n st st' user vars totals
      totals' ⟨log, hacc⟩ h
  exact ⟨_, log', hacc'⟩

theorem batchLiquidateSequenceNormalMode_accounts {troveArray : List Address} {st st' : System}
    {remaining : ℕ} {totals totals' : LiquidationTotals} {log : List (Address × LiquidationValues)}
    (hacc : SequenceAccounts st₀ st remaining totals log)
    (h : batchLiquidateSequenceNormalMode cfg price troveArray st remaining totals =
      .ok (st', totals')) :
    ∃ remaining' log', SequenceAccounts st₀ st' remaining' totals' log' :=
  @batchLiquidateSequenceNormalMode_induction cfg price
    (fun st remaining totals => ∃ log, SequenceAccounts st₀ st remaining totals log)
    (fun ⟨_, hacc⟩ _ hstep => hacc.sequenceNormalStep hstep) troveArray st st' remaining totals
    totals' ⟨log, hacc⟩ h

theorem batchLiquidateSequenceRecoveryMode_accounts {troveArray : List Address} {st st' : System}
    {vars : SequenceVars} {totals totals' : LiquidationTotals}
    {log : List (Address × LiquidationValues)}
    (hacc : SequenceAccounts st₀ st vars.remainingZUSDInStabPool totals log)
    (h : batchLiquidateSequenceRecoveryMode cfg price troveArray st vars totals =
      .ok (st', totals')) :
    ∃ remaining' log', SequenceAccounts st₀ st' remaining' totals' log' := by
  obtain ⟨vars', log', hacc'⟩ :=
    @batchLiquidateSequenceRecoveryMode_induction cfg price
      (fun st vars totals => ∃ log, SequenceAccounts st₀ st vars.remainingZUSDInStabPool totals log)
      (fun ⟨_, hacc⟩ _ hstep => hacc.sequenceRecoveryStep hstep)
      (fun ⟨_, hacc⟩ _ _ hstep => hacc.sequenceNormalStep hstep) troveArray st st' vars totals
      totals' ⟨log, hacc⟩ h
  exact ⟨_, log', hacc'⟩

end Runs

/-! ## Moving the totals -/

/-- Where ether and debt go in a stretch of a liquidation after its sequence: `toSP` of the
ether of the active and default pools to the Stability Pool, `surplus` to the surplus pool,
`gas` out to the liquidator, and `debt` offset, which leaves the pools' debt, the ZUSD supply
and the Stability Pool's deposits.  The surplus pool's balances, the sorted list, the troves'
records, their owners array and the fee state stay. -/
structure Flow (st st' : System) (toSP surplus gas debt : ℕ) : Prop where
  ETH : st'.activePool.ETH + st'.defaultPool.ETH + toSP + surplus + gas =
    st.activePool.ETH + st.defaultPool.ETH
  stabilityPool_ETH : st'.stabilityPool.ETH = st.stabilityPool.ETH + toSP
  collSurplusPool_ETH : st'.collSurplusPool.ETH = st.collSurplusPool.ETH + surplus
  balances : st'.collSurplusPool.balances = st.collSurplusPool.balances
  ZUSDDebt : st'.activePool.ZUSDDebt + st'.defaultPool.ZUSDDebt + debt =
    st.activePool.ZUSDDebt + st.defaultPool.ZUSDDebt
  totalSupply : st'.zusdToken.totalSupply + debt = st.zusdToken.totalSupply
  deposits : st'.stabilityPool.totalZUSDDeposits + debt = st.stabilityPool.totalZUSDDeposits
  sortedTroves : st'.sortedTroves = st.sortedTroves
  Troves : st'.troveManager.Troves = st.troveManager.Troves
  TroveOwners : st'.troveManager.TroveOwners = st.troveManager.TroveOwners
  fees : st'.troveManager.fees = st.troveManager.fees

namespace Flow

variable {st₁ st₂ st₃ : System} {a₁ b₁ c₁ d₁ a₂ b₂ c₂ d₂ : ℕ}

/-- A stretch that moves no ether and offsets no debt. -/
theorem of_frame (hactive : st₂.activePool = st₁.activePool)
    (hdefault : st₂.defaultPool = st₁.defaultPool)
    (hsurplus : st₂.collSurplusPool = st₁.collSurplusPool)
    (hETH : st₂.stabilityPool.ETH = st₁.stabilityPool.ETH)
    (hdeposits : st₂.stabilityPool.totalZUSDDeposits = st₁.stabilityPool.totalZUSDDeposits)
    (hsupply : st₂.zusdToken.totalSupply = st₁.zusdToken.totalSupply)
    (hsorted : st₂.sortedTroves = st₁.sortedTroves)
    (hTroves : st₂.troveManager.Troves = st₁.troveManager.Troves)
    (hOwners : st₂.troveManager.TroveOwners = st₁.troveManager.TroveOwners)
    (hfees : st₂.troveManager.fees = st₁.troveManager.fees) :
    Flow st₁ st₂ 0 0 0 0 where
  ETH := by rw [hactive, hdefault]; rfl
  stabilityPool_ETH := hETH
  collSurplusPool_ETH := by rw [hsurplus]; rfl
  balances := by rw [hsurplus]
  ZUSDDebt := by rw [hactive, hdefault]; rfl
  totalSupply := hsupply
  deposits := hdeposits
  sortedTroves := hsorted
  Troves := hTroves
  TroveOwners := hOwners
  fees := hfees

theorem refl (st : System) : Flow st st 0 0 0 0 :=
  of_frame rfl rfl rfl rfl rfl rfl rfl rfl rfl rfl

/-- Flows compose, and their amounts add. -/
theorem trans (h₁ : Flow st₁ st₂ a₁ b₁ c₁ d₁) (h₂ : Flow st₂ st₃ a₂ b₂ c₂ d₂) :
    Flow st₁ st₃ (a₁ + a₂) (b₁ + b₂) (c₁ + c₂) (d₁ + d₂) where
  ETH := by have := h₁.ETH; have := h₂.ETH; omega
  stabilityPool_ETH := by rw [h₂.stabilityPool_ETH, h₁.stabilityPool_ETH, Nat.add_assoc]
  collSurplusPool_ETH := by rw [h₂.collSurplusPool_ETH, h₁.collSurplusPool_ETH, Nat.add_assoc]
  balances := h₂.balances.trans h₁.balances
  ZUSDDebt := by have := h₁.ZUSDDebt; have := h₂.ZUSDDebt; omega
  totalSupply := by have := h₁.totalSupply; have := h₂.totalSupply; omega
  deposits := by have := h₁.deposits; have := h₂.deposits; omega
  sortedTroves := h₂.sortedTroves.trans h₁.sortedTroves
  Troves := h₂.Troves.trans h₁.Troves
  TroveOwners := h₂.TroveOwners.trans h₁.TroveOwners
  fees := h₂.fees.trans h₁.fees

end Flow

section Finish

variable {cfg : Config} {st st' : System}

/-- Moving an offset takes its ether from the active pool to the Stability Pool and burns its
debt from the active pool, the ZUSD supply and the pool's deposits. -/
theorem moveOffsetCollAndDebt_flow {collToAdd debtToOffset : ℕ}
    (h : StabilityPool.moveOffsetCollAndDebt cfg st collToAdd debtToOffset = .ok st') :
    Flow st st' collToAdd 0 0 debtToOffset := by
  simp only [StabilityPool.moveOffsetCollAndDebt, Revert.bind_eq_ok,
    ActivePool.decreaseZUSDDebt_eq_ok, SafeMath.sub_eq_ok, ZUSDToken.burn_eq_ok,
    ActivePool.sendETH_eq_ok, Revert.pure_eq_ok] at h
  obtain ⟨_, ⟨hdebt, rfl⟩, total, ⟨hle, rfl⟩, l, ⟨-, hburn⟩, _, ⟨hcoll, rfl⟩, rfl⟩ := h
  obtain ⟨hsupply, hcovered⟩ := Ledger.burn_totalSupply hburn
  dsimp only at hcoll
  refine ⟨?_, rfl, rfl, rfl, ?_, ?_, ?_, rfl, rfl, rfl, rfl⟩
  all_goals dsimp only
  all_goals omega

/-- An offset moves what `moveOffsetCollAndDebt` moves; when the pool is empty or there is no
debt it moves nothing, and then there is no collateral for the pool either. -/
theorem offset_flow {debtToOffset collToAdd : ℕ}
    (hle : debtToOffset ≤ st.stabilityPool.totalZUSDDeposits)
    (hcoll : debtToOffset = 0 → collToAdd = 0)
    (h : StabilityPool.offset cfg st debtToOffset collToAdd = .ok st') :
    Flow st st' collToAdd 0 0 debtToOffset := by
  simp only [StabilityPool.offset] at h
  split_ifs at h with hempty
  · rw [Revert.pure_eq_ok] at h
    subst h
    have hdebt : debtToOffset = 0 := by omega
    rw [hdebt, hcoll hdebt]
    exact Flow.refl st
  · simp only [Revert.bind_eq_ok] at h
    obtain ⟨st₁, hissue, ⟨sp₁, ETHGain, ZUSDLoss⟩, hrewards, sp₂, hproduct, hmove⟩ := h
    simp only at hproduct
    obtain ⟨ci, sp, rfl, htotal₁, hETH₁⟩ := StabilityPool.triggerZEROIssuance_frame hissue
    obtain ⟨htotal₂, hETH₂⟩ := StabilityPool.computeRewardsPerUnitStaked_frame hrewards
    obtain ⟨htotal₃, hETH₃⟩ := StabilityPool.updateRewardSumAndProduct_frame hproduct
    -- issuing ZERO and updating `S`, `P` and `G` move nothing
    have hupdate : Flow st { st with communityIssuance := ci, stabilityPool := sp₂ } 0 0 0 0 :=
      Flow.of_frame rfl rfl rfl ((hETH₃.trans hETH₂).trans hETH₁)
        ((htotal₃.trans htotal₂).trans htotal₁) rfl rfl rfl rfl rfl
    simpa only [Nat.zero_add] using hupdate.trans (moveOffsetCollAndDebt_flow hmove)

/-- A redistribution moves ether and debt from the active pool to the default pool. -/
theorem redistributeDebtAndColl_flow {debt coll : ℕ}
    (h : redistributeDebtAndColl st debt coll = .ok st') : Flow st st' 0 0 0 0 := by
  unfold redistributeDebtAndColl at h
  split_ifs at h
  · rw [Revert.pure_eq_ok] at h
    exact h ▸ Flow.refl st
  · simp only [Revert.bind_eq_ok, SafeMath.div_eq_ok, SafeMath.sub_eq_ok,
      ActivePool.decreaseZUSDDebt_eq_ok, ActivePool.sendETH_eq_ok, Revert.pure_eq_ok] at h
    -- the quotients stay named, as in `redistributeDebtAndColl_L`
    obtain ⟨_, -, _, -, _, -, _, -, _, ⟨hdebt, rfl⟩, _, ⟨hcoll, rfl⟩, rfl⟩ := h
    dsimp only at hcoll
    refine ⟨?_, rfl, rfl, rfl, ?_, rfl, rfl, rfl, rfl, rfl, rfl⟩
    all_goals dsimp only [DefaultPool.receive, DefaultPool.increaseZUSDDebt]
    all_goals omega

theorem updateSystemSnapshotsExcludeCollRemainder_flow {collRemainder : ℕ}
    (h : updateSystemSnapshotsExcludeCollRemainder st collRemainder = .ok st') :
    Flow st st' 0 0 0 0 := by
  simp only [updateSystemSnapshotsExcludeCollRemainder, Revert.bind_eq_ok, SafeMath.sub_eq_ok,
    Revert.pure_eq_ok] at h
  obtain ⟨_, -, rfl⟩ := h
  exact Flow.of_frame rfl rfl rfl rfl rfl rfl rfl rfl rfl rfl

/-- Sending ether out of the active pool. -/
theorem Flow.sendETH {ETH : ℕ} (hle : ETH ≤ st.activePool.ETH) :
    Flow st { st with activePool := { st.activePool with ETH := st.activePool.ETH - ETH } }
      0 0 ETH 0 := by
  refine ⟨?_, rfl, rfl, rfl, rfl, rfl, rfl, rfl, rfl, rfl, rfl⟩
  dsimp only
  omega

/-- The gas compensation sends the active pool's ether out; its ZUSD moves from the gas pool to
the liquidator and leaves the supply alone. -/
theorem sendGasCompensation_flow {liquidator : Address} {ZUSD ETH : ℕ}
    (h : sendGasCompensation cfg st liquidator ZUSD ETH = .ok st') : Flow st st' 0 0 ETH 0 := by
  unfold sendGasCompensation at h
  split_ifs at h with hETH hZUSD hZUSD
  all_goals simp only [Revert.bind_eq_ok, ZUSDToken.transfer_eq_ok, ActivePool.sendETH_eq_ok,
    Revert.pure_eq_ok] at h
  · obtain ⟨l, ⟨-, -, htransfer⟩, _, rfl, _, ⟨hle, rfl⟩, rfl⟩ := h
    simpa only [Nat.zero_add] using (@Flow.of_frame st { st with zusdToken := l } rfl rfl rfl rfl
      rfl (Ledger.transfer_totalSupply htransfer) rfl rfl rfl rfl).trans (Flow.sendETH hle)
  · obtain ⟨_, rfl, _, ⟨hle, rfl⟩, rfl⟩ := h
    exact Flow.sendETH hle
  · obtain ⟨l, ⟨-, -, htransfer⟩, _, rfl, rfl⟩ := h
    rw [Nat.eq_zero_of_not_pos hETH]
    exact Flow.of_frame rfl rfl rfl rfl rfl (Ledger.transfer_totalSupply htransfer) rfl rfl rfl
      rfl
  · obtain ⟨_, rfl, rfl⟩ := h
    rw [Nat.eq_zero_of_not_pos hETH]
    exact Flow.refl st

/-- The steps of the tail: the offset, the redistribution, the surplus, if any, from the active
pool to the surplus pool, the system snapshots and the gas compensation. -/
theorem finishLiquidation_eq_ok {liquidator : Address} {totals : LiquidationTotals}
    (h : finishLiquidation cfg st liquidator totals = .ok st') :
    ∃ st₁ st₂ st₃ st₄,
      StabilityPool.offset cfg st totals.totalDebtToOffset totals.totalCollToSendToSP = .ok st₁ ∧
      redistributeDebtAndColl st₁ totals.totalDebtToRedistribute totals.totalCollToRedistribute =
        .ok st₂ ∧
      Flow st₂ st₃ 0 totals.totalCollSurplus 0 0 ∧ st₃.defaultPool = st₂.defaultPool ∧
      updateSystemSnapshotsExcludeCollRemainder st₃ totals.totalCollGasCompensation = .ok st₄ ∧
      sendGasCompensation cfg st₄ liquidator totals.totalZUSDGasCompensation
        totals.totalCollGasCompensation = .ok st' := by
  simp only [finishLiquidation, Revert.bind_eq_ok, Revert.require_eq_ok] at h
  obtain ⟨_, -, st₁, hoffset, st₂, hredistribute, h⟩ := h
  split_ifs at h with hpos
  · simp only [Revert.bind_eq_ok, ActivePool.sendETH_eq_ok, Revert.pure_eq_ok] at h
    obtain ⟨_, ⟨hle, rfl⟩, st₃, hst₃, st₄, hsnapshots, _, -, _, -, hgas⟩ := h
    refine ⟨st₁, st₂, st₃, st₄, hoffset, hredistribute, ?_, by rw [← hst₃], hsnapshots, hgas⟩
    subst hst₃
    refine ⟨?_, rfl, rfl, rfl, rfl, rfl, rfl, rfl, rfl, rfl, rfl⟩
    dsimp only
    omega
  · simp only [Revert.bind_eq_ok, Revert.pure_eq_ok] at h
    obtain ⟨_, rfl, st₄, hsnapshots, _, -, _, -, hgas⟩ := h
    refine ⟨st₁, st₂, st₂, st₄, hoffset, hredistribute, ?_, rfl, hsnapshots, hgas⟩
    rw [Nat.eq_zero_of_not_pos hpos]
    exact Flow.refl st₂

/-- The tail of a liquidation moves each total where it belongs: the offset to the Stability
Pool, the redistribution to the default pool, the surplus to the surplus pool and the gas
compensation to the liquidator. -/
theorem finishLiquidation_flow {liquidator : Address} {totals : LiquidationTotals}
    (hle : totals.totalDebtToOffset ≤ st.stabilityPool.totalZUSDDeposits)
    (hcoll : totals.totalDebtToOffset = 0 → totals.totalCollToSendToSP = 0)
    (h : finishLiquidation cfg st liquidator totals = .ok st') :
    Flow st st' totals.totalCollToSendToSP totals.totalCollSurplus
      totals.totalCollGasCompensation totals.totalDebtToOffset := by
  obtain ⟨st₁, st₂, st₃, st₄, hoffset, hredistribute, h₃, -, hsnapshots, hgas⟩ :=
    finishLiquidation_eq_ok h
  have hflow := ((((offset_flow hle hcoll hoffset).trans
    (redistributeDebtAndColl_flow hredistribute)).trans h₃).trans
    (updateSystemSnapshotsExcludeCollRemainder_flow hsnapshots)).trans (sendGasCompensation_flow hgas)
  simpa only [Nat.add_zero, Nat.zero_add] using hflow

end Finish

/-! ## A liquidation call as a whole -/

/-- What a liquidation call from `st` to `st'` does, with `log` the troves it closed, in order,
with their values.  The closed troves are exactly those the call took off the list, each once;
each one's entire debt and collateral at the call's start are split exactly; the debt offset
is at most what the Stability Pool held.  The ether that leaves the active and default pools is
what the Stability Pool, the surplus pool and the liquidator receive, the surplus pool credits
each borrower its surplus and no one else, and the offset debt leaves the pools' debt, the ZUSD
supply and the Stability Pool's deposits alike. -/
structure LiquidationAccounts (st st' : System) (log : List (Address × LiquidationValues)) :
    Prop where
  nodup : (log.map Prod.fst).Nodup
  closed : ∀ b, b ∈ log.map Prod.fst ↔
    st.sortedTroves.contains b = true ∧ st'.sortedTroves.contains b = false
  entireTroveDebt : ∀ p ∈ log,
    p.2.entireTroveDebt = (getEntireDebtAndColl st.troveManager p.1).1
  entireTroveColl : ∀ p ∈ log,
    p.2.entireTroveColl = (getEntireDebtAndColl st.troveManager p.1).2.1
  splits : ∀ p ∈ log, p.2.Splits
  debtToOffset_le : sumOf log LiquidationValues.debtToOffset ≤ st.stabilityPool.totalZUSDDeposits
  ETH : st'.activePool.ETH + st'.defaultPool.ETH + sumOf log LiquidationValues.collToSendToSP +
      sumOf log LiquidationValues.collSurplus + sumOf log LiquidationValues.collGasCompensation =
    st.activePool.ETH + st.defaultPool.ETH
  stabilityPool_ETH :
    st'.stabilityPool.ETH = st.stabilityPool.ETH + sumOf log LiquidationValues.collToSendToSP
  collSurplusPool_ETH :
    st'.collSurplusPool.ETH = st.collSurplusPool.ETH + sumOf log LiquidationValues.collSurplus
  credited : ∀ p ∈ log,
    st'.collSurplusPool.balances p.1 = st.collSurplusPool.balances p.1 + p.2.collSurplus
  uncredited : ∀ b ∉ log.map Prod.fst,
    st'.collSurplusPool.balances b = st.collSurplusPool.balances b
  ZUSDDebt : st'.activePool.ZUSDDebt + st'.defaultPool.ZUSDDebt +
      sumOf log LiquidationValues.debtToOffset = st.activePool.ZUSDDebt + st.defaultPool.ZUSDDebt
  totalSupply :
    st'.zusdToken.totalSupply + sumOf log LiquidationValues.debtToOffset = st.zusdToken.totalSupply
  deposits : st'.stabilityPool.totalZUSDDeposits + sumOf log LiquidationValues.debtToOffset =
    st.stabilityPool.totalZUSDDeposits

/-- Troves that offset no debt send no collateral to the Stability Pool. -/
theorem sumOf_collToSendToSP_eq_zero {log : List (Address × LiquidationValues)}
    (hsplits : ∀ p ∈ log, p.2.Splits) (h : sumOf log LiquidationValues.debtToOffset = 0) :
    sumOf log LiquidationValues.collToSendToSP = 0 := by
  simp only [sumOf, List.sum_eq_zero_iff, List.mem_map, forall_exists_index, and_imp,
    forall_apply_eq_imp_iff₂] at h ⊢
  intro p hp
  exact (hsplits p hp).collToSendToSP_eq_zero (h p hp)


section Calls

variable {cfg : Config} {st st₁ st' : System} {liquidator : Address}

/-- A `liquidateTroves` call runs the sorted sequence of its mode, then the tail. -/
theorem liquidateTroves_cases {n : ℕ} (h : liquidateTroves cfg st liquidator n = .ok st') :
    ∃ st₁ totals,
      ((checkRecoveryMode cfg st st.price = true ∧
          liquidateTrovesSequenceRecoveryMode cfg st.price st.sortedTroves.head n st
            st.sortedTroves.tail (SequenceVars.init st st.stabilityPool.totalZUSDDeposits)
            LiquidationTotals.zero = .ok (st₁, totals)) ∨
        (checkRecoveryMode cfg st st.price = false ∧
          liquidateTrovesSequenceNormalMode cfg st.price n st st.stabilityPool.totalZUSDDeposits
            LiquidationTotals.zero = .ok (st₁, totals))) ∧
      finishLiquidation cfg st₁ liquidator totals = .ok st' := by
  by_cases hmode : checkRecoveryMode cfg st st.price = true
  all_goals simp only [liquidateTroves, hmode, Bool.false_eq_true, ↓reduceIte,
    Revert.bind_eq_ok] at h
  all_goals obtain ⟨⟨st₁, totals⟩, hsequence, hfinish⟩ := h
  · exact ⟨st₁, totals, .inl ⟨hmode, hsequence⟩, hfinish⟩
  · exact ⟨st₁, totals, .inr ⟨Bool.eq_false_iff.2 hmode, hsequence⟩, hfinish⟩

/-- A `batchLiquidateTroves` call runs the caller's list in its mode, then the tail. -/
theorem batchLiquidateTroves_cases {troveArray : List Address}
    (h : batchLiquidateTroves cfg st liquidator troveArray = .ok st') :
    ∃ st₁ totals,
      ((checkRecoveryMode cfg st st.price = true ∧
          batchLiquidateSequenceRecoveryMode cfg st.price troveArray st
            (SequenceVars.init st st.stabilityPool.totalZUSDDeposits) LiquidationTotals.zero =
            .ok (st₁, totals)) ∨
        (checkRecoveryMode cfg st st.price = false ∧
          batchLiquidateSequenceNormalMode cfg st.price troveArray st
            st.stabilityPool.totalZUSDDeposits LiquidationTotals.zero = .ok (st₁, totals))) ∧
      finishLiquidation cfg st₁ liquidator totals = .ok st' := by
  by_cases hmode : checkRecoveryMode cfg st st.price = true
  all_goals simp only [batchLiquidateTroves, hmode, Bool.false_eq_true, ↓reduceIte,
    Revert.bind_eq_ok, Revert.require_eq_ok] at h
  all_goals obtain ⟨_, -, ⟨st₁, totals⟩, hsequence, hfinish⟩ := h
  · exact ⟨st₁, totals, .inl ⟨hmode, hsequence⟩, hfinish⟩
  · exact ⟨st₁, totals, .inr ⟨Bool.eq_false_iff.2 hmode, hsequence⟩, hfinish⟩

/-- The sequence's invariant gives the hypotheses of the tail's flow, whose amounts are then
the sums over the log. -/
theorem SequenceAccounts.finish_flow {remaining : ℕ} {totals : LiquidationTotals}
    {log : List (Address × LiquidationValues)}
    (hacc : SequenceAccounts st st₁ remaining totals log)
    (h : finishLiquidation cfg st₁ liquidator totals = .ok st') :
    Flow st₁ st' (sumOf log LiquidationValues.collToSendToSP)
      (sumOf log LiquidationValues.collSurplus) (sumOf log LiquidationValues.collGasCompensation)
      (sumOf log LiquidationValues.debtToOffset) := by
  -- each total the tail moves is the sum over the log
  have hsum : ∀ {total : LiquidationTotals → ℕ} {f : LiquidationValues → ℕ},
      total LiquidationTotals.zero = 0 →
      (∀ t v, total (addLiquidationValuesToTotals t v) = total t + f v) →
      total totals = sumOf log f := fun hzero hadd => hacc.totals ▸ totalsOf_total hzero hadd log
  have hoffset : totals.totalDebtToOffset = sumOf log LiquidationValues.debtToOffset :=
    hsum rfl fun _ _ => rfl
  have htoSP : totals.totalCollToSendToSP = sumOf log LiquidationValues.collToSendToSP :=
    hsum rfl fun _ _ => rfl
  have hsurplus : totals.totalCollSurplus = sumOf log LiquidationValues.collSurplus :=
    hsum rfl fun _ _ => rfl
  have hgas : totals.totalCollGasCompensation =
      sumOf log LiquidationValues.collGasCompensation := hsum rfl fun _ _ => rfl
  have hle := hacc.debtToOffset_le
  have hflow := finishLiquidation_flow
    (by rw [hoffset, hacc.keeps.stabilityPool]; exact hle)
    (by rw [hoffset, htoSP]; exact sumOf_collToSendToSP_eq_zero hacc.splits) h
  rwa [hoffset, htoSP, hsurplus, hgas] at hflow

/-- The sequence's invariant and the tail's flow give the call's accounts. -/
theorem SequenceAccounts.finish {remaining : ℕ} {totals : LiquidationTotals}
    {log : List (Address × LiquidationValues)}
    (hacc : SequenceAccounts st st₁ remaining totals log)
    (h : finishLiquidation cfg st₁ liquidator totals = .ok st') :
    LiquidationAccounts st st' log := by
  have hflow := hacc.finish_flow h
  have hle := hacc.debtToOffset_le
  refine ⟨hacc.nodup, fun b => ?_, hacc.entireTroveDebt, hacc.entireTroveColl, hacc.splits, hle,
    hflow.ETH.trans hacc.keeps.ETH, ?_, ?_, fun p hp => ?_, fun b hb => ?_,
    hflow.ZUSDDebt.trans hacc.keeps.ZUSDDebt, ?_, ?_⟩
  · -- the tail leaves the list alone: the closed troves are those the sequence took off
    have hcontains := hacc.contains b
    rw [← hflow.sortedTroves] at hcontains
    constructor
    · intro hb
      obtain ⟨p, hp, rfl⟩ := List.mem_map.mp hb
      refine ⟨hacc.listed p hp, ?_⟩
      by_contra hst'
      exact ((hcontains.mp (Bool.not_eq_false _ ▸ hst')).2 hb).elim
    · rintro ⟨hst, hst'⟩
      by_contra hb
      simp [hcontains.mpr ⟨hst, hb⟩] at hst'
  · rw [hflow.stabilityPool_ETH, hacc.keeps.stabilityPool]
  · rw [hflow.collSurplusPool_ETH, hacc.keeps.collSurplusPool_ETH]
  · rw [hflow.balances, hacc.credited p hp]
  · rw [hflow.balances, hacc.uncredited b hb]
  · rw [← hacc.keeps.zusdToken]
    exact hflow.totalSupply
  · rw [← hacc.keeps.stabilityPool]
    exact hflow.deposits

/-- Source `liquidateTroves`: the sorted sequence in either mode, which the sequence's invariant
accounts for, then the tail. -/
theorem liquidateTroves_sequence {n : ℕ} (h : liquidateTroves cfg st liquidator n = .ok st') :
    ∃ st₁ remaining totals log, SequenceAccounts st st₁ remaining totals log ∧
      finishLiquidation cfg st₁ liquidator totals = .ok st' := by
  obtain ⟨st₁, totals, hsequence, hfinish⟩ := liquidateTroves_cases h
  obtain ⟨remaining, log, hacc⟩ : ∃ remaining log, SequenceAccounts st st₁ remaining totals log := by
    rcases hsequence with ⟨-, hsequence⟩ | ⟨-, hsequence⟩
    · exact liquidateTrovesSequenceRecoveryMode_accounts (SequenceAccounts.init st) hsequence
    · exact liquidateTrovesSequenceNormalMode_accounts (SequenceAccounts.init st) hsequence
  exact ⟨st₁, remaining, totals, log, hacc, hfinish⟩

/-- Source `batchLiquidateTroves`: the caller's list in either mode, which the sequence's
invariant accounts for, then the tail. -/
theorem batchLiquidateTroves_sequence {troveArray : List Address}
    (h : batchLiquidateTroves cfg st liquidator troveArray = .ok st') :
    ∃ st₁ remaining totals log, SequenceAccounts st st₁ remaining totals log ∧
      finishLiquidation cfg st₁ liquidator totals = .ok st' := by
  obtain ⟨st₁, totals, hsequence, hfinish⟩ := batchLiquidateTroves_cases h
  obtain ⟨remaining, log, hacc⟩ : ∃ remaining log, SequenceAccounts st st₁ remaining totals log := by
    rcases hsequence with ⟨-, hsequence⟩ | ⟨-, hsequence⟩
    · exact batchLiquidateSequenceRecoveryMode_accounts (SequenceAccounts.init st) hsequence
    · exact batchLiquidateSequenceNormalMode_accounts (SequenceAccounts.init st) hsequence
  exact ⟨st₁, remaining, totals, log, hacc, hfinish⟩

theorem liquidateTroves_accounts {n : ℕ} (h : liquidateTroves cfg st liquidator n = .ok st') :
    ∃ log, LiquidationAccounts st st' log := by
  obtain ⟨st₁, remaining, totals, log, hacc, hfinish⟩ := liquidateTroves_sequence h
  exact ⟨log, hacc.finish hfinish⟩

theorem batchLiquidateTroves_accounts {troveArray : List Address}
    (h : batchLiquidateTroves cfg st liquidator troveArray = .ok st') :
    ∃ log, LiquidationAccounts st st' log := by
  obtain ⟨st₁, remaining, totals, log, hacc, hfinish⟩ := batchLiquidateTroves_sequence h
  exact ⟨log, hacc.finish hfinish⟩

end Calls

end ZeroProtocol.TroveManager

namespace ZeroProtocol

/-- The calls that liquidate: `liquidate`, `liquidateTroves` and `batchLiquidateTroves`. -/
def Op.isLiquidation : Op → Bool
  | .liquidate .. | .liquidateTroves .. | .batchLiquidateTroves .. => true
  | _ => false

namespace TroveManager

/-- Every liquidation call that succeeds, from any state, in Normal or Recovery Mode, accounts
for the value it moves: the liquidated troves' entire debt and collateral split exactly, and what
leaves the active and default pools arrives in the Stability Pool, the surplus pool and the
liquidator's hands.  The pool's ZUSD that a sequence tracks never underflows: in either mode a
step whose liquidation succeeds offsets no more than the ZUSD left, and the step's subtraction of
it succeeds. -/
theorem liquidation_conserves_value {cfg : Config} {gas : ℕ} {st st' : System} {op : Op}
    (hop : op.isLiquidation = true) (h : op.run cfg gas st = .ok st') :
    (∃ log, LiquidationAccounts st st' log) ∧
    (∀ (s s₁ : System) (user : Address) (remaining : ℕ) (totals : LiquidationTotals)
        (v : LiquidationValues), liquidateNormalMode cfg s user remaining = .ok (s₁, v) →
      v.debtToOffset ≤ remaining ∧ sequenceNormalStep cfg s user remaining totals =
        .ok (s₁, remaining - v.debtToOffset, addLiquidationValuesToTotals totals v)) ∧
    (∀ (price : ℕ) (collDrop : LiquidationValues → Except String ℕ) (s s₁ : System)
        (user : Address) (ICR : ℕ) (vars : SequenceVars) (totals : LiquidationTotals)
        (v : LiquidationValues),
      liquidateRecoveryMode cfg s user ICR vars.remainingZUSDInStabPool
          (LiquityMath.computeCR vars.entireSystemColl vars.entireSystemDebt price) price =
        .ok (s₁, v) →
      v.debtToOffset ≤ vars.remainingZUSDInStabPool ∧
        sequenceRecoveryStep cfg price collDrop s user ICR vars totals = (do
          let entireSystemDebt ← SafeMath.sub vars.entireSystemDebt v.debtToOffset
          let entireSystemColl ← collDrop v
          pure (s₁, ⟨vars.remainingZUSDInStabPool - v.debtToOffset,
            !checkPotentialRecoveryMode cfg price entireSystemColl entireSystemDebt,
            entireSystemDebt, entireSystemColl⟩, addLiquidationValuesToTotals totals v))) := by
  refine ⟨?_, fun _ _ _ _ _ _ hliquidate => sequenceNormalStep_of_liquidate hliquidate,
    fun _ _ _ _ _ _ _ _ _ hliquidate => sequenceRecoveryStep_of_liquidate hliquidate⟩
  cases op with
  | liquidate liquidator borrower =>
    simp only [Op.run, liquidate, Revert.require_bind_eq_ok] at h
    exact batchLiquidateTroves_accounts h.2
  | liquidateTroves liquidator n => exact liquidateTroves_accounts h
  | batchLiquidateTroves liquidator troveArray => exact batchLiquidateTroves_accounts h
  | _ => simp [Op.isLiquidation] at hop

/-- Accounts `1` and `2` open troves with 100 ether and 2000 ZUSD each and account `3` one of
300 ZUSD of debt with 2.5 ether; account `1` deposits 600 ZUSD in the Stability Pool, and the
price falls to 100 ZUSD, which puts trove `3` below `MCR`. -/
def liquidationRun : List (Op × ℕ) :=
  [(.openTrove 1 (100 * 10 ^ 18) (10 ^ 18) (2000 * 10 ^ 18) 0 0, 10),
   (.openTrove 2 (100 * 10 ^ 18) (10 ^ 18) (2000 * 10 ^ 18) 0 0, 10),
   (.openTrove 3 (25 * 10 ^ 17) (10 ^ 18) 278606965174129353234 0 0, 10),
   (.provideToSP 1 (600 * 10 ^ 18) 0, 0),
   (.setPrice (100 * 10 ^ 18), 0)]

/-- The states of `liquidationRun` that the examples of this and later modules read, from one
evaluation of the run: after it, the system is in Normal Mode, trove `1` is active and can draw
100 ZUSD more, and the normal-mode liquidation of trove `3` offsets debt against the pool; after
`liquidateTroves`, trove `3` is closed, trove `1` still listed, the product `P` has fallen, and the
deposit of account `1` is positive and small enough for its views not to overflow. -/
theorem liquidationRun_states :
    ∃ st, Reachable Config.sample System.sample st ∧
      (LiquityBase.checkRecoveryMode Config.sample st st.price = false ∧
        (st.troveManager.Troves 1).status = .active ∧
        (∃ st₁, (Op.withdrawZUSD 1 (10 ^ 18) (100 * 10 ^ 18) 0 0).run Config.sample 10 st =
          .ok st₁) ∧
        ∃ r, liquidateNormalMode Config.sample st 3 st.stabilityPool.totalZUSDDeposits = .ok r ∧
          0 < r.2.debtToOffset) ∧
      ∃ st', (Op.liquidateTroves 5 10).run Config.sample 0 st = .ok st' ∧
        st'.stabilityPool.P < st.stabilityPool.P ∧
        0 < st'.zusdToken.totalSupply ∧
        0 < (st'.stabilityPool.deposits 1).initialValue ∧
        (st'.stabilityPool.deposits 1).initialValue * st'.stabilityPool.P ≤ MAX_UINT256 ∧
        (st'.troveManager.Troves 3).status ≠ .active ∧
        st'.sortedTroves.contains 1 = true := by
  -- one evaluation: the calls after the run are checked inside the check of its last state
  obtain ⟨st, hreach, ⟨hmode, hactive, hwithdraw, hstep⟩, hliquidation⟩ :=
    @exists_reachable_of_decide Config.sample System.sample liquidationRun
      (fun st => (LiquityBase.checkRecoveryMode Config.sample st st.price = false ∧
          (st.troveManager.Troves 1).status = .active ∧
          runPasses ((Op.withdrawZUSD 1 (10 ^ 18) (100 * 10 ^ 18) 0 0).run Config.sample 10 st)
            (fun _ => true) = true ∧
          (match liquidateNormalMode Config.sample st 3 st.stabilityPool.totalZUSDDeposits with
            | .ok r => decide (0 < r.2.debtToOffset)
            | .error _ => false) = true) ∧
        runPasses ((Op.liquidateTroves 5 10).run Config.sample 0 st) (fun st' =>
          decide (st'.stabilityPool.P < st.stabilityPool.P ∧
            0 < st'.zusdToken.totalSupply ∧
            0 < (st'.stabilityPool.deposits 1).initialValue ∧
            (st'.stabilityPool.deposits 1).initialValue * st'.stabilityPool.P ≤ MAX_UINT256 ∧
            (st'.troveManager.Troves 3).status ≠ .active ∧
            st'.sortedTroves.contains 1 = true)) = true) _ (by decide +kernel)
  obtain ⟨st₁, hst₁, -⟩ := exists_of_runPasses hwithdraw
  obtain ⟨st', hst', hafter⟩ := exists_of_runPasses hliquidation
  have hliquidate : ∃ r, liquidateNormalMode Config.sample st 3
      st.stabilityPool.totalZUSDDeposits = .ok r ∧ 0 < r.2.debtToOffset := by
    split at hstep
    · exact ⟨_, ‹_›, of_decide_eq_true hstep⟩
    · cases hstep
  exact ⟨st, hreach, ⟨hmode, hactive, ⟨st₁, hst₁⟩, hliquidate⟩, st', hst',
    of_decide_eq_true hafter⟩

/-- After that run, `liquidateTroves` accounts for what it moves, and the normal-mode step that
liquidates trove `3` against the pool's deposits offsets part of its debt and succeeds. -/
theorem liquidation_conserves_value_liquidationRun :
    ∃ st st', Reachable Config.sample System.sample st ∧
      (Op.liquidateTroves 5 10).run Config.sample 0 st = .ok st' ∧
      (∃ log, LiquidationAccounts st st' log) ∧
      ∃ s₁ v, liquidateNormalMode Config.sample st 3 st.stabilityPool.totalZUSDDeposits =
          .ok (s₁, v) ∧ 0 < v.debtToOffset ∧
        v.debtToOffset ≤ st.stabilityPool.totalZUSDDeposits ∧
        sequenceNormalStep Config.sample st 3 st.stabilityPool.totalZUSDDeposits
            LiquidationTotals.zero =
          .ok (s₁, st.stabilityPool.totalZUSDDeposits - v.debtToOffset,
            addLiquidationValuesToTotals LiquidationTotals.zero v) := by
  obtain ⟨st, hreach, ⟨-, -, -, ⟨s₁, v⟩, hliquidate, hpos⟩, st', hst', -⟩ := liquidationRun_states
  have hconserves := liquidation_conserves_value rfl hst'
  exact ⟨st, st', hreach, hst', hconserves.1, s₁, v, hliquidate, hpos,
    hconserves.2.1 _ _ _ _ _ _ hliquidate⟩

end TroveManager

end ZeroProtocol
