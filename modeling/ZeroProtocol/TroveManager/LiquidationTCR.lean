import ZeroProtocol.TroveManager.Eligibility
import Mathlib.Algebra.BigOperators.Ring.List
import Mathlib.Tactic.Linarith

/-!
# How far a liquidation lowers the system's ratio

A liquidation takes collateral out of the system in three ways: the gas compensation to the
liquidator, the Stability Pool's share against the debt offset, and the borrower's surplus.  The
redistributed part stays, in the default pool.  So the system's ratio `C / D` falls by the gas
compensation, at most a `PERCENT_DIVISOR`-th of each closed trove's collateral, and by the
offsets, each of which removes collateral and debt together.

An offset lowers the ratio only if it removes collateral at a higher ratio than the system's.
Every branch of the single-trove functions removes, besides the gas compensation, at most the
trove's remaining collateral in proportion to the debt it offsets
(`LiquidationValues.Proportional`).  A closed trove's ICR is below `CCR`: below `MCR`, or below
the ratio of the recovery-mode sequence's tracked totals, which is below `CCR`.  When the call
starts in Normal Mode the system's ratio is at least `CCR`, so each offset removes collateral
at most at the system's ratio.  When no debt is offset, only the gas compensation leaves.

Either way, with `q + 1 = PERCENT_DIVISOR`, the ratio after the call is at least `q / (q + 1)`
of the ratio before it (`collRemoved_le` for one trove, `sum_collRemoved_le` for the log), and
so is the TCR as the contract rounds it (`computeCR_mul_div_le`).  The invariant of the
sequences is `SequenceRatios`; the tail's part is that the redistributed collateral reaches the
default pool (`finishLiquidation_defaultPool_ETH`).
-/

namespace ZeroProtocol.TroveManager

open LiquityMath LiquityBase

/-! ## What one closed trove takes out -/

/-- How a closed trove's collateral leaves the system besides the redistribution: the gas
compensation is at most its `PERCENT_DIVISOR`-th part, and the Stability Pool's share and the
surplus together are at most the rest of it in proportion to the debt offset.  A trove with debt
whose debt is all offset redistributes no collateral either. -/
structure LiquidationValues.Proportional (PERCENT_DIVISOR : ℕ) (v : LiquidationValues) :
    Prop where
  gas : v.collGasCompensation * PERCENT_DIVISOR ≤ v.entireTroveColl
  offset : (v.collToSendToSP + v.collSurplus) * v.entireTroveDebt ≤
    (v.entireTroveColl - v.collGasCompensation) * v.debtToOffset
  collToRedistribute_eq_zero : 0 < v.entireTroveDebt → v.debtToRedistribute = 0 →
    v.collToRedistribute = 0

theorem LiquidationValues.Proportional.zero (PERCENT_DIVISOR : ℕ) :
    LiquidationValues.zero.Proportional PERCENT_DIVISOR where
  gas := by simp [LiquidationValues.zero]
  offset := by simp [LiquidationValues.zero]
  collToRedistribute_eq_zero h := absurd h (Nat.lt_irrefl 0)

/-- The proportional split sends the pool the collateral's share of the debt offset, rounded
down; when it offsets all the debt, nothing is left to redistribute. -/
theorem getOffsetAndRedistributionVals_proportional {debt coll ZUSDInStabPool debtToOffset
    collToSendToSP debtToRedistribute collToRedistribute : ℕ}
    (h : getOffsetAndRedistributionVals debt coll ZUSDInStabPool =
      .ok (debtToOffset, collToSendToSP, debtToRedistribute, collToRedistribute)) :
    collToSendToSP * debt ≤ coll * debtToOffset ∧
      (0 < debt → debtToRedistribute = 0 → collToRedistribute = 0) := by
  unfold getOffsetAndRedistributionVals at h
  split_ifs at h
  · simp only [Revert.bind_eq_ok, SafeMath.div_eq_ok, SafeMath.sub_eq_ok, Revert.pure_eq_ok,
      Prod.mk.injEq] at h
    obtain ⟨_, ⟨-, rfl⟩, _, ⟨hdebt, rfl⟩, _, ⟨-, rfl⟩, rfl, rfl, rfl, rfl⟩ := h
    refine ⟨Nat.div_mul_le_self _ _, fun hpos hzero => ?_⟩
    -- all the debt is offset, so the pool's share is all the collateral
    have hall : LiquityMath.min debt ZUSDInStabPool = debt := by omega
    rw [hall, Nat.mul_div_cancel _ hpos, Nat.sub_self]
  · rw [Revert.pure_eq_ok, Prod.mk.injEq, Prod.mk.injEq, Prod.mk.injEq] at h
    obtain ⟨rfl, rfl, rfl, rfl⟩ := h
    exact ⟨by simp, fun hpos hzero => absurd hzero hpos.ne'⟩

/-- The capped split removes the collateral offset and the surplus, which are all of it. -/
theorem getCappedOffsetVals_proportional {p : LiquityBaseParams} {debt coll price : ℕ}
    {v : LiquidationValues} (h : getCappedOffsetVals p debt coll price = .ok v) :
    v.Proportional p.PERCENT_DIVISOR := by
  simp only [getCappedOffsetVals, Revert.bind_eq_ok, SafeMath.div_eq_ok, SafeMath.sub_eq_ok,
    Revert.pure_eq_ok] at h
  obtain ⟨collToOffset, -, _, ⟨hgas, rfl⟩, _, ⟨hcoll, rfl⟩, rfl⟩ := h
  have hpart : getCollGasCompensation p collToOffset * p.PERCENT_DIVISOR ≤ collToOffset :=
    Nat.div_mul_le_self _ _
  refine ⟨by dsimp only; omega, ?_, fun _ _ => rfl⟩
  dsimp only
  -- the pool's share and the surplus are the collateral less the gas compensation
  rw [show collToOffset - getCollGasCompensation p collToOffset + (coll - collToOffset) =
    coll - getCollGasCompensation p collToOffset by omega]

section Single

variable {cfg : Config} {st st' : System} {borrower : Address}

theorem liquidateNormalMode_proportional {ZUSDInStabPool : ℕ} {v : LiquidationValues}
    (h : liquidateNormalMode cfg st borrower ZUSDInStabPool = .ok (st', v)) :
    v.Proportional cfg.params.PERCENT_DIVISOR := by
  unfold liquidateNormalMode at h
  generalize getEntireDebtAndColl st.troveManager borrower = entire at h
  obtain ⟨debt, coll, pendingDebt, pendingColl⟩ := entire
  simp only [Revert.bind_eq_ok, SafeMath.sub_eq_ok, Revert.pure_eq_ok] at h
  obtain ⟨st₁, -, _, ⟨-, rfl⟩, ⟨debtToOffset, collToSendToSP, debtToRedistribute,
    collToRedistribute⟩, hvals, st₂, -, hres⟩ := h
  simp only [Prod.mk.injEq] at hres
  obtain ⟨-, rfl⟩ := hres
  obtain ⟨hoffset, hredistribute⟩ := getOffsetAndRedistributionVals_proportional hvals
  exact ⟨Nat.div_mul_le_self _ _, by simpa using hoffset, hredistribute⟩

/-- Every branch of a recovery-mode liquidation, the skipped trove included, splits
proportionally. -/
theorem liquidateRecoveryMode_proportional {ICR ZUSDInStabPool TCR price : ℕ}
    {v : LiquidationValues}
    (h : liquidateRecoveryMode cfg st borrower ICR ZUSDInStabPool TCR price = .ok (st', v)) :
    v.Proportional cfg.params.PERCENT_DIVISOR := by
  unfold liquidateRecoveryMode at h
  generalize getEntireDebtAndColl st.troveManager borrower = entire at h
  obtain ⟨debt, coll, pendingDebt, pendingColl⟩ := entire
  split_ifs at h with hlast hlow hmid
  · rw [Revert.pure_eq_ok, Prod.mk.injEq] at h
    rw [← h.2]
    exact LiquidationValues.Proportional.zero _
  · -- at most 100%: nothing is offset, everything is redistributed
    simp only [Revert.bind_eq_ok, SafeMath.sub_eq_ok, Revert.pure_eq_ok, Prod.mk.injEq] at h
    obtain ⟨_, -, st₁, -, st₂, -, -, rfl⟩ := h
    exact ⟨Nat.div_mul_le_self _ _, by simp [LiquidationValues.zero],
      fun hpos hzero => absurd hzero hpos.ne'⟩
  · -- between 100% and `MCR`: the proportional split
    simp only [Revert.bind_eq_ok, SafeMath.sub_eq_ok, Revert.pure_eq_ok] at h
    obtain ⟨_, ⟨-, rfl⟩, st₁, -, ⟨debtToOffset, collToSendToSP, debtToRedistribute,
      collToRedistribute⟩, hvals, st₂, -, hres⟩ := h
    simp only [Prod.mk.injEq] at hres
    obtain ⟨-, rfl⟩ := hres
    obtain ⟨hoffset, hredistribute⟩ := getOffsetAndRedistributionVals_proportional hvals
    exact ⟨Nat.div_mul_le_self _ _, by simpa [LiquidationValues.zero] using hoffset,
      hredistribute⟩
  simp only [Revert.bind_eq_ok, SafeMath.sub_eq_ok] at h
  obtain ⟨_, -, h⟩ := h
  split_ifs at h with hcapped
  · simp only [Revert.bind_eq_ok, Revert.assert_eq_ok, Revert.pure_eq_ok, Prod.mk.injEq] at h
    obtain ⟨st₁, -, _, -, tm, -, v, hcapped', st₂, -, -, rfl⟩ := h
    exact getCappedOffsetVals_proportional hcapped'
  · rw [Revert.pure_eq_ok, Prod.mk.injEq] at h
    rw [← h.2]
    exact LiquidationValues.Proportional.zero _

end Single

/-! ## The bound for one trove and for the log -/

/-- What a closed trove takes out of the system's collateral: the Stability Pool's share, the
surplus and the gas compensation. -/
def LiquidationValues.collRemoved (v : LiquidationValues) : ℕ :=
  v.collToSendToSP + v.collSurplus + v.collGasCompensation

/-- The arithmetic of one trove, with its collateral `e + g` split into the gas compensation `g`
and the rest `e`, and its debt `o + f` into the offset `o` and the rest `f`.  If `g` is at most a
`(q + 1)`-th of the collateral, the removed `r` at most `e`'s share of the offset, and the
trove's ratio at most the system's `C / D`, then `q + 1` times what leaves is at most the
collateral plus `q` times the system's collateral in the offset's proportion, all against `D`. -/
theorem collRemoved_le_aux {q C D r g e o f : ℕ} (hgas : g * (q + 1) ≤ e + g)
    (hoffset : r * (o + f) ≤ e * o) (hratio : (e + g) * D ≤ C * (o + f)) (hpos : 0 < o + f) :
    (q + 1) * (r + g) * D ≤ (e + g) * D + q * C * o := by
  apply Nat.le_of_mul_le_mul_right _ hpos
  have hgas' : g * q ≤ e := by
    rw [Nat.mul_succ] at hgas
    omega
  have h₁ := Nat.mul_le_mul_right ((q + 1) * D) hoffset
  have h₂ := Nat.mul_le_mul_right (f * D) hgas'
  have h₃ := Nat.mul_le_mul_right (q * o) hratio
  nlinarith [h₁, h₂, h₃]

/-- **One trove.**  A proportional split of a trove with debt that offsets nothing, or whose
ratio is at most the system's `C / D`, takes out at most a `(q + 1)`-th of its collateral and
`q / (q + 1)` of the system's collateral in the proportion of the debt it offsets. -/
theorem LiquidationValues.Proportional.collRemoved_le {q C D : ℕ} {v : LiquidationValues}
    (hv : v.Proportional (q + 1)) (hsplits : v.Splits) (hdebt : 0 < v.entireTroveDebt)
    (hratio : v.debtToOffset = 0 ∨ v.entireTroveColl * D ≤ C * v.entireTroveDebt) :
    (q + 1) * v.collRemoved * D ≤ v.entireTroveColl * D + q * C * v.debtToOffset := by
  have hC : v.entireTroveColl =
      v.entireTroveColl - v.collGasCompensation + v.collGasCompensation := by
    have := hsplits.coll
    omega
  have hD := hsplits.debt
  unfold collRemoved
  rcases hratio with hzero | hratio
  · -- nothing offset: the pool's share and the surplus are empty, the gas compensation leaves
    have hr : v.collToSendToSP + v.collSurplus = 0 := by
      have hoffset := hv.offset
      rw [hzero, Nat.mul_zero, Nat.le_zero, Nat.mul_eq_zero] at hoffset
      exact hoffset.resolve_right hdebt.ne'
    rw [hr, hzero, Nat.zero_add, Nat.mul_zero, Nat.add_zero, Nat.mul_comm (q + 1)]
    exact Nat.mul_le_mul_right D hv.gas
  · have hgas : v.collGasCompensation * (q + 1) ≤
        v.entireTroveColl - v.collGasCompensation + v.collGasCompensation := by
      rw [← hC]
      exact hv.gas
    have hoffset : (v.collToSendToSP + v.collSurplus) * (v.debtToOffset + v.debtToRedistribute) ≤
        (v.entireTroveColl - v.collGasCompensation) * v.debtToOffset := by
      rw [← hD]
      exact hv.offset
    have hratio' : (v.entireTroveColl - v.collGasCompensation + v.collGasCompensation) * D ≤
        C * (v.debtToOffset + v.debtToRedistribute) := by
      rw [← hC, ← hD]
      exact hratio
    have h := collRemoved_le_aux hgas hoffset hratio' (hD ▸ hdebt)
    rwa [← hC] at h

section Log

variable {log : List (Address × LiquidationValues)}

theorem sumOf_congr {f g : LiquidationValues → ℕ} (h : ∀ p ∈ log, f p.2 = g p.2) :
    sumOf log f = sumOf log g :=
  congrArg List.sum (List.map_congr_left h)

theorem sumOf_add (f g : LiquidationValues → ℕ) :
    sumOf log (fun v => f v + g v) = sumOf log f + sumOf log g :=
  List.sum_map_add

theorem sumOf_eq_zero_iff {f : LiquidationValues → ℕ} : sumOf log f = 0 ↔ ∀ p ∈ log, f p.2 = 0 := by
  simp only [sumOf, List.sum_eq_zero_iff, List.mem_map, forall_exists_index, and_imp,
    forall_apply_eq_imp_iff₂]

/-- **The log.**  The bound of each closed trove, summed. -/
theorem sum_collRemoved_le {q C D : ℕ}
    (h : ∀ p ∈ log, (q + 1) * p.2.collRemoved * D ≤
      p.2.entireTroveColl * D + q * C * p.2.debtToOffset) :
    (q + 1) * sumOf log LiquidationValues.collRemoved * D ≤
      sumOf log LiquidationValues.entireTroveColl * D +
        q * C * sumOf log LiquidationValues.debtToOffset := by
  calc (q + 1) * sumOf log LiquidationValues.collRemoved * D
      = (log.map fun p => (q + 1) * p.2.collRemoved * D).sum := by
        simp only [sumOf, List.sum_map_mul_left, List.sum_map_mul_right]
    _ ≤ (log.map fun p => p.2.entireTroveColl * D + q * C * p.2.debtToOffset).sum :=
        List.sum_le_sum h
    _ = _ := by simp only [sumOf, List.sum_map_add, List.sum_map_mul_left, List.sum_map_mul_right]

/-- The closed troves' collateral was in the system: what left it is their Stability Pool
shares, surpluses and gas compensations, and what is still in it is at least their
redistributed rest. -/
theorem LiquidationAccounts.sumOf_entireTroveColl_le {st st' : System}
    (hacc : LiquidationAccounts st st' log)
    (hredistributed : sumOf log LiquidationValues.collToRedistribute ≤ getEntireSystemColl st') :
    sumOf log LiquidationValues.entireTroveColl ≤ getEntireSystemColl st := by
  have hsplit : sumOf log LiquidationValues.entireTroveColl =
      sumOf log LiquidationValues.collToSendToSP + sumOf log LiquidationValues.collToRedistribute +
        sumOf log LiquidationValues.collGasCompensation +
        sumOf log LiquidationValues.collSurplus := by
    rw [sumOf_congr (g := fun v => v.collToSendToSP + v.collToRedistribute +
      v.collGasCompensation + v.collSurplus) fun p hp => (hacc.splits p hp).coll, sumOf_add,
      sumOf_add, sumOf_add]
  have hETH := hacc.ETH
  unfold getEntireSystemColl at *
  omega

end Log

/-! ## The ratio before and after -/

/-- The system's arithmetic: with the collateral `C' + R` before and `C'` after, the debt
`D' + O` before and `D'` after, and the removed `R` bounded as the log bounds it, the ratio after
is at least `q / (q + 1)` of the ratio before. -/
theorem ratio_le_of_removed_le {q C' R D' O S : ℕ}
    (hremoved : (q + 1) * R * (D' + O) ≤ S * (D' + O) + q * (C' + R) * O) (hS : S ≤ C' + R) :
    q * (C' + R) * D' ≤ (q + 1) * C' * (D' + O) := by
  have hS' := Nat.mul_le_mul_right (D' + O) hS
  nlinarith [hremoved, hS']

/-- The ratio as the contract rounds it follows the exact one: if `C' / D'` is at least
`q / (q + 1)` of `C / D` and the debt did not grow, the TCR after is at least the TCR before
times `q / (q + 1)`, rounded down, for any ratio before that fits in a `uint256`. -/
theorem computeCR_mul_div_le {q C D C' D' price : ℕ} (h : q * C * D' ≤ (q + 1) * C' * D)
    (hD : D' ≤ D) (hmax : computeCR C D price ≤ MAX_UINT256) :
    computeCR C D price * q / (q + 1) ≤ computeCR C' D' price := by
  have hle : computeCR C D price * q / (q + 1) ≤ computeCR C D price :=
    Nat.div_le_of_le_mul (by nlinarith)
  rcases Nat.eq_zero_or_pos D' with hD' | hD'
  · -- no debt left: the ratio after is the largest
    have hinf : computeCR C' D' price = MAX_UINT256 := by rw [computeCR, if_neg (by omega)]
    rw [hinf]
    exact hle.trans hmax
  have hDpos : 0 < D := Nat.lt_of_lt_of_le hD' hD
  rw [computeCR, if_pos hDpos] at hle ⊢
  rw [computeCR, if_pos hD', Nat.le_div_iff_mul_le hD']
  -- cancel `(q + 1) * D` from both sides
  apply Nat.le_of_mul_le_mul_right _ (Nat.mul_pos (Nat.succ_pos q) hDpos)
  have hround := Nat.div_mul_le_self (C * price / D * q) (q + 1)
  have hfloor := Nat.div_mul_le_self (C * price) D
  calc C * price / D * q / (q + 1) * D' * ((q + 1) * D)
      = C * price / D * q / (q + 1) * (q + 1) * (D * D') := by ring
    _ ≤ C * price / D * q * (D * D') := Nat.mul_le_mul_right _ hround
    _ = C * price / D * D * (q * D') := by ring
    _ ≤ C * price * (q * D') := Nat.mul_le_mul_right _ hfloor
    _ = price * (q * C * D') := by ring
    _ ≤ price * ((q + 1) * C' * D) := Nat.mul_le_mul_left _ h
    _ = C' * price * ((q + 1) * D) := by ring

/-- A trove whose ratio is below the system's, both with debt, has the lower collateral per
unit of debt. -/
theorem mul_le_mul_of_computeCR_lt {c d C D price : ℕ} (hd : 0 < d)
    (h : computeCR c d price < computeCR C D price) : c * D ≤ C * d := by
  rcases Nat.eq_zero_or_pos D with rfl | hD
  · rw [Nat.mul_zero]
    exact Nat.zero_le _
  by_contra hlt
  rw [computeCR, computeCR, if_pos hd, if_pos hD] at h
  -- the larger collateral per unit of debt gives at least the same rounded ratio
  have hcross : C * price * d ≤ c * price * D := by
    have := Nat.mul_le_mul_right price (Nat.le_of_lt (Nat.lt_of_not_le hlt))
    nlinarith [this]
  have hmono : C * price * d / (D * d) ≤ c * price * D / (d * D) := by
    rw [Nat.mul_comm d D]
    exact Nat.div_le_div_right hcross
  rw [Nat.mul_div_mul_right _ _ hd, Nat.mul_div_mul_right _ _ hD] at hmono
  exact absurd h (Nat.not_lt.mpr hmono)

/-- A ratio below a bound that fits in a `uint256` has debt. -/
theorem debt_pos_of_computeCR_lt {c d price t : ℕ} (h : computeCR c d price < t)
    (ht : t ≤ MAX_UINT256) : 0 < d := by
  by_contra hd
  rw [computeCR, if_neg hd] at h
  omega

/-! ## The sequences -/

/-- The ratio of a recovery-mode sequence's variables is below `CCR` while the sequence is in
Recovery Mode. -/
def RecoveryBelowCCR (cfg : Config) (price : ℕ) (vars : SequenceVars) : Prop :=
  vars.backToNormalMode = false →
    computeCR vars.entireSystemColl vars.entireSystemDebt price < cfg.params.CCR

/-- The invariant of a liquidation sequence from `st₀` at `price` for the system's ratio: its
accounts, and each closed trove split proportionally, with its ICR at the start below `CCR`. -/
structure SequenceRatios (cfg : Config) (price : ℕ) (st₀ st : System) (remaining : ℕ)
    (totals : LiquidationTotals) (log : List (Address × LiquidationValues)) : Prop where
  accounts : SequenceAccounts st₀ st remaining totals log
  proportional : ∀ p ∈ log, p.2.Proportional cfg.params.PERCENT_DIVISOR
  ICR_lt : ∀ p ∈ log, getCurrentICR st₀.troveManager p.1 price < cfg.params.CCR

namespace SequenceRatios

variable {cfg : Config} {price : ℕ} {st₀ st st' : System} {remaining remaining' : ℕ}
  {totals totals' : LiquidationTotals} {log : List (Address × LiquidationValues)}
  {user : Address}

theorem init (st : System) :
    SequenceRatios cfg price st st st.stabilityPool.totalZUSDDeposits LiquidationTotals.zero [] :=
  ⟨SequenceAccounts.init st, fun _ h => absurd h List.not_mem_nil,
    fun _ h => absurd h List.not_mem_nil⟩

/-- Closing one more trove, split proportionally and below `CCR`, appends it to the log. -/
theorem liquidate {v : LiquidationValues}
    (hinv : SequenceRatios cfg price st₀ st remaining totals log)
    (hl : Liquidated remaining st st' user v) (hremaining : remaining = remaining' + v.debtToOffset)
    (hv : v.Proportional cfg.params.PERCENT_DIVISOR)
    (hICR : getCurrentICR st.troveManager user price < cfg.params.CCR) :
    SequenceRatios cfg price st₀ st' remaining' (addLiquidationValuesToTotals totals v)
      (log ++ [(user, v)]) := by
  refine ⟨hinv.accounts.liquidate hl hremaining, fun p hp => ?_, fun p hp => ?_⟩
  · rcases List.mem_append.mp hp with hp | hp
    · exact hinv.proportional p hp
    · rw [List.mem_singleton.mp hp]
      exact hv
  · rcases List.mem_append.mp hp with hp | hp
    · exact hinv.ICR_lt p hp
    · rw [List.mem_singleton.mp hp, ← hinv.accounts.getCurrentICR_eq hl.contains]
      exact hICR

/-- **Step lemma** for a normal-mode step: the trove it closes is below `MCR`. -/
theorem normalStep (hCCR : cfg.params.MCR ≤ cfg.params.CCR)
    (hinv : SequenceRatios cfg price st₀ st remaining totals log)
    (hICR : getCurrentICR st.troveManager user price < cfg.params.MCR)
    (h : sequenceNormalStep cfg st user remaining totals = .ok (st', remaining', totals')) :
    ∃ log', SequenceRatios cfg price st₀ st' remaining' totals' log' := by
  obtain ⟨v, hliquidate, hremaining, rfl⟩ := sequenceNormalStep_eq_ok h
  exact ⟨_, hinv.liquidate (liquidateNormalMode_spec hliquidate) hremaining
    (liquidateNormalMode_proportional hliquidate) (lt_of_lt_of_le hICR hCCR)⟩

/-- **Step lemma** for a recovery-mode step while the sequence's ratio is below `CCR`: the trove
it closes is at most 100%, below `MCR`, or below that ratio; and the ratio it leaves is below
`CCR` unless it goes back to Normal Mode. -/
theorem recoveryStep (hMCR : _100pct < cfg.params.MCR) (hCCR : cfg.params.MCR ≤ cfg.params.CCR)
    {collDrop : LiquidationValues → Except String ℕ} {vars vars' : SequenceVars}
    (hinv : SequenceRatios cfg price st₀ st vars.remainingZUSDInStabPool totals log)
    (hbelow : RecoveryBelowCCR cfg price vars) (hmode : vars.backToNormalMode = false)
    (h : sequenceRecoveryStep cfg price collDrop st user
      (getCurrentICR st.troveManager user price) vars totals = .ok (st', vars', totals')) :
    (∃ log', SequenceRatios cfg price st₀ st' vars'.remainingZUSDInStabPool totals' log') ∧
      RecoveryBelowCCR cfg price vars' := by
  obtain ⟨v, hliquidate, hremaining, -, -, hmode', rfl⟩ := sequenceRecoveryStep_eq_ok h
  refine ⟨?_, fun hback => ?_⟩
  · rcases liquidateRecoveryMode_spec hliquidate with ⟨rfl, rfl⟩ | ⟨hl, hreason⟩
    · -- a skipped trove changes nothing
      have hsame : vars'.remainingZUSDInStabPool = vars.remainingZUSDInStabPool := by
        simpa [LiquidationValues.zero] using hremaining.symm
      rw [addLiquidationValuesToTotals_zero, hsame]
      exact ⟨log, hinv⟩
    · refine ⟨_, hinv.liquidate hl hremaining (liquidateRecoveryMode_proportional hliquidate) ?_⟩
      rcases hreason with hlow | hlow | ⟨hlt, -⟩
      · exact lt_of_le_of_lt hlow (lt_of_lt_of_le hMCR hCCR)
      · exact lt_of_lt_of_le hlow hCCR
      · exact hlt.trans (hbelow hmode)
  · have hcheck : checkPotentialRecoveryMode cfg price vars'.entireSystemColl
        vars'.entireSystemDebt = true := by simpa [hback] using hmode'
    exact checkPotentialRecoveryMode_eq_true.mp hcheck

end SequenceRatios

section Runs

variable {cfg : Config} {price : ℕ} {st₀ : System}

/-- A recovery-mode sequence starts from the system's totals, in Recovery Mode. -/
theorem recoveryBelowCCR_init (hmode : checkRecoveryMode cfg st₀ price = true) :
    RecoveryBelowCCR cfg price (SequenceVars.init st₀ st₀.stabilityPool.totalZUSDDeposits) :=
  fun _ => of_decide_eq_true hmode

/-- **Run lemma** for the sorted sequence in Normal Mode. -/
theorem liquidateTrovesSequenceNormalMode_ratios (hCCR : cfg.params.MCR ≤ cfg.params.CCR)
    {n : ℕ} {st st' : System} {remaining : ℕ} {totals totals' : LiquidationTotals}
    {log : List (Address × LiquidationValues)}
    (hinv : SequenceRatios cfg price st₀ st remaining totals log)
    (h : liquidateTrovesSequenceNormalMode cfg price n st remaining totals = .ok (st', totals')) :
    ∃ remaining' log', SequenceRatios cfg price st₀ st' remaining' totals' log' :=
  @liquidateTrovesSequenceNormalMode_induction cfg price
    (fun st remaining totals => ∃ log, SequenceRatios cfg price st₀ st remaining totals log)
    (fun ⟨_, hinv⟩ hICR hstep => hinv.normalStep hCCR hICR hstep) n st st' remaining totals
    totals' ⟨log, hinv⟩ h

/-- **Run lemma** for the sorted sequence in Recovery Mode. -/
theorem liquidateTrovesSequenceRecoveryMode_ratios (hMCR : _100pct < cfg.params.MCR)
    (hCCR : cfg.params.MCR ≤ cfg.params.CCR) {firstUser : Address} {n : ℕ} {st st' : System}
    {user : Address} {vars : SequenceVars} {totals totals' : LiquidationTotals}
    {log : List (Address × LiquidationValues)}
    (hinv : SequenceRatios cfg price st₀ st vars.remainingZUSDInStabPool totals log)
    (hbelow : RecoveryBelowCCR cfg price vars)
    (h : liquidateTrovesSequenceRecoveryMode cfg price firstUser n st user vars totals =
      .ok (st', totals')) :
    ∃ remaining' log', SequenceRatios cfg price st₀ st' remaining' totals' log' := by
  obtain ⟨vars', ⟨log', hinv'⟩, -⟩ :=
    @liquidateTrovesSequenceRecoveryMode_induction cfg price firstUser
      (fun st vars totals => (∃ log, SequenceRatios cfg price st₀ st
        vars.remainingZUSDInStabPool totals log) ∧ RecoveryBelowCCR cfg price vars)
      (fun ⟨⟨_, hinv⟩, hbelow⟩ _ hmode hstep => hinv.recoveryStep hMCR hCCR hbelow hmode hstep)
      (fun ⟨⟨_, hinv⟩, _⟩ _ hmode hICR hstep =>
        ⟨hinv.normalStep hCCR hICR hstep, fun hback => by simp [hmode] at hback⟩)
      n st st' user vars totals totals' ⟨⟨log, hinv⟩, hbelow⟩ h
  exact ⟨_, log', hinv'⟩

/-- **Run lemma** for the caller's list in Normal Mode. -/
theorem batchLiquidateSequenceNormalMode_ratios (hCCR : cfg.params.MCR ≤ cfg.params.CCR)
    {troveArray : List Address} {st st' : System} {remaining : ℕ}
    {totals totals' : LiquidationTotals} {log : List (Address × LiquidationValues)}
    (hinv : SequenceRatios cfg price st₀ st remaining totals log)
    (h : batchLiquidateSequenceNormalMode cfg price troveArray st remaining totals =
      .ok (st', totals')) :
    ∃ remaining' log', SequenceRatios cfg price st₀ st' remaining' totals' log' :=
  @batchLiquidateSequenceNormalMode_induction cfg price
    (fun st remaining totals => ∃ log, SequenceRatios cfg price st₀ st remaining totals log)
    (fun ⟨_, hinv⟩ hICR hstep => hinv.normalStep hCCR hICR hstep) troveArray st st' remaining
    totals totals' ⟨log, hinv⟩ h

/-- **Run lemma** for the caller's list in Recovery Mode. -/
theorem batchLiquidateSequenceRecoveryMode_ratios (hMCR : _100pct < cfg.params.MCR)
    (hCCR : cfg.params.MCR ≤ cfg.params.CCR) {troveArray : List Address} {st st' : System}
    {vars : SequenceVars} {totals totals' : LiquidationTotals}
    {log : List (Address × LiquidationValues)}
    (hinv : SequenceRatios cfg price st₀ st vars.remainingZUSDInStabPool totals log)
    (hbelow : RecoveryBelowCCR cfg price vars)
    (h : batchLiquidateSequenceRecoveryMode cfg price troveArray st vars totals =
      .ok (st', totals')) :
    ∃ remaining' log', SequenceRatios cfg price st₀ st' remaining' totals' log' := by
  obtain ⟨vars', ⟨log', hinv'⟩, -⟩ :=
    @batchLiquidateSequenceRecoveryMode_induction cfg price
      (fun st vars totals => (∃ log, SequenceRatios cfg price st₀ st
        vars.remainingZUSDInStabPool totals log) ∧ RecoveryBelowCCR cfg price vars)
      (fun ⟨⟨_, hinv⟩, hbelow⟩ hmode hstep => hinv.recoveryStep hMCR hCCR hbelow hmode hstep)
      (fun ⟨⟨_, hinv⟩, _⟩ hmode hICR hstep =>
        ⟨hinv.normalStep hCCR hICR hstep, fun hback => by simp [hmode] at hback⟩)
      troveArray st st' vars totals totals' ⟨⟨log, hinv⟩, hbelow⟩ h
  exact ⟨_, log', hinv'⟩

end Runs

/-! ## The tail: the redistributed collateral reaches the default pool -/

section Finish

variable {cfg : Config} {st st' : System}

theorem offset_defaultPool {debtToOffset collToAdd : ℕ}
    (h : StabilityPool.offset cfg st debtToOffset collToAdd = .ok st') :
    st'.defaultPool = st.defaultPool := by
  simp only [StabilityPool.offset] at h
  split_ifs at h
  · rw [Revert.pure_eq_ok] at h
    rw [h]
  · simp only [Revert.bind_eq_ok] at h
    obtain ⟨st₁, hissue, ⟨sp₁, ETHGain, ZUSDLoss⟩, -, sp₂, -, hmove⟩ := h
    obtain ⟨ci, sp, rfl, -, -⟩ := StabilityPool.triggerZEROIssuance_frame hissue
    simp only [StabilityPool.moveOffsetCollAndDebt, Revert.bind_eq_ok, Revert.pure_eq_ok] at hmove
    obtain ⟨_, -, _, -, _, -, _, -, rfl⟩ := hmove
    rfl

/-- A redistribution with debt moves its collateral to the default pool. -/
theorem redistributeDebtAndColl_defaultPool_ETH {debt coll : ℕ}
    (h : redistributeDebtAndColl st debt coll = .ok st') :
    st'.defaultPool.ETH = st.defaultPool.ETH + if debt = 0 then 0 else coll := by
  unfold redistributeDebtAndColl at h
  split_ifs at h with hdebt
  · rw [Revert.pure_eq_ok] at h
    rw [← h, if_pos hdebt, Nat.add_zero]
  · simp only [Revert.bind_eq_ok, Revert.pure_eq_ok] at h
    obtain ⟨_, -, _, -, _, -, _, -, _, -, _, -, rfl⟩ := h
    rw [if_neg hdebt]
    rfl

theorem updateSystemSnapshotsExcludeCollRemainder_defaultPool {collRemainder : ℕ}
    (h : updateSystemSnapshotsExcludeCollRemainder st collRemainder = .ok st') :
    st'.defaultPool = st.defaultPool := by
  simp only [updateSystemSnapshotsExcludeCollRemainder, Revert.bind_eq_ok,
    Revert.pure_eq_ok] at h
  obtain ⟨_, -, rfl⟩ := h
  rfl

theorem sendGasCompensation_defaultPool {liquidator : Address} {ZUSD ETH : ℕ}
    (h : sendGasCompensation cfg st liquidator ZUSD ETH = .ok st') :
    st'.defaultPool = st.defaultPool := by
  unfold sendGasCompensation at h
  split_ifs at h
  all_goals simp only [Revert.bind_eq_ok, ZUSDToken.transfer_eq_ok, ActivePool.sendETH_eq_ok,
    Revert.pure_eq_ok] at h
  · obtain ⟨_, -, _, rfl, _, -, rfl⟩ := h
    rfl
  · obtain ⟨_, rfl, _, -, rfl⟩ := h
    rfl
  · obtain ⟨_, -, _, rfl, rfl⟩ := h
    rfl
  · obtain ⟨_, rfl, rfl⟩ := h
    rfl

/-- The tail adds to the default pool's ether the collateral redistributed, if there is debt to
redistribute with it. -/
theorem finishLiquidation_defaultPool_ETH {liquidator : Address} {totals : LiquidationTotals}
    (h : finishLiquidation cfg st liquidator totals = .ok st') :
    st'.defaultPool.ETH = st.defaultPool.ETH +
      if totals.totalDebtToRedistribute = 0 then 0 else totals.totalCollToRedistribute := by
  obtain ⟨st₁, st₂, st₃, st₄, hoffset, hredistribute, -, hsurplus, hsnapshots, hgas⟩ :=
    finishLiquidation_eq_ok h
  rw [sendGasCompensation_defaultPool hgas, updateSystemSnapshotsExcludeCollRemainder_defaultPool
    hsnapshots, hsurplus, redistributeDebtAndColl_defaultPool_ETH hredistribute,
    offset_defaultPool hoffset]

end Finish

/-! ## A liquidation call as a whole -/

/-- What a liquidation call from `st` to `st'` that closed the troves of `log` guarantees for the
system's ratio: its accounts; each closed trove split proportionally, with its ICR at the call's
start below `CCR`; and, once debt is redistributed, the collateral redistributed with it in the
default pool. -/
structure LiquidationRatios (cfg : Config) (st st' : System)
    (log : List (Address × LiquidationValues)) : Prop where
  accounts : LiquidationAccounts st st' log
  proportional : ∀ p ∈ log, p.2.Proportional cfg.params.PERCENT_DIVISOR
  ICR_lt : ∀ p ∈ log, getCurrentICR st.troveManager p.1 st.price < cfg.params.CCR
  redistributed : 0 < sumOf log LiquidationValues.debtToRedistribute →
    sumOf log LiquidationValues.collToRedistribute ≤ st'.defaultPool.ETH

section Calls

variable {cfg : Config} {st st₁ st' : System} {liquidator : Address}

theorem SequenceRatios.finish {remaining : ℕ} {totals : LiquidationTotals}
    {log : List (Address × LiquidationValues)}
    (hinv : SequenceRatios cfg st.price st st₁ remaining totals log)
    (h : finishLiquidation cfg st₁ liquidator totals = .ok st') :
    LiquidationRatios cfg st st' log := by
  refine ⟨hinv.accounts.finish h, hinv.proportional, hinv.ICR_lt, fun hpos => ?_⟩
  have hdebt : totals.totalDebtToRedistribute = sumOf log LiquidationValues.debtToRedistribute :=
    hinv.accounts.totals ▸ totalsOf_total rfl (fun _ _ => rfl) log
  have hcoll : totals.totalCollToRedistribute = sumOf log LiquidationValues.collToRedistribute :=
    hinv.accounts.totals ▸ totalsOf_total rfl (fun _ _ => rfl) log
  rw [finishLiquidation_defaultPool_ETH h, hdebt, if_neg hpos.ne', hcoll]
  exact Nat.le_add_left _ _

/-- Source `liquidateTroves`: the sorted sequence in either mode, then the tail. -/
theorem liquidateTroves_ratios (hMCR : _100pct < cfg.params.MCR)
    (hCCR : cfg.params.MCR ≤ cfg.params.CCR) {n : ℕ}
    (h : liquidateTroves cfg st liquidator n = .ok st') :
    ∃ log, LiquidationRatios cfg st st' log := by
  obtain ⟨st₁, totals, hsequence, hfinish⟩ := liquidateTroves_cases h
  obtain ⟨remaining, log, hinv⟩ :
      ∃ remaining log, SequenceRatios cfg st.price st st₁ remaining totals log := by
    rcases hsequence with ⟨hmode, hsequence⟩ | ⟨-, hsequence⟩
    · exact liquidateTrovesSequenceRecoveryMode_ratios hMCR hCCR (SequenceRatios.init st)
        (recoveryBelowCCR_init hmode) hsequence
    · exact liquidateTrovesSequenceNormalMode_ratios hCCR (SequenceRatios.init st) hsequence
  exact ⟨log, hinv.finish hfinish⟩

/-- Source `batchLiquidateTroves`: the caller's list in either mode, then the tail. -/
theorem batchLiquidateTroves_ratios (hMCR : _100pct < cfg.params.MCR)
    (hCCR : cfg.params.MCR ≤ cfg.params.CCR) {troveArray : List Address}
    (h : batchLiquidateTroves cfg st liquidator troveArray = .ok st') :
    ∃ log, LiquidationRatios cfg st st' log := by
  obtain ⟨st₁, totals, hsequence, hfinish⟩ := batchLiquidateTroves_cases h
  obtain ⟨remaining, log, hinv⟩ :
      ∃ remaining log, SequenceRatios cfg st.price st st₁ remaining totals log := by
    rcases hsequence with ⟨hmode, hsequence⟩ | ⟨-, hsequence⟩
    · exact batchLiquidateSequenceRecoveryMode_ratios hMCR hCCR (SequenceRatios.init st)
        (recoveryBelowCCR_init hmode) hsequence
    · exact batchLiquidateSequenceNormalMode_ratios hCCR (SequenceRatios.init st) hsequence
  exact ⟨log, hinv.finish hfinish⟩

end Calls

/-- Every successful liquidation call gives its `LiquidationRatios`. -/
theorem liquidation_ratios {cfg : Config} {gas : ℕ} {st st' : System} {op : Op}
    (hMCR : _100pct < cfg.params.MCR) (hCCR : cfg.params.MCR ≤ cfg.params.CCR)
    (hop : op.isLiquidation = true) (h : op.run cfg gas st = .ok st') :
    ∃ log, LiquidationRatios cfg st st' log := by
  cases op with
  | liquidate liquidator borrower =>
    simp only [Op.run, liquidate, Revert.require_bind_eq_ok] at h
    exact batchLiquidateTroves_ratios hMCR hCCR h.2
  | liquidateTroves liquidator n => exact liquidateTroves_ratios hMCR hCCR h
  | batchLiquidateTroves liquidator troveArray => exact batchLiquidateTroves_ratios hMCR hCCR h
  | _ => simp [Op.isLiquidation] at hop

/-- A closed trove's ICR at the call's start is the ratio of its entire collateral and debt. -/
theorem LiquidationAccounts.getCurrentICR_eq {st st' : System}
    {log : List (Address × LiquidationValues)} (hacc : LiquidationAccounts st st' log)
    {p : Address × LiquidationValues} (hp : p ∈ log) (price : ℕ) :
    getCurrentICR st.troveManager p.1 price =
      computeCR p.2.entireTroveColl p.2.entireTroveDebt price := by
  rw [hacc.entireTroveColl p hp, hacc.entireTroveDebt p hp]
  rfl

/-- **The exact ratio.**  After a call that starts in Normal Mode or offsets no debt, the ratio
`C / D` is at least `(PERCENT_DIVISOR - 1) / PERCENT_DIVISOR` of what it was. -/
theorem LiquidationRatios.ratio_le {cfg : Config} {st st' : System}
    {log : List (Address × LiquidationValues)} (hr : LiquidationRatios cfg st st' log)
    (hmax : cfg.params.CCR ≤ MAX_UINT256)
    (hcase : checkRecoveryMode cfg st st.price = false ∨
      st'.stabilityPool.totalZUSDDeposits = st.stabilityPool.totalZUSDDeposits) :
    (cfg.params.PERCENT_DIVISOR - 1) * getEntireSystemColl st * getEntireSystemDebt st' ≤
      cfg.params.PERCENT_DIVISOR * getEntireSystemColl st' * getEntireSystemDebt st := by
  have hacc := hr.accounts
  have hICR : ∀ p ∈ log,
      computeCR p.2.entireTroveColl p.2.entireTroveDebt st.price < cfg.params.CCR :=
    fun p hp => hacc.getCurrentICR_eq hp st.price ▸ hr.ICR_lt p hp
  -- every closed trove has debt: its ICR is below `CCR`, which fits in a `uint256`
  have hdebt : ∀ p ∈ log, 0 < p.2.entireTroveDebt :=
    fun p hp => debt_pos_of_computeCR_lt (hICR p hp) hmax
  -- each offset removes collateral at most at the system's ratio, or nothing is offset
  have hratio : ∀ p ∈ log, p.2.debtToOffset = 0 ∨
      p.2.entireTroveColl * getEntireSystemDebt st ≤ getEntireSystemColl st * p.2.entireTroveDebt := by
    rcases hcase with hnormal | hdeposits
    · have hTCR : cfg.params.CCR ≤ getTCR st st.price := by
        simpa [checkRecoveryMode] using hnormal
      exact fun p hp =>
        .inr (mul_le_mul_of_computeCR_lt (hdebt p hp) (lt_of_lt_of_le (hICR p hp) hTCR))
    · have hzero : sumOf log LiquidationValues.debtToOffset = 0 := by
        have := hacc.deposits
        omega
      exact fun p hp => .inl (sumOf_eq_zero_iff.mp hzero p hp)
  -- the redistributed collateral is still in the system
  have hredistributed :
      sumOf log LiquidationValues.collToRedistribute ≤ getEntireSystemColl st' := by
    rcases Nat.eq_zero_or_pos (sumOf log LiquidationValues.debtToRedistribute) with hzero | hpos
    · have hcoll : sumOf log LiquidationValues.collToRedistribute = 0 :=
        sumOf_eq_zero_iff.mpr fun p hp => (hr.proportional p hp).collToRedistribute_eq_zero
          (hdebt p hp) (sumOf_eq_zero_iff.mp hzero p hp)
      rw [hcoll]
      exact Nat.zero_le _
    · exact (hr.redistributed hpos).trans (Nat.le_add_left _ _)
  have hS := hacc.sumOf_entireTroveColl_le hredistributed
  -- the collateral and debt before are those after and what left
  have hC : getEntireSystemColl st =
      getEntireSystemColl st' + sumOf log LiquidationValues.collRemoved := by
    have hremoved : sumOf log LiquidationValues.collRemoved =
        sumOf log LiquidationValues.collToSendToSP + sumOf log LiquidationValues.collSurplus +
          sumOf log LiquidationValues.collGasCompensation := by
      rw [← sumOf_add, ← sumOf_add]
      rfl
    have := hacc.ETH
    unfold getEntireSystemColl
    omega
  have hD : getEntireSystemDebt st =
      getEntireSystemDebt st' + sumOf log LiquidationValues.debtToOffset := by
    have := hacc.ZUSDDebt
    unfold getEntireSystemDebt
    omega
  have hprop := hr.proportional
  generalize cfg.params.PERCENT_DIVISOR = pd at hprop ⊢
  cases pd with
  | zero => simp
  | succ q =>
    have hsum := sum_collRemoved_le fun p hp =>
      (hprop p hp).collRemoved_le (hacc.splits p hp) (hdebt p hp) (hratio p hp)
    rw [hC, hD] at hsum
    rw [hC] at hS
    rw [Nat.add_sub_cancel, hC, hD]
    exact ratio_le_of_removed_le hsum hS

/-- Liquidations lower the TCR by at most the collateral gas compensation: a liquidation call
that starts in Normal Mode, or that offsets no debt against the Stability Pool, leaves the
ratio of the system's collateral to its debt at least `(PERCENT_DIVISOR - 1) / PERCENT_DIVISOR`
of what it was, and so the TCR at every price, as the contract rounds it, at least the TCR
before times `PERCENT_DIVISOR - 1`, divided by `PERCENT_DIVISOR` and rounded down.  The
parameters are ordered as deployed: `100% < MCR ≤ CCR`, with `CCR` a `uint256`, as is the TCR
before. -/
theorem liquidation_bounds_TCR_drop {cfg : Config} {gas : ℕ} {st st' : System} {op : Op}
    (hMCR : _100pct < cfg.params.MCR) (hCCR : cfg.params.MCR ≤ cfg.params.CCR)
    (hmax : cfg.params.CCR ≤ MAX_UINT256) (hop : op.isLiquidation = true)
    (h : op.run cfg gas st = .ok st')
    (hcase : checkRecoveryMode cfg st st.price = false ∨
      st'.stabilityPool.totalZUSDDeposits = st.stabilityPool.totalZUSDDeposits) :
    (cfg.params.PERCENT_DIVISOR - 1) * getEntireSystemColl st * getEntireSystemDebt st' ≤
        cfg.params.PERCENT_DIVISOR * getEntireSystemColl st' * getEntireSystemDebt st ∧
      ∀ price, getTCR st price ≤ MAX_UINT256 →
        getTCR st price * (cfg.params.PERCENT_DIVISOR - 1) / cfg.params.PERCENT_DIVISOR ≤
          getTCR st' price := by
  obtain ⟨log, hr⟩ := liquidation_ratios hMCR hCCR hop h
  have hratio := hr.ratio_le hmax hcase
  have hdebt : getEntireSystemDebt st' ≤ getEntireSystemDebt st := by
    have := hr.accounts.ZUSDDebt
    unfold getEntireSystemDebt
    omega
  refine ⟨hratio, fun price hTCR => ?_⟩
  generalize cfg.params.PERCENT_DIVISOR = pd at hratio ⊢
  cases pd with
  | zero => simp
  | succ q =>
    rw [Nat.add_sub_cancel] at hratio ⊢
    exact computeCR_mul_div_le hratio hdebt hTCR

/-- From the state after `liquidationRun`, in Normal Mode, `liquidateTroves` closes trove `3`,
whose debt the Stability Pool covers. -/
theorem liquidation_bounds_TCR_drop_liquidationRun :
    ∃ st st', Reachable Config.sample System.sample st ∧
      (Op.liquidateTroves 5 10).run Config.sample 0 st = .ok st' ∧
      checkRecoveryMode Config.sample st st.price = false ∧
      ((Config.sample.params.PERCENT_DIVISOR - 1) * getEntireSystemColl st *
          getEntireSystemDebt st' ≤
        Config.sample.params.PERCENT_DIVISOR * getEntireSystemColl st' * getEntireSystemDebt st ∧
      ∀ price, getTCR st price ≤ MAX_UINT256 →
        getTCR st price * (Config.sample.params.PERCENT_DIVISOR - 1) /
          Config.sample.params.PERCENT_DIVISOR ≤ getTCR st' price) := by
  obtain ⟨st, hreach, ⟨hmode, -⟩, st', hst', -⟩ := liquidationRun_states
  exact ⟨st, st', hreach, hst', hmode, liquidation_bounds_TCR_drop (by decide) (by decide)
    (by decide) rfl hst' (.inl hmode)⟩

end ZeroProtocol.TroveManager
