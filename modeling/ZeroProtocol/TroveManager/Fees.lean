import ZeroProtocol.Dependencies.LiquityBase

/-!
# The base rate

The trove manager keeps one fee variable, `baseRate`, an 18-digit decimal fraction.  It
decays by `MINUTE_DECAY_FACTOR` for every whole minute since `lastFeeOperationTime`.

* A borrowing calls `decayBaseRateFromBorrowing` (from `BorrowerOperations._triggerBorrowingFee`),
  which stores the decayed rate.
* A redemption runs `_updateBaseRateFromRedemption` on the same storage (through the
  redemption operations), which stores the decayed rate plus half the redeemed fraction of the
  supply, capped at 100%.

Both then move `lastFeeOperationTime` to the current block, but only once a full minute has
passed since the last move.  The borrowing rate is the base rate plus `BORROWING_FEE_FLOOR`,
capped at `MAX_BORROWING_FEE`; the redemption rate is the base rate plus
`REDEMPTION_FEE_FLOOR`, capped at 100%.

`FeeState` holds the two storage variables.  The block timestamp is an argument of every
function that reads it; a timestamp before `lastFeeOperationTime` makes `SafeMath.sub` revert,
as it would in the contract.

The bound `baseRate ≤ DECIMAL_PRECISION` rests on `LiquityMath.decPow_le_one`: the decay factor,
a power of a decimal below one computed with rounded products, is itself at most one.
-/

namespace ZeroProtocol.TroveManager

open LiquityMath

/-- Seconds in a minute, the unit of the decay. -/
def SECONDS_IN_ONE_MINUTE : ℕ := 60

/-- The decay per minute, `0.5^(1/720)`: a half-life of twelve hours. -/
def MINUTE_DECAY_FACTOR : ℕ := 999037758833783000

/-- The divisor of the redeemed fraction in the base-rate increase. -/
def BETA : ℕ := 2

/-- The fee variables of the trove manager's storage. -/
structure FeeState where
  baseRate : ℕ
  lastFeeOperationTime : ℕ
  deriving DecidableEq, Repr

/-- The fee variables at deployment. -/
def FeeState.init : FeeState := ⟨0, 0⟩

section Functions

variable (p : LiquityBaseParams) (s : FeeState) (timestamp : ℕ)

/-- Source `_minutesPassedSinceLastFeeOp`. -/
def minutesPassedSinceLastFeeOp : Except String ℕ := do
  let timePassed ← SafeMath.sub timestamp s.lastFeeOperationTime
  pure (timePassed / SECONDS_IN_ONE_MINUTE)

/-- Source `_calcDecayedBaseRate`. -/
def calcDecayedBaseRate : Except String ℕ := do
  let minutesPassed ← minutesPassedSinceLastFeeOp s timestamp
  let decayFactor := decPow MINUTE_DECAY_FACTOR minutesPassed
  pure (s.baseRate * decayFactor / DECIMAL_PRECISION)

/-- Source `_updateLastFeeOpTime`: move the fee clock, but only by whole minutes or more. -/
def updateLastFeeOpTime : Except String FeeState := do
  let timePassed ← SafeMath.sub timestamp s.lastFeeOperationTime
  if timePassed ≥ SECONDS_IN_ONE_MINUTE then
    pure { s with lastFeeOperationTime := timestamp }
  else pure s

/-- Source `decayBaseRateFromBorrowing`. -/
def decayBaseRateFromBorrowing : Except String FeeState := do
  let decayedBaseRate ← calcDecayedBaseRate s timestamp
  -- The baseRate can decay to 0
  Revert.assert (decayedBaseRate ≤ DECIMAL_PRECISION)
  updateLastFeeOpTime { s with baseRate := decayedBaseRate } timestamp

/-- Source `_updateBaseRateFromRedemption`: the new state and the new base rate. -/
def updateBaseRateFromRedemption (ETHDrawn price totalZUSDSupply : ℕ) :
    Except String (FeeState × ℕ) := do
  let decayedBaseRate ← calcDecayedBaseRate s timestamp
  -- the fraction of total supply that was redeemed at face value
  let redeemedZUSDFraction ← SafeMath.div (ETHDrawn * price) totalZUSDSupply
  let newBaseRate := decayedBaseRate + redeemedZUSDFraction / BETA
  -- cap baseRate at a maximum of 100%
  let newBaseRate := LiquityMath.min newBaseRate DECIMAL_PRECISION
  -- Base rate is always non-zero after redemption
  Revert.assert (newBaseRate > 0)
  let s ← updateLastFeeOpTime { s with baseRate := newBaseRate } timestamp
  pure (s, newBaseRate)

/-- Source `_calcBorrowingRate`. -/
def calcBorrowingRate (baseRate : ℕ) : ℕ :=
  LiquityMath.min (p.BORROWING_FEE_FLOOR + baseRate) p.MAX_BORROWING_FEE

/-- Source `getBorrowingRate`. -/
def getBorrowingRate : ℕ := calcBorrowingRate p s.baseRate

/-- Source `getBorrowingRateWithDecay`. -/
def getBorrowingRateWithDecay : Except String ℕ := do
  pure (calcBorrowingRate p (← calcDecayedBaseRate s timestamp))

/-- Source `_calcRedemptionRate`: capped at a maximum of 100%. -/
def calcRedemptionRate (baseRate : ℕ) : ℕ :=
  LiquityMath.min (p.REDEMPTION_FEE_FLOOR + baseRate) DECIMAL_PRECISION

/-- Source `getRedemptionRate`. -/
def getRedemptionRate : ℕ := calcRedemptionRate p s.baseRate

/-- Source `getRedemptionRateWithDecay`. -/
def getRedemptionRateWithDecay : Except String ℕ := do
  pure (calcRedemptionRate p (← calcDecayedBaseRate s timestamp))

/-- Source `_calcBorrowingFee`. -/
def calcBorrowingFee (borrowingRate ZUSDDebt : ℕ) : ℕ :=
  borrowingRate * ZUSDDebt / DECIMAL_PRECISION

/-- Source `getBorrowingFee`. -/
def getBorrowingFee (ZUSDDebt : ℕ) : ℕ := calcBorrowingFee (getBorrowingRate p s) ZUSDDebt

/-- Source `_calcRedemptionFee`: the fee may not take all of the collateral drawn. -/
def calcRedemptionFee (redemptionRate ETHDrawn : ℕ) : Except String ℕ := do
  let redemptionFee := redemptionRate * ETHDrawn / DECIMAL_PRECISION
  Revert.require (redemptionFee < ETHDrawn) "TroveManager: Fee would eat up all returned collateral"
  pure redemptionFee

end Functions

/-- The operations that write the fee variables, each at a block timestamp. -/
inductive FeeOp
  | borrow (timestamp : ℕ)
  | redeem (timestamp ETHDrawn price totalZUSDSupply : ℕ)
  deriving DecidableEq, Repr

/-- What an operation does to the fee variables. -/
def FeeOp.run (s : FeeState) : FeeOp → Except String FeeState
  | .borrow timestamp => decayBaseRateFromBorrowing s timestamp
  | .redeem timestamp ETHDrawn price totalZUSDSupply =>
      Prod.fst <$> updateBaseRateFromRedemption s timestamp ETHDrawn price totalZUSDSupply

/-- One successful fee-writing operation. -/
def FeeStep (s s' : FeeState) : Prop := ∃ op : FeeOp, op.run s = .ok s'

/-- The bounds the fee functions promise in a state, for parameters `p`. -/
structure FeeBounds (p : LiquityBaseParams) (s : FeeState) : Prop where
  baseRate_le : s.baseRate ≤ DECIMAL_PRECISION
  decayed_le : ∀ timestamp r, calcDecayedBaseRate s timestamp = .ok r → r ≤ s.baseRate
  /-- The `assert` of `decayBaseRateFromBorrowing` never fails: the call succeeds at every
  timestamp the chain can produce. -/
  decay_ok : ∀ timestamp, s.lastFeeOperationTime ≤ timestamp →
    ∃ s', decayBaseRateFromBorrowing s timestamp = .ok s'
  borrowingRate_mem :
    p.BORROWING_FEE_FLOOR ≤ getBorrowingRate p s ∧ getBorrowingRate p s ≤ p.MAX_BORROWING_FEE
  borrowingRateWithDecay_mem : ∀ timestamp r, getBorrowingRateWithDecay p s timestamp = .ok r →
    p.BORROWING_FEE_FLOOR ≤ r ∧ r ≤ p.MAX_BORROWING_FEE
  redemptionRate_le : getRedemptionRate p s ≤ DECIMAL_PRECISION
  redemptionRateWithDecay_le : ∀ timestamp r,
    getRedemptionRateWithDecay p s timestamp = .ok r → r ≤ DECIMAL_PRECISION

/-! ## Decay -/

theorem MINUTE_DECAY_FACTOR_le : MINUTE_DECAY_FACTOR ≤ DECIMAL_PRECISION := by decide

/-- The decay factor is at most one, for any number of minutes. -/
theorem decayFactor_le (minutes : ℕ) :
    decPow MINUTE_DECAY_FACTOR minutes ≤ DECIMAL_PRECISION :=
  decPow_le_one MINUTE_DECAY_FACTOR_le minutes

variable {p : LiquityBaseParams} {s s' : FeeState} {timestamp : ℕ}

theorem minutesPassedSinceLastFeeOp_ok (h : s.lastFeeOperationTime ≤ timestamp) :
    minutesPassedSinceLastFeeOp s timestamp =
      .ok ((timestamp - s.lastFeeOperationTime) / SECONDS_IN_ONE_MINUTE) := by
  rw [minutesPassedSinceLastFeeOp, SafeMath.sub_of_le h, pure_bind]
  rfl

/-- Decay never raises the base rate. -/
theorem calcDecayedBaseRate_le {r : ℕ} (h : calcDecayedBaseRate s timestamp = .ok r) :
    r ≤ s.baseRate := by
  simp only [calcDecayedBaseRate, Revert.bind_eq_ok, Revert.pure_eq_ok] at h
  obtain ⟨minutes, -, rfl⟩ := h
  exact FixedPoint.mul_div_le_self DECIMAL_PRECISION_pos (decayFactor_le minutes)

/-- Decay succeeds at any timestamp not before the fee clock. -/
theorem calcDecayedBaseRate_ok (h : s.lastFeeOperationTime ≤ timestamp) :
    ∃ r, calcDecayedBaseRate s timestamp = .ok r := by
  simp only [calcDecayedBaseRate, minutesPassedSinceLastFeeOp_ok h, Revert.bind_eq_ok,
    Revert.pure_eq_ok]
  exact ⟨_, _, rfl, rfl⟩

/-- A base rate of zero stays zero however long it decays. -/
theorem calcDecayedBaseRate_of_baseRate_eq_zero (h0 : s.baseRate = 0)
    (h : s.lastFeeOperationTime ≤ timestamp) : calcDecayedBaseRate s timestamp = .ok 0 := by
  rw [calcDecayedBaseRate, minutesPassedSinceLastFeeOp_ok h, Revert.ok_bind, h0]
  dsimp only
  rw [Nat.zero_mul, Nat.zero_div]
  rfl

/-- The fee clock moves, if at all, to the current block, and the base rate stays. -/
theorem updateLastFeeOpTime_eq (h : updateLastFeeOpTime s timestamp = .ok s') :
    s'.baseRate = s.baseRate ∧ s.lastFeeOperationTime ≤ s'.lastFeeOperationTime := by
  simp only [updateLastFeeOpTime, Revert.bind_eq_ok, SafeMath.sub_eq_ok] at h
  obtain ⟨timePassed, ⟨hle, -⟩, h⟩ := h
  split_ifs at h <;> rw [Revert.pure_eq_ok] at h <;> subst h
  · exact ⟨rfl, hle⟩
  · exact ⟨rfl, le_rfl⟩

theorem updateLastFeeOpTime_ok (h : s.lastFeeOperationTime ≤ timestamp) :
    ∃ s', updateLastFeeOpTime s timestamp = .ok s' := by
  rw [updateLastFeeOpTime, SafeMath.sub_of_le h, pure_bind]
  split_ifs
  · exact ⟨_, rfl⟩
  · exact ⟨_, rfl⟩

/-! ## The two writers -/

/-- A borrowing writes the decayed base rate. -/
theorem decayBaseRateFromBorrowing_baseRate
    (h : decayBaseRateFromBorrowing s timestamp = .ok s') :
    calcDecayedBaseRate s timestamp = .ok s'.baseRate := by
  simp only [decayBaseRateFromBorrowing, Revert.bind_eq_ok, Revert.assert_eq_ok] at h
  obtain ⟨r, hr, -, -, h⟩ := h
  rw [(updateLastFeeOpTime_eq h).1]
  exact hr

/-- A borrowing leaves a base rate no larger than before. -/
theorem decayBaseRateFromBorrowing_baseRate_le
    (h : decayBaseRateFromBorrowing s timestamp = .ok s') : s'.baseRate ≤ s.baseRate := by
  simp only [decayBaseRateFromBorrowing, Revert.bind_eq_ok, Revert.assert_eq_ok] at h
  obtain ⟨r, hr, -, -, h⟩ := h
  rw [(updateLastFeeOpTime_eq h).1]
  exact calcDecayedBaseRate_le hr

/-- On a base rate at most one, a borrowing's `assert` holds and the call succeeds. -/
theorem decayBaseRateFromBorrowing_ok (hs : s.baseRate ≤ DECIMAL_PRECISION)
    (h : s.lastFeeOperationTime ≤ timestamp) :
    ∃ s', decayBaseRateFromBorrowing s timestamp = .ok s' := by
  obtain ⟨r, hr⟩ := calcDecayedBaseRate_ok h
  obtain ⟨s', hs'⟩ := updateLastFeeOpTime_ok (s := { s with baseRate := r }) h
  refine ⟨s', ?_⟩
  simp only [decayBaseRateFromBorrowing, Revert.bind_eq_ok, Revert.assert_eq_ok]
  exact ⟨r, hr, (), le_trans (calcDecayedBaseRate_le hr) hs, hs'⟩

/-- A redemption decays the base rate, adds half the redeemed fraction of the supply, caps the sum
at one and asserts that it is positive; then it moves the fee clock. -/
theorem updateBaseRateFromRedemption_eq_ok {ETHDrawn price totalZUSDSupply r : ℕ}
    (h : updateBaseRateFromRedemption s timestamp ETHDrawn price totalZUSDSupply = .ok (s', r)) :
    ∃ decayed, calcDecayedBaseRate s timestamp = .ok decayed ∧ 0 < totalZUSDSupply ∧
      r = LiquityMath.min (decayed + ETHDrawn * price / totalZUSDSupply / BETA)
        DECIMAL_PRECISION ∧ 0 < r ∧
      updateLastFeeOpTime { s with baseRate := r } timestamp = .ok s' := by
  simp only [updateBaseRateFromRedemption, Revert.bind_eq_ok, Revert.assert_eq_ok,
    SafeMath.div_eq_ok, Revert.pure_eq_ok, Prod.mk.injEq] at h
  obtain ⟨decayed, hdecayed, _, ⟨hsupply, rfl⟩, -, hpos, s'', hupdate, rfl, rfl⟩ := h
  exact ⟨decayed, hdecayed, hsupply, rfl, hpos, hupdate⟩

/-- A redemption leaves a base rate of at most one, and returns it. -/
theorem updateBaseRateFromRedemption_baseRate_le {ETHDrawn price totalZUSDSupply r : ℕ}
    (h : updateBaseRateFromRedemption s timestamp ETHDrawn price totalZUSDSupply = .ok (s', r)) :
    s'.baseRate ≤ DECIMAL_PRECISION ∧ s'.baseRate = r := by
  obtain ⟨decayed, -, -, rfl, -, hupdate⟩ := updateBaseRateFromRedemption_eq_ok h
  rw [(updateLastFeeOpTime_eq hupdate).1]
  exact ⟨min_le_right _ _, rfl⟩

/-- The redemption's `assert` fails when nothing is left of the base rate after decay and the
redeemed share of the supply is worth less than `BETA` wei: the fraction is floored by the
division by the supply and again by the one by `BETA`, and adds nothing. -/
theorem updateBaseRateFromRedemption_eq_error {ETHDrawn price totalZUSDSupply : ℕ}
    (hdecayed : calcDecayedBaseRate s timestamp = .ok 0)
    (hsmall : ETHDrawn * price < BETA * totalZUSDSupply) :
    updateBaseRateFromRedemption s timestamp ETHDrawn price totalZUSDSupply =
      .error "assert" := by
  have hsupply : 0 < totalZUSDSupply := Nat.pos_of_mul_pos_left (Nat.lt_of_le_of_lt
    (Nat.zero_le _) hsmall)
  have hfraction : ETHDrawn * price / totalZUSDSupply / BETA = 0 := by
    rw [Nat.div_div_eq_div_mul, Nat.div_eq_zero_iff_lt (Nat.mul_pos hsupply (by decide)),
      Nat.mul_comm totalZUSDSupply]
    exact hsmall
  rw [updateBaseRateFromRedemption, hdecayed, Revert.ok_bind, SafeMath.div_of_pos hsupply,
    pure_bind, hfraction, Nat.zero_add]
  exact Revert.require_bind_of_not (Nat.lt_irrefl 0)

/-! ## Rates -/

theorem calcBorrowingRate_mem (hp : p.BORROWING_FEE_FLOOR ≤ p.MAX_BORROWING_FEE) (baseRate : ℕ) :
    p.BORROWING_FEE_FLOOR ≤ calcBorrowingRate p baseRate ∧
      calcBorrowingRate p baseRate ≤ p.MAX_BORROWING_FEE := by
  unfold calcBorrowingRate LiquityMath.min
  split_ifs <;> omega

theorem calcRedemptionRate_le (baseRate : ℕ) : calcRedemptionRate p baseRate ≤ DECIMAL_PRECISION :=
  min_le_right _ _

/-! ## Runs -/

/-- **Step lemma.**  Every fee-writing operation keeps the base rate at most one. -/
theorem FeeStep.baseRate_le (hs : s.baseRate ≤ DECIMAL_PRECISION) (hstep : FeeStep s s') :
    s'.baseRate ≤ DECIMAL_PRECISION := by
  obtain ⟨op, hrun⟩ := hstep
  cases op with
  | borrow timestamp => exact le_trans (decayBaseRateFromBorrowing_baseRate_le hrun) hs
  | redeem timestamp ETHDrawn price totalZUSDSupply =>
      obtain ⟨⟨s'', r⟩, hr, rfl⟩ := Revert.map_eq_ok.mp hrun
      exact (updateBaseRateFromRedemption_baseRate_le hr).1

/-- The bounds hold in every state whose base rate is at most one. -/
theorem feeBounds_of_baseRate_le (hp : p.BORROWING_FEE_FLOOR ≤ p.MAX_BORROWING_FEE)
    (hs : s.baseRate ≤ DECIMAL_PRECISION) : FeeBounds p s where
  baseRate_le := hs
  decayed_le _ _ h := calcDecayedBaseRate_le h
  decay_ok _ h := decayBaseRateFromBorrowing_ok hs h
  borrowingRate_mem := calcBorrowingRate_mem hp _
  borrowingRateWithDecay_mem _ _ h := by
    simp only [getBorrowingRateWithDecay, Revert.bind_eq_ok, Revert.pure_eq_ok] at h
    obtain ⟨_, -, rfl⟩ := h
    exact calcBorrowingRate_mem hp _
  redemptionRate_le := calcRedemptionRate_le _
  redemptionRateWithDecay_le _ _ h := by
    simp only [getRedemptionRateWithDecay, Revert.bind_eq_ok, Revert.pure_eq_ok] at h
    obtain ⟨_, -, rfl⟩ := h
    exact calcRedemptionRate_le _

/-- **Run lemma.**  Every fee state reached from deployment has a base rate of at most one. -/
theorem reachable_baseRate_le (h : Reachability.Reachable FeeStep FeeState.init s) :
    s.baseRate ≤ DECIMAL_PRECISION :=
  Reachability.Reachable.induction (P := fun s => s.baseRate ≤ DECIMAL_PRECISION)
    (Nat.zero_le _) (fun _ _ hs hstep => hstep.baseRate_le hs) h

/-- Over any sequence of borrowings and redemptions at any times, with fixed parameters whose
fee floor is at most the fee cap, every state meets the fee bounds. -/
theorem reachable_feeBounds (hp : p.BORROWING_FEE_FLOOR ≤ p.MAX_BORROWING_FEE)
    (h : Reachability.Reachable FeeStep FeeState.init s) : FeeBounds p s :=
  feeBounds_of_baseRate_le hp (reachable_baseRate_le h)


/-- A borrowing two minutes after deployment, then a redemption of a thousandth of the
supply's worth three minutes later: the clock moves both times, the redemption raises the base
rate to `0.001`, and the bounds hold with the deployed parameters. -/
theorem feeBounds_after_redemption :
    FeeOp.run FeeState.init (.borrow 120) = .ok ⟨0, 120⟩ ∧
      FeeOp.run ⟨0, 120⟩ (.redeem 300 (10 ^ 18) (2000 * 10 ^ 18) (10 ^ 24)) =
        .ok ⟨10 ^ 15, 300⟩ ∧
      FeeBounds LiquityBaseParams.initialize ⟨10 ^ 15, 300⟩ := by
  have hborrow : FeeOp.run FeeState.init (.borrow 120) = .ok ⟨0, 120⟩ := rfl
  have hredeem : FeeOp.run ⟨0, 120⟩ (.redeem 300 (10 ^ 18) (2000 * 10 ^ 18) (10 ^ 24)) =
      .ok ⟨10 ^ 15, 300⟩ := rfl
  refine ⟨hborrow, hredeem, reachable_feeBounds (by decide) ?_⟩
  exact Reachability.Reachable.tail (Reachability.Reachable.tail Reachability.Reachable.init
    ⟨_, hborrow⟩) ⟨_, hredeem⟩

end ZeroProtocol.TroveManager
