import ZeroProtocol.LibBase.Trove
import ZeroProtocol.TroveManager.Fees
import ZeroProtocol.System.State

/-!
# The SDK's fee calculator

`Fees` of `lib-base` predicts the trove manager's rates off-chain.  `lib-ethers` builds it
from the contract's `baseRate` and `lastFeeOperationTime`, the block's timestamp, the decay
factor `0.999037758833783` and `BETA = 2` (`_getFeesFactory`); times become JavaScript
dates, in milliseconds.  `getFees` builds it at the latest block, in Recovery Mode when the
pools' total is below the critical ratio at the feed's price.

The decay is `Decimal.pow`, the contract's `_decPow` written with a bit test and a shift
where the contract tests parity and halves (`powFor_eq_powLoop`), and without the contract's
cap on the exponent.  Below the cap the two powers agree (`pow_eq_decPow`); past it, the
contract's decay factor is `0` at the cap and the SDK's power, which never grows with the
exponent, is `0` too.  But `pow` asserts a 32-bit exponent, so eight thousand years after the
last fee operation the SDK throws where the contract returns (`sdk_baseRate_asserts`).

The SDK's rate constants are its own; the contract's are governance parameters, and the
comparison assumes that they are equal (`SameRates`).  Dates are taken from the epoch on, so
that the clamp of a negative elapsed time to zero is the truncated subtraction of `ℕ`.
-/

namespace ZeroProtocol.LibBase

open LiquityMath TroveManager

namespace Decimal

/-- Source `roundedMul`: the product rounded to nearest, halves up (`HALF` is `0.5`). -/
def roundedMul (x y : ℕ) : ℕ := (x * y + DIGITS / 2) / DIGITS

/-- The `for` loop of `pow`, with `fuel` rounds: while the exponent is above one, multiply `x`
into `y` when its low bit is set, square `x`, and shift the exponent; then return the product
of `x` and `y`. -/
def powFor : (fuel x y exponent : ℕ) → ℕ
  | 0, x, y, _ => roundedMul x y
  | fuel + 1, x, y, exponent =>
    if exponent > 1 then
      let y := if exponent &&& 1 ≠ 0 then roundedMul x y else y
      powFor fuel (roundedMul x x) y (exponent >>> 1)
    else roundedMul x y

/-- Source `pow`: an exponent above `0xffffffff` fails the `assert` that guards the bitwise
operations. -/
def pow (x exponent : ℕ) : Except String ℕ :=
  if exponent ≤ 0xffffffff then
    if exponent = 0 then pure ONE
    else if exponent = 1 then pure x
    else pure (powFor exponent x DIGITS exponent)
  else throw "AssertionError"

/-- Source `div`: the quotient rounded down, and `INFINITY` for a zero divider. -/
def div (x divider : ℕ) : ℕ :=
  if divider = 0 then INFINITY else x * DIGITS / divider

/-- Source `Decimal.min`. -/
def min (a b : ℕ) : ℕ := if a < b then a else b

end Decimal

/-- Source `MINIMUM_BORROWING_RATE`: `5%`. -/
def MINIMUM_BORROWING_RATE : ℕ := 5 * 10 ^ 16

/-- Source `MAXIMUM_BORROWING_RATE`: `7.5%`. -/
def MAXIMUM_BORROWING_RATE : ℕ := 75 * 10 ^ 15

/-- Source `MINIMUM_REDEMPTION_RATE`: `1.9%`. -/
def MINIMUM_REDEMPTION_RATE : ℕ := 19 * 10 ^ 15

/-- Source `Fees`: the base rate as last written, the decay per minute, `BETA`, the times of
the last fee operation and of the latest block in milliseconds, and the mode.  The constructor's
`assert` that the decay factor is below one is a field. -/
structure Fees where
  baseRateWithoutDecay : ℕ
  minuteDecayFactor : ℕ
  beta : ℕ
  lastFeeOperation : ℕ
  timeOfLatestBlock : ℕ
  recoveryMode : Bool
  minuteDecayFactor_lt : minuteDecayFactor < Decimal.ONE

namespace Fees

variable (f : Fees)

/-- Source `baseRate`: the base rate decayed for the whole minutes from the last fee operation
to `when`, a negative elapsed time counting as none. -/
def baseRate (when : ℕ) : Except String ℕ := do
  let millisecondsSinceLastFeeOperation := when - f.lastFeeOperation
  let minutesSinceLastFeeOperation := millisecondsSinceLastFeeOperation / 60000
  let decayFactor ← Decimal.pow f.minuteDecayFactor minutesSinceLastFeeOperation
  pure (Decimal.mul decayFactor f.baseRateWithoutDecay)

/-- Source `borrowingRate`: zero in Recovery Mode. -/
def borrowingRate (when : ℕ) : Except String ℕ :=
  if f.recoveryMode then pure 0
  else do
    let baseRate ← f.baseRate when
    pure (Decimal.min (MINIMUM_BORROWING_RATE + baseRate) MAXIMUM_BORROWING_RATE)

/-- Source `redemptionRate`: the redeemed fraction, divided by `BETA`, raises the base rate. -/
def redemptionRate (redeemedFractionOfSupply when : ℕ) : Except String ℕ := do
  let baseRate ← f.baseRate when
  let baseRate := if redeemedFractionOfSupply ≠ 0 then
      Decimal.div redeemedFractionOfSupply f.beta + baseRate
    else baseRate
  pure (Decimal.min (MINIMUM_REDEMPTION_RATE + baseRate) Decimal.ONE)

end Fees

namespace ReadableEthersLiquity

/-- Source `MINUTE_DECAY_FACTOR` of `lib-ethers`: `0.999037758833783`. -/
def MINUTE_DECAY_FACTOR : ℕ := 999037758833783000

/-- Source `BETA` of `lib-ethers`: `2` as a `Decimal`. -/
def BETA : ℕ := Decimal.fromNat 2

/-- Source `_getFeesFactory`: the fees at a block, from the contract's fee variables, with the
chain's seconds as the milliseconds of a date. -/
def getFeesFactory (s : FeeState) (blockTimestamp : ℕ) (recoveryMode : Bool) : Fees where
  baseRateWithoutDecay := s.baseRate
  minuteDecayFactor := MINUTE_DECAY_FACTOR
  beta := BETA
  lastFeeOperation := s.lastFeeOperationTime * 1000
  timeOfLatestBlock := blockTimestamp * 1000
  recoveryMode := recoveryMode
  minuteDecayFactor_lt := by decide

@[simp]
theorem getFeesFactory_recoveryMode (s : FeeState) (blockTimestamp : ℕ) (recoveryMode : Bool) :
    (getFeesFactory s blockTimestamp recoveryMode).recoveryMode = recoveryMode := rfl

@[simp]
theorem getFeesFactory_timeOfLatestBlock (s : FeeState) (blockTimestamp : ℕ)
    (recoveryMode : Bool) :
    (getFeesFactory s blockTimestamp recoveryMode).timeOfLatestBlock = blockTimestamp * 1000 := rfl

/-- Source `getTotal`: the active pool's collateral and debt added to the default pool's. -/
def getTotal (st : System) : Trove :=
  Trove.add ⟨st.activePool.ETH, st.activePool.ZUSDDebt⟩
    ⟨st.defaultPool.ETH, st.defaultPool.ZUSDDebt⟩

/-- Source `getFees`: the fees at the latest block, in Recovery Mode when the total's collateral
ratio at the price is below the critical one. -/
def getFees (st : System) : Fees :=
  getFeesFactory st.troveManager.fees st.timestamp
    ((getTotal st).collateralRatioIsBelowCritical st.price)

end ReadableEthersLiquity

/-- The comparison's assumption: the contract's governance parameters are the SDK's rate
constants. -/
structure SameRates (p : LiquityBaseParams) : Prop where
  borrowingFeeFloor : p.BORROWING_FEE_FLOOR = MINIMUM_BORROWING_RATE
  maxBorrowingFee : p.MAX_BORROWING_FEE = MAXIMUM_BORROWING_RATE
  redemptionFeeFloor : p.REDEMPTION_FEE_FLOOR = MINIMUM_REDEMPTION_RATE

/-! ## The two powers -/

theorem DIGITS_eq_DECIMAL_PRECISION : Decimal.DIGITS = DECIMAL_PRECISION := rfl

theorem roundedMul_eq_decMul (x y : ℕ) : Decimal.roundedMul x y = decMul x y := rfl

/-- **The loops agree.**  The low bit is the parity and the shift the halving, which is also
the halving of `n - 1` when `n` is odd; by induction on the fuel. -/
theorem powFor_eq_powLoop :
    ∀ fuel x y n, Decimal.powFor fuel x y n = FixedPoint.powLoop decMul fuel x y n := by
  intro fuel
  induction fuel with
  | zero => intro x y n; exact roundedMul_eq_decMul x y
  | succ fuel ih =>
      intro x y n
      rcases Nat.lt_or_ge 1 n with hn | hn
      · rw [Decimal.powFor, if_pos hn, Nat.and_one_is_mod, Nat.shiftRight_one]
        rcases Nat.mod_two_eq_zero_or_one n with heven | hodd
        · rw [FixedPoint.powLoop_even hn heven, if_neg (by omega)]
          exact ih _ _ _
        · rw [FixedPoint.powLoop_odd hn hodd, if_pos (by omega), ← roundedMul_eq_decMul,
            ← roundedMul_eq_decMul, show (n - 1) / 2 = n / 2 by omega]
          exact ih _ _ _
      · rw [Decimal.powFor, if_neg (Nat.not_lt.2 hn), FixedPoint.powLoop_of_le_one hn]
        exact roundedMul_eq_decMul x y

/-- Up to the contract's cap, `pow` is `_decPow`: the cases `0` and `1` that `pow` returns at
once are those the loop computes as `1` and `x`. -/
theorem pow_eq_decPow (x : ℕ) {n : ℕ} (hn : n ≤ DEC_POW_CAP) :
    Decimal.pow x n = .ok (decPow x n) := by
  have hbits : n ≤ 0xffffffff := le_trans hn (by decide)
  rw [Decimal.pow, if_pos hbits]
  rcases Nat.lt_trichotomy n 1 with h | rfl | h
  · obtain rfl : n = 0 := by omega
    rw [if_pos rfl, decPow_zero, ONE_eq, DIGITS_eq_DECIMAL_PRECISION]
    rfl
  · rw [if_neg one_ne_zero, if_pos rfl, decPow_eq_powLoop one_ne_zero (by decide),
      FixedPoint.powLoop_of_le_one le_rfl, decMul_one]
    rfl
  · rw [if_neg (by omega), if_neg (by omega), powFor_eq_powLoop,
      decPow_eq_powLoop (by omega) hn, DIGITS_eq_DECIMAL_PRECISION]
    rfl

/-- Past the contract's cap and within 32 bits, `pow` of a base at most one is at most the
contract's power at the cap: the loop never grows with the exponent. -/
theorem pow_le_decPow_cap {x n : ℕ} (hx : x ≤ DECIMAL_PRECISION) (hcap : DEC_POW_CAP < n)
    (hbits : n ≤ 0xffffffff) :
    ∃ v, Decimal.pow x n = .ok v ∧ v ≤ decPow x DEC_POW_CAP := by
  have hcapPos : 1 ≤ DEC_POW_CAP := by decide
  rw [decPow_eq_powLoop (by decide) le_rfl]
  refine ⟨_, ?_, FixedPoint.powLoop_self_antitone decMul_mono decMul_one hcapPos hcap.le hx⟩
  rw [Decimal.pow, if_pos hbits, if_neg (by omega), if_neg (by omega), powFor_eq_powLoop,
    DIGITS_eq_DECIMAL_PRECISION]
  rfl

/-- The contract's decay factor is `0` at the cap. -/
theorem decPow_MINUTE_DECAY_FACTOR_cap : decPow MINUTE_DECAY_FACTOR DEC_POW_CAP = 0 := by
  decide +kernel

/-- An exponent past 32 bits fails `pow`'s assertion. -/
theorem pow_eq_error (x : ℕ) {n : ℕ} (hbits : 0xffffffff < n) :
    Decimal.pow x n = .error "AssertionError" := by
  rw [Decimal.pow, if_neg (Nat.not_le.2 hbits)]
  rfl

/-! ## The rates -/

/-- The whole minutes between two dates of whole seconds are the contract's. -/
theorem minutes_eq (t last : ℕ) : (t * 1000 - last * 1000) / 60000 = (t - last) / 60 := by
  rw [← Nat.sub_mul, show (60000 : ℕ) = 60 * 1000 from rfl,
    Nat.mul_div_mul_right _ _ (by decide : 0 < 1000)]

section Rates

variable {s : FeeState} {t : ℕ} (blockTimestamp : ℕ) (recoveryMode : Bool)

theorem getFeesFactory_baseRate_eq :
    (ReadableEthersLiquity.getFeesFactory s blockTimestamp recoveryMode).baseRate (t * 1000) =
      Decimal.pow MINUTE_DECAY_FACTOR ((t - s.lastFeeOperationTime) / 60) >>= fun decayFactor =>
        pure (Decimal.mul decayFactor s.baseRate) := by
  rw [Fees.baseRate]
  exact congrArg (· >>= _) (congrArg _ (minutes_eq t s.lastFeeOperationTime))

/-- **Base rate.**  Within 32 bits of minutes, the SDK's base rate at a block is the contract's
decayed base rate: up to the cap the powers agree, and past it both are zero, the contract's
because it stops at the cap and the SDK's because it is at most the power at the cap. -/
theorem getFeesFactory_baseRate (hclock : s.lastFeeOperationTime ≤ t)
    (hbits : (t - s.lastFeeOperationTime) / 60 ≤ 0xffffffff) :
    (ReadableEthersLiquity.getFeesFactory s blockTimestamp recoveryMode).baseRate (t * 1000) =
      calcDecayedBaseRate s t := by
  rw [getFeesFactory_baseRate_eq, calcDecayedBaseRate, minutesPassedSinceLastFeeOp_ok hclock,
    Revert.ok_bind, show SECONDS_IN_ONE_MINUTE = 60 from rfl]
  dsimp only
  rcases le_or_gt ((t - s.lastFeeOperationTime) / 60) DEC_POW_CAP
    with hcap | hcap
  · rw [pow_eq_decPow _ hcap, Revert.ok_bind, Decimal.mul, DIGITS_eq_DECIMAL_PRECISION,
      Nat.mul_comm]
  · obtain ⟨v, hv, hle⟩ := pow_le_decPow_cap MINUTE_DECAY_FACTOR_le hcap hbits
    rw [decPow_MINUTE_DECAY_FACTOR_cap, Nat.le_zero] at hle
    rw [hv, hle, Revert.ok_bind, decPow_of_cap_le hcap.le, decPow_MINUTE_DECAY_FACTOR_cap,
      Decimal.mul, Nat.zero_mul, Nat.zero_div, Nat.mul_zero, Nat.zero_div]

/-- **Borrowing rate.**  In Normal Mode, with the contract's parameters equal to the SDK's
constants, the SDK's borrowing rate is `getBorrowingRateWithDecay`. -/
theorem getFeesFactory_borrowingRate {p : LiquityBaseParams} (hp : SameRates p)
    (hclock : s.lastFeeOperationTime ≤ t)
    (hbits : (t - s.lastFeeOperationTime) / 60 ≤ 0xffffffff) :
    (ReadableEthersLiquity.getFeesFactory s blockTimestamp false).borrowingRate (t * 1000) =
      getBorrowingRateWithDecay p s t := by
  obtain ⟨decayed, hdecayed⟩ := calcDecayedBaseRate_ok hclock
  rw [Fees.borrowingRate, ReadableEthersLiquity.getFeesFactory_recoveryMode,
    if_neg Bool.false_ne_true, getFeesFactory_baseRate _ _ hclock hbits,
    getBorrowingRateWithDecay, hdecayed, Revert.ok_bind, Revert.ok_bind, calcBorrowingRate,
    hp.borrowingFeeFloor, hp.maxBorrowingFee]
  rfl

/-- **Redemption rate.**  With the contract's parameters equal to the SDK's constants, the SDK's
redemption rate for a redeemed fraction is the contract's rate at the base rate that the
redemption writes.  The SDK caps once, after adding the floor, and the contract twice; the two
agree because the floor is added to a rate that the second cap already bounds. -/
theorem getFeesFactory_redemptionRate {p : LiquityBaseParams} (hp : SameRates p)
    (hclock : s.lastFeeOperationTime ≤ t)
    (hbits : (t - s.lastFeeOperationTime) / 60 ≤ 0xffffffff) (redeemedFraction : ℕ) :
    (ReadableEthersLiquity.getFeesFactory s blockTimestamp recoveryMode).redemptionRate
        redeemedFraction (t * 1000) =
      calcDecayedBaseRate s t >>= fun decayed => pure (calcRedemptionRate p
        (LiquityMath.min (decayed + redeemedFraction / BETA) DECIMAL_PRECISION)) := by
  obtain ⟨decayed, hdecayed⟩ := calcDecayedBaseRate_ok hclock
  have hdiv : Decimal.div redeemedFraction ReadableEthersLiquity.BETA = redeemedFraction / BETA := by
    rw [Decimal.div, if_neg (by decide), ReadableEthersLiquity.BETA, Decimal.fromNat,
      Nat.mul_div_mul_right _ _ DIGITS_pos]
    rfl
  rw [Fees.redemptionRate, getFeesFactory_baseRate _ _ hclock hbits, hdecayed, Revert.ok_bind,
    Revert.ok_bind]
  dsimp only [ReadableEthersLiquity.getFeesFactory]
  rw [hdiv, calcRedemptionRate, hp.redemptionFeeFloor, ONE_eq, DIGITS_eq_DECIMAL_PRECISION]
  -- a zero fraction adds nothing to the base rate
  have hzero : (if redeemedFraction ≠ 0 then redeemedFraction / BETA + decayed else decayed) =
      decayed + redeemedFraction / BETA := by
    split_ifs with h
    · exact Nat.add_comm _ _
    · rw [not_not.1 h, Nat.zero_div, Nat.add_zero]
  rw [hzero]
  unfold Decimal.min LiquityMath.min
  congr 1
  split_ifs <;> omega

end Rates

/-- **Past 32 bits of minutes the SDK throws.**  `2^32` minutes, about eight thousand years,
after a fee operation that left the base rate at one, the contract's base rate has decayed to
zero and its borrowing rate is the floor, whatever the parameters; but the SDK's `pow` fails its
assertion on the exponent, and so do its base rate and its borrowing rate. -/
theorem sdk_baseRate_asserts :
    calcDecayedBaseRate ⟨10 ^ 18, 0⟩ (2 ^ 32 * 60) = .ok 0 ∧
      (∀ p, getBorrowingRateWithDecay p ⟨10 ^ 18, 0⟩ (2 ^ 32 * 60) =
        .ok (calcBorrowingRate p 0)) ∧
      (ReadableEthersLiquity.getFeesFactory ⟨10 ^ 18, 0⟩ (2 ^ 32 * 60) false).baseRate
        (2 ^ 32 * 60 * 1000) = .error "AssertionError" ∧
      (ReadableEthersLiquity.getFeesFactory ⟨10 ^ 18, 0⟩ (2 ^ 32 * 60) false).borrowingRate
        (2 ^ 32 * 60 * 1000) = .error "AssertionError" := by
  have hdecayed : calcDecayedBaseRate ⟨10 ^ 18, 0⟩ (2 ^ 32 * 60) = .ok 0 := by
    rw [calcDecayedBaseRate, minutesPassedSinceLastFeeOp_ok (Nat.zero_le _), Revert.ok_bind]
    dsimp only
    rw [decPow_of_cap_le (by decide), decPow_MINUTE_DECAY_FACTOR_cap, Nat.mul_zero, Nat.zero_div]
    rfl
  have hsdk : (ReadableEthersLiquity.getFeesFactory ⟨10 ^ 18, 0⟩ (2 ^ 32 * 60) false).baseRate
      (2 ^ 32 * 60 * 1000) = .error "AssertionError" := by
    rw [getFeesFactory_baseRate_eq, pow_eq_error _ (by decide)]
    rfl
  refine ⟨hdecayed, fun p => ?_, hsdk, ?_⟩
  · rw [getBorrowingRateWithDecay, hdecayed, Revert.ok_bind]
    rfl
  · rw [Fees.borrowingRate, ReadableEthersLiquity.getFeesFactory_recoveryMode,
      if_neg Bool.false_ne_true, hsdk]
    rfl

end ZeroProtocol.LibBase
