import ZeroProtocol.Lib.Revert
import ZeroProtocol.Lib.FixedPoint
import ZeroProtocol.Lib.RoundingError
import Mathlib.Order.Monotone.Basic
import Mathlib.Data.Rat.Cast.Order

/-!
# Solidity arithmetic and `LiquityMath`

The contracts compute on `uint256` through `SafeMath`.  Quantities are modelled as natural
numbers.  Where a result says that a computation returns, its overflow checks are kept:
`decMulChecked` and `decPowChecked` keep those of `decMul` and `_decPow`, to show that the
decimal power never overflows on a base at most one, and the Stability Pool's and the staking
contract's views keep theirs, which revert with a message that `SafeMath.Overflow` admits.
Elsewhere an addition or multiplication that would exceed `2^256` reverts in the contracts and
is not modelled, which only adds runs to those of the contracts; a subtraction below zero
and a division by zero revert in the model exactly as `SafeMath.sub` and `SafeMath.div` do,
with their messages.  Divisions by a nonzero constant and the unchecked `/` of the
contracts are plain `/`.

`LiquityMath` supplies the collateral ratios and the 18-digit decimal power used for the
fee decay and the ZERO issuance curve.
-/

namespace ZeroProtocol

/-- Solidity's `address`; `0` is `address(0)`.  The 160-bit width plays no role. -/
abbrev Address := ℕ

/-- The `2**256 - 1` returned for an "infinite" collateral ratio. -/
def MAX_UINT256 : ℕ := 2 ^ 256 - 1

namespace SafeMath

/-- Source `sub(a, b, errorMessage)`: subtraction that reverts below zero with
`errorMessage`. -/
def subWithMessage (a b : ℕ) (errorMessage : String) : Except String ℕ :=
  if b ≤ a then pure (a - b) else throw errorMessage

/-- Subtraction that reverts below zero. -/
def sub (a b : ℕ) : Except String ℕ := subWithMessage a b "SafeMath: subtraction overflow"

/-- Division that reverts on a zero divisor. -/
def div (a b : ℕ) : Except String ℕ :=
  if 0 < b then pure (a / b) else throw "SafeMath: division by zero"

@[simp] theorem subWithMessage_eq_ok {a b c : ℕ} {errorMessage : String} :
    subWithMessage a b errorMessage = .ok c ↔ b ≤ a ∧ c = a - b := by
  unfold subWithMessage
  split_ifs with h
  · rw [Revert.pure_eq_ok]
    exact ⟨fun he => ⟨h, he.symm⟩, fun he => he.2.symm⟩
  · simp [h]

@[simp] theorem sub_eq_ok {a b c : ℕ} : sub a b = .ok c ↔ b ≤ a ∧ c = a - b :=
  subWithMessage_eq_ok

theorem sub_of_le {a b : ℕ} (h : b ≤ a) : sub a b = pure (a - b) := if_pos h

theorem div_of_pos {a b : ℕ} (h : 0 < b) : div a b = pure (a / b) := if_pos h

/-- Multiplication that reverts above `2^256 - 1`. -/
def mul (a b : ℕ) : Except String ℕ :=
  if a * b ≤ MAX_UINT256 then pure (a * b) else throw "SafeMath: multiplication overflow"

/-- Addition that reverts above `2^256 - 1`. -/
def add (a b : ℕ) : Except String ℕ :=
  if a + b ≤ MAX_UINT256 then pure (a + b) else throw "SafeMath: addition overflow"

@[simp] theorem div_eq_ok {a b c : ℕ} : div a b = .ok c ↔ 0 < b ∧ c = a / b := by
  unfold div
  split_ifs with h
  · rw [Revert.pure_eq_ok]
    exact ⟨fun he => ⟨h, he.symm⟩, fun he => he.2.symm⟩
  · simp [h]

theorem mul_of_le {a b : ℕ} (h : a * b ≤ MAX_UINT256) : mul a b = pure (a * b) := if_pos h

@[simp] theorem mul_eq_ok {a b c : ℕ} : mul a b = .ok c ↔ a * b ≤ MAX_UINT256 ∧ c = a * b := by
  unfold mul
  split_ifs with h
  · rw [Revert.pure_eq_ok]
    exact ⟨fun he => ⟨h, he.symm⟩, fun he => he.2.symm⟩
  · simp [h]

/-- The messages of the checks that revert on overflow. -/
def Overflow (e : String) : Prop :=
  e = "SafeMath: multiplication overflow" ∨ e = "SafeMath: addition overflow" ∨
    e = "LiquitySafeMath128: addition overflow"

theorem mul_revertsOnlyWith_overflow (a b : ℕ) : Revert.RevertsOnlyWith Overflow (mul a b) :=
  Revert.RevertsOnlyWith.ite (fun _ => .pure _) (fun _ => .throw (.inl rfl))

theorem add_revertsOnlyWith_overflow (a b : ℕ) : Revert.RevertsOnlyWith Overflow (add a b) :=
  Revert.RevertsOnlyWith.ite (fun _ => .pure _) (fun _ => .throw (.inr (.inl rfl)))

end SafeMath

/-- The largest `uint128`: epochs and scales are `uint128`. -/
def MAX_UINT128 : ℕ := 2 ^ 128 - 1

namespace LiquitySafeMath128

/-- Subtraction of `uint128` values that reverts below zero. -/
def sub (a b : ℕ) : Except String ℕ :=
  SafeMath.subWithMessage a b "LiquitySafeMath128: subtraction overflow"

/-- Addition of `uint128` values that reverts above `2^128 - 1`. -/
def add (a b : ℕ) : Except String ℕ :=
  if a + b ≤ MAX_UINT128 then pure (a + b) else throw "LiquitySafeMath128: addition overflow"

@[simp] theorem sub_eq_ok {a b c : ℕ} : sub a b = .ok c ↔ b ≤ a ∧ c = a - b :=
  SafeMath.subWithMessage_eq_ok

theorem add_revertsOnlyWith_overflow (a b : ℕ) :
    Revert.RevertsOnlyWith SafeMath.Overflow (add a b) :=
  Revert.RevertsOnlyWith.ite (fun _ => .pure _) (fun _ => .throw (.inr (.inr rfl)))

end LiquitySafeMath128

namespace LiquityMath

/-- The unit of 18-digit decimals. -/
def DECIMAL_PRECISION : ℕ := 10 ^ 18

/-- The scale of nominal collateral ratios. -/
def NICR_PRECISION : ℕ := 10 ^ 20

/-- The cap of `_decPow` on its exponent: the minutes in 1000 years. -/
def DEC_POW_CAP : ℕ := 525600000

theorem DECIMAL_PRECISION_pos : 0 < DECIMAL_PRECISION := by decide

def min (a b : ℕ) : ℕ := if a < b then a else b

def max (a b : ℕ) : ℕ := if a ≥ b then a else b

/-- Product of two decimals, rounded to nearest (`decMul`). -/
def decMul (x y : ℕ) : ℕ := FixedPoint.mulRound DECIMAL_PRECISION x y

/-- Source `_decPow`: `base^minutes` for an 18-digit decimal base, by square-and-multiply, with the
exponent capped at `DEC_POW_CAP`.  The loop halves `n`, so `minutes` rounds are enough
(`FixedPoint.powLoop_fuel`). -/
def decPow (base minutes : ℕ) : ℕ :=
  let minutes := if minutes > DEC_POW_CAP then DEC_POW_CAP else minutes
  if minutes = 0 then DECIMAL_PRECISION
  else FixedPoint.powLoop decMul minutes base DECIMAL_PRECISION minutes

/-- Source `decMul` with the checks of its `SafeMath` calls. -/
def decMulChecked (x y : ℕ) : Except String ℕ := do
  let prod_xy ← SafeMath.mul x y
  SafeMath.div (← SafeMath.add prod_xy (DECIMAL_PRECISION / 2)) DECIMAL_PRECISION

/-- Source `_decPow` with the checks of the `SafeMath` calls in its products; the counter's
`div` and `sub` cannot fail inside the loop. -/
def decPowChecked (base minutes : ℕ) : Except String ℕ :=
  let minutes := if minutes > DEC_POW_CAP then DEC_POW_CAP else minutes
  if minutes = 0 then pure DECIMAL_PRECISION
  else FixedPoint.powLoopExcept decMulChecked minutes base DECIMAL_PRECISION minutes

/-- Source `_computeNominalCR`: collateral per unit of debt at `NICR_PRECISION`, "infinite" for no
debt. -/
def computeNominalCR (coll debt : ℕ) : ℕ :=
  if 0 < debt then coll * NICR_PRECISION / debt else MAX_UINT256

/-- Source `_computeCR`: the collateral ratio at `price`, "infinite" for no debt. -/
def computeCR (coll debt price : ℕ) : ℕ :=
  if 0 < debt then coll * price / debt else MAX_UINT256

theorem min_le_left (a b : ℕ) : min a b ≤ a := by
  unfold min; split_ifs <;> omega

theorem min_le_right (a b : ℕ) : min a b ≤ b := by
  unfold min; split_ifs <;> omega

theorem decMul_le_one {x y : ℕ} (hx : x ≤ DECIMAL_PRECISION) (hy : y ≤ DECIMAL_PRECISION) :
    decMul x y ≤ DECIMAL_PRECISION :=
  FixedPoint.mulRound_le_unit DECIMAL_PRECISION_pos hx hy

/-- A power of a decimal at most one is at most one. -/
theorem decPow_le_one {base : ℕ} (hbase : base ≤ DECIMAL_PRECISION) (minutes : ℕ) :
    decPow base minutes ≤ DECIMAL_PRECISION := by
  -- the loop never leaves the decimals in `[0, 1]`
  have hloop : ∀ fuel n,
      FixedPoint.powLoop decMul fuel base DECIMAL_PRECISION n ≤ DECIMAL_PRECISION :=
    fun fuel n => FixedPoint.powLoop_mem {a | a ≤ DECIMAL_PRECISION}
      (fun a ha b hb => decMul_le_one ha hb) fuel base _ n hbase (le_refl DECIMAL_PRECISION)
  unfold decPow
  generalize (if minutes > DEC_POW_CAP then DEC_POW_CAP else minutes) = m
  dsimp only
  split
  · exact le_rfl
  · exact hloop m m

theorem decMul_mono {x x' y y' : ℕ} (hx : x ≤ x') (hy : y ≤ y') : decMul x y ≤ decMul x' y' :=
  FixedPoint.mulRound_mono hx hy

@[simp] theorem decMul_one (x : ℕ) : decMul x DECIMAL_PRECISION = x :=
  FixedPoint.mulRound_unit DECIMAL_PRECISION_pos x

@[simp] theorem decPow_zero (base : ℕ) : decPow base 0 = DECIMAL_PRECISION := rfl

/-- Below the cap, a positive exponent is the loop's counter and its budget. -/
theorem decPow_eq_powLoop {base minutes : ℕ} (hpos : minutes ≠ 0) (hcap : minutes ≤ DEC_POW_CAP) :
    decPow base minutes = FixedPoint.powLoop decMul minutes base DECIMAL_PRECISION minutes := by
  have hbelow : ¬ minutes > DEC_POW_CAP := Nat.not_lt.2 hcap
  unfold decPow
  dsimp only
  rw [if_neg hbelow, if_neg hpos]

/-- Past the cap the exponent is the cap. -/
theorem decPow_of_cap_le {base minutes : ℕ} (hcap : DEC_POW_CAP ≤ minutes) :
    decPow base minutes = decPow base DEC_POW_CAP := by
  rcases Nat.lt_or_eq_of_le hcap with habove | rfl
  · have hnot : ¬ DEC_POW_CAP > DEC_POW_CAP := lt_irrefl _
    unfold decPow
    dsimp only
    rw [if_pos habove, if_neg hnot]
  · rfl

/-- **The decimal power never grows with the exponent** for a base at most one, although each
exponent takes its own squaring path and rounds on it: below the cap
`FixedPoint.powLoop_self_succ_le` compares each exponent with the next, and past the cap the
exponent is the cap. -/
theorem decPow_antitone {base : ℕ} (hbase : base ≤ DECIMAL_PRECISION) : Antitone (decPow base) := by
  apply antitone_nat_of_succ_le
  intro n
  rcases Nat.lt_or_ge n DEC_POW_CAP with hcap | hcap
  · cases n with
    | zero =>
        -- one minute is the loop's single product `decMul base 1`
        rw [Nat.zero_add, decPow_eq_powLoop one_ne_zero hcap, decPow_zero,
          FixedPoint.powLoop_of_le_one le_rfl, decMul_one]
        exact hbase
    | succ n =>
        calc decPow base (n + 1 + 1)
            = FixedPoint.powLoop decMul (n + 1 + 1) base DECIMAL_PRECISION (n + 1 + 1) :=
              decPow_eq_powLoop (Nat.succ_ne_zero _) hcap
          _ ≤ FixedPoint.powLoop decMul (n + 1) base DECIMAL_PRECISION (n + 1) :=
              FixedPoint.powLoop_self_succ_le decMul_mono decMul_one (Nat.le_add_left 1 n) hbase
          _ = decPow base (n + 1) := (decPow_eq_powLoop (Nat.succ_ne_zero _) hcap.le).symm
  · rw [decPow_of_cap_le (Nat.le_succ_of_le hcap), decPow_of_cap_le hcap]

/-! ## The accuracy of the decimal power -/

/-- On decimals at most one, `decMul`'s product and the half added stay far below `2^256`. -/
theorem decMulChecked_eq {x y : ℕ} (hx : x ≤ DECIMAL_PRECISION) (hy : y ≤ DECIMAL_PRECISION) :
    decMulChecked x y = pure (decMul x y) := by
  have hprod : x * y ≤ DECIMAL_PRECISION * DECIMAL_PRECISION := Nat.mul_le_mul hx hy
  have hbound : DECIMAL_PRECISION * DECIMAL_PRECISION + DECIMAL_PRECISION / 2 ≤ MAX_UINT256 := by
    decide
  rw [decMulChecked, SafeMath.mul, if_pos (by omega), pure_bind, SafeMath.add, if_pos (by omega),
    pure_bind, SafeMath.div_of_pos DECIMAL_PRECISION_pos]
  rfl

/-- The exponent that `_decPow` uses after its cap. -/
theorem decPow_cap_eq (minutes : ℕ) :
    (if minutes > DEC_POW_CAP then DEC_POW_CAP else minutes) =
      LiquityMath.min minutes DEC_POW_CAP := by
  unfold LiquityMath.min
  split_ifs <;> omega

/-- `_decPow` never overflows on a base at most one: every product on the way is one of two
decimals at most one. -/
theorem decPowChecked_eq {base : ℕ} (hbase : base ≤ DECIMAL_PRECISION) (minutes : ℕ) :
    decPowChecked base minutes = pure (decPow base minutes) := by
  unfold decPowChecked decPow
  generalize (if minutes > DEC_POW_CAP then DEC_POW_CAP else minutes) = m
  dsimp only
  split
  · rfl
  · exact FixedPoint.powLoopExcept_eq {a | a ≤ DECIMAL_PRECISION}
      (fun a ha b hb => decMul_le_one ha hb) (fun a ha b hb => decMulChecked_eq ha hb) m base
      DECIMAL_PRECISION m hbase (le_refl DECIMAL_PRECISION)

/-- `decMul` rounds to within half a step: the unit `10^18` is even. -/
theorem decMul_error {K : Type*} [Field K] [LinearOrder K] [IsStrictOrderedRing K] (x y : ℕ) :
    |(decMul x y : K) - x * y / DECIMAL_PRECISION| ≤ 1 / 2 :=
  FixedPoint.mulRound_error DECIMAL_PRECISION_pos (by decide) x y

/-- **The error of `_decPow`.**  Against the exact power of the base read as a decimal, with the
exponent capped, the error is at most half a step per unit of the exponent: the loop starts from
the exact base and from an exact one, so only its roundings count (`FixedPoint.powLoop_error`). -/
theorem decPow_error {K : Type*} [Field K] [LinearOrder K] [IsStrictOrderedRing K] {base : ℕ}
    (hbase : base ≤ DECIMAL_PRECISION) (minutes : ℕ) :
    |(decPow base minutes : K) -
        DECIMAL_PRECISION * ((base : K) / DECIMAL_PRECISION) ^ LiquityMath.min minutes DEC_POW_CAP|
      ≤ (LiquityMath.min minutes DEC_POW_CAP : ℕ) / 2 := by
  have hD : (0 : K) < DECIMAL_PRECISION := Nat.cast_pos.mpr DECIMAL_PRECISION_pos
  have hbaseK : (base : K) ≤ DECIMAL_PRECISION := by exact_mod_cast hbase
  unfold decPow
  rw [decPow_cap_eq]
  generalize LiquityMath.min minutes DEC_POW_CAP = m
  dsimp only
  split
  · -- no minutes: the power is one, exactly
    rename_i hm
    rw [hm, pow_zero, mul_one, sub_self, abs_zero, Nat.cast_zero, zero_div]
  · rename_i hm
    -- the loop starts from the exact base and the exact one: no error but its roundings
    have hloop : |(FixedPoint.powLoop decMul m base DECIMAL_PRECISION m : K) -
        (base : K) ^ m * DECIMAL_PRECISION / (DECIMAL_PRECISION : K) ^ m| ≤
          0 + m * 0 + m / 2 :=
      FixedPoint.powLoop_error DECIMAL_PRECISION_pos (fun a b _ _ => decMul_error a b)
        (fun a b ha hb => decMul_le_one ha hb) (Nat.one_le_iff_ne_zero.mpr hm) le_rfl hbase
        le_rfl (Nat.cast_nonneg _) hbaseK hD.le le_rfl (by rw [sub_self, abs_zero])
        (by rw [sub_self, abs_zero])
    have htarget : (base : K) ^ m * DECIMAL_PRECISION / (DECIMAL_PRECISION : K) ^ m =
        DECIMAL_PRECISION * ((base : K) / DECIMAL_PRECISION) ^ m := by
      rw [div_pow]
      ring
    rw [htarget, mul_zero, zero_add, zero_add] at hloop
    exact hloop

/-- For a base at most one and any number of minutes, `_decPow` does not overflow, returns at
most one, and is within `1e-9` of the exact power with the capped exponent: half a step for
each of at most `DEC_POW_CAP` minutes is 262800000 steps of `1e-18`. -/
theorem decPow_accurate {base : ℕ} (hbase : base ≤ DECIMAL_PRECISION) (minutes : ℕ) :
    decPowChecked base minutes = .ok (decPow base minutes) ∧
      decPow base minutes ≤ DECIMAL_PRECISION ∧
      |(decPow base minutes : ℚ) -
          DECIMAL_PRECISION * ((base : ℚ) / DECIMAL_PRECISION) ^
            LiquityMath.min minutes DEC_POW_CAP| < 10 ^ 9 := by
  refine ⟨decPowChecked_eq hbase minutes, decPow_le_one hbase minutes, ?_⟩
  have hcap : ((LiquityMath.min minutes DEC_POW_CAP : ℕ) : ℚ) ≤ 525600000 := by
    have hle : LiquityMath.min minutes DEC_POW_CAP ≤ 525600000 := min_le_right _ _
    exact_mod_cast hle
  calc |(decPow base minutes : ℚ) -
        DECIMAL_PRECISION * ((base : ℚ) / DECIMAL_PRECISION) ^ LiquityMath.min minutes DEC_POW_CAP|
      ≤ (LiquityMath.min minutes DEC_POW_CAP : ℕ) / 2 := decPow_error hbase minutes
    _ < 10 ^ 9 := by linarith

/-- The decay factor of the base rate over the 90 days of the contract's accuracy test. -/
theorem decPow_accurate_ninetyDays : 999037758833783000 ≤ DECIMAL_PRECISION ∧
    (decPowChecked 999037758833783000 7776000 = .ok (decPow 999037758833783000 7776000) ∧
      decPow 999037758833783000 7776000 ≤ DECIMAL_PRECISION ∧
      |(decPow 999037758833783000 7776000 : ℚ) -
          DECIMAL_PRECISION * (((999037758833783000 : ℕ) : ℚ) / DECIMAL_PRECISION) ^
            LiquityMath.min 7776000 DEC_POW_CAP| < 10 ^ 9) :=
  ⟨by decide, decPow_accurate (by decide) 7776000⟩

end LiquityMath

end ZeroProtocol
