import ZeroProtocol.Lib.FixedPoint
import Mathlib.Algebra.Order.Field.Basic
import Mathlib.Data.Nat.Cast.Order.Field
import Mathlib.Tactic.Linarith
import Mathlib.Tactic.FieldSimp

/-!
# The error of square-and-multiply with rounded products

Read against `unit`, a natural `x` stands for the value `x / unit`.  A multiplication `mul`
that rounds `x * y / unit` to within half a step, on values at most `unit`, is compared here
with exact arithmetic in an ordered field `K`.  A computed `x` approximates an exact `X` with
an absolute error `ex`.

* `mul_error`: the rounded product of two approximations is off by at most the two errors
  plus half a step, for values in `[0, unit]`;
* `powLoop_error`: the loop `powLoop mul` on a counter `n` ends within `ey + n * ex + n / 2` of
  the exact `X ^ n * Y / unit ^ n`.  A squaring doubles the error of `x` and adds half a step;
  the loop squares once for every halving of `n`, so the errors of `x` are counted `n` times in
  all, and the half steps `n / 2` times.

The other half of the module is the loop whose products may fail, as the products of a
contract's `SafeMath` do: it returns the plain loop's value whenever every product on the way
succeeds (`powLoopExcept_eq`).
-/

namespace FixedPoint

section Exact

variable {K : Type*} [Field K] [LinearOrder K] [IsStrictOrderedRing K]

/-- Rounding to nearest, halves up, is within half a step of the exact product when the
unit is even. -/
theorem mulRound_error {unit : ℕ} (hu : 0 < unit) (heven : unit % 2 = 0) (x y : ℕ) :
    |(mulRound unit x y : K) - x * y / unit| ≤ 1 / 2 := by
  -- the quotient `r` of `x * y + unit / 2` by `unit`
  have hlo := Nat.div_mul_le_self (x * y + unit / 2) unit
  have hhi := Nat.lt_div_mul_add (a := x * y + unit / 2) hu
  have hhalf : unit = 2 * (unit / 2) := (Nat.mul_div_cancel' (Nat.dvd_of_mod_eq_zero heven)).symm
  have hU : (0 : K) < unit := Nat.cast_pos.mpr hu
  have hloK : (mulRound unit x y : K) * unit ≤ x * y + (unit / 2 : ℕ) := by exact_mod_cast hlo
  have hhiK : (x * y : K) + (unit / 2 : ℕ) < mulRound unit x y * unit + unit := by
    exact_mod_cast hhi
  have hhalfK : (unit : K) = 2 * (unit / 2 : ℕ) := by exact_mod_cast hhalf
  have hsplit : (mulRound unit x y : K) - x * y / unit =
      ((mulRound unit x y : K) * unit - x * y) / unit := by
    field_simp
  rw [hsplit, abs_div, abs_of_pos hU, div_le_iff₀ hU, abs_le]
  constructor <;> linarith

/-- The exact product moves by at most the two errors, for a second factor and a first exact
value in `[0, u]`. -/
theorem mul_div_sub_le {u x y X Y ex ey : K} (hu : 0 < u) (hy : 0 ≤ y) (hyu : y ≤ u)
    (hX : 0 ≤ X) (hXu : X ≤ u) (hx : |x - X| ≤ ex) (hyY : |y - Y| ≤ ey) :
    |x * y / u - X * Y / u| ≤ ex + ey := by
  have hsplit : x * y / u - X * Y / u = ((x - X) * y + X * (y - Y)) / u := by ring
  rw [hsplit, abs_div, abs_of_pos hu, div_le_iff₀ hu]
  calc |(x - X) * y + X * (y - Y)|
      ≤ |(x - X) * y| + |X * (y - Y)| := abs_add_le _ _
    _ = |x - X| * y + X * |y - Y| := by rw [abs_mul, abs_mul, abs_of_nonneg hy, abs_of_nonneg hX]
    _ ≤ ex * u + u * ey := add_le_add
        (mul_le_mul hx hyu hy (le_trans (abs_nonneg _) hx))
        (mul_le_mul hXu hyY (abs_nonneg _) (le_trans hX hXu))
    _ = (ex + ey) * u := by ring

/-- Exact products of values in `[0, u]`, read against `u`, stay in `[0, u]`. -/
theorem mul_div_mem {u X Y : K} (hu : 0 < u) (hX : 0 ≤ X) (hXu : X ≤ u) (hY : 0 ≤ Y)
    (hYu : Y ≤ u) : 0 ≤ X * Y / u ∧ X * Y / u ≤ u := by
  refine ⟨div_nonneg (mul_nonneg hX hY) hu.le, ?_⟩
  rw [div_le_iff₀ hu]
  exact mul_le_mul hXu hYu hY hu.le

variable {mul : ℕ → ℕ → ℕ} {unit : ℕ}

section Loop

variable (hu : 0 < unit)
  (hround : ∀ a b, a ≤ unit → b ≤ unit → |(mul a b : K) - a * b / unit| ≤ 1 / 2)
  (hclosed : ∀ a b, a ≤ unit → b ≤ unit → mul a b ≤ unit)
include hu hround

/-- **Step lemma.**  A rounded product of two approximations is off by at most their errors
and half a step. -/
theorem mul_error {x y : ℕ} {X Y ex ey : K} (hx : x ≤ unit) (hy : y ≤ unit) (hX : 0 ≤ X)
    (hXu : X ≤ unit) (hex : |(x : K) - X| ≤ ex) (hey : |(y : K) - Y| ≤ ey) :
    |(mul x y : K) - X * Y / unit| ≤ ex + ey + 1 / 2 := by
  have hU : (0 : K) < unit := Nat.cast_pos.mpr hu
  have hyu : (y : K) ≤ unit := by exact_mod_cast hy
  calc |(mul x y : K) - X * Y / unit|
      ≤ |(mul x y : K) - x * y / unit| + |(x : K) * y / unit - X * Y / unit| := abs_sub_le _ _ _
    _ ≤ 1 / 2 + (ex + ey) := add_le_add (hround x y hx hy)
        (mul_div_sub_le hU (Nat.cast_nonneg y) hyu hX hXu hex hey)
    _ = ex + ey + 1 / 2 := by ring

include hclosed

/-- **The loop's error.**  By induction on the fuel: a round on an even counter `2m` squares
`x`, which doubles its error and adds half a step, and leaves `m` rounds' worth of errors; an
odd counter `2m + 1` also multiplies `x` into `y`, which moves the error of `x` once and half a
step into the error of `y`.  In both cases the budget `ey + n * ex + n / 2` is what the
remaining loop spends.  The exact values stay in `[0, unit]`, so that the step lemma applies. -/
theorem powLoop_error :
    ∀ {fuel n x y : ℕ} {X Y ex ey : K}, 1 ≤ n → n ≤ fuel → x ≤ unit → y ≤ unit → 0 ≤ X →
      X ≤ unit → 0 ≤ Y → Y ≤ unit → |(x : K) - X| ≤ ex → |(y : K) - Y| ≤ ey →
      |(powLoop mul fuel x y n : K) - X ^ n * Y / unit ^ n| ≤ ey + n * ex + n / 2 := by
  have hU : (0 : K) < unit := Nat.cast_pos.mpr hu
  intro fuel
  induction fuel with
  | zero => intro n x y X Y ex ey hn hfuel; omega
  | succ fuel ih =>
      intro n x y X Y ex ey hn hfuel hx hy hX hXu hY hYu hex hey
      have hsq := mul_error hu hround hx hx hX hXu hex hex
      obtain ⟨hXX, hXXu⟩ := mul_div_mem hU hX hXu hX hXu
      rcases Nat.lt_or_ge 1 n with hmore | hone
      · rcases Nat.mod_two_eq_zero_or_one n with heven | hodd
        · -- `n = 2m`: square `x`, and the rest of the loop runs on `m`
          obtain ⟨m, rfl⟩ : ∃ m, n = 2 * m := ⟨n / 2, by omega⟩
          rw [powLoop_even hmore heven, Nat.mul_div_cancel_left m two_pos]
          have hrest := ih (n := m) (by omega) (by omega) (hclosed x x hx hx) hy hXX hXXu hY hYu
            hsq hey
          have htarget : (X * X / unit) ^ m * Y / (unit : K) ^ m =
              X ^ (2 * m) * Y / (unit : K) ^ (2 * m) := by
            ring
          rw [htarget] at hrest
          calc |(powLoop mul fuel (mul x x) y m : K) - X ^ (2 * m) * Y / (unit : K) ^ (2 * m)|
              ≤ ey + m * (ex + ex + 1 / 2) + m / 2 := hrest
            _ = ey + ((2 * m : ℕ) : K) * ex + ((2 * m : ℕ) : K) / 2 := by push_cast; ring
        · -- `n = 2m + 1`: multiply `x` into `y`, square `x`, and run on `m`
          obtain ⟨m, rfl⟩ : ∃ m, n = 2 * m + 1 := ⟨n / 2, by omega⟩
          have hhalf : (2 * m + 1 - 1) / 2 = m := by omega
          rw [powLoop_odd hmore hodd, hhalf]
          have hxy := mul_error hu hround hx hy hX hXu hex hey
          obtain ⟨hXY, hXYu⟩ := mul_div_mem hU hX hXu hY hYu
          have hrest := ih (n := m) (by omega) (by omega) (hclosed x x hx hx) (hclosed x y hx hy)
            hXX hXXu hXY hXYu hsq hxy
          have htarget : (X * X / unit) ^ m * (X * Y / unit) / (unit : K) ^ m =
              X ^ (2 * m + 1) * Y / (unit : K) ^ (2 * m + 1) := by
            ring
          rw [htarget] at hrest
          calc |(powLoop mul fuel (mul x x) (mul x y) m : K) -
                X ^ (2 * m + 1) * Y / (unit : K) ^ (2 * m + 1)|
              ≤ ex + ey + 1 / 2 + m * (ex + ex + 1 / 2) + m / 2 := hrest
            _ = ey + ((2 * m + 1 : ℕ) : K) * ex + ((2 * m + 1 : ℕ) : K) / 2 := by push_cast; ring
      · -- `n = 1`: the loop returns the one product
        obtain rfl : n = 1 := by omega
        rw [powLoop_of_le_one le_rfl, pow_one, pow_one, Nat.cast_one, one_mul]
        calc |(mul x y : K) - X * Y / unit| ≤ ex + ey + 1 / 2 :=
              mul_error hu hround hx hy hX hXu hex hey
          _ = ey + ex + 1 / 2 := by ring

end Loop

end Exact

/-! ## Products that may fail -/

section Checked

variable {ε : Type} (mulE : ℕ → ℕ → Except ε ℕ)

/-- The loop of `powLoop` with products that may fail, in the order the rounds compute them:
on an odd counter the product into `y` before the square. -/
def powLoopExcept : (fuel x y n : ℕ) → Except ε ℕ
  | 0, x, y, _ => mulE x y
  | fuel + 1, x, y, n =>
      if 1 < n then
        if n % 2 = 0 then do
          let x ← mulE x x
          powLoopExcept fuel x y (n / 2)
        else do
          let y ← mulE x y
          let x ← mulE x x
          powLoopExcept fuel x y ((n - 1) / 2)
      else mulE x y

variable {mulE} {mul : ℕ → ℕ → ℕ}

/-- **Loop invariant.**  When the products succeed with the plain product on a set closed under
it, the loop with failing products succeeds with the plain loop's value. -/
theorem powLoopExcept_eq (S : Set ℕ) (hmul : ∀ a ∈ S, ∀ b ∈ S, mul a b ∈ S)
    (hagree : ∀ a ∈ S, ∀ b ∈ S, mulE a b = pure (mul a b)) :
    ∀ fuel x y n, x ∈ S → y ∈ S → powLoopExcept mulE fuel x y n = pure (powLoop mul fuel x y n) := by
  intro fuel
  induction fuel with
  | zero => intro x y n hx hy; exact hagree x hx y hy
  | succ fuel ih =>
      intro x y n hx hy
      simp only [powLoopExcept, powLoop_succ]
      split_ifs
      · rw [hagree x hx x hx, pure_bind]
        exact ih _ _ _ (hmul x hx x hx) hy
      · rw [hagree x hx y hy, pure_bind, hagree x hx x hx, pure_bind]
        exact ih _ _ _ (hmul x hx x hx) (hmul x hx y hy)
      · exact hagree x hx y hy

end Checked

end FixedPoint
