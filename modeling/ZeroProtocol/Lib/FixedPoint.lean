import Mathlib.Order.Basic
import Mathlib.Tactic.Ring

/-!
# Fixed-point multiplication and exponentiation by squaring

Decimal fixed-point numbers are naturals read against a `unit` (`10^18` for 18 digits).
`mulRound unit x y` is their product rounded to the nearest unit step, halves up, and
`powLoop` is the square-and-multiply loop of an exponentiation written with any such
multiplication.

The facts proved are those the contracts' fee and issuance arithmetic rely on:

* `mulRound_le_unit`: the product of two values at most `1` is at most `1`, so rounding up
  never pushes it past `unit`;
* `mul_div_le_self`: scaling by a factor at most `1` never increases a value;
* `powLoop_mem`: the loop stays inside any set closed under the multiplication;
* `powLoop_fuel`: the loop halves its counter, so `n` rounds are always enough and any
  larger budget gives the same result;
* `powLoop_succ_le`: with a monotone multiplication that has `unit` as its unit, the loop never
  ends higher at `n + 1` than at `n`, although the two take different squaring paths and round
  differently; `powLoop_self_antitone` is the power from `unit` over any two exponents.
-/

namespace FixedPoint

/-- The product of `x` and `y` read against `unit`, rounded to nearest with halves up. -/
def mulRound (unit x y : ℕ) : ℕ :=
  (x * y + unit / 2) / unit

theorem mulRound_le_unit {unit x y : ℕ} (hu : 0 < unit) (hx : x ≤ unit) (hy : y ≤ unit) :
    mulRound unit x y ≤ unit := by
  unfold mulRound
  rw [Nat.div_le_iff_le_mul_add_pred hu]
  have hxy : x * y ≤ unit * unit := Nat.mul_le_mul hx hy
  have hhalf : unit / 2 ≤ unit - 1 := by omega
  exact Nat.add_le_add hxy hhalf

theorem mulRound_mono {unit x x' y y' : ℕ} (hx : x ≤ x') (hy : y ≤ y') :
    mulRound unit x y ≤ mulRound unit x' y' := by
  unfold mulRound
  apply Nat.div_le_div_right
  exact Nat.add_le_add_right (Nat.mul_le_mul hx hy) _

/-- `unit` is the unit of the rounded product: the half added is less than one step. -/
theorem mulRound_unit {unit : ℕ} (hu : 0 < unit) (x : ℕ) : mulRound unit x unit = x := by
  unfold mulRound
  have hhalf : unit / 2 < unit := Nat.div_lt_self hu Nat.one_lt_two
  rw [Nat.mul_comm, Nat.mul_add_div hu, Nat.div_eq_of_lt hhalf, Nat.add_zero]

/-- Scaling by a factor of at most one, with the quotient rounded down, never increases. -/
theorem mul_div_le_self {unit x f : ℕ} (hu : 0 < unit) (hf : f ≤ unit) :
    x * f / unit ≤ x :=
  calc x * f / unit
      ≤ x * unit / unit := Nat.div_le_div_right (Nat.mul_le_mul_left _ hf)
    _ = x := Nat.mul_div_cancel _ hu

/-- Square-and-multiply: while `n > 1`, square `x`, multiplying `y` by `x` first when `n` is
odd; `n` halves every round; at the end return `mul x y`.  `fuel` bounds the rounds. -/
def powLoop (mul : ℕ → ℕ → ℕ) : (fuel x y n : ℕ) → ℕ
  | 0, x, y, _ => mul x y
  | fuel + 1, x, y, n =>
      if 1 < n then
        if n % 2 = 0 then powLoop mul fuel (mul x x) y (n / 2)
        else powLoop mul fuel (mul x x) (mul x y) ((n - 1) / 2)
      else mul x y

variable {mul : ℕ → ℕ → ℕ}

/-- The loop's two equations, stated once so that the proofs below rewrite with them. -/
theorem powLoop_zero {x y n : ℕ} : powLoop mul 0 x y n = mul x y := rfl

theorem powLoop_succ {fuel x y n : ℕ} :
    powLoop mul (fuel + 1) x y n =
      if 1 < n then
        if n % 2 = 0 then powLoop mul fuel (mul x x) y (n / 2)
        else powLoop mul fuel (mul x x) (mul x y) ((n - 1) / 2)
      else mul x y := rfl

/-- **Loop invariant.**  A set closed under `mul` that holds `x` and `y` holds the result. -/
theorem powLoop_mem (S : Set ℕ) (hmul : ∀ a ∈ S, ∀ b ∈ S, mul a b ∈ S) :
    ∀ fuel x y n, x ∈ S → y ∈ S → powLoop mul fuel x y n ∈ S := by
  intro fuel
  induction fuel with
  | zero => intro x y _ hx hy; exact hmul x hx y hy
  | succ fuel ih =>
      intro x y n hx hy
      simp only [powLoop_succ]
      split_ifs
      · exact ih _ _ _ (hmul x hx x hx) hy
      · exact ih _ _ _ (hmul x hx x hx) (hmul x hx y hy)
      · exact hmul x hx y hy

/-- Rounds beyond the first `n` are never used: the loop ends once `n ≤ 1`. -/
theorem powLoop_fuel : ∀ {fuel fuel' : ℕ} (x y n : ℕ), n ≤ fuel → n ≤ fuel' →
    powLoop mul fuel x y n = powLoop mul fuel' x y n := by
  intro fuel
  induction fuel with
  | zero =>
      intro fuel' x y n hn _
      cases fuel' with
      | zero => rfl
      | succ fuel' => simp [powLoop_zero, powLoop_succ, show n = 0 by omega]
  | succ fuel ih =>
      intro fuel' x y n hn hn'
      cases fuel' with
      | zero => simp [powLoop_zero, powLoop_succ, show n = 0 by omega]
      | succ fuel' =>
          simp only [powLoop_succ]
          split_ifs
          · exact ih _ _ _ (by omega) (by omega)
          · exact ih _ _ _ (by omega) (by omega)
          · rfl

/-- Once `n ≤ 1` the loop returns `mul x y` at once. -/
theorem powLoop_of_le_one {fuel x y n : ℕ} (hn : n ≤ 1) : powLoop mul fuel x y n = mul x y := by
  cases fuel with
  | zero => rfl
  | succ fuel => rw [powLoop_succ, if_neg (Nat.not_lt.2 hn)]

/-- A round on an even counter squares `x` and halves the counter. -/
theorem powLoop_even {fuel x y n : ℕ} (hn : 1 < n) (heven : n % 2 = 0) :
    powLoop mul (fuel + 1) x y n = powLoop mul fuel (mul x x) y (n / 2) := by
  rw [powLoop_succ, if_pos hn, if_pos heven]

/-- A round on an odd counter multiplies `x` into `y`, squares `x` and halves the counter. -/
theorem powLoop_odd {fuel x y n : ℕ} (hn : 1 < n) (hodd : n % 2 = 1) :
    powLoop mul (fuel + 1) x y n = powLoop mul fuel (mul x x) (mul x y) ((n - 1) / 2) := by
  rw [powLoop_succ, if_pos hn, if_neg (by omega)]

/-- The loop is monotone in the product `y` when the multiplication is. -/
theorem powLoop_mono_right (hmono : ∀ {a b c d : ℕ}, a ≤ c → b ≤ d → mul a b ≤ mul c d) :
    ∀ {fuel x y y' n : ℕ}, y ≤ y' → powLoop mul fuel x y n ≤ powLoop mul fuel x y' n := by
  intro fuel
  induction fuel with
  | zero => intro x y y' n hy; exact hmono le_rfl hy
  | succ fuel ih =>
      intro x y y' n hy
      simp only [powLoop_succ]
      split_ifs
      · exact ih hy
      · exact ih (hmono le_rfl hy)
      · exact hmono le_rfl hy

/-- **One more round never ends higher.**  For a monotone multiplication with unit `unit`, the
loop on `n + 1` from `(x, y)` ends at most where the loop on `n` ends from `(x, w)`, for `y` at
most `unit` and `w` at least `x`.  Where one loop multiplies its `x` into its product and the
other does not, the product without it is at most the other's; where the longer loop squares
the `x` that the shorter multiplies into `w`, the square is at most that product.  Hence the
induction on the fuel, with `x ≤ w` the invariant it carries. -/
theorem powLoop_succ_le {unit : ℕ} (hmono : ∀ {a b c d : ℕ}, a ≤ c → b ≤ d → mul a b ≤ mul c d)
    (hunit : ∀ a, mul a unit = a) :
    ∀ {fuel n x y w : ℕ}, 1 ≤ n → n + 1 ≤ fuel → y ≤ unit → x ≤ w →
      powLoop mul fuel x y (n + 1) ≤ powLoop mul fuel x w n := by
  intro fuel
  induction fuel with
  | zero => intro n x y w _ hfuel; omega
  | succ fuel ih =>
      intro n x y w hn hfuel hy hx
      have hsq : mul x x ≤ mul x w := hmono le_rfl hx
      rcases Nat.mod_two_eq_zero_or_one n with heven | hodd
      · -- `n` even: only the longer loop multiplies `x` into its product
        have hxy : mul x y ≤ w :=
          calc mul x y ≤ mul x unit := hmono le_rfl hy
            _ = x := hunit x
            _ ≤ w := hx
        rw [powLoop_odd (n := n + 1) (by omega) (by omega), powLoop_even (n := n) (by omega) heven,
          Nat.add_sub_cancel]
        exact powLoop_mono_right hmono hxy
      · obtain rfl | hn₃ : n = 1 ∨ 3 ≤ n := by omega
        · -- `n = 1`: the shorter loop stops, the longer squares once more
          rw [powLoop_even (n := 1 + 1) (by omega) (by omega), powLoop_of_le_one (n := 1) le_rfl,
            powLoop_of_le_one (n := (1 + 1) / 2) (by omega)]
          calc mul (mul x x) y ≤ mul (mul x x) unit := hmono le_rfl hy
            _ = mul x x := hunit _
            _ ≤ mul x w := hsq
        · -- `n` odd: the shorter loop multiplies `x` into `w` where the longer only squares it
          have hhalf : (n + 1) / 2 = (n - 1) / 2 + 1 := by omega
          rw [powLoop_even (n := n + 1) (by omega) (by omega), powLoop_odd (n := n) (by omega) hodd,
            hhalf]
          exact ih (by omega) (by omega) hy hsq

/-- The loop from `(x, unit)` with counter and budget `n + 1` ends at most where it ends with
`n`: `powLoop_succ_le` on the same budget, and the rounds the budget adds are not used. -/
theorem powLoop_self_succ_le {unit : ℕ}
    (hmono : ∀ {a b c d : ℕ}, a ≤ c → b ≤ d → mul a b ≤ mul c d) (hunit : ∀ a, mul a unit = a)
    {x n : ℕ} (hn : 1 ≤ n) (hx : x ≤ unit) :
    powLoop mul (n + 1) x unit (n + 1) ≤ powLoop mul n x unit n :=
  calc powLoop mul (n + 1) x unit (n + 1)
      ≤ powLoop mul (n + 1) x unit n := powLoop_succ_le hmono hunit hn le_rfl le_rfl hx
    _ = powLoop mul n x unit n := powLoop_fuel _ _ _ (Nat.le_succ _) le_rfl

/-- **A power never grows with its exponent**, for a base at most `unit` and exponents from
one: by induction on the larger exponent, one step of `powLoop_self_succ_le` at a time. -/
theorem powLoop_self_antitone {unit : ℕ}
    (hmono : ∀ {a b c d : ℕ}, a ≤ c → b ≤ d → mul a b ≤ mul c d) (hunit : ∀ a, mul a unit = a)
    {x n m : ℕ} (hn : 1 ≤ n) (hnm : n ≤ m) (hx : x ≤ unit) :
    powLoop mul m x unit m ≤ powLoop mul n x unit n := by
  induction m, hnm using Nat.le_induction with
  | base => exact le_rfl
  | succ m hnm ih => exact le_trans (powLoop_self_succ_le hmono hunit (le_trans hn hnm) hx) ih

end FixedPoint
