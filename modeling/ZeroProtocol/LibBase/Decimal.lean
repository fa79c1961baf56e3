import ZeroProtocol.LibBase.Trove
import ZeroProtocol.Lib.DigitString
import Mathlib.Algebra.Order.Field.Basic
import Mathlib.Data.Rat.Cast.Order
import Mathlib.Tactic.Linarith
import Mathlib.Tactic.Positivity

/-!
# Printing and parsing a `Decimal`

The SDK shows a `Decimal` with `toString` and reads what a user types with `Decimal.from`,
which for a string is `_fromString`.  Strings are here their lists of characters; a
`BigNumber` prints as `Nat.toDigits 10` and reads a string of digits as `Nat.ofDigitChars`.

Without a precision, `toString` prints the characteristic and, unless it is zero, the mantissa
padded to eighteen digits with its trailing zeros trimmed.  With a precision `p`, it adds half a
unit of the `p`-th decimal place and cuts the mantissa to `p` digits.  `_fromString` pads the
mantissa it reads with zeros, or cuts it, to eighteen digits.  So reading what `toString` prints
gives the number back, and with a precision it gives a number within half a unit of the `p`-th
place, the number itself from eighteen places on (`fromString_toString`).

The parser's exponent branch, its only recursion, is modelled with the rest; the printer never
writes an exponent.  `Decimal.from` of a JavaScript number, `prettify` and `shorten` are not
modelled.
-/

namespace ZeroProtocol.LibBase

namespace Decimal

open DigitString

/-- Source `PRECISION`: the digits after the point. -/
def PRECISION : ℕ := 18

/-- Source `stringRepresentationFormat`, `/^[0-9]*(\.[0-9]*)?(e[-+]?[0-9]+)?$/`: digits, a
point with digits, and an exponent with an optional sign and at least one digit, each part but
the first optional.  Digits, the point and `e` are disjoint, so reading greedily is the only way
to match. -/
def matchesFormat (representation : List Char) : Bool :=
  let afterCharacteristic := representation.dropWhile Char.isDigit
  let afterMantissa := match afterCharacteristic with
    | '.' :: rest => rest.dropWhile Char.isDigit
    | rest => rest
  match afterMantissa with
  | [] => true
  | 'e' :: exponent =>
    let exponentDigits := match exponent with
      | '-' :: rest => rest
      | '+' :: rest => rest
      | rest => rest
    !exponentDigits.isEmpty && exponentDigits.all Char.isDigit
  | _ => false

/-- Source `_fromString`: a number, with an exponent that divides or multiplies by a power of
ten, and otherwise a characteristic and a mantissa padded with zeros or cut to eighteen
digits. -/
def fromString (representation : List Char) : Except String ℕ :=
  if representation.isEmpty || !matchesFormat representation then
    throw ("bad decimal format: \"" ++ String.ofList representation ++ "\"")
  else if 'e' ∈ representation then
    let coefficient := (splitTwo 'e' representation).1
    let exponent := (splitTwo 'e' representation).2
    match exponent with
    | '-' :: digits => do
      let c ← fromString coefficient
      pure (c / 10 ^ Nat.ofDigitChars 10 digits 0)
    | _ => do
      let exponent := match exponent with
        | '+' :: digits => digits
        | digits => digits
      let c ← fromString coefficient
      pure (c * 10 ^ Nat.ofDigitChars 10 exponent 0)
  else if '.' ∉ representation then
    pure (Nat.ofDigitChars 10 representation 0 * DIGITS)
  else
    let characteristic := (splitTwo '.' representation).1
    let mantissa := (splitTwo '.' representation).2
    let mantissa := if mantissa.length < PRECISION then mantissa.rightpad PRECISION '0'
      else mantissa.take PRECISION
    pure (Nat.ofDigitChars 10 characteristic 0 * DIGITS + Nat.ofDigitChars 10 mantissa 0)
termination_by representation.length
decreasing_by all_goals exact splitTwo_fst_length_lt ‹_›

/-- Source `_toStringWithAutomaticPrecision`. -/
def toStringWithAutomaticPrecision (x : ℕ) : List Char :=
  let characteristic := x / DIGITS
  let mantissa := x % DIGITS
  if mantissa = 0 then Nat.toDigits 10 characteristic
  else
    let paddedMantissa := (Nat.toDigits 10 mantissa).leftpad PRECISION '0'
    -- the source replaces the match of `/0*$/`, the trailing zeros
    let trimmedMantissa := paddedMantissa.rdropWhile (· == '0')
    Nat.toDigits 10 characteristic ++ '.' :: trimmedMantissa

/-- Source `_roundUp`: half a unit of the last digit to print added. -/
def roundUp (x precision : ℕ) : ℕ := x + 10 ^ (PRECISION - 1 - precision) * 5

/-- Source `_toStringWithPrecision`.  The precision is a natural number, so the source's throw
on a negative one cannot happen. -/
def toStringWithPrecision (x precision : ℕ) : List Char :=
  let value := if precision < PRECISION then roundUp x precision else x
  let characteristic := value / DIGITS
  let mantissa := value % DIGITS
  if precision = 0 then Nat.toDigits 10 characteristic
  else
    let paddedMantissa := (Nat.toDigits 10 mantissa).leftpad PRECISION '0'
    let trimmedMantissa := paddedMantissa.take precision
    Nat.toDigits 10 characteristic ++ '.' :: trimmedMantissa

/-- Source `toString`, with its optional precision. -/
def toString (x : ℕ) (precision : Option ℕ) : List Char :=
  if x = INFINITY then ['∞']
  else match precision with
    | some precision => toStringWithPrecision x precision
    | none => toStringWithAutomaticPrecision x

/-! ## Reading -/

/-- A string that fails the format is rejected with itself in the message. -/
theorem fromString_eq_error {representation : List Char}
    (h : matchesFormat representation = false) :
    fromString representation =
      .error ("bad decimal format: \"" ++ String.ofList representation ++ "\"") := by
  rw [fromString, if_pos (by simp [h])]
  rfl

theorem matchesFormat_digits {l : List Char} (hl : AllDigits l) : matchesFormat l = true := by
  have hdrop : l.dropWhile Char.isDigit = [] := List.dropWhile_eq_nil_iff.2 hl
  simp only [matchesFormat, hdrop]

theorem matchesFormat_point {a b : List Char} (ha : AllDigits a) (hb : AllDigits b) :
    matchesFormat (a ++ '.' :: b) = true := by
  have hdrop : (a ++ '.' :: b).dropWhile Char.isDigit = '.' :: b := by
    rw [List.dropWhile_append_of_pos ha, List.dropWhile_cons_of_neg (by decide)]
  simp only [matchesFormat, hdrop, List.dropWhile_eq_nil_iff.2 hb]

/-- A non-empty string of digits reads as that many whole units. -/
theorem fromString_digits {l : List Char} (hl : AllDigits l) (hne : l ≠ []) :
    fromString l = .ok (Nat.ofDigitChars 10 l 0 * DIGITS) := by
  have he : 'e' ∉ l := hl.not_mem (by decide)
  have hpoint : '.' ∉ l := hl.not_mem (by decide)
  rw [fromString, if_neg (by simp [hne, matchesFormat_digits hl]), if_neg he, if_pos hpoint]
  rfl

/-- Digits, a point and digits read as the characteristic's units and the mantissa padded or cut
to eighteen digits. -/
theorem fromString_point {a b : List Char} (ha : AllDigits a) (hb : AllDigits b) :
    fromString (a ++ '.' :: b) = .ok (Nat.ofDigitChars 10 a 0 * DIGITS +
      Nat.ofDigitChars 10 (if b.length < PRECISION then b.rightpad PRECISION '0'
        else b.take PRECISION) 0) := by
  have he : 'e' ∉ a ++ '.' :: b := by
    simp only [List.mem_append, List.mem_cons, not_or]
    exact ⟨ha.not_mem (by decide), by decide, hb.not_mem (by decide)⟩
  have hpoint : '.' ∈ a ++ '.' :: b := List.mem_append_right a List.mem_cons_self
  rw [fromString, if_neg (by simp [matchesFormat_point ha hb]), if_neg he,
    if_neg (not_not.2 hpoint), splitTwo_append (ha.not_mem (by decide)) (hb.not_mem (by decide))]
  rfl

/-! ## Printing and reading back -/

/-- A mantissa, below `DIGITS`, pads to exactly eighteen digits. -/
theorem length_paddedMantissa {m : ℕ} (hm : m < DIGITS) :
    ((Nat.toDigits 10 m).leftpad PRECISION '0').length = PRECISION := by
  have hlen : (Nat.toDigits 10 m).length ≤ PRECISION :=
    (Nat.length_toDigits_le_iff (by decide) (by decide)).2 hm
  rw [List.length_leftpad]
  exact max_eq_left hlen

/-- The parser pads a mantissa whose trailing zeros were trimmed back to the eighteen digits it
had. -/
theorem normalize_trimmed {l : List Char} (hl : l.length = PRECISION) :
    (if (l.rdropWhile (· == '0')).length < PRECISION then
        (l.rdropWhile (· == '0')).rightpad PRECISION '0'
      else (l.rdropWhile (· == '0')).take PRECISION) = l := by
  split_ifs with hshort
  · rw [← hl]
    exact rightpad_rdropWhile l
  · -- nothing was trimmed: the prefix is as long as the list
    have heq : l.rdropWhile (· == '0') = l :=
      (List.rdropWhile_prefix _ l).eq_of_length_le (by omega)
    rw [heq, List.take_of_length_le hl.le]

/-- **Round trip without a precision.** -/
theorem fromString_toStringWithAutomaticPrecision (x : ℕ) :
    fromString (toStringWithAutomaticPrecision x) = .ok x := by
  unfold toStringWithAutomaticPrecision
  dsimp only
  split_ifs with hm
  · rw [fromString_digits (allDigits_toDigits _) Nat.toDigits_ne_nil,
      Nat.ofDigitChars_ten_toDigits, Nat.div_mul_cancel (Nat.dvd_of_mod_eq_zero hm)]
  · have hpad := length_paddedMantissa (Nat.mod_lt x DIGITS_pos)
    rw [fromString_point (allDigits_toDigits _) (((allDigits_toDigits _).leftpad _).rdropWhile _),
      normalize_trimmed hpad, ofDigitChars_leftpad, Nat.ofDigitChars_ten_toDigits,
      Nat.ofDigitChars_ten_toDigits, Nat.div_add_mod']

/-- From eighteen places on, the number is printed in full and read back. -/
theorem fromString_toStringWithPrecision_of_le {x precision : ℕ} (hp : PRECISION ≤ precision) :
    fromString (toStringWithPrecision x precision) = .ok x := by
  have hpad := length_paddedMantissa (Nat.mod_lt x DIGITS_pos)
  have hpos : precision ≠ 0 := by
    unfold PRECISION at hp
    omega
  unfold toStringWithPrecision
  dsimp only
  rw [if_neg (Nat.not_lt.2 hp), if_neg hpos, List.take_of_length_le (hpad.le.trans hp),
    fromString_point (allDigits_toDigits _) ((allDigits_toDigits _).leftpad _), hpad,
    if_neg (Nat.lt_irrefl _), List.take_of_length_le hpad.le, ofDigitChars_leftpad,
    Nat.ofDigitChars_ten_toDigits, Nat.ofDigitChars_ten_toDigits, Nat.div_add_mod']

/-- Below eighteen places, the number read back is the rounded-up value with the digits past
the last place dropped. -/
theorem fromString_toStringWithPrecision_of_lt {x precision : ℕ} (hp : precision < PRECISION) :
    fromString (toStringWithPrecision x precision) =
      .ok (roundUp x precision / 10 ^ (PRECISION - precision) * 10 ^ (PRECISION - precision)) := by
  have hpad := length_paddedMantissa (Nat.mod_lt (roundUp x precision) DIGITS_pos)
  unfold toStringWithPrecision
  dsimp only
  rw [if_pos hp]
  split_ifs with hzero
  · -- no point: the characteristic alone
    subst hzero
    rw [fromString_digits (allDigits_toDigits _) Nat.toDigits_ne_nil,
      Nat.ofDigitChars_ten_toDigits]
    rfl
  · have htake : (((Nat.toDigits 10 (roundUp x precision % DIGITS)).leftpad PRECISION '0').take
        precision).length = precision := by
      rw [List.length_take, hpad]
      exact Nat.min_eq_left hp.le
    have hdvd : 10 ^ (PRECISION - precision) ∣ DIGITS := Nat.pow_dvd_pow 10 (Nat.sub_le _ _)
    rw [fromString_point (allDigits_toDigits _) (((allDigits_toDigits _).leftpad _).take _), htake,
      if_pos hp, ofDigitChars_rightpad, htake,
      ofDigitChars_take ((allDigits_toDigits _).leftpad _), hpad, ofDigitChars_leftpad,
      Nat.ofDigitChars_ten_toDigits, Nat.ofDigitChars_ten_toDigits,
      div_mul_add_mod_div _ hdvd]

example : toStringWithPrecision (1005 * 10 ^ 15) 2 = ['1', '.', '0', '1'] := by decide

example : toStringWithAutomaticPrecision (1005 * 10 ^ 15) = ['1', '.', '0', '0', '5'] := by decide

/-- Half a unit of place `precision`, in units of `1e-18`, is what `roundUp` adds. -/
theorem roundUp_half {precision : ℕ} (hp : precision < PRECISION) :
    ((10 ^ (PRECISION - 1 - precision) * 5 : ℕ) : ℚ) = DIGITS / (2 * 10 ^ precision) := by
  have hsplit : 10 ^ PRECISION = 10 ^ (PRECISION - 1 - precision) * 10 ^ precision * 10 := by
    rw [← Nat.pow_add, ← Nat.pow_succ]
    congr 1
    unfold PRECISION at hp ⊢
    omega
  have hD : DIGITS = 10 ^ (PRECISION - 1 - precision) * 5 * (2 * 10 ^ precision) := by
    rw [show DIGITS = 10 ^ PRECISION from rfl, hsplit]
    ring
  rw [eq_div_iff (by positivity), hD]
  push_cast
  ring

/-- Dropping the digits past place `precision` of the rounded-up value moves the number by at
most half a unit of that place. -/
theorem roundUp_error {x precision : ℕ} (hp : precision < PRECISION) :
    |((roundUp x precision / 10 ^ (PRECISION - precision) * 10 ^ (PRECISION - precision) : ℕ) : ℚ) -
        x| ≤ DIGITS / (2 * 10 ^ precision) := by
  have hunit : 10 ^ (PRECISION - precision) = 10 ^ (PRECISION - 1 - precision) * 5 * 2 := by
    rw [Nat.mul_assoc, show PRECISION - precision = PRECISION - 1 - precision + 1 by
      unfold PRECISION at hp ⊢; omega, Nat.pow_succ]
  have hpos : 0 < 10 ^ (PRECISION - 1 - precision) * 5 := by positivity
  rw [roundUp, hunit, ← roundUp_half hp]
  generalize 10 ^ (PRECISION - 1 - precision) * 5 = half at hpos ⊢
  -- in whole numbers, the value read back is within `half` on either side of `x`
  have hv := Nat.div_add_mod' (x + half) (half * 2)
  have hlt : (x + half) % (half * 2) < half * 2 := Nat.mod_lt _ (by omega)
  have hle : (x + half) / (half * 2) * (half * 2) ≤ x + half := by omega
  have hge : x ≤ (x + half) / (half * 2) * (half * 2) + half := by omega
  rw [abs_sub_le_iff]
  constructor
  · have hq := (Nat.cast_le (α := ℚ)).2 hle
    push_cast at hq ⊢
    linarith
  · have hq := (Nat.cast_le (α := ℚ)).2 hge
    push_cast at hq ⊢
    linarith

/-- **Print and parse round trip.**  A finite `Decimal` printed without a precision reads back
as itself; printed with `precision` places it reads back within half a unit of the last place,
and as itself from eighteen places on. -/
theorem fromString_toString {x : ℕ} (hx : x ≠ INFINITY) :
    fromString (toString x none) = .ok x ∧
      ∀ precision : ℕ, ∃ y, fromString (toString x (some precision)) = .ok y ∧
        |(y : ℚ) - x| ≤ DIGITS / (2 * 10 ^ precision) ∧ (PRECISION ≤ precision → y = x) := by
  refine ⟨?_, fun precision => ?_⟩
  · rw [toString, if_neg hx]
    exact fromString_toStringWithAutomaticPrecision x
  rw [toString, if_neg hx]
  rcases Nat.lt_or_ge precision PRECISION with hp | hp
  · exact ⟨_, fromString_toStringWithPrecision_of_lt hp, roundUp_error hp,
      fun h => absurd h (Nat.not_le.2 hp)⟩
  · refine ⟨x, fromString_toStringWithPrecision_of_le hp, ?_, fun _ => rfl⟩
    rw [sub_self, abs_zero]
    positivity

theorem fromString_toString_oneAndAHalf :
    15 * 10 ^ 17 ≠ INFINITY ∧ (fromString (toString (15 * 10 ^ 17) none) = .ok (15 * 10 ^ 17) ∧
      ∀ precision : ℕ, ∃ y, fromString (toString (15 * 10 ^ 17) (some precision)) = .ok y ∧
        |(y : ℚ) - (15 * 10 ^ 17 : ℕ)| ≤ DIGITS / (2 * 10 ^ precision) ∧
          (PRECISION ≤ precision → y = 15 * 10 ^ 17)) :=
  ⟨by decide, fromString_toString (by decide)⟩

end Decimal

end ZeroProtocol.LibBase
