import ZeroProtocol.Lib.Revert
import Mathlib.Data.Nat.Notation
import Mathlib.Tactic.SplitIfs
import Mathlib.Tactic.Simps.Basic
import Mathlib.Logic.Basic
import Mathlib.Tactic.Ring

/-!
# The SDK's troves

The TypeScript library `lib-base` predicts the trove that a transaction leaves, so that a front
end can show it and compute the hints for its place in the sorted list.  Its `Decimal` is an
unsigned integer read at eighteen decimals, and here it is that integer: `mul` and `mulDiv`
round down, `mulDiv` by zero gives `INFINITY`, and `sub` below zero throws, which
`Trove.subtract` avoids by clamping at zero.

`Trove.create` and `Trove.adjust` normalize the caller's parameters, which throws on a missing,
conflicting or empty set, and `apply` the change: a creation starts from the empty trove with
the liquidation reserve and the borrowed amount with its fee (`applyFee`); an adjustment adds
the increases, with the fee on a borrowed amount, and subtracts the decreases.
`TroveWithPendingRedistribution.applyRedistribution` adds to a trove its stake's share of what
was redistributed since its snapshot.

`whatChanged` goes the other way: from a trove and the one a user wants, the change that leads
there.  A borrowed amount is found before its fee by `unapplyFee`, which divides rounding up, so
that applying the fee again, rounding down, gives the wanted debt or one unit more
(`whatChanged_apply_roundTrip`).

A parameter record is given by its optional amounts, so the keys that the source rejects as
"not allowed" cannot be written here.  The borrowing rate is passed explicitly; the source's
default, `MINIMUM_BORROWING_RATE`, is the caller's choice.  The owner's address and status that
`UserTrove` adds and the invalid creation's error are not read by these functions and are left
out.
-/

namespace ZeroProtocol.LibBase

namespace Decimal

/-- The scale of a `Decimal`: eighteen digits. -/
def DIGITS : ℕ := 10 ^ 18

/-- Source `Decimal.INFINITY`: the largest `uint256`. -/
def INFINITY : ℕ := 2 ^ 256 - 1

/-- Source `Decimal.from` of a whole number. -/
def fromNat (n : ℕ) : ℕ := n * DIGITS

/-- Source `Decimal.ONE`. -/
def ONE : ℕ := fromNat 1

/-- Source `mul`: the product, rounded down. -/
def mul (x multiplier : ℕ) : ℕ := x * multiplier / DIGITS

/-- Source `mulDiv`: `x * multiplier / divider` rounded down, and `INFINITY` for a zero
divider. -/
def mulDiv (x multiplier divider : ℕ) : ℕ :=
  if divider = 0 then INFINITY else x * multiplier / divider

/-- Source `_divCeil`: the quotient rounded up, and `INFINITY` for a zero divider. -/
def divCeil (x divider : ℕ) : ℕ :=
  if divider = 0 then INFINITY else (x * DIGITS + (divider - 1)) / divider

end Decimal

/-- Source `ZUSD_LIQUIDATION_RESERVE`. -/
def ZUSD_LIQUIDATION_RESERVE : ℕ := Decimal.fromNat 20

/-- Source `NOMINAL_COLLATERAL_RATIO_PRECISION`. -/
def NOMINAL_COLLATERAL_RATIO_PRECISION : ℕ := Decimal.fromNat 100

/-- Source `CRITICAL_COLLATERAL_RATIO`, `1.5`. -/
def CRITICAL_COLLATERAL_RATIO : ℕ := 15 * 10 ^ 17

/-- Source `MINIMUM_COLLATERAL_RATIO`, `1.1`. -/
def MINIMUM_COLLATERAL_RATIO : ℕ := 11 * 10 ^ 17

/-- Source `ZUSD_MINIMUM_NET_DEBT`. -/
def ZUSD_MINIMUM_NET_DEBT : ℕ := Decimal.fromNat 180

/-- Source `ZUSD_MINIMUM_DEBT`: the liquidation reserve and the minimum net debt. -/
def ZUSD_MINIMUM_DEBT : ℕ := ZUSD_LIQUIDATION_RESERVE + ZUSD_MINIMUM_NET_DEBT

/-- Source `applyFee`: the borrowed amount with the fee at `borrowingRate`. -/
def applyFee (borrowingRate debtIncrease : ℕ) : ℕ :=
  Decimal.mul debtIncrease (Decimal.ONE + borrowingRate)

/-- Source `unapplyFee`: the amount that the fee at `borrowingRate` raises to `debtIncrease`,
rounded up. -/
def unapplyFee (borrowingRate debtIncrease : ℕ) : ℕ :=
  Decimal.divCeil debtIncrease (Decimal.ONE + borrowingRate)

/-- Source `Trove`: an amount of collateral and of debt. -/
@[ext]
structure Trove where
  collateral : ℕ
  debt : ℕ
  deriving DecidableEq, Repr

/-- Source `_emptyTrove`. -/
def emptyTrove : Trove := ⟨0, 0⟩

namespace Trove

/-- Source `isEmpty`. -/
def isEmpty (t : Trove) : Bool := t.collateral == 0 && t.debt == 0

/-- Source `netDebt`: the debt less the liquidation reserve, which it throws below. -/
def netDebt (t : Trove) : Except String ℕ :=
  if t.debt < ZUSD_LIQUIDATION_RESERVE then throw "netDebt should not be used when debt < 20"
  else pure (t.debt - ZUSD_LIQUIDATION_RESERVE)

/-- Source `_nominalCollateralRatio`. -/
def nominalCollateralRatio (t : Trove) : ℕ :=
  Decimal.mulDiv t.collateral NOMINAL_COLLATERAL_RATIO_PRECISION t.debt

/-- Source `collateralRatio`: the collateral's value at `price` over the debt. -/
def collateralRatio (t : Trove) (price : ℕ) : ℕ := Decimal.mulDiv t.collateral price t.debt

/-- Source `collateralRatioIsBelowMinimum`. -/
def collateralRatioIsBelowMinimum (t : Trove) (price : ℕ) : Bool :=
  decide (t.collateralRatio price < MINIMUM_COLLATERAL_RATIO)

/-- Source `collateralRatioIsBelowCritical`. -/
def collateralRatioIsBelowCritical (t : Trove) (price : ℕ) : Bool :=
  decide (t.collateralRatio price < CRITICAL_COLLATERAL_RATIO)

/-- Source `isOpenableInRecoveryMode`. -/
def isOpenableInRecoveryMode (t : Trove) (price : ℕ) : Bool :=
  decide ( CRITICAL_COLLATERAL_RATIO ≤ t.collateralRatio price)

/-- Source `add`. -/
@[simps]
def add (t that : Trove) : Trove := ⟨t.collateral + that.collateral, t.debt + that.debt⟩

/-- Source `addCollateral`. -/
@[simps]
def addCollateral (t : Trove) (collateral : ℕ) : Trove := ⟨t.collateral + collateral, t.debt⟩

/-- Source `addDebt`. -/
@[simps]
def addDebt (t : Trove) (debt : ℕ) : Trove := ⟨t.collateral, t.debt + debt⟩

/-- Source `subtract`: each part clamped at zero. -/
def subtract (t that : Trove) : Trove :=
  ⟨if t.collateral > that.collateral then t.collateral - that.collateral else 0,
    if t.debt > that.debt then t.debt - that.debt else 0⟩

/-- Source `subtractCollateral`. -/
def subtractCollateral (t : Trove) (collateral : ℕ) : Trove :=
  ⟨if t.collateral > collateral then t.collateral - collateral else 0, t.debt⟩

/-- Source `subtractDebt`. -/
def subtractDebt (t : Trove) (debt : ℕ) : Trove :=
  ⟨t.collateral, if t.debt > debt then t.debt - debt else 0⟩

/-- Source `multiply`. -/
@[simps]
def multiply (t : Trove) (multiplier : ℕ) : Trove :=
  ⟨Decimal.mul t.collateral multiplier, Decimal.mul t.debt multiplier⟩

/-- Source `setCollateral`. -/
@[simps]
def setCollateral (t : Trove) (collateral : ℕ) : Trove := ⟨collateral, t.debt⟩

/-- Source `setDebt`. -/
@[simps]
def setDebt (t : Trove) (debt : ℕ) : Trove := ⟨t.collateral, debt⟩

/-! The clamped subtractions are the truncated subtraction of `ℕ`. -/

@[simp] theorem subtract_collateral (t that : Trove) :
    (t.subtract that).collateral = t.collateral - that.collateral := by
  unfold subtract
  dsimp only
  split_ifs <;> omega

@[simp] theorem subtract_debt (t that : Trove) : (t.subtract that).debt = t.debt - that.debt := by
  unfold subtract
  dsimp only
  split_ifs <;> omega

@[simp] theorem subtractCollateral_collateral (t : Trove) (collateral : ℕ) :
    (t.subtractCollateral collateral).collateral = t.collateral - collateral := by
  unfold subtractCollateral
  dsimp only
  split_ifs <;> omega

@[simp] theorem subtractCollateral_debt (t : Trove) (collateral : ℕ) :
    (t.subtractCollateral collateral).debt = t.debt := rfl

@[simp] theorem subtractDebt_collateral (t : Trove) (debt : ℕ) :
    (t.subtractDebt debt).collateral = t.collateral := rfl

@[simp] theorem subtractDebt_debt (t : Trove) (debt : ℕ) :
    (t.subtractDebt debt).debt = t.debt - debt := by
  unfold subtractDebt
  dsimp only
  split_ifs <;> omega

end Trove

/-! ## Parameters -/

/-- Source `TroveCreationParams`, as `_normalizeTroveCreation` returns them: both amounts
present. -/
structure TroveCreationParams where
  depositCollateral : ℕ
  borrowZUSD : ℕ
  deriving DecidableEq, Repr

/-- Source `TroveAdjustmentParams`: each amount present or absent. -/
structure TroveAdjustmentParams where
  depositCollateral : Option ℕ
  withdrawCollateral : Option ℕ
  borrowZUSD : Option ℕ
  repayZUSD : Option ℕ
  deriving DecidableEq, Repr

/-- Source `_normalizeTroveCreation` of the defined entries: both keys must be present; a zero
amount is kept. -/
def normalizeTroveCreation (depositCollateral borrowZUSD : Option ℕ) :
    Except String TroveCreationParams :=
  match depositCollateral, borrowZUSD with
  | some depositCollateral, some borrowZUSD => pure ⟨depositCollateral, borrowZUSD⟩
  | none, some _ => throw "TroveCreationParams: property \x27depositCollateral\x27 missing"
  | some _, none => throw "TroveCreationParams: property \x27borrowZUSD\x27 missing"
  | none, none =>
    throw "TroveCreationParams: property \x27depositCollateral\x27, \x27borrowZUSD\x27 missing"

/-- Source `_normalizeTroveAdjustment`: the zero amounts are dropped (`nonZero`), then
`troveAdjustmentParamsFromEntries` checks the rest, the collateral pair first. -/
def normalizeTroveAdjustment (params : TroveAdjustmentParams) :
    Except String TroveAdjustmentParams := do
  let nonZero := fun amount : Option ℕ => amount.filter (· != 0)
  let params : TroveAdjustmentParams :=
    ⟨nonZero params.depositCollateral, nonZero params.withdrawCollateral,
      nonZero params.borrowZUSD, nonZero params.repayZUSD⟩
  -- `collateralChangeFrom`
  if params.depositCollateral.isSome && params.withdrawCollateral.isSome then
    throw ("TroveAdjustmentParams: \x27depositCollateral\x27 and \x27withdrawCollateral\x27 " ++
      "can\x27t be present at the same time")
  -- `debtChangeFrom`
  if params.borrowZUSD.isSome && params.repayZUSD.isSome then
    throw "TroveAdjustmentParams: \x27borrowZUSD\x27 and \x27repayZUSD\x27 can\x27t be present at the same time"
  if params.depositCollateral.isNone && params.withdrawCollateral.isNone &&
      params.borrowZUSD.isNone && params.repayZUSD.isNone then
    throw "TroveAdjustmentParams: must include at least one non-zero parameter"
  pure params

/-! ## Changes -/

/-- Source `TroveClosureParams`: the collateral withdrawn, and the ZUSD repaid unless there is
none. -/
structure TroveClosureParams where
  withdrawCollateral : ℕ
  repayZUSD : Option ℕ
  deriving DecidableEq, Repr

/-- The part an adjustment sets to zero (`setToZero?: "collateral" | "debt"`). -/
inductive SetToZero
  | collateral
  | debt
  deriving DecidableEq, Repr

/-- Source `TroveChange`. -/
inductive TroveChange
  | invalidCreation (invalidTrove : Trove)
  | creation (params : TroveCreationParams)
  | closure (params : TroveClosureParams)
  | adjustment (params : TroveAdjustmentParams) (setToZero : Option SetToZero)
  deriving DecidableEq, Repr

namespace Trove

/-- Source `apply`: the trove that `change` leaves, or no change for `none`. -/
def apply (t : Trove) (change : Option TroveChange) (borrowingRate : ℕ) : Except String Trove :=
  match change with
  | none => pure t
  | some (.invalidCreation invalidTrove) =>
    if !t.isEmpty then throw "Can\x27t create onto existing Trove" else pure invalidTrove
  | some (.creation params) =>
    if !t.isEmpty then throw "Can\x27t create onto existing Trove"
    else pure ⟨params.depositCollateral,
      ZUSD_LIQUIDATION_RESERVE + applyFee borrowingRate params.borrowZUSD⟩
  | some (.closure _) =>
    if t.isEmpty then throw "Can\x27t close empty Trove" else pure emptyTrove
  | some (.adjustment params setToZero) =>
    let collateralDecrease := params.withdrawCollateral.getD 0
    let collateralIncrease := params.depositCollateral.getD 0
    let debtDecrease := params.repayZUSD.getD 0
    let debtIncrease := match params.borrowZUSD with
      | some borrowZUSD => applyFee borrowingRate borrowZUSD
      | none => 0
    match setToZero with
    | some .collateral =>
      pure (((t.setCollateral 0).addDebt debtIncrease).subtractDebt debtDecrease)
    | some .debt =>
      pure (((t.setDebt 0).addCollateral collateralIncrease).subtractCollateral collateralDecrease)
    | none =>
      pure ((t.add ⟨collateralIncrease, debtIncrease⟩).subtract
        ⟨collateralDecrease, debtDecrease⟩)

/-- Source `Trove.create`: the result of an `openTrove` with these amounts. -/
def create (depositCollateral borrowZUSD : Option ℕ) (borrowingRate : ℕ) :
    Except String Trove := do
  let params ← normalizeTroveCreation depositCollateral borrowZUSD
  emptyTrove.apply (some (.creation params)) borrowingRate

/-- Source `adjust`: the result of an `adjustTrove` with these amounts on this trove. -/
def adjust (t : Trove) (params : TroveAdjustmentParams) (borrowingRate : ℕ) :
    Except String Trove := do
  let params ← normalizeTroveAdjustment params
  t.apply (some (.adjustment params none)) borrowingRate

/-- Source `_debtChange`: the amount to borrow, before its fee, or the amount to repay. -/
def debtChange (t that : Trove) (borrowingRate : ℕ) : TroveAdjustmentParams :=
  if that.debt > t.debt then ⟨none, none, some (unapplyFee borrowingRate (that.debt - t.debt)), none⟩
  else ⟨none, none, none, some (t.debt - that.debt)⟩

/-- Source `_collateralChange`: the collateral to deposit or to withdraw. -/
def collateralChange (t that : Trove) : TroveAdjustmentParams :=
  if that.collateral > t.collateral then ⟨some (that.collateral - t.collateral), none, none, none⟩
  else ⟨none, some (t.collateral - that.collateral), none, none⟩

/-- Source `whatChanged`: the change from `t` to `that`, or none if they are equal.  The two
parts of an adjustment that changes both are merged as the source's object spread merges them;
an adjustment to a zero debt, or else to a zero collateral, says so in `setToZero`. -/
def whatChanged (t that : Trove) (borrowingRate : ℕ) : Except String (Option TroveChange) :=
  if t.collateral = that.collateral ∧ t.debt = that.debt then pure none
  else if t.isEmpty then
    if that.debt < ZUSD_LIQUIDATION_RESERVE then pure (some (.invalidCreation that))
    else do
      let netDebt ← that.netDebt
      pure (some (.creation ⟨that.collateral, unapplyFee borrowingRate netDebt⟩))
  else if that.isEmpty then do
    let netDebt ← t.netDebt
    pure (some (.closure ⟨t.collateral, if netDebt ≠ 0 then some netDebt else none⟩))
  else if t.collateral = that.collateral then
    pure (some (.adjustment (t.debtChange that borrowingRate)
      (if that.debt = 0 then some .debt else none)))
  else if t.debt = that.debt then
    pure (some (.adjustment (t.collateralChange that)
      (if that.collateral = 0 then some .collateral else none)))
  else
    pure (some (.adjustment
      ⟨(t.collateralChange that).depositCollateral, (t.collateralChange that).withdrawCollateral,
        (t.debtChange that borrowingRate).borrowZUSD, (t.debtChange that borrowingRate).repayZUSD⟩
      (if that.debt = 0 then some .debt else if that.collateral = 0 then some .collateral
        else none)))

end Trove

/-- Source `TroveWithPendingRedistribution`: a trove as last written, with its stake and its
snapshot of the redistributed totals. -/
structure TroveWithPendingRedistribution where
  trove : Trove
  stake : ℕ
  snapshotOfTotalRedistributed : Trove
  deriving DecidableEq, Repr

/-- Source `applyRedistribution`: add the stake's share of what was redistributed since the
snapshot. -/
def TroveWithPendingRedistribution.applyRedistribution (t : TroveWithPendingRedistribution)
    (totalRedistributed : Trove) : Trove :=
  t.trove.add ((totalRedistributed.subtract t.snapshotOfTotalRedistributed).multiply t.stake)

/-! ## The amounts the SDK predicts -/

/-- The fee is added as the contract's `_calcBorrowingFee` computes it: the rate times the
amount, rounded down. -/
theorem applyFee_eq (borrowingRate debtIncrease : ℕ) :
    applyFee borrowingRate debtIncrease =
      debtIncrease + borrowingRate * debtIncrease / Decimal.DIGITS := by
  have hpos : 0 < Decimal.DIGITS := by decide
  unfold applyFee Decimal.mul Decimal.ONE Decimal.fromNat
  rw [Nat.one_mul, Nat.mul_add, Nat.add_comm, Nat.mul_comm debtIncrease Decimal.DIGITS,
    Nat.add_mul_div_left _ _ hpos, Nat.mul_comm, Nat.add_comm]

/-- A creation from accepted amounts: the deposit, and the reserve with the borrowed amount and
its fee. -/
theorem create_eq {depositCollateral borrowZUSD : Option ℕ} {params : TroveCreationParams}
    (h : normalizeTroveCreation depositCollateral borrowZUSD = .ok params) (borrowingRate : ℕ) :
    Trove.create depositCollateral borrowZUSD borrowingRate =
      .ok ⟨params.depositCollateral, ZUSD_LIQUIDATION_RESERVE + params.borrowZUSD +
        borrowingRate * params.borrowZUSD / Decimal.DIGITS⟩ := by
  simp only [Trove.create, h, Revert.ok_bind, Trove.apply, applyFee_eq, Nat.add_assoc]
  rfl

/-- What normalization accepts: the amounts it keeps are the caller's non-zero ones, at most
one of each pair, and at least one. -/
theorem normalizeTroveAdjustment_spec {params params' : TroveAdjustmentParams}
    (h : normalizeTroveAdjustment params = .ok params') :
    params'.depositCollateral = params.depositCollateral.filter (· != 0) ∧
      params'.withdrawCollateral = params.withdrawCollateral.filter (· != 0) ∧
      params'.borrowZUSD = params.borrowZUSD.filter (· != 0) ∧
      params'.repayZUSD = params.repayZUSD.filter (· != 0) ∧
      (params'.depositCollateral = none ∨ params'.withdrawCollateral = none) ∧
      (params'.borrowZUSD = none ∨ params'.repayZUSD = none) := by
  simp only [normalizeTroveAdjustment] at h
  -- a check that fails throws, so only the branch where all three pass returns
  split_ifs at h with hcoll
  all_goals simp only [Revert.bind_eq_ok, Revert.throw_ne_ok, false_and, exists_false,
    Revert.pure_eq_ok] at h
  subst h
  rename_i hdebt _
  simp only [Bool.and_eq_true, Option.isSome_iff_ne_none, not_and_or, not_not] at hcoll hdebt
  exact ⟨rfl, rfl, rfl, rfl, hcoll, hdebt⟩

/-- An adjustment with accepted parameters adds the deposit and the borrowed amount with its
fee, and subtracts the withdrawal and the repayment, each clamped at zero. -/
theorem adjust_eq {params params' : TroveAdjustmentParams}
    (h : normalizeTroveAdjustment params = .ok params') (t : Trove) (borrowingRate : ℕ) :
    t.adjust params borrowingRate = .ok ⟨t.collateral + params'.depositCollateral.getD 0 -
        params'.withdrawCollateral.getD 0,
      t.debt + (params'.borrowZUSD.elim 0 fun b => b + borrowingRate * b / Decimal.DIGITS) -
        params'.repayZUSD.getD 0⟩ := by
  simp only [Trove.adjust, h, Revert.ok_bind, Trove.apply]
  congr 1
  cases hb : params'.borrowZUSD <;> ext <;> simp [applyFee_eq]

/-- A trove after its redistribution: each part grows by the stake times the growth of the
total since the snapshot, rounded down. -/
theorem applyRedistribution_eq (t : TroveWithPendingRedistribution) (totalRedistributed : Trove) :
    t.applyRedistribution totalRedistributed =
      ⟨t.trove.collateral + (totalRedistributed.collateral -
          t.snapshotOfTotalRedistributed.collateral) * t.stake / Decimal.DIGITS,
        t.trove.debt + (totalRedistributed.debt - t.snapshotOfTotalRedistributed.debt) * t.stake /
          Decimal.DIGITS⟩ := by
  ext <;> simp [TroveWithPendingRedistribution.applyRedistribution, Decimal.mul]

/-! ## The change from one trove to another -/

theorem ONE_eq : Decimal.ONE = Decimal.DIGITS := Nat.one_mul _

theorem DIGITS_pos : 0 < Decimal.DIGITS := by decide

/-- Applying the fee to what `unapplyFee` finds gives the amount asked for or one unit more:
the quotient by `1 + rate` is rounded up, by less than one step of the divisor, and the product
by it rounded down; a rate below one keeps the step below two units. -/
theorem applyFee_unapplyFee {borrowingRate : ℕ} (hrate : borrowingRate < Decimal.ONE) (x : ℕ) :
    x ≤ applyFee borrowingRate (unapplyFee borrowingRate x) ∧
      applyFee borrowingRate (unapplyFee borrowingRate x) ≤ x + 1 := by
  rw [ONE_eq] at hrate
  have hq : 0 < Decimal.DIGITS + borrowingRate := Nat.add_pos_left DIGITS_pos _
  -- the quotient rounded up, `c`, against the numerator it rounds
  obtain ⟨c, hc⟩ : ∃ c, unapplyFee borrowingRate x = c := ⟨_, rfl⟩
  have hceil : c = (x * Decimal.DIGITS + (Decimal.DIGITS + borrowingRate - 1)) /
      (Decimal.DIGITS + borrowingRate) := by
    rw [← hc, unapplyFee, Decimal.divCeil, ONE_eq, if_neg hq.ne']
  have hlo := Nat.lt_div_mul_add (a := x * Decimal.DIGITS + (Decimal.DIGITS + borrowingRate - 1)) hq
  have hhi := Nat.div_mul_le_self (x * Decimal.DIGITS + (Decimal.DIGITS + borrowingRate - 1))
    (Decimal.DIGITS + borrowingRate)
  rw [← hceil] at hlo hhi
  rw [hc, applyFee, Decimal.mul, ONE_eq]
  constructor
  · rw [Nat.le_div_iff_mul_le DIGITS_pos]
    omega
  · rw [Nat.div_le_iff_le_mul_add_pred DIGITS_pos,
      show Decimal.DIGITS * (x + 1) = x * Decimal.DIGITS + Decimal.DIGITS by ring]
    omega

/-- At a zero rate the two fees cancel exactly. -/
theorem applyFee_unapplyFee_zero (x : ℕ) : applyFee 0 (unapplyFee 0 x) = x := by
  have hhalf : Decimal.DIGITS - 1 < Decimal.DIGITS := Nat.sub_lt DIGITS_pos Nat.one_pos
  rw [unapplyFee, Decimal.divCeil, Nat.add_zero, ONE_eq, if_neg DIGITS_pos.ne', Nat.mul_comm,
    Nat.mul_add_div DIGITS_pos, Nat.div_eq_of_lt hhalf, Nat.add_zero, applyFee, Decimal.mul,
    Nat.add_zero, ONE_eq, Nat.mul_div_cancel _ DIGITS_pos]

/-- An adjustment adds its increases, the borrowed amount with its fee, and subtracts its
decreases, after setting the part it names to zero. -/
theorem apply_adjustment (t : Trove) (params : TroveAdjustmentParams)
    (setToZero : Option SetToZero) (borrowingRate : ℕ) :
    t.apply (some (.adjustment params setToZero)) borrowingRate = pure
      ⟨if setToZero = some .collateral then 0
        else t.collateral + params.depositCollateral.getD 0 - params.withdrawCollateral.getD 0,
       if setToZero = some .debt then 0
        else t.debt + (params.borrowZUSD.map (applyFee borrowingRate)).getD 0 -
          params.repayZUSD.getD 0⟩ := by
  obtain ⟨depositCollateral, withdrawCollateral, borrowZUSD, repayZUSD⟩ := params
  rcases setToZero with _ | _ | _ <;> cases borrowZUSD <;> simp only [Trove.apply] <;> congr 1 <;>
    ext <;> simp

@[simp] theorem debtChange_depositCollateral (t that : Trove) (borrowingRate : ℕ) :
    (t.debtChange that borrowingRate).depositCollateral = none := by
  unfold Trove.debtChange; split_ifs <;> rfl

@[simp] theorem debtChange_withdrawCollateral (t that : Trove) (borrowingRate : ℕ) :
    (t.debtChange that borrowingRate).withdrawCollateral = none := by
  unfold Trove.debtChange; split_ifs <;> rfl

@[simp] theorem debtChange_borrowZUSD (t that : Trove) (borrowingRate : ℕ) :
    (t.debtChange that borrowingRate).borrowZUSD =
      if that.debt > t.debt then some (unapplyFee borrowingRate (that.debt - t.debt)) else none := by
  unfold Trove.debtChange; split_ifs <;> rfl

@[simp] theorem debtChange_repayZUSD (t that : Trove) (borrowingRate : ℕ) :
    (t.debtChange that borrowingRate).repayZUSD =
      if that.debt > t.debt then none else some (t.debt - that.debt) := by
  unfold Trove.debtChange; split_ifs <;> rfl

@[simp] theorem collateralChange_depositCollateral (t that : Trove) :
    (t.collateralChange that).depositCollateral =
      if that.collateral > t.collateral then some (that.collateral - t.collateral) else none := by
  unfold Trove.collateralChange; split_ifs <;> rfl

@[simp] theorem collateralChange_withdrawCollateral (t that : Trove) :
    (t.collateralChange that).withdrawCollateral =
      if that.collateral > t.collateral then none else some (t.collateral - that.collateral) := by
  unfold Trove.collateralChange; split_ifs <;> rfl

@[simp] theorem collateralChange_borrowZUSD (t that : Trove) :
    (t.collateralChange that).borrowZUSD = none := by
  unfold Trove.collateralChange; split_ifs <;> rfl

@[simp] theorem collateralChange_repayZUSD (t that : Trove) :
    (t.collateralChange that).repayZUSD = none := by
  unfold Trove.collateralChange; split_ifs <;> rfl

theorem netDebt_of_le {t : Trove} (h : ZUSD_LIQUIDATION_RESERVE ≤ t.debt) :
    t.netDebt = pure (t.debt - ZUSD_LIQUIDATION_RESERVE) :=
  if_neg (Nat.not_lt.2 h)

/-- What applying a trove's change to `b` gives back, at a borrowing rate: `b`'s collateral, and
`b`'s debt or one unit more, exactly at a zero rate. -/
structure Reaches (borrowingRate : ℕ) (b t : Trove) : Prop where
  collateral_eq : t.collateral = b.collateral
  le_debt : b.debt ≤ t.debt
  debt_le : t.debt ≤ b.debt + 1
  debt_eq : borrowingRate = 0 → t.debt = b.debt

theorem Reaches.refl (borrowingRate : ℕ) (b : Trove) : Reaches borrowingRate b b :=
  ⟨rfl, le_rfl, Nat.le_succ _, fun _ => rfl⟩

/-- A trove that borrows, before its fee, what lifts a debt `d` to `b`'s reaches `b`. -/
theorem Reaches.of_borrow {borrowingRate d : ℕ} {b t : Trove}
    (hrate : borrowingRate < Decimal.ONE) (hcoll : t.collateral = b.collateral)
    (hle : d ≤ b.debt)
    (hdebt : t.debt = d + applyFee borrowingRate (unapplyFee borrowingRate (b.debt - d))) :
    Reaches borrowingRate b t := by
  obtain ⟨hlo, hhi⟩ := applyFee_unapplyFee hrate (b.debt - d)
  refine ⟨hcoll, by omega, by omega, ?_⟩
  rintro rfl
  rw [hdebt, applyFee_unapplyFee_zero]
  omega

theorem Reaches.of_debt_eq {borrowingRate : ℕ} {b t : Trove} (hcoll : t.collateral = b.collateral)
    (hdebt : t.debt = b.debt) : Reaches borrowingRate b t :=
  ⟨hcoll, hdebt.ge, by omega, fun _ => hdebt⟩

/-- The debt part of an adjustment, borrowed or repaid, reaches `b`'s debt. -/
theorem Reaches.of_debtChange {borrowingRate : ℕ} {a b t : Trove}
    (hrate : borrowingRate < Decimal.ONE) (hcoll : t.collateral = b.collateral)
    (hdebt : t.debt = a.debt + ((a.debtChange b borrowingRate).borrowZUSD.map
      (applyFee borrowingRate)).getD 0 - (a.debtChange b borrowingRate).repayZUSD.getD 0) :
    Reaches borrowingRate b t := by
  rw [debtChange_borrowZUSD, debtChange_repayZUSD] at hdebt
  split_ifs at hdebt with hgt
  · exact Reaches.of_borrow hrate hcoll hgt.le (by simpa using hdebt)
  · exact Reaches.of_debt_eq hcoll (by simp at hdebt; omega)

/-- The collateral part of an adjustment, deposited or withdrawn, reaches `b`'s collateral. -/
theorem collateral_of_collateralChange {a b : Trove} :
    a.collateral + (a.collateralChange b).depositCollateral.getD 0 -
      (a.collateralChange b).withdrawCollateral.getD 0 = b.collateral := by
  rw [collateralChange_depositCollateral, collateralChange_withdrawCollateral]
  split_ifs <;> simp <;> omega

/-- **Round trip.**  The change that `whatChanged` finds from a trove `a`, empty or holding the
liquidation reserve, to any trove `b`, applied to `a`, gives `b`'s collateral and `b`'s debt, up
to one unit more where a borrowed amount went through the two fees; neither call throws.  The
cases follow `whatChanged`: no change, an invalid creation, a creation, a closure, and the three
shapes of adjustment. -/
theorem whatChanged_apply_roundTrip {a b : Trove} {borrowingRate : ℕ}
    (ha : a.isEmpty = true ∨ ZUSD_LIQUIDATION_RESERVE ≤ a.debt)
    (hrate : borrowingRate < Decimal.ONE) :
    ∃ change t, a.whatChanged b borrowingRate = .ok change ∧
      a.apply change borrowingRate = .ok t ∧ Reaches borrowingRate b t := by
  unfold Trove.whatChanged
  split
  · rename_i hsame
    obtain rfl : a = b := Trove.ext hsame.1 hsame.2
    exact ⟨none, a, rfl, rfl, Reaches.refl _ a⟩
  split
  · rename_i haempty
    split
    · -- an invalid creation carries `b` itself
      refine ⟨_, b, rfl, ?_, Reaches.refl _ b⟩
      simp [Trove.apply, haempty]
    · -- a creation borrows, before its fee, `b`'s debt less the reserve
      rename_i hsmall
      have hres := Nat.not_lt.1 hsmall
      rw [netDebt_of_le hres, pure_bind]
      refine ⟨_, ⟨b.collateral, ZUSD_LIQUIDATION_RESERVE +
        applyFee borrowingRate (unapplyFee borrowingRate (b.debt - ZUSD_LIQUIDATION_RESERVE))⟩,
        rfl, ?_, Reaches.of_borrow hrate rfl hres rfl⟩
      simp [Trove.apply, haempty]
  rename_i haempty
  split
  · -- a closure of a trove that holds the reserve leaves the empty trove, which is `b`
    rename_i hbempty
    rw [netDebt_of_le (ha.resolve_left haempty), pure_bind]
    have hb : b = emptyTrove := by
      simp only [Trove.isEmpty, Bool.and_eq_true, beq_iff_eq] at hbempty
      exact Trove.ext hbempty.1 hbempty.2
    refine ⟨_, emptyTrove, rfl, ?_, hb ▸ Reaches.refl _ _⟩
    simp [Trove.apply, haempty]
  -- the adjustments: the part set to zero, if any, is a zero part of `b`
  split
  · -- the debt alone changes
    rename_i hcoll
    refine ⟨_, _, rfl, apply_adjustment _ _ _ _, Reaches.of_debtChange (a := a) hrate ?_ ?_⟩ <;>
      by_cases hzero : b.debt = 0 <;> simp [hzero, hcoll]
  split
  · -- the collateral alone changes
    rename_i hdebt
    refine ⟨_, _, rfl, apply_adjustment _ _ _ _, Reaches.of_debt_eq ?_ ?_⟩
    · by_cases hzero : b.collateral = 0
      · simp [hzero]
      · simpa [hzero] using collateral_of_collateralChange
    · by_cases hzero : b.collateral = 0 <;> simp [hzero, hdebt]
  · -- both change
    refine ⟨_, _, rfl, apply_adjustment _ _ _ _, Reaches.of_debtChange (a := a) hrate ?_ ?_⟩
    · by_cases hzero : b.debt = 0
      · simpa [hzero] using collateral_of_collateralChange
      · by_cases hzero' : b.collateral = 0
        · simp [hzero, hzero']
        · simpa [hzero, hzero'] using collateral_of_collateralChange
    · by_cases hzero : b.debt = 0
      · simp [hzero]
      · by_cases hzero' : b.collateral = 0 <;> simp [hzero, hzero']

/-- At the deployed borrowing floor of `0.5%`: a creation of 2000 ZUSD of debt on one ether from
the empty trove, and an adjustment of that trove to two ether and 3000 ZUSD, which deposits and
borrows at once. -/
theorem whatChanged_apply_roundTrip_creation_and_adjustment :
    ((emptyTrove.isEmpty = true ∨ ZUSD_LIQUIDATION_RESERVE ≤ emptyTrove.debt) ∧
      5 * 10 ^ 15 < Decimal.ONE ∧
      ∃ change t, emptyTrove.whatChanged ⟨10 ^ 18, 2000 * 10 ^ 18⟩ (5 * 10 ^ 15) = .ok change ∧
        emptyTrove.apply change (5 * 10 ^ 15) = .ok t ∧
        Reaches (5 * 10 ^ 15) ⟨10 ^ 18, 2000 * 10 ^ 18⟩ t) ∧
    (((⟨10 ^ 18, 2000 * 10 ^ 18⟩ : Trove).isEmpty = true ∨
        ZUSD_LIQUIDATION_RESERVE ≤ (⟨10 ^ 18, 2000 * 10 ^ 18⟩ : Trove).debt) ∧
      ∃ change t, (⟨10 ^ 18, 2000 * 10 ^ 18⟩ : Trove).whatChanged
          ⟨2 * 10 ^ 18, 3000 * 10 ^ 18⟩ (5 * 10 ^ 15) = .ok change ∧
        (⟨10 ^ 18, 2000 * 10 ^ 18⟩ : Trove).apply change (5 * 10 ^ 15) = .ok t ∧
        Reaches (5 * 10 ^ 15) ⟨2 * 10 ^ 18, 3000 * 10 ^ 18⟩ t) :=
  ⟨⟨Or.inl rfl, by decide, whatChanged_apply_roundTrip (Or.inl rfl) (by decide)⟩,
    ⟨Or.inr (by decide), whatChanged_apply_roundTrip (Or.inr (by decide)) (by decide)⟩⟩

end ZeroProtocol.LibBase
