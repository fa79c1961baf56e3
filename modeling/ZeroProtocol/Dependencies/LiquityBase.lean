import ZeroProtocol.Dependencies.LiquityMath

/-!
# `LiquityBase` and `LiquityBaseParams`

The constants and pure helpers that `TroveManager`, `BorrowerOperations` and `StabilityPool`
inherit from `LiquityBase`, and the owner-set parameters of `LiquityBaseParams`.

The contracts read each parameter through an external call at the moment of use.  The
owner's setters are not called during the runs considered here, so the parameters are one
fixed record, passed to every function that reads one.  `PERCENT_DIVISOR` divides with
Solidity's unchecked `/`, which is Lean's `/` for the positive divisor every configuration
sets.
-/

namespace ZeroProtocol

open LiquityMath

/-- The parameters held by `LiquityBaseParams`. -/
structure LiquityBaseParams where
  MCR : ℕ
  CCR : ℕ
  PERCENT_DIVISOR : ℕ
  BORROWING_FEE_FLOOR : ℕ
  REDEMPTION_FEE_FLOOR : ℕ
  MAX_BORROWING_FEE : ℕ
  deriving DecidableEq, Repr

/-- The values set by `LiquityBaseParams.initialize`. -/
def LiquityBaseParams.initialize : LiquityBaseParams where
  MCR := 1100000000000000000
  CCR := 1500000000000000000
  PERCENT_DIVISOR := 200
  BORROWING_FEE_FLOOR := DECIMAL_PRECISION / 1000 * 5
  REDEMPTION_FEE_FLOOR := DECIMAL_PRECISION / 1000 * 5
  MAX_BORROWING_FEE := DECIMAL_PRECISION / 100 * 5

namespace LiquityBase

/-- One hundred percent as an 18-digit decimal. -/
def _100pct : ℕ := 1000000000000000000

/-- The ZUSD locked in the gas pool for every open trove. -/
def ZUSD_GAS_COMPENSATION : ℕ := 20 * 10 ^ 18

/-- The least net debt a trove may have. -/
def MIN_NET_DEBT : ℕ := 180 * 10 ^ 18

/-- Source `_getCompositeDebt`: drawn debt plus the gas compensation. -/
def getCompositeDebt (debt : ℕ) : ℕ := debt + ZUSD_GAS_COMPENSATION

/-- Source `_getNetDebt`: debt without the gas compensation. -/
def getNetDebt (debt : ℕ) : Except String ℕ := SafeMath.sub debt ZUSD_GAS_COMPENSATION

/-- Source `_getCollGasCompensation`: the share of a trove's collateral paid to its
liquidator. -/
def getCollGasCompensation (p : LiquityBaseParams) (entireColl : ℕ) : ℕ :=
  entireColl / p.PERCENT_DIVISOR

/-- Source `_requireUserAcceptsFee`. -/
def requireUserAcceptsFee (fee amount maxFeePercentage : ℕ) : Except String Unit := do
  let feePercentage ← SafeMath.div (fee * DECIMAL_PRECISION) amount
  Revert.require (feePercentage ≤ maxFeePercentage) "Fee exceeded provided maximum"

end LiquityBase

end ZeroProtocol
