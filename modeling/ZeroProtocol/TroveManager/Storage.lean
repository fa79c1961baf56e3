import ZeroProtocol.TroveManager.Fees

/-!
# `TroveManagerStorage`

The storage of the trove manager, which `TroveManager` and `TroveManagerRedeemOps` share (the
redemption code runs by `delegatecall` on the same storage).

* `Troves` holds each borrower's recorded debt and collateral, stake and status, and its
  position `arrayIndex` in `TroveOwners`, the array of the borrowers of active troves.
* Redistributed debt and collateral are not written to each trove: `L_ETH` and `L_ZUSDDebt`
  accumulate them per unit of stake, and a trove's `rewardSnapshots` record the values it has
  already received.
* `totalStakes` is the sum of the stakes of active troves; `totalStakesSnapshot` and
  `totalCollateralSnapshot`, taken after each liquidation, fix how new stakes are computed.
* The fee variables `baseRate` and `lastFeeOperationTime` are grouped as a `FeeState`.

`arrayIndex` is a `uint128` in the contract and a natural here.
-/

namespace ZeroProtocol.TroveManager

/-- A trove's status. -/
inductive Status
  | nonExistent
  | active
  | closedByOwner
  | closedByLiquidation
  | closedByRedemption
  deriving DecidableEq, Repr

/-- A trove's record. -/
structure Trove where
  debt : ℕ
  coll : ℕ
  stake : ℕ
  status : Status
  arrayIndex : ℕ
  deriving DecidableEq, Repr

/-- The record of a borrower who never opened a trove. -/
def Trove.empty : Trove := ⟨0, 0, 0, .nonExistent, 0⟩

/-- The values of `L_ETH` and `L_ZUSDDebt` a trove has received. -/
structure RewardSnapshot where
  ETH : ℕ
  ZUSDDebt : ℕ
  deriving DecidableEq, Repr

/-- The storage of the trove manager. -/
structure TroveManagerStorage where
  fees : FeeState
  Troves : Address → Trove
  totalStakes : ℕ
  totalStakesSnapshot : ℕ
  totalCollateralSnapshot : ℕ
  L_ETH : ℕ
  L_ZUSDDebt : ℕ
  rewardSnapshots : Address → RewardSnapshot
  TroveOwners : List Address
  lastETHError_Redistribution : ℕ
  lastZUSDDebtError_Redistribution : ℕ

/-- The storage at deployment. -/
def TroveManagerStorage.init : TroveManagerStorage where
  fees := FeeState.init
  Troves := fun _ => Trove.empty
  totalStakes := 0
  totalStakesSnapshot := 0
  totalCollateralSnapshot := 0
  L_ETH := 0
  L_ZUSDDebt := 0
  rewardSnapshots := fun _ => ⟨0, 0⟩
  TroveOwners := []
  lastETHError_Redistribution := 0
  lastZUSDDebtError_Redistribution := 0

end ZeroProtocol.TroveManager
