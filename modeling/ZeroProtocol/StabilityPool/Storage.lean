import ZeroProtocol.Dependencies.LiquityMath

/-!
# `StabilityPoolStorage`

The storage of the Stability Pool.  A deposit is never stored at its current value: it is
stored as the `initialValue` it had at its last change, with `Snapshots` of the running
product `P`, the running sums `S` (ether gains) and `G` (ZERO gains), and the `scale` and
`epoch` they belong to.  Its current value is `initialValue * P / P_snapshot`, adjusted for
scale changes, and zero after a pool-emptying liquidation started a new epoch.  Front ends
keep a stake and snapshots of the same kind for the deposits tagged with them.

`scale` and `epoch` are `uint128` in the contract; no run comes near their bound, and they
are naturals here.  The mappings `epochToScaleToSum` and `epochToScaleToG` are functions of
the epoch and the scale.
-/

namespace ZeroProtocol.StabilityPool

open LiquityMath

/-- The factor by which `P` is scaled up when it would fall below it. -/
def SCALE_FACTOR : ℕ := 10 ^ 9

/-- A deposit's or front end's snapshots of the running sums and product. -/
structure Snapshots where
  S : ℕ
  P : ℕ
  G : ℕ
  scale : ℕ
  epoch : ℕ
  deriving DecidableEq, Repr

/-- The all-zero snapshots that `delete` leaves. -/
def Snapshots.zero : Snapshots := ⟨0, 0, 0, 0, 0⟩

/-- A deposit: its value at the last change and the front end it is tagged with. -/
structure Deposit where
  initialValue : ℕ
  frontEndTag : Address
  deriving DecidableEq, Repr

/-- A front end's kickback rate and whether it registered. -/
structure FrontEnd where
  kickbackRate : ℕ
  registered : Bool
  deriving DecidableEq, Repr

/-- Write the entry of `epoch` and `scale` in a mapping of mappings. -/
def setEntry (m : ℕ → ℕ → ℕ) (epoch scale value : ℕ) : ℕ → ℕ → ℕ :=
  Function.update m epoch (Function.update (m epoch) scale value)

@[simp] theorem setEntry_apply (m : ℕ → ℕ → ℕ) (epoch scale value e s : ℕ) :
    setEntry m epoch scale value e s = if e = epoch ∧ s = scale then value else m e s := by
  by_cases he : e = epoch
  · subst he
    by_cases hs : s = scale <;> simp [setEntry, hs]
  · simp [setEntry, he]

/-- The storage of `StabilityPool`. -/
structure StabilityPoolStorage where
  ETH : ℕ
  totalZUSDDeposits : ℕ
  deposits : Address → Deposit
  depositSnapshots : Address → Snapshots
  frontEnds : Address → FrontEnd
  frontEndStakes : Address → ℕ
  frontEndSnapshots : Address → Snapshots
  P : ℕ
  currentScale : ℕ
  currentEpoch : ℕ
  epochToScaleToSum : ℕ → ℕ → ℕ
  epochToScaleToG : ℕ → ℕ → ℕ
  lastZEROError : ℕ
  lastETHError_Offset : ℕ
  lastZUSDLossError_Offset : ℕ

/-- The storage after `setAddresses`, which sets `P` to one and nothing else. -/
def StabilityPoolStorage.init : StabilityPoolStorage where
  ETH := 0
  totalZUSDDeposits := 0
  deposits := fun _ => ⟨0, 0⟩
  depositSnapshots := fun _ => Snapshots.zero
  frontEnds := fun _ => ⟨0, false⟩
  frontEndStakes := fun _ => 0
  frontEndSnapshots := fun _ => Snapshots.zero
  P := DECIMAL_PRECISION
  currentScale := 0
  currentEpoch := 0
  epochToScaleToSum := fun _ _ => 0
  epochToScaleToG := fun _ _ => 0
  lastZEROError := 0
  lastETHError_Offset := 0
  lastZUSDLossError_Offset := 0

end ZeroProtocol.StabilityPool
