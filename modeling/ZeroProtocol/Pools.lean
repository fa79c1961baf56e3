import ZeroProtocol.Dependencies.LiquityMath

/-!
# The pools

`ActivePool` holds the collateral and records the debt of the active troves, `DefaultPool` the
collateral and debt redistributed by liquidations and not yet applied to a trove, and
`CollSurplusPool` the collateral left over from liquidations in Recovery Mode and from
redemptions, per account, until its owner claims it.  `GasPool` holds the ZUSD gas
compensation of the open troves; it has no storage of its own, only a ZUSD balance.

Each pool's `ETH` is a tracker kept next to the contract's real ether balance.  Sending ether
lowers the sender's tracker (with `SafeMath.sub`); the receiving pool's `receive` raises its
own.  A pool-to-pool transfer is therefore two functions here, one on each side, composed by
the caller.  The callers' address checks are not modelled: in the system only the trove
manager, the borrower operations and the Stability Pool call these functions.
-/

namespace ZeroProtocol

/-- The storage of `ActivePool`. -/
structure ActivePool where
  ETH : ℕ
  ZUSDDebt : ℕ
  deriving DecidableEq, Repr

/-- The storage of `DefaultPool`. -/
structure DefaultPool where
  ETH : ℕ
  ZUSDDebt : ℕ
  deriving DecidableEq, Repr

/-- The storage of `CollSurplusPool`. -/
structure CollSurplusPool where
  ETH : ℕ
  balances : Address → ℕ

namespace ActivePool

variable (p : ActivePool) (amount : ℕ)

/-- Source `sendETH`, the sending side. -/
def sendETH : Except String ActivePool := do
  let ETH ← SafeMath.sub p.ETH amount
  pure { p with ETH := ETH }

/-- Source `increaseZUSDDebt`. -/
def increaseZUSDDebt : ActivePool := { p with ZUSDDebt := p.ZUSDDebt + amount }

/-- Source `decreaseZUSDDebt`. -/
def decreaseZUSDDebt : Except String ActivePool := do
  let ZUSDDebt ← SafeMath.sub p.ZUSDDebt amount
  pure { p with ZUSDDebt := ZUSDDebt }

/-- Source `receive`: ether from the borrower operations or the default pool. -/
def receive : ActivePool := { p with ETH := p.ETH + amount }

variable {p amount}

@[simp] theorem sendETH_eq_ok {p' : ActivePool} :
    p.sendETH amount = .ok p' ↔ amount ≤ p.ETH ∧ p' = { p with ETH := p.ETH - amount } := by
  simp only [sendETH, Revert.bind_eq_ok, SafeMath.sub_eq_ok, Revert.pure_eq_ok]
  constructor
  · rintro ⟨_, ⟨hle, rfl⟩, rfl⟩
    exact ⟨hle, rfl⟩
  · rintro ⟨hle, rfl⟩
    exact ⟨_, ⟨hle, rfl⟩, rfl⟩

@[simp] theorem decreaseZUSDDebt_eq_ok {p' : ActivePool} :
    p.decreaseZUSDDebt amount = .ok p' ↔
      amount ≤ p.ZUSDDebt ∧ p' = { p with ZUSDDebt := p.ZUSDDebt - amount } := by
  simp only [decreaseZUSDDebt, Revert.bind_eq_ok, SafeMath.sub_eq_ok, Revert.pure_eq_ok]
  constructor
  · rintro ⟨_, ⟨hle, rfl⟩, rfl⟩
    exact ⟨hle, rfl⟩
  · rintro ⟨hle, rfl⟩
    exact ⟨_, ⟨hle, rfl⟩, rfl⟩

@[simp] theorem increaseZUSDDebt_ETH : (p.increaseZUSDDebt amount).ETH = p.ETH := rfl

@[simp] theorem increaseZUSDDebt_ZUSDDebt :
    (p.increaseZUSDDebt amount).ZUSDDebt = p.ZUSDDebt + amount := rfl

@[simp] theorem receive_ETH : (p.receive amount).ETH = p.ETH + amount := rfl

@[simp] theorem receive_ZUSDDebt : (p.receive amount).ZUSDDebt = p.ZUSDDebt := rfl

end ActivePool

namespace DefaultPool

variable (p : DefaultPool) (amount : ℕ)

/-- Source `sendETHToActivePool`, the sending side. -/
def sendETHToActivePool : Except String DefaultPool := do
  let ETH ← SafeMath.sub p.ETH amount
  pure { p with ETH := ETH }

/-- Source `increaseZUSDDebt`. -/
def increaseZUSDDebt : DefaultPool := { p with ZUSDDebt := p.ZUSDDebt + amount }

/-- Source `decreaseZUSDDebt`. -/
def decreaseZUSDDebt : Except String DefaultPool := do
  let ZUSDDebt ← SafeMath.sub p.ZUSDDebt amount
  pure { p with ZUSDDebt := ZUSDDebt }

/-- Source `receive`: ether from the active pool. -/
def receive : DefaultPool := { p with ETH := p.ETH + amount }

variable {p amount}

@[simp] theorem sendETHToActivePool_eq_ok {p' : DefaultPool} :
    p.sendETHToActivePool amount = .ok p' ↔
      amount ≤ p.ETH ∧ p' = { p with ETH := p.ETH - amount } := by
  simp only [sendETHToActivePool, Revert.bind_eq_ok, SafeMath.sub_eq_ok, Revert.pure_eq_ok]
  constructor
  · rintro ⟨_, ⟨hle, rfl⟩, rfl⟩
    exact ⟨hle, rfl⟩
  · rintro ⟨hle, rfl⟩
    exact ⟨_, ⟨hle, rfl⟩, rfl⟩

@[simp] theorem decreaseZUSDDebt_eq_ok {p' : DefaultPool} :
    p.decreaseZUSDDebt amount = .ok p' ↔
      amount ≤ p.ZUSDDebt ∧ p' = { p with ZUSDDebt := p.ZUSDDebt - amount } := by
  simp only [decreaseZUSDDebt, Revert.bind_eq_ok, SafeMath.sub_eq_ok, Revert.pure_eq_ok]
  constructor
  · rintro ⟨_, ⟨hle, rfl⟩, rfl⟩
    exact ⟨hle, rfl⟩
  · rintro ⟨hle, rfl⟩
    exact ⟨_, ⟨hle, rfl⟩, rfl⟩

@[simp] theorem increaseZUSDDebt_ETH : (p.increaseZUSDDebt amount).ETH = p.ETH := rfl

@[simp] theorem increaseZUSDDebt_ZUSDDebt :
    (p.increaseZUSDDebt amount).ZUSDDebt = p.ZUSDDebt + amount := rfl

@[simp] theorem receive_ETH : (p.receive amount).ETH = p.ETH + amount := rfl

@[simp] theorem receive_ZUSDDebt : (p.receive amount).ZUSDDebt = p.ZUSDDebt := rfl

end DefaultPool

namespace CollSurplusPool

variable (p : CollSurplusPool) (account : Address) (amount : ℕ)

/-- Source `accountSurplus`. -/
def accountSurplus : CollSurplusPool :=
  { p with balances := Function.update p.balances account (p.balances account + amount) }

/-- Source `claimColl`: the new pool and the ether sent to `account`, which `accepts` says
whether the account takes. -/
def claimColl (accepts : Bool) : Except String (CollSurplusPool × ℕ) := do
  let claimableColl := p.balances account
  Revert.require (claimableColl > 0) "CollSurplusPool: No collateral available to claim"
  let p := { p with balances := Function.update p.balances account 0 }
  let ETH ← SafeMath.sub p.ETH claimableColl
  Revert.require (accepts = true) "CollSurplusPool: sending ETH failed"
  pure ({ p with ETH := ETH }, claimableColl)

/-- Source `receive`: ether from the active pool. -/
def receive : CollSurplusPool := { p with ETH := p.ETH + amount }

@[simp] theorem accountSurplus_zero : p.accountSurplus account 0 = p := by
  simp [accountSurplus]

@[simp] theorem accountSurplus_ETH : (p.accountSurplus account amount).ETH = p.ETH := rfl

@[simp] theorem receive_balances : (p.receive amount).balances = p.balances := rfl

end CollSurplusPool

end ZeroProtocol
