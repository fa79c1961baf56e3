import ZeroProtocol.Lib.Ledger
import ZeroProtocol.Pools
import ZeroProtocol.ZERO.CommunityIssuance
import ZeroProtocol.StabilityPool.Storage
import ZeroProtocol.TroveManager.Storage
import ZeroProtocol.SortedTroves.Model
import ZeroProtocol.Dependencies.LiquityBase

/-!
# The system state

The contracts call each other synchronously, so one transaction is a function from the
storage of all of them to their storage after it.  `System` gathers that storage: the ZUSD
ledger, the ZERO token's allowances, the pools, the Stability Pool, the community issuance,
the trove manager and the sorted list, with the block's `timestamp` and the `price` that
`PriceFeed.fetchPrice` returns.  The oracles behind the price feed are not modelled: the
price is part of the environment, and a run may change it between transactions, as it may
move the clock forward.

`Config` holds what the owner fixes once at deployment: the parameters of
`LiquityBaseParams`, the contracts' addresses and the bootstrap period.  The contracts check
their callers against these addresses; in the runs modelled here every internal call comes
from the contract allowed to make it, so those checks always pass and are not repeated.

The internal operations of `ZUSDToken` are the ledger's, with the zero-address assertions of
the token put in front.
-/

namespace ZeroProtocol

open LiquityMath

/-- The deployed contracts' addresses that the modelled code sends to or checks. -/
structure Addresses where
  activePool : Address
  defaultPool : Address
  stabilityPool : Address
  gasPool : Address
  collSurplusPool : Address
  feeDistributor : Address
  zeroToken : Address
  communityIssuance : Address
  fundingWallet : Address
  deriving DecidableEq, Repr

/-- What the owner fixes once: parameters, addresses, the bootstrap period and the ZERO
token's deployment time, against which the bootstrap period runs; and, of the accounts outside
the system, which of them take the ether that a call sends them. -/
structure Config where
  params : LiquityBaseParams
  addresses : Addresses
  BOOTSTRAP_PERIOD : ℕ
  zeroDeploymentStartTime : ℕ
  /-- Whether the code at an address takes the ether a call sends it: an account without code
  does, a contract only if its `receive` or fallback function does not revert. -/
  acceptsETH : Address → Bool

/-- The storage of every contract, with the block time and the feed's price. -/
structure System where
  timestamp : ℕ
  price : ℕ
  zusdToken : Ledger Address
  zeroToken : ZEROToken
  activePool : ActivePool
  defaultPool : DefaultPool
  collSurplusPool : CollSurplusPool
  stabilityPool : StabilityPool.StabilityPoolStorage
  communityIssuance : CommunityIssuance
  troveManager : TroveManager.TroveManagerStorage
  sortedTroves : SortedTroves.Data

/-- The system right after deployment and `setAddresses`, with the list's `maxSize` set. -/
def System.init (timestamp price maxSize : ℕ) : System where
  timestamp := timestamp
  price := price
  zusdToken := ⟨fun _ => 0, 0⟩
  zeroToken := ⟨fun _ _ => 0⟩
  activePool := ⟨0, 0⟩
  defaultPool := ⟨0, 0⟩
  collSurplusPool := ⟨0, fun _ => 0⟩
  stabilityPool := StabilityPool.StabilityPoolStorage.init
  communityIssuance := CommunityIssuance.init
  troveManager := TroveManager.TroveManagerStorage.init
  sortedTroves := SortedTroves.Data.empty maxSize

namespace ZUSDToken

variable (l : Ledger Address)

/-- Source `_transfer`, which `sendToPool`, `returnFromPool` and `transfer` call. -/
def transfer (sender recipient : Address) (amount : ℕ) : Except String (Ledger Address) := do
  Revert.assert (sender ≠ 0)
  Revert.assert (recipient ≠ 0)
  Ledger.transfer l sender recipient amount

/-- Source `_mint`, which `mint` calls. -/
def mint (account : Address) (amount : ℕ) : Except String (Ledger Address) := do
  Revert.assert (account ≠ 0)
  pure (Ledger.mint l account amount)

/-- Source `_burn`, which `burn` calls. -/
def burn (account : Address) (amount : ℕ) : Except String (Ledger Address) := do
  Revert.assert (account ≠ 0)
  Ledger.burn l account amount

variable {l} {l' : Ledger Address} {amount : ℕ}

@[simp] theorem transfer_eq_ok {sender recipient : Address} :
    transfer l sender recipient amount = .ok l' ↔
      sender ≠ 0 ∧ recipient ≠ 0 ∧ Ledger.transfer l sender recipient amount = .ok l' := by
  simp only [transfer, Revert.bind_eq_ok, Revert.assert_eq_ok, exists_const]

@[simp] theorem mint_eq_ok {account : Address} :
    mint l account amount = .ok l' ↔ account ≠ 0 ∧ l' = Ledger.mint l account amount := by
  simp only [mint, Revert.bind_eq_ok, Revert.assert_eq_ok, Revert.pure_eq_ok, exists_const]
  exact and_congr_right fun _ => eq_comm

@[simp] theorem burn_eq_ok {account : Address} :
    burn l account amount = .ok l' ↔ account ≠ 0 ∧ Ledger.burn l account amount = .ok l' := by
  simp only [burn, Revert.bind_eq_ok, Revert.assert_eq_ok, exists_const]

end ZUSDToken

namespace LiquityBase

variable (cfg : Config) (st : System)

/-- Source `getEntireSystemColl`: the collateral of the active and the default pool. -/
def getEntireSystemColl : ℕ := st.activePool.ETH + st.defaultPool.ETH

/-- Source `getEntireSystemDebt`: the debt of the active and the default pool. -/
def getEntireSystemDebt : ℕ := st.activePool.ZUSDDebt + st.defaultPool.ZUSDDebt

/-- Source `_getTCR`: the total collateral ratio at `price`. -/
def getTCR (price : ℕ) : ℕ := computeCR (getEntireSystemColl st) (getEntireSystemDebt st) price

/-- Source `_checkRecoveryMode`: the total collateral ratio is below `CCR`. -/
def checkRecoveryMode (price : ℕ) : Bool := decide (getTCR st price < cfg.params.CCR)

end LiquityBase

end ZeroProtocol
