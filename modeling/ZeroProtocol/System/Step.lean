import ZeroProtocol.BorrowerOperations
import ZeroProtocol.TroveManager.Redemptions

/-!
# The system as a transition system

Every external call that the modelled contracts accept is an `Op`, with its sender and its
arguments; the environment's moves are a new price from the feed and time passing.  One
`Step` is one successful call: a call that reverts leaves the state as it was, so it adds no
step.  Each call may use any `gas` for the sorted list's search loops.  The owner's setters
are called once, at deployment, and are not operations: their values are the `Config`.

`runAll` runs a list of calls one after the other and stops at the first revert; a run that
succeeds is a path of steps (`reachable_of_runAll`), which is how a concrete run is shown to
reach a state.
-/

namespace ZeroProtocol

/-- The external calls of borrower operations, the trove manager, the Stability Pool and the
community issuance, each with its sender, and the environment's moves. -/
inductive Op
  | openTrove (sender : Address) (value maxFeePercentage ZUSDAmount : ℕ)
      (upperHint lowerHint : Address)
  | adjustTrove (sender : Address) (value maxFeePercentage collWithdrawal ZUSDChange : ℕ)
      (isDebtIncrease : Bool) (upperHint lowerHint : Address)
  | addColl (sender : Address) (value : ℕ) (upperHint lowerHint : Address)
  | withdrawColl (sender : Address) (collWithdrawal : ℕ) (upperHint lowerHint : Address)
  | withdrawZUSD (sender : Address) (maxFeePercentage ZUSDAmount : ℕ)
      (upperHint lowerHint : Address)
  | repayZUSD (sender : Address) (ZUSDAmount : ℕ) (upperHint lowerHint : Address)
  | closeTrove (sender : Address)
  | claimCollateral (sender : Address)
  | liquidate (sender borrower : Address)
  | liquidateTroves (sender : Address) (n : ℕ)
  | batchLiquidateTroves (sender : Address) (troveArray : List Address)
  | redeemCollateral (sender : Address) (ZUSDamount : ℕ)
      (firstRedemptionHint upperPartialRedemptionHint lowerPartialRedemptionHint : Address)
      (partialRedemptionHintNICR maxIterations maxFeePercentage : ℕ)
  | provideToSP (sender : Address) (amount : ℕ) (frontEndTag : Address)
  | withdrawFromSP (sender : Address) (amount : ℕ)
  | withdrawETHGainToTrove (sender : Address) (upperHint lowerHint : Address)
  | registerFrontEnd (sender : Address) (kickbackRate : ℕ)
  | approveZERO (sender spender : Address) (amount : ℕ)
  | receiveZero (account : Address) (ZEROamount : ℕ)
  | setPrice (price : ℕ)
  | advanceTime (seconds : ℕ)
  deriving DecidableEq, Repr

namespace Op

variable (cfg : Config) (gas : ℕ)

/-- What one call does to the system, with `gas` rounds for each search loop. -/
def run (st : System) : Op → Except String System
  | .openTrove sender value maxFeePercentage ZUSDAmount upperHint lowerHint =>
      BorrowerOperations.openTrove cfg st gas sender value maxFeePercentage ZUSDAmount upperHint
        lowerHint
  | .adjustTrove sender value maxFeePercentage collWithdrawal ZUSDChange isDebtIncrease
      upperHint lowerHint =>
      BorrowerOperations.adjustTrove cfg st gas sender value maxFeePercentage collWithdrawal
        ZUSDChange isDebtIncrease upperHint lowerHint
  | .addColl sender value upperHint lowerHint =>
      BorrowerOperations.addColl cfg st gas sender value upperHint lowerHint
  | .withdrawColl sender collWithdrawal upperHint lowerHint =>
      BorrowerOperations.withdrawColl cfg st gas sender collWithdrawal upperHint lowerHint
  | .withdrawZUSD sender maxFeePercentage ZUSDAmount upperHint lowerHint =>
      BorrowerOperations.withdrawZUSD cfg st gas sender maxFeePercentage ZUSDAmount upperHint
        lowerHint
  | .repayZUSD sender ZUSDAmount upperHint lowerHint =>
      BorrowerOperations.repayZUSD cfg st gas sender ZUSDAmount upperHint lowerHint
  | .closeTrove sender => BorrowerOperations.closeTrove cfg st sender
  | .claimCollateral sender => BorrowerOperations.claimCollateral cfg st sender
  | .liquidate sender borrower => TroveManager.liquidate cfg st sender borrower
  | .liquidateTroves sender n => TroveManager.liquidateTroves cfg st sender n
  | .batchLiquidateTroves sender troveArray =>
      TroveManager.batchLiquidateTroves cfg st sender troveArray
  | .redeemCollateral sender ZUSDamount firstRedemptionHint upperPartialRedemptionHint
      lowerPartialRedemptionHint partialRedemptionHintNICR maxIterations maxFeePercentage =>
      TroveManager.redeemCollateral cfg st gas sender ZUSDamount firstRedemptionHint
        upperPartialRedemptionHint lowerPartialRedemptionHint partialRedemptionHintNICR
        maxIterations maxFeePercentage
  | .provideToSP sender amount frontEndTag =>
      StabilityPool.provideToSP cfg st sender amount frontEndTag
  | .withdrawFromSP sender amount => StabilityPool.withdrawFromSP cfg st sender amount
  | .withdrawETHGainToTrove sender upperHint lowerHint =>
      StabilityPool.withdrawETHGainToTrove cfg st gas sender upperHint lowerHint
  | .registerFrontEnd sender kickbackRate =>
      StabilityPool.registerFrontEnd st sender kickbackRate
  | .approveZERO sender spender amount => do
      let zeroToken ← ZEROToken.approve st.zeroToken sender spender amount
      pure { st with zeroToken := zeroToken }
  | .receiveZero account ZEROamount => do
      let (communityIssuance, zeroToken) ←
        CommunityIssuance.receiveZero st.communityIssuance st.timestamp st.zeroToken
          cfg.addresses.zeroToken cfg.addresses.communityIssuance cfg.addresses.fundingWallet
          account ZEROamount
      pure { st with communityIssuance := communityIssuance, zeroToken := zeroToken }
  | .setPrice price => pure { st with price := price }
  | .advanceTime seconds => pure { st with timestamp := st.timestamp + seconds }

end Op

/-- One successful call, with some gas for the search loops. -/
def Step (cfg : Config) (st st' : System) : Prop :=
  ∃ (op : Op) (gas : ℕ), op.run cfg gas st = .ok st'

/-- The states reachable from the deployed system `init`. -/
def Reachable (cfg : Config) (init : System) : System → Prop :=
  Reachability.Reachable (Step cfg) init

/-- Run calls, each with its gas, one after the other; the first revert ends the run. -/
def runAll (cfg : Config) : List (Op × ℕ) → System → Except String System
  | [], st => pure st
  | (op, gas) :: ops, st => do
    let st ← op.run cfg gas st
    runAll cfg ops st

/-- A call that succeeds from a reachable state ends in a reachable state. -/
theorem Reachable.run {cfg : Config} {init st st' : System} {op : Op} {gas : ℕ}
    (h : Reachable cfg init st) (hop : op.run cfg gas st = .ok st') : Reachable cfg init st' :=
  Reachability.Reachable.tail h ⟨op, gas, hop⟩

/-- **Run lemma.**  A run that succeeds from a reachable state ends in a reachable state. -/
theorem reachable_of_runAll {cfg : Config} {init : System} :
    ∀ {ops : List (Op × ℕ)} {st st' : System}, Reachable cfg init st →
      runAll cfg ops st = .ok st' → Reachable cfg init st'
  | [], st, st', hst, hrun => by
    rw [runAll, Revert.pure_eq_ok] at hrun
    exact hrun ▸ hst
  | (op, gas) :: ops, st, st', hst, hrun => by
    rw [runAll, Revert.bind_eq_ok] at hrun
    obtain ⟨st₁, hop, hrest⟩ := hrun
    exact reachable_of_runAll (hst.run hop) hrest

/-- Whether a call succeeded and its result passes `check`: a computable test that the kernel
evaluates on a concrete run. -/
def runPasses {α : Type} (r : Except String α) (check : α → Bool) : Bool :=
  match r with
  | .ok st => check st
  | .error _ => false

theorem exists_of_runPasses {α : Type} {r : Except String α} {check : α → Bool}
    (h : runPasses r check = true) : ∃ st, r = .ok st ∧ check st = true := by
  cases r with
  | error e => simp [runPasses] at h
  | ok st => exact ⟨st, rfl, h⟩

/-- A run from the deployed system that passes `check` reaches a state that passes it. -/
theorem exists_reachable_of_runPasses {cfg : Config} {init : System} {ops : List (Op × ℕ)}
    {check : System → Bool} (h : runPasses (runAll cfg ops init) check = true) :
    ∃ st, Reachable cfg init st ∧ check st = true := by
  obtain ⟨st, hrun, hcheck⟩ := exists_of_runPasses h
  exact ⟨st, reachable_of_runAll Reachability.Reachable.init hrun, hcheck⟩

/-- The same for a decidable property of the final state. -/
theorem exists_reachable_of_decide {cfg : Config} {init : System} {ops : List (Op × ℕ)}
    {P : System → Prop} [DecidablePred P]
    (h : runPasses (runAll cfg ops init) (fun st => decide (P st)) = true) :
    ∃ st, Reachable cfg init st ∧ P st := by
  obtain ⟨st, hreach, hcheck⟩ := exists_reachable_of_runPasses h
  exact ⟨st, hreach, of_decide_eq_true hcheck⟩

/-! ## The deployment of the concrete runs -/

/-- The configuration the concrete runs use: the parameters of `LiquityBaseParams.initialize`,
the contracts at the addresses `101` to `109` (in the order of `Addresses`), a bootstrap period
of fourteen days, the ZERO token deployed at time `0`, and accounts that all take ether. -/
def Config.sample : Config where
  params := LiquityBaseParams.initialize
  addresses := ⟨101, 102, 103, 104, 105, 106, 107, 108, 109⟩
  BOOTSTRAP_PERIOD := 14 * 24 * 60 * 60
  zeroDeploymentStartTime := 0
  acceptsETH _ := true

/-- The system the concrete runs start from: deployed at time `1000`, with an ether price of
200 ZUSD and room for 100 troves. -/
def System.sample : System := System.init 1000 (200 * 10 ^ 18) 100

end ZeroProtocol
