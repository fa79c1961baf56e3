import ZeroProtocol.Dependencies.LiquityMath
import Mathlib.Data.List.Chain

/-!
# `CommunityIssuance`: the ZERO reward curve

The community pot is funded once, through `receiveZero`, with `ZEROSupplyCap` ZERO; the time
of funding is `deploymentTime`.  Of the cap, a fraction `1 - ISSUANCE_FACTOR ^ minutes` has been
issued `minutes` after it, so half of what is left every year.  The Stability Pool calls
`issueZERO` on every deposit change and liquidation to learn what was issued since its last
call, and `sendZERO` to pay a depositor or front end out of the pot.

Of the ZERO token only the allowances are modelled: its `_transfer` returns before moving
anything, so `transfer` and `transferFrom` only check the recipient, and `transferFrom` spends
the allowance.

Once the pot is funded, `issueZERO` follows the curve `latestTotalZEROIssued`: the curve never
falls, since `_decPow` never grows with the exponent (`decPow_antitone`), so a call never finds
less issued than recorded, and a sequence of calls at times that never go back issues exactly
the curve's total at the last of them (`issueZEROs_eq`).
-/

namespace ZeroProtocol

open LiquityMath

/-- The storage of `CommunityIssuance`. -/
structure CommunityIssuance where
  ZEROSupplyCap : ℕ
  totalZEROIssued : ℕ
  deploymentTime : ℕ
  deriving DecidableEq, Repr

/-- The part of the ZERO token's storage that the modelled calls change. -/
structure ZEROToken where
  allowances : Address → Address → ℕ

namespace ZEROToken

variable (t : ZEROToken) (self : Address)

/-- Source `_requireValidRecipient`. -/
def requireValidRecipient (recipient : Address) : Except String Unit :=
  Revert.require (recipient ≠ 0 ∧ recipient ≠ self)
    "ZERO: Cannot transfer tokens directly to the ZERO token contract or the zero address"

/-- Source `approve`: `owner` lets `spender` draw `amount`. -/
def approve (owner spender : Address) (amount : ℕ) : Except String ZEROToken := do
  Revert.require (owner ≠ 0) "ERC20: approve from the zero address"
  Revert.require (spender ≠ 0) "ERC20: approve to the zero address"
  let ownerAllowances := Function.update (t.allowances owner) spender amount
  pure { allowances := Function.update t.allowances owner ownerAllowances }

/-- Source `transfer`; `_transfer` returns before moving anything. -/
def transfer (recipient : Address) : Except String Unit :=
  requireValidRecipient self recipient

/-- Source `transferFrom` called by `caller`: the allowance is spent, nothing moves. -/
def transferFrom (caller sender recipient : Address) (amount : ℕ) :
    Except String ZEROToken := do
  requireValidRecipient self recipient
  let allowance := t.allowances sender caller
  Revert.require (amount ≤ allowance) "ERC20: transfer amount exceeds allowance"
  approve t sender caller (allowance - amount)

end ZEROToken

namespace CommunityIssuance

/-- Seconds in a minute, the unit of the issuance curve. -/
def SECONDS_IN_ONE_MINUTE : ℕ := 60

/-- The issuance per minute, `0.5^(1/525600)`: half of what is left each year. -/
def ISSUANCE_FACTOR : ℕ := 999998681227695000

/-- The pot before it is funded. -/
def init : CommunityIssuance := ⟨0, 0, 0⟩

variable (ci : CommunityIssuance) (timestamp : ℕ)

/-- Source `_getCumulativeIssuanceFraction`: `1 - ISSUANCE_FACTOR ^ minutes`. -/
def getCumulativeIssuanceFraction : Except String ℕ := do
  let timePassed ← SafeMath.sub timestamp ci.deploymentTime
  let timePassedInMinutes := timePassed / SECONDS_IN_ONE_MINUTE
  let power := decPow ISSUANCE_FACTOR timePassedInMinutes
  let cumulativeIssuanceFraction ← SafeMath.sub DECIMAL_PRECISION power
  -- must be in range [0,1]
  Revert.assert (cumulativeIssuanceFraction ≤ DECIMAL_PRECISION)
  pure cumulativeIssuanceFraction

/-- Source `issueZERO`: the new storage and the ZERO issued since the last call. -/
def issueZERO : Except String (CommunityIssuance × ℕ) := do
  let fraction ← getCumulativeIssuanceFraction ci timestamp
  let latestTotalZEROIssued := ci.ZEROSupplyCap * fraction / DECIMAL_PRECISION
  let issuance ← SafeMath.sub latestTotalZEROIssued ci.totalZEROIssued
  pure ({ ci with totalZEROIssued := latestTotalZEROIssued }, issuance)

/-- Source `sendZERO`: a transfer of `_ZEROamount` to `account`, which moves nothing (see
above). -/
def sendZERO (zeroTokenAddress account : Address) (_ZEROamount : ℕ) : Except String Unit :=
  ZEROToken.transfer zeroTokenAddress account

/-- Source `receiveZero`: fund the pot at `self` once, from the funding wallet. -/
def receiveZero (zero : ZEROToken) (zeroTokenAddress self fundingWalletAddress account : Address)
    (ZEROamount : ℕ) : Except String (CommunityIssuance × ZEROToken) := do
  Revert.require (account = fundingWalletAddress) "Only the funding wallet can deposit ZERO"
  Revert.require (ci.ZEROSupplyCap = 0) "Community pot already funded"
  let zero ← ZEROToken.transferFrom zero zeroTokenAddress self account self ZEROamount
  pure ({ ci with ZEROSupplyCap := ZEROamount, deploymentTime := timestamp }, zero)

/-- Funding sets the cap and the deployment time and keeps the rest. -/
theorem receiveZero_pot {zero zero' : ZEROToken}
    {zeroTokenAddress self fundingWalletAddress account : Address} {ZEROamount : ℕ}
    {ci' : CommunityIssuance}
    (h : receiveZero ci timestamp zero zeroTokenAddress self fundingWalletAddress account
      ZEROamount = .ok (ci', zero')) :
    ci' = { ci with ZEROSupplyCap := ZEROamount, deploymentTime := timestamp } := by
  simp only [receiveZero, Revert.bind_eq_ok, Revert.pure_eq_ok, Prod.mk.injEq] at h
  obtain ⟨_, -, _, -, _, -, hpot, -⟩ := h
  exact hpot.symm

/-! ## The issuance curve -/

theorem ISSUANCE_FACTOR_le : ISSUANCE_FACTOR ≤ DECIMAL_PRECISION := by decide

/-- The total the curve has issued by `timestamp`: the cap times `1 - ISSUANCE_FACTOR ^ minutes`
for the whole minutes since deployment, which `issueZERO` records as `latestTotalZEROIssued`. -/
def latestTotalZEROIssued : ℕ :=
  ci.ZEROSupplyCap * (DECIMAL_PRECISION -
    decPow ISSUANCE_FACTOR ((timestamp - ci.deploymentTime) / SECONDS_IN_ONE_MINUTE)) /
    DECIMAL_PRECISION

theorem getCumulativeIssuanceFraction_eq (h : ci.deploymentTime ≤ timestamp) :
    getCumulativeIssuanceFraction ci timestamp = .ok (DECIMAL_PRECISION -
      decPow ISSUANCE_FACTOR ((timestamp - ci.deploymentTime) / SECONDS_IN_ONE_MINUTE)) := by
  have hpow : decPow ISSUANCE_FACTOR ((timestamp - ci.deploymentTime) / SECONDS_IN_ONE_MINUTE) ≤
      DECIMAL_PRECISION := decPow_le_one ISSUANCE_FACTOR_le _
  have hfraction : DECIMAL_PRECISION -
      decPow ISSUANCE_FACTOR ((timestamp - ci.deploymentTime) / SECONDS_IN_ONE_MINUTE) ≤
      DECIMAL_PRECISION := Nat.sub_le _ _
  simp only [getCumulativeIssuanceFraction, SafeMath.sub_of_le h, SafeMath.sub_of_le hpow,
    Revert.assert, Revert.require, if_pos hfraction, pure_bind]
  rfl

/-- **Step lemma.**  After deployment, a call that finds at most the curve's total recorded
records the curve's total and issues the difference. -/
theorem issueZERO_eq (h : ci.deploymentTime ≤ timestamp)
    (hissued : ci.totalZEROIssued ≤ latestTotalZEROIssued ci timestamp) :
    issueZERO ci timestamp =
      .ok ({ ci with totalZEROIssued := latestTotalZEROIssued ci timestamp },
        latestTotalZEROIssued ci timestamp - ci.totalZEROIssued) := by
  rw [issueZERO, getCumulativeIssuanceFraction_eq ci timestamp h, Revert.ok_bind]
  dsimp only
  unfold latestTotalZEROIssued at hissued ⊢
  rw [SafeMath.sub_of_le hissued, pure_bind]
  rfl

/-- The curve reads only the cap and the deployment time. -/
@[simp] theorem latestTotalZEROIssued_update (issued : ℕ) :
    latestTotalZEROIssued { ci with totalZEROIssued := issued } timestamp =
      latestTotalZEROIssued ci timestamp := rfl

@[simp] theorem latestTotalZEROIssued_deploymentTime :
    latestTotalZEROIssued ci ci.deploymentTime = 0 := by
  rw [latestTotalZEROIssued, Nat.sub_self, Nat.zero_div, decPow_zero, Nat.sub_self, Nat.mul_zero,
    Nat.zero_div]

theorem latestTotalZEROIssued_le : latestTotalZEROIssued ci timestamp ≤ ci.ZEROSupplyCap :=
  FixedPoint.mul_div_le_self DECIMAL_PRECISION_pos (Nat.sub_le _ _)

/-- The curve never falls: later, at least as many whole minutes have passed, and the power of
the factor is at most what it was. -/
theorem latestTotalZEROIssued_mono {timestamp timestamp' : ℕ} (h : timestamp ≤ timestamp') :
    latestTotalZEROIssued ci timestamp ≤ latestTotalZEROIssued ci timestamp' := by
  have hminutes : (timestamp - ci.deploymentTime) / SECONDS_IN_ONE_MINUTE ≤
      (timestamp' - ci.deploymentTime) / SECONDS_IN_ONE_MINUTE :=
    Nat.div_le_div_right (Nat.sub_le_sub_right h _)
  have hpow := decPow_antitone ISSUANCE_FACTOR_le hminutes
  unfold latestTotalZEROIssued
  apply Nat.div_le_div_right
  apply Nat.mul_le_mul_left
  exact Nat.sub_le_sub_left hpow _

/-- A sequence of `issueZERO` calls at the given timestamps: the storage after the last call and
what each call returned.  The first revert ends the sequence. -/
def issueZEROs : CommunityIssuance → List ℕ → Except String (CommunityIssuance × List ℕ)
  | pot, [] => pure (pot, [])
  | pot, timestamp :: timestamps => do
    let (pot, issuance) ← issueZERO pot timestamp
    let (pot, issuances) ← issueZEROs pot timestamps
    pure (pot, issuance :: issuances)

/-- **Run lemma.**  From a pot that records the curve's total at `timestamp`, calls at times that
never go back all succeed; the pot ends with the curve's total at the last of them, and what the
calls returned adds up to what was issued since `timestamp`.  The induction is on the calls, with
"the recorded total is the curve's at the last call" as its invariant. -/
theorem issueZEROs_eq : ∀ {ci : CommunityIssuance} {timestamp : ℕ} {timestamps : List ℕ},
    ci.deploymentTime ≤ timestamp → ci.totalZEROIssued = latestTotalZEROIssued ci timestamp →
    List.IsChain (· ≤ ·) (timestamp :: timestamps) →
    ∃ ci' issuances, issueZEROs ci timestamps = .ok (ci', issuances) ∧
      ci' = { ci with totalZEROIssued := latestTotalZEROIssued ci (timestamps.getLastD timestamp) } ∧
      ci.totalZEROIssued + issuances.sum = ci'.totalZEROIssued
  | ci, timestamp, [], _, hcurve, _ => by
      refine ⟨ci, [], rfl, ?_, ?_⟩
      · rw [List.getLastD_nil, ← hcurve]
      · rw [List.sum_nil, Nat.add_zero]
  | ci, timestamp, next :: timestamps, hdeployed, hcurve, hsorted => by
      rw [List.isChain_cons_cons] at hsorted
      obtain ⟨hnext, hrest⟩ := hsorted
      have hdeployed' : ci.deploymentTime ≤ next := Nat.le_trans hdeployed hnext
      -- the curve has not fallen since `timestamp`, so the call does not underflow
      have hissued : ci.totalZEROIssued ≤ latestTotalZEROIssued ci next :=
        hcurve ▸ latestTotalZEROIssued_mono ci hnext
      obtain ⟨ci', issuances, hrun, hci', hsum⟩ :=
        @issueZEROs_eq { ci with totalZEROIssued := latestTotalZEROIssued ci next } next timestamps
          hdeployed' (latestTotalZEROIssued_update ci next _).symm hrest
      refine ⟨ci', (latestTotalZEROIssued ci next - ci.totalZEROIssued) :: issuances, ?_, ?_, ?_⟩
      · rw [issueZEROs, issueZERO_eq ci next hdeployed' hissued, Revert.ok_bind]
        dsimp only
        rw [hrun, Revert.ok_bind]
        rfl
      · rw [hci', List.getLastD_cons, latestTotalZEROIssued_update]
        rfl
      · rw [List.sum_cons]
        dsimp only at hsum
        omega

/-- Once funded, the pot follows the curve: calls at times that never go back do not revert, in
particular none finds less to issue than was recorded; what they return adds up to the total
recorded, and that total is the curve's at the last call, at most the cap.  Behind it, the
decimal power never grows with the exponent, for every base at most one. -/
theorem issueZERO_follows_curve {ci₀ ci : CommunityIssuance} {zero zero' : ZEROToken}
    {timestamp ZEROamount : ℕ} {zeroTokenAddress self fundingWalletAddress account : Address}
    (hunissued : ci₀.totalZEROIssued = 0)
    (hfund : receiveZero ci₀ timestamp zero zeroTokenAddress self fundingWalletAddress account
      ZEROamount = .ok (ci, zero'))
    {timestamps : List ℕ} (hsorted : List.IsChain (· ≤ ·) (timestamp :: timestamps)) :
    (∀ base ≤ DECIMAL_PRECISION, Antitone (decPow base)) ∧
      ∃ ci' issuances, issueZEROs ci timestamps = .ok (ci', issuances) ∧
        issuances.sum = ci'.totalZEROIssued ∧
        ci'.totalZEROIssued = ci.ZEROSupplyCap * (DECIMAL_PRECISION - decPow ISSUANCE_FACTOR
          ((timestamps.getLastD timestamp - ci.deploymentTime) / SECONDS_IN_ONE_MINUTE)) /
          DECIMAL_PRECISION ∧
        ci'.totalZEROIssued ≤ ci.ZEROSupplyCap := by
  have hpot := receiveZero_pot ci₀ timestamp hfund
  have hdeployed : ci.deploymentTime = timestamp := by
    rw [hpot]
  have hzero : ci.totalZEROIssued = 0 := by
    rw [hpot]
    exact hunissued
  -- just funded, the pot records the curve's total at deployment, which is nothing
  have hcurve : ci.totalZEROIssued = latestTotalZEROIssued ci timestamp := by
    rw [hzero, ← hdeployed, latestTotalZEROIssued_deploymentTime]
  obtain ⟨ci', issuances, hrun, hci', hsum⟩ := issueZEROs_eq hdeployed.le hcurve hsorted
  refine ⟨fun base hbase => decPow_antitone hbase, ci', issuances, hrun, ?_, ?_, ?_⟩
  · rw [← hsum, hzero, Nat.zero_add]
  · rw [hci']
    rfl
  · rw [hci']
    exact latestTotalZEROIssued_le ci _

theorem issueZERO_follows_curve_sample :
    ∃ zero' ci' issuances,
      receiveZero init 1000 ⟨fun _ _ => 10 ^ 24⟩ 1 2 3 3 (10 ^ 24) =
        .ok (⟨10 ^ 24, 0, 1000⟩, zero') ∧
      issueZEROs ⟨10 ^ 24, 0, 1000⟩ [1060, 31537000] = .ok (ci', issuances) ∧
      issuances.sum = ci'.totalZEROIssued ∧ ci'.totalZEROIssued ≤ 10 ^ 24 := by
  have hfund : receiveZero init 1000 ⟨fun _ _ => 10 ^ 24⟩ 1 2 3 3 (10 ^ 24) =
      .ok (⟨10 ^ 24, 0, 1000⟩,
        ⟨Function.update (fun _ _ => 10 ^ 24) 3 (Function.update (fun _ => 10 ^ 24) 2 0)⟩) := rfl
  obtain ⟨-, ci', issuances, hrun, hsum, -, hcap⟩ :=
    issueZERO_follows_curve rfl hfund
      (show List.IsChain (· ≤ ·) [1000, 1060, 31537000] by decide)
  exact ⟨_, ci', issuances, hfund, hrun, hsum, hcap⟩

end CommunityIssuance

end ZeroProtocol
