import ZeroProtocol.System.State
import Mathlib.Algebra.Order.BigOperators.Group.Finset
import Mathlib.Algebra.BigOperators.Ring.Finset

/-!
# `ZEROStaking`: fees for ZERO stakers

ZERO holders stake ZERO and earn the share of the borrowing and redemption fees that the
`FeeDistributor` passes on.  For each of ether and ZUSD the contract keeps a running sum `F`
of the fees per unit staked, and for each staker a snapshot of both sums, taken when its
stake last changed: a staker is owed its stake times the growth of `F` since its snapshot.
Each change of stake pays out what is owed and takes new snapshots; a fee raises `F` by the
fee per unit staked, rounded down, or not at all while nothing is staked.

`Solvent` is the invariant behind this: the total is the sum of the stakes, and what the
stakers are owed before rounding, `∑ stake * (F - snapshot)`, is at most the contract's
balance in units of `DECIMAL_PRECISION`.  A fee adds at most itself to what is owed
(`owed_add_fee`), and a payout takes from the balance at most what it settles
(`owed_le_of_settle`).  Every run keeps the invariant, so the pending gains of all stakers fit
in the balances and every `unstake` pays its staker its gains and returns the amount asked,
capped at the stake (`staking_solvent`).  The invariant also bounds each product
`stake * (F - snapshot)` that a pending gain takes by the balance times `DECIMAL_PRECISION`, so
no gain overflows while that fits in `uint256`.  An unstake also needs the staker to take the
ether it is sent (`StakingConfig.acceptsETH`).

`ZEROToken._transfer` returns before moving anything, so staking moves no ZERO; of the ZERO
token only the recipient check of `transfer` is left.
-/

namespace ZeroProtocol

open LiquityMath

namespace ZUSDToken

/-- Source `_requireValidRecipient` of `ZUSDToken`. -/
def requireValidRecipient (self recipient : Address) : Except String Unit :=
  Revert.require (recipient ≠ 0 ∧ recipient ≠ self)
    "ZUSD: Cannot transfer tokens directly to the ZUSD token contract or the zero address"

/-- Source `transfer`, the external one, called by `sender`: the recipient check, then
`_transfer`. -/
def externalTransfer (l : Ledger Address) (self sender recipient : Address) (amount : ℕ) :
    Except String (Ledger Address) := do
  requireValidRecipient self recipient
  transfer l sender recipient amount

end ZUSDToken

namespace ZEROStaking

/-- A staker's snapshots of the running sums, taken when its stake last changed. -/
structure Snapshot where
  F_ETH_Snapshot : ℕ
  F_ZUSD_Snapshot : ℕ
  deriving DecidableEq, Repr

/-- The storage of `ZEROStaking`. -/
structure ZEROStakingStorage where
  stakes : Address → ℕ
  totalZEROStaked : ℕ
  F_ETH : ℕ
  F_ZUSD : ℕ
  snapshots : Address → Snapshot

/-- The storage right after deployment. -/
def ZEROStakingStorage.init : ZEROStakingStorage :=
  ⟨fun _ => 0, 0, 0, 0, fun _ => ⟨0, 0⟩⟩

/-- The addresses `setAddresses` fixes, of distinct deployed contracts, and which accounts take
the ether that a call sends them. -/
structure StakingConfig where
  zeroStaking : Address
  feeDistributor : Address
  zusdToken : Address
  zeroToken : Address
  /-- Whether the code at an address takes the ether a call sends it. -/
  acceptsETH : Address → Bool
  zeroStaking_ne_zero : zeroStaking ≠ 0
  feeDistributor_ne : feeDistributor ≠ zeroStaking

/-- What the staking calls touch: the contract's storage, the ZUSD ledger and the ether the
contract holds. -/
structure StakingState where
  staking : ZEROStakingStorage
  zusdToken : Ledger Address
  ETH : ℕ

/-- A freshly deployed contract, whatever the ZUSD balances and its ether. -/
def StakingState.init (zusdToken : Ledger Address) (ETH : ℕ) : StakingState :=
  ⟨ZEROStakingStorage.init, zusdToken, ETH⟩

section Views

variable (s : ZEROStakingStorage)

/-- A stake's gain since its snapshot of a running sum `F`: the body that
`_getPendingETHGain` and `_getPendingZUSDGain` share. -/
def pendingGain (stake F snapshot : ℕ) : Except String ℕ := do
  let growth ← SafeMath.sub F snapshot
  let gain ← SafeMath.mul stake growth
  pure (gain / DECIMAL_PRECISION)

/-- Source `_getPendingETHGain`. -/
def getPendingETHGain (user : Address) : Except String ℕ :=
  pendingGain (s.stakes user) s.F_ETH (s.snapshots user).F_ETH_Snapshot

/-- Source `_getPendingZUSDGain`. -/
def getPendingZUSDGain (user : Address) : Except String ℕ :=
  pendingGain (s.stakes user) s.F_ZUSD (s.snapshots user).F_ZUSD_Snapshot

/-- The fee per unit staked that a fee adds to its running sum: the body that `increaseF_ETH`
and `increaseF_ZUSD` share.  The division cannot fail, as it is guarded. -/
def feePerZEROStaked (fee : ℕ) : ℕ :=
  if s.totalZEROStaked > 0 then fee * DECIMAL_PRECISION / s.totalZEROStaked else 0

end Views

section Updates

variable (cfg : StakingConfig) (s : ZEROStakingStorage)

/-- Source `_updateUserSnapshots`. -/
def updateUserSnapshots (user : Address) : ZEROStakingStorage :=
  { s with snapshots := Function.update s.snapshots user ⟨s.F_ETH, s.F_ZUSD⟩ }

/-- Source `_requireCallerIsFeeDistributor`. -/
def requireCallerIsFeeDistributor (caller : Address) : Except String Unit :=
  Revert.require (caller = cfg.feeDistributor) "ZEROStaking: caller is not FeeDistributor"

/-- Source `_requireUserHasStake`. -/
def requireUserHasStake (currentStake : ℕ) : Except String Unit :=
  Revert.require (currentStake > 0) "ZEROStaking: User must have a non-zero stake"

/-- Source `_requireNonZeroAmount`. -/
def requireNonZeroAmount (amount : ℕ) : Except String Unit :=
  Revert.require (amount > 0) "ZEROStaking: Amount must be non-zero"

/-- Source `increaseF_ETH` called by `caller`. -/
def increaseF_ETH (caller : Address) (ETHFee : ℕ) : Except String ZEROStakingStorage := do
  requireCallerIsFeeDistributor cfg caller
  pure { s with F_ETH := s.F_ETH + feePerZEROStaked s ETHFee }

/-- Source `increaseF_ZUSD` called by `caller`. -/
def increaseF_ZUSD (caller : Address) (ZUSDFee : ℕ) : Except String ZEROStakingStorage := do
  requireCallerIsFeeDistributor cfg caller
  pure { s with F_ZUSD := s.F_ZUSD + feePerZEROStaked s ZUSDFee }

end Updates

section Calls

variable (cfg : StakingConfig) (st : StakingState)

/-- Source `_sendETHGainToUser` to `sender`: the call fails when the contract holds less ether
than it sends or when the sender's code refuses the ether. -/
def sendETHGainToUser (sender : Address) (ETHGain : ℕ) : Except String ℕ := do
  Revert.require (ETHGain ≤ st.ETH ∧ cfg.acceptsETH sender = true)
    "ZEROStaking: Failed to send accumulated ETHGain"
  pure (st.ETH - ETHGain)

/-- The payout that ends `stake` and `unstake`: the ZUSD gain by `zusdToken.transfer`, whose
`require` cannot fail on a transfer that returns, then the ether gain. -/
def sendGains (sender : Address) (ZUSDGain ETHGain : ℕ) :
    Except String (Ledger Address × ℕ) := do
  let zusdToken ←
    ZUSDToken.externalTransfer st.zusdToken cfg.zusdToken cfg.zeroStaking sender ZUSDGain
  let ETH ← sendETHGainToUser cfg st sender ETHGain
  pure (zusdToken, ETH)

/-- Source `stake` called by `sender`: pay out the gains of a stake there is, then add to it. -/
def stake (sender : Address) (ZEROamount : ℕ) : Except String StakingState := do
  requireNonZeroAmount ZEROamount
  let s := st.staking
  let currentStake := s.stakes sender
  -- Grab any accumulated ETH and ZUSD gains from the current stake
  let (ETHGain, ZUSDGain) ←
    if currentStake ≠ 0 then do
      let ETHGain ← getPendingETHGain s sender
      let ZUSDGain ← getPendingZUSDGain s sender
      pure (ETHGain, ZUSDGain)
    else pure (0, 0)
  let s := updateUserSnapshots s sender
  let s := { s with
    stakes := Function.update s.stakes sender (currentStake + ZEROamount)
    totalZEROStaked := s.totalZEROStaked + ZEROamount }
  -- `sendToZEROStaking` moves no ZERO
  if currentStake ≠ 0 then
    let (zusdToken, ETH) ← sendGains cfg st sender ZUSDGain ETHGain
    pure ⟨s, zusdToken, ETH⟩
  else pure { st with staking := s }

/-- Source `unstake` called by `sender`: pay out the gains, and take back up to `ZEROamount`
of the stake. -/
def unstake (sender : Address) (ZEROamount : ℕ) : Except String StakingState := do
  let s := st.staking
  let currentStake := s.stakes sender
  requireUserHasStake currentStake
  -- Grab any accumulated ETH and ZUSD gains from the current stake
  let ETHGain ← getPendingETHGain s sender
  let ZUSDGain ← getPendingZUSDGain s sender
  let s := updateUserSnapshots s sender
  let s ←
    if ZEROamount > 0 then do
      let ZEROToWithdraw := LiquityMath.min ZEROamount currentStake
      let newStake ← SafeMath.sub currentStake ZEROToWithdraw
      let totalZEROStaked ← SafeMath.sub s.totalZEROStaked ZEROToWithdraw
      -- `zeroToken.transfer` checks the recipient and moves nothing
      ZEROToken.transfer cfg.zeroToken sender
      pure { s with
        stakes := Function.update s.stakes sender newStake
        totalZEROStaked := totalZEROStaked }
    else pure s
  let (zusdToken, ETH) ← sendGains cfg st sender ZUSDGain ETHGain
  pure ⟨s, zusdToken, ETH⟩

/-- The stakers' part of `FeeDistributor._distributeRBTC`: a non-zero fee is sent to the
contract, whose `receive` takes it from the fee distributor, which then calls
`increaseF_ETH`. -/
def distributeRBTC (ETHFee : ℕ) : Except String StakingState := do
  if ETHFee = 0 then return st
  requireCallerIsFeeDistributor cfg cfg.feeDistributor
  let s ← increaseF_ETH cfg st.staking cfg.feeDistributor ETHFee
  pure { st with staking := s, ETH := st.ETH + ETHFee }

/-- The stakers' part of `FeeDistributor._distributeZUSD`: a non-zero fee is transferred to
the contract, and the fee distributor calls `increaseF_ZUSD`. -/
def distributeZUSD (ZUSDFee : ℕ) : Except String StakingState := do
  if ZUSDFee = 0 then return st
  let zusdToken ← ZUSDToken.externalTransfer st.zusdToken cfg.zusdToken cfg.feeDistributor
    cfg.zeroStaking ZUSDFee
  let s ← increaseF_ZUSD cfg st.staking cfg.feeDistributor ZUSDFee
  pure { st with staking := s, zusdToken := zusdToken }

end Calls

/-- The calls that change the staking contract's books: the stakers' own, and the fee
distributor's transfer of a fee followed by its `increaseF_*` call. -/
inductive StakingOp
  | stake (sender : Address) (ZEROamount : ℕ)
  | unstake (sender : Address) (ZEROamount : ℕ)
  | increaseF_ETH (ETHFee : ℕ)
  | increaseF_ZUSD (ZUSDFee : ℕ)
  deriving DecidableEq, Repr

/-- What one call does. -/
def StakingOp.run (cfg : StakingConfig) (st : StakingState) : StakingOp → Except String StakingState
  | .stake sender ZEROamount => ZEROStaking.stake cfg st sender ZEROamount
  | .unstake sender ZEROamount => ZEROStaking.unstake cfg st sender ZEROamount
  | .increaseF_ETH ETHFee => distributeRBTC cfg st ETHFee
  | .increaseF_ZUSD ZUSDFee => distributeZUSD cfg st ZUSDFee

/-- One successful call, in any order with any others. -/
def Step (cfg : StakingConfig) (st st' : StakingState) : Prop :=
  ∃ op : StakingOp, op.run cfg st = .ok st'

/-! ## What the stakers are owed -/

/-- Changing one summand changes a sum by the difference. -/
theorem sum_add_of_eq_off {α : Type*} [DecidableEq α] {S : Finset α} {g g' : α → ℕ} {u : α}
    (hu : u ∈ S) (hoff : ∀ v ≠ u, g' v = g v) :
    ∑ v ∈ S, g' v + g u = ∑ v ∈ S, g v + g' u := by
  have hrest : ∑ v ∈ S.erase u, g' v = ∑ v ∈ S.erase u, g v :=
    Finset.sum_congr rfl fun v hv => hoff v (Finset.ne_of_mem_erase hv)
  rw [← Finset.add_sum_erase S g' hu, ← Finset.add_sum_erase S g hu, hrest]
  omega

/-- What the stakers in `S` are owed of a running sum `F`, before rounding, given their
snapshots of it. -/
def owed (stakes : Address → ℕ) (F : ℕ) (snapshot : Address → ℕ) (S : Finset Address) : ℕ :=
  ∑ u ∈ S, stakes u * (F - snapshot u)

/-- Settling one staker, whose snapshot moves to `F` while only its stake changes, lowers what
is owed by exactly what that staker was owed. -/
theorem owed_settle {stakes stakes' snapshot snapshot' : Address → ℕ} {F : ℕ} {u : Address}
    {S : Finset Address} (hu : u ∈ S) (hstakes : ∀ v ≠ u, stakes' v = stakes v)
    (hsnap : ∀ v ≠ u, snapshot' v = snapshot v) (hsettled : snapshot' u = F) :
    owed stakes' F snapshot' S + stakes u * (F - snapshot u) = owed stakes F snapshot S := by
  unfold owed
  have h : ∑ v ∈ S, stakes' v * (F - snapshot' v) + stakes u * (F - snapshot u) =
      ∑ v ∈ S, stakes v * (F - snapshot v) + stakes' u * (F - snapshot' u) :=
    @sum_add_of_eq_off _ _ S (fun v => stakes v * (F - snapshot v))
      (fun v => stakes' v * (F - snapshot' v)) u hu fun v hv => by rw [hstakes v hv, hsnap v hv]
  rwa [hsettled, Nat.sub_self, Nat.mul_zero, Nat.add_zero] at h

/-- A payout keeps what is owed within the balance: if what was owed fit in `bal`, the payout
`gain` is at most what it settles, `t`, and the balance after is at least `bal - gain`, what
is owed after fits in the balance after. -/
theorem owed_le_of_settle {owedBefore owedAfter t gain bal bal' : ℕ}
    (hbefore : owedBefore ≤ bal * DECIMAL_PRECISION) (hsettle : owedAfter + t = owedBefore)
    (hgain : gain * DECIMAL_PRECISION ≤ t) (hbal : bal - gain ≤ bal') :
    owedAfter ≤ bal' * DECIMAL_PRECISION :=
  calc owedAfter ≤ bal * DECIMAL_PRECISION - gain * DECIMAL_PRECISION := by omega
    _ = (bal - gain) * DECIMAL_PRECISION := (Nat.sub_mul _ _ _).symm
    _ ≤ bal' * DECIMAL_PRECISION := Nat.mul_le_mul_right _ hbal

/-- Raising `F` by `δ` raises what is owed by `δ` times the stakes. -/
theorem owed_add {stakes snapshot : Address → ℕ} {F δ : ℕ} {S : Finset Address}
    (hsnap : ∀ u, snapshot u ≤ F) :
    owed stakes (F + δ) snapshot S = owed stakes F snapshot S + δ * ∑ u ∈ S, stakes u := by
  unfold owed
  rw [Finset.mul_sum, ← Finset.sum_add_distrib]
  refine Finset.sum_congr rfl fun u _ => ?_
  have hgrowth : F + δ - snapshot u = (F - snapshot u) + δ := by
    have := hsnap u
    omega
  rw [hgrowth, Nat.mul_add, Nat.mul_comm δ]

/-- The fee per unit staked, times the total staked, is at most the fee. -/
theorem feePerZEROStaked_mul_le (s : ZEROStakingStorage) (fee : ℕ) :
    feePerZEROStaked s fee * s.totalZEROStaked ≤ fee * DECIMAL_PRECISION := by
  unfold feePerZEROStaked
  split_ifs
  · exact Nat.div_mul_le_self _ _
  · simp

/-- So a fee adds at most itself, in units of `DECIMAL_PRECISION`, to what is owed. -/
theorem owed_add_fee {s : ZEROStakingStorage} {snapshot : Address → ℕ} {S : Finset Address}
    {F fee bal : ℕ} (hsnap : ∀ u, snapshot u ≤ F)
    (htotal : s.totalZEROStaked = ∑ u ∈ S, s.stakes u)
    (howed : owed s.stakes F snapshot S ≤ bal * DECIMAL_PRECISION) :
    owed s.stakes (F + feePerZEROStaked s fee) snapshot S ≤ (bal + fee) * DECIMAL_PRECISION := by
  rw [owed_add hsnap, ← htotal, Nat.add_mul]
  have := feePerZEROStaked_mul_le s fee
  omega

/-- Gains that each take at most what their staker is owed add up to at most a balance that
covers what is owed, over any set of users. -/
theorem sum_gains_le {stakes snapshot gain : Address → ℕ} {F bal : ℕ} {S users : Finset Address}
    (hzero : ∀ u ∉ S, stakes u = 0) (howed : owed stakes F snapshot S ≤ bal * DECIMAL_PRECISION)
    (hgain : ∀ u ∈ users, gain u * DECIMAL_PRECISION ≤ stakes u * (F - snapshot u)) :
    ∑ u ∈ users, gain u ≤ bal := by
  refine Nat.le_of_mul_le_mul_right ?_ DECIMAL_PRECISION_pos
  calc (∑ u ∈ users, gain u) * DECIMAL_PRECISION
      = ∑ u ∈ users, gain u * DECIMAL_PRECISION := Finset.sum_mul _ _ _
    _ ≤ ∑ u ∈ users, stakes u * (F - snapshot u) := Finset.sum_le_sum hgain
    _ ≤ ∑ u ∈ S, stakes u * (F - snapshot u) := by
        -- only stakers are owed anything
        refine Finset.sum_le_sum_of_ne_zero fun u _ hne => ?_
        by_contra hu
        exact hne (by rw [hzero u hu, Nat.zero_mul])
    _ ≤ bal * DECIMAL_PRECISION := howed

/-- One staker's part of what is owed is at most the whole. -/
theorem le_owed {stakes snapshot : Address → ℕ} {F : ℕ} {S : Finset Address}
    (hzero : ∀ u ∉ S, stakes u = 0) (u : Address) :
    stakes u * (F - snapshot u) ≤ owed stakes F snapshot S := by
  by_cases hu : u ∈ S
  · exact Finset.single_le_sum (f := fun v => stakes v * (F - snapshot v))
      (fun _ _ => Nat.zero_le _) hu
  · rw [hzero u hu, Nat.zero_mul]
    exact Nat.zero_le _

/-! ## The calls -/

theorem pendingGain_eq {stake F snapshot : ℕ} (h : snapshot ≤ F)
    (hfit : stake * (F - snapshot) ≤ MAX_UINT256) :
    pendingGain stake F snapshot = .ok (stake * (F - snapshot) / DECIMAL_PRECISION) := by
  rw [pendingGain, SafeMath.sub_of_le h, pure_bind, SafeMath.mul_of_le hfit]
  rfl

theorem pendingGain_mul_le {stake F snapshot gain : ℕ}
    (h : pendingGain stake F snapshot = .ok gain) :
    gain * DECIMAL_PRECISION ≤ stake * (F - snapshot) := by
  simp only [pendingGain, Revert.bind_eq_ok, SafeMath.sub_eq_ok, SafeMath.mul_eq_ok,
    Revert.pure_eq_ok] at h
  obtain ⟨_, ⟨-, rfl⟩, _, ⟨-, rfl⟩, rfl⟩ := h
  exact Nat.div_mul_le_self _ _

variable {cfg : StakingConfig} {st st' : StakingState}

/-- The payout moves the ZUSD gain from the contract to the sender and sends the ether gain, which
the contract's ether covers. -/
theorem sendGains_eq_ok {sender : Address} {ZUSDGain ETHGain : ℕ} {zusdToken : Ledger Address}
    {ETH : ℕ} (h : sendGains cfg st sender ZUSDGain ETHGain = .ok (zusdToken, ETH)) :
    Ledger.transfer st.zusdToken cfg.zeroStaking sender ZUSDGain = .ok zusdToken ∧
      ETHGain ≤ st.ETH ∧ ETH = st.ETH - ETHGain := by
  simp only [sendGains, Revert.bind_eq_ok, Revert.pure_eq_ok, Prod.mk.injEq] at h
  obtain ⟨l, hl, ETH₁, hETH, rfl, rfl⟩ := h
  simp only [ZUSDToken.externalTransfer, ZUSDToken.requireValidRecipient,
    Revert.require_bind_eq_ok, ZUSDToken.transfer_eq_ok] at hl
  simp only [sendETHGainToUser, Revert.require_bind_eq_ok, Revert.pure_eq_ok] at hETH
  exact ⟨hl.2.2.2, hETH.1.1, hETH.2.symm⟩

/-- The payout leaves the contract at least its balances less the gains. -/
theorem sendGains_spec {sender : Address} {ZUSDGain ETHGain : ℕ} {zusdToken : Ledger Address}
    {ETH : ℕ} (h : sendGains cfg st sender ZUSDGain ETHGain = .ok (zusdToken, ETH)) :
    st.zusdToken.balances cfg.zeroStaking - ZUSDGain ≤ zusdToken.balances cfg.zeroStaking ∧
      st.ETH - ETHGain ≤ ETH := by
  obtain ⟨htransfer, -, rfl⟩ := sendGains_eq_ok h
  exact ⟨(Ledger.transfer_balances_sender_ge htransfer).2, le_refl _⟩

/-- What a successful `unstake` does: it computes the sender's pending gains and pays them, takes
the sender's snapshots of the running sums, and lowers the sender's stake and the total by what
is withdrawn, the amount asked capped at the stake. -/
theorem unstake_eq_ok {sender : Address} {ZEROamount : ℕ}
    (hrun : ZEROStaking.unstake cfg st sender ZEROamount = .ok st') :
    0 < st.staking.stakes sender ∧
      ∃ ETHGain ZUSDGain, getPendingETHGain st.staking sender = .ok ETHGain ∧
        getPendingZUSDGain st.staking sender = .ok ZUSDGain ∧
        sendGains cfg st sender ZUSDGain ETHGain = .ok (st'.zusdToken, st'.ETH) ∧
        st'.staking.F_ETH = st.staking.F_ETH ∧ st'.staking.F_ZUSD = st.staking.F_ZUSD ∧
        st'.staking.snapshots =
          Function.update st.staking.snapshots sender ⟨st.staking.F_ETH, st.staking.F_ZUSD⟩ ∧
        (∀ v ≠ sender, st'.staking.stakes v = st.staking.stakes v) ∧
        st'.staking.stakes sender + LiquityMath.min ZEROamount (st.staking.stakes sender) =
          st.staking.stakes sender ∧
        st'.staking.totalZEROStaked + LiquityMath.min ZEROamount (st.staking.stakes sender) =
          st.staking.totalZEROStaked := by
  simp only [ZEROStaking.unstake, requireUserHasStake, Revert.require_bind_eq_ok] at hrun
  obtain ⟨hcur, hrun⟩ := hrun
  obtain ⟨ETHGain, hETHGain, hrun⟩ := Revert.bind_eq_ok.1 hrun
  obtain ⟨ZUSDGain, hZUSDGain, hrun⟩ := Revert.bind_eq_ok.1 hrun
  refine ⟨hcur, ETHGain, ZUSDGain, hETHGain, hZUSDGain, ?_⟩
  -- with an amount, the stake and the total drop by what is withdrawn
  split at hrun
  · simp only [Revert.bind_eq_ok, Revert.pure_eq_ok, SafeMath.sub_eq_ok, exists_eq_left']
      at hrun
    obtain ⟨_, ⟨hw, rfl⟩, _, ⟨hwt, rfl⟩, -, -, ⟨zusdToken, ETH⟩, hsend, rfl⟩ := hrun
    refine ⟨hsend, rfl, rfl, rfl, fun v hv => Function.update_of_ne hv _ _, ?_, ?_⟩
    · simp only [Function.update_self]
      omega
    · simp only [updateUserSnapshots] at hwt ⊢
      omega
  · -- with no amount, nothing is withdrawn
    rename_i hamt
    have hzero : ZEROamount = 0 := by omega
    simp only [Revert.bind_eq_ok, Revert.pure_eq_ok, exists_eq_left'] at hrun
    obtain ⟨⟨zusdToken, ETH⟩, hsend, rfl⟩ := hrun
    have hmin : LiquityMath.min ZEROamount (st.staking.stakes sender) = 0 := by
      rw [hzero]
      exact Nat.eq_zero_of_le_zero (LiquityMath.min_le_left _ _)
    rw [hmin]
    exact ⟨hsend, rfl, rfl, rfl, fun _ _ => rfl, rfl, rfl⟩

/-! ## The invariant -/

/-- The staking invariant, for a set `S` of addresses outside which no one has a stake. -/
structure Solvent (cfg : StakingConfig) (st : StakingState) (S : Finset Address) : Prop where
  stakes_eq_zero : ∀ u ∉ S, st.staking.stakes u = 0
  total : st.staking.totalZEROStaked = ∑ u ∈ S, st.staking.stakes u
  snapshot_ETH_le : ∀ u, (st.staking.snapshots u).F_ETH_Snapshot ≤ st.staking.F_ETH
  snapshot_ZUSD_le : ∀ u, (st.staking.snapshots u).F_ZUSD_Snapshot ≤ st.staking.F_ZUSD
  owed_ETH : owed st.staking.stakes st.staking.F_ETH
    (fun u => (st.staking.snapshots u).F_ETH_Snapshot) S ≤ st.ETH * DECIMAL_PRECISION
  owed_ZUSD : owed st.staking.stakes st.staking.F_ZUSD
    (fun u => (st.staking.snapshots u).F_ZUSD_Snapshot) S ≤
      st.zusdToken.balances cfg.zeroStaking * DECIMAL_PRECISION

namespace Solvent

variable {S : Finset Address}

theorem init (zusdToken : Ledger Address) (ETH : ℕ) :
    Solvent cfg (StakingState.init zusdToken ETH) ∅ where
  stakes_eq_zero _ _ := rfl
  total := rfl
  snapshot_ETH_le _ := le_refl _
  snapshot_ZUSD_le _ := le_refl _
  owed_ETH := by simp [owed]
  owed_ZUSD := by simp [owed]

/-- Adding an address with no stake to `S` keeps the invariant. -/
theorem insert (h : Solvent cfg st S) (u : Address) : Solvent cfg st (insert u S) := by
  -- outside `S` the stake, and so every summand at `u`, is zero
  have hzero : u ∉ S → st.staking.stakes u = 0 := h.stakes_eq_zero u
  refine ⟨fun v hv => h.stakes_eq_zero v (fun hvS => hv (Finset.mem_insert_of_mem hvS)), ?_,
    h.snapshot_ETH_le, h.snapshot_ZUSD_le, ?_, ?_⟩
  · rw [Finset.sum_insert_of_eq_zero_if_notMem hzero]
    exact h.total
  · unfold owed
    rw [Finset.sum_insert_of_eq_zero_if_notMem fun hu => by rw [hzero hu, Nat.zero_mul]]
    exact h.owed_ETH
  · unfold owed
    rw [Finset.sum_insert_of_eq_zero_if_notMem fun hu => by rw [hzero hu, Nat.zero_mul]]
    exact h.owed_ZUSD

/-- **Payout rule.**  A call that settles the staker `u` keeps the invariant: it moves `u`'s
snapshots to the running sums and changes only `u`'s stake, with the total, and it pays `u`
at most what `u` is owed of each sum, out of the contract's balances. -/
theorem settle (h : Solvent cfg st S) {u : Address} {ETHGain ZUSDGain : ℕ} (hu : u ∈ S)
    (hF_ETH : st'.staking.F_ETH = st.staking.F_ETH)
    (hF_ZUSD : st'.staking.F_ZUSD = st.staking.F_ZUSD)
    (hsnap : st'.staking.snapshots =
      Function.update st.staking.snapshots u ⟨st.staking.F_ETH, st.staking.F_ZUSD⟩)
    (hstakes : ∀ v ≠ u, st'.staking.stakes v = st.staking.stakes v)
    (htotal : st'.staking.totalZEROStaked + st.staking.stakes u =
      st.staking.totalZEROStaked + st'.staking.stakes u)
    (hETHGain : ETHGain * DECIMAL_PRECISION ≤
      st.staking.stakes u * (st.staking.F_ETH - (st.staking.snapshots u).F_ETH_Snapshot))
    (hZUSDGain : ZUSDGain * DECIMAL_PRECISION ≤
      st.staking.stakes u * (st.staking.F_ZUSD - (st.staking.snapshots u).F_ZUSD_Snapshot))
    (hETH : st.ETH - ETHGain ≤ st'.ETH)
    (hZUSD : st.zusdToken.balances cfg.zeroStaking - ZUSDGain ≤
      st'.zusdToken.balances cfg.zeroStaking) :
    Solvent cfg st' S where
  stakes_eq_zero v hv := by
    rw [hstakes v (fun hvu => hv (hvu ▸ hu))]
    exact h.stakes_eq_zero v hv
  total := by
    have hsum := sum_add_of_eq_off hu hstakes
    have := h.total
    omega
  snapshot_ETH_le v := by
    rw [hsnap, hF_ETH, Function.update_apply]
    split_ifs
    · exact le_refl _
    · exact h.snapshot_ETH_le v
  snapshot_ZUSD_le v := by
    rw [hsnap, hF_ZUSD, Function.update_apply]
    split_ifs
    · exact le_refl _
    · exact h.snapshot_ZUSD_le v
  owed_ETH := by
    rw [hF_ETH]
    refine owed_le_of_settle h.owed_ETH (owed_settle hu hstakes (fun v hv => ?_) ?_) hETHGain hETH
    · rw [hsnap, Function.update_of_ne hv]
    · rw [hsnap, Function.update_self]
  owed_ZUSD := by
    rw [hF_ZUSD]
    refine owed_le_of_settle h.owed_ZUSD (owed_settle hu hstakes (fun v hv => ?_) ?_) hZUSDGain
      hZUSD
    · rw [hsnap, Function.update_of_ne hv]
    · rw [hsnap, Function.update_self]

/-- `stake` settles its sender. -/
theorem stake (h : Solvent cfg st S) {sender : Address} {ZEROamount : ℕ}
    (hrun : ZEROStaking.stake cfg st sender ZEROamount = .ok st') :
    Solvent cfg st' (Insert.insert sender S) := by
  have h' := h.insert sender
  have hu : sender ∈ Insert.insert sender S := Finset.mem_insert_self _ _
  simp only [ZEROStaking.stake, requireNonZeroAmount, Revert.require_bind_eq_ok] at hrun
  obtain ⟨-, hrun⟩ := hrun
  -- whether there is a stake decides both whether gains are computed and whether they are paid
  split at hrun
  · rename_i hcur
    simp only [Revert.bind_eq_ok, Revert.pure_eq_ok, exists_eq_left'] at hrun
    obtain ⟨ETHGain, hETHGain, ZUSDGain, hZUSDGain, ⟨zusdToken, ETH⟩, hsend, rfl⟩ := hrun
    obtain ⟨hZUSD, hETH⟩ := sendGains_spec hsend
    refine h'.settle hu rfl rfl rfl (fun v hv => Function.update_of_ne hv _ _) ?_
      (pendingGain_mul_le hETHGain) (pendingGain_mul_le hZUSDGain) hETH hZUSD
    simp only [updateUserSnapshots, Function.update_self]
    omega
  · rename_i hcur
    simp only [Revert.bind_eq_ok, Revert.pure_eq_ok, exists_eq_left'] at hrun
    subst hrun
    refine h'.settle hu rfl rfl rfl (fun v hv => Function.update_of_ne hv _ _) ?_
      (by simp) (by simp) (Nat.sub_zero _).le (Nat.sub_zero _).le
    simp only [updateUserSnapshots, Function.update_self]
    omega

/-- `unstake` settles its sender. -/
theorem unstake (h : Solvent cfg st S) {sender : Address} {ZEROamount : ℕ}
    (hrun : ZEROStaking.unstake cfg st sender ZEROamount = .ok st') : Solvent cfg st' S := by
  obtain ⟨hcur, ETHGain, ZUSDGain, hETHGain, hZUSDGain, hsend, hF_ETH, hF_ZUSD, hsnap, hstakes,
    hstake, htotal⟩ := unstake_eq_ok hrun
  -- the sender has a stake, so it is one of `S`
  have hu : sender ∈ S := by
    by_contra hu
    rw [h.stakes_eq_zero sender hu] at hcur
    exact Nat.lt_irrefl 0 hcur
  obtain ⟨hZUSD, hETH⟩ := sendGains_spec hsend
  exact h.settle hu hF_ETH hF_ZUSD hsnap hstakes (by omega) (pendingGain_mul_le hETHGain)
    (pendingGain_mul_le hZUSDGain) hETH hZUSD

/-- A fee in ether raises `F_ETH` by at most itself per unit staked. -/
theorem distributeRBTC (h : Solvent cfg st S) {ETHFee : ℕ}
    (hrun : ZEROStaking.distributeRBTC cfg st ETHFee = .ok st') : Solvent cfg st' S := by
  unfold ZEROStaking.distributeRBTC at hrun
  split at hrun
  · rw [Revert.pure_eq_ok] at hrun
    exact hrun ▸ h
  · simp only [requireCallerIsFeeDistributor, increaseF_ETH, Revert.bind_eq_ok,
      Revert.pure_eq_ok] at hrun
    obtain ⟨-, -, _, ⟨-, -, rfl⟩, rfl⟩ := hrun
    exact ⟨h.stakes_eq_zero, h.total, fun u => Nat.le_add_right_of_le (h.snapshot_ETH_le u),
      h.snapshot_ZUSD_le, owed_add_fee h.snapshot_ETH_le h.total h.owed_ETH, h.owed_ZUSD⟩

/-- A fee in ZUSD raises `F_ZUSD` by at most itself per unit staked. -/
theorem distributeZUSD (h : Solvent cfg st S) {ZUSDFee : ℕ}
    (hrun : ZEROStaking.distributeZUSD cfg st ZUSDFee = .ok st') : Solvent cfg st' S := by
  unfold ZEROStaking.distributeZUSD at hrun
  split at hrun
  · rw [Revert.pure_eq_ok] at hrun
    exact hrun ▸ h
  · simp only [ZUSDToken.externalTransfer, requireCallerIsFeeDistributor, increaseF_ZUSD,
      Revert.bind_eq_ok, Revert.pure_eq_ok, ZUSDToken.transfer_eq_ok] at hrun
    obtain ⟨zusdToken, ⟨-, -, -, -, htransfer⟩, _, ⟨-, -, rfl⟩, rfl⟩ := hrun
    -- the fee distributor is not the staking contract, so the fee arrives
    have hbalance := Ledger.transfer_balances_recipient htransfer cfg.feeDistributor_ne
    refine ⟨h.stakes_eq_zero, h.total, h.snapshot_ETH_le,
      fun u => Nat.le_add_right_of_le (h.snapshot_ZUSD_le u), h.owed_ETH, ?_⟩
    rw [hbalance]
    exact owed_add_fee h.snapshot_ZUSD_le h.total h.owed_ZUSD

/-- **Step lemma.**  Every call keeps the invariant, for some set of stakers. -/
theorem step (h : Solvent cfg st S) (hs : Step cfg st st') : ∃ S', Solvent cfg st' S' := by
  obtain ⟨op, hrun⟩ := hs
  cases op with
  | stake sender ZEROamount => exact ⟨_, h.stake hrun⟩
  | unstake sender ZEROamount => exact ⟨S, h.unstake hrun⟩
  | increaseF_ETH ETHFee => exact ⟨S, h.distributeRBTC hrun⟩
  | increaseF_ZUSD ZUSDFee => exact ⟨S, h.distributeZUSD hrun⟩

end Solvent

/-! ## What the invariant gives the stakers -/

/-- The claim the accounting is meant to keep: the pending gains of any set of users add up to
at most the contract's ether and ZUSD. -/
def GainsCovered (cfg : StakingConfig) (st : StakingState) : Prop :=
  ∀ (users : Finset Address) (ETHGain ZUSDGain : Address → ℕ),
    (∀ u ∈ users, getPendingETHGain st.staking u = .ok (ETHGain u) ∧
      getPendingZUSDGain st.staking u = .ok (ZUSDGain u)) →
    ∑ u ∈ users, ETHGain u ≤ st.ETH ∧
      ∑ u ∈ users, ZUSDGain u ≤ st.zusdToken.balances cfg.zeroStaking

/-- The payout succeeds to a valid recipient of ZUSD that takes ether, when the balances cover the
gains. -/
theorem sendGains_ok {sender : Address} {ZUSDGain ETHGain : ℕ} (h0 : sender ≠ 0)
    (hzusd : sender ≠ cfg.zusdToken) (haccepts : cfg.acceptsETH sender = true)
    (hZUSDGain : ZUSDGain ≤ st.zusdToken.balances cfg.zeroStaking) (hETHGain : ETHGain ≤ st.ETH) :
    ∃ r, sendGains cfg st sender ZUSDGain ETHGain = .ok r := by
  simp [sendGains, ZUSDToken.externalTransfer, ZUSDToken.requireValidRecipient,
    ZUSDToken.transfer_eq_ok, Ledger.transfer_eq_ok, sendETHGainToUser, Revert.require, h0, hzusd,
    haccepts, hZUSDGain, hETHGain, cfg.zeroStaking_ne_zero]

namespace Solvent

variable {S : Finset Address}

/-- While the contract's ether times `DECIMAL_PRECISION` fits in `uint256`, so does every stake
times its growth, which is at most what all are owed: every pending ether gain is computed. -/
theorem getPendingETHGain_eq (h : Solvent cfg st S)
    (hfit : st.ETH * DECIMAL_PRECISION ≤ MAX_UINT256) (u : Address) :
    getPendingETHGain st.staking u = .ok (st.staking.stakes u *
      (st.staking.F_ETH - (st.staking.snapshots u).F_ETH_Snapshot) / DECIMAL_PRECISION) :=
  pendingGain_eq (h.snapshot_ETH_le u) ((le_owed h.stakes_eq_zero u).trans (h.owed_ETH.trans hfit))

theorem getPendingZUSDGain_eq (h : Solvent cfg st S)
    (hfit : st.zusdToken.balances cfg.zeroStaking * DECIMAL_PRECISION ≤ MAX_UINT256) (u : Address) :
    getPendingZUSDGain st.staking u = .ok (st.staking.stakes u *
      (st.staking.F_ZUSD - (st.staking.snapshots u).F_ZUSD_Snapshot) / DECIMAL_PRECISION) :=
  pendingGain_eq (h.snapshot_ZUSD_le u)
    ((le_owed h.stakes_eq_zero u).trans (h.owed_ZUSD.trans hfit))

theorem gainsCovered (h : Solvent cfg st S) : GainsCovered cfg st := by
  intro users ETHGain ZUSDGain hgains
  exact ⟨sum_gains_le h.stakes_eq_zero h.owed_ETH fun u hu => pendingGain_mul_le (hgains u hu).1,
    sum_gains_le h.stakes_eq_zero h.owed_ZUSD fun u hu => pendingGain_mul_le (hgains u hu).2⟩

/-- Every staker that is a valid recipient of both tokens and takes ether can unstake any amount,
while the balances times `DECIMAL_PRECISION` fit in `uint256`. -/
theorem unstake_ok (h : Solvent cfg st S) {sender : Address} (ZEROamount : ℕ)
    (hfitETH : st.ETH * DECIMAL_PRECISION ≤ MAX_UINT256)
    (hfitZUSD : st.zusdToken.balances cfg.zeroStaking * DECIMAL_PRECISION ≤ MAX_UINT256)
    (hstake : 0 < st.staking.stakes sender) (h0 : sender ≠ 0) (hzusd : sender ≠ cfg.zusdToken)
    (hzero : sender ≠ cfg.zeroToken) (haccepts : cfg.acceptsETH sender = true) :
    ∃ st', ZEROStaking.unstake cfg st sender ZEROamount = .ok st' := by
  -- the sender's own gains fit in the balances
  obtain ⟨hETH, hZUSD⟩ := h.gainsCovered {sender} _ _ fun u _ =>
    ⟨h.getPendingETHGain_eq hfitETH u, h.getPendingZUSDGain_eq hfitZUSD u⟩
  rw [Finset.sum_singleton] at hETH hZUSD
  obtain ⟨r, hsend⟩ := sendGains_ok h0 hzusd haccepts hZUSD hETH
  -- what is withdrawn is at most the stake, which is at most the total
  have hw : LiquityMath.min ZEROamount (st.staking.stakes sender) ≤ st.staking.stakes sender :=
    LiquityMath.min_le_right _ _
  have hmem : sender ∈ S := by
    by_contra hu
    rw [h.stakes_eq_zero sender hu] at hstake
    exact Nat.lt_irrefl 0 hstake
  have htotal : st.staking.stakes sender ≤ st.staking.totalZEROStaked := by
    rw [h.total]
    exact Finset.single_le_sum (fun _ _ => Nat.zero_le _) hmem
  have hzeroToken : ZEROToken.transfer cfg.zeroToken sender = pure () := if_pos ⟨h0, hzero⟩
  simp only [ZEROStaking.unstake, requireUserHasStake, Revert.require_bind_eq_ok,
    h.getPendingETHGain_eq hfitETH, h.getPendingZUSDGain_eq hfitZUSD, Revert.ok_bind]
  by_cases hamt : ZEROamount > 0
  · simp only [if_pos hamt, updateUserSnapshots, SafeMath.sub_of_le hw,
      SafeMath.sub_of_le (hw.trans htotal), hzeroToken, hsend, pure_bind, Revert.ok_bind]
    exact ⟨_, hstake, rfl⟩
  · simp only [if_neg hamt, hsend, pure_bind, Revert.ok_bind]
    exact ⟨_, hstake, rfl⟩

/-- What an unstake pays: the sender receives its pending ZUSD gain out of the contract's
balance and its ether gain out of the contract's ether, its snapshots move to the running sums,
and its stake and the total fall by the amount asked, capped at the stake. -/
theorem unstake_pays (h : Solvent cfg st S) {sender : Address} (ZEROamount : ℕ)
    (hfitETH : st.ETH * DECIMAL_PRECISION ≤ MAX_UINT256)
    (hfitZUSD : st.zusdToken.balances cfg.zeroStaking * DECIMAL_PRECISION ≤ MAX_UINT256)
    (hstake : 0 < st.staking.stakes sender) (h0 : sender ≠ 0) (hzusd : sender ≠ cfg.zusdToken)
    (hzero : sender ≠ cfg.zeroToken) (hself : sender ≠ cfg.zeroStaking)
    (haccepts : cfg.acceptsETH sender = true) :
    ∃ st' ETHGain ZUSDGain, ZEROStaking.unstake cfg st sender ZEROamount = .ok st' ∧
      getPendingETHGain st.staking sender = .ok ETHGain ∧
      getPendingZUSDGain st.staking sender = .ok ZUSDGain ∧
      st'.ETH + ETHGain = st.ETH ∧
      st'.zusdToken.balances sender = st.zusdToken.balances sender + ZUSDGain ∧
      st'.zusdToken.balances cfg.zeroStaking + ZUSDGain =
        st.zusdToken.balances cfg.zeroStaking ∧
      st'.staking.stakes sender + LiquityMath.min ZEROamount (st.staking.stakes sender) =
        st.staking.stakes sender ∧
      st'.staking.totalZEROStaked + LiquityMath.min ZEROamount (st.staking.stakes sender) =
        st.staking.totalZEROStaked ∧
      st'.staking.snapshots sender = ⟨st.staking.F_ETH, st.staking.F_ZUSD⟩ := by
  obtain ⟨st', hrun⟩ := h.unstake_ok ZEROamount hfitETH hfitZUSD hstake h0 hzusd hzero haccepts
  obtain ⟨-, ETHGain, ZUSDGain, hETHGain, hZUSDGain, hsend, -, -, hsnap, -, hstake', htotal'⟩ :=
    unstake_eq_ok hrun
  obtain ⟨htransfer, hle, hETH⟩ := sendGains_eq_ok hsend
  -- the ZUSD gain moves from the contract, which is not the sender, to the sender
  have hcovered := (Ledger.transfer_balances_sender_ge htransfer).1
  refine ⟨st', ETHGain, ZUSDGain, hrun, hETHGain, hZUSDGain, by omega,
    Ledger.transfer_balances_recipient htransfer (Ne.symm hself), ?_, hstake', htotal', ?_⟩
  · rw [Ledger.transfer_balances_sender htransfer (Ne.symm hself)]
    omega
  · rw [hsnap, Function.update_self]

end Solvent

/-- **Run lemma.**  Every state that calls in any order reach from deployment is solvent. -/
theorem reachable_solvent {zusdToken : Ledger Address} {ETH : ℕ}
    (h : Reachability.Reachable (Step cfg) (StakingState.init zusdToken ETH) st) :
    ∃ S, Solvent cfg st S :=
  Reachability.Reachable.induction (P := fun s => ∃ S, Solvent cfg s S)
    ⟨∅, Solvent.init zusdToken ETH⟩ (fun _ _ ⟨_, hs⟩ hstep => hs.step hstep) h

/-- In every state that any interleaving of stakes, unstakes and fees reaches from deployment,
the total staked is the sum of the stakes and the pending gains of all users fit in the
contract's ether and ZUSD.  While those balances times `DECIMAL_PRECISION` fit in `uint256`,
every pending gain is computed, and every staker that is a valid recipient and takes ether can
unstake: it is paid its gains, and its stake and the total fall by the amount asked, capped at
the stake. -/
theorem staking_solvent {zusdToken : Ledger Address} {ETH : ℕ}
    (h : Reachability.Reachable (Step cfg) (StakingState.init zusdToken ETH) st) :
    (∃ stakers : Finset Address, (∀ u ∉ stakers, st.staking.stakes u = 0) ∧
      st.staking.totalZEROStaked = ∑ u ∈ stakers, st.staking.stakes u) ∧
    GainsCovered cfg st ∧
    (st.ETH * DECIMAL_PRECISION ≤ MAX_UINT256 →
      st.zusdToken.balances cfg.zeroStaking * DECIMAL_PRECISION ≤ MAX_UINT256 →
      (∀ u, ∃ ETHGain ZUSDGain, getPendingETHGain st.staking u = .ok ETHGain ∧
        getPendingZUSDGain st.staking u = .ok ZUSDGain) ∧
      ∀ (sender : Address) (ZEROamount : ℕ), 0 < st.staking.stakes sender → sender ≠ 0 →
        sender ≠ cfg.zusdToken → sender ≠ cfg.zeroToken → sender ≠ cfg.zeroStaking →
        cfg.acceptsETH sender = true →
        ∃ st' ETHGain ZUSDGain, unstake cfg st sender ZEROamount = .ok st' ∧
          getPendingETHGain st.staking sender = .ok ETHGain ∧
          getPendingZUSDGain st.staking sender = .ok ZUSDGain ∧
          st'.ETH + ETHGain = st.ETH ∧
          st'.zusdToken.balances sender = st.zusdToken.balances sender + ZUSDGain ∧
          st'.zusdToken.balances cfg.zeroStaking + ZUSDGain =
            st.zusdToken.balances cfg.zeroStaking ∧
          st'.staking.stakes sender + LiquityMath.min ZEROamount (st.staking.stakes sender) =
            st.staking.stakes sender ∧
          st'.staking.totalZEROStaked + LiquityMath.min ZEROamount (st.staking.stakes sender) =
            st.staking.totalZEROStaked ∧
          st'.staking.snapshots sender = ⟨st.staking.F_ETH, st.staking.F_ZUSD⟩) := by
  obtain ⟨S, hS⟩ := reachable_solvent h
  refine ⟨⟨S, hS.stakes_eq_zero, hS.total⟩, hS.gainsCovered, fun hfitETH hfitZUSD => ⟨?_, ?_⟩⟩
  · exact fun u => ⟨_, _, hS.getPendingETHGain_eq hfitETH u, hS.getPendingZUSDGain_eq hfitZUSD u⟩
  · intro sender ZEROamount hstake h0 hzusd hzero hself haccepts
    exact hS.unstake_pays ZEROamount hfitETH hfitZUSD hstake h0 hzusd hzero hself haccepts

/-- Contracts at `10` (staking), `11` (fee distributor), `12` (ZUSD) and `13` (ZERO). -/
def StakingConfig.sample : StakingConfig :=
  ⟨10, 11, 12, 13, fun _ => true, by decide, by decide⟩

/-- The fee distributor holding 10 ZUSD. -/
def sampleZUSD : Ledger Address :=
  ⟨fun a => if a = 11 then 10 * 10 ^ 18 else 0, 10 * 10 ^ 18⟩

/-- Account `1` stakes one ZERO, an ether fee of 3 arrives, account `2` stakes two ZERO and a
ZUSD fee of 5 arrives; then account `1` unstakes its one ZERO and is paid its gains. -/
theorem staking_solvent_sample :
    ∃ st, Reachability.Reachable (Step StakingConfig.sample) (StakingState.init sampleZUSD 0) st ∧
      st.staking.totalZEROStaked = 3 * 10 ^ 18 ∧ GainsCovered StakingConfig.sample st ∧
      ∃ st' ETHGain ZUSDGain, unstake StakingConfig.sample st 1 (10 ^ 18) = .ok st' ∧
        getPendingETHGain st.staking 1 = .ok ETHGain ∧
        getPendingZUSDGain st.staking 1 = .ok ZUSDGain ∧
        st'.ETH + ETHGain = st.ETH ∧
        st'.zusdToken.balances 1 = st.zusdToken.balances 1 + ZUSDGain ∧
        st'.zusdToken.balances 10 + ZUSDGain = st.zusdToken.balances 10 ∧
        st'.staking.stakes 1 + LiquityMath.min (10 ^ 18) (st.staking.stakes 1) =
          st.staking.stakes 1 ∧
        st'.staking.totalZEROStaked + LiquityMath.min (10 ^ 18) (st.staking.stakes 1) =
          st.staking.totalZEROStaked ∧
        st'.staking.snapshots 1 = ⟨st.staking.F_ETH, st.staking.F_ZUSD⟩ := by
  obtain ⟨st, hreach, htotal, hstake, hfitETH, hfitZUSD⟩ : ∃ st,
      Reachability.Reachable (Step StakingConfig.sample) (StakingState.init sampleZUSD 0) st ∧
      st.staking.totalZEROStaked = 3 * 10 ^ 18 ∧ 0 < st.staking.stakes 1 ∧
      st.ETH * DECIMAL_PRECISION ≤ MAX_UINT256 ∧
      st.zusdToken.balances 10 * DECIMAL_PRECISION ≤ MAX_UINT256 :=
    ⟨_, Reachability.Reachable.tail (Reachability.Reachable.tail (Reachability.Reachable.tail
      (Reachability.Reachable.tail Reachability.Reachable.init ⟨.stake 1 (10 ^ 18), rfl⟩)
      ⟨.increaseF_ETH (3 * 10 ^ 18), rfl⟩) ⟨.stake 2 (2 * 10 ^ 18), rfl⟩)
      ⟨.increaseF_ZUSD (5 * 10 ^ 18), rfl⟩, rfl, by decide, by decide, by decide⟩
  have hsolvent := staking_solvent hreach
  exact ⟨st, hreach, htotal, hsolvent.2.1,
    (hsolvent.2.2 hfitETH hfitZUSD).2 1 (10 ^ 18) hstake (by decide) (by decide) (by decide)
      (by decide) rfl⟩

end ZEROStaking

end ZeroProtocol
