import ZeroProtocol.LibBase.Refinement

/-!
# The front end's check of a trove change

Before it sends a transaction, the front end compares the trove that the user edited with the
trove it read, finds the change with `whatChanged`, applies the change again to get the trove it
leaves, and checks that trove against the rules the contract enforces: the minimum debt,
`MINIMUM_COLLATERAL_RATIO` in Normal Mode and `CRITICAL_COLLATERAL_RATIO` in Recovery Mode, the
total ratio after the change, the balances and, for a closure, that another trove remains.  Each
check returns the first error it meets, as the source's early returns do.

The check reads the trove as `lib-ethers` returns it, with the redistribution it has not yet
received.  The contract applies a trove's pending rewards only when `_hasPendingRewards` reports
them, which it decides from the collateral snapshot alone.  A pending debt without pending
collateral is then in the front end's trove and not in the contract's, and a repayment that the
front end finds above the minimum debt is, on chain, below it
(`validation_accepts_reverted_repayment`).  The ratios and the modes the two sides compute are
the same (`collateralRatio_eq_computeCR`, `recoveryMode_eq_checkRecoveryMode`), so that on the
trove it predicts, the check enforces the contract's minimum debt and, in Normal Mode, `MCR`
(`validateTroveChange_meets_contract_rules`); the fault lies in the prediction.

The description of a valid change is text for the user and is left out.
-/

namespace ZeroProtocol.DevFrontend

open LiquityMath LiquityBase LibBase

/-- Source `selectForTroveChangeValidation`: the values of the store that the check reads. -/
structure TroveChangeValidationSelectedState where
  price : ℕ
  total : Trove
  accountBalance : ℕ
  zusdBalance : ℕ
  nueBalance : ℕ
  numberOfTroves : ℕ
  deriving DecidableEq, Repr

/-- Source `TroveChangeValidationContext`. -/
structure TroveChangeValidationContext extends TroveChangeValidationSelectedState where
  originalTrove : Trove
  resultingTrove : Trove
  recoveryMode : Bool
  wouldTriggerRecoveryMode : Bool
  deriving DecidableEq, Repr

/-- The `ErrorDescription`s of the checks, each named by what it tells the user, with the amount
it shows. -/
inductive TroveChangeError
  /-- Message "Total debt must be at least" `ZUSD_MINIMUM_DEBT`. -/
  | totalDebtBelowMinimum
  /-- Message "You're not allowed to open a Line of Credit with less than" `CCR` "Collateral
  Ratio during recovery mode". -/
  | creationBelowCriticalInRecoveryMode
  /-- Message "Collateral ratio must be at least" `MCR`. -/
  | collateralRatioBelowMinimum
  /-- Message "You're not allowed to open a Line of Credit that would cause the Total Collateral
  Ratio to fall below" `CCR`. -/
  | creationWouldTriggerRecoveryMode
  /-- Message "The amount you're trying to deposit exceeds your balance by" the excess. -/
  | depositExceedsBalance (excess : ℕ)
  /-- Message "You're not allowed to withdraw collateral during recovery mode". -/
  | withdrawalInRecoveryMode
  /-- Message "Your collateral ratio must be at least" `CCR` "to borrow during recovery
  mode". -/
  | borrowBelowCriticalInRecoveryMode
  /-- Message "You're not allowed to decrease your collateral ratio during recovery mode". -/
  | collateralRatioDecreaseInRecoveryMode
  /-- Message "The adjustment you're trying to make would cause the Total Collateral Ratio to
  fall below" `CCR`. -/
  | adjustmentWouldTriggerRecoveryMode
  /-- Message "The amount you're trying to repay exceeds your balance by" the excess. -/
  | repaymentExceedsBalance (excess : ℕ)
  /-- Message "You're not allowed to close your Line of Credit when there are no other Lines of
  Credit in the system". -/
  | closingLastTrove
  /-- Message "You're not allowed to close your Line of Credit during recovery mode". -/
  | closureInRecoveryMode
  /-- Message "You need" the shortfall "more to close your Line of Credit". -/
  | closureExceedsBalance (shortfall : ℕ)
  /-- Message "You're not allowed to close a Line of Credit if it would cause the Total
  Collateralization Ratio to fall below" `CCR`. -/
  | closureWouldTriggerRecoveryMode
  deriving DecidableEq, Repr

/-- What `validateTroveChange` returns: nothing for an unchanged trove, the error that rejects a
change, or the valid change. -/
inductive Validation
  | unchanged
  | invalid (error : TroveChangeError)
  | valid (change : TroveChange)
  deriving DecidableEq, Repr

/-- The pair that `validateTroveChange` returns for a change and the outcome of its check. -/
def Validation.ofCheck (change : TroveChange) : Except TroveChangeError Unit → Validation
  | .error error => .invalid error
  | .ok () => .valid change

section Checks

variable (ctx : TroveChangeValidationContext)

/-- Source `validateTroveCreation`.  Each of the source's `if (failure) return error` is a
`require` of the opposite, so the first check that fails gives its error. -/
def validateTroveCreation (params : TroveCreationParams) : Except TroveChangeError Unit := do
  Revert.require (¬ ctx.resultingTrove.debt < ZUSD_MINIMUM_DEBT) .totalDebtBelowMinimum
  (if ctx.recoveryMode then
      Revert.require (ctx.resultingTrove.isOpenableInRecoveryMode ctx.price)
        .creationBelowCriticalInRecoveryMode
    else do
      Revert.require (¬ ctx.resultingTrove.collateralRatioIsBelowMinimum ctx.price)
        .collateralRatioBelowMinimum
      Revert.require (¬ ctx.wouldTriggerRecoveryMode) .creationWouldTriggerRecoveryMode)
  Revert.require (¬ params.depositCollateral > ctx.accountBalance)
    (.depositExceedsBalance (params.depositCollateral - ctx.accountBalance))

/-- Source `validateTroveAdjustment`; the NUE balance pays when `useNueBalance` is set. -/
def validateTroveAdjustment (useNueBalance : Bool) (params : TroveAdjustmentParams) :
    Except TroveChangeError Unit := do
  (if ctx.recoveryMode then do
      Revert.require (¬ params.withdrawCollateral.isSome) .withdrawalInRecoveryMode
      if params.borrowZUSD.isSome then
        Revert.require (¬ ctx.resultingTrove.collateralRatioIsBelowCritical ctx.price)
          .borrowBelowCriticalInRecoveryMode
        Revert.require (¬ ctx.resultingTrove.collateralRatio ctx.price <
          ctx.originalTrove.collateralRatio ctx.price) .collateralRatioDecreaseInRecoveryMode
    else do
      Revert.require (¬ ctx.resultingTrove.collateralRatioIsBelowMinimum ctx.price)
        .collateralRatioBelowMinimum
      Revert.require (¬ ctx.wouldTriggerRecoveryMode) .adjustmentWouldTriggerRecoveryMode)
  (match params.repayZUSD with
    | some repayZUSD => do
      Revert.require (¬ ctx.resultingTrove.debt < ZUSD_MINIMUM_DEBT) .totalDebtBelowMinimum
      let repayBalance := if useNueBalance then ctx.nueBalance else ctx.zusdBalance
      Revert.require (¬ repayZUSD > repayBalance)
        (.repaymentExceedsBalance (repayZUSD - repayBalance))
    | none => pure ())
  match params.depositCollateral with
  | some depositCollateral =>
    Revert.require (¬ depositCollateral > ctx.accountBalance)
      (.depositExceedsBalance (depositCollateral - ctx.accountBalance))
  | none => pure ()

/-- Source `validateTroveClosure`. -/
def validateTroveClosure (useNueBalance : Bool) (params : TroveClosureParams) :
    Except TroveChangeError Unit := do
  Revert.require (¬ ctx.numberOfTroves = 1) .closingLastTrove
  Revert.require (¬ ctx.recoveryMode) .closureInRecoveryMode
  let repayBalance := if useNueBalance then ctx.nueBalance else ctx.zusdBalance
  (match params.repayZUSD with
    | some repayZUSD =>
      Revert.require (¬ repayZUSD > repayBalance)
        (.closureExceedsBalance (repayZUSD - repayBalance))
    | none => pure ())
  Revert.require (¬ ctx.wouldTriggerRecoveryMode) .closureWouldTriggerRecoveryMode

end Checks

/-- Source `validateTroveChange`: the change from the original trove to the edited one, checked
on the trove that the change leaves.  The SDK's own errors (a net debt read below the reserve, a
creation onto a trove) propagate. -/
def validateTroveChange (originalTrove adjustedTrove : Trove) (borrowingRate : ℕ)
    (useNueBalance : Bool) (selectedState : TroveChangeValidationSelectedState) :
    Except String Validation := do
  let total := selectedState.total
  let price := selectedState.price
  let some change ← originalTrove.whatChanged adjustedTrove borrowingRate | pure .unchanged
  -- the change applied again, which can differ from the edited trove by rounding
  let resultingTrove ← originalTrove.apply (some change) borrowingRate
  let recoveryMode := total.collateralRatioIsBelowCritical price
  let wouldTriggerRecoveryMode :=
    ((total.subtract originalTrove).add resultingTrove).collateralRatioIsBelowCritical price
  let context : TroveChangeValidationContext :=
    { selectedState with
      originalTrove := originalTrove, resultingTrove := resultingTrove,
      recoveryMode := recoveryMode, wouldTriggerRecoveryMode := wouldTriggerRecoveryMode }
  match change with
  | .invalidCreation _ => pure (.invalid .totalDebtBelowMinimum)
  | .creation params => pure (.ofCheck change (validateTroveCreation context params))
  | .closure params =>
    pure (.ofCheck change (validateTroveClosure context useNueBalance params))
  | .adjustment params _ =>
    pure (.ofCheck change (validateTroveAdjustment context useNueBalance params))

/-- The store's values for `account` as `lib-ethers` reads them from the contracts: the price,
the active and default pools' collateral and debt, the account's ZUSD and the number of trove
owners.  The account's ether and NUE balances, which the model does not hold, are given. -/
def selectedStateOf (st : System) (account : Address) (accountBalance nueBalance : ℕ) :
    TroveChangeValidationSelectedState :=
  ⟨st.price, ⟨getEntireSystemColl st, getEntireSystemDebt st⟩, accountBalance,
    st.zusdToken.balances account, nueBalance, st.troveManager.TroveOwners.length⟩

/-! ## What a passing check guarantees -/

theorem Validation.ofCheck_eq_valid {change change' : TroveChange}
    {check : Except TroveChangeError Unit} :
    Validation.ofCheck change check = .valid change' ↔ check = .ok () ∧ change = change' := by
  cases check with
  | error error => simp [Validation.ofCheck]
  | ok u => simp [Validation.ofCheck]

section Checks

variable {ctx : TroveChangeValidationContext}

/-- A creation that passes its check leaves at least the minimum debt and, in Normal Mode, a
ratio of at least `MINIMUM_COLLATERAL_RATIO`. -/
theorem validateTroveCreation_ok {params : TroveCreationParams}
    (h : validateTroveCreation ctx params = .ok ()) :
    ZUSD_MINIMUM_DEBT ≤ ctx.resultingTrove.debt ∧
      (ctx.recoveryMode = false →
        ctx.resultingTrove.collateralRatioIsBelowMinimum ctx.price = false) := by
  rw [validateTroveCreation, Revert.require_bind_eq_ok] at h
  obtain ⟨hdebt, h⟩ := h
  refine ⟨Nat.le_of_not_lt hdebt, fun hmode => ?_⟩
  obtain ⟨_, hmodeCheck, -⟩ := Revert.bind_eq_ok.1 h
  rw [hmode, if_neg Bool.false_ne_true, Revert.require_bind_eq_ok] at hmodeCheck
  simpa using hmodeCheck.1

/-- An adjustment that passes its check leaves, in Normal Mode, a ratio of at least
`MINIMUM_COLLATERAL_RATIO`, and after a repayment at least the minimum debt. -/
theorem validateTroveAdjustment_ok {useNueBalance : Bool} {params : TroveAdjustmentParams}
    (h : validateTroveAdjustment ctx useNueBalance params = .ok ()) :
    (params.repayZUSD.isSome → ZUSD_MINIMUM_DEBT ≤ ctx.resultingTrove.debt) ∧
      (ctx.recoveryMode = false →
        ctx.resultingTrove.collateralRatioIsBelowMinimum ctx.price = false) := by
  rw [validateTroveAdjustment] at h
  obtain ⟨_, hmodeCheck, h⟩ := Revert.bind_eq_ok.1 h
  obtain ⟨_, hrepayCheck, -⟩ := Revert.bind_eq_ok.1 h
  constructor
  · intro hrepay
    obtain ⟨repayZUSD, hr⟩ := Option.isSome_iff_exists.1 hrepay
    rw [hr, Revert.require_bind_eq_ok] at hrepayCheck
    exact Nat.le_of_not_lt hrepayCheck.1
  · intro hmode
    rw [hmode, if_neg Bool.false_ne_true, Revert.require_bind_eq_ok] at hmodeCheck
    simpa using hmodeCheck.1

end Checks

/-- An adjustment that `whatChanged` finds starts from a trove that is not empty, and sets the debt
to zero only by repaying it. -/
theorem whatChanged_adjustment {t that : Trove} {borrowingRate : ℕ}
    {params : TroveAdjustmentParams} {setToZero : Option SetToZero}
    (h : t.whatChanged that borrowingRate = .ok (some (.adjustment params setToZero))) :
    t.isEmpty = false ∧ (setToZero = some .debt → params.repayZUSD.isSome) := by
  -- a debt of zero is always reached by repaying, since it is below any other debt
  have hrepay : ∀ that : Trove, that.debt = 0 → (t.debtChange that borrowingRate).repayZUSD.isSome :=
    fun that h0 => by simp [Trove.debtChange, h0]
  unfold Trove.whatChanged at h
  split at h
  · simp at h
  split at h
  · -- a creation, valid or not
    split at h
    · simp at h
    · obtain ⟨_, -, h⟩ := Revert.bind_eq_ok.1 h
      simp at h
  rename_i hempty
  split at h
  · -- a closure
    obtain ⟨_, -, h⟩ := Revert.bind_eq_ok.1 h
    simp at h
  refine ⟨Bool.eq_false_iff.2 hempty, fun hzero => ?_⟩
  split at h
  · -- only the debt changes
    simp only [Revert.pure_eq_ok, Option.some.injEq, TroveChange.adjustment.injEq] at h
    obtain ⟨rfl, rfl⟩ := h
    split_ifs at hzero with h0
    exact hrepay that h0
  split at h
  · -- only the collateral changes
    simp only [Revert.pure_eq_ok, Option.some.injEq, TroveChange.adjustment.injEq] at h
    obtain ⟨-, rfl⟩ := h
    split_ifs at hzero
    cases hzero
  · -- both change
    simp only [Revert.pure_eq_ok, Option.some.injEq, TroveChange.adjustment.injEq] at h
    obtain ⟨rfl, rfl⟩ := h
    split_ifs at hzero with h0
    · exact hrepay that h0
    all_goals cases hzero

/-- **What the front end lets through.**  A change that the check accepts is one the SDK can
apply, and from a trove that is empty or holds the minimum debt it leaves a trove that is empty,
or that holds the minimum debt and, in Normal Mode, a ratio of at least
`MINIMUM_COLLATERAL_RATIO`. -/
theorem validateTroveChange_valid {original adjusted : Trove} {borrowingRate : ℕ}
    {useNueBalance : Bool} {s : TroveChangeValidationSelectedState} {change : TroveChange}
    (horiginal : original.isEmpty = true ∨ ZUSD_MINIMUM_DEBT ≤ original.debt)
    (h : validateTroveChange original adjusted borrowingRate useNueBalance s =
      .ok (.valid change)) :
    ∃ resulting, original.apply (some change) borrowingRate = .ok resulting ∧
      (resulting.isEmpty = true ∨ ZUSD_MINIMUM_DEBT ≤ resulting.debt ∧
        (s.total.collateralRatioIsBelowCritical s.price = false →
          resulting.collateralRatioIsBelowMinimum s.price = false)) := by
  unfold validateTroveChange at h
  obtain ⟨found, hwhat, h⟩ := Revert.bind_eq_ok.1 h
  cases found with
  | none => simp at h
  | some found =>
    obtain ⟨resulting, happly, h⟩ := Revert.bind_eq_ok.1 h
    dsimp only at h
    cases found with
    | invalidCreation _ => simp at h
    | creation params =>
      rw [Revert.pure_eq_ok, Validation.ofCheck_eq_valid] at h
      obtain ⟨hcheck, rfl⟩ := h
      exact ⟨resulting, happly, Or.inr (validateTroveCreation_ok hcheck)⟩
    | closure params =>
      rw [Revert.pure_eq_ok, Validation.ofCheck_eq_valid] at h
      obtain ⟨-, rfl⟩ := h
      refine ⟨resulting, happly, Or.inl ?_⟩
      -- closing leaves the empty trove
      rw [Trove.apply] at happly
      split_ifs at happly
      rw [Revert.pure_eq_ok] at happly
      rw [← happly]
      rfl
    | adjustment params setToZero =>
      rw [Revert.pure_eq_ok, Validation.ofCheck_eq_valid] at h
      obtain ⟨hcheck, rfl⟩ := h
      obtain ⟨hrepayDebt, hmin⟩ := validateTroveAdjustment_ok hcheck
      obtain ⟨hne, hzero⟩ := whatChanged_adjustment hwhat
      refine ⟨resulting, happly, Or.inr ⟨?_, hmin⟩⟩
      cases hr : params.repayZUSD with
      | some _ => exact hrepayDebt (by simp [hr])
      | none =>
        -- without a repayment the debt stays or grows
        have hkeep : setToZero ≠ some .debt := fun hz => by simpa [hr] using hzero hz
        have horig : ZUSD_MINIMUM_DEBT ≤ original.debt := horiginal.resolve_left (by simp [hne])
        rw [apply_adjustment, Revert.pure_eq_ok] at happly
        rw [← happly, if_neg hkeep, hr, Option.getD_none, Nat.sub_zero]
        exact le_trans horig (Nat.le_add_right _ _)

/-! ## The two sides' ratios -/

/-- The SDK's collateral ratio is the contract's `_computeCR`, infinite for no debt. -/
theorem collateralRatio_eq_computeCR (t : Trove) (price : ℕ) :
    t.collateralRatio price = computeCR t.collateral t.debt price := by
  unfold Trove.collateralRatio Decimal.mulDiv computeCR
  split_ifs with hzero hpos hpos
  · omega
  · rfl
  · rfl
  · omega

/-- With the store's totals, the front end's Recovery Mode is the contract's, when the two
critical ratios agree. -/
theorem recoveryMode_eq_checkRecoveryMode {cfg : Config}
    (hccr : cfg.params.CCR = CRITICAL_COLLATERAL_RATIO) (st : System)
    (account accountBalance nueBalance : ℕ) :
    (selectedStateOf st account accountBalance nueBalance).total.collateralRatioIsBelowCritical
      st.price = checkRecoveryMode cfg st st.price := by
  rw [Trove.collateralRatioIsBelowCritical, collateralRatio_eq_computeCR, checkRecoveryMode,
    getTCR, hccr]
  rfl

/-- **The front end checks the contract's rules on the trove it predicts.**  With the two sides'
ratios equal and the store read from the system, a change that the check accepts from a trove that
is empty or holds the contract's minimum debt is one the SDK can apply, and the trove it predicts
is empty, or holds the minimum debt and, when the contract is in Normal Mode, has a collateral
ratio of at least `MCR` at the feed's price. -/
theorem validateTroveChange_meets_contract_rules {cfg : Config}
    (hccr : cfg.params.CCR = CRITICAL_COLLATERAL_RATIO)
    (hmcr : cfg.params.MCR = MINIMUM_COLLATERAL_RATIO) {st : System}
    {account accountBalance nueBalance : ℕ} {original adjusted : Trove} {borrowingRate : ℕ}
    {useNueBalance : Bool} {change : TroveChange}
    (horiginal : original.isEmpty = true ∨ MIN_NET_DEBT + ZUSD_GAS_COMPENSATION ≤ original.debt)
    (h : validateTroveChange original adjusted borrowingRate useNueBalance
      (selectedStateOf st account accountBalance nueBalance) = .ok (.valid change)) :
    ∃ resulting, original.apply (some change) borrowingRate = .ok resulting ∧
      (resulting.isEmpty = true ∨ MIN_NET_DEBT + ZUSD_GAS_COMPENSATION ≤ resulting.debt ∧
        (checkRecoveryMode cfg st st.price = false →
          cfg.params.MCR ≤ computeCR resulting.collateral resulting.debt st.price)) := by
  -- the SDK's minimum debt is the contract's minimum net debt and gas compensation
  have hmin : ZUSD_MINIMUM_DEBT = MIN_NET_DEBT + ZUSD_GAS_COMPENSATION := by decide
  rw [← hmin] at horiginal ⊢
  obtain ⟨resulting, happly, hresulting⟩ := validateTroveChange_valid horiginal h
  refine ⟨resulting, happly, hresulting.imp id fun ⟨hdebt, hratio⟩ => ⟨hdebt, fun hnormal => ?_⟩⟩
  have hbelow := hratio ((recoveryMode_eq_checkRecoveryMode hccr st account accountBalance
    nueBalance).trans hnormal)
  rw [Trove.collateralRatioIsBelowMinimum, decide_eq_false_iff_not, not_lt,
    collateralRatio_eq_computeCR] at hbelow
  rw [hmcr]
  exact hbelow

/-- Accounts `1` and `2` open troves of 1800 and 2000 ZUSD; the front end then checks that
trove `1` takes one ether more and 100 ZUSD more debt, the fee included, at the deployed borrowing
rate: it finds a deposit and a borrowing, and accepts them. -/
theorem validateTroveChange_meets_contract_rules_adjustment :
    ∃ st resulting, Reachable Config.sample System.sample st ∧
      validateTroveChange (getTrove st.troveManager 1)
          ⟨21 * 10 ^ 18, (getTrove st.troveManager 1).debt + 100 * 10 ^ 18⟩ (5 * 10 ^ 15) false
          (selectedStateOf st 1 (10 ^ 18) 0) =
        .ok (.valid (.adjustment ⟨some (10 ^ 18), none, some 99502487562189054727, none⟩ none)) ∧
      (getTrove st.troveManager 1).apply
          (some (.adjustment ⟨some (10 ^ 18), none, some 99502487562189054727, none⟩ none))
          (5 * 10 ^ 15) = .ok resulting ∧
      (resulting.isEmpty = true ∨ MIN_NET_DEBT + ZUSD_GAS_COMPENSATION ≤ resulting.debt ∧
        (checkRecoveryMode Config.sample st st.price = false →
          Config.sample.params.MCR ≤ computeCR resulting.collateral resulting.debt st.price)) := by
  obtain ⟨st, hreach, horiginal, hvalid⟩ :=
    @exists_reachable_of_decide Config.sample System.sample
      [(.openTrove 1 (20 * 10 ^ 18) (10 ^ 18) (1800 * 10 ^ 18) 0 0, 10),
       (.openTrove 2 (100 * 10 ^ 18) (10 ^ 18) (2000 * 10 ^ 18) 0 0, 10)]
      (fun st => MIN_NET_DEBT + ZUSD_GAS_COMPENSATION ≤ (getTrove st.troveManager 1).debt ∧
        validateTroveChange (getTrove st.troveManager 1)
            ⟨21 * 10 ^ 18, (getTrove st.troveManager 1).debt + 100 * 10 ^ 18⟩ (5 * 10 ^ 15) false
            (selectedStateOf st 1 (10 ^ 18) 0) =
          .ok (.valid (.adjustment ⟨some (10 ^ 18), none, some 99502487562189054727, none⟩ none)))
      _ (by decide +kernel)
  obtain ⟨resulting, happly, hrules⟩ :=
    validateTroveChange_meets_contract_rules
      (show Config.sample.params.CCR = CRITICAL_COLLATERAL_RATIO by decide)
      (show Config.sample.params.MCR = MINIMUM_COLLATERAL_RATIO by decide) (.inr horiginal) hvalid
  exact ⟨st, resulting, hreach, hvalid, happly, hrules⟩

/-! ## A repayment that the front end accepts and the contract rejects -/

/-- After `staleDebtRun`, the front end reads trove `1` with its pending debt of 8000 wei, the
minimum debt and 8000 wei, while the contract records the minimum.  Editing the trove to the
minimum debt is a repayment of 8000 wei, which the check accepts at the contract's borrowing rate;
the contract's `adjustTrove` with that repayment reverts on the minimum net debt. -/
theorem validation_accepts_reverted_repayment :
    ∃ st, Reachable Config.sample System.sample st ∧
      getTrove st.troveManager 1 = ⟨8000500000000000000000, ZUSD_MINIMUM_DEBT + 8000⟩ ∧
      (st.troveManager.Troves 1).debt = ZUSD_MINIMUM_DEBT ∧
      BorrowerOperations.borrowingRateAt Config.sample st = .ok (5 * 10 ^ 15) ∧
      validateTroveChange (getTrove st.troveManager 1)
          ⟨8000500000000000000000, ZUSD_MINIMUM_DEBT⟩ (5 * 10 ^ 15) false
          (selectedStateOf st 1 0 0) =
        .ok (.valid (.adjustment ⟨none, none, none, some 8000⟩ none)) ∧
      (Op.adjustTrove 1 0 (10 ^ 18) 0 8000 false 0 0).run Config.sample 10 st =
        .error "BorrowerOps: Trove\x27s net debt must be greater than minimum" := by
  obtain ⟨st, hreach, htrove, hrecorded, hrate, hvalid, hrevert⟩ :=
    @exists_reachable_of_decide Config.sample System.sample TroveManager.staleDebtRun
      (fun st => getTrove st.troveManager 1 = ⟨8000500000000000000000, ZUSD_MINIMUM_DEBT + 8000⟩ ∧
        (st.troveManager.Troves 1).debt = ZUSD_MINIMUM_DEBT ∧
        BorrowerOperations.borrowingRateAt Config.sample st = .ok (5 * 10 ^ 15) ∧
        validateTroveChange (getTrove st.troveManager 1)
            ⟨8000500000000000000000, ZUSD_MINIMUM_DEBT⟩ (5 * 10 ^ 15) false
            (selectedStateOf st 1 0 0) =
          .ok (.valid (.adjustment ⟨none, none, none, some 8000⟩ none)) ∧
        Revert.revertsWith ((Op.adjustTrove 1 0 (10 ^ 18) 0 8000 false 0 0).run Config.sample 10 st)
          "BorrowerOps: Trove\x27s net debt must be greater than minimum" = true) _
      (by decide +kernel)
  exact ⟨st, hreach, htrove, hrecorded, hrate, hvalid, Revert.revertsWith_iff.mp hrevert⟩

end ZeroProtocol.DevFrontend
