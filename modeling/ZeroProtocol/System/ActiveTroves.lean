import ZeroProtocol.TroveManager.CallRules
import ZeroProtocol.System.Totals

/-!
# The active troves

The trove manager records a status for every address, and the sorted list holds the troves
ordered by their nominal ratio.  In every state the system reaches, the two agree: the active
troves are exactly the members of the list.  Each active trove also owes at least
`MIN_NET_DEBT` on top of the gas compensation (`ActiveTroves`).

Only four kinds of write touch either side.  `openTrove` makes a trove active as it inserts it, and
checks its net debt against the minimum.  `_closeTrove` takes a trove out of the list as it gives
it a closed status, which is all a liquidation does to the troves (`ClosingInvariant`).  An
adjustment or a partial redemption re-inserts a trove that stays active, and checks the net debt
it leaves.  Pending rewards only add debt.  Everything else keeps each trove's status and amounts
and the list's members.
-/

namespace ZeroProtocol.TroveManager

open LiquityMath LiquityBase

/-- The active troves are the members of the sorted list, and each owes at least the minimum net
debt and the gas compensation. -/
structure ActiveTroves (st : System) : Prop where
  listed : ∀ b, (st.troveManager.Troves b).status = .active ↔ st.sortedTroves.contains b = true
  debt_ge : ∀ b, (st.troveManager.Troves b).status = .active →
    MIN_NET_DEBT + ZUSD_GAS_COMPENSATION ≤ (st.troveManager.Troves b).debt

namespace ActiveTroves

variable {st st' : System}

theorem init (timestamp price maxSize : ℕ) :
    ActiveTroves (System.init timestamp price maxSize) where
  listed _ := by simp [System.init, TroveManagerStorage.init, Trove.empty]
  debt_ge _ h := by simp [System.init, TroveManagerStorage.init, Trove.empty] at h

/-- Writes that keep every trove's status and amounts and the list's members. -/
theorem frame (h : ActiveTroves st)
    (hsame : SameAmounts st.troveManager.Troves st'.troveManager.Troves)
    (hcontains : st'.sortedTroves.contains = st.sortedTroves.contains) : ActiveTroves st' where
  listed b := by
    rw [(hsame b).1, hcontains]
    exact h.listed b
  debt_ge b hb := by
    rw [(hsame b).2.2]
    exact h.debt_ge b ((hsame b).1 ▸ hb)

/-- Writing one trove's record, and then only stakes, snapshots and indices: the record is active
exactly when the list holds it, with the debt floor if active, and no other membership changes. -/
theorem write (h : ActiveTroves st) {borrower : Address} {t : Trove}
    (hsame : SameAmounts (Function.update st.troveManager.Troves borrower t)
      st'.troveManager.Troves)
    (hlisted : t.status = .active ↔ st'.sortedTroves.contains borrower = true)
    (hothers : ∀ b ≠ borrower, st'.sortedTroves.contains b = st.sortedTroves.contains b)
    (hdebt : t.status = .active → MIN_NET_DEBT + ZUSD_GAS_COMPENSATION ≤ t.debt) :
    ActiveTroves st' where
  listed b := by
    rw [(hsame b).1]
    by_cases hb : b = borrower
    · subst hb
      rw [Function.update_self]
      exact hlisted
    · rw [Function.update_of_ne hb, hothers b hb]
      exact h.listed b
  debt_ge b hb := by
    rw [(hsame b).1] at hb
    rw [(hsame b).2.2]
    by_cases hbb : b = borrower
    · subst hbb
      rw [Function.update_self] at hb ⊢
      exact hdebt hb
    · rw [Function.update_of_ne hbb] at hb ⊢
      exact h.debt_ge b hb

/-- `_closeTrove` gives the trove a closed status and takes it out of the list. -/
theorem closeTrove (h : ActiveTroves st) {borrower : Address} {status : Status}
    (hclose : TroveManager.closeTrove st borrower status = .ok st') : ActiveTroves st' := by
  obtain ⟨⟨-, hclosed⟩, -, tm', sortedTroves, howner, hremove, rfl⟩ :=
    TroveManager.closeTrove_eq_ok hclose
  refine h.write (removeTroveOwner_sameAmounts howner) ?_ (fun b hb => ?_) (fun hactive => ?_)
  · simp [hclosed, SortedTroves.remove_contains hremove]
  · simp [SortedTroves.remove_contains hremove, hb]
  · exact absurd hactive hclosed

theorem closingInvariant : ClosingInvariant ActiveTroves where
  frame hsame hsorted h := h.frame hsame.amounts (by rw [hsorted])
  closeTrove hclose h := h.closeTrove hclose

end ActiveTroves

variable {cfg : Config} {st st' : System} {borrower : Address}

/-- Applying pending rewards never lowers a trove's debt. -/
theorem applyPendingRewards_debt_le (h : applyPendingRewards st borrower = .ok st') (b : Address) :
    (st.troveManager.Troves b).debt ≤ (st'.troveManager.Troves b).debt := by
  rcases applyPendingRewards_Troves h with hsame | ⟨-, hTroves⟩
  · exact ((hsame b).2.2).ge
  · rw [hTroves]
    by_cases hb : b = borrower
    · subst hb
      simp
    · rw [Function.update_of_ne hb]

theorem applyPendingRewards_activeTroves (h : applyPendingRewards st borrower = .ok st')
    (hA : ActiveTroves st) : ActiveTroves st' := by
  have hsorted := (applyPendingRewards_frame h).1
  rcases applyPendingRewards_Troves h with hsame | ⟨hactive, hTroves⟩
  · exact hA.frame hsame (by rw [hsorted])
  · -- the rewards add to an active trove's amounts
    refine hA.write (by rw [hTroves]; exact SameAmounts.refl _) ?_ (fun b _ => by rw [hsorted])
      (fun _ => ?_)
    · rw [hsorted]
      exact hA.listed borrower
    · have hfloor := hA.debt_ge borrower hactive
      dsimp only
      omega

/-! ## Redemptions -/

section Redemptions

variable {gas price : ℕ}

/-- A redemption closes the trove, leaves it, or re-inserts it with a new debt whose net part it
checked against the minimum. -/
theorem redeemCollateralFromTrove_activeTroves {maxZUSDamount NICR : ℕ}
    {upperHint lowerHint : Address} {v : SingleRedemptionValues}
    (h : redeemCollateralFromTrove cfg st gas borrower maxZUSDamount price upperHint lowerHint NICR =
      .ok (st', v))
    (hA : ActiveTroves st) : ActiveTroves st' := by
  obtain ⟨-, -, -, -, -, hcases⟩ := redeemCollateralFromTrove_eq_ok h
  rcases hcases with ⟨-, -, tm, st₂, hstake, hclose, hredeem⟩ | ⟨-, rfl⟩ |
    ⟨-, -, hmin, sortedTroves, tm, stake, hreinsert, hstake, rfl⟩
  · -- only the gas compensation is left: the trove is closed
    exact ActiveTroves.closingInvariant.redeemClosing hstake hclose hredeem hA
  · -- a cancelled partial redemption writes nothing
    exact hA
  · -- the partial redemption re-inserts the trove, which stays active
    refine hA.write (updateStakeAndTotalStakes_sameAmounts hstake) ?_ (fun b _ => ?_)
      (fun _ => hmin)
    · rw [SortedTroves.reInsert_contains hreinsert]
      exact hA.listed borrower
    · rw [SortedTroves.reInsert_contains hreinsert]

end Redemptions

end ZeroProtocol.TroveManager

namespace ZeroProtocol.BorrowerOperations

open LiquityMath LiquityBase TroveManager

variable {cfg : Config} {st st' : System} {gas : ℕ}

/-! ## The net debt a borrower operation leaves -/

section NetDebt

/-- The trove `openTrove` opens owes the net debt it checked against the minimum, and the gas
compensation. -/
theorem openTrove_debt_ge {sender upperHint lowerHint : Address}
    {value maxFeePercentage ZUSDAmount : ℕ}
    (h : openTrove cfg st gas sender value maxFeePercentage ZUSDAmount upperHint lowerHint =
      .ok st') :
    MIN_NET_DEBT + ZUSD_GAS_COMPENSATION ≤ (st'.troveManager.Troves sender).debt := by
  obtain ⟨-, st₁, fee, tm₂, stake, sortedTroves, st₃, -, hmin, -, hstake, -, hmint₁, hmint₂⟩ :=
    openTrove_eq_ok h
  rw [(mintZusdAndIncreaseActivePoolDebt_frame hmint₂).1,
    (mintZusdAndIncreaseActivePoolDebt_frame hmint₁).1]
  -- the stake and the owners array keep the debt the trove was given
  have hsame : SameAmounts _ (addTroveOwnerToArray tm₂ sender).1.Troves :=
    (updateStakeAndTotalStakes_sameAmounts hstake).trans addTroveOwnerToArray_sameAmounts
  have hdebt := (hsame sender).2.2
  simp only [updateTroveRewardSnapshots_Troves, TroveManagerStorage.updateTrove_Troves,
    Function.update_self] at hdebt
  rw [show (activePoolAddColl _ value).troveManager = (addTroveOwnerToArray tm₂ sender).1 from rfl,
    hdebt, getCompositeDebt]
  omega

theorem getNewTroveAmounts_debt {coll debt collChange debtChange newColl newDebt : ℕ}
    {isCollIncrease isDebtIncrease : Bool}
    (h : getNewTroveAmounts coll debt collChange isCollIncrease debtChange isDebtIncrease =
      .ok (newColl, newDebt)) : applyChange debt debtChange isDebtIncrease = .ok newDebt := by
  simp only [getNewTroveAmounts, Revert.bind_eq_ok, Revert.pure_eq_ok, Prod.mk.injEq] at h
  obtain ⟨_, -, _, hdebt, -, rfl⟩ := h
  exact hdebt

/-- An adjustment keeps the trove above the floor: a debt increase adds to the debt, and a
repayment checks the net debt it leaves against the minimum. -/
theorem adjustSenderTrove_debt_ge {caller borrower upperHint lowerHint tokensRecipient : Address}
    {value collWithdrawal ZUSDChange maxFeePercentage : ℕ} {isDebtIncrease : Bool}
    (h : adjustSenderTrove cfg st gas caller value borrower collWithdrawal ZUSDChange
      isDebtIncrease upperHint lowerHint maxFeePercentage tokensRecipient = .ok st')
    (hfloor : MIN_NET_DEBT + ZUSD_GAS_COMPENSATION ≤ (st.troveManager.Troves borrower).debt) :
    MIN_NET_DEBT + ZUSD_GAS_COMPENSATION ≤ (st'.troveManager.Troves borrower).debt := by
  cases isDebtIncrease with
  | true =>
    obtain ⟨st₁, fee, newColl, newDebt, hpending, -, -, hamounts, -, hsame⟩ :=
      adjustSenderTrove_spec h
    have hnew := applyChange_eq_ok (getNewTroveAmounts_debt hamounts)
    have hpending_le := applyPendingRewards_debt_le hpending borrower
    have hdebt := (hsame borrower).2.2
    rw [Function.update_self] at hdebt
    rw [hdebt]
    dsimp only
    simp only [signedChange_true] at hnew
    omega
  | false =>
    obtain ⟨-, -, st₁, st₂, fee, oldICR, newICR, tm₃, tm₄, stake, NICR, sortedTroves, hpending,
      hfee, -, hrepayment, hupdate, hstake, -, -, hmove⟩ := adjustSenderTrove_eq_ok h
    -- no fee is charged on a repayment
    obtain ⟨rfl, rfl⟩ : st₂ = st₁ ∧ fee = 0 := by
      rcases hfee with ⟨hincrease, -⟩ | ⟨-, hst, hfee⟩
      · cases hincrease
      · exact ⟨hst, hfee⟩
    have hfloor₁ := hfloor.trans (applyPendingRewards_debt_le hpending borrower)
    -- the trove's debt less the repayment
    obtain ⟨newColl, newDebt, hamounts, hTroves₃⟩ := updateTroveFromAdjustment_spec hupdate
    have hnew := applyChange_eq_ok (getNewTroveAmounts_debt hamounts)
    rw [(moveTokensAndETHfromAdjustment_frame hmove).1]
    change _ ≤ (tm₄.Troves borrower).debt
    rw [(updateStakeAndTotalStakes_sameAmounts hstake borrower).2.2, hTroves₃, Function.update_self]
    simp only [signedChange_false] at hnew
    dsimp only at hnew ⊢
    -- only a repayment checks the net debt it leaves
    rcases Nat.eq_zero_or_pos ZUSDChange with hzero | hpos
    · omega
    · have hleft := hrepayment rfl hpos
      omega

end NetDebt

/-! ## Borrower operations -/

section Operations

theorem openTrove_activeTroves {sender upperHint lowerHint : Address}
    {value maxFeePercentage ZUSDAmount : ℕ}
    (h : openTrove cfg st gas sender value maxFeePercentage ZUSDAmount upperHint lowerHint =
      .ok st')
    (hA : ActiveTroves st) : ActiveTroves st' := by
  obtain ⟨-, fee, -, ⟨key, hinsert⟩, hsame⟩ := openTrove_spec h
  have hfloor := openTrove_debt_ge h
  -- the opened trove is active and joins the list
  refine hA.write hsame ?_ (fun b hb => ?_) (fun _ => ?_)
  · simp [SortedTroves.insert_contains hinsert]
  · simp [SortedTroves.insert_contains hinsert, hb]
  · have hdebt := (hsame sender).2.2
    rw [Function.update_self] at hdebt
    rw [← hdebt]
    exact hfloor

theorem adjustSenderTrove_activeTroves
    {caller borrower upperHint lowerHint tokensRecipient : Address}
    {value collWithdrawal ZUSDChange maxFeePercentage : ℕ} {isDebtIncrease : Bool}
    (h : adjustSenderTrove cfg st gas caller value borrower collWithdrawal ZUSDChange
      isDebtIncrease upperHint lowerHint maxFeePercentage tokensRecipient = .ok st')
    (hA : ActiveTroves st) : ActiveTroves st' := by
  obtain ⟨st₁, fee, newColl, newDebt, hpending, hactive, -, -, ⟨key, hreinsert⟩, hsame⟩ :=
    adjustSenderTrove_spec h
  have hA₁ := applyPendingRewards_activeTroves hpending hA
  have hsorted₁ := (applyPendingRewards_frame hpending).1
  have hfloor := adjustSenderTrove_debt_ge h
    (hA.debt_ge borrower (by rw [← applyPendingRewards_status hpending]; exact hactive))
  -- the adjusted trove stays active and in the list
  refine hA₁.write hsame ?_ (fun b _ => ?_) (fun _ => ?_)
  · rw [SortedTroves.reInsert_contains hreinsert, ← hsorted₁]
    exact hA₁.listed borrower
  · rw [SortedTroves.reInsert_contains hreinsert, hsorted₁]
  · have hdebt := (hsame borrower).2.2
    rw [Function.update_self] at hdebt
    rw [← hdebt]
    exact hfloor

theorem closeTrove_activeTroves {sender : Address} (h : closeTrove cfg st sender = .ok st')
    (hA : ActiveTroves st) : ActiveTroves st' :=
  ActiveTroves.closingInvariant.borrowerCloseTrove applyPendingRewards_activeTroves h hA

end Operations

end ZeroProtocol.BorrowerOperations

namespace ZeroProtocol

open LiquityMath LiquityBase TroveManager

variable {cfg : Config} {st st' : System}

/-- **Step lemma.**  Every call keeps the active troves listed and above the debt floor. -/
theorem Op.run_activeTroves {op : Op} {gas : ℕ} (h : op.run cfg gas st = .ok st')
    (hA : ActiveTroves st) : ActiveTroves st' :=
  ActiveTroves.closingInvariant.run BorrowerOperations.openTrove_activeTroves
    BorrowerOperations.adjustSenderTrove_activeTroves BorrowerOperations.closeTrove_activeTroves
    applyPendingRewards_activeTroves redeemCollateralFromTrove_activeTroves h hA

/-- **Run lemma.**  Every state reached from deployment satisfies `ActiveTroves`. -/
theorem reachable_activeTroves {timestamp price maxSize : ℕ}
    (h : Reachable cfg (System.init timestamp price maxSize) st) : ActiveTroves st :=
  Reachability.Reachable.induction (P := ActiveTroves) (ActiveTroves.init timestamp price maxSize)
    (fun _ _ hA ⟨_, _, hrun⟩ => Op.run_activeTroves hrun hA) h

/-- In every state reached from deployment, a trove is active exactly when the sorted list holds
it. -/
theorem reachable_active_iff_listed {timestamp price maxSize : ℕ}
    (h : Reachable cfg (System.init timestamp price maxSize) st) (b : Address) :
    (st.troveManager.Troves b).status = .active ↔ st.sortedTroves.contains b = true :=
  (reachable_activeTroves h).listed b

/-- After the liquidation run, trove `3` has been liquidated and left the list, while trove `1`
is active and listed. -/
theorem reachable_active_iff_listed_liquidationRun :
    ∃ st, Reachable Config.sample System.sample st ∧
      (st.troveManager.Troves 3).status ≠ .active ∧
      ((st.troveManager.Troves 1).status = .active ↔ st.sortedTroves.contains 1 = true) ∧
      st.sortedTroves.contains 1 = true := by
  obtain ⟨st₀, hreach₀, -, st, hst, -, -, -, -, hclosed, hlisted⟩ := liquidationRun_states
  have hreach := hreach₀.run hst
  exact ⟨st, hreach, hclosed, reachable_active_iff_listed hreach 1, hlisted⟩

/-- In every state reached from deployment, every active trove owes at least the minimum net debt
and the gas compensation. -/
theorem reachable_activeDebt_ge {timestamp price maxSize : ℕ}
    (h : Reachable cfg (System.init timestamp price maxSize) st) {b : Address}
    (hb : (st.troveManager.Troves b).status = .active) :
    MIN_NET_DEBT + ZUSD_GAS_COMPENSATION ≤ (st.troveManager.Troves b).debt :=
  (reachable_activeTroves h).debt_ge b hb

/-- After the liquidation run, trove `1` is active and owes at least the floor. -/
theorem reachable_activeDebt_ge_liquidationRun :
    ∃ st, Reachable Config.sample System.sample st ∧
      (st.troveManager.Troves 1).status = .active ∧
      MIN_NET_DEBT + ZUSD_GAS_COMPENSATION ≤ (st.troveManager.Troves 1).debt := by
  obtain ⟨st, hreach, ⟨-, hactive, -⟩, -⟩ := liquidationRun_states
  exact ⟨st, hreach, hactive, reachable_activeDebt_ge hreach hactive⟩

end ZeroProtocol
