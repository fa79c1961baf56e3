import ZeroProtocol.Lib.IndexedArray
import ZeroProtocol.System.ActiveTroves
import ZeroProtocol.TroveManager.Eligibility

/-!
# The owners array is the sorted list, indexed

`TroveOwners` records the open troves a second time, next to the sorted list: an array in which
every trove records its own slot (`arrayIndex`), so that `_removeTroveOwner` deletes it in
constant time by moving the last owner into the hole (`IndexedArray.swapPop`).  In every state
reached from deployment the array holds exactly the listed troves, each once, at the slot it
records, and has the list's size (`OwnersIndexed`).

* `_openTrove` appends a trove that the list did not hold, at the new last slot, as it inserts the
  trove in the list (`IndexedArray.Indexed.append`).
* `_closeTrove` swaps and pops a trove that the list held, as it removes the trove from the list
  (`IndexedArray.Indexed.swapPop`); that is all a liquidation does to the array
  (`ClosingInvariant`).
* Every other write keeps the array and the indices (`SameOwners`), and the list's members and
  size (`SortedTroves.reInsert_contains`, `SortedTroves.reInsert_size`).
-/

namespace ZeroProtocol

open LiquityMath LiquityBase IndexedArray

namespace TroveManager

/-- The owners array holds exactly the troves of the sorted list, each once, at the slot it
records, and has the list's size. -/
structure OwnersIndexed (st : System) : Prop where
  listed : ∀ b, b ∈ st.troveManager.TroveOwners ↔ st.sortedTroves.contains b = true
  nodup : st.troveManager.TroveOwners.Nodup
  indexed : Indexed st.troveManager.TroveOwners fun b => (st.troveManager.Troves b).arrayIndex
  length : st.troveManager.TroveOwners.length = st.sortedTroves.size

/-! ## The writes of the array -/

section Writes

variable {tm tm' : TroveManagerStorage} {borrower : Address}

theorem updateStakeAndTotalStakes_sameOwners {stake : ℕ}
    (h : updateStakeAndTotalStakes tm borrower = .ok (tm', stake)) : SameOwners tm tm' := by
  simp only [updateStakeAndTotalStakes, Revert.bind_eq_ok, SafeMath.sub_eq_ok, Revert.pure_eq_ok,
    Prod.mk.injEq] at h
  obtain ⟨_, -, _, -, rfl, -⟩ := h
  exact SameOwners.update rfl rfl rfl

/-- `_addTroveOwnerToArray` appends the trove, which records the new last slot. -/
theorem addTroveOwnerToArray_owners (tm : TroveManagerStorage) (borrower : Address) :
    (addTroveOwnerToArray tm borrower).1.TroveOwners = tm.TroveOwners ++ [borrower] ∧
      ∀ b, ((addTroveOwnerToArray tm borrower).1.Troves b).arrayIndex =
        if b = borrower then tm.TroveOwners.length else (tm.Troves b).arrayIndex := by
  refine ⟨rfl, fun b => ?_⟩
  simp only [addTroveOwnerToArray, TroveManagerStorage.updateTrove_Troves, Function.update_apply]
  split_ifs <;> simp

/-- `_removeTroveOwner`, called with the array's length, swaps and pops the trove's slot; the
owner moved into the slot records it. -/
theorem removeTroveOwner_owners (h : removeTroveOwner tm borrower tm.TroveOwners.length = .ok tm') :
    tm'.TroveOwners = swapPop tm.TroveOwners (tm.Troves borrower).arrayIndex 0 ∧
      ∀ b, (tm'.Troves b).arrayIndex =
        if b = tm.TroveOwners.getD (tm.TroveOwners.length - 1) 0 then
          (tm.Troves borrower).arrayIndex
        else (tm.Troves b).arrayIndex := by
  simp only [removeTroveOwner, Revert.bind_eq_ok, Revert.assert_eq_ok, SafeMath.sub_eq_ok,
    Revert.pure_eq_ok] at h
  obtain ⟨_, -, _, ⟨-, rfl⟩, _, -, rfl⟩ := h
  refine ⟨rfl, fun b => ?_⟩
  simp only [TroveManagerStorage.updateTrove_Troves, Function.update_apply]
  split_ifs <;> rfl

end Writes

variable {cfg : Config} {st st' : System} {borrower : Address}

/-- `_closeTrove` removes the trove from the list and swaps and pops its slot of the array. -/
theorem closeTrove_owners {status : Status} (h : closeTrove st borrower status = .ok st') :
    SortedTroves.remove st.sortedTroves borrower = .ok st'.sortedTroves ∧
      st'.troveManager.TroveOwners =
        swapPop st.troveManager.TroveOwners (st.troveManager.Troves borrower).arrayIndex 0 ∧
      ∀ b, (st'.troveManager.Troves b).arrayIndex =
        if b = st.troveManager.TroveOwners.getD (st.troveManager.TroveOwners.length - 1) 0 then
          (st.troveManager.Troves borrower).arrayIndex
        else (st.troveManager.Troves b).arrayIndex := by
  obtain ⟨-, -, tm', sortedTroves, howner, hremove, rfl⟩ := closeTrove_eq_ok h
  -- the closed status and the cleared snapshot keep every index
  have hsame : SameOwners st.troveManager
      (st.troveManager.updateTrove borrower fun t => { t with status := status, coll := 0, debt := 0 }) :=
    SameOwners.update rfl rfl rfl
  obtain ⟨hOwners, hindex⟩ := removeTroveOwner_owners howner
  refine ⟨hremove, ?_, fun b => ?_⟩
  · rw [hOwners, hsame.arrayIndex]
    rfl
  · rw [hindex]
    simp only [hsame.arrayIndex]
    rfl

/-- Applying pending rewards writes the amounts and snapshots of one trove. -/
theorem applyPendingRewards_sameOwners (h : applyPendingRewards st borrower = .ok st') :
    SameOwners st.troveManager st'.troveManager := by
  cases hp : hasPendingRewards st.troveManager borrower with
  | false =>
    rw [applyPendingRewards_of_not_hasPendingRewards hp, Except.ok.injEq] at h
    exact h ▸ SameOwners.refl _
  | true =>
    rw [applyPendingRewards_troveManager hp h]
    exact SameOwners.update rfl rfl rfl

namespace OwnersIndexed

theorem init (timestamp price maxSize : ℕ) : OwnersIndexed (System.init timestamp price maxSize) where
  listed _ := by simp [System.init, TroveManagerStorage.init]
  nodup := List.nodup_nil
  indexed := Indexed.nil _
  length := rfl

/-- Writes that keep the array, the indices and the list's members and size. -/
theorem of_sameOwners (h : OwnersIndexed st) (hsame : SameOwners st.troveManager st'.troveManager)
    (hcontains : st'.sortedTroves.contains = st.sortedTroves.contains)
    (hsize : st'.sortedTroves.size = st.sortedTroves.size) : OwnersIndexed st' where
  listed b := by rw [hsame.TroveOwners, hcontains]; exact h.listed b
  nodup := by rw [hsame.TroveOwners]; exact h.nodup
  indexed := by rw [hsame.TroveOwners]; exact h.indexed.congr hsame.arrayIndex
  length := by rw [hsame.TroveOwners, hsize]; exact h.length

/-- Closing a trove that the list holds swaps and pops its slot, which holds it. -/
theorem closeTrove (h : OwnersIndexed st) {status : Status}
    (hclose : TroveManager.closeTrove st borrower status = .ok st') : OwnersIndexed st' := by
  obtain ⟨hremove, hOwners, hindex⟩ := closeTrove_owners hclose
  -- the closed trove was listed, so it sits at the slot it records
  obtain ⟨hmem, -, -⟩ := SortedTroves.remove_eq_ok hremove
  obtain ⟨hlt, hget⟩ := h.indexed.getElem_idx ((h.listed borrower).2 hmem)
  refine ⟨fun z => ?_, ?_, ?_, ?_⟩
  · rw [hOwners, mem_swapPop h.nodup hlt, hget, h.listed, SortedTroves.remove_contains hremove]
    simp [and_comm]
  · rw [hOwners]
    exact nodup_swapPop h.nodup hlt
  · rw [hOwners]
    exact h.indexed.swapPop h.nodup hlt (by rw [hindex, if_pos rfl])
      fun a ha => by rw [hindex, if_neg ha]
  · rw [hOwners, length_swapPop, h.length]
    have hsize := SortedTroves.remove_size hremove
    omega

theorem closingInvariant : ClosingInvariant OwnersIndexed where
  frame hsame hsorted h := h.of_sameOwners hsame.toSameOwners (by rw [hsorted]) (by rw [hsorted])
  closeTrove hclose h := h.closeTrove hclose

end OwnersIndexed

theorem applyPendingRewards_ownersIndexed (h : applyPendingRewards st borrower = .ok st')
    (hO : OwnersIndexed st) : OwnersIndexed st' := by
  have hsorted := (applyPendingRewards_frame h).1
  exact hO.of_sameOwners (applyPendingRewards_sameOwners h) (by rw [hsorted]) (by rw [hsorted])

/-- A redemption that closes the trove swaps and pops it; one that leaves it open re-inserts it
in the list and writes its amounts and stake. -/
theorem redeemCollateralFromTrove_ownersIndexed {gas maxZUSDamount price NICR : ℕ}
    {upperHint lowerHint : Address} {v : SingleRedemptionValues}
    (h : redeemCollateralFromTrove cfg st gas borrower maxZUSDamount price upperHint lowerHint NICR =
      .ok (st', v))
    (hO : OwnersIndexed st) : OwnersIndexed st' := by
  obtain ⟨-, -, -, -, -, hcases⟩ := redeemCollateralFromTrove_eq_ok h
  rcases hcases with ⟨-, -, tm, st₂, hstake, hclose, hredeem⟩ | ⟨-, rfl⟩ |
    ⟨-, -, -, sortedTroves, tm, stake, hreinsert, hstake, rfl⟩
  · -- only the gas compensation is left: the trove is closed
    exact OwnersIndexed.closingInvariant.redeemClosing hstake hclose hredeem hO
  · -- a cancelled partial redemption writes nothing
    exact hO
  · -- a partial redemption: the trove moves in the list and keeps its slot
    have hsame : SameOwners st.troveManager (st.troveManager.updateTrove borrower fun t =>
        { t with debt := (st.troveManager.Troves borrower).debt - v.ZUSDLot,
                 coll := (st.troveManager.Troves borrower).coll - v.ETHLot }) :=
      SameOwners.update rfl rfl rfl
    exact hO.of_sameOwners (hsame.trans (updateStakeAndTotalStakes_sameOwners hstake))
      (SortedTroves.reInsert_contains hreinsert) (SortedTroves.reInsert_size hreinsert)

end TroveManager

namespace BorrowerOperations

open TroveManager

variable {cfg : Config} {st st' : System} {gas : ℕ}

section Functions

variable {tm tm' : TroveManagerStorage} {borrower : Address}

theorem triggerBorrowingFee_sameOwners {ZUSDAmount maxFeePercentage fee : ℕ}
    (h : triggerBorrowingFee cfg st ZUSDAmount maxFeePercentage = .ok (st', fee)) :
    SameOwners st.troveManager st'.troveManager := by
  obtain ⟨fees, zusdToken, -, -, -, rfl⟩ := triggerBorrowingFee_eq_ok h
  exact ⟨fun _ => rfl, rfl⟩

theorem updateTroveFromAdjustment_sameOwners {collChange debtChange : ℕ}
    {isCollIncrease isDebtIncrease : Bool}
    (h : updateTroveFromAdjustment tm borrower collChange isCollIncrease debtChange isDebtIncrease =
      .ok tm') :
    SameOwners tm tm' := by
  obtain ⟨newColl, newDebt, -, rfl⟩ := updateTroveFromAdjustment_eq_ok h
  exact SameOwners.update rfl rfl rfl

end Functions

/-- `_openTrove` writes the indices and the array only by appending the new trove. -/
theorem openTrove_owners {sender upperHint lowerHint : Address}
    {value maxFeePercentage ZUSDAmount : ℕ}
    (h : openTrove cfg st gas sender value maxFeePercentage ZUSDAmount upperHint lowerHint =
      .ok st') :
    ∃ tm₂, SameOwners st.troveManager tm₂ ∧
      st'.troveManager = (addTroveOwnerToArray tm₂ sender).1 := by
  obtain ⟨-, st₁, fee, tm₂, stake, sortedTroves, st₃, hfee, -, -, hstake, -, hmint₁, hmint₂⟩ :=
    openTrove_eq_ok h
  -- the fee is charged in Normal Mode only
  have htm₁ : SameOwners st.troveManager st₁.troveManager := by
    rcases hfee with ⟨-, hfee⟩ | ⟨-, rfl, -⟩
    · exact triggerBorrowingFee_sameOwners hfee
    · exact SameOwners.refl _
  obtain ⟨htm₃, -⟩ := mintZusdAndIncreaseActivePoolDebt_frame hmint₁
  obtain ⟨htm', -⟩ := mintZusdAndIncreaseActivePoolDebt_frame hmint₂
  -- the new record and its snapshots keep every index
  have hsame : SameOwners st₁.troveManager
      (updateTroveRewardSnapshots (st₁.troveManager.updateTrove sender fun t =>
        { t with status := .active, coll := t.coll + value,
                 debt := t.debt + getCompositeDebt (ZUSDAmount + fee) }) sender) :=
    SameOwners.update rfl rfl rfl
  refine ⟨tm₂, htm₁.trans (hsame.trans (updateStakeAndTotalStakes_sameOwners hstake)), ?_⟩
  rw [htm', htm₃]
  rfl

/-- `_adjustSenderTrove` writes amounts, stakes and the fee state, never the array or an index. -/
theorem adjustSenderTrove_sameOwners
    {caller borrower upperHint lowerHint tokensRecipient : Address}
    {value collWithdrawal ZUSDChange maxFeePercentage : ℕ} {isDebtIncrease : Bool}
    (h : adjustSenderTrove cfg st gas caller value borrower collWithdrawal ZUSDChange
      isDebtIncrease upperHint lowerHint maxFeePercentage tokensRecipient = .ok st') :
    SameOwners st.troveManager st'.troveManager := by
  obtain ⟨-, -, st₁, st₂, fee, oldICR, newICR, tm₃, tm₄, stake, NICR, sortedTroves, hpending, hfee,
    -, -, htm₃, hstake, -, -, hmove⟩ := adjustSenderTrove_eq_ok h
  -- the fee is charged on a debt increase in Normal Mode only
  have htm₂ : SameOwners st.troveManager st₂.troveManager := by
    refine (applyPendingRewards_sameOwners hpending).trans ?_
    rcases hfee with ⟨-, -, hfee⟩ | ⟨-, rfl, -⟩
    · exact triggerBorrowingFee_sameOwners hfee
    · exact SameOwners.refl _
  rw [(moveTokensAndETHfromAdjustment_frame hmove).1]
  exact htm₂.trans ((updateTroveFromAdjustment_sameOwners htm₃).trans
    (updateStakeAndTotalStakes_sameOwners hstake))

section Operations

theorem openTrove_ownersIndexed {sender upperHint lowerHint : Address}
    {value maxFeePercentage ZUSDAmount : ℕ}
    (h : openTrove cfg st gas sender value maxFeePercentage ZUSDAmount upperHint lowerHint =
      .ok st')
    (hO : OwnersIndexed st) : OwnersIndexed st' := by
  obtain ⟨-, fee, -, ⟨key, hinsert⟩, -⟩ := openTrove_spec h
  obtain ⟨tm₂, hsame, htm⟩ := openTrove_owners h
  obtain ⟨hOwners, hindex⟩ := addTroveOwnerToArray_owners tm₂ sender
  rw [← htm, hsame.TroveOwners] at hOwners
  rw [← htm] at hindex
  -- the new trove was not listed, so it was not in the array
  have hnew : sender ∉ st.troveManager.TroveOwners := by
    rw [hO.listed, (SortedTroves.insert_eq_ok hinsert).1]
    exact Bool.false_ne_true
  refine ⟨fun z => ?_, ?_, ?_, ?_⟩
  · rw [hOwners, SortedTroves.insert_contains hinsert, List.mem_append, hO.listed]
    simp [or_comm]
  · rw [hOwners]
    exact hO.nodup.append (List.nodup_singleton _) (by simpa using hnew)
  · rw [hOwners]
    exact hO.indexed.append hnew (by rw [hindex, if_pos rfl, hsame.TroveOwners])
      fun a ha => by rw [hindex, if_neg ha, hsame.arrayIndex]
  · rw [hOwners, List.length_append, hO.length, SortedTroves.insert_size hinsert]
    rfl

theorem adjustSenderTrove_ownersIndexed
    {caller borrower upperHint lowerHint tokensRecipient : Address}
    {value collWithdrawal ZUSDChange maxFeePercentage : ℕ} {isDebtIncrease : Bool}
    (h : adjustSenderTrove cfg st gas caller value borrower collWithdrawal ZUSDChange
      isDebtIncrease upperHint lowerHint maxFeePercentage tokensRecipient = .ok st')
    (hO : OwnersIndexed st) : OwnersIndexed st' := by
  obtain ⟨st₁, fee, newColl, newDebt, -, -, -, -, ⟨key, hreinsert⟩, -⟩ := adjustSenderTrove_spec h
  exact hO.of_sameOwners (adjustSenderTrove_sameOwners h) (SortedTroves.reInsert_contains hreinsert)
    (SortedTroves.reInsert_size hreinsert)

theorem closeTrove_ownersIndexed {sender : Address} (h : closeTrove cfg st sender = .ok st')
    (hO : OwnersIndexed st) : OwnersIndexed st' :=
  OwnersIndexed.closingInvariant.borrowerCloseTrove applyPendingRewards_ownersIndexed h hO

end Operations

end BorrowerOperations

variable {cfg : Config} {st st' : System}

open TroveManager

/-- **Step lemma.**  Every call keeps the owners array indexed and equal to the list. -/
theorem Op.run_ownersIndexed {op : Op} {gas : ℕ} (h : op.run cfg gas st = .ok st')
    (hO : OwnersIndexed st) : OwnersIndexed st' :=
  OwnersIndexed.closingInvariant.run BorrowerOperations.openTrove_ownersIndexed
    BorrowerOperations.adjustSenderTrove_ownersIndexed BorrowerOperations.closeTrove_ownersIndexed
    applyPendingRewards_ownersIndexed redeemCollateralFromTrove_ownersIndexed h hO

/-- **Run lemma.**  Every state reached from deployment satisfies `OwnersIndexed`. -/
theorem reachable_ownersIndexed {timestamp price maxSize : ℕ}
    (h : Reachable cfg (System.init timestamp price maxSize) st) : OwnersIndexed st :=
  Reachability.Reachable.induction (P := OwnersIndexed) (OwnersIndexed.init timestamp price maxSize)
    (fun _ _ hO ⟨_, _, hrun⟩ => Op.run_ownersIndexed hrun hO) h

/-- In every state reached from deployment, the owners array holds exactly the active troves,
each once, at the slot its record gives, and has the sorted list's size. -/
theorem reachable_troveOwners_indexed {timestamp price maxSize : ℕ}
    (h : Reachable cfg (System.init timestamp price maxSize) st) :
    (∀ b, (st.troveManager.Troves b).status = .active ↔ b ∈ st.troveManager.TroveOwners) ∧
      st.troveManager.TroveOwners.Nodup ∧
      (∀ (i : ℕ) (hi : i < st.troveManager.TroveOwners.length),
        (st.troveManager.Troves st.troveManager.TroveOwners[i]).arrayIndex = i) ∧
      st.troveManager.TroveOwners.length = st.sortedTroves.size := by
  have hO := reachable_ownersIndexed h
  refine ⟨fun b => ?_, hO.nodup, hO.indexed, hO.length⟩
  rw [(reachable_activeTroves h).listed b, hO.listed b]

/-- Liquidating trove `2` after `trackerRun` moves trove `3`, the last owner, into its slot. -/
theorem reachable_troveOwners_indexed_trackerRun :
    ∃ st, Reachable Config.sample System.sample st ∧
      st.troveManager.TroveOwners = [1, 3] ∧ (st.troveManager.Troves 3).arrayIndex = 1 ∧
      (∀ b, (st.troveManager.Troves b).status = .active ↔ b ∈ st.troveManager.TroveOwners) ∧
      st.troveManager.TroveOwners.Nodup ∧
      (∀ (i : ℕ) (hi : i < st.troveManager.TroveOwners.length),
        (st.troveManager.Troves st.troveManager.TroveOwners[i]).arrayIndex = i) ∧
      st.troveManager.TroveOwners.length = st.sortedTroves.size := by
  obtain ⟨st₀, hreach₀, -, -, st, hst, howners, hmoved⟩ := trackerRun_states
  have hreach := hreach₀.run hst
  exact ⟨st, hreach, howners, hmoved, reachable_troveOwners_indexed hreach⟩

end ZeroProtocol
