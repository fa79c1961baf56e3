import ZeroProtocol.TroveManager.LiquidationAccounting

/-!
# Which troves a liquidation may close

A liquidation closes a trove only for a reason the source gives in advance (`Eligible`): the
trove's ICR, with its pending rewards, is below `MCR`; or the system is in Recovery Mode by the
totals the sequence tracks, the trove's ICR is below their ratio and the Stability Pool's
remaining ZUSD covers its whole debt, and then the borrower keeps the collateral above `MCR`
times the debt as surplus.  Besides, the sorted sequence never reaches the list's first trove
in Recovery Mode, and every closing leaves an owner in the array.

The proof runs the induction rules of `TroveManager.LiquidationAccounting` with a richer
invariant, `SequenceEligible`, and, for the recovery-mode sequences, `Tracks`: while the
sequence is in Recovery Mode, its variables are the tracked totals after the troves it has
closed, and their ratio is below `CCR`.

The tracked totals are what each sequence subtracts after a trove it closes in Recovery Mode:
the debt offset, and from the collateral the Stability Pool's share and the surplus in
`liquidateTroves` (`sortedCollDrop`) but the Stability Pool's share only in
`batchLiquidateTroves` (`batchCollDrop`).  Neither subtracts the gas compensation.  After a
capped liquidation with a surplus the two calls therefore judge the next trove differently:
the run `trackerRun` reaches a state from which they close different troves.
-/

namespace ZeroProtocol.TroveManager

open LiquityMath LiquityBase

/-! ## The tracked totals and the eligibility of a trove -/

/-- The part of a closed trove's collateral that the sorted recovery-mode sequence subtracts
from the tracked system collateral: the Stability Pool's share and the surplus. -/
def sortedCollDrop (v : LiquidationValues) : ℕ := v.collToSendToSP + v.collSurplus

/-- The part that the batch's recovery-mode sequence subtracts: the Stability Pool's share. -/
def batchCollDrop (v : LiquidationValues) : ℕ := v.collToSendToSP

/-- The system collateral that a recovery-mode sequence from `st₀` tracks after closing the
troves of `log`. -/
def trackedColl (st₀ : System) (collDrop : LiquidationValues → ℕ)
    (log : List (Address × LiquidationValues)) : ℕ :=
  getEntireSystemColl st₀ - sumOf log collDrop

/-- The system debt that a recovery-mode sequence from `st₀` tracks after closing the troves of
`log`. -/
def trackedDebt (st₀ : System) (log : List (Address × LiquidationValues)) : ℕ :=
  getEntireSystemDebt st₀ - sumOf log LiquidationValues.debtToOffset

/-- Why a liquidation from `st₀` at `price` may close `b` with the values `v` after closing the
troves of `pre`: `b`'s ICR is below `MCR`, or the ratio of the tracked totals is below `CCR`,
`b`'s ICR is below it, the pool's remaining ZUSD covers `b`'s debt, and `b`'s surplus is its
collateral above `MCR` times its debt. -/
def Eligible (cfg : Config) (st₀ : System) (price : ℕ) (collDrop : LiquidationValues → ℕ)
    (pre : List (Address × LiquidationValues)) (b : Address) (v : LiquidationValues) : Prop :=
  getCurrentICR st₀.troveManager b price < cfg.params.MCR ∨
    (computeCR (trackedColl st₀ collDrop pre) (trackedDebt st₀ pre) price < cfg.params.CCR ∧
      getCurrentICR st₀.troveManager b price <
        computeCR (trackedColl st₀ collDrop pre) (trackedDebt st₀ pre) price ∧
      v.entireTroveDebt ≤
        st₀.stabilityPool.totalZUSDDeposits - sumOf pre LiquidationValues.debtToOffset ∧
      v.collSurplus = v.entireTroveColl - v.entireTroveDebt * cfg.params.MCR / price)

/-- Every trove of `log` was eligible after the troves closed before it. -/
def EligibleLog (cfg : Config) (st₀ : System) (price : ℕ) (collDrop : LiquidationValues → ℕ)
    (log : List (Address × LiquidationValues)) : Prop :=
  ∀ pre b v post, log = pre ++ (b, v) :: post → Eligible cfg st₀ price collDrop pre b v

section Log

variable {cfg : Config} {st₀ : System} {price : ℕ} {collDrop : LiquidationValues → ℕ}
  {log : List (Address × LiquidationValues)}

theorem EligibleLog.nil : EligibleLog cfg st₀ price collDrop [] := by
  intro pre b v post h
  simp at h

theorem EligibleLog.append {b : Address} {v : LiquidationValues}
    (hlog : EligibleLog cfg st₀ price collDrop log) (hv : Eligible cfg st₀ price collDrop log b v) :
    EligibleLog cfg st₀ price collDrop (log ++ [(b, v)]) := by
  intro pre c w post heq
  rcases post.eq_nil_or_concat with rfl | ⟨post', x, rfl⟩
  · -- the new trove: the troves before it are the log
    obtain ⟨rfl, hlast⟩ := List.append_inj' heq rfl
    obtain ⟨rfl, rfl⟩ := Prod.mk.inj (List.singleton_inj.mp hlast)
    exact hv
  · -- a trove of the log: its own past is unchanged
    rw [List.concat_eq_append, ← List.cons_append, ← List.append_assoc] at heq
    exact hlog pre c w post' (List.append_inj' heq rfl).1

end Log

/-! ## A sequence closes eligible troves only -/

section Sequence

variable {tm tm' : TroveManagerStorage} {b : Address} {price : ℕ}

/-- The ICR reads a trove's entire debt and collateral only. -/
theorem getCurrentICR_congr (h : getEntireDebtAndColl tm' b = getEntireDebtAndColl tm b) :
    getCurrentICR tm' b price = getCurrentICR tm b price := by
  have hdebt := congrArg (fun e => e.1) h
  have hcoll := congrArg (fun e => e.2.1) h
  simp only [getEntireDebtAndColl] at hdebt hcoll
  simp only [getCurrentICR, getCurrentTroveAmounts, hdebt, hcoll]

theorem checkPotentialRecoveryMode_eq_true {cfg : Config} {coll debt : ℕ} :
    checkPotentialRecoveryMode cfg price coll debt = true ↔
      computeCR coll debt price < cfg.params.CCR := by
  simp [checkPotentialRecoveryMode]

variable {st₀ st : System} {remaining : ℕ} {totals : LiquidationTotals}
  {log : List (Address × LiquidationValues)}

/-- A trove still on the list has the ICR it had at the sequence's start. -/
theorem SequenceAccounts.getCurrentICR_eq (hacc : SequenceAccounts st₀ st remaining totals log)
    (hb : st.sortedTroves.contains b = true) :
    getCurrentICR st.troveManager b price = getCurrentICR st₀.troveManager b price :=
  getCurrentICR_congr (hacc.keeps.entire b ((hacc.contains b).mp hb).2)

/-- The invariant of a liquidation sequence from `st₀` at `price` that has closed the troves of
`log`: its accounts, each closed trove eligible, and an owner left in the array once a trove has
been closed. -/
structure SequenceEligible (cfg : Config) (price : ℕ) (collDrop : LiquidationValues → ℕ)
    (st₀ st : System) (remaining : ℕ) (totals : LiquidationTotals)
    (log : List (Address × LiquidationValues)) : Prop where
  accounts : SequenceAccounts st₀ st remaining totals log
  eligible : EligibleLog cfg st₀ price collDrop log
  owners : log ≠ [] → 0 < st.troveManager.TroveOwners.length

/-- While a recovery-mode sequence is in Recovery Mode, its variables are the tracked totals
after the troves it has closed, and their ratio is below `CCR`. -/
def Tracks (cfg : Config) (price : ℕ) (collDrop : LiquidationValues → ℕ) (st₀ : System)
    (vars : SequenceVars) (log : List (Address × LiquidationValues)) : Prop :=
  vars.backToNormalMode = false →
    vars.entireSystemColl = trackedColl st₀ collDrop log ∧
      vars.entireSystemDebt = trackedDebt st₀ log ∧
      computeCR vars.entireSystemColl vars.entireSystemDebt price < cfg.params.CCR

namespace SequenceEligible

variable {cfg : Config} {collDrop : LiquidationValues → ℕ} {st' : System} {user : Address}
  {remaining' : ℕ} {totals' : LiquidationTotals}

theorem init (st : System) :
    SequenceEligible cfg price collDrop st st st.stabilityPool.totalZUSDDeposits
      LiquidationTotals.zero [] :=
  ⟨SequenceAccounts.init st, EligibleLog.nil, fun h => absurd rfl h⟩

/-- **Step lemma** for a normal-mode step: the trove it closes is below `MCR`. -/
theorem normalStep (hinv : SequenceEligible cfg price collDrop st₀ st remaining totals log)
    (hICR : getCurrentICR st.troveManager user price < cfg.params.MCR)
    (h : sequenceNormalStep cfg st user remaining totals = .ok (st', remaining', totals')) :
    ∃ v, SequenceEligible cfg price collDrop st₀ st' remaining' totals' (log ++ [(user, v)]) := by
  obtain ⟨v, hl, hremaining, rfl⟩ := sequenceNormalStep_spec h
  refine ⟨v, hinv.accounts.liquidate hl hremaining, hinv.eligible.append (.inl ?_),
    fun _ => hl.owners⟩
  rwa [← hinv.accounts.getCurrentICR_eq hl.contains]

/-- **Step lemma** for a recovery-mode step while the tracked ratio is below `CCR`, with
`collDrop'` the sequence's update of the tracked collateral, which subtracts `collDrop`. -/
theorem recoveryStep (hMCR : _100pct < cfg.params.MCR)
    {collDrop' : LiquidationValues → Except String ℕ} {vars vars' : SequenceVars}
    (hinv : SequenceEligible cfg price collDrop st₀ st vars.remainingZUSDInStabPool totals log)
    (htracks : Tracks cfg price collDrop st₀ vars log) (hmode : vars.backToNormalMode = false)
    (hdrop : ∀ v c, collDrop' v = .ok c → c = vars.entireSystemColl - collDrop v)
    (hzero : collDrop LiquidationValues.zero = 0)
    (h : sequenceRecoveryStep cfg price collDrop' st user
      (getCurrentICR st.troveManager user price) vars totals = .ok (st', vars', totals')) :
    ∃ log', SequenceEligible cfg price collDrop st₀ st' vars'.remainingZUSDInStabPool totals'
      log' ∧ Tracks cfg price collDrop st₀ vars' log' ∧ ∀ p ∈ log', p ∈ log ∨ p.1 = user := by
  obtain ⟨hcoll, hdebt, hTCR⟩ := htracks hmode
  obtain ⟨v, hcases, hremaining, hdebt', hcoll', hmode', rfl⟩ := sequenceRecoveryStep_spec h
  have hcollv := hdrop v _ hcoll'
  -- the new mode flag is read from the new tracked totals
  have htracks' : ∀ log', vars'.entireSystemColl = trackedColl st₀ collDrop log' →
      vars'.entireSystemDebt = trackedDebt st₀ log' → Tracks cfg price collDrop st₀ vars' log' := by
    intro log' hcoll'' hdebt'' hback
    have hcheck : checkPotentialRecoveryMode cfg price vars'.entireSystemColl
        vars'.entireSystemDebt = true := by simpa [hback] using hmode'
    exact ⟨hcoll'', hdebt'', checkPotentialRecoveryMode_eq_true.mp hcheck⟩
  rcases hcases with ⟨rfl, rfl⟩ | ⟨hl, hreason⟩
  · -- a skipped trove: nothing closed, the tracked totals unchanged
    have hremaining' : vars'.remainingZUSDInStabPool = vars.remainingZUSDInStabPool := by
      simpa [LiquidationValues.zero] using hremaining.symm
    refine ⟨log, ?_, htracks' log (by rw [hcollv, hzero, Nat.sub_zero, hcoll]) ?_,
      fun p hp => .inl hp⟩
    · rw [hremaining', addLiquidationValuesToTotals_zero]
      exact hinv
    · simpa [LiquidationValues.zero, hdebt] using hdebt'.symm
  · -- a closed trove: eligible for the reason it was closed
    have hle := hinv.accounts.remaining
    refine ⟨log ++ [(user, v)], ⟨hinv.accounts.liquidate hl hremaining,
      hinv.eligible.append ?_, fun _ => hl.owners⟩, htracks' _ ?_ ?_, fun p hp => ?_⟩
    · rw [hinv.accounts.getCurrentICR_eq hl.contains] at hreason
      rcases hreason with hlow | hlow | ⟨hlt, hdebtle, hsurplus⟩
      · exact .inl (lt_of_le_of_lt hlow hMCR)
      · exact .inl hlow
      · rw [hcoll, hdebt] at hTCR hlt
        exact .inr ⟨hTCR, hlt, by omega, hsurplus⟩
    · rw [hcollv, hcoll, trackedColl, trackedColl, sumOf_append_singleton, Nat.sub_sub]
    · rw [trackedDebt, sumOf_append_singleton]
      rw [trackedDebt] at hdebt
      dsimp only
      omega
    · rw [List.mem_append, List.mem_singleton] at hp
      rcases hp with hp | rfl
      exacts [.inl hp, .inr rfl]

/-- A sequence that ends closed something only if it has a trove in its log: the tail requires
debt to liquidate, and the totals are the log's. -/
theorem log_ne_nil (hinv : SequenceEligible cfg price collDrop st₀ st remaining totals log)
    {liquidator : Address} (h : finishLiquidation cfg st liquidator totals = .ok st') :
    log ≠ [] := by
  rintro rfl
  simp only [finishLiquidation, Revert.bind_eq_ok, Revert.require_eq_ok] at h
  obtain ⟨_, hpos, -⟩ := h
  rw [hinv.accounts.totals] at hpos
  exact absurd hpos (Nat.lt_irrefl 0)

end SequenceEligible

end Sequence

/-! ## Run lemmas -/

section Runs

variable {cfg : Config} {price : ℕ} {st₀ : System} {collDrop : LiquidationValues → ℕ}

/-- The sorted sequence's update of the tracked collateral subtracts `sortedCollDrop`. -/
theorem sortedCollDrop_spec {coll c : ℕ} {v : LiquidationValues}
    (h : (do
        let coll ← SafeMath.sub coll v.collToSendToSP
        SafeMath.sub coll v.collSurplus : Except String ℕ) = .ok c) :
    c = coll - sortedCollDrop v := by
  simp only [Revert.bind_eq_ok, SafeMath.sub_eq_ok] at h
  obtain ⟨_, ⟨-, rfl⟩, -, rfl⟩ := h
  rw [sortedCollDrop, Nat.sub_sub]

/-- The batch's update of the tracked collateral subtracts `batchCollDrop`. -/
theorem batchCollDrop_spec {coll c : ℕ} {v : LiquidationValues}
    (h : SafeMath.sub coll v.collToSendToSP = .ok c) : c = coll - batchCollDrop v :=
  (SafeMath.sub_eq_ok.mp h).2

/-- The tracked totals at the start of a recovery-mode sequence are the system's, in Recovery
Mode. -/
theorem tracks_init (hmode : checkRecoveryMode cfg st₀ price = true) :
    Tracks cfg price collDrop st₀ (SequenceVars.init st₀ st₀.stabilityPool.totalZUSDDeposits) [] := by
  intro _
  simp only [checkRecoveryMode, getTCR] at hmode
  exact ⟨by simp [SequenceVars.init, trackedColl], by simp [SequenceVars.init, trackedDebt],
    of_decide_eq_true hmode⟩

/-- A normal-mode step leaves the sequence out of Recovery Mode, where `Tracks` says nothing. -/
theorem tracks_of_backToNormalMode {vars : SequenceVars} {remaining : ℕ}
    {log : List (Address × LiquidationValues)} (hmode : vars.backToNormalMode = true) :
    Tracks cfg price collDrop st₀ { vars with remainingZUSDInStabPool := remaining } log := by
  intro hback
  simp [hmode] at hback

/-- **Run lemma** for the sorted sequence in Normal Mode. -/
theorem liquidateTrovesSequenceNormalMode_eligible {n : ℕ} {st st' : System} {remaining : ℕ}
    {totals totals' : LiquidationTotals} {log : List (Address × LiquidationValues)}
    (hinv : SequenceEligible cfg price collDrop st₀ st remaining totals log)
    (h : liquidateTrovesSequenceNormalMode cfg price n st remaining totals = .ok (st', totals')) :
    ∃ remaining' log', SequenceEligible cfg price collDrop st₀ st' remaining' totals' log' :=
  @liquidateTrovesSequenceNormalMode_induction cfg price
    (fun st remaining totals => ∃ log, SequenceEligible cfg price collDrop st₀ st remaining totals log)
    (fun ⟨_, hinv⟩ hICR hstep => let ⟨_, hinv'⟩ := hinv.normalStep hICR hstep; ⟨_, hinv'⟩)
    n st st' remaining totals totals' ⟨log, hinv⟩ h

/-- **Run lemma** for the sorted sequence in Recovery Mode: the tracked totals follow
`sortedCollDrop`, and the list's first trove is never closed. -/
theorem liquidateTrovesSequenceRecoveryMode_eligible (hMCR : _100pct < cfg.params.MCR)
    {firstUser : Address} {n : ℕ} {st st' : System} {user : Address} {vars : SequenceVars}
    {totals totals' : LiquidationTotals} {log : List (Address × LiquidationValues)}
    (hinv : SequenceEligible cfg price sortedCollDrop st₀ st vars.remainingZUSDInStabPool totals
      log)
    (htracks : Tracks cfg price sortedCollDrop st₀ vars log)
    (hfirst : ∀ p ∈ log, p.1 ≠ firstUser)
    (h : liquidateTrovesSequenceRecoveryMode cfg price firstUser n st user vars totals =
      .ok (st', totals')) :
    ∃ remaining' log', SequenceEligible cfg price sortedCollDrop st₀ st' remaining' totals' log' ∧
      ∀ p ∈ log', p.1 ≠ firstUser := by
  obtain ⟨vars', log', hinv', -, hfirst'⟩ :=
    @liquidateTrovesSequenceRecoveryMode_induction cfg price firstUser
      (fun st vars totals => ∃ log, SequenceEligible cfg price sortedCollDrop st₀ st
        vars.remainingZUSDInStabPool totals log ∧ Tracks cfg price sortedCollDrop st₀ vars log ∧
        ∀ p ∈ log, p.1 ≠ firstUser)
      (fun ⟨_, hinv, htracks, hfirst⟩ huser hmode hstep => by
        obtain ⟨log', hinv', htracks', hnew⟩ :=
          hinv.recoveryStep hMCR htracks hmode (fun _ _ => sortedCollDrop_spec) rfl hstep
        exact ⟨log', hinv', htracks', fun p hp => (hnew p hp).elim (hfirst p) (· ▸ huser)⟩)
      (fun ⟨_, hinv, _, hfirst⟩ huser hmode hICR hstep => by
        obtain ⟨v, hinv'⟩ := hinv.normalStep hICR hstep
        refine ⟨_, hinv', tracks_of_backToNormalMode hmode, fun p hp => ?_⟩
        rw [List.mem_append, List.mem_singleton] at hp
        rcases hp with hp | rfl
        exacts [hfirst p hp, huser])
      n st st' user vars totals totals' ⟨log, hinv, htracks, hfirst⟩ h
  exact ⟨_, log', hinv', hfirst'⟩

/-- **Run lemma** for the caller's list in Normal Mode. -/
theorem batchLiquidateSequenceNormalMode_eligible {troveArray : List Address} {st st' : System}
    {remaining : ℕ} {totals totals' : LiquidationTotals} {log : List (Address × LiquidationValues)}
    (hinv : SequenceEligible cfg price collDrop st₀ st remaining totals log)
    (h : batchLiquidateSequenceNormalMode cfg price troveArray st remaining totals =
      .ok (st', totals')) :
    ∃ remaining' log', SequenceEligible cfg price collDrop st₀ st' remaining' totals' log' :=
  @batchLiquidateSequenceNormalMode_induction cfg price
    (fun st remaining totals => ∃ log, SequenceEligible cfg price collDrop st₀ st remaining totals log)
    (fun ⟨_, hinv⟩ hICR hstep => let ⟨_, hinv'⟩ := hinv.normalStep hICR hstep; ⟨_, hinv'⟩)
    troveArray st st' remaining totals totals' ⟨log, hinv⟩ h

/-- **Run lemma** for the caller's list in Recovery Mode: the tracked totals follow
`batchCollDrop`. -/
theorem batchLiquidateSequenceRecoveryMode_eligible (hMCR : _100pct < cfg.params.MCR)
    {troveArray : List Address} {st st' : System} {vars : SequenceVars}
    {totals totals' : LiquidationTotals} {log : List (Address × LiquidationValues)}
    (hinv : SequenceEligible cfg price batchCollDrop st₀ st vars.remainingZUSDInStabPool totals log)
    (htracks : Tracks cfg price batchCollDrop st₀ vars log)
    (h : batchLiquidateSequenceRecoveryMode cfg price troveArray st vars totals =
      .ok (st', totals')) :
    ∃ remaining' log', SequenceEligible cfg price batchCollDrop st₀ st' remaining' totals' log' := by
  obtain ⟨vars', log', hinv', -⟩ :=
    @batchLiquidateSequenceRecoveryMode_induction cfg price
      (fun st vars totals => ∃ log, SequenceEligible cfg price batchCollDrop st₀ st
        vars.remainingZUSDInStabPool totals log ∧ Tracks cfg price batchCollDrop st₀ vars log)
      (fun ⟨_, hinv, htracks⟩ hmode hstep => by
        obtain ⟨log', hinv', htracks', -⟩ :=
          hinv.recoveryStep hMCR htracks hmode (fun _ _ => batchCollDrop_spec) rfl hstep
        exact ⟨log', hinv', htracks'⟩)
      (fun ⟨_, hinv, _⟩ hmode hICR hstep => by
        obtain ⟨v, hinv'⟩ := hinv.normalStep hICR hstep
        exact ⟨_, hinv', tracks_of_backToNormalMode hmode⟩)
      troveArray st st' vars totals totals' ⟨log, hinv, htracks⟩ h
  exact ⟨_, log', hinv'⟩

end Runs

/-! ## A liquidation call as a whole -/

/-- What a liquidation call from `st` to `st'` that closed the troves of `log` guarantees about
them, with `collDrop` the call's update of the tracked collateral: its accounts, every trove
whose status became `closedByLiquidation` in the log, each one eligible after those closed
before it, and an owner left in the array. -/
structure LiquidationEligible (cfg : Config) (collDrop : LiquidationValues → ℕ) (st st' : System)
    (log : List (Address × LiquidationValues)) : Prop where
  accounts : LiquidationAccounts st st' log
  closed : ∀ b, (st.troveManager.Troves b).status ≠ .closedByLiquidation →
    (st'.troveManager.Troves b).status = .closedByLiquidation → b ∈ log.map Prod.fst
  eligible : EligibleLog cfg st st.price collDrop log
  owners : 0 < st'.troveManager.TroveOwners.length

section Calls

variable {cfg : Config} {collDrop : LiquidationValues → ℕ} {st st₁ st' : System}
  {liquidator : Address}

/-- The sequence's invariant and the tail give the call's guarantees: the tail writes no trove's
record and no owner. -/
theorem SequenceEligible.finish {remaining : ℕ} {totals : LiquidationTotals}
    {log : List (Address × LiquidationValues)}
    (hinv : SequenceEligible cfg st.price collDrop st st₁ remaining totals log)
    (h : finishLiquidation cfg st₁ liquidator totals = .ok st') :
    LiquidationEligible cfg collDrop st st' log := by
  have hflow := hinv.accounts.finish_flow h
  refine ⟨hinv.accounts.finish h, fun b hb hb' => ?_, hinv.eligible, ?_⟩
  · -- a trove off the log keeps the status it had
    by_contra hnot
    rw [hflow.Troves, hinv.accounts.keeps.status b hnot] at hb'
    exact hb hb'
  · rw [hflow.TroveOwners]
    exact hinv.owners (hinv.log_ne_nil h)

/-- Source `liquidateTroves`: the sorted sequence in either mode, then the tail; in Recovery
Mode the list's first trove stays open. -/
theorem liquidateTroves_eligible (hMCR : _100pct < cfg.params.MCR) {n : ℕ}
    (h : liquidateTroves cfg st liquidator n = .ok st') :
    ∃ log, LiquidationEligible cfg sortedCollDrop st st' log ∧
      (checkRecoveryMode cfg st st.price = true → st.sortedTroves.head ∉ log.map Prod.fst) := by
  obtain ⟨st₁, totals, ⟨hmode, hsequence⟩ | ⟨hmode, hsequence⟩, hfinish⟩ := liquidateTroves_cases h
  · obtain ⟨remaining, log, hinv, hfirst⟩ := liquidateTrovesSequenceRecoveryMode_eligible hMCR
      (SequenceEligible.init st) (tracks_init hmode) (fun _ h => absurd h List.not_mem_nil)
      hsequence
    refine ⟨log, hinv.finish hfinish, fun _ hhead => ?_⟩
    obtain ⟨p, hp, hpeq⟩ := List.mem_map.mp hhead
    exact hfirst p hp hpeq
  · obtain ⟨remaining, log, hinv⟩ :=
      liquidateTrovesSequenceNormalMode_eligible (SequenceEligible.init st) hsequence
    exact ⟨log, hinv.finish hfinish, fun hmode' => absurd (hmode.symm.trans hmode') Bool.false_ne_true⟩

/-- Source `batchLiquidateTroves`: the caller's list in either mode, then the tail. -/
theorem batchLiquidateTroves_eligible (hMCR : _100pct < cfg.params.MCR)
    {troveArray : List Address} (h : batchLiquidateTroves cfg st liquidator troveArray = .ok st') :
    ∃ log, LiquidationEligible cfg batchCollDrop st st' log := by
  obtain ⟨st₁, totals, ⟨hmode, hsequence⟩ | ⟨-, hsequence⟩, hfinish⟩ := batchLiquidateTroves_cases h
  · obtain ⟨remaining, log, hinv⟩ := batchLiquidateSequenceRecoveryMode_eligible hMCR
      (SequenceEligible.init st) (tracks_init hmode) hsequence
    exact ⟨log, hinv.finish hfinish⟩
  · obtain ⟨remaining, log, hinv⟩ :=
      batchLiquidateSequenceNormalMode_eligible (SequenceEligible.init st) hsequence
    exact ⟨log, hinv.finish hfinish⟩

end Calls

end ZeroProtocol.TroveManager

namespace ZeroProtocol

/-- The update of the tracked collateral in a liquidation call's recovery-mode sequence:
`liquidateTroves` subtracts the Stability Pool's share and the surplus, `batchLiquidateTroves`
(and `liquidate`, a batch of one) the Stability Pool's share. -/
def Op.trackedCollDrop : Op → TroveManager.LiquidationValues → ℕ
  | .liquidateTroves .. => TroveManager.sortedCollDrop
  | _ => TroveManager.batchCollDrop

namespace TroveManager

open LiquityBase

/-- Every successful liquidation call, from any state, closes only eligible troves, never the
list's first trove when `liquidateTroves` runs in Recovery Mode, and leaves an owner in the
array. -/
theorem liquidation_closes_only_eligible {cfg : Config} {gas : ℕ} {st st' : System} {op : Op}
    (hMCR : _100pct < cfg.params.MCR) (hop : op.isLiquidation = true)
    (h : op.run cfg gas st = .ok st') :
    ∃ log, LiquidationEligible cfg op.trackedCollDrop st st' log ∧
      ∀ liquidator n, op = .liquidateTroves liquidator n →
        checkRecoveryMode cfg st st.price = true → st.sortedTroves.head ∉ log.map Prod.fst := by
  cases op with
  | liquidate liquidator borrower =>
    simp only [Op.run, liquidate, Revert.require_bind_eq_ok] at h
    obtain ⟨log, hlog⟩ := batchLiquidateTroves_eligible hMCR h.2
    exact ⟨log, hlog, fun _ _ hop' => absurd hop' (by simp)⟩
  | liquidateTroves liquidator n =>
    obtain ⟨log, hlog, hhead⟩ := liquidateTroves_eligible hMCR h
    exact ⟨log, hlog, fun _ _ _ => hhead⟩
  | batchLiquidateTroves liquidator troveArray =>
    obtain ⟨log, hlog⟩ := batchLiquidateTroves_eligible hMCR h
    exact ⟨log, hlog, fun _ _ hop' => absurd hop' (by simp)⟩
  | _ => simp [Op.isLiquidation] at hop

/-! ## Two trackers, two outcomes -/

/-- Account `1` opens a trove of 8060 ZUSD of debt on 120.0195 ether, accounts `2` and `3` troves
of 1025 ZUSD on 14.35 and 14.2475 ether, and `1` deposits 2100 ZUSD in the Stability Pool.  At a
price of 100 ZUSD the system's ratio is 147%, in Recovery Mode, and troves `3` and `2` have ICRs
of 139% and 140%, between `MCR` and the system's ratio. -/
def trackerRun : List (Op × ℕ) :=
  [(.openTrove 1 (1200195 * 10 ^ 14) (10 ^ 18) (8000 * 10 ^ 18) 0 0, 10),
   (.openTrove 2 (1435 * 10 ^ 16) (10 ^ 18) (1000 * 10 ^ 18) 0 0, 10),
   (.openTrove 3 (142475 * 10 ^ 14) (10 ^ 18) (1000 * 10 ^ 18) 0 0, 10),
   (.provideToSP 1 (2100 * 10 ^ 18) 0, 0),
   (.setPrice (100 * 10 ^ 18), 0)]

/-- The states after `trackerRun` that the examples of this and later modules read, from one
evaluation of the run: `liquidateTroves` over two troves closes trove `2` and leaves surpluses to
troves `2` and `3`; the batch over troves `3` and `2` leaves trove `2` active, in Recovery Mode,
between `MCR` and the system's ratio and covered by the pool; and liquidating trove `2` alone moves
trove `3` into its slot of the owners' array. -/
theorem trackerRun_states :
    ∃ st, Reachable Config.sample System.sample st ∧
      (∃ st₁, (Op.liquidateTroves 99 2).run Config.sample 0 st = .ok st₁ ∧
        (st₁.troveManager.Troves 2).status = .closedByLiquidation ∧
        0 < st₁.collSurplusPool.balances 2 ∧ 0 < st₁.collSurplusPool.balances 3) ∧
      (∃ st₂, (Op.batchLiquidateTroves 99 [3, 2]).run Config.sample 0 st = .ok st₂ ∧
        (st₂.troveManager.Troves 2).status = .active ∧
        checkRecoveryMode Config.sample st₂ st₂.price = true ∧
        Config.sample.params.MCR ≤ getCurrentICR st₂.troveManager 2 st₂.price ∧
        getCurrentICR st₂.troveManager 2 st₂.price < getTCR st₂ st₂.price ∧
        (getEntireDebtAndColl st₂.troveManager 2).1 ≤ st₂.stabilityPool.totalZUSDDeposits) ∧
      ∃ st₃, (Op.liquidate 99 2).run Config.sample 0 st = .ok st₃ ∧
        st₃.troveManager.TroveOwners = [1, 3] ∧ (st₃.troveManager.Troves 3).arrayIndex = 1 := by
  -- one evaluation: the three calls are checked inside the check of the run's last state
  obtain ⟨st, hreach, hsorted, hbatch, hsingle⟩ :=
    @exists_reachable_of_decide Config.sample System.sample trackerRun
      (fun st => runPasses ((Op.liquidateTroves 99 2).run Config.sample 0 st) (fun st₁ =>
          decide ((st₁.troveManager.Troves 2).status = .closedByLiquidation ∧
            0 < st₁.collSurplusPool.balances 2 ∧ 0 < st₁.collSurplusPool.balances 3)) = true ∧
        runPasses ((Op.batchLiquidateTroves 99 [3, 2]).run Config.sample 0 st) (fun st₂ =>
          decide ((st₂.troveManager.Troves 2).status = .active ∧
            checkRecoveryMode Config.sample st₂ st₂.price = true ∧
            Config.sample.params.MCR ≤ getCurrentICR st₂.troveManager 2 st₂.price ∧
            getCurrentICR st₂.troveManager 2 st₂.price < getTCR st₂ st₂.price ∧
            (getEntireDebtAndColl st₂.troveManager 2).1 ≤
              st₂.stabilityPool.totalZUSDDeposits)) = true ∧
        runPasses ((Op.liquidate 99 2).run Config.sample 0 st) (fun st₃ =>
          decide (st₃.troveManager.TroveOwners = [1, 3] ∧
            (st₃.troveManager.Troves 3).arrayIndex = 1)) = true) _
      (by decide +kernel)
  obtain ⟨st₁, hst₁, h₁⟩ := exists_of_runPasses hsorted
  obtain ⟨st₂, hst₂, h₂⟩ := exists_of_runPasses hbatch
  obtain ⟨st₃, hst₃, h₃⟩ := exists_of_runPasses hsingle
  exact ⟨st, hreach, ⟨st₁, hst₁, of_decide_eq_true h₁⟩, ⟨st₂, hst₂, of_decide_eq_true h₂⟩, st₃,
    hst₃, of_decide_eq_true h₃⟩

theorem liquidation_closes_only_eligible_trackerRun :
    ∃ st st', Reachable Config.sample System.sample st ∧
      (Op.liquidateTroves 99 2).run Config.sample 0 st = .ok st' ∧
      ∃ log, LiquidationEligible Config.sample (Op.liquidateTroves 99 2).trackedCollDrop st st' log ∧
        ∀ liquidator n, Op.liquidateTroves 99 2 = .liquidateTroves liquidator n →
          checkRecoveryMode Config.sample st st.price = true →
          st.sortedTroves.head ∉ log.map Prod.fst := by
  obtain ⟨st, hreach, ⟨st', hst', -⟩, -⟩ := trackerRun_states
  exact ⟨st, st', hreach, hst', liquidation_closes_only_eligible (by decide) rfl hst'⟩

/-- From the state after `trackerRun`, `liquidateTroves` and `batchLiquidateTroves` over the same
two troves in the same order close different troves.  Both first close trove `3` at the capped
rate, with a surplus of 2.9725 ether.  The sorted sequence subtracts that surplus from its
tracked collateral and stays in Recovery Mode, so it closes trove `2` as well.  The batch does
not subtract it, reads a ratio of 151%, takes itself back to Normal Mode and skips trove `2`.
Yet after the batch the system is still in Recovery Mode, and trove `2`, whose debt the pool
still covers, is below the system's ratio. -/
theorem recoveryTrackers_diverge :
    ∃ st st₁ st₂, Reachable Config.sample System.sample st ∧
      (Op.liquidateTroves 99 2).run Config.sample 0 st = .ok st₁ ∧
      (Op.batchLiquidateTroves 99 [3, 2]).run Config.sample 0 st = .ok st₂ ∧
      (st₁.troveManager.Troves 2).status = .closedByLiquidation ∧
      (st₂.troveManager.Troves 2).status = .active ∧
      checkRecoveryMode Config.sample st₂ st₂.price = true ∧
      Config.sample.params.MCR ≤ getCurrentICR st₂.troveManager 2 st₂.price ∧
      getCurrentICR st₂.troveManager 2 st₂.price < getTCR st₂ st₂.price ∧
      (getEntireDebtAndColl st₂.troveManager 2).1 ≤ st₂.stabilityPool.totalZUSDDeposits := by
  obtain ⟨st, hreach, ⟨st₁, hst₁, hclosed, -⟩, ⟨st₂, hst₂, hactive⟩, -⟩ := trackerRun_states
  exact ⟨st, st₁, st₂, hreach, hst₁, hst₂, hclosed, hactive⟩

end TroveManager

end ZeroProtocol
