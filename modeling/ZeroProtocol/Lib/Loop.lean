import ZeroProtocol.Lib.Revert

/-!
# `while` loops with a gas budget

A contract's `while (cond) { s := body(s) }` runs until its test fails or the transaction runs
out of gas.  `whileGas cond body gas s` is that loop with `gas` rounds allowed: it returns
the first state whose test fails, and reverts if the test still holds once the budget is
spent.  Only the check of the test is free; each round that runs the body costs one unit.

The loop rule `whileGas_inv` is the partial-correctness rule of Hoare logic: an invariant
that every round preserves holds of the result, and the result fails the test.  It says
nothing about loops that run out of gas, since those revert.  The termination rule
`whileGas_ok` adds a measure that every round lowers: a budget of at least the measure's
start value then suffices, and the loop returns.
-/

namespace Loop

variable {σ : Type}

/-- Run `body` while `cond` holds, with `gas` rounds allowed. -/
def whileGas (cond : σ → Bool) (body : σ → σ) : Nat → σ → Except String σ
  | 0, s => if cond s then throw "out of gas" else pure s
  | gas + 1, s => if cond s then whileGas cond body gas (body s) else pure s

variable {cond : σ → Bool} {body : σ → σ}

theorem whileGas_of_false {gas : Nat} {s : σ} (h : cond s = false) :
    whileGas cond body gas s = pure s := by
  cases gas <;> simp [whileGas, h]

theorem whileGas_succ_of_true {gas : Nat} {s : σ} (h : cond s = true) :
    whileGas cond body (gas + 1) s = whileGas cond body gas (body s) := by
  simp [whileGas, h]

/-- **Loop rule.**  An invariant kept by every round that runs holds of the state the loop
returns, and that state fails the test. -/
theorem whileGas_inv (Inv : σ → Prop) (hstep : ∀ s, Inv s → cond s = true → Inv (body s)) :
    ∀ (gas : Nat) (s s' : σ), Inv s → whileGas cond body gas s = .ok s' →
      Inv s' ∧ cond s' = false := by
  intro gas
  induction gas with
  | zero =>
      intro s s' hs h
      cases hc : cond s
      · rw [whileGas_of_false hc, Revert.pure_eq_ok] at h
        exact h ▸ ⟨hs, hc⟩
      · simp [whileGas, hc] at h
  | succ gas ih =>
      intro s s' hs h
      cases hc : cond s
      · rw [whileGas_of_false hc, Revert.pure_eq_ok] at h
        exact h ▸ ⟨hs, hc⟩
      · rw [whileGas_succ_of_true hc] at h
        exact ih (body s) s' (hstep s hs hc) h

/-- **Termination rule.**  When every round keeps an invariant and lowers a measure, a budget
of at least the measure's start value lets the loop return. -/
theorem whileGas_ok (Inv : σ → Prop) (μ : σ → Nat)
    (hstep : ∀ s, Inv s → cond s = true → Inv (body s) ∧ μ (body s) < μ s) :
    ∀ (gas : Nat) (s : σ), Inv s → μ s ≤ gas → ∃ s', whileGas cond body gas s = .ok s' := by
  intro gas
  induction gas with
  | zero =>
      intro s hs hμ
      cases hc : cond s
      · exact ⟨s, by rw [whileGas_of_false hc]; rfl⟩
      · -- a round would lower a measure that is already zero
        have hlt := (hstep s hs hc).2
        omega
  | succ gas ih =>
      intro s hs hμ
      cases hc : cond s
      · exact ⟨s, by rw [whileGas_of_false hc]; rfl⟩
      · obtain ⟨hinv, hlt⟩ := hstep s hs hc
        rw [whileGas_succ_of_true hc]
        exact ih (body s) hinv (by omega)

end Loop
