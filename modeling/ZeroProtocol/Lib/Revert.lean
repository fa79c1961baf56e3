import Mathlib.Logic.Relation

/-!
# Reverting computations

A contract call either returns or reverts with a message, and a revert undoes every write
the call made.  We model a call as a function into `Except ε`: `.ok` carries the result
(for a state-changing call, the new state), `.error` the revert message.  Since a reverted
call leaves the state as it was, proofs about successful calls only ever need to peel a
chain of binds apart; `bind_eq_ok` is the rule that does so.

The second half is the induction rule for the states a step relation can reach from an
initial state, used for every "in every reachable state" result.
-/

namespace Revert

variable {ε α β : Type}

/-- Solidity's `require`: continue when the condition holds, revert with `msg` otherwise. -/
def require (c : Prop) [Decidable c] (msg : ε) : Except ε Unit :=
  if c then pure () else throw msg

/-- Solidity's `assert`: like `require`, but a failure is a broken invariant of the code and
carries no message of its own. -/
def assert (c : Prop) [Decidable c] : Except String Unit :=
  require c "assert"

@[simp] theorem require_eq_ok {c : Prop} [Decidable c] {msg : ε} {u : Unit} :
    require c msg = .ok u ↔ c := by
  unfold require
  split <;> simp_all [pure, Except.pure, throw, throwThe, MonadExceptOf.throw]

@[simp] theorem bind_eq_ok {x : Except ε α} {f : α → Except ε β} {b : β} :
    x >>= f = .ok b ↔ ∃ a, x = .ok a ∧ f a = .ok b := by
  cases x with
  | error e => simp [bind, Except.bind]
  | ok a => simp [bind, Except.bind]

/-- The do elaborator copies the rest of a block into both branches of an `if` whose
branches bind a value; folding the copies back lets one `bind_eq_ok` peel either branch. -/
theorem ite_bind {c : Prop} [Decidable c] {x y : Except ε α} {f : α → Except ε β} :
    (if c then x else y) >>= f = if c then x >>= f else y >>= f := by
  split <;> rfl

@[simp] theorem ok_bind {a : α} {f : α → Except ε β} : (Except.ok a >>= f) = f a := rfl

@[simp] theorem pure_eq_ok {a b : α} : (pure a : Except ε α) = .ok b ↔ a = b := by
  simp [pure, Except.pure]

@[simp] theorem throw_ne_ok {e : ε} {b : α} : (throw e : Except ε α) ≠ .ok b := by
  simp [throw, throwThe, MonadExceptOf.throw]

@[simp] theorem map_eq_ok {x : Except ε α} {f : α → β} {b : β} :
    f <$> x = .ok b ↔ ∃ a, x = .ok a ∧ f a = b := by
  cases x with
  | error e => simp [Functor.map, Except.map]
  | ok a => simp [Functor.map, Except.map]

@[simp] theorem assert_eq_ok {c : Prop} [Decidable c] {u : Unit} : assert c = .ok u ↔ c :=
  require_eq_ok

/-- A computation that cannot revert, written with `require` first, succeeds exactly when
the condition holds. -/
theorem require_bind_eq_ok {c : Prop} [Decidable c] {msg : ε} {f : Unit → Except ε β} {b : β} :
    require c msg >>= f = .ok b ↔ c ∧ f () = .ok b := by
  simp only [bind_eq_ok, require_eq_ok]
  exact ⟨fun ⟨(), hc, hf⟩ => ⟨hc, hf⟩, fun ⟨hc, hf⟩ => ⟨(), hc, hf⟩⟩

/-- A failed `require` reverts the rest of the computation with its message. -/
theorem require_bind_of_not {c : Prop} [Decidable c] {msg : ε} {f : Unit → Except ε β}
    (h : ¬c) : require c msg >>= f = .error msg := by
  rw [require, if_neg h]
  rfl

/-- Whether a computation reverted with the message `msg`: a test that evaluates. -/
def revertsWith [DecidableEq ε] (x : Except ε α) (msg : ε) : Bool :=
  match x with
  | .error e => decide (e = msg)
  | .ok _ => false

@[simp] theorem revertsWith_iff [DecidableEq ε] {x : Except ε α} {msg : ε} :
    revertsWith x msg = true ↔ x = .error msg := by
  cases x <;> simp [revertsWith]

/-! ## What a computation can revert with -/

/-- A computation that reverts, if it does, only with a message that `allowed` admits. -/
def RevertsOnlyWith (allowed : ε → Prop) (x : Except ε α) : Prop :=
  ∀ e, x = .error e → allowed e

namespace RevertsOnlyWith

variable {allowed : ε → Prop} {x y : Except ε α} {f : α → Except ε β}

theorem of_eq_ok {a : α} (h : x = .ok a) : RevertsOnlyWith allowed x := by
  intro e he
  rw [h] at he
  cases he

theorem pure (a : α) : RevertsOnlyWith allowed (pure a : Except ε α) := of_eq_ok rfl

theorem throw {e : ε} (h : allowed e) : RevertsOnlyWith allowed (throw e : Except ε α) := by
  intro e' he'
  cases he'
  exact h

/-- **Bind rule.**  A revert of `x >>= f` is one of `x`, or one of `f a` for a result `a` of
`x`. -/
theorem bind (hx : RevertsOnlyWith allowed x)
    (hf : ∀ a, x = .ok a → RevertsOnlyWith allowed (f a)) :
    RevertsOnlyWith allowed (x >>= f) := by
  cases x with
  | error e =>
    intro e' he'
    cases he'
    exact hx e rfl
  | ok a => exact hf a rfl

theorem ite {c : Prop} [Decidable c] (hx : c → RevertsOnlyWith allowed x)
    (hy : ¬c → RevertsOnlyWith allowed y) : RevertsOnlyWith allowed (if c then x else y) := by
  split
  · exact hx ‹c›
  · exact hy ‹¬c›

end RevertsOnlyWith

end Revert

/-! ## Reachable states -/

namespace Reachability

variable {σ : Type*}

/-- The states reachable from `init` by any number of `step`s. -/
def Reachable (step : σ → σ → Prop) (init : σ) (s : σ) : Prop :=
  Relation.ReflTransGen step init s

/-- **Invariant rule.**  A predicate that holds initially and is preserved by every step
holds in every reachable state. -/
theorem Reachable.induction {step : σ → σ → Prop} {init : σ} {P : σ → Prop}
    (hinit : P init) (hstep : ∀ s s', P s → step s s' → P s') {s : σ}
    (hs : Reachable step init s) : P s := by
  induction hs with
  | refl => exact hinit
  | tail _ hlast ih => exact hstep _ _ ih hlast

theorem Reachable.init {step : σ → σ → Prop} {init : σ} : Reachable step init init :=
  Relation.ReflTransGen.refl

theorem Reachable.tail {step : σ → σ → Prop} {init s s' : σ} (hs : Reachable step init s)
    (hstep : step s s') : Reachable step init s' :=
  Relation.ReflTransGen.tail hs hstep

/-- **Stuttering simulation.**  When every step moves the image under `f` by at most one step of
`step'`, the image of a reachable state is reachable from the image of the initial state. -/
theorem Reachable.map {τ : Type*} {step : σ → σ → Prop} {step' : τ → τ → Prop} {f : σ → τ}
    {init s : σ} (hstep : ∀ s s', step s s' → f s' = f s ∨ step' (f s) (f s'))
    (hs : Reachable step init s) : Reachable step' (f init) (f s) := by
  induction hs with
  | refl => exact Reachable.init
  | tail _ hlast ih =>
    rcases hstep _ _ hlast with hsame | hmove
    · rwa [hsame]
    · exact ih.tail hmove

end Reachability
