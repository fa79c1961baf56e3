import ZeroProtocol.StabilityPool.Model
import ZeroProtocol.Lib.LedgerMoves

/-!
# A deposit between its owner's actions

A deposit is stored as its value at its owner's last action, with snapshots of the running
product `P`, of the sums `S` and `G`, and of the scale and epoch they belong to; its value and
gains are computed from them at every read.  Between two actions of its owner the pool changes
in two ways only.  Its product moves forward (`Position`): within a scale an offset only lowers
`P`, a scale change multiplies it by at most `SCALE_FACTOR`, and an offset that empties the
pool starts a new epoch.  Its sums only grow.

## Strategy

* `getCompoundedStakeFromSnapshots` is the cut-off of `compoundedAt`, the value of the stake at
  the pool's position as seen from its snapshot's (`getCompoundedStakeFromSnapshots_eq`), and
  `compoundedAt` falls as the pool moves forward (`compoundedAt_antitone`): across a scale
  change the extra division by `SCALE_FACTOR` absorbs the factor that `P` was multiplied by.
  At the snapshot's own position it is the stake itself, so it never exceeds it.
* Once their subtractions and divisions go through, which the reached pools guarantee, the
  views revert only when a product or a sum overflows (`Valid.compoundedZUSDDeposit`,
  `Valid.depositorETHGain`, `Valid.depositorZEROGain`).
-/

namespace ZeroProtocol.StabilityPool

open LiquityMath

/-! ## Positions of the running product -/

/-- Where the running product stands: its value, its scale and its epoch. -/
structure Position where
  P : ℕ
  scale : ℕ
  epoch : ℕ
  deriving DecidableEq, Repr

/-- The pool's position. -/
@[simps]
def StabilityPoolStorage.position (sp : StabilityPoolStorage) : Position :=
  ⟨sp.P, sp.currentScale, sp.currentEpoch⟩

/-- The position a snapshot was taken at. -/
@[simps]
def Snapshots.position (s : Snapshots) : Position := ⟨s.P, s.scale, s.epoch⟩

namespace Position

/-- The product can move from `q` to `q'`. -/
inductive Le : Position → Position → Prop
  /-- An offset that emptied the pool started a later epoch. -/
  | epoch {q q' : Position} : q.epoch < q'.epoch → Le q q'
  /-- Within a scale, offsets only lower the product. -/
  | scale {q q' : Position} : q'.epoch = q.epoch → q'.scale = q.scale → q'.P ≤ q.P → Le q q'
  /-- A scale change multiplies the product by at most `SCALE_FACTOR`. -/
  | nextScale {q q' : Position} : q'.epoch = q.epoch → q'.scale = q.scale + 1 →
      q'.P ≤ q.P * SCALE_FACTOR → Le q q'
  /-- Two scale changes or more. -/
  | laterScale {q q' : Position} : q'.epoch = q.epoch → q.scale + 2 ≤ q'.scale → Le q q'

variable {q q' q₁ q₂ q₃ : Position}

theorem Le.epoch_le (h : Le q q') : q.epoch ≤ q'.epoch := by
  cases h <;> omega

/-- Within one epoch the scale only grows. -/
theorem Le.scale_le (h : Le q q') (he : q'.epoch = q.epoch) : q.scale ≤ q'.scale := by
  cases h <;> omega

theorem Le.trans (h₁ : Le q₁ q₂) (h₂ : Le q₂ q₃) : Le q₁ q₃ := by
  -- a later epoch on either side is a later epoch; otherwise the scale changes add up
  rcases h₂ with hlt | ⟨he₂, hs₂, hP₂⟩ | ⟨he₂, hs₂, hP₂⟩ | ⟨he₂, hs₂⟩
  · exact .epoch (lt_of_le_of_lt h₁.epoch_le hlt)
  · rcases h₁ with hlt | ⟨he₁, hs₁, hP₁⟩ | ⟨he₁, hs₁, hP₁⟩ | ⟨he₁, hs₁⟩
    · exact .epoch (by omega)
    · exact .scale (by omega) (by omega) (hP₂.trans hP₁)
    · exact .nextScale (by omega) (by omega) (hP₂.trans hP₁)
    · exact .laterScale (by omega) (by omega)
  · rcases h₁ with hlt | ⟨he₁, hs₁, hP₁⟩ | ⟨he₁, hs₁, -⟩ | ⟨he₁, hs₁⟩
    · exact .epoch (by omega)
    · exact .nextScale (by omega) (by omega) (hP₂.trans (Nat.mul_le_mul_right _ hP₁))
    · exact .laterScale (by omega) (by omega)
    · exact .laterScale (by omega) (by omega)
  · rcases h₁ with hlt | ⟨he₁, hs₁, -⟩ | ⟨he₁, hs₁, -⟩ | ⟨he₁, hs₁⟩
    · exact .epoch (by omega)
    all_goals exact .laterScale (by omega) (by omega)

instance : Preorder Position where
  le := Le
  le_refl _ := .scale rfl rfl le_rfl
  le_trans _ _ _ := Le.trans

theorem epoch_le_of_le (h : q ≤ q') : q.epoch ≤ q'.epoch := Le.epoch_le h

theorem scale_le_of_le (h : q ≤ q') (he : q'.epoch = q.epoch) : q.scale ≤ q'.scale :=
  Le.scale_le h he

end Position

/-! ## The compounded value -/

/-- What a stake of `initialStake` taken at the position `s` is worth at the position `q`,
before the cut-off: `initialStake * P / P_snapshot` in the snapshot's scale, divided once more
by `SCALE_FACTOR` in the next scale, and nothing in a later scale or epoch. -/
def compoundedAt (initialStake : ℕ) (s q : Position) : ℕ :=
  if q.epoch ≠ s.epoch then 0
  else if q.scale = s.scale then initialStake * q.P / s.P
  else if q.scale = s.scale + 1 then initialStake * q.P / s.P / SCALE_FACTOR
  else 0

/-- The cut-off of `_getCompoundedStakeFromSnapshots`: less than a billionth of the stake
counts as nothing. -/
def cutOff (initialStake compounded : ℕ) : ℕ :=
  if compounded < initialStake / 10 ^ 9 then 0 else compounded

section CutOff

variable (initialStake : ℕ) {c c' : ℕ}

@[simp] theorem cutOff_zero : cutOff initialStake 0 = 0 := by
  simp [cutOff]

theorem cutOff_le (c : ℕ) : cutOff initialStake c ≤ c := by
  unfold cutOff
  split_ifs <;> omega

end CutOff

section CompoundedAt

variable {initialStake : ℕ} {s q q' : Position}

theorem compoundedAt_self (hP : 0 < s.P) : compoundedAt initialStake s s = initialStake := by
  simp [compoundedAt, Nat.mul_div_cancel _ hP]

theorem compoundedAt_of_epoch_ne (h : q.epoch ≠ s.epoch) : compoundedAt initialStake s q = 0 :=
  if_pos h

theorem compoundedAt_of_scale_ge (h : s.scale + 2 ≤ q.scale) : compoundedAt initialStake s q = 0 := by
  unfold compoundedAt
  split_ifs <;> first | rfl | omega

/-- Across a scale change, the division by `SCALE_FACTOR` absorbs the factor by which `P` was
multiplied. -/
theorem div_div_scaleFactor_le {x P P' Ps : ℕ} (hP : P' ≤ P * SCALE_FACTOR) :
    x * P' / Ps / SCALE_FACTOR ≤ x * P / Ps := by
  rw [Nat.div_div_eq_div_mul]
  calc x * P' / (Ps * SCALE_FACTOR)
      ≤ x * P * SCALE_FACTOR / (Ps * SCALE_FACTOR) := by
        rw [Nat.mul_assoc]
        exact Nat.div_le_div_right (Nat.mul_le_mul_left _ hP)
    _ = x * P / Ps := Nat.mul_div_mul_right _ _ (by decide)

/-- Seen from a snapshot that precedes the pool, the value falls as the pool moves forward. -/
theorem compoundedAt_antitone (hs : s ≤ q) (hq : q ≤ q') :
    compoundedAt initialStake s q' ≤ compoundedAt initialStake s q := by
  -- a later epoch than the snapshot's is worth nothing
  by_cases he : q'.epoch = s.epoch
  swap
  · rw [compoundedAt_of_epoch_ne he]
    exact Nat.zero_le _
  have he' : q.epoch = s.epoch :=
    le_antisymm (he ▸ Position.epoch_le_of_le hq) (Position.epoch_le_of_le hs)
  have hsq : s.scale ≤ q.scale := Position.scale_le_of_le hs he'
  rcases hq with hlt | ⟨-, hs', hP⟩ | ⟨-, hs', hP⟩ | ⟨-, hs'⟩
  · omega
  · -- the same scale: `P` only fell
    simp only [compoundedAt, he, he', hs', ne_eq, not_true_eq_false, if_false]
    split_ifs
    · exact Nat.div_le_div_right (Nat.mul_le_mul_left _ hP)
    · exact Nat.div_le_div_right (Nat.div_le_div_right (Nat.mul_le_mul_left _ hP))
    · exact le_rfl
  · -- one scale change, from the snapshot's scale or to a second one
    rcases Nat.eq_or_lt_of_le hsq with hsq | hsq
    · simp only [compoundedAt, he, he', hs', ← hsq, ne_eq, not_true_eq_false, if_false,
        if_true, Nat.add_eq_left, one_ne_zero]
      exact div_div_scaleFactor_le hP
    · rw [compoundedAt_of_scale_ge (by omega)]
      exact Nat.zero_le _
  · rw [compoundedAt_of_scale_ge (by omega)]
    exact Nat.zero_le _

end CompoundedAt

/-! ## The views, read through their snapshots -/

section Views

variable {sp : StabilityPoolStorage} {initialStake : ℕ} {snapshots : Snapshots}

/-- From a snapshot that the pool has moved forward from, `_getCompoundedStakeFromSnapshots`
is the cut-off of `compoundedAt`, unless the product `initialStake * P` that it takes within one
scale change exceeds `2^256`. -/
theorem getCompoundedStakeFromSnapshots_eq (hle : snapshots.position ≤ sp.position)
    (hP : 0 < snapshots.P) :
    getCompoundedStakeFromSnapshots sp initialStake snapshots =
      if snapshots.epoch = sp.currentEpoch ∧ sp.currentScale ≤ snapshots.scale + 1 ∧
          MAX_UINT256 < initialStake * sp.P then .error "SafeMath: multiplication overflow"
      else .ok (cutOff initialStake (compoundedAt initialStake snapshots.position sp.position)) := by
  rcases hle with hlt | ⟨he, hs, -⟩ | ⟨he, hs, -⟩ | ⟨he, hs⟩
  · -- the deposit was made before an offset emptied the pool
    change snapshots.epoch < sp.currentEpoch at hlt
    simp [getCompoundedStakeFromSnapshots, compoundedAt, hlt, Nat.ne_of_gt hlt, Nat.ne_of_lt hlt]
  all_goals
    simp only [StabilityPoolStorage.position_epoch, StabilityPoolStorage.position_scale,
      Snapshots.position_epoch, Snapshots.position_scale] at he hs
    have hsub : LiquitySafeMath128.sub sp.currentScale snapshots.scale =
        pure (sp.currentScale - snapshots.scale) := if_pos (by omega)
    simp only [getCompoundedStakeFromSnapshots, compoundedAt, StabilityPoolStorage.position_epoch,
      StabilityPoolStorage.position_scale, StabilityPoolStorage.position_P,
      Snapshots.position_epoch, Snapshots.position_scale, Snapshots.position_P, he, lt_irrefl,
      ne_eq, not_true_eq_false, if_false, hsub, pure_bind]
  -- within one scale change the product is taken, and it may overflow
  · by_cases hfit : initialStake * sp.P ≤ MAX_UINT256
    · simp [hs, Nat.not_lt.2 hfit, SafeMath.mul_of_le hfit, SafeMath.div_of_pos hP, cutOff]
      split <;> rfl
    · simp [hs, hfit, SafeMath.mul, Nat.lt_of_not_le hfit]
      rfl
  · by_cases hfit : initialStake * sp.P ≤ MAX_UINT256
    · simp [hs, Nat.not_lt.2 hfit, SafeMath.mul_of_le hfit, SafeMath.div_of_pos hP, cutOff]
      split <;> rfl
    · simp [hs, hfit, SafeMath.mul, Nat.lt_of_not_le hfit]
      rfl
  · -- two scale changes or more
    have hdiff : sp.currentScale - snapshots.scale ≠ 0 ∧ sp.currentScale - snapshots.scale ≠ 1 ∧
        sp.currentScale ≠ snapshots.scale ∧ sp.currentScale ≠ snapshots.scale + 1 ∧
        ¬sp.currentScale ≤ snapshots.scale + 1 := by omega
    simp [hdiff, cutOff]

variable {sums : ℕ → ℕ → ℕ} {snapshotSum : ℕ}

/-- Once its subtraction and its division go through, `gainFromSnapshots` reverts only on
overflow. -/
theorem gainFromSnapshots_revertsOnlyWith_overflow
    (hS : snapshotSum ≤ sums snapshots.epoch snapshots.scale) (hP : 0 < snapshots.P) :
    Revert.RevertsOnlyWith SafeMath.Overflow
      (gainFromSnapshots sums initialStake snapshotSum snapshots) := by
  unfold gainFromSnapshots
  rw [SafeMath.sub_of_le hS, pure_bind]
  refine .bind (LiquitySafeMath128.add_revertsOnlyWith_overflow _ _) fun nextScale _ => ?_
  refine .bind (SafeMath.add_revertsOnlyWith_overflow _ _) fun portions _ => ?_
  refine .bind (SafeMath.mul_revertsOnlyWith_overflow _ _) fun gain _ => ?_
  rw [SafeMath.div_of_pos hP, pure_bind]
  exact .pure _

end Views

/-! ## How the pool moves -/

/-- How every change moves the pool: the product forward and the sums up, with `P` kept
positive and every registered front end as it was. -/
structure Advances (sp sp' : StabilityPoolStorage) : Prop where
  position : sp.position ≤ sp'.position
  P_pos : 0 < sp.P → 0 < sp'.P
  sums : ∀ e s, sp.epochToScaleToSum e s ≤ sp'.epochToScaleToSum e s
  G : ∀ e s, sp.epochToScaleToG e s ≤ sp'.epochToScaleToG e s
  frontEnds : ∀ a, (sp.frontEnds a).registered = true → sp'.frontEnds a = sp.frontEnds a

/-- How the pool moves while the depositor `d` does not act: as every change moves it, with the
deposit and the snapshots of `d` as they were. -/
structure Evolves (d : Address) (sp sp' : StabilityPoolStorage) : Prop
    extends Advances sp sp' where
  deposit : sp'.deposits d = sp.deposits d
  snapshots : sp'.depositSnapshots d = sp.depositSnapshots d

namespace Advances

variable {sp₁ sp₂ sp₃ : StabilityPoolStorage}

theorem refl (sp : StabilityPoolStorage) : Advances sp sp :=
  ⟨le_rfl, id, fun _ _ => le_rfl, fun _ _ => le_rfl, fun _ _ => rfl⟩

theorem trans (h₁ : Advances sp₁ sp₂) (h₂ : Advances sp₂ sp₃) : Advances sp₁ sp₃ where
  position := h₁.position.trans h₂.position
  P_pos hP := h₂.P_pos (h₁.P_pos hP)
  sums e s := (h₁.sums e s).trans (h₂.sums e s)
  G e s := (h₁.G e s).trans (h₂.G e s)
  frontEnds a ha := by
    have ha₂ : (sp₂.frontEnds a).registered = true := by rw [h₁.frontEnds a ha]; exact ha
    rw [h₂.frontEnds a ha₂, h₁.frontEnds a ha]

/-- A change that writes neither the product nor the sums nor the front ends. -/
theorem of_frame (hP : sp₂.P = sp₁.P) (hscale : sp₂.currentScale = sp₁.currentScale)
    (hepoch : sp₂.currentEpoch = sp₁.currentEpoch)
    (hS : sp₂.epochToScaleToSum = sp₁.epochToScaleToSum)
    (hG : sp₂.epochToScaleToG = sp₁.epochToScaleToG) (hfrontEnds : sp₂.frontEnds = sp₁.frontEnds) :
    Advances sp₁ sp₂ where
  position := by
    have hposition : sp₂.position = sp₁.position := by
      simp only [StabilityPoolStorage.position, hP, hscale, hepoch]
    rw [hposition]
  P_pos hpos := hP ▸ hpos
  sums e s := by rw [hS]
  G e s := by rw [hG]
  frontEnds a _ := by rw [hfrontEnds]

end Advances

namespace Evolves

variable {d : Address} {sp₁ sp₂ sp₃ : StabilityPoolStorage}

theorem refl (d : Address) (sp : StabilityPoolStorage) : Evolves d sp sp :=
  ⟨Advances.refl sp, rfl, rfl⟩

theorem trans (h₁ : Evolves d sp₁ sp₂) (h₂ : Evolves d sp₂ sp₃) : Evolves d sp₁ sp₃ :=
  ⟨h₁.toAdvances.trans h₂.toAdvances, h₂.deposit.trans h₁.deposit,
    h₂.snapshots.trans h₁.snapshots⟩

/-- A change that writes neither the product nor the sums nor the front ends nor any deposit. -/
theorem of_frame (hP : sp₂.P = sp₁.P) (hscale : sp₂.currentScale = sp₁.currentScale)
    (hepoch : sp₂.currentEpoch = sp₁.currentEpoch)
    (hS : sp₂.epochToScaleToSum = sp₁.epochToScaleToSum)
    (hG : sp₂.epochToScaleToG = sp₁.epochToScaleToG) (hfrontEnds : sp₂.frontEnds = sp₁.frontEnds)
    (hdeposits : sp₂.deposits = sp₁.deposits)
    (hsnapshots : sp₂.depositSnapshots = sp₁.depositSnapshots) : Evolves d sp₁ sp₂ :=
  ⟨Advances.of_frame hP hscale hepoch hS hG hfrontEnds, by rw [hdeposits], by rw [hsnapshots]⟩

end Evolves

/-! ## What the reached pools satisfy -/

/-- What a deposit needs of the pool for its views to be computed: the pool has moved forward
from the deposit's snapshot, whose `P` is positive and whose sums are at most the pool's. -/
structure DepositValid (sp : StabilityPoolStorage) (d : Address) : Prop where
  position : (sp.depositSnapshots d).position ≤ sp.position
  P_pos : 0 < (sp.depositSnapshots d).P
  S_le : (sp.depositSnapshots d).S ≤
    sp.epochToScaleToSum (sp.depositSnapshots d).epoch (sp.depositSnapshots d).scale
  G_le : (sp.depositSnapshots d).G ≤
    sp.epochToScaleToG (sp.depositSnapshots d).epoch (sp.depositSnapshots d).scale

/-- What every pool the system reaches satisfies: its product is positive, every deposit is
tagged with a registered front end or with none, and every deposit that is not empty is
valid. -/
structure Valid (sp : StabilityPoolStorage) : Prop where
  P_pos : 0 < sp.P
  frontEndTag : ∀ d, (sp.deposits d).frontEndTag = 0 ∨
    (sp.frontEnds (sp.deposits d).frontEndTag).registered = true
  deposits : ∀ d, 0 < (sp.deposits d).initialValue → DepositValid sp d

section Valid

variable {sp sp' : StabilityPoolStorage} {d : Address}

theorem DepositValid.evolves (h : DepositValid sp d) (he : Evolves d sp sp') :
    DepositValid sp' d where
  position := by rw [he.snapshots]; exact h.position.trans he.position
  P_pos := by rw [he.snapshots]; exact h.P_pos
  S_le := by rw [he.snapshots]; exact h.S_le.trans (he.sums _ _)
  G_le := by rw [he.snapshots]; exact h.G_le.trans (he.G _ _)

theorem Valid.init : Valid StabilityPoolStorage.init where
  P_pos := by decide
  frontEndTag _ := .inl rfl
  deposits _ h := absurd h (lt_irrefl 0)

/-- A deposit that evolves keeps a registered front end, or none. -/
theorem Valid.frontEndTag_of_evolves (hv : Valid sp) (he : Evolves d sp sp') :
    (sp'.deposits d).frontEndTag = 0 ∨
      (sp'.frontEnds (sp'.deposits d).frontEndTag).registered = true := by
  rw [he.deposit]
  rcases hv.frontEndTag d with h | h
  · exact .inl h
  · exact .inr (by rw [he.frontEnds _ h]; exact h)

/-- A change that writes the deposit of `a` at most keeps the pool valid when it keeps the
product positive and leaves `a`'s deposit with a registered front end or none, and valid. -/
theorem Valid.of_evolves_ne (hv : Valid sp) {a : Address} (he : ∀ d, d ≠ a → Evolves d sp sp')
    (hP : 0 < sp'.P)
    (htag : (sp'.deposits a).frontEndTag = 0 ∨
      (sp'.frontEnds (sp'.deposits a).frontEndTag).registered = true)
    (hdeposit : 0 < (sp'.deposits a).initialValue → DepositValid sp' a) : Valid sp' where
  P_pos := hP
  frontEndTag d := by
    by_cases hd : d = a
    · exact hd ▸ htag
    · exact hv.frontEndTag_of_evolves (he d hd)
  deposits d hd' := by
    by_cases hd : d = a
    · subst hd
      exact hdeposit hd'
    · rw [(he d hd).deposit] at hd'
      exact (hv.deposits d hd').evolves (he d hd)

/-- A change under which every deposit evolves keeps the pool valid. -/
theorem Valid.evolves (hv : Valid sp) (he : ∀ d, Evolves d sp sp') : Valid sp' :=
  hv.of_evolves_ne (a := 0) (fun d _ => he d) ((he 0).P_pos hv.P_pos)
    (hv.frontEndTag_of_evolves (he 0))
    (fun h => (hv.deposits 0 (by rwa [(he 0).deposit] at h)).evolves (he 0))

end Valid

/-- A change of the pool that writes the deposits of `touched` at most: every other deposit
evolves, and the pool stays valid. -/
structure Writes (touched : Address → Prop) (sp sp' : StabilityPoolStorage) : Prop where
  evolves : ∀ d, ¬ touched d → Evolves d sp sp'
  valid : Valid sp → Valid sp'

namespace Writes

variable {touched : Address → Prop} {sp₁ sp₂ sp₃ : StabilityPoolStorage}

theorem of_evolves (h : ∀ d, Evolves d sp₁ sp₂) : Writes touched sp₁ sp₂ :=
  ⟨fun d _ => h d, fun hv => hv.evolves h⟩

theorem refl (sp : StabilityPoolStorage) : Writes touched sp sp :=
  of_evolves fun d => Evolves.refl d sp

theorem trans (h₁ : Writes touched sp₁ sp₂) (h₂ : Writes touched sp₂ sp₃) :
    Writes touched sp₁ sp₃ :=
  ⟨fun d hd => (h₁.evolves d hd).trans (h₂.evolves d hd), fun hv => h₂.valid (h₁.valid hv)⟩

end Writes

/-! ## The depositor's views -/

section Depositor

variable {sp : StabilityPoolStorage}

/-- In a valid pool a depositor's compounded deposit reverts only on overflow, is at most the
deposit's initial value, and is computed whenever the deposit times `P` fits in `uint256`. -/
theorem Valid.compoundedZUSDDeposit (hv : Valid sp) (d : Address) :
    Revert.RevertsOnlyWith SafeMath.Overflow (getCompoundedZUSDDeposit sp d) ∧
      (∀ c, getCompoundedZUSDDeposit sp d = .ok c → c ≤ (sp.deposits d).initialValue) ∧
      ((sp.deposits d).initialValue * sp.P ≤ MAX_UINT256 →
        ∃ c, getCompoundedZUSDDeposit sp d = .ok c) := by
  by_cases hzero : (sp.deposits d).initialValue = 0
  · -- an empty deposit reads zero
    have hview : getCompoundedZUSDDeposit sp d = .ok 0 := by
      simp [getCompoundedZUSDDeposit, hzero]
    exact ⟨.of_eq_ok hview, fun c hc => by simp_all, fun _ => ⟨0, hview⟩⟩
  have hvalid := hv.deposits d (Nat.pos_of_ne_zero hzero)
  have hview : getCompoundedStakeFromSnapshots sp (sp.deposits d).initialValue _ = _ :=
    getCompoundedStakeFromSnapshots_eq hvalid.position hvalid.P_pos
  simp only [getCompoundedZUSDDeposit, hzero, if_false, hview]
  refine ⟨.ite (fun _ => .throw (.inl rfl)) (fun _ => .of_eq_ok rfl), fun c hc => ?_,
    fun hfit => ⟨_, if_neg fun hover => Nat.not_lt.2 hfit hover.2.2⟩⟩
  split_ifs at hc
  rw [Except.ok.injEq] at hc
  subst hc
  -- at the snapshot's own position the stake is worth itself
  calc cutOff _ (compoundedAt _ (sp.depositSnapshots d).position sp.position)
      ≤ compoundedAt _ (sp.depositSnapshots d).position sp.position := cutOff_le _ _
    _ ≤ compoundedAt _ (sp.depositSnapshots d).position (sp.depositSnapshots d).position :=
      compoundedAt_antitone le_rfl hvalid.position
    _ = (sp.deposits d).initialValue := compoundedAt_self hvalid.P_pos

/-- In a valid pool a depositor's ether gain reverts only on overflow. -/
theorem Valid.depositorETHGain (hv : Valid sp) (d : Address) :
    Revert.RevertsOnlyWith SafeMath.Overflow (getDepositorETHGain sp d) := by
  by_cases hzero : (sp.deposits d).initialValue = 0
  · exact .of_eq_ok (a := 0) (by simp [getDepositorETHGain, hzero])
  have hvalid := hv.deposits d (Nat.pos_of_ne_zero hzero)
  simp only [getDepositorETHGain, getETHGainFromSnapshots, hzero, if_false]
  exact gainFromSnapshots_revertsOnlyWith_overflow hvalid.S_le hvalid.P_pos

/-- In a valid pool a depositor's ZERO gain reverts only on overflow. -/
theorem Valid.depositorZEROGain (hv : Valid sp) (d : Address) :
    Revert.RevertsOnlyWith SafeMath.Overflow (getDepositorZEROGain sp d) := by
  by_cases hzero : (sp.deposits d).initialValue = 0
  · exact .of_eq_ok (a := 0) (by simp [getDepositorZEROGain, hzero])
  have hvalid := hv.deposits d (Nat.pos_of_ne_zero hzero)
  simp only [getDepositorZEROGain, getZEROGainFromSnapshots, hzero, if_false]
  -- the gain from the sums, then its share at the kickback rate
  refine .bind (gainFromSnapshots_revertsOnlyWith_overflow hvalid.G_le hvalid.P_pos)
    fun gain _ => ?_
  exact .bind (SafeMath.mul_revertsOnlyWith_overflow _ _) fun _ _ => .pure _

end Depositor

/-! ## What each function of the pool does to it -/

section Updates

variable {sp sp' : StabilityPoolStorage} {d : Address}

/-- Writing the entry of the current epoch and scale of a running sum with a larger value
raises the sum everywhere. -/
theorem setEntry_le {m : ℕ → ℕ → ℕ} {epoch scale value : ℕ} (h : m epoch scale ≤ value)
    (e s : ℕ) : m e s ≤ setEntry m epoch scale value e s := by
  rw [setEntry_apply]
  split_ifs with hes
  · obtain ⟨rfl, rfl⟩ := hes
    exact h
  · exact le_rfl

/-- Issuing ZERO raises `G` in the current epoch and scale. -/
theorem updateG_evolves {ZEROIssuance : ℕ} (h : updateG sp ZEROIssuance = .ok sp')
    (d : Address) : Evolves d sp sp' := by
  simp only [updateG] at h
  split_ifs at h
  · rw [Revert.pure_eq_ok] at h
    exact h ▸ Evolves.refl d sp
  · simp only [computeZEROPerUnitStaked, Revert.bind_eq_ok, SafeMath.div_eq_ok,
      SafeMath.sub_eq_ok, Revert.pure_eq_ok] at h
    obtain ⟨_, ⟨_, -, _, -, rfl⟩, rfl⟩ := h
    exact ⟨⟨le_rfl, id, fun _ _ => le_rfl, setEntry_le (Nat.le_add_right _ _),
      fun _ _ => rfl⟩, rfl, rfl⟩

/-- Computing the rewards of an offset writes only the error terms. -/
theorem computeRewardsPerUnitStaked_evolves {collToAdd debtToOffset total ETHGain ZUSDLoss : ℕ}
    (h : computeRewardsPerUnitStaked sp collToAdd debtToOffset total =
      .ok (sp', ETHGain, ZUSDLoss)) (d : Address) : Evolves d sp sp' := by
  simp only [computeRewardsPerUnitStaked] at h
  split_ifs at h
  all_goals
    simp only [Revert.bind_eq_ok, Revert.assert_eq_ok, SafeMath.sub_eq_ok, SafeMath.div_eq_ok,
      Revert.pure_eq_ok, Prod.mk.injEq] at h
  · obtain ⟨_, -, _, rfl, _, -, _, -, rfl, -, -⟩ := h
    exact Evolves.of_frame rfl rfl rfl rfl rfl rfl rfl rfl
  · obtain ⟨_, -, _, -, _, -, _, -, _, rfl, _, -, _, -, rfl, -, -⟩ := h
    exact Evolves.of_frame rfl rfl rfl rfl rfl rfl rfl rfl

/-- An offset moves the product forward and raises `S`: it scales `P` by one minus the loss,
starting a new epoch when the pool is emptied and a new scale when `P` would fall below
`SCALE_FACTOR`. -/
theorem updateRewardSumAndProduct_evolves {ETHGain ZUSDLoss : ℕ}
    (h : updateRewardSumAndProduct sp ETHGain ZUSDLoss = .ok sp') (d : Address) :
    Evolves d sp sp' := by
  simp only [updateRewardSumAndProduct, Revert.bind_eq_ok, Revert.assert_eq_ok,
    SafeMath.sub_eq_ok] at h
  obtain ⟨_, hloss, factor, ⟨-, rfl⟩, h⟩ := h
  have hS : ∀ e s, sp.epochToScaleToSum e s ≤ setEntry sp.epochToScaleToSum sp.currentEpoch
      sp.currentScale (sp.epochToScaleToSum sp.currentEpoch sp.currentScale + ETHGain * sp.P) e s :=
    setEntry_le (Nat.le_add_right _ _)
  have hfactor : DECIMAL_PRECISION - ZUSDLoss ≤ DECIMAL_PRECISION := Nat.sub_le _ _
  split_ifs at h with hzero hscale
  all_goals
    obtain ⟨_, hpos, h⟩ := h
    rw [Revert.pure_eq_ok] at h
    subst h
    refine ⟨⟨?_, fun _ => hpos, hS, fun _ _ => le_rfl, fun _ _ => rfl⟩, rfl, rfl⟩
  · -- the pool was emptied: a new epoch
    exact .epoch (Nat.lt_succ_self _)
  · -- a new scale, with `P` multiplied by at most `SCALE_FACTOR`
    refine .nextScale rfl rfl ?_
    show sp.P * (DECIMAL_PRECISION - ZUSDLoss) * SCALE_FACTOR / DECIMAL_PRECISION ≤
      sp.P * SCALE_FACTOR
    apply Nat.div_le_of_le_mul
    calc sp.P * (DECIMAL_PRECISION - ZUSDLoss) * SCALE_FACTOR
        ≤ sp.P * DECIMAL_PRECISION * SCALE_FACTOR :=
          Nat.mul_le_mul_right _ (Nat.mul_le_mul_left _ hfactor)
      _ = DECIMAL_PRECISION * (sp.P * SCALE_FACTOR) := by ring
  · -- the same scale, with `P` lowered
    refine .scale rfl rfl ?_
    show sp.P * (DECIMAL_PRECISION - ZUSDLoss) / DECIMAL_PRECISION ≤ sp.P
    apply Nat.div_le_of_le_mul
    calc sp.P * (DECIMAL_PRECISION - ZUSDLoss) ≤ sp.P * DECIMAL_PRECISION :=
          Nat.mul_le_mul_left _ hfactor
      _ = DECIMAL_PRECISION * sp.P := Nat.mul_comm _ _

/-- Moving the offset's debt and collateral writes only the pool's total and ether. -/
theorem moveOffsetCollAndDebt_evolves {cfg : Config} {st st' : System} {collToAdd debtToOffset : ℕ}
    (h : moveOffsetCollAndDebt cfg st collToAdd debtToOffset = .ok st') (d : Address) :
    Evolves d st.stabilityPool st'.stabilityPool := by
  simp only [moveOffsetCollAndDebt, Revert.bind_eq_ok, Revert.pure_eq_ok] at h
  obtain ⟨_, -, _, -, _, -, _, -, rfl⟩ := h
  exact Evolves.of_frame rfl rfl rfl rfl rfl rfl rfl rfl

end Updates

section Deposits

variable {sp sp' : StabilityPoolStorage} {depositor d : Address}

theorem setFrontEndTag_evolves {frontEndTag : Address} (hd : d ≠ depositor) :
    Evolves d sp (setFrontEndTag sp depositor frontEndTag) :=
  ⟨Advances.of_frame rfl rfl rfl rfl rfl rfl, Function.update_of_ne hd _ _, rfl⟩

/-- Tagging an empty deposit with a registered front end, or none, keeps the pool valid. -/
theorem setFrontEndTag_writes {frontEndTag : Address}
    (hzero : (sp.deposits depositor).initialValue = 0)
    (htag : frontEndTag = 0 ∨ (sp.frontEnds frontEndTag).registered = true) :
    Writes (· = depositor) sp (setFrontEndTag sp depositor frontEndTag) where
  evolves _ hd := setFrontEndTag_evolves hd
  valid hv := hv.of_evolves_ne (fun _ hd => setFrontEndTag_evolves hd) hv.P_pos
    (by simpa [setFrontEndTag] using htag) (by simp [setFrontEndTag, hzero])

theorem updateDepositAndSnapshots_evolves {newValue : ℕ} (hd : d ≠ depositor) :
    Evolves d sp (updateDepositAndSnapshots sp depositor newValue) := by
  unfold updateDepositAndSnapshots
  split_ifs
  · exact ⟨Advances.of_frame rfl rfl rfl rfl rfl rfl, by simp [Function.update_of_ne hd],
      Function.update_of_ne hd _ _⟩
  · exact ⟨Advances.of_frame rfl rfl rfl rfl rfl rfl, Function.update_of_ne hd _ _,
      Function.update_of_ne hd _ _⟩

/-- Recording a deposit with snapshots of the pool as it stands, or deleting it with its tag,
keeps the pool valid. -/
theorem updateDepositAndSnapshots_writes (newValue : ℕ) :
    Writes (· = depositor) sp (updateDepositAndSnapshots sp depositor newValue) where
  evolves _ hd := updateDepositAndSnapshots_evolves hd
  valid hv := by
    refine hv.of_evolves_ne (fun _ hd => updateDepositAndSnapshots_evolves hd) ?_ ?_ ?_
    all_goals
      unfold updateDepositAndSnapshots
      split_ifs with hzero
    · exact hv.P_pos
    · exact hv.P_pos
    · simp
    · simpa using hv.frontEndTag depositor
    · simp [hzero]
    · -- the new snapshots are those of the pool itself
      intro _
      refine ⟨le_of_eq ?_, by simpa using hv.P_pos, by simp, by simp⟩
      simp [Snapshots.position, StabilityPoolStorage.position]

theorem updateFrontEndStakeAndSnapshots_evolves {frontEnd : Address} {newValue : ℕ}
    (d : Address) : Evolves d sp (updateFrontEndStakeAndSnapshots sp frontEnd newValue) := by
  unfold updateFrontEndStakeAndSnapshots
  split_ifs <;> exact Evolves.of_frame rfl rfl rfl rfl rfl rfl rfl rfl

theorem sendETHGainTo_evolves {amount : ℕ} {receiver : Address}
    (h : sendETHGainTo sp amount receiver = .ok sp') (d : Address) : Evolves d sp sp' := by
  simp only [sendETHGainTo, Revert.require_bind_eq_ok] at h
  obtain ⟨-, h⟩ := h
  split_ifs at h with hzero
  · rw [Revert.pure_eq_ok] at h
    exact h ▸ Evolves.refl d sp
  · simp only [Revert.bind_eq_ok, SafeMath.sub_eq_ok, Revert.pure_eq_ok] at h
    obtain ⟨-, _, -, rfl⟩ := h
    exact Evolves.of_frame rfl rfl rfl rfl rfl rfl rfl rfl

end Deposits

section System

variable {cfg : Config} {st st' : System} {sender : Address}

/-- Issuing ZERO writes the community issuance and raises `G`. -/
theorem triggerZEROIssuance_eq_ok (h : triggerZEROIssuance st = .ok st') :
    ∃ ci sp, (∀ d, Evolves d st.stabilityPool sp) ∧
      st' = { st with communityIssuance := ci, stabilityPool := sp } := by
  simp only [triggerZEROIssuance, Revert.bind_eq_ok, Revert.pure_eq_ok] at h
  obtain ⟨⟨ci, _⟩, -, sp, hsp, rfl⟩ := h
  exact ⟨ci, sp, updateG_evolves hsp, rfl⟩

/-- An offset moves the product forward and raises the sums, and writes no deposit. -/
theorem offset_evolves {debtToOffset collToAdd : ℕ}
    (h : offset cfg st debtToOffset collToAdd = .ok st') (d : Address) :
    Evolves d st.stabilityPool st'.stabilityPool := by
  simp only [offset] at h
  split_ifs at h
  · rw [Revert.pure_eq_ok] at h
    exact h ▸ Evolves.refl d _
  · simp only [Revert.bind_eq_ok] at h
    obtain ⟨st₁, hissue, ⟨sp₁, ETHGain, ZUSDLoss⟩, hrewards, sp₂, hproduct, hmove⟩ := h
    obtain ⟨ci, sp, hsp, rfl⟩ := triggerZEROIssuance_eq_ok hissue
    exact (((hsp d).trans (computeRewardsPerUnitStaked_evolves hrewards d)).trans
      (updateRewardSumAndProduct_evolves hproduct d)).trans (moveOffsetCollAndDebt_evolves hmove d)

/-- `provideToSP` by `sender` writes only the sender's deposit in the pool, and moves ZUSD without
changing its supply. -/
theorem provideToSP_eq_ok {amount : ℕ} {frontEndTag : Address}
    (h : provideToSP cfg st sender amount frontEndTag = .ok st') :
    ∃ ci sp zusdToken,
      st' = { st with communityIssuance := ci, stabilityPool := sp, zusdToken := zusdToken } ∧
      zusdToken.totalSupply = st.zusdToken.totalSupply ∧ Ledger.Moves st.zusdToken zusdToken ∧
      Writes (· = sender) st.stabilityPool sp := by
  simp only [provideToSP, Revert.bind_eq_ok, Revert.pure_eq_ok] at h
  obtain ⟨_, htag, _, -, _, -, st₁, hissue, h⟩ := h
  obtain ⟨ci, sp₁, hsp₁, rfl⟩ := triggerZEROIssuance_eq_ok hissue
  dsimp only at h
  -- a new deposit is tagged first, with a front end that passed the check
  have hw₂ : Writes (· = sender) sp₁
      (if (st.stabilityPool.deposits sender).initialValue = 0 then
        setFrontEndTag sp₁ sender frontEndTag else sp₁) := by
    split_ifs with hzero
    · refine setFrontEndTag_writes (by rwa [(hsp₁ sender).deposit]) ?_
      simp only [requireFrontEndIsRegisteredOrZero, Revert.require_eq_ok] at htag
      rcases htag with hreg | hzero'
      · exact .inr (by rw [(hsp₁ frontEndTag).frontEnds _ hreg]; exact hreg)
      · exact .inl hzero'
    · exact Writes.refl _
  generalize (if (st.stabilityPool.deposits sender).initialValue = 0 then
    setFrontEndTag sp₁ sender frontEndTag else sp₁) = sp₂ at h hw₂
  obtain ⟨_, -, compounded, -, _, -, _, -, stake, -, zusdToken, htransfer, sp₆, hsend, rfl⟩ := h
  have htransfer' := (ZUSDToken.transfer_eq_ok.1 htransfer).2.2
  refine ⟨ci, sp₆, zusdToken, rfl, Ledger.transfer_totalSupply htransfer',
    Ledger.Moves.transfer htransfer', ?_⟩
  -- then the front end's stake, the pool's total, the deposit and the ether gain
  have hw₃ : Writes (· = sender) sp₂
      (updateFrontEndStakeAndSnapshots sp₂ (sp₂.deposits sender).frontEndTag (stake + amount)) :=
    Writes.of_evolves updateFrontEndStakeAndSnapshots_evolves
  generalize updateFrontEndStakeAndSnapshots sp₂ (sp₂.deposits sender).frontEndTag
    (stake + amount) = sp₃ at hsend hw₃
  have hw₄ : Writes (· = sender) sp₃
      { sp₃ with totalZUSDDeposits := sp₃.totalZUSDDeposits + amount } :=
    Writes.of_evolves fun _ => Evolves.of_frame rfl rfl rfl rfl rfl rfl rfl rfl
  generalize { sp₃ with totalZUSDDeposits := sp₃.totalZUSDDeposits + amount } = sp₄ at hsend hw₄
  have hw₅ : Writes (· = sender) sp₄ (updateDepositAndSnapshots sp₄ sender (compounded + amount)) :=
    updateDepositAndSnapshots_writes _
  generalize updateDepositAndSnapshots sp₄ sender (compounded + amount) = sp₅ at hsend hw₅
  exact ((((((Writes.of_evolves hsp₁).trans hw₂).trans hw₃).trans hw₄).trans hw₅).trans
    (Writes.of_evolves (sendETHGainTo_evolves hsend)))

/-- Returning ZUSD to a depositor moves it out of the pool and lowers the pool's total. -/
theorem sendZUSDToDepositor_eq_ok {sp sp' : StabilityPoolStorage} {depositor : Address}
    {ZUSDWithdrawal : ℕ} {zusdToken : Ledger Address}
    (h : sendZUSDToDepositor cfg st sp depositor ZUSDWithdrawal = .ok (zusdToken, sp')) :
    zusdToken.totalSupply = st.zusdToken.totalSupply ∧ Ledger.Moves st.zusdToken zusdToken ∧
      ∀ d, Evolves d sp sp' := by
  unfold sendZUSDToDepositor at h
  split_ifs at h
  · obtain ⟨rfl, rfl⟩ := Prod.mk.inj (Revert.pure_eq_ok.1 h)
    exact ⟨rfl, Ledger.Moves.refl _, fun d => Evolves.refl d sp⟩
  · simp only [Revert.bind_eq_ok, ZUSDToken.transfer_eq_ok, SafeMath.sub_eq_ok, Revert.pure_eq_ok,
      Prod.mk.injEq] at h
    obtain ⟨l, ⟨-, -, htransfer⟩, _, -, rfl, rfl⟩ := h
    exact ⟨Ledger.transfer_totalSupply htransfer, Ledger.Moves.transfer htransfer,
      fun _ => Evolves.of_frame rfl rfl rfl rfl rfl rfl rfl rfl⟩

/-- `withdrawFromSP` by `sender`, to `receiver`, writes only the sender's deposit in the pool, and
moves ZUSD without changing its supply. -/
theorem withdrawFromSpTo_eq_ok {amount : ℕ} {receiver : Address}
    (h : withdrawFromSpTo cfg st sender amount receiver = .ok st') :
    ∃ ci sp zusdToken,
      st' = { st with communityIssuance := ci, stabilityPool := sp, zusdToken := zusdToken } ∧
      zusdToken.totalSupply = st.zusdToken.totalSupply ∧ Ledger.Moves st.zusdToken zusdToken ∧
      Writes (· = sender) st.stabilityPool sp := by
  simp only [withdrawFromSpTo] at h
  obtain ⟨_, -, h⟩ := Revert.bind_eq_ok.1 h
  -- a withdrawal of a nonzero amount checks the troves first
  split at h
  on_goal 1 => obtain ⟨_, -, h⟩ := Revert.bind_eq_ok.1 h
  all_goals
    simp only [Revert.bind_eq_ok, Revert.pure_eq_ok] at h
    obtain ⟨_, -, st₁, hissue, h⟩ := h
    obtain ⟨ci, sp₁, hsp₁, rfl⟩ := triggerZEROIssuance_eq_ok hissue
    dsimp only at h
    obtain ⟨_, -, compounded, -, _, -, _, -, _, -, stake, -, ⟨zusdToken, sp₃⟩, hreturn, newDeposit,
      -, sp₅, hsend, rfl⟩ := h
    obtain ⟨hsupply, hmoves, hsp₃⟩ := sendZUSDToDepositor_eq_ok hreturn
    refine ⟨ci, sp₅, zusdToken, rfl, hsupply, hmoves, ?_⟩
    have hw₂ : Writes (· = sender) sp₁
        (updateFrontEndStakeAndSnapshots sp₁ (sp₁.deposits sender).frontEndTag stake) :=
      Writes.of_evolves updateFrontEndStakeAndSnapshots_evolves
    have hw₄ : Writes (· = sender) sp₃ (updateDepositAndSnapshots sp₃ sender newDeposit) :=
      updateDepositAndSnapshots_writes _
    exact (((((Writes.of_evolves hsp₁).trans hw₂).trans (Writes.of_evolves hsp₃)).trans hw₄).trans
      (Writes.of_evolves (sendETHGainTo_evolves hsend)))

/-- Registering a front end writes a front end that was not registered, and no deposit. -/
theorem registerFrontEnd_eq_ok {kickbackRate : ℕ}
    (h : registerFrontEnd st sender kickbackRate = .ok st') :
    ∃ sp, st' = { st with stabilityPool := sp } ∧ ∀ d, Evolves d st.stabilityPool sp := by
  simp only [registerFrontEnd, Revert.bind_eq_ok, Revert.pure_eq_ok] at h
  obtain ⟨_, hnot, _, -, _, -, rfl⟩ := h
  simp only [requireFrontEndNotRegistered, Revert.require_eq_ok] at hnot
  refine ⟨_, rfl, fun d => ⟨⟨le_rfl, id, fun _ _ => le_rfl, fun _ _ => le_rfl, fun a ha => ?_⟩,
    rfl, rfl⟩⟩
  -- the sender was not registered, so it is not the front end read
  have hne : a ≠ sender := by
    rintro rfl
    rw [hnot] at ha
    exact Bool.false_ne_true ha
  exact Function.update_of_ne hne _ _

end System

end ZeroProtocol.StabilityPool
