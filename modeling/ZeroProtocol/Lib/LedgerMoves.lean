import ZeroProtocol.Lib.Ledger
import Mathlib.Algebra.BigOperators.Group.Finset.Piecewise
import Mathlib.Logic.Relation
import Mathlib.Algebra.Order.BigOperators.Group.Finset
import Mathlib.Tactic.Ring

/-!
# What a ledger's own operations keep

A ledger that changes only through its own operations, a mint, a burn or a transfer, moves by
`Ledger.Moves`.  Each of the three keeps the balances adding up to the total supply
(`Ledger.Balanced`: the balances vanish outside a finite set of accounts and their sum there is
the supply), so every ledger that a balanced one moves to is balanced (`Balanced.moves`).

The one fact about sums that the three use is `sum_update_add`: writing one balance changes the
sum by the new balance less the old one.

Crediting several distinct accounts at once, with the supply grown by the credits' sum, is the
same as minting them one after the other (`mintAll`), so it keeps a ledger balanced too
(`Balanced.credit`).
-/

namespace Ledger

variable {α : Type} [DecidableEq α]

/-- One operation of the ledger. -/
inductive Step : Ledger α → Ledger α → Prop
  | mint (l : Ledger α) (a : α) (amount : ℕ) : Step l (Ledger.mint l a amount)
  | burn {l l' : Ledger α} {a : α} {amount : ℕ} : Ledger.burn l a amount = .ok l' → Step l l'
  | transfer {l l' : Ledger α} {a b : α} {amount : ℕ} :
      Ledger.transfer l a b amount = .ok l' → Step l l'

/-- The ledgers reached by mints, burns and transfers. -/
def Moves (l l' : Ledger α) : Prop := Relation.ReflTransGen Step l l'

/-- The balances vanish outside a finite set of accounts and add up to the supply there. -/
def Balanced (l : Ledger α) : Prop :=
  ∃ s : Finset α, (∀ a ∉ s, l.balances a = 0) ∧ ∑ a ∈ s, l.balances a = l.totalSupply

namespace Moves

variable {l₁ l₂ l₃ : Ledger α}

theorem refl (l : Ledger α) : Moves l l := Relation.ReflTransGen.refl

theorem trans (h₁ : Moves l₁ l₂) (h₂ : Moves l₂ l₃) : Moves l₁ l₃ :=
  Relation.ReflTransGen.trans h₁ h₂

theorem of_step (h : Step l₁ l₂) : Moves l₁ l₂ := Relation.ReflTransGen.single h

theorem mint (l : Ledger α) (a : α) (amount : ℕ) : Moves l (Ledger.mint l a amount) :=
  of_step (.mint l a amount)

theorem burn {a : α} {amount : ℕ} (h : Ledger.burn l₁ a amount = .ok l₂) : Moves l₁ l₂ :=
  of_step (.burn h)

theorem transfer {a b : α} {amount : ℕ} (h : Ledger.transfer l₁ a b amount = .ok l₂) :
    Moves l₁ l₂ :=
  of_step (.transfer h)

end Moves

/-- Writing one value of a function changes its sum over a set that holds the point by the new
value less the old one. -/
theorem sum_update_add {f : α → ℕ} {s : Finset α} {a : α} (ha : a ∈ s) (v : ℕ) :
    ∑ x ∈ s, Function.update f a v x + f a = ∑ x ∈ s, f x + v := by
  rw [Finset.sum_update_of_mem ha, Finset.sum_eq_add_sum_sdiff_singleton_of_mem ha]
  omega

/-- Writing one value of a function that vanishes outside `s` gives one that vanishes outside a
finite set too, whose sum moves by the new value less the old one. -/
theorem exists_sum_update {f : α → ℕ} {s : Finset α} (hzero : ∀ x ∉ s, f x = 0) (a : α)
    (v : ℕ) :
    ∃ s' : Finset α, (∀ x ∉ s', Function.update f a v x = 0) ∧
      ∑ x ∈ s', Function.update f a v x + f a = ∑ x ∈ s, f x + v := by
  refine ⟨insert a s, fun x hx => ?_, ?_⟩
  · -- outside the set, `a` was not written
    have hxa : x ≠ a := fun hxa => hx (hxa ▸ Finset.mem_insert_self a s)
    rw [Function.update_of_ne hxa]
    exact hzero x fun hxs => hx (Finset.mem_insert_of_mem hxs)
  · rw [sum_update_add (Finset.mem_insert_self a s)]
    by_cases has : a ∈ s
    · rw [Finset.insert_eq_of_mem has]
    · rw [Finset.sum_insert has, hzero a has, zero_add]

namespace Balanced

variable {l l' : Ledger α}

theorem mint (h : Balanced l) (a : α) (amount : ℕ) : Balanced (Ledger.mint l a amount) := by
  obtain ⟨s, hzero, hsum⟩ := h
  obtain ⟨s', hzero', hsum'⟩ := exists_sum_update hzero a (l.balances a + amount)
  exact ⟨s', hzero', by simp only [mint_balances, mint_totalSupply]; omega⟩

theorem burn {a : α} {amount : ℕ} (h : Balanced l) (hburn : Ledger.burn l a amount = .ok l') :
    Balanced l' := by
  obtain ⟨hle, -, rfl⟩ := burn_eq_ok.mp hburn
  obtain ⟨s, hzero, hsum⟩ := h
  obtain ⟨s', hzero', hsum'⟩ := exists_sum_update hzero a (l.balances a - amount)
  refine ⟨s', hzero', ?_⟩
  change ∑ x ∈ s', Function.update l.balances a (l.balances a - amount) x = l.totalSupply - amount
  omega

theorem transfer {a b : α} {amount : ℕ} (h : Balanced l)
    (htransfer : Ledger.transfer l a b amount = .ok l') : Balanced l' := by
  obtain ⟨hle, rfl⟩ := transfer_eq_ok.mp htransfer
  obtain ⟨s, hzero, hsum⟩ := h
  -- the sender's balance falls by the amount, then the recipient's rises by it
  obtain ⟨s₁, hzero₁, hsum₁⟩ := exists_sum_update hzero a (l.balances a - amount)
  obtain ⟨s₂, hzero₂, hsum₂⟩ := exists_sum_update hzero₁ b
    (Function.update l.balances a (l.balances a - amount) b + amount)
  exact ⟨s₂, hzero₂, by dsimp only; omega⟩

theorem step (h : Balanced l) (hstep : Step l l') : Balanced l' := by
  cases hstep with
  | mint => exact h.mint _ _
  | burn hburn => exact h.burn hburn
  | transfer htransfer => exact h.transfer htransfer

/-- In a balanced ledger no balance exceeds the supply. -/
theorem balances_le (h : Balanced l) (a : α) : l.balances a ≤ l.totalSupply := by
  obtain ⟨s, hzero, hsum⟩ := h
  by_cases ha : a ∈ s
  · rw [← hsum]
    exact Finset.single_le_sum (fun _ _ => Nat.zero_le _) ha
  · rw [hzero a ha]
    exact Nat.zero_le _

/-- **Run lemma.**  Mints, burns and transfers keep a ledger balanced. -/
theorem moves (h : Balanced l) (hmoves : Moves l l') : Balanced l' := by
  induction hmoves with
  | refl => exact h
  | tail _ hstep ih => exact ih.step hstep

end Balanced

/-! ## Credits to several accounts -/

section Credits

variable {β : Type} (key : β → α) (amount : β → ℕ)

/-- Mint each credit's amount to its account, in order. -/
def mintAll (l : Ledger α) (credits : List β) : Ledger α :=
  credits.foldl (fun l p => l.mint (key p) (amount p)) l

@[simp] theorem mintAll_nil (l : Ledger α) : mintAll key amount l [] = l := rfl

@[simp] theorem mintAll_cons (l : Ledger α) (p : β) (rest : List β) :
    mintAll key amount l (p :: rest) = mintAll key amount (l.mint (key p) (amount p)) rest := rfl

theorem Moves.mintAll (l : Ledger α) (credits : List β) :
    Moves l (Ledger.mintAll key amount l credits) := by
  induction credits generalizing l with
  | nil => exact Moves.refl l
  | cons p rest ih => exact (Moves.mint l (key p) (amount p)).trans (ih _)

theorem mintAll_totalSupply (l : Ledger α) (credits : List β) :
    (mintAll key amount l credits).totalSupply = l.totalSupply + (credits.map amount).sum := by
  induction credits generalizing l with
  | nil => rfl
  | cons p rest ih =>
    rw [mintAll_cons, ih, mint_totalSupply, List.map_cons, List.sum_cons]
    omega

theorem mintAll_balances_of_notMem {l : Ledger α} {credits : List β} {a : α}
    (ha : a ∉ credits.map key) : (mintAll key amount l credits).balances a = l.balances a := by
  induction credits generalizing l with
  | nil => rfl
  | cons p rest ih =>
    rw [List.map_cons, List.mem_cons, not_or] at ha
    rw [mintAll_cons, ih ha.2, mint_balances, Function.update_of_ne ha.1]

/-- Over distinct accounts, each credited account gains exactly its credit. -/
theorem mintAll_balances_of_mem {l : Ledger α} {credits : List β}
    (hnodup : (credits.map key).Nodup) {p : β} (hp : p ∈ credits) :
    (mintAll key amount l credits).balances (key p) = l.balances (key p) + amount p := by
  induction credits generalizing l with
  | nil => simp at hp
  | cons q rest ih =>
    rw [List.map_cons, List.nodup_cons] at hnodup
    rw [mintAll_cons]
    rcases List.mem_cons.1 hp with rfl | hp
    · rw [mintAll_balances_of_notMem key amount hnodup.1, mint_balances, Function.update_self]
    · have hne : key p ≠ key q := fun heq => hnodup.1 (heq ▸ List.mem_map_of_mem hp)
      rw [ih hnodup.2 hp, mint_balances, Function.update_of_ne hne]

variable {key amount} {l l' : Ledger α}

/-- A ledger whose distinct accounts are credited, and whose supply grows by the credits' sum,
stays balanced: it is the ledger the credits' mints reach. -/
theorem Balanced.credit (h : Balanced l) {credits : List β} (hnodup : (credits.map key).Nodup)
    (hcredited : ∀ p ∈ credits, l'.balances (key p) = l.balances (key p) + amount p)
    (huncredited : ∀ a ∉ credits.map key, l'.balances a = l.balances a)
    (htotal : l'.totalSupply = l.totalSupply + (credits.map amount).sum) : Balanced l' := by
  obtain ⟨s, hzero, hsum⟩ := h.moves (Moves.mintAll key amount l credits)
  have hbalances : l'.balances = (mintAll key amount l credits).balances := by
    funext a
    by_cases ha : a ∈ credits.map key
    · obtain ⟨p, hp, rfl⟩ := List.mem_map.1 ha
      rw [hcredited p hp, mintAll_balances_of_mem key amount hnodup hp]
    · rw [huncredited a ha, mintAll_balances_of_notMem key amount ha]
  refine ⟨s, fun a ha => hbalances ▸ hzero a ha, ?_⟩
  rw [hbalances, hsum, htotal, mintAll_totalSupply]

end Credits

end Ledger
