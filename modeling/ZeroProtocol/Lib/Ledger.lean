import ZeroProtocol.Lib.Revert
import Mathlib.Logic.Function.Basic
import Mathlib.Data.Nat.Notation

/-!
# Token ledgers

An ERC-20 token's state is a balance for every account and a total supply.  A transfer moves
an amount between two balances, a mint adds it to one balance and to the supply, a burn takes
it from both; a transfer or a burn larger than the balance it draws on reverts with the
message OpenZeppelin's implementation uses.

The lemmas say what each operation does to the supply and to the balances it touches, and that
it leaves every other balance alone.
-/

/-- A token's balances and total supply. -/
structure Ledger (α : Type) where
  balances : α → ℕ
  totalSupply : ℕ

namespace Ledger

variable {α : Type} [DecidableEq α]

/-- Move `amount` from `sender` to `recipient`. -/
def transfer (l : Ledger α) (sender recipient : α) (amount : ℕ) : Except String (Ledger α) := do
  Revert.require (amount ≤ l.balances sender) "ERC20: transfer amount exceeds balance"
  let balances := Function.update l.balances sender (l.balances sender - amount)
  pure { l with balances := Function.update balances recipient (balances recipient + amount) }

/-- Create `amount` new tokens for `account`. -/
def mint (l : Ledger α) (account : α) (amount : ℕ) : Ledger α :=
  { balances := Function.update l.balances account (l.balances account + amount)
    totalSupply := l.totalSupply + amount }

/-- Destroy `amount` tokens of `account`. -/
def burn (l : Ledger α) (account : α) (amount : ℕ) : Except String (Ledger α) := do
  Revert.require (amount ≤ l.balances account) "ERC20: burn amount exceeds balance"
  Revert.require (amount ≤ l.totalSupply) "SafeMath: subtraction overflow"
  pure { balances := Function.update l.balances account (l.balances account - amount)
         totalSupply := l.totalSupply - amount }

variable {l l' : Ledger α} {a b c : α} {amount : ℕ}

theorem transfer_eq_ok :
    transfer l a b amount = .ok l' ↔ amount ≤ l.balances a ∧
      l' = { l with balances := Function.update (Function.update l.balances a
        (l.balances a - amount)) b (Function.update l.balances a (l.balances a - amount) b + amount) } := by
  simp only [transfer, Revert.require_bind_eq_ok, Revert.pure_eq_ok]
  exact ⟨fun ⟨h, he⟩ => ⟨h, he.symm⟩, fun ⟨h, he⟩ => ⟨h, he.symm⟩⟩

theorem transfer_totalSupply (h : transfer l a b amount = .ok l') :
    l'.totalSupply = l.totalSupply := by
  obtain ⟨-, rfl⟩ := transfer_eq_ok.mp h
  rfl

theorem transfer_balances_sender (h : transfer l a b amount = .ok l') (hab : a ≠ b) :
    l'.balances a = l.balances a - amount := by
  obtain ⟨-, rfl⟩ := transfer_eq_ok.mp h
  simp [Function.update_apply, hab]

theorem transfer_balances_recipient (h : transfer l a b amount = .ok l') (hab : a ≠ b) :
    l'.balances b = l.balances b + amount := by
  obtain ⟨-, rfl⟩ := transfer_eq_ok.mp h
  simp [Ne.symm hab]

/-- Whoever the recipient, a transfer is covered by the sender's balance and leaves the sender
at least that balance less the amount. -/
theorem transfer_balances_sender_ge (h : transfer l a b amount = .ok l') :
    amount ≤ l.balances a ∧ l.balances a - amount ≤ l'.balances a := by
  obtain ⟨hle, rfl⟩ := transfer_eq_ok.mp h
  refine ⟨hle, ?_⟩
  by_cases hab : a = b
  · subst hab
    simp
  · simp [Function.update_apply, hab]

@[simp] theorem mint_totalSupply : (mint l a amount).totalSupply = l.totalSupply + amount := rfl

@[simp] theorem mint_balances : (mint l a amount).balances =
    Function.update l.balances a (l.balances a + amount) := rfl

theorem burn_eq_ok : burn l a amount = .ok l' ↔ amount ≤ l.balances a ∧
    amount ≤ l.totalSupply ∧
    l' = { balances := Function.update l.balances a (l.balances a - amount)
           totalSupply := l.totalSupply - amount } := by
  simp only [burn, Revert.require_bind_eq_ok, Revert.pure_eq_ok]
  exact ⟨fun ⟨h₁, h₂, he⟩ => ⟨h₁, h₂, he.symm⟩, fun ⟨h₁, h₂, he⟩ => ⟨h₁, h₂, he.symm⟩⟩

theorem burn_balances_self (h : burn l a amount = .ok l') :
    l'.balances a = l.balances a - amount ∧ amount ≤ l.balances a := by
  obtain ⟨hle, -, rfl⟩ := burn_eq_ok.mp h
  simp [hle]

theorem burn_balances_of_ne (h : burn l a amount = .ok l') {c : α} (hca : c ≠ a) :
    l'.balances c = l.balances c := by
  obtain ⟨-, -, rfl⟩ := burn_eq_ok.mp h
  exact Function.update_of_ne hca _ _

theorem burn_totalSupply (h : burn l a amount = .ok l') :
    l'.totalSupply = l.totalSupply - amount ∧ amount ≤ l.totalSupply := by
  obtain ⟨-, hle, rfl⟩ := burn_eq_ok.mp h
  exact ⟨rfl, hle⟩

end Ledger
