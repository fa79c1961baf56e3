import Mathlib.Data.List.DropRight
import Mathlib.Tactic.Ring

/-!
# Strings of decimal digits

A number printed in base ten is a list of characters, `Nat.toDigits 10 n`, and a list of
digits is read back by `Nat.ofDigitChars 10 l 0`.  A fixed-point printer pads and cuts such
lists: zeros on the left (`List.leftpad`) keep the value, zeros on the right
(`List.rightpad`) multiply it by a power of ten, trimming the zeros on the right
(`List.rdropWhile`) and padding again gives the list back (`rightpad_rdropWhile`), and a
prefix (`List.take`) reads the value divided by the power of ten of the digits cut
(`ofDigitChars_take`).

`splitTwo` is the pair of the first two fields of a string split at a separator, which is what
a parser destructuring `s.split(sep)` into two names receives.
-/

namespace DigitString

/-- Every character is a decimal digit. -/
def AllDigits (l : List Char) : Prop := ∀ c ∈ l, c.isDigit = true

/-- The first two fields of `s` split at `separator`. -/
def splitTwo (separator : Char) (s : List Char) : List Char × List Char :=
  (s.takeWhile (· != separator), ((s.dropWhile (· != separator)).drop 1).takeWhile (· != separator))

/-! ## Digit lists -/

theorem allDigits_toDigits (n : ℕ) : AllDigits (Nat.toDigits 10 n) :=
  fun _ hc => Nat.isDigit_of_mem_toDigits (by decide) (by decide) hc

theorem AllDigits.append {l m : List Char} (hl : AllDigits l) (hm : AllDigits m) :
    AllDigits (l ++ m) := by
  intro c hc
  rcases List.mem_append.1 hc with h | h
  exacts [hl c h, hm c h]

theorem allDigits_replicate_zero (n : ℕ) : AllDigits (List.replicate n '0') := by
  intro c hc
  rw [List.eq_of_mem_replicate hc]
  rfl

theorem AllDigits.leftpad {l : List Char} (hl : AllDigits l) (n : ℕ) :
    AllDigits (l.leftpad n '0') :=
  (allDigits_replicate_zero _).append hl

theorem AllDigits.take {l : List Char} (hl : AllDigits l) (k : ℕ) : AllDigits (l.take k) :=
  fun c hc => hl c (List.mem_of_mem_take hc)

theorem AllDigits.rdropWhile {l : List Char} (hl : AllDigits l) (p : Char → Bool) :
    AllDigits (l.rdropWhile p) :=
  fun c hc => hl c (List.IsPrefix.subset (List.rdropWhile_prefix p l) hc)

/-- A character that is not a digit does not occur in a list of digits. -/
theorem AllDigits.not_mem {l : List Char} (hl : AllDigits l) {c : Char} (hc : c.isDigit = false) :
    c ∉ l := fun h => by
  rw [hl c h] at hc
  exact Bool.noConfusion hc

theorem digit_lt_ten {c : Char} (hc : c.isDigit = true) : c.toNat - '0'.toNat < 10 := by
  simp only [Char.isDigit, Bool.and_eq_true, decide_eq_true_eq] at hc
  change c.val.toNat - 48 < 10
  have h := hc.2
  change c.val.toNat ≤ 57 at h
  omega

/-! ## Their values -/

theorem ofDigitChars_append_zero (l m : List Char) :
    Nat.ofDigitChars 10 (l ++ m) 0 =
      10 ^ m.length * Nat.ofDigitChars 10 l 0 + Nat.ofDigitChars 10 m 0 := by
  rw [Nat.ofDigitChars_append, Nat.ofDigitChars_eq_ofDigitChars_zero]

@[simp]
theorem ofDigitChars_leftpad (n : ℕ) (l : List Char) :
    Nat.ofDigitChars 10 (l.leftpad n '0') 0 = Nat.ofDigitChars 10 l 0 := by
  rw [List.leftpad, Nat.ofDigitChars_append, Nat.ofDigitChars_replicate_zero, Nat.mul_zero]

theorem ofDigitChars_rightpad (n : ℕ) (l : List Char) :
    Nat.ofDigitChars 10 (l.rightpad n '0') 0 = 10 ^ (n - l.length) * Nat.ofDigitChars 10 l 0 := by
  rw [List.rightpad, Nat.ofDigitChars_append, Nat.ofDigitChars_replicate_zero]

/-- `k` digits read less than `10 ^ k`. -/
theorem ofDigitChars_lt {l : List Char} (hl : AllDigits l) :
    Nat.ofDigitChars 10 l 0 < 10 ^ l.length := by
  induction l with
  | nil => simp
  | cons c cs ih =>
    have hc : c.toNat - '0'.toNat < 10 := digit_lt_ten (hl c List.mem_cons_self)
    have hcs : Nat.ofDigitChars 10 cs 0 < 10 ^ cs.length :=
      ih fun d hd => hl d (List.mem_cons_of_mem c hd)
    rw [Nat.ofDigitChars_cons, Nat.ofDigitChars_eq_ofDigitChars_zero, Nat.mul_zero, Nat.zero_add,
      List.length_cons, Nat.pow_succ]
    calc 10 ^ cs.length * (c.toNat - '0'.toNat) + Nat.ofDigitChars 10 cs 0
        < 10 ^ cs.length * (c.toNat - '0'.toNat) + 10 ^ cs.length := by omega
      _ = 10 ^ cs.length * (c.toNat - '0'.toNat + 1) := (Nat.mul_succ _ _).symm
      _ ≤ 10 ^ cs.length * 10 := Nat.mul_le_mul_left _ hc

/-- The first `k` digits read the value with the other digits cut off. -/
theorem ofDigitChars_take {l : List Char} (hl : AllDigits l) (k : ℕ) :
    Nat.ofDigitChars 10 (l.take k) 0 = Nat.ofDigitChars 10 l 0 / 10 ^ (l.length - k) := by
  have hrest : Nat.ofDigitChars 10 (l.drop k) 0 < 10 ^ (l.drop k).length :=
    ofDigitChars_lt fun c hc => hl c (List.mem_of_mem_drop hc)
  have hsplit := ofDigitChars_append_zero (l.take k) (l.drop k)
  rw [List.take_append_drop] at hsplit
  rw [hsplit, ← List.length_drop, Nat.mul_add_div (Nat.pow_pos (by decide)),
    Nat.div_eq_of_lt hrest, Nat.add_zero]

/-- A number with its digits below the place of `u` dropped, in two steps: first those below the
place of `D`, then those of the remainder below the place of `u`. -/
theorem div_mul_add_mod_div (v : ℕ) {u D : ℕ} (hu : u ∣ D) :
    v / D * D + u * (v % D / u) = v / u * u := by
  have hD := Nat.div_add_mod' v D
  have hrest := Nat.div_add_mod (v % D) u
  have hv := Nat.div_add_mod' v u
  rw [Nat.mod_mod_of_dvd v hu] at hrest
  omega

/-! ## Trailing zeros -/

/-- Trimming a list's trailing zeros and padding it again with zeros to its length gives the
list back. -/
theorem rightpad_rdropWhile (l : List Char) :
    (l.rdropWhile (· == '0')).rightpad l.length '0' = l := by
  have hzeros : l.rtakeWhile (· == '0') =
      List.replicate (l.length - (l.rdropWhile (· == '0')).length) '0' := by
    rw [List.eq_replicate_iff]
    constructor
    · have hsum := congrArg List.length
        (List.rdropWhile_append_rtakeWhile (p := (· == '0')) (l := l))
      rw [List.length_append] at hsum
      omega
    · intro c hc
      exact beq_iff_eq.1 (List.mem_rtakeWhile_imp (p := (· == '0')) hc)
  rw [List.rightpad, ← hzeros, List.rdropWhile_append_rtakeWhile]

/-! ## Splitting at a separator -/

theorem splitTwo_append {separator : Char} {a b : List Char} (ha : separator ∉ a)
    (hb : separator ∉ b) : splitTwo separator (a ++ separator :: b) = (a, b) := by
  have hpa : ∀ c ∈ a, (c != separator) = true := fun c hc =>
    bne_iff_ne.2 fun h => ha (h ▸ hc)
  have hpb : ∀ c ∈ b, (c != separator) = true := fun c hc =>
    bne_iff_ne.2 fun h => hb (h ▸ hc)
  simp only [splitTwo, List.takeWhile_append_of_pos hpa, List.dropWhile_append_of_pos hpa,
    List.takeWhile_cons, List.dropWhile_cons, bne_self_eq_false, Bool.false_eq_true,
    if_false, List.append_nil, List.drop_one, List.tail_cons,
    List.takeWhile_eq_self_iff.2 hpb]

/-- The first field of a split at a separator that occurs is shorter than the string. -/
theorem splitTwo_fst_length_lt {separator : Char} {s : List Char} (h : separator ∈ s) :
    (splitTwo separator s).1.length < s.length := by
  have hne : s.dropWhile (· != separator) ≠ [] := by
    rw [Ne, List.dropWhile_eq_nil_iff]
    intro hall
    simpa using hall separator h
  have hsum := congrArg List.length (List.takeWhile_append_dropWhile (p := (· != separator))
    (l := s))
  rw [List.length_append] at hsum
  have := List.length_pos_iff.2 hne
  simp only [splitTwo]
  omega

end DigitString
