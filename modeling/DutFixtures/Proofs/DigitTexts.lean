import Mathlib.Data.List.Basic

namespace DutFixtures

/-- One or more decimal digits. -/
structure AreDigits (cs : List Char) : Prop where
  nonempty : cs ≠ []
  digits : ∀ c ∈ cs, c.isDigit = true

/-- The text of a number: digits without needless zeros in front. -/
structure IsNumeral (cs : List Char) : Prop extends AreDigits cs where
  noLeadingZero : cs.head? = some '0' → cs.length = 1

theorem AreDigits.head {cs : List Char} (written : AreDigits cs) (rest : List Char) :
    ∃ c tail, cs ++ rest = c :: tail ∧ c.isDigit = true := by
  obtain ⟨c, tail, rfl⟩ := List.exists_cons_of_ne_nil written.nonempty
  exact ⟨c, tail ++ rest, rfl, written.digits c (List.mem_cons_self ..)⟩

theorem isDigit_bounds {c : Char} (digit : c.isDigit = true) : 48 ≤ c.toNat ∧ c.toNat ≤ 57 := by
  simp only [Char.isDigit, Bool.and_eq_true, decide_eq_true_eq] at digit
  exact ⟨digit.1, digit.2⟩

theorem digitChar_of_isDigit {c : Char} (digit : c.isDigit = true) :
    Nat.digitChar (c.toNat - 48) = c := by
  obtain ⟨lower, upper⟩ := isDigit_bounds digit
  have code : (Nat.digitChar (c.toNat - 48)).toNat = c.toNat := by
    rw [Nat.toNat_digitChar_of_lt_ten (by omega)]
    omega
  exact Char.toNat_inj.mp code

theorem eq_zero_of_toDigits_head {n : Nat} (zero : (Nat.toDigits 10 n).head? = some '0') :
    n = 0 := by
  induction n using Nat.strongRecOn with
  | _ n ih =>
    by_cases small : n < 10
    · rw [Nat.toDigits_of_lt_base small, List.head?_cons, Option.some.injEq] at zero
      exact Nat.digitChar_eq_zero.mp zero
    · have large : 10 ≤ n := by omega
      rw [Nat.toDigits_of_base_le (by decide) large,
        List.head?_append_of_ne_nil _ Nat.toDigits_ne_nil] at zero
      have quotient := ih (n / 10) (by omega) zero
      omega

theorem toDigits_append_digits {cs : List Char} {front : Nat} (positive : 0 < front)
    (digits : ∀ c ∈ cs, c.isDigit = true) :
    Nat.toDigits 10 front ++ cs = Nat.toDigits 10 (Nat.ofDigitChars 10 cs front) := by
  induction cs generalizing front with
  | nil => rw [Nat.ofDigitChars_nil, List.append_nil]
  | cons c cs ih =>
    have digit : c.isDigit = true := digits c (List.mem_cons_self ..)
    obtain ⟨_, upper⟩ := isDigit_bounds digit
    have small : c.toNat - 48 < 10 := by omega
    have grown : 0 < 10 * front + (c.toNat - 48) := by omega
    calc Nat.toDigits 10 front ++ c :: cs
        = (Nat.toDigits 10 front ++ Nat.toDigits 10 (c.toNat - 48)) ++ cs := by
          rw [Nat.toDigits_of_lt_base small, digitChar_of_isDigit digit, List.append_assoc]
          rfl
      _ = Nat.toDigits 10 (10 * front + (c.toNat - 48)) ++ cs := by
          rw [Nat.toDigits_append_toDigits (by decide) positive small]
      _ = Nat.toDigits 10 (Nat.ofDigitChars 10 (c :: cs) front) :=
          ih grown fun other member => digits other (List.mem_cons_of_mem _ member)

/-- A numeral is the text of its value. -/
theorem IsNumeral.toDigits_ofDigitChars {cs : List Char} (numeral : IsNumeral cs) :
    Nat.toDigits 10 (Nat.ofDigitChars 10 cs 0) = cs := by
  obtain ⟨⟨nonempty, digits⟩, noLeadingZero⟩ := numeral
  obtain ⟨c, rest, rfl⟩ := List.exists_cons_of_ne_nil nonempty
  by_cases zero : c = '0'
  · have alone : rest = [] := by simpa [zero] using noLeadingZero
    rw [zero, alone]
    rfl
  · have digit : c.isDigit = true := digits c (List.mem_cons_self ..)
    obtain ⟨_, upper⟩ := isDigit_bounds digit
    have text : Nat.toDigits 10 (c.toNat - 48) = [c] := by
      rw [Nat.toDigits_of_lt_base (by omega), digitChar_of_isDigit digit]
    have positive : 0 < c.toNat - 48 := by
      refine Nat.pos_of_ne_zero fun none => zero ?_
      rw [← digitChar_of_isDigit digit, none]
      rfl
    have value : Nat.ofDigitChars 10 (c :: rest) 0 =
        Nat.ofDigitChars 10 rest (c.toNat - 48) := by
      rw [Nat.ofDigitChars_cons]
      simp
    rw [value, ← toDigits_append_digits positive
      fun other member => digits other (List.mem_cons_of_mem _ member), text]
    rfl

theorem isNumeral_toDigits (n : Nat) : IsNumeral (Nat.toDigits 10 n) where
  nonempty := Nat.toDigits_ne_nil
  digits := fun _ member => Nat.isDigit_of_mem_toDigits (by decide) (by decide) member
  noLeadingZero := by
    intro zero
    rw [eq_zero_of_toDigits_head zero, Nat.toDigits_zero]
    rfl

end DutFixtures
