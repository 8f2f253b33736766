/-!
Decimal numerals: fixed-width numerals for dates and times, and the values of digit runs.
-/

namespace XmlBinding.Text

def digitChar (n : Nat) : Char :=
  Char.ofNat (n + 48)

def digitValue (c : Char) : Nat :=
  c.toNat - 48

/-- The last digits of a number, as many as the width says, with leading zeros. -/
def fixedDigits : Nat → Nat → List Char
  | 0, _ => []
  | width + 1, n => fixedDigits width (n / 10) ++ [digitChar (n % 10)]

/-- The value of a run of digits that continues a number read before. -/
def continueNumber (n : Nat) (cs : List Char) : Nat :=
  cs.foldl (fun acc c => acc * 10 + digitValue c) n

def numberOf (cs : List Char) : Nat :=
  continueNumber 0 cs

@[simp] theorem length_fixedDigits (width n : Nat) : (fixedDigits width n).length = width := by
  induction width generalizing n with
  | zero => rfl
  | succ width ih => simp [fixedDigits, ih]

theorem digitValue_digitChar {n : Nat} (h : n < 10) : digitValue (digitChar n) = n := by
  match n, h with
  | 0, _ | 1, _ | 2, _ | 3, _ | 4, _ | 5, _ | 6, _ | 7, _ | 8, _ | 9, _ => decide

/-- One more digit at the end makes a number ten times as large, plus the digit. -/
theorem numberOf_append_singleton (cs : List Char) (c : Char) :
    numberOf (cs ++ [c]) = numberOf cs * 10 + digitValue c := by
  simp [numberOf, continueNumber, List.foldl_append]

/-- A numeral reads back as what its digits can hold of the number. -/
theorem numberOf_fixedDigits (width n : Nat) :
    numberOf (fixedDigits width n) = n % Nat.pow 10 width := by
  induction width generalizing n with
  | zero => exact (Nat.mod_one n).symm
  | succ width ih =>
      have hpow : Nat.pow 10 (width + 1) = 10 * Nat.pow 10 width := Nat.mul_comm _ _
      rw [fixedDigits, numberOf_append_singleton, ih,
        digitValue_digitChar (Nat.mod_lt _ (by decide)), hpow, Nat.mod_mul]
      omega

end XmlBinding.Text
