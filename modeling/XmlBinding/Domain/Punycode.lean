import XmlBinding.Text.Split

/-!
Punycode writes a label in ASCII: the ASCII characters of the label, a hyphen, and numbers that say
which characters go where between them. A number has digits of value 0 to 35, the lowest first; at
each place a digit below a threshold is the last one. Thresholds follow the numbers read so far.
-/

namespace XmlBinding.Domain

/-- Letters stand for 0 to 25, digits for 26 to 35. -/
def digitValue? (c : Char) : Option Nat :=
  if 'a' ≤ c ∧ c ≤ 'z' then some (c.toNat - 'a'.toNat)
  else if c.isDigit then some (c.toNat - '0'.toNat + 26)
  else none

def threshold (bias place : Nat) : Nat :=
  max 1 (min 26 (36 * place - bias))

/-- Numbers and weights are words of 32 bits. -/
def maxNumber : Nat := 4294967295

/-- Adds the number at the start of the text to a sum. -/
def addNumber? (bias place weight sum : Nat) : List Char → Option (Nat × List Char)
  | [] => none
  | c :: rest => do
      let digit ← digitValue? c
      let sum := sum + digit * weight
      let limit := threshold bias place
      if sum > maxNumber then none
      else if digit < limit then return (sum, rest)
      else if weight * (36 - limit) > maxNumber then none
      else addNumber? bias (place + 1) (weight * (36 - limit)) sum rest

theorem length_of_addNumber? {bias place weight sum total : Nat} {cs rest : List Char}
    (h : addNumber? bias place weight sum cs = some (total, rest)) : rest.length < cs.length := by
  induction cs generalizing place weight sum with
  | nil => simp [addNumber?] at h
  | cons c cs ih =>
      obtain ⟨digit, _, h⟩ := Option.bind_eq_some_iff.1 h
      simp only at h
      split at h
      · simp at h
      split at h
      · obtain ⟨_, rfl⟩ := Prod.mk.inj (Option.some.inj h)
        simp
      split at h
      · simp at h
      · exact Nat.lt_succ_of_lt (ih h)

/-- How often a number is divided until it is small, and what is left. -/
def shrink (n : Nat) : Nat × Nat :=
  if 455 < n then
    let (times, rest) := shrink (n / 35)
    (times + 1, rest)
  else (0, n)
termination_by n
decreasing_by exact Nat.div_lt_self (by omega) (by omega)

/-- The bias after a number, for a label that has grown to the given size. -/
def nextBias (number size : Nat) (isFirst : Bool) : Nat :=
  let number := if isFirst then number / 700 else number / 2
  let (times, rest) := shrink (number + number / size)
  36 * times + 36 * rest / (rest + 38)

/-- Puts the characters that the text describes into a label, from a code point and a place on. -/
def insertFrom (label : List Char) (codePoint bias place : Nat) (cs : List Char) :
    Option (List Char) :=
  if cs.isEmpty then some label
  else
    match h : addNumber? bias 1 1 place cs with
    | none => none
    | some (sum, rest) =>
        let size := label.length + 1
        let codePoint := codePoint + sum / size
        let index := sum % size
        if codePoint.isValidChar then
          insertFrom (label.insertIdx index (Char.ofNat codePoint)) codePoint
            (nextBias (sum - place) size (place == 0)) (index + 1) rest
        else none
termination_by cs.length
decreasing_by exact length_of_addNumber? h

/-- The label that a text in small letters stands for. -/
def punycode? (cs : List Char) : Option (List Char) :=
  match Text.cutLast (· == '-') cs with
  | some (plain, numbers) => if plain.isEmpty then none else insertFrom plain 128 72 0 numbers
  | none => insertFrom [] 128 72 0 cs

end XmlBinding.Domain
