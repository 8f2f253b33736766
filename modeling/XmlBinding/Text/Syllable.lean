/-!
Korean syllables and their letters. A syllable is a leading consonant, a vowel and perhaps a
trailing consonant; all of them have code points in the order of their letters.
-/

namespace XmlBinding.Text

/-- The first code points of syllables, leading consonants and vowels, and the one before the first
trailing consonant. -/
def firstSyllable : Nat := 0xAC00

def firstLeading : Nat := 0x1100

def firstVowel : Nat := 0x1161

def beforeTrailing : Nat := 0x11A7

def leadingCount : Nat := 19

def vowelCount : Nat := 21

/-- Trailing consonants, counting none as one of them. -/
def trailingCount : Nat := 28

def syllableCount : Nat := leadingCount * vowelCount * trailingCount

/-- A syllable without a trailing consonant. -/
def isOpenSyllable (n : Nat) : Bool :=
  decide (firstSyllable ≤ n) && decide (n < firstSyllable + syllableCount) &&
    (n - firstSyllable) % trailingCount == 0

def syllable? (a b : Nat) : Option Nat :=
  if firstLeading ≤ a ∧ a < firstLeading + leadingCount ∧
      firstVowel ≤ b ∧ b < firstVowel + vowelCount then
    some (firstSyllable + ((a - firstLeading) * vowelCount + (b - firstVowel)) * trailingCount)
  else if isOpenSyllable a ∧ beforeTrailing < b ∧ b < beforeTrailing + trailingCount then
    some (a + (b - beforeTrailing))
  else none

def syllableParts? (n : Nat) : Option (Nat × Nat) :=
  if n < firstSyllable ∨ firstSyllable + syllableCount ≤ n then none
  else
    let index := n - firstSyllable
    if index % trailingCount = 0 then
      some (firstLeading + index / trailingCount / vowelCount,
        firstVowel + index / trailingCount % vowelCount)
    else some (n - index % trailingCount, beforeTrailing + index % trailingCount)

end XmlBinding.Text
