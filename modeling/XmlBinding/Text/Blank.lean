import XmlBinding.Text.Ranges

/-!
Blank characters are those with the Unicode property White_Space. Lexical values are read after
trimming them at both ends; every text without other characters is blank.
-/

namespace XmlBinding.Text

def blankRanges : List (Nat × Nat) :=
  [(0x09, 0x0D), (0x20, 0x20), (0x85, 0x85), (0xA0, 0xA0), (0x1680, 0x1680), (0x2000, 0x200A),
    (0x2028, 0x2029), (0x202F, 0x202F), (0x205F, 0x205F), (0x3000, 0x3000)]

def isBlank (c : Char) : Bool :=
  inRanges blankRanges c

/-- Drops the characters of a class at the end of a list. -/
def dropEnd (p : Char → Bool) (cs : List Char) : List Char :=
  (cs.reverse.dropWhile p).reverse

/-- Drops the characters of a class at both ends of a list. -/
def dropEnds (p : Char → Bool) (cs : List Char) : List Char :=
  dropEnd p (cs.dropWhile p)

def trim (s : String) : String :=
  String.ofList (dropEnds isBlank s.toList)

/-- The empty text is blank, too. -/
def isBlankText (s : String) : Bool :=
  s.toList.all isBlank

end XmlBinding.Text
