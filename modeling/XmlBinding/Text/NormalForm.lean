import XmlBinding.Text.CombiningClass
import XmlBinding.Text.Composition

/-!
The composed normal form of a text: characters are taken apart, marks put into the order of their
classes, and what composes is put together again. Two texts that look alike have one normal form.
-/

namespace XmlBinding.Text

/-- The parts of a character, taken apart at most so many times. -/
def decomposed : Nat → Char → List Char
  | 0, c => [c]
  | steps + 1, c =>
      match parts? c with
      | some (first, second) => decomposed steps first ++ [second]
      | none => [c]

/-- No character is composed of more than four. -/
def mostCompositions : Nat := 3

/-- Puts a character before an ordered text, behind the marks of a lower class. -/
def insertInOrder (c : Char) : List Char → List Char
  | [] => [c]
  | d :: rest =>
      if combiningClass d ≠ 0 ∧ combiningClass d < combiningClass c then d :: insertInOrder c rest
      else c :: d :: rest

def inOrder (cs : List Char) : List Char :=
  cs.foldr insertInOrder []

/-- Composes a character with what follows it. Some marks may stand between them, the last one first
in the list; a mark of the same or a higher class is in the way. -/
def composeWith (c : Char) (between : List Char) : List Char → List Char
  | [] => c :: between.reverse
  | d :: rest =>
      let blocked := between.any fun mark => decide (combiningClass d ≤ combiningClass mark)
      match if blocked then none else composition? c d with
      | some composed => composeWith composed between rest
      | none =>
          if combiningClass d = 0 then c :: between.reverse ++ composeWith d [] rest
          else composeWith c (d :: between) rest

def composed : List Char → List Char
  | [] => []
  | c :: rest => if combiningClass c = 0 then composeWith c [] rest else c :: composed rest

def normalForm (cs : List Char) : List Char :=
  composed (inOrder (cs.flatMap (decomposed mostCompositions)))

/-- Whether a text is its own normal form. Characters that are never part of one are not looked for
here. -/
def isNormal (cs : List Char) : Bool :=
  normalForm cs == cs

end XmlBinding.Text
