import XmlBinding.Domain.Permitted
import XmlBinding.Domain.Punycode
import XmlBinding.Text.Direction
import XmlBinding.Text.Joining
import XmlBinding.Text.NormalForm

/-!
Labels of domain names. A label beyond ASCII is written in Punycode behind `xn--`, in one way only:
it has to be in its normal form, with permitted characters, and invisible joiners only where they
change what is seen.
-/

namespace XmlBinding.Domain

/-- The zero-width non-joiner. -/
def nonJoiner : Char := '\u200C'

/-- The zero-width joiner. -/
def joiner : Char := '\u200D'

/-- Whether the nearest letter joins a letter after it. The list starts at the nearest character. -/
def joins (side : Text.Joining) (cs : List Char) : Bool :=
  match cs.dropWhile fun c => Text.joining? c == some .transparent with
  | [] => false
  | c :: _ => Text.joining? c == some side || Text.joining? c == some .dual

/-- Both joiners may follow a virama. The non-joiner may also part two letters that would join. -/
def mayStandBetween (c : Char) (before after : List Char) : Bool :=
  match before with
  | [] => false
  | last :: _ =>
      Text.combiningClass last == Text.viramaClass ||
        (c == nonJoiner && joins .left before && joins .right after)

/-- Whether all joiners in a text stand right. What is before the text is given in reverse. -/
def joinersFit (before : List Char) : List Char → Bool
  | [] => true
  | c :: after =>
      ((c != nonJoiner && c != joiner) || mayStandBetween c before after) &&
        joinersFit (c :: before) after

def isAscii (c : Char) : Bool :=
  decide (c.toNat < 0x80)

/-- Longer labels are refused unread. -/
def maxEncodedLength : Nat := 2000

def maxDecodedLength : Nat := 1000

/-- Whether a text is worth encoding and in the form in which labels are encoded. -/
def isEncodable (label : List Char) : Bool :=
  !label.all isAscii && label.all (fun c => isAscii c || isPermitted c) &&
    decide (label.length ≤ maxDecodedLength) && Text.isNormal label &&
    !(label.head?.any Text.isMark) && joinersFit [] label

/-- The text that a label in small letters stands for. -/
def labelText? (label : List Char) : Option (List Char) :=
  match label with
  | 'x' :: 'n' :: '-' :: '-' :: encoded =>
      if encoded.length > maxEncodedLength then none
      else (punycode? encoded).filter isEncodable
  | _ => some label

end XmlBinding.Domain
