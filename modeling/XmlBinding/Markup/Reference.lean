import XmlBinding.Name.NCName

/-!
Characters of documents and references to them. A character that is referred to is taken as it is;
characters that stand for themselves are normalised: line ends in text become line feeds, and
blanks in attribute values become spaces.
-/

namespace XmlBinding.Markup

/-- The characters a document may hold. -/
def isDocumentChar (c : Char) : Bool :=
  if c.toNat < 0x20 then c == '\t' || c == '\n' || c == '\r'
  else c.toNat != 0xFFFE && c.toNat != 0xFFFF

def isSpace (c : Char) : Bool :=
  c == ' ' || c == '\t' || c == '\n' || c == '\r'

def dropSpaces (cs : List Char) : List Char :=
  cs.dropWhile isSpace

def isNameStart (c : Char) : Bool :=
  NCName.isStart c || c == ':'

def isNamePart (c : Char) : Bool :=
  NCName.isPart c || c == ':'

def hexDigit? (c : Char) : Option Nat :=
  if c.isDigit then some (c.toNat - 48)
  else if 'a' ≤ c ∧ c ≤ 'f' then some (c.toNat - 87)
  else if 'A' ≤ c ∧ c ≤ 'F' then some (c.toNat - 55)
  else none

def numberInBase (base : Nat) (digits : List Char) : Nat :=
  digits.foldl (fun n c => n * base + (hexDigit? c).getD 0) 0

/-- The character with a number. Numbers without one stand for the replacement character, but they
must fit in 32 bits. -/
def charOfNumber? (n : Nat) : Option Char :=
  if n ≥ 0x100000000 then none
  else
    let c := if n.isValidChar then Char.ofNat n else '\uFFFD'
    if isDocumentChar c then some c else none

/-- The character that the text between `&` and `;` refers to. There are no entities but the five
predefined ones. -/
def referredChar? (body : List Char) : Option Char :=
  match body with
  | '#' :: 'x' :: digits =>
      if !digits.isEmpty && digits.all (fun c => (hexDigit? c).isSome) then
        charOfNumber? (numberInBase 16 digits)
      else none
  | '#' :: digits =>
      if !digits.isEmpty && digits.all Char.isDigit then charOfNumber? (numberInBase 10 digits)
      else none
  | _ =>
      match String.ofList body with
      | "lt" => some '<'
      | "gt" => some '>'
      | "amp" => some '&'
      | "apos" => some '\''
      | "quot" => some '"'
      | _ => none

/-- A character of a text, and whether it was referred to. -/
structure TextUnit where
  char : Char
  referred : Bool

/-- Splits a text into its characters and references; none if a reference is malformed. -/
def units? : List Char → Option (List TextUnit)
  | [] => some []
  | c :: rest =>
      if c = '&' then
        match _h : rest.dropWhile (· != ';') with
        | [] => none
        | _ :: after => do
            let char ← referredChar? (rest.takeWhile (· != ';'))
            let others ← units? after
            return ⟨char, true⟩ :: others
      else (units? rest).map (⟨c, false⟩ :: ·)
termination_by cs => cs.length
decreasing_by
  · have shorter := (List.dropWhile_sublist (l := rest) fun c => c != ';').length_le
    rw [_h] at shorter
    simp only [List.length_cons] at shorter ⊢
    omega
  · simp

/-- Joins the characters of a text to those before it, which stand in reverse. A carriage return is
held until the next character shows whether it ends a line together with it. The character after a
reference is taken as it is. -/
def lineEnds (before : List Char) (afterReference : Bool) : List TextUnit → List Char
  | [] => before.reverse
  | u :: rest =>
      if u.referred then lineEnds (u.char :: before) true rest
      else if afterReference then lineEnds (u.char :: before) false rest
      else
        let closed := rest.isEmpty && u.char == '\r'
        match before with
        | '\r' :: earlier =>
            if closed then lineEnds ('\n' :: '\n' :: earlier) false rest
            else if u.char = '\n' then lineEnds ('\n' :: earlier) false rest
            else lineEnds (u.char :: '\n' :: earlier) false rest
        | _ => lineEnds ((if closed then '\n' else u.char) :: before) false rest

/-- The characters of a text between tags. -/
def textValue? (cs : List Char) : Option (List Char) :=
  (units? cs).map (lineEnds [] false)

/-- The characters of a section without references. -/
def literalValue (cs : List Char) : List Char :=
  lineEnds [] false (cs.map (⟨·, false⟩))

/-- A line end of two characters counts as one, and every blank becomes a space. -/
def blanksToSpaces : List TextUnit → List Char
  | [] => []
  | u :: rest =>
      if u.referred then u.char :: blanksToSpaces rest
      else if u.char = '\r' ∧ (rest.head?.any fun next => !next.referred && next.char == '\n') then
        blanksToSpaces rest
      else (if u.char == '\n' || u.char == '\r' || u.char == '\t' then ' ' else u.char) ::
        blanksToSpaces rest

/-- The characters of an attribute value. -/
def attributeValue? (cs : List Char) : Option (List Char) :=
  (units? cs).map blanksToSpaces

end XmlBinding.Markup
