import XmlBinding.Text.Invisible

/-!
Texts in quotes, for messages that describe a value. Quotes and backslashes are escaped, and what
cannot be seen is shown by its number.
-/

namespace XmlBinding.Text

def lowerHex (n : Nat) : List Char :=
  (Nat.toDigits 16 n).map Char.toLower

def quotedChar (c : Char) : List Char :=
  match c with
  | '\x00' => ['\\', '0']
  | '\t' => ['\\', 't']
  | '\n' => ['\\', 'n']
  | '\r' => ['\\', 'r']
  | '\\' => ['\\', '\\']
  | '"' => ['\\', '"']
  | c => if isInvisible c then ['\\', 'u', '\x7b'] ++ lowerHex c.toNat ++ ['\x7d'] else [c]

def quoted (s : String) : String :=
  String.ofList ('"' :: s.toList.flatMap quotedChar ++ ['"'])

/-- How an optional text is described. -/
def quotedOption : Option String → String
  | some s => s!"Some({quoted s})"
  | none => "None"

/-- How a list of texts is described. -/
def quotedList (texts : List String) : String :=
  "[" ++ String.intercalate ", " (texts.map quoted) ++ "]"

/-- A description of a value by its fields. -/
def described (name : String) (fields : List (String × String)) : String :=
  let shown := fields.map fun field => s!"{field.1}: {field.2}"
  s!"{name} \x7b " ++ String.intercalate ", " shown ++ " \x7d"

end XmlBinding.Text
