import XmlBinding.Json.Lexer

/-!
Writing JSON values in the compact form: the symbols of a value, one after another without blanks.
Strings are written with an escape for each character that may not stand in them as it is.
-/

namespace XmlBinding.Json

/-- A character of a string. The short escapes come first; any other control character is written by
its number. -/
def escape : Char → List Char
  | '"' => ['\\', '"']
  | '\\' => ['\\', '\\']
  | '\x08' => ['\\', 'b']
  | '\x0c' => ['\\', 'f']
  | '\n' => ['\\', 'n']
  | '\r' => ['\\', 'r']
  | '\t' => ['\\', 't']
  | c =>
      if c.toNat < 0x20 then
        ['\\', 'u', '0', '0', Nat.digitChar (c.toNat / 16), Nat.digitChar (c.toNat % 16)]
      else [c]

/-- A value that is no value of a text, and the symbol that fits nowhere, are not written. -/
def Symbol.write : Symbol → List Char
  | .openArray => ['[']
  | .closeArray => [']']
  | .openObject => ['\x7b']
  | .closeObject => ['\x7d']
  | .comma => [',']
  | .colon => [':']
  | .word .null => ['n', 'u', 'l', 'l']
  | .word (.bool true) => ['t', 'r', 'u', 'e']
  | .word (.bool false) => ['f', 'a', 'l', 's', 'e']
  | .word (.number digits) => digits.toList
  | .word _ => []
  | .string value => '"' :: ((value.getD "").toList.flatMap escape ++ ['"'])
  | .bad => []

mutual

/-- The symbols of a value. -/
def tokens : Json → List Symbol
  | .array items => .openArray :: ([Symbol.comma].intercalate (itemTokens items) ++ [.closeArray])
  | .object members =>
      .openObject :: ([Symbol.comma].intercalate (memberTokens members) ++ [.closeObject])
  | .string value => [.string value]
  | .broken => [.bad]
  | value => [.word value]

def itemTokens : List Json → List (List Symbol)
  | [] => []
  | item :: items => tokens item :: itemTokens items

def memberTokens : List (Option String × Json) → List (List Symbol)
  | [] => []
  | (key, value) :: members => (.string key :: .colon :: tokens value) :: memberTokens members

end

/-- The text of a value. -/
def write (value : Json) : String :=
  String.ofList (value.tokens.flatMap Symbol.write)

end XmlBinding.Json
