import XmlBinding.Json.Basic

/-!
The symbols of a JSON text: punctuation, words, numbers and strings. Where the text has no symbol,
the list of symbols ends with one that fits nowhere.
-/

namespace XmlBinding.Json

inductive Symbol where
  | openArray
  | closeArray
  | openObject
  | closeObject
  | comma
  | colon
  | word (value : Json)
  | string (value : Option String)
  | bad

/-- A part of a string: a character, or sixteen bits given by a number. -/
inductive StringPart where
  | char (c : Char)
  | unit (n : Nat)

def isSpace (c : Char) : Bool :=
  c == ' ' || c == '\t' || c == '\n' || c == '\r'

def hexDigit? (c : Char) : Option Nat :=
  if c.isDigit then some (c.toNat - 48)
  else if 'a' ≤ c ∧ c ≤ 'f' then some (c.toNat - 87)
  else if 'A' ≤ c ∧ c ≤ 'F' then some (c.toNat - 55)
  else none

def unit? (a b c d : Char) : Option Nat := do
  let a ← hexDigit? a
  let b ← hexDigit? b
  let c ← hexDigit? c
  let d ← hexDigit? d
  return ((a * 16 + b) * 16 + c) * 16 + d

def escaped? : Char → Option Char
  | '"' => some '"'
  | '\\' => some '\\'
  | '/' => some '/'
  | 'b' => some '\x08'
  | 'f' => some '\x0c'
  | 'n' => some '\n'
  | 'r' => some '\r'
  | 't' => some '\t'
  | _ => none

/-- Reads a string after its opening quote. Control characters must be escaped. -/
def stringParts? : List Char → Option (List StringPart × List Char)
  | [] => none
  | '"' :: rest => some ([], rest)
  | '\\' :: 'u' :: a :: b :: c :: d :: rest => do
      let n ← unit? a b c d
      let (parts, rest) ← stringParts? rest
      return (.unit n :: parts, rest)
  | '\\' :: c :: rest => do
      let c ← escaped? c
      let (parts, rest) ← stringParts? rest
      return (.char c :: parts, rest)
  | c :: rest =>
      if c.toNat < 0x20 ∨ c = '\\' then none
      else do
        let (parts, rest) ← stringParts? rest
        return (.char c :: parts, rest)

def isLeading (n : Nat) : Bool :=
  decide (0xD800 ≤ n) && decide (n ≤ 0xDBFF)

def isTrailing (n : Nat) : Bool :=
  decide (0xDC00 ≤ n) && decide (n ≤ 0xDFFF)

/-- The characters of a string; surrogates must come in pairs. -/
def charsOfParts? : List StringPart → Option (List Char)
  | [] => some []
  | .char c :: rest => (charsOfParts? rest).map (c :: ·)
  | .unit high :: .unit low :: rest =>
      if isLeading high then
        if isTrailing low then
          let codePoint := (high - 0xD800) * 1024 + (low - 0xDC00) + 0x10000
          (charsOfParts? rest).map (Char.ofNat codePoint :: ·)
        else none
      else if isTrailing high then none
      else (charsOfParts? (.unit low :: rest)).map (Char.ofNat high :: ·)
  | .unit n :: rest =>
      if isLeading n || isTrailing n then none else (charsOfParts? rest).map (Char.ofNat n :: ·)

/-- Reads one or more digits. -/
def digits? (cs : List Char) : Option (List Char × List Char) :=
  let digits := cs.takeWhile Char.isDigit
  if digits.isEmpty then none else some (digits, cs.dropWhile Char.isDigit)

/-- Reads digits that do not start with a zero, unless that is all. -/
def integer? : List Char → Option (List Char × List Char)
  | '0' :: rest => if rest.head?.any Char.isDigit then none else some (['0'], rest)
  | cs => digits? cs

def fraction? : List Char → Option (List Char × List Char)
  | '.' :: rest => (digits? rest).map fun (digits, rest) => ('.' :: digits, rest)
  | cs => some ([], cs)

def exponent? : List Char → Option (List Char × List Char)
  | c :: rest =>
      if c = 'e' ∨ c = 'E' then
        match rest with
        | '+' :: rest => (digits? rest).map fun (digits, rest) => (c :: '+' :: digits, rest)
        | '-' :: rest => (digits? rest).map fun (digits, rest) => (c :: '-' :: digits, rest)
        | rest => (digits? rest).map fun (digits, rest) => (c :: digits, rest)
      else some ([], c :: rest)
  | [] => some ([], [])

def unsigned? (cs : List Char) : Option (List Char × List Char) := do
  let (whole, cs) ← integer? cs
  let (fraction, cs) ← fraction? cs
  let (exponent, cs) ← exponent? cs
  return (whole ++ fraction ++ exponent, cs)

def number? : List Char → Option (List Char × List Char)
  | '-' :: rest => (unsigned? rest).map fun (digits, rest) => ('-' :: digits, rest)
  | cs => unsigned? cs

/-- Reads one symbol; the text is not empty and starts with no blank. -/
def symbol? : List Char → Option (Symbol × List Char)
  | '[' :: rest => some (.openArray, rest)
  | ']' :: rest => some (.closeArray, rest)
  | '\x7b' :: rest => some (.openObject, rest)
  | '\x7d' :: rest => some (.closeObject, rest)
  | ',' :: rest => some (.comma, rest)
  | ':' :: rest => some (.colon, rest)
  | 'n' :: 'u' :: 'l' :: 'l' :: rest => some (.word .null, rest)
  | 't' :: 'r' :: 'u' :: 'e' :: rest => some (.word (.bool true), rest)
  | 'f' :: 'a' :: 'l' :: 's' :: 'e' :: rest => some (.word (.bool false), rest)
  | '"' :: rest =>
      (stringParts? rest).map fun (parts, rest) =>
        (.string ((charsOfParts? parts).map String.ofList), rest)
  | cs => (number? cs).map fun (digits, rest) => (.word (.number (String.ofList digits)), rest)

/-- The symbols of a text. Each has at least one character, so as many steps as the text is long are
enough. -/
def symbolsIn : Nat → List Char → List Symbol
  | 0, _ => []
  | fuel + 1, cs =>
      match cs.dropWhile isSpace with
      | [] => []
      | c :: rest =>
          match symbol? (c :: rest) with
          | some (symbol, rest) => symbol :: symbolsIn fuel rest
          | none => [.bad]

def symbols (s : String) : List Symbol :=
  symbolsIn (s.length + 1) s.toList

end XmlBinding.Json
