/-!
Percent-encoding: a byte of the UTF-8 form of a text as `%` and two hexadecimal digits. Each part of
a URI has its own class of characters to encode; all beyond ASCII are encoded everywhere.
-/

namespace XmlBinding.Uri

/-- Control characters and everything beyond ASCII. -/
def isControl (c : Char) : Bool :=
  decide (c.toNat < 0x20) || decide (0x7F ≤ c.toNat)

def encodedInFragment (c : Char) : Bool :=
  isControl c || [' ', '"', '<', '>', '`'].contains c

def encodedInQuery (c : Char) : Bool :=
  isControl c || [' ', '"', '#', '<', '>'].contains c

/-- The class for queries of URIs with a special scheme. -/
def encodedInSpecialQuery (c : Char) : Bool :=
  encodedInQuery c || c == '\''

def encodedInPath (c : Char) : Bool :=
  encodedInFragment c || ['#', '?', '{', '}'].contains c

def encodedInUserInfo (c : Char) : Bool :=
  encodedInPath c || ['/', ':', ';', '=', '@', '[', '\\', ']', '^', '|'].contains c

def upperHexDigit (n : Nat) : Char :=
  if n < 10 then Char.ofNat (n + 48) else Char.ofNat (n + 55)

def hexValue? (c : Char) : Option Nat :=
  let n := c.toNat
  if 48 ≤ n ∧ n ≤ 57 then some (n - 48)
  else if 65 ≤ n ∧ n ≤ 70 then some (n - 55)
  else if 97 ≤ n ∧ n ≤ 102 then some (n - 87)
  else none

def encodeByte (b : UInt8) : List Char :=
  ['%', upperHexDigit (b.toNat / 16), upperHexDigit (b.toNat % 16)]

def encode (encoded : Char → Bool) (cs : List Char) : List Char :=
  cs.flatMap fun c => if encoded c then (String.utf8EncodeChar c).flatMap encodeByte else [c]

/-- Undoes percent-encoding as long as the result is ASCII. A `%` without two digits stands for
itself. -/
def decodeAscii? : List Char → Option (List Char)
  | [] => some []
  | '%' :: a :: b :: rest =>
      match hexValue? a, hexValue? b with
      | some x, some y =>
          if x < 8 then (decodeAscii? rest).map (Char.ofNat (x * 16 + y) :: ·) else none
      | _, _ => (decodeAscii? (a :: b :: rest)).map ('%' :: ·)
  | c :: rest => if c.toNat < 128 then (decodeAscii? rest).map (c :: ·) else none

end XmlBinding.Uri
