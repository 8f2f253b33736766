import XmlBinding.Text.Blank

/-!
Binary data as base64 text. Three bytes are written as four symbols of six bits; a rest of one or
two bytes is filled up with `=`. Decoding ignores blank characters and accepts nothing but what
encoding writes: padding is required and unused bits are zero.
-/

namespace XmlBinding.Base64

/-- The symbol for six bits. -/
def symbol (n : Nat) : Char :=
  if n < 26 then Char.ofNat (n + 65)
  else if n < 52 then Char.ofNat (n + 71)
  else if n < 62 then Char.ofNat (n - 4)
  else if n = 62 then '+'
  else '/'

/-- The six bits of a symbol, given by its code point. -/
def sextet? (code : Nat) : Option Nat :=
  if 65 ≤ code ∧ code ≤ 90 then some (code - 65)
  else if 97 ≤ code ∧ code ≤ 122 then some (code - 71)
  else if 48 ≤ code ∧ code ≤ 57 then some (code + 4)
  else if code = 43 then some 62
  else if code = 47 then some 63
  else none

def encode : List UInt8 → List Char
  | [] => []
  | [a] => [symbol (a.toNat / 4), symbol (a.toNat % 4 * 16), '=', '=']
  | [a, b] =>
      [symbol (a.toNat / 4), symbol (a.toNat % 4 * 16 + b.toNat / 16),
        symbol (b.toNat % 16 * 4), '=']
  | a :: b :: c :: rest =>
      symbol (a.toNat / 4) :: symbol (a.toNat % 4 * 16 + b.toNat / 16) ::
        symbol (b.toNat % 16 * 4 + c.toNat / 64) :: symbol (c.toNat % 64) :: encode rest

/-- The bytes of the last four symbols, which may be padded. -/
def decodeLast (a b c d : Char) : Option (List UInt8) := do
  let x ← sextet? a.toNat
  let y ← sextet? b.toNat
  if c = '=' then
    if d = '=' ∧ y % 16 = 0 then some [UInt8.ofNat (x * 4 + y / 16)] else none
  else
    let z ← sextet? c.toNat
    if d = '=' then
      if z % 4 = 0 then some [UInt8.ofNat (x * 4 + y / 16), UInt8.ofNat (y % 16 * 16 + z / 4)]
      else none
    else
      let w ← sextet? d.toNat
      some [UInt8.ofNat (x * 4 + y / 16), UInt8.ofNat (y % 16 * 16 + z / 4),
        UInt8.ofNat (z % 4 * 64 + w)]

/-- The bytes of four symbols that others follow; none of them is padding. -/
def decodeInner (a b c d : Char) : Option (List UInt8) :=
  if c = '=' ∨ d = '=' then none else decodeLast a b c d

def decode? : List Char → Option (List UInt8)
  | [] => some []
  | a :: b :: c :: d :: rest =>
      if rest.isEmpty then decodeLast a b c d
      else do
        let bytes ← decodeInner a b c d
        let others ← decode? rest
        return bytes ++ others
  | _ => none

/-- Why a text is not base64. Bytes and offsets are those of its UTF-8 form without blanks. -/
inductive Fault where
  | byte (value offset : Nat)
  | length
  | lastSymbol (value offset : Nat)
  | padding

def Fault.message : Fault → String
  | .byte value offset => s!"Invalid byte {value}, offset {offset}."
  | .length => "Encoded text cannot have a 6-bit remainder."
  | .lastSymbol value offset => s!"Invalid last symbol {value}, offset {offset}."
  | .padding => "Invalid padding"

def isSymbol (code : Nat) : Bool :=
  (sextet? code).isSome

/-- The first byte outside the alphabet, padding included, counted from an offset. -/
def firstForeign (offset : Nat) : List Nat → Option Fault
  | [] => none
  | b :: rest => if isSymbol b then firstForeign (offset + 1) rest else some (.byte b offset)

/-- What is wrong in the last group of eight bytes; `i` counts from its start at `start` and
`firstPad` is where padding began. -/
def lastGroupFault (start i : Nat) (firstPad : Option Nat) (lastSymbol : Nat) :
    List Nat → Fault
  | [] =>
      if i % 4 ≠ 0 then .padding
      else .lastSymbol lastSymbol (start + (firstPad.getD i) - 1)
  | b :: rest =>
      if b = 61 then
        if i % 4 < 2 then .byte 61 (start + firstPad.getD i)
        else lastGroupFault start (i + 1) (some (firstPad.getD i)) lastSymbol rest
      else
        match firstPad with
        | some p => .byte 61 (start + p)
        | none =>
            if isSymbol b then lastGroupFault start (i + 1) none b rest else .byte b (start + i)

/-- The fault reported for a text that does not decode. -/
def fault (bytes : List Nat) : Fault :=
  let n := bytes.length
  match bytes.getLast? with
  | none => .padding
  | some last =>
      if n % 4 = 1 then
        if last ≠ 61 ∧ !isSymbol last then .byte last (n - 1) else .length
      else
        let start := 8 * ((n - 1) / 8)
        match firstForeign 0 (bytes.take start) with
        | some f => f
        | none => lastGroupFault start 0 none 0 (bytes.drop start)

/-- The UTF-8 form of a text. -/
def utf8 (cs : List Char) : List Nat :=
  (String.ofList cs).toUTF8.toList.map (·.toNat)

def compact (s : String) : List Char :=
  s.toList.filter fun c => !Text.isBlank c

def read (s : String) : Except Fault (List UInt8) :=
  match decode? (compact s) with
  | some bytes => .ok bytes
  | none => .error (fault (utf8 (compact s)))

def write (bytes : List UInt8) : String :=
  String.ofList (encode bytes)

end XmlBinding.Base64
