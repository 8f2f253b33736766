import XmlBinding.Text.Digits
import XmlBinding.Text.Split
import XmlBinding.Uri.Percent

/-!
Numeric hosts. A version 4 address is one to four numbers, of which the last fills up the bytes that
the others leave, in decimal, octal or hexadecimal; it is written as four decimal bytes. A version 6
address is eight groups of four hexadecimal digits; one run of zero groups may be left out.
-/

namespace XmlBinding.Uri

def valueInBase (base : Nat) (digit? : Char → Option Nat) (cs : List Char) : Option Nat :=
  cs.foldlM (fun acc c => (digit? c).map (acc * base + ·)) 0

def digitBelow? (bound : Nat) (c : Char) : Option Nat :=
  if 48 ≤ c.toNat ∧ c.toNat < 48 + bound then some (c.toNat - 48) else none

/-- Numbers start with `0x` in base sixteen and with `0` in base eight. -/
def addressNumber? : List Char → Option Nat
  | [] => none
  | '0' :: 'x' :: digits => valueInBase 16 hexValue? digits
  | '0' :: 'X' :: digits => valueInBase 16 hexValue? digits
  | ['0'] => some 0
  | '0' :: digits => valueInBase 8 (digitBelow? 8) digits
  | digits => valueInBase 10 (digitBelow? 10) digits

/-- The parts of a dotted text; a dot at the end adds none. -/
def dottedParts (cs : List Char) : List (List Char) :=
  let parts := Text.splitOn (· == '.') cs
  if parts.length > 1 ∧ parts.getLast? = some [] then parts.dropLast else parts

/-- Whether a host can only be meant as a version 4 address. -/
def endsInNumber (cs : List Char) : Bool :=
  match (dottedParts cs).getLast? with
  | none => false
  | some [] => false
  | some last => last.all Char.isDigit || (addressNumber? last).isSome

def maxUInt32 : Nat := 4294967295

/-- All numbers but the last are bytes. -/
def address4? (cs : List Char) : Option Nat := do
  let parts := dottedParts cs
  if parts.length > 4 then none
  let numbers ← parts.mapM addressNumber?
  let last ← numbers.getLast?
  let leading := numbers.dropLast
  if last > maxUInt32 / Nat.pow 256 leading.length ∨ leading.any (· > 255) then none
  let high := leading.foldl (fun acc n => acc * 256 + n) 0
  return high * Nat.pow 256 (4 - leading.length) + last

def address4Chars (n : Nat) : List Char :=
  let byte (k : Nat) := Nat.toDigits 10 (n / Nat.pow 256 k % 256)
  byte 3 ++ '.' :: byte 2 ++ '.' :: byte 1 ++ '.' :: byte 0

/-- A decimal byte without leading zeros. -/
def plainByte? (cs : List Char) : Option Nat := do
  if cs.isEmpty ∨ (cs.length > 1 ∧ cs.head? = some '0') then none
  let n ← valueInBase 10 (digitBelow? 10) cs
  if n ≤ 255 then return n else none

/-- One to four hexadecimal digits. -/
def group? (cs : List Char) : Option Nat := do
  if cs.isEmpty ∨ cs.length > 4 then none
  valueInBase 16 hexValue? cs

/-- The last two groups may be written as a version 4 address. -/
def lastGroups? (cs : List Char) : Option (List Nat) :=
  if cs.contains '.' then do
    match ← (Text.splitOn (· == '.') cs).mapM plainByte? with
    | [a, b, c, d] => return [a * 256 + b, c * 256 + d]
    | _ => none
  else (group? cs).map ([·])

def groups? (cs : List Char) : Option (List Nat) := do
  let parts := Text.splitOn (· == ':') cs
  let leading ← parts.dropLast.mapM group?
  let last ← lastGroups? (parts.getLast?.getD [])
  return leading ++ last

/-- The eight groups of an address; a gap stands for at least one of them. -/
def address6? (cs : List Char) : Option (List Nat) := do
  match Text.cut [':', ':'] cs with
  | some (before, after) =>
      let front ← if before.isEmpty then some [] else (Text.splitOn (· == ':') before).mapM group?
      let back ← if after.isEmpty then some [] else groups? after
      let size := front.length + back.length
      if size ≤ 7 then return front ++ List.replicate (8 - size) 0 ++ back else none
  | none =>
      let groups ← groups? cs
      if groups.length = 8 then return groups else none

/-- Hexadecimal digits of a group without leading zeros. -/
def groupChars (n : Nat) : List Char :=
  (Nat.toDigits 16 n).map fun c => c.toLower

/-- How many of the first groups are zero. -/
def zeroRun (groups : List Nat) : Nat :=
  (groups.takeWhile (· == 0)).length

/-- The start and length of the first longest run of zero groups. -/
def longestZeroRun : Nat → List Nat → Nat × Nat
  | _, [] => (0, 0)
  | start, group :: rest =>
      let here := zeroRun (group :: rest)
      let later := longestZeroRun (start + 1) rest
      if later.2 > here then later else (start, here)

def joinGroups (groups : List Nat) : List Char :=
  [':'].intercalate (groups.map groupChars)

/-- One zero group alone is written out. -/
def address6Chars (groups : List Nat) : List Char :=
  let (start, size) := longestZeroRun 0 groups
  if size < 2 then joinGroups groups
  else joinGroups (groups.take start) ++ [':', ':'] ++ joinGroups (groups.drop (start + size))

end XmlBinding.Uri
