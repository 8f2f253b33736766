import XmlBinding.Instant.Date
import XmlBinding.Text.Blank
import XmlBinding.Text.Digits

/-!
Instants: a date, a time of day and an offset from universal time, kept in universal time. Offsets
are whole minutes, so the second, 60 in a leap second, and its fraction are those that were written.
Instants are written with a `Z` and with as many groups of three fraction digits as they need.
-/

namespace XmlBinding

/-- A time of day; the fraction is in nanoseconds. -/
structure Clock where
  hour : Nat
  minute : Nat
  second : Nat
  nanos : Nat
deriving DecidableEq, Inhabited

/-- A date and a time of day in universal time. -/
structure Instant where
  date : Date
  clock : Clock
deriving DecidableEq, Inhabited

namespace Instant

/-- Why a text is not an instant. -/
inductive Fault where
  | premature
  | invalid
  | outOfRange
  | trailing

def Fault.message : Fault → String
  | .premature => "premature end of input"
  | .invalid => "input contains invalid characters"
  | .outOfRange => "input is out of range"
  | .trailing => "trailing input"

/-- The instant that a local date and time denote at an offset east of universal time, in
minutes. -/
def ofLocal (date : Date) (clock : Clock) (offset : Int) : Instant :=
  let minutes : Int := 60 * clock.hour + clock.minute - offset
  let date :=
    if minutes < 0 then date.previous else if minutes < 1440 then date else date.next
  let ofDay := (minutes % 1440).toNat
  ⟨date, { clock with hour := ofDay / 60, minute := ofDay % 60 }⟩

/-- Reads as many digits as asked for, all of which must be there. -/
def digits : Nat → Nat → List Char → Except Fault (Nat × List Char)
  | 0, n, cs => .ok (n, cs)
  | width + 1, n, c :: rest =>
      if c.isDigit then digits width (n * 10 + Text.digitValue c) rest else .error .invalid
  | _ + 1, _, [] => .error .invalid

/-- Passes one character of a class. -/
def pass (p : Char → Bool) : List Char → Except Fault (List Char)
  | c :: rest => if p c then .ok rest else .error .invalid
  | [] => .error .premature

/-- Reads `yyyy-mm-dd`. -/
def readDate (cs : List Char) : Except Fault (Date × List Char) := do
  let (year, cs) ← digits 4 0 cs
  let cs ← pass (· == '-') cs
  let (month, cs) ← digits 2 0 cs
  let cs ← pass (· == '-') cs
  let (day, cs) ← digits 2 0 cs
  let date : Date := ⟨year, month, day⟩
  if date.Valid then return (date, cs) else throw .outOfRange

/-- The nanoseconds of a fraction; what comes after nine digits counts for nothing. -/
def nanosOf (fraction : List Char) : Nat :=
  let kept := fraction.take 9
  Text.numberOf kept * Nat.pow 10 (9 - kept.length)

/-- Reads a point and the digits after it, or nothing where no point stands. -/
def readFraction : List Char → Except Fault (Nat × List Char)
  | '.' :: rest =>
      match rest with
      | [] => .error .premature
      | c :: _ =>
          if c.isDigit then .ok (nanosOf (rest.takeWhile (·.isDigit)), rest.dropWhile (·.isDigit))
          else .error .invalid
  | cs => .ok (0, cs)

/-- Reads `hh:mm:ss` and a fraction. The second may be 60 in every minute. -/
def readClock (cs : List Char) : Except Fault (Clock × List Char) := do
  let (hour, cs) ← digits 2 0 cs
  let cs ← pass (· == ':') cs
  let (minute, cs) ← digits 2 0 cs
  let cs ← pass (· == ':') cs
  let (second, cs) ← digits 2 0 cs
  let (nanos, cs) ← readFraction cs
  if hour < 24 ∧ minute < 60 ∧ second ≤ 60 then return (⟨hour, minute, second, nanos⟩, cs)
  else throw .outOfRange

/-- Reads two digits that the input may lack. -/
def twoDigits : List Char → Except Fault (Nat × List Char)
  | [] => .error .premature
  | [c] => if c.toNat < 128 then .error .premature else .error .invalid
  | cs => digits 2 0 cs

/-- Reads `hh:mm` after a sign, in minutes. -/
def readOffsetSize (cs : List Char) : Except Fault (Nat × List Char) := do
  let (hours, cs) ← twoDigits cs
  let cs ← pass (· == ':') cs
  let (minutes, cs) ← twoDigits cs
  if minutes < 60 then return (hours * 60 + minutes, cs) else throw .outOfRange

/-- Reads an offset east of universal time. The minus sign may be the typographic one. -/
def readOffset : List Char → Except Fault (Int × List Char)
  | [] => .error .premature
  | c :: rest =>
      if c = 'Z' ∨ c = 'z' then .ok (0, rest)
      else if c = '+' then do
        let (size, rest) ← readOffsetSize rest
        return (size, rest)
      else if c = '-' ∨ c = '−' then do
        let (size, rest) ← readOffsetSize rest
        return (-size, rest)
      else .error .invalid

def readChars (cs : List Char) : Except Fault Instant := do
  let (date, cs) ← readDate cs
  let cs ← pass (fun c => c == 'T' || c == 't' || c == ' ') cs
  let (clock, cs) ← readClock cs
  let (offset, cs) ← readOffset cs
  if !cs.isEmpty then throw .trailing
  if offset.natAbs < 1440 then return ofLocal date clock offset else throw .outOfRange

/-- A text with less than 19 bytes cannot hold a date and a time. -/
def read (s : String) : Except Fault Instant :=
  let s := Text.trim s
  if s.utf8ByteSize < 19 then .error .premature else readChars s.toList

/-- Years outside 0 to 9999 carry a sign. -/
def yearChars (year : Int) : List Char :=
  let size := year.natAbs
  let numeral := if size < 10000 then Text.fixedDigits 4 size else Nat.toDigits 10 size
  if year < 0 then '-' :: numeral else if year ≤ 9999 then numeral else '+' :: numeral

def fractionChars (nanos : Nat) : List Char :=
  if nanos = 0 then []
  else if nanos % 1000000 = 0 then '.' :: Text.fixedDigits 3 (nanos / 1000000)
  else if nanos % 1000 = 0 then '.' :: Text.fixedDigits 6 (nanos / 1000)
  else '.' :: Text.fixedDigits 9 nanos

def writeChars (i : Instant) : List Char :=
  yearChars i.date.year ++ '-' :: Text.fixedDigits 2 i.date.month ++
    '-' :: Text.fixedDigits 2 i.date.day ++
    'T' :: Text.fixedDigits 2 i.clock.hour ++
    ':' :: Text.fixedDigits 2 i.clock.minute ++
    ':' :: Text.fixedDigits 2 i.clock.second ++
    fractionChars i.clock.nanos ++ ['Z']

def write (i : Instant) : String :=
  String.ofList i.writeChars

end Instant

end XmlBinding
