import XmlBinding.Text.Blank
import XmlBinding.Text.DecimalDigit

/-!
Durations: `P`, then years, months and days, then after a `T` hours, minutes and seconds. Every
field may be left out, but one must be there, and one after a `T`.
-/

namespace XmlBinding.Duration

def dropDigits (cs : List Char) : List Char :=
  cs.dropWhile Text.isDecimalDigit

/-- What follows a number and its designator; nothing if they do not stand there. -/
def field? (designator : Char) : List Char → Option (List Char)
  | [] => none
  | c :: rest =>
      if Text.isDecimalDigit c then
        match dropDigits rest with
        | d :: after => if d = designator then some after else none
        | [] => none
      else none

/-- Seconds may have a fraction, with at least one digit after the point. -/
def seconds? (cs : List Char) : Option (List Char) :=
  match field? '.' cs with
  | some fraction => field? 'S' fraction
  | none => field? 'S' cs

/-- Skips a field where there is one. -/
def skip (step : List Char → Option (List Char)) (cs : List Char) : List Char :=
  (step cs).getD cs

def skipDate (cs : List Char) : List Char :=
  skip (field? 'D') (skip (field? 'M') (skip (field? 'Y') cs))

def skipTime (cs : List Char) : List Char :=
  skip seconds? (skip (field? 'M') (skip (field? 'H') cs))

/-- The part after `P`. -/
def acceptsBody (cs : List Char) : Bool :=
  match skipDate cs with
  | [] => !cs.isEmpty
  | 'T' :: time => !time.isEmpty && (skipTime time).isEmpty
  | _ => false

def accepts : List Char → Bool
  | '-' :: 'P' :: body => acceptsBody body
  | 'P' :: body => acceptsBody body
  | _ => false

def isDuration (s : String) : Bool :=
  accepts (Text.trim s).toList

end XmlBinding.Duration
