import XmlBinding.Domain.Label

/-!
Domain names: labels between dots. Where any label has characters written from right to left, every
label has to keep to one direction, lest parts of the name change places when it is shown.
-/

namespace XmlBinding.Domain

open Text (Direction direction)

def runsRight (c : Char) : Bool :=
  direction c == .right || direction c == .arabic

/-- The label without the marks at its end. -/
def withoutLastMarks (label : List Char) : List Char :=
  (label.reverse.dropWhile fun c => direction c == .mark).reverse

/-- A label from left to right ends in a letter or a number and holds nothing that runs right. -/
def fitsLeft (label : List Char) : Bool :=
  label.all (fun c => !runsRight c) &&
    (withoutLastMarks label).getLast?.all fun c => direction c == .left || direction c == .european

/-- A label from right to left ends in a letter or a number, holds no letter that runs left, and
numbers of one kind. -/
def fitsRight (label : List Char) : Bool :=
  label.all (fun c => direction c != .left) &&
    (withoutLastMarks label).getLast?.all (fun c => runsRight c || direction c == .european) &&
    !(label.any (direction · == .european) && label.any (direction · == .arabic))

/-- A label starts with a letter of its direction. -/
def keepsDirection (label : List Char) : Bool :=
  match label with
  | [] => true
  | first :: _ =>
      match direction first with
      | .left => fitsLeft label
      | .right => fitsRight label
      | _ => false

/-- Whether a text in small letters can be a domain name. -/
def isName (name : List Char) : Bool :=
  match (Text.splitOn (· == '.') name).mapM labelText? with
  | none => false
  | some labels => !(labels.any (·.any runsRight)) || labels.all keepsDirection

end XmlBinding.Domain
