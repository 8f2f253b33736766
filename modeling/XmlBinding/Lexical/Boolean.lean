import XmlBinding.Text.Blank

/-!
Truth values of attributes. Both have a numeric form beside the word, and a value remembers which
of the two it was written in.
-/

namespace XmlBinding

structure Truth where
  value : Bool
  numeric : Bool
deriving DecidableEq, Inhabited

namespace Truth

def word (value : Bool) : Truth := ⟨value, false⟩

def read? (s : String) : Option Truth :=
  match Text.trim s with
  | "true" => some ⟨true, false⟩
  | "false" => some ⟨false, false⟩
  | "1" => some ⟨true, true⟩
  | "0" => some ⟨false, true⟩
  | _ => none

def write : Truth → String
  | ⟨true, false⟩ => "true"
  | ⟨false, false⟩ => "false"
  | ⟨true, true⟩ => "1"
  | ⟨false, true⟩ => "0"

end Truth

end XmlBinding
