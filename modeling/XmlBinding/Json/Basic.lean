/-!
JSON values as a reader meets them. A text that breaks off keeps what came before: the value at
which it breaks is `broken`, and nothing follows it. So a reader who goes through a value in order
finds the first fault of the text, whether it is one of the syntax or of the content.
-/

namespace XmlBinding

/-- Texts with an unpaired surrogate are values that no string can hold. -/
inductive Json where
  | null
  | bool (value : Bool)
  | number (digits : String)
  | string (value : Option String)
  | array (items : List Json)
  | object (members : List (Option String × Json))
  | broken

namespace Json

instance : Inhabited Json :=
  ⟨.broken⟩

def text (value : String) : Json :=
  .string (some value)

def textOrNull : Option String → Json
  | some value => text value
  | none => .null

def record (members : List (String × Json)) : Json :=
  .object (members.map fun member => (some member.1, member.2))

mutual

/-- Whether the text of a value did not break off. -/
def intact : Json → Bool
  | .broken => false
  | .array items => intactItems items
  | .object members => intactMembers members
  | _ => true

def intactItems : List Json → Bool
  | [] => true
  | item :: items => intact item && intactItems items

def intactMembers : List (Option String × Json) → Bool
  | [] => true
  | (_, value) :: members => intact value && intactMembers members

end

end Json

end XmlBinding
