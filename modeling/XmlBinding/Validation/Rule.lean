import XmlBinding.Object.Basic

/-!
Rules that a schema cannot express. A rule is registered for a type and checks one object at a time;
one rule checks nothing itself but has all child objects checked by the rules of their own types.
-/

namespace XmlBinding

/-- Whether validation stops at the first fault, collects all of them, or is skipped. -/
inductive ValidationMode where
  | strict
  | lax
  | skip
deriving DecidableEq, Inhabited

def ValidationMode.display : ValidationMode → String
  | .strict => "strict"
  | .lax => "lax"
  | .skip => "skip"

/-- The names from the outermost object down to one, as they are written. -/
abbrev ObjectPath := List String

def ObjectPath.display (path : ObjectPath) : String :=
  "/" ++ String.intercalate "/" path

/-- What a rule may know besides the object it checks. -/
structure RuleContext where
  mode : ValidationMode
  path : ObjectPath

inductive Rule where
  | requiredAttribute (attr : QName) (message : Option String)
  | requiredText (message : Option String)
  | childCount (child : QName) (min : Nat) (max : Option Nat)
  | lexicalAttribute (attr : QName) (kind : ValueKind)
  | validChildren
  | custom (name : String) (check : RuleContext → TypedObject → Except ValidationFault Unit)

namespace Rule

def name : Rule → String
  | .requiredAttribute _ _ => "required-attribute"
  | .requiredText _ => "required-text"
  | .childCount _ _ _ => "child-count"
  | .lexicalAttribute _ _ => "lexical-attribute"
  | .validChildren => "valid-children"
  | .custom name _ => name

def optionalChild (child : QName) : Rule :=
  .childCount child 0 (some 1)

def requiredChild (child : QName) : Rule :=
  .childCount child 1 (some 1)

/-- Whether the rule hands the child objects on to their own rules. -/
def delegates : Rule → Bool
  | .validChildren => true
  | _ => false

def hasText (text : Option String) : Bool :=
  text.any fun value => !Text.isBlankText value

/-- How many children are expected, in words. -/
def expectedCount (min : Nat) : Option Nat → String
  | some max => if max = min then s!"{max}" else s!"{min}..{max}"
  | none => s!"at least {min}"

/-- The check of one object. A rule that delegates has nothing to check. -/
def check (rule : Rule) (context : RuleContext) (o : TypedObject) :
    Except ValidationFault Unit :=
  match rule with
  | .requiredAttribute attr message =>
      if hasText (o.attribute? attr) then .ok ()
      else
        let text := message.getD s!"{attr.localName} attribute is required and must not be empty"
        .error ⟨text, o.elementName, some attr, none⟩
  | .requiredText message =>
      if hasText o.text? then .ok ()
      else .error ⟨message.getD "text content is required", o.elementName, none, none⟩
  | .childCount child min max =>
      let count := (o.findAll child).length
      if min ≤ count ∧ max.all (count ≤ ·) then .ok ()
      else
        let expected := expectedCount min max
        let text := s!"expected {expected} {child.localName} child element(s), found {count}"
        .error ⟨text, o.elementName, none, none⟩
  | .lexicalAttribute attr kind =>
      match o.attribute? attr with
      | none => .ok ()
      | some value =>
          match kind.check (.ofDeclarations o.declarations) value with
          | .ok _ => .ok ()
          | .error fault =>
              let text :=
                s!"{attr.localName} attribute is not a valid {kind.schemaName}: {fault.message}"
              .error ⟨text, o.elementName, some attr, none⟩
  | .validChildren => .ok ()
  | .custom _ check => check context o

end Rule

end XmlBinding
