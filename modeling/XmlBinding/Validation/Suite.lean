import XmlBinding.Validation.Rule

/-!
Suites of rules by type, and their runs over object trees. The rules of an object run once, however
many ways lead to it: from the walk through the tree, or from rules that hand child objects on. An
object is known by its place, the indices of children that lead to it.
-/

namespace XmlBinding

structure Suite where
  rules : NameTable (List Rule)
deriving Inhabited

/-- The indices from an object up to the outermost one. -/
abbrev Place := List Nat

/-- What a run has seen and found so far. -/
structure Visit where
  visited : List Place
  faults : List ValidationFault
deriving Inhabited

namespace Suite

def empty : Suite :=
  ⟨OrderedTable.empty⟩

def rulesFor (s : Suite) (type : QName) : List Rule :=
  (s.rules.get? type.expanded).getD []

def register (s : Suite) (type : QName) (rule : Rule) : Suite :=
  ⟨s.rules.put type (s.rulesFor type ++ [rule])⟩

def registerAll (s : Suite) (rules : List (QName × Rule)) : Suite :=
  rules.foldl (fun s entry => s.register entry.1 entry.2) s

end Suite

namespace Visit

def start : Visit :=
  ⟨[], []⟩

/-- A fault without a path gets that of the object. It ends the run unless all are collected. -/
def report (v : Visit) (context : RuleContext) (fault : ValidationFault) :
    Except ValidationFault Visit :=
  let fault := { fault with path := some (fault.path.getD context.path.display) }
  match context.mode with
  | .lax => .ok { v with faults := v.faults ++ [fault] }
  | _ => .error fault

/-- Runs a rule that does not delegate. -/
def apply (v : Visit) (context : RuleContext) (rule : Rule) (o : TypedObject) :
    Except ValidationFault Visit :=
  match rule.check context o with
  | .ok _ => .ok v
  | .error fault => v.report context fault

end Visit

mutual

/-- Runs the rules of an object at a place, unless they ran before; `above` are the names around
it. -/
def TypedObject.run (suite : Suite) (mode : ValidationMode) (place : Place) (above : ObjectPath) :
    TypedObject → Visit → Except ValidationFault Visit
  | ⟨head, children⟩, v =>
      if v.visited.contains place then .ok v
      else
        let path := above ++ [head.elementName.prefixedName]
        (suite.rulesFor head.descriptor.name).foldlM
          (fun v rule =>
            if rule.delegates then Child.runAll suite mode place path 0 children v
            else v.apply ⟨mode, path⟩ rule ⟨head, children⟩)
          { v with visited := place :: v.visited }
termination_by structural o => o

def Child.run (suite : Suite) (mode : ValidationMode) (place : Place) (above : ObjectPath) :
    Child → Visit → Except ValidationFault Visit
  | .text _, v => .ok v
  | .object value, v => TypedObject.run suite mode place above value v
termination_by structural c => c

def Child.runAll (suite : Suite) (mode : ValidationMode) (place : Place) (above : ObjectPath)
    (index : Nat) : List Child → Visit → Except ValidationFault Visit
  | [], v => .ok v
  | child :: children, v => do
      let v ← Child.run suite mode (index :: place) above child v
      Child.runAll suite mode place above (index + 1) children v
termination_by structural cs => cs

end

mutual

/-- Runs the rules of every object of a tree, parents before children. -/
def TypedObject.walk (suite : Suite) (mode : ValidationMode) (place : Place) (above : ObjectPath) :
    TypedObject → Visit → Except ValidationFault Visit
  | ⟨head, children⟩, v => do
      let v ← TypedObject.run suite mode place above ⟨head, children⟩ v
      Child.walkAll suite mode place (above ++ [head.elementName.prefixedName]) 0 children v
termination_by structural o => o

def Child.walk (suite : Suite) (mode : ValidationMode) (place : Place) (above : ObjectPath) :
    Child → Visit → Except ValidationFault Visit
  | .text _, v => .ok v
  | .object value, v => TypedObject.walk suite mode place above value v
termination_by structural c => c

def Child.walkAll (suite : Suite) (mode : ValidationMode) (place : Place) (above : ObjectPath)
    (index : Nat) : List Child → Visit → Except ValidationFault Visit
  | [], v => .ok v
  | child :: children, v => do
      let v ← Child.walk suite mode (index :: place) above child v
      Child.walkAll suite mode place above (index + 1) children v
termination_by structural cs => cs

end

namespace Suite

/-- Validates an object and what its rules hand on. -/
def validate (s : Suite) (o : TypedObject) : Except ValidationFault Unit :=
  (o.run s .strict [] [] .start).map fun _ => ()

/-- Validates every object of a tree. -/
def validateTree (s : Suite) (o : TypedObject) : Except ValidationFault Unit :=
  (o.walk s .strict [] [] .start).map fun _ => ()

/-- The faults of a tree: the first one only, or all of them; none if validation is skipped. -/
def faults (s : Suite) (mode : ValidationMode) (o : TypedObject) : List ValidationFault :=
  if mode = .skip then []
  else
    match o.walk s mode [] [] .start with
    | .ok v => v.faults
    | .error fault => [fault]

def isValid (s : Suite) (o : TypedObject) : Bool :=
  (s.validateTree o).isOk

end Suite

end XmlBinding
