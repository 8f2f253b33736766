import XmlBinding.Binding.Instance
import XmlBinding.Element.Basic
import XmlBinding.Error

/-!
Start tags in the making. A frame is the tag written so far and the scope inside it. Every name that
is written first gets a prefix that is bound to its namespace: the one it came with, one that is
bound already, or a new one. Binding only extends the scope; nothing bound on the way is hidden by
another declaration of the same tag.
-/

namespace XmlBinding

structure Frame where
  tag : Tag
  scope : Scope

namespace Frame

def start (name : QName) (scope : Scope) : Frame :=
  ⟨.ofName name, scope⟩

def fail {α : Type} (f : Frame) (cause : MarshalCause) (attr : Option QName) :
    Except MarshalFault α :=
  .error ⟨cause, some f.tag.name, attr⟩

/-- Makes a prefix, or the default, stand for a namespace; the empty one takes the default away.
What holds already is not declared again. A declaration can be left to the surroundings. -/
def bind (f : Frame) (nsPrefix : Option String) (uri : String) (declare : Bool) :
    Except MarshalFault Frame :=
  let target := present (some uri)
  if f.scope.isBound nsPrefix target then .ok f
  else if nsPrefix.isSome && target.isNone then f.fail .emptyNamespace none
  else
    match f.tag.declarations.find? fun d => d.nsPrefix == nsPrefix with
    | some d => f.fail (.redeclared nsPrefix d.uri) none
    | none =>
        let d := Declaration.of nsPrefix uri
        .ok ⟨if declare then f.tag.declare d else f.tag, f.scope.declare d⟩

/-- An element name without a namespace may have no prefix, and no default may be in force. -/
def bindElementName (f : Frame) : Except MarshalFault Frame :=
  match f.tag.name.uri, f.tag.name.nsPrefix with
  | some uri, nsPrefix => f.bind nsPrefix uri true
  | none, some _ => f.fail .prefixWithoutNamespace none
  | none, none => f.bind none "" true

/-- The prefix with a number that is made up for a namespace. -/
def numberedPrefix (n : Nat) : String :=
  s!"ns{n}"

/-- The first numbered prefix that is not bound. Among one more of them than there are bindings, one
is not. -/
def freshPrefix (scope : Scope) : String :=
  let candidates := (List.range (scope.bindings.size + 1)).map fun n => numberedPrefix (n + 1)
  (candidates.find? fun p => (scope.prefixUri p).isNone).getD ""

/-- The name with a prefix that is bound to its namespace. Names without a namespace have none. -/
def qualify (f : Frame) (name : QName) (declare : Bool) : Except MarshalFault (QName × Frame) :=
  match name.uri with
  | none => .ok (.unqualified name.localName, f)
  | some uri =>
      if name.nsPrefix.isSome && f.scope.isBound name.nsPrefix (some uri) then .ok (name, f)
      else
        match f.scope.findPrefix uri, name.nsPrefix with
        | some p, _ => .ok (name.withPrefix (some p), f)
        | none, some p =>
            if (f.scope.prefixUri p).isSome then
              let p := freshPrefix f.scope
              (f.bind (some p) uri true).map fun f => (name.withPrefix (some p), f)
            else (f.bind (some p) uri declare).map fun f => (name, f)
        | none, none => f.fail .unresolvable (some name)

/-- The text that denotes a type in the scope. A type in the default namespace needs no prefix. -/
def typeText (f : Frame) (type : QName) : Except MarshalFault (String × Frame) :=
  match type.uri with
  | none =>
      if f.scope.defaultUri.isNone then .ok (type.localName, f)
      else f.fail (.unresolvableType type) (some xsiTypeName)
  | some uri =>
      if type.nsPrefix.isNone && (f.scope.findPrefix uri).isNone &&
          f.scope.defaultUri == some uri then
        .ok (type.localName, f)
      else
        match f.qualify type true with
        | .ok (name, f) => .ok (name.prefixedName, f)
        | .error _ => f.fail (.unresolvableType type) (some xsiTypeName)

def writeAttribute (f : Frame) (name : QName) (value : String) (declare : Bool) :
    Except MarshalFault Frame := do
  let (name, f) ← f.qualify name declare
  return { f with tag := f.tag.setAttribute name value }

/-- Writes an attribute that may be absent. -/
def writeOptional (f : Frame) (name : QName) (value : Option String) (declare : Bool) :
    Except MarshalFault Frame :=
  match value with
  | some value => f.writeAttribute name value declare
  | none => .ok f

end Frame

end XmlBinding
