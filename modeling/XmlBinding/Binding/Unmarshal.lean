import XmlBinding.Binding.Marshal
import XmlBinding.Registry.Basic

/-!
Reading elements as objects. The type that an element names decides on its descriptor, else its own
name, else the registry's fallback. Values are checked as they are read, in the scope of the element
they stand on, but kept as they are written.
-/

namespace XmlBinding

/-- An error about an element and a value on it. -/
def Tag.reject (tag : Tag) (cause : UnmarshalCause) (value : Option String) : Error :=
  .unmarshalling ⟨cause, some tag.name, value⟩

/-- The type that an element names, if it does. -/
def Tag.schemaType? (tag : Tag) (scope : Scope) : Except Error (Option QName) :=
  match tag.attribute? xsiTypeName with
  | none => .ok none
  | some value =>
      match scope.resolve (Text.trim value) with
      | .ok type => .ok (some type)
      | .error fault => .error (tag.reject (.typeName fault) (some value))

/-- The descriptor for an element name and the type that the element names. -/
def Registry.select? (r : Registry) (config : UnmarshalConfig) (elementName : QName)
    (schemaType : Option QName) : Option TypeDescriptor :=
  ((schemaType.bind r.lookup).or (r.lookup elementName)).or
    (if config.keepUnknown then r.fallback else none)

/-- Checks the value of an attribute if it is modeled. -/
def TypeDescriptor.checkValue (d : TypeDescriptor) (tag : Tag) (scope : Scope) (name : QName)
    (value : String) : Except Error Unit :=
  match d.spec? name with
  | none => .ok ()
  | some spec =>
      (spec.kind.check scope value).mapError fun fault =>
        tag.reject (.attr spec.kind name fault) (some value)

/-- Reads one attribute of an element. -/
def ObjectHead.readAttribute (tag : Tag) (scope : Scope) (head : ObjectHead)
    (entry : QName × String) : Except Error ObjectHead :=
  let (name, value) := entry
  if name.same xsiTypeName then .ok head
  else if name.same xsiNilName then
    match readTruth value with
    | .ok nil => .ok { head with nil := some nil }
    | .error fault => .error (tag.reject (.nil fault) (some value))
  else if name.same xsiSchemaLocationName then .ok { head with schemaLocation := some value }
  else if name.same xsiNoNamespaceLocationName then
    .ok { head with noNamespaceLocation := some value }
  else do
    head.descriptor.checkValue tag scope name value
    return head.setAttribute name value

/-- Reads all of an element but its children. -/
def Tag.readHead (tag : Tag) (registry : Registry) (config : UnmarshalConfig) (scope : Scope) :
    Except Error ObjectHead := do
  let schemaType ← tag.schemaType? scope
  match registry.select? config tag.name schemaType with
  | none => throw (tag.reject .noBuilder none)
  | some d =>
      let head : ObjectHead :=
        { ObjectHead.ofDescriptor d tag.name with
          schemaType
          declarations := tag.declarations.foldl addDeclaration [] }
      tag.attributes.entries.foldlM (ObjectHead.readAttribute tag scope) head

/-- Whether a text is dropped on reading. -/
def ContentModel.drops (content : ContentModel) (config : UnmarshalConfig) (text : String) :
    Bool :=
  config.ignoreBlank && content.ignoresBlank && Text.isBlankText text

/-- Checks the text of an object with simple content, if there is any. -/
def TypedObject.checkContent (o : TypedObject) (tag : Tag) (scope : Scope) : Except Error Unit :=
  match o.descriptor.content, o.text? with
  | .simple kind, some text =>
      (kind.check scope text).mapError fun fault =>
        tag.reject (.content kind fault) (some text)
  | _, _ => .ok ()

mutual

/-- Reads an element at a depth, where the outermost is at one. -/
def Element.unmarshalAt (registry : Registry) (config : UnmarshalConfig) (scope : Scope)
    (depth : Nat) : Element → Except Error TypedObject
  | ⟨tag, nodes⟩ => do
      checkLimits config.limits depth tag.attributes.size nodes.length
      let scope := scope.declareAll tag.declarations
      let head ← tag.readHead registry config scope
      let children ←
        Node.unmarshalAll registry config scope (depth + 1) head.descriptor.content nodes
      let o : TypedObject := ⟨head, children⟩
      o.checkContent tag scope
      return o
termination_by structural e => e

/-- Reads a child; none if it is a text that is dropped. -/
def Node.unmarshal (registry : Registry) (config : UnmarshalConfig) (scope : Scope)
    (depth : Nat) (content : ContentModel) : Node → Except Error (Option Child)
  | .text value => .ok (if content.drops config value then none else some (.text value))
  | .element value =>
      (Element.unmarshalAt registry config scope depth value).map fun o => some (.object o)
termination_by structural n => n

def Node.unmarshalAll (registry : Registry) (config : UnmarshalConfig) (scope : Scope)
    (depth : Nat) (content : ContentModel) : List Node → Except Error (List Child)
  | [] => .ok []
  | node :: nodes => do
      let child ← Node.unmarshal registry config scope depth content node
      let children ← Node.unmarshalAll registry config scope depth content nodes
      return child.toList ++ children
termination_by structural ns => ns

end

/-- Reads an element of a document in which a scope is in force. -/
def Element.unmarshal (e : Element) (registry : Registry) (config : UnmarshalConfig)
    (scope : Scope) : Except Error TypedObject :=
  e.unmarshalAt registry config scope 1

end XmlBinding
