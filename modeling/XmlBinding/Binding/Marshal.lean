import XmlBinding.Binding.Frame
import XmlBinding.Object.Basic

/-!
Writing objects as elements. A start tag is written in a fixed order: the declarations of the
object, its name, the attributes that every element may have, the modeled attributes as the
descriptor lists them, and the others as they were set. Children follow in the scope of the tag.
-/

namespace XmlBinding

namespace Frame

def bindAll (f : Frame) (ds : List Declaration) : Except MarshalFault Frame :=
  ds.foldlM (fun f d => f.bind d.nsPrefix d.uri true) f

def writeType (f : Frame) (type : Option QName) (declare : Bool) : Except MarshalFault Frame :=
  match type with
  | some type => do
      let (text, f) ← f.typeText type
      f.writeAttribute xsiTypeName text declare
  | none => .ok f

/-- Writes the attributes that every element may have. -/
def writeInstance (f : Frame) (head : ObjectHead) (declare : Bool) : Except MarshalFault Frame := do
  let f ← f.writeType head.schemaType declare
  let f ← f.writeOptional xsiSchemaLocationName head.schemaLocation declare
  let f ← f.writeOptional xsiNoNamespaceLocationName head.noNamespaceLocation declare
  f.writeOptional xsiNilName (head.nil.map Truth.write) declare

/-- Writes a modeled attribute under the name it was set with. -/
def writeModeled (head : ObjectHead) (f : Frame) (spec : AttributeSpec) :
    Except MarshalFault Frame :=
  match head.attributes.entry? spec.name.expanded with
  | some (name, value) => f.writeAttribute name value true
  | none =>
      if spec.required then .error ⟨.requiredAttribute, some head.elementName, some spec.name⟩
      else .ok f

def writeUnknown (f : Frame) (entry : QName × String) : Except MarshalFault Frame :=
  f.writeAttribute entry.1 entry.2 true

end Frame

namespace ObjectHead

/-- The check of a text that is a name; its prefix must be bound on the element itself. -/
def checkName (head : ObjectHead) (scope : Scope) (attr : Option QName) (text : String) :
    Except MarshalFault Unit :=
  (ValueKind.qName.check scope text).mapError fun fault =>
    ⟨.unresolvableValue fault, some head.elementName, attr⟩

def checkNameAttribute (head : ObjectHead) (scope : Scope) (spec : AttributeSpec) :
    Except MarshalFault Unit :=
  match spec.kind, head.attribute? spec.name with
  | .qName, some text => head.checkName scope (some spec.name) text
  | _, _ => .ok ()

/-- Every attribute and text that is a name must have a meaning where it is written. -/
def checkNames (head : ObjectHead) (text : Option String) (scope : Scope) :
    Except MarshalFault Unit := do
  head.descriptor.attributes.forM (head.checkNameAttribute scope)
  match head.descriptor.content, text with
  | .simple .qName, some text => head.checkName scope none text
  | _, _ => .ok ()

end ObjectHead

/-- Checks an element against the limits. -/
def checkLimits (limits : Limits) (depth attributes children : Nat) : Except Error Unit := do
  (limits.check .depth depth).mapError .limitExceeded
  (limits.check .attributes attributes).mapError .limitExceeded
  (limits.check .children children).mapError .limitExceeded

/-- The start tag of an object and the scope inside it. -/
def ObjectHead.writeTag (head : ObjectHead) (text : Option String) (config : MarshalConfig)
    (scope : Scope) : Except MarshalFault Frame := do
  if !isNCName head.elementName.localName then
    throw ⟨.elementName, some head.elementName, none⟩
  let f ← (Frame.start head.elementName scope).bindAll head.declarations
  let f ← f.bindElementName
  let f ← f.writeInstance head config.declareInstance
  let f ← head.descriptor.attributes.foldlM (Frame.writeModeled head) f
  let f ← head.unknown.entries.foldlM Frame.writeUnknown f
  head.checkNames text f.scope
  return f

/-- The start tag of an object within the limits. -/
def TypedObject.frame (o : TypedObject) (config : MarshalConfig) (scope : Scope) (depth : Nat) :
    Except Error Frame := do
  checkLimits config.limits depth (o.attributes.size + o.unknown.size) o.children.length
  (o.writeTag o.text? config scope).mapError .marshalling

mutual

/-- Writes an object at a depth, where the outermost is at one. -/
def TypedObject.marshalAt (config : MarshalConfig) (scope : Scope) (depth : Nat) :
    TypedObject → Except Error Element
  | ⟨head, children⟩ => do
      let f ← TypedObject.frame ⟨head, children⟩ config scope depth
      let nodes ← Child.marshalAll config f.scope (depth + 1) children
      return ⟨f.tag, nodes⟩
termination_by structural o => o

def Child.marshal (config : MarshalConfig) (scope : Scope) (depth : Nat) :
    Child → Except Error Node
  | .text value => .ok (.text value)
  | .object value => (TypedObject.marshalAt config scope depth value).map .element
termination_by structural c => c

def Child.marshalAll (config : MarshalConfig) (scope : Scope) (depth : Nat) :
    List Child → Except Error (List Node)
  | [] => .ok []
  | child :: children => do
      let node ← Child.marshal config scope depth child
      let nodes ← Child.marshalAll config scope depth children
      return node :: nodes
termination_by structural cs => cs

end

/-- Writes an object as an element of a document in which a scope is in force. -/
def TypedObject.marshal (o : TypedObject) (config : MarshalConfig) (scope : Scope) :
    Except Error Element :=
  o.marshalAt config scope 1

end XmlBinding
