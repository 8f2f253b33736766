import XmlBinding.Descriptor.Basic
import XmlBinding.Element.Basic
import XmlBinding.Lexical.Value

/-!
Typed objects. An object is an element seen through a descriptor: the attributes that the descriptor
models are kept apart from all others, and so are the few attributes that every element may have.
Children are objects and texts in order; texts are never joined.
-/

namespace XmlBinding

/-- All of an object but its children. -/
structure ObjectHead where
  descriptor : TypeDescriptor
  elementName : QName
  schemaType : Option QName
  nil : Option Truth
  schemaLocation : Option String
  noNamespaceLocation : Option String
  attributes : NameTable String
  unknown : NameTable String
  declarations : List Declaration
deriving Inhabited

mutual

structure TypedObject extends ObjectHead where
  children : List Child

inductive Child where
  | text (value : String)
  | object (value : TypedObject)

end

instance : Inhabited TypedObject :=
  ⟨⟨default, []⟩⟩

instance : Inhabited Child :=
  ⟨.text ""⟩

namespace Child

def text? : Child → Option String
  | .text value => some value
  | .object _ => none

def object? : Child → Option TypedObject
  | .text _ => none
  | .object value => some value

end Child

namespace ObjectHead

def ofDescriptor (d : TypeDescriptor) (elementName : QName) : ObjectHead :=
  ⟨d, elementName, none, none, none, none, OrderedTable.empty, OrderedTable.empty, []⟩

/-- The value of an attribute, modeled or not. -/
def attribute? (h : ObjectHead) (name : QName) : Option String :=
  (h.attributes.get? name.expanded).or (h.unknown.get? name.expanded)

/-- An attribute goes to the modeled ones if the descriptor has it. -/
def setAttribute (h : ObjectHead) (name : QName) (value : String) : ObjectHead :=
  if h.descriptor.models name then { h with attributes := h.attributes.set name value }
  else { h with unknown := h.unknown.set name value }

/-- The removed value, and the object without it. -/
def removeAttribute (h : ObjectHead) (name : QName) : Option String × ObjectHead :=
  match h.attributes.get? name.expanded with
  | some value => (some value, { h with attributes := h.attributes.erase name.expanded })
  | none =>
      (h.unknown.get? name.expanded, { h with unknown := h.unknown.erase name.expanded })

def declare (h : ObjectHead) (d : Declaration) : ObjectHead :=
  { h with declarations := addDeclaration h.declarations d }

def isNil (h : ObjectHead) : Bool :=
  h.nil.any (·.value)

def hasDefaultName (h : ObjectHead) : Bool :=
  h.elementName.same h.descriptor.name

/-- Likeness up to prefixes and the order of attributes; declarations count for nothing. -/
def same (a b : ObjectHead) : Bool :=
  a.descriptor.name.same b.descriptor.name && a.elementName.same b.elementName &&
    a.schemaType.map QName.expanded == b.schemaType.map QName.expanded && a.nil == b.nil &&
    a.schemaLocation == b.schemaLocation && a.noNamespaceLocation == b.noNamespaceLocation &&
    a.attributes.sameContent b.attributes && a.unknown.sameContent b.unknown

end ObjectHead

namespace TypedObject

def setAttribute (o : TypedObject) (name : QName) (value : String) : TypedObject :=
  { o with toObjectHead := o.toObjectHead.setAttribute name value }

def removeAttribute (o : TypedObject) (name : QName) : Option String × TypedObject :=
  let (removed, head) := o.toObjectHead.removeAttribute name
  (removed, { o with toObjectHead := head })

def declare (o : TypedObject) (d : Declaration) : TypedObject :=
  { o with toObjectHead := o.toObjectHead.declare d }

def objects (o : TypedObject) : List TypedObject :=
  o.children.filterMap Child.object?

/-- All the text directly in an object; none if there is no text child. -/
def text? (o : TypedObject) : Option String :=
  match o.children.filterMap Child.text? with
  | [] => none
  | texts => some (String.join texts)

def addChild (o : TypedObject) (child : Child) : TypedObject :=
  { o with children := o.children ++ [child] }

/-- Takes all texts away. -/
def clearText (o : TypedObject) : TypedObject :=
  { o with children := o.children.filter fun child => child.text?.isNone }

/-- Puts one text in place of all others, after the objects. -/
def setText (o : TypedObject) (value : String) : TypedObject :=
  o.clearText.addChild (.text value)

/-- A place beyond the end is refused. -/
def insertChild? (o : TypedObject) (index : Nat) (child : Child) : Option TypedObject :=
  if index ≤ o.children.length then
    some { o with children := o.children.take index ++ child :: o.children.drop index }
  else none

def removeChild? (o : TypedObject) (index : Nat) : Option (Child × TypedObject) :=
  o.children[index]?.map fun child => (child, { o with children := o.children.eraseIdx index })

def isNamed (name : QName) : Child → Bool
  | .text _ => false
  | .object value => value.elementName.same name

/-- Takes the first child object of a name out. -/
def takeObject? (o : TypedObject) (name : QName) : Option (TypedObject × TypedObject) := do
  let index ← o.children.findIdx? (isNamed name)
  let (child, rest) ← o.removeChild? index
  return (← child.object?, rest)

def clear (o : TypedObject) : TypedObject :=
  { o with children := [] }

def mapObjects (o : TypedObject) (f : TypedObject → TypedObject) : TypedObject :=
  { o with
    children := o.children.map fun
      | .text value => .text value
      | .object value => .object (f value) }

def findAll (o : TypedObject) (name : QName) : List TypedObject :=
  o.objects.filter fun child => child.elementName.same name

def find? (o : TypedObject) (name : QName) : Option TypedObject :=
  (o.findAll name).head?

/-- Reads a text of the object as a value. -/
def convert (o : TypedObject) (type : ValueType) (text : String) : Except Error Value :=
  (type.read text).mapError fun fault =>
    .unmarshalling ⟨.conversion fault, some o.elementName, some text⟩

def convert? (o : TypedObject) (type : ValueType) : Option String → Except Error (Option Value)
  | none => .ok none
  | some text => (o.convert type text).map some

/-- The value of an attribute, if it is there. -/
def value? (o : TypedObject) (type : ValueType) (name : QName) : Except Error (Option Value) :=
  o.convert? type (o.attribute? name)

/-- The value of the text, if there is one. -/
def textValue? (o : TypedObject) (type : ValueType) : Except Error (Option Value) :=
  o.convert? type o.text?

def setValue (o : TypedObject) (name : QName) (value : Value) : TypedObject :=
  o.setAttribute name value.write

def setTextValue (o : TypedObject) (value : Value) : TypedObject :=
  o.setText value.write

end TypedObject

mutual

/-- Likeness of objects is likeness of their heads and of their children, in order. -/
def TypedObject.same : TypedObject → TypedObject → Bool
  | ⟨head, children⟩, other => head.same other.toObjectHead && Child.sameAll children other.children
termination_by structural o => o

def Child.same : Child → Child → Bool
  | .text value, .text other => value == other
  | .object value, .object other => TypedObject.same value other
  | _, _ => false
termination_by structural c => c

def Child.sameAll : List Child → List Child → Bool
  | [], [] => true
  | child :: children, other :: others => Child.same child other && Child.sameAll children others
  | _, _ => false
termination_by structural cs => cs

end

/-- Builds an object of a type under its own name. -/
def TypeDescriptor.build (d : TypeDescriptor) : TypedObject :=
  ⟨.ofDescriptor d d.name, []⟩

/-- Builds an object under any name; under a foreign one, the object carries its type. -/
def TypeDescriptor.buildNamed (d : TypeDescriptor) (elementName : QName) : TypedObject :=
  let foreignName := !elementName.same d.name && !d.isWildcard
  ⟨{ ObjectHead.ofDescriptor d elementName with
      schemaType := if foreignName then some d.xsiType else none }, []⟩

end XmlBinding
