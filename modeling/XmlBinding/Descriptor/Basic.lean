import XmlBinding.Error

/-!
Type descriptors. A descriptor says how objects of a schema type are built, read and written: the
name of their element, the attributes that are modeled, in the order in which they are written, and
what content they may have.
-/

namespace XmlBinding

structure AttributeSpec where
  name : QName
  kind : ValueKind
  required : Bool
deriving DecidableEq, Inhabited

inductive ContentModel where
  | empty
  | simple (kind : ValueKind)
  | complex
  | mixed
deriving DecidableEq, Inhabited

/-- Whether blank text between children means nothing. -/
def ContentModel.ignoresBlank : ContentModel → Bool
  | .empty | .complex => true
  | .simple _ | .mixed => false

structure TypeDescriptor where
  name : QName
  typeName : Option QName
  attributes : List AttributeSpec
  content : ContentModel
deriving DecidableEq, Inhabited

/-- The name of content that no type is known for. -/
def anyTypeName : QName :=
  QName.prefixed schemaUri "anyType" "xs"

namespace TypeDescriptor

def ofName (name : QName) : TypeDescriptor :=
  ⟨name, none, [], .complex⟩

def withTypeName (d : TypeDescriptor) (typeName : QName) : TypeDescriptor :=
  { d with typeName := some typeName }

def withAttribute (d : TypeDescriptor) (name : QName) (kind : ValueKind) : TypeDescriptor :=
  { d with attributes := d.attributes ++ [⟨name, kind, false⟩] }

def withRequired (d : TypeDescriptor) (name : QName) (kind : ValueKind) : TypeDescriptor :=
  { d with attributes := d.attributes ++ [⟨name, kind, true⟩] }

def withContent (d : TypeDescriptor) (content : ContentModel) : TypeDescriptor :=
  { d with content }

/-- The descriptor of content that no type is known for. -/
def wildcard : TypeDescriptor :=
  (ofName anyTypeName).withContent .mixed

def spec? (d : TypeDescriptor) (name : QName) : Option AttributeSpec :=
  d.attributes.find? fun spec => spec.name.same name

def models (d : TypeDescriptor) (name : QName) : Bool :=
  (d.spec? name).isSome

/-- The name written as the type of an element that has another name. -/
def xsiType (d : TypeDescriptor) : QName :=
  d.typeName.getD d.name

def isWildcard (d : TypeDescriptor) : Bool :=
  d.name.same anyTypeName

/-- Checks attributes in order, given the names of those before them. -/
def checkAttributes (owner : QName) (seen : List ExpandedName) :
    List AttributeSpec → Except DescriptorFault Unit
  | [] => .ok ()
  | spec :: rest =>
      if spec.name.expanded ∈ seen then .error (.declaredTwice spec.name owner)
      else if spec.name.uri = some instanceUri then .error (.instanceAttribute spec.name owner)
      else checkAttributes owner (spec.name.expanded :: seen) rest

/-- No attribute may be modeled twice, nor one that every element may have. -/
def check (d : TypeDescriptor) : Except DescriptorFault Unit :=
  checkAttributes d.name [] d.attributes

end TypeDescriptor

end XmlBinding
