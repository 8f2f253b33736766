import XmlBinding.Lexical.Check
import XmlBinding.Limits

/-!
What can go wrong. Each kind of error has its causes, from which the message is made; a cause
`other` carries the words of a caller who raises an error of that kind. Errors that an inbound
document is to blame for are told apart from those of the local program.
-/

namespace XmlBinding

/-- Why an object cannot be written. -/
inductive MarshalCause where
  | elementName
  | emptyNamespace
  | redeclared (nsPrefix : Option String) (uri : String)
  | prefixWithoutNamespace
  | requiredAttribute
  | unresolvable
  | unresolvableType (type : QName)
  | unresolvableValue (fault : LexicalFault)
  | other (message : String)

def MarshalCause.message : MarshalCause → String
  | .elementName => "invalid element name"
  | .emptyNamespace => "a namespace prefix cannot be bound to the empty namespace"
  | .redeclared nsPrefix uri =>
      let shown := nsPrefix.getD ""
      s!"prefix '{shown}' is already declared for {uri} on this element"
  | .prefixWithoutNamespace => "prefixed element name has no namespace"
  | .requiredAttribute => "required attribute is absent"
  | .unresolvable => "unresolvable namespace prefix"
  | .unresolvableType type => s!"unresolvable namespace prefix for type {type.display}"
  | .unresolvableValue fault => s!"unresolvable namespace prefix: {fault.message}"
  | .other message => message

structure MarshalFault where
  cause : MarshalCause
  element : Option QName
  attr : Option QName

/-- The attribute is shown only along with its element. -/
def MarshalFault.message (f : MarshalFault) : String :=
  match f.element, f.attr with
  | none, _ => f.cause.message
  | some element, none => s!"{f.cause.message} (element {element.display})"
  | some element, some attr =>
      s!"{f.cause.message} (element {element.display}, attribute {attr.display})"

/-- Why an element cannot be read as an object. -/
inductive UnmarshalCause where
  | typeName (fault : ResolveFault)
  | noBuilder
  | nil (fault : LexicalFault)
  | attr (kind : ValueKind) (name : QName) (fault : LexicalFault)
  | content (kind : ValueKind) (fault : LexicalFault)
  | conversion (fault : LexicalFault)
  | other (message : String)

def UnmarshalCause.message : UnmarshalCause → String
  | .typeName fault => s!"unresolvable xsi:type: {fault.display}"
  | .noBuilder => "no builder registered and no fallback configured"
  | .nil fault => s!"malformed xsi:nil: {fault.message}"
  | .attr kind name fault =>
      s!"malformed {kind.schemaName} attribute {name.display}: {fault.message}"
  | .content kind fault => s!"malformed {kind.schemaName} content: {fault.message}"
  | .conversion fault => fault.message
  | .other message => message

structure UnmarshalFault where
  cause : UnmarshalCause
  element : Option QName
  value : Option String

def UnmarshalFault.message (f : UnmarshalFault) : String :=
  let element := match f.element with
    | some element => s!" (element {element.display})"
    | none => ""
  let value := match f.value with
    | some value => s!": '{value}'"
    | none => ""
  f.cause.message ++ element ++ value

/-- A broken rule. The message is the rule's own. -/
structure ValidationFault where
  text : String
  element : QName
  attr : Option QName := none
  path : Option String := none
deriving DecidableEq

def ValidationFault.message (f : ValidationFault) : String :=
  let attr := match f.attr with
    | some attr => s!"\n\nAttribute: {attr.display}"
    | none => ""
  let path := match f.path with
    | some path => s!"\n\nPath: {path}"
    | none => ""
  s!"{f.text}{attr}\n\nElement: {f.element.display}{path}"

/-- Why a name has no meaning where it stands. -/
inductive ScopeFault where
  | unknownPrefix (nsPrefix : String)
  | other (message : String)

def ScopeFault.message : ScopeFault → String
  | .unknownPrefix nsPrefix => s!"Unknown prefix: {nsPrefix}"
  | .other message => message

/-- Why a text is not a document. -/
inductive DocumentFault where
  | notWellFormed
  | other (message : String)

def DocumentFault.message : DocumentFault → String
  | .notWellFormed => "Error parsing XML"
  | .other message => message

/-- Why a table of descriptors cannot be read. -/
inductive TableFault where
  | malformed
  | badName (fault : NameFault)

/-- Why a descriptor cannot be used. -/
inductive DescriptorFault where
  | declaredTwice (attr owner : QName)
  | instanceAttribute (attr owner : QName)
  | table (fault : TableFault)
  | other (message : String)

def DescriptorFault.message : DescriptorFault → String
  | .declaredTwice attr owner =>
      s!"attribute {attr.display} declared twice on {owner.display}"
  | .instanceAttribute attr owner =>
      s!"xsi attribute {attr.display} cannot be modeled on {owner.display}"
  | .table .malformed => "invalid descriptor table"
  | .table (.badName fault) => s!"invalid descriptor table: name error: {fault.message}"
  | .other message => message

/-- Why security settings cannot be resolved. -/
inductive SecurityFault where
  | noConfiguration
  | other (message : String)

def SecurityFault.message : SecurityFault → String
  | .noConfiguration => "at least one security configuration is required"
  | .other message => message

inductive Error where
  | duplicateRegistration (key : QName)
  | marshalling (fault : MarshalFault)
  | unmarshalling (fault : UnmarshalFault)
  | validation (fault : ValidationFault)
  | name (fault : NameFault)
  | scope (fault : ScopeFault)
  | document (fault : DocumentFault)
  | limitExceeded (fault : LimitFault)
  | descriptor (fault : DescriptorFault)
  | security (fault : SecurityFault)

namespace Error

def message : Error → String
  | .duplicateRegistration key => s!"duplicate registration: {key.display}"
  | .marshalling fault => s!"marshalling error: {fault.message}"
  | .unmarshalling fault => s!"unmarshalling error: {fault.message}"
  | .validation fault => s!"validation error: {fault.message}"
  | .name fault => s!"name error: {fault.message}"
  | .scope fault => s!"namespace error: {fault.message}"
  | .document fault => s!"XML error: {fault.message}"
  | .limitExceeded fault => s!"limit exceeded: {fault.message}"
  | .descriptor fault => s!"descriptor error: {fault.message}"
  | .security fault => s!"security error: {fault.message}"

/-- Whether an inbound document is to blame, rather than the local program. -/
def isRejected : Error → Bool
  | .unmarshalling _ | .document _ | .limitExceeded _ => true
  | _ => false

def ofResolve : ResolveFault → Error
  | .unknownPrefix p => .scope (.unknownPrefix p)
  | .badName fault => .name fault

end Error

end XmlBinding
