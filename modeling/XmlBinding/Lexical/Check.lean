import XmlBinding.Instant.Basic
import XmlBinding.Lexical.Base64
import XmlBinding.Lexical.Boolean
import XmlBinding.Lexical.Duration
import XmlBinding.Lexical.Kind
import XmlBinding.Scope
import XmlBinding.Uri.Parser

/-!
Which texts are values of a simple type. Only qualified names depend on where they stand: their
prefix must be bound in the scope.
-/

namespace XmlBinding

/-- Why a text is not a value of a simple type. -/
inductive LexicalFault where
  | boolean
  | dateTime (fault : Instant.Fault)
  | duration
  | base64 (fault : Base64.Fault)
  | uri (fault : Uri.Fault)
  | qName
  | unresolved (fault : ResolveFault)

/-- The message of a failed resolution, which names the kind of error first. -/
def ResolveFault.display : ResolveFault → String
  | .unknownPrefix p => s!"namespace error: Unknown prefix: {p}"
  | .badName fault => s!"name error: {fault.message}"

def LexicalFault.message : LexicalFault → String
  | .boolean => "malformed boolean"
  | .dateTime fault => s!"malformed dateTime: {fault.message}"
  | .duration => "malformed duration"
  | .base64 fault => s!"malformed base64: {fault.message}"
  | .uri fault => s!"malformed URI: {fault.message}"
  | .qName => "malformed QName"
  | .unresolved fault => fault.display

/-- The name that a text denotes in a scope. -/
def readQName (scope : Scope) (value : String) : Except LexicalFault QName :=
  let value := Text.trim value
  if isQNameText value then (scope.resolve value).mapError .unresolved else .error .qName

def readTruth (value : String) : Except LexicalFault Truth :=
  match Truth.read? value with
  | some truth => .ok truth
  | none => .error .boolean

namespace ValueKind

/-- Whether a text is in the lexical space of a kind. -/
def check (kind : ValueKind) (scope : Scope) (value : String) : Except LexicalFault Unit :=
  match kind with
  | .string => .ok ()
  | .boolean => (readTruth value).map fun _ => ()
  | .dateTime => ((Instant.read value).mapError .dateTime).map fun _ => ()
  | .duration => if Duration.isDuration value then .ok () else .error .duration
  | .base64Binary => ((Base64.read value).mapError .base64).map fun _ => ()
  | .anyUri => (Uri.check value).mapError .uri
  | .qName => (readQName scope value).map fun _ => ()

end ValueKind

end XmlBinding
