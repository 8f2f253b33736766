import XmlBinding.Catalog.Basic

/-!
Envelopes and faults of SOAP 1.1. The children of a fault are in no namespace.
-/

namespace XmlBinding.Soap11

def namespaceUri : String := "http://schemas.xmlsoap.org/soap/envelope/"

def usualPrefix : String := "soap11"

def soapName (localName : String) : QName :=
  QName.prefixed namespaceUri localName usualPrefix

def envelope : QName := soapName "Envelope"

def header : QName := soapName "Header"

def body : QName := soapName "Body"

def fault : QName := soapName "Fault"

def faultCode : QName := .unqualified "faultcode"

def faultString : QName := .unqualified "faultstring"

def faultActor : QName := .unqualified "faultactor"

def detail : QName := .unqualified "detail"

/-- The fault code for a message that was malformed or lacked information. -/
def client : QName := soapName "Client"

/-- The fault code for a message that could not be processed through no fault of its own. -/
def server : QName := soapName "Server"

/-- The fault code for an envelope in a wrong namespace. -/
def versionMismatch : QName := soapName "VersionMismatch"

/-- The fault code for a mandatory header that was not understood. -/
def mustUnderstand : QName := soapName "MustUnderstand"

def catalog : Catalog where
  types :=
    [.ofName envelope, .ofName header, .ofName body, .ofName fault,
      (TypeDescriptor.ofName faultCode).withContent (.simple .qName),
      (TypeDescriptor.ofName faultString).withContent (.simple .string),
      (TypeDescriptor.ofName faultActor).withContent (.simple .anyUri),
      .ofName detail]
  rules :=
    [(envelope, .optionalChild header), (envelope, .requiredChild body),
      (envelope, .validChildren), (body, .validChildren),
      (fault, .requiredChild faultCode), (fault, .requiredChild faultString),
      (fault, .optionalChild faultActor), (fault, .optionalChild detail),
      (fault, .validChildren),
      (faultCode, .requiredText (some "faultcode must not be empty")),
      (faultString, .requiredText (some "faultstring must not be empty"))]

/-- The text of a fault code and the declaration that gives it a meaning. -/
def codeContent (code : QName) : String × Option Declaration :=
  match code.uri, code.nsPrefix with
  | some uri, some p => (code.prefixedName, some (.of (some p) uri))
  | some uri, none => (s!"{usualPrefix}:{code.localName}", some (.of (some usualPrefix) uri))
  | none, _ => (code.localName, none)

/-- Builds a fault, if the types for it are registered. The code's namespace is declared on the
element that holds the code. -/
def buildFault? (registry : Registry) (code : QName) (message : String) : Option TypedObject := do
  let whole ← registry.build? fault
  let codeObject ← registry.build? faultCode
  let (text, declaration) := codeContent code
  let codeObject := declaration.elim codeObject codeObject.declare
  let stringObject ← registry.build? faultString
  return (whole.addChild (.object (codeObject.setText text))).addChild
    (.object (stringObject.setText message))

end XmlBinding.Soap11
