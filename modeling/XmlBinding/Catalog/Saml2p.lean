import XmlBinding.Catalog.Basic

/-!
Status elements of the SAML 2.0 protocol.
-/

namespace XmlBinding.Saml2p

def namespaceUri : String := "urn:oasis:names:tc:SAML:2.0:protocol"

def protocolName (localName : String) : QName :=
  QName.prefixed namespaceUri localName "samlp"

def status : QName := protocolName "Status"

def statusType : QName := protocolName "StatusType"

def statusCode : QName := protocolName "StatusCode"

def statusCodeType : QName := protocolName "StatusCodeType"

def statusMessage : QName := protocolName "StatusMessage"

def statusDetail : QName := protocolName "StatusDetail"

def statusDetailType : QName := protocolName "StatusDetailType"

def value : QName := .unqualified "Value"

/-- The status of a request that succeeded. -/
def success : String := "urn:oasis:names:tc:SAML:2.0:status:Success"

/-- The status of a request that was at fault. -/
def requester : String := "urn:oasis:names:tc:SAML:2.0:status:Requester"

/-- The status of a request that the responder failed on. -/
def responder : String := "urn:oasis:names:tc:SAML:2.0:status:Responder"

def catalog : Catalog where
  types :=
    [(TypeDescriptor.ofName status).withTypeName statusType,
      ((TypeDescriptor.ofName statusCode).withTypeName statusCodeType).withRequired value .anyUri,
      (TypeDescriptor.ofName statusMessage).withContent (.simple .string),
      (TypeDescriptor.ofName statusDetail).withTypeName statusDetailType]
  rules :=
    [(status, .requiredChild statusCode), (status, .optionalChild statusMessage),
      (status, .optionalChild statusDetail), (status, .validChildren),
      (statusCode, .requiredAttribute value (some "Value attribute is required")),
      (statusCode, .optionalChild statusCode), (statusCode, .validChildren)]

end XmlBinding.Saml2p
