import XmlBinding.Catalog.Basic

/-!
Requested attributes, an extension of the SAML protocol.
-/

namespace XmlBinding.ReqAttr

def namespaceUri : String := "urn:oasis:names:tc:SAML:protocol:ext:req-attr"

def metadataUri : String := "urn:oasis:names:tc:SAML:2.0:metadata"

def assertionUri : String := "urn:oasis:names:tc:SAML:2.0:assertion"

def requestedAttributes : QName :=
  QName.prefixed namespaceUri "RequestedAttributes" "req-attr"

def requestedAttributesType : QName :=
  QName.prefixed namespaceUri "RequestedAttributesType" "req-attr"

def requestedAttribute : QName :=
  QName.prefixed metadataUri "RequestedAttribute" "md"

def requestedAttributeType : QName :=
  QName.prefixed metadataUri "RequestedAttributeType" "md"

def attributeValue : QName :=
  QName.prefixed assertionUri "AttributeValue" "saml"

def attributeName : QName := .unqualified "Name"

def nameFormat : QName := .unqualified "NameFormat"

def friendlyName : QName := .unqualified "FriendlyName"

def isRequired : QName := .unqualified "isRequired"

def catalog : Catalog where
  types :=
    [(TypeDescriptor.ofName requestedAttributes).withTypeName requestedAttributesType,
      (((((TypeDescriptor.ofName requestedAttribute).withTypeName
        requestedAttributeType).withRequired attributeName .string).withAttribute
          nameFormat .anyUri).withAttribute friendlyName .string).withAttribute
            isRequired .boolean,
      (TypeDescriptor.ofName attributeValue).withContent .mixed]
  rules :=
    [(requestedAttributes, .validChildren),
      (requestedAttribute, .requiredAttribute attributeName none),
      (requestedAttribute, .lexicalAttribute nameFormat .anyUri),
      (requestedAttribute, .validChildren)]

end XmlBinding.ReqAttr
