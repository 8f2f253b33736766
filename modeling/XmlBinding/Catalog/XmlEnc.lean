import XmlBinding.Catalog.Basic

/-!
Key agreement elements of XML Encryption.
-/

namespace XmlBinding.XmlEnc

def namespaceUri : String := "http://www.w3.org/2001/04/xmlenc#"

def signatureUri : String := "http://www.w3.org/2000/09/xmldsig#"

def encName (localName : String) : QName :=
  QName.prefixed namespaceUri localName "xenc"

def signatureName (localName : String) : QName :=
  QName.prefixed signatureUri localName "ds"

def agreementMethod : QName := encName "AgreementMethod"

def agreementMethodType : QName := encName "AgreementMethodType"

def nonce : QName := encName "KA-Nonce"

def originatorKeyInfo : QName := encName "OriginatorKeyInfo"

def recipientKeyInfo : QName := encName "RecipientKeyInfo"

def keyInfo : QName := signatureName "KeyInfo"

def keyInfoType : QName := signatureName "KeyInfoType"

def algorithm : QName := .unqualified "Algorithm"

def id : QName := .unqualified "Id"

def catalog : Catalog where
  types :=
    [(((TypeDescriptor.ofName agreementMethod).withTypeName agreementMethodType).withRequired
        algorithm .anyUri).withContent .mixed,
      (TypeDescriptor.ofName nonce).withContent (.simple .base64Binary),
      (TypeDescriptor.ofName originatorKeyInfo).withAttribute id .string,
      (TypeDescriptor.ofName recipientKeyInfo).withAttribute id .string,
      ((TypeDescriptor.ofName keyInfo).withTypeName keyInfoType).withAttribute id .string]
  rules :=
    [(agreementMethod,
        .requiredAttribute algorithm (some "AgreementMethod algorithm URI was empty")),
      (agreementMethod, .optionalChild nonce),
      (agreementMethod, .optionalChild originatorKeyInfo),
      (agreementMethod, .optionalChild recipientKeyInfo),
      (agreementMethod, .validChildren)]

end XmlBinding.XmlEnc
