import XmlBinding.Limits
import XmlBinding.Scope

/-!
The attributes that every element may have, whatever its type, and the settings of reading and
writing objects.
-/

namespace XmlBinding

def instanceName (localName : String) : QName :=
  QName.prefixed instanceUri localName instancePrefix

def xsiTypeName : QName := instanceName "type"

def xsiNilName : QName := instanceName "nil"

def xsiSchemaLocationName : QName := instanceName "schemaLocation"

def xsiNoNamespaceLocationName : QName := instanceName "noNamespaceSchemaLocation"

/-- How objects are written. The prefix of the attributes that every element may have can be left to
the surrounding document to declare. -/
structure MarshalConfig where
  limits : Limits
  declareInstance : Bool
deriving DecidableEq, Inhabited

def MarshalConfig.standard : MarshalConfig :=
  ⟨.standard, true⟩

/-- How objects are read: whether elements of unknown types are kept, and whether blank text is
dropped where it means nothing. -/
structure UnmarshalConfig where
  limits : Limits
  keepUnknown : Bool
  ignoreBlank : Bool
deriving DecidableEq, Inhabited

def UnmarshalConfig.standard : UnmarshalConfig :=
  ⟨.standard, true, true⟩

end XmlBinding
