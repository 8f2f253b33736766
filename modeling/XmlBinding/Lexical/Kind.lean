/-!
The simple types that attributes and texts are declared with.
-/

namespace XmlBinding

inductive ValueKind where
  | string
  | boolean
  | dateTime
  | duration
  | base64Binary
  | anyUri
  | qName
deriving DecidableEq, Inhabited

namespace ValueKind

/-- The name of the type in XML Schema. -/
def schemaName : ValueKind → String
  | .string => "string"
  | .boolean => "boolean"
  | .dateTime => "dateTime"
  | .duration => "duration"
  | .base64Binary => "base64Binary"
  | .anyUri => "anyURI"
  | .qName => "QName"

/-- The name of the type in descriptor tables. -/
def tableName : ValueKind → String
  | .anyUri => "anyUri"
  | .qName => "qName"
  | kind => kind.schemaName

def all : List ValueKind :=
  [.string, .boolean, .dateTime, .duration, .base64Binary, .anyUri, .qName]

def ofSchemaName? (name : String) : Option ValueKind :=
  all.find? fun kind => kind.schemaName == name

def ofTableName? (name : String) : Option ValueKind :=
  all.find? fun kind => kind.tableName == name

end ValueKind

end XmlBinding
