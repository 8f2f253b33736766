import XmlBinding.Lexical.Check

/-!
Values that are kept as text and read when they are asked for. Every type of value lives in the
lexical space of one simple type; truth values may be asked for with or without their spelling.
-/

namespace XmlBinding

inductive ValueType where
  | string
  | truth
  | bool
  | instant
  | bytes
  | uri
deriving DecidableEq, Inhabited

inductive Value where
  | string (value : String)
  | truth (value : Truth)
  | bool (value : Bool)
  | instant (value : Instant)
  | bytes (value : List UInt8)
  | uri (value : Uri)

def ValueType.kind : ValueType → ValueKind
  | .string => .string
  | .truth | .bool => .boolean
  | .instant => .dateTime
  | .bytes => .base64Binary
  | .uri => .anyUri

/-- Reads a value. A URI must be absolute here. -/
def ValueType.read (type : ValueType) (text : String) : Except LexicalFault Value :=
  match type with
  | .string => .ok (.string text)
  | .truth => (readTruth text).map .truth
  | .bool => (readTruth text).map fun truth => .bool truth.value
  | .instant => ((Instant.read text).mapError .dateTime).map .instant
  | .bytes => ((Base64.read text).mapError .base64).map .bytes
  | .uri => ((Uri.read (Text.trim text)).mapError .uri).map .uri

def Value.write : Value → String
  | .string value => value
  | .truth value => value.write
  | .bool value => (Truth.word value).write
  | .instant value => value.write
  | .bytes value => Base64.write value
  | .uri value => value.write

end XmlBinding
