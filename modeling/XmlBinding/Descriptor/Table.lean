import XmlBinding.Descriptor.Basic
import XmlBinding.Json.Parser

/-!
Descriptors as JSON data. A record is an object, or an array of its fields in order; unknown fields
are passed over, repeated ones refused, and fields with a default may be left out. Names are checked
as soon as they are complete. Main types are written in the form with objects.
-/

namespace XmlBinding

namespace Table

abbrev Decoded (α : Type) := Except TableFault α

def malformed {α : Type} : Decoded α :=
  .error .malformed

def text : Json → Decoded String
  | .string (some value) => .ok value
  | _ => malformed

/-- A value that may be null. -/
def nullable {α : Type} (decode : Json → Decoded α) : Json → Decoded (Option α)
  | .null => .ok none
  | value => (decode value).map some

def bool : Json → Decoded Bool
  | .bool value => .ok value
  | _ => malformed

/-- Fills a field that must still be empty. -/
def fill {α : Type} (field : Option α) (decode : Json → Decoded α) (value : Json) :
    Decoded (Option α) :=
  if field.isSome then malformed else (decode value).map some

/-- A value that counts for nothing must still be intact. -/
def ignore (value : Json) : Decoded Unit :=
  if value.intact then .ok () else malformed

/-- The first item of an array and those after it. -/
def item {α : Type} (decode : Json → Decoded α) : List Json → Decoded (α × List Json)
  | [] => malformed
  | value :: rest => do
      let x ← decode value
      return (x, rest)

/-- The first item of an array, with a default for an array that ends before it. -/
def itemOr {α : Type} (default : α) (decode : Json → Decoded α) :
    List Json → Decoded (α × List Json)
  | [] => .ok (default, [])
  | items => item decode items

def noMore (items : List Json) : Decoded Unit :=
  if items.isEmpty then .ok () else malformed

structure NameFields where
  uri : Option (Option String)
  localName : Option String
  nsPrefix : Option (Option String)

def NameFields.add (f : NameFields) (member : Option String × Json) : Decoded NameFields := do
  match member with
  | (some "namespace", value) => return { f with uri := ← fill f.uri (nullable text) value }
  | (some "local_name", value) => return { f with localName := ← fill f.localName text value }
  | (some "prefix", value) => return { f with nsPrefix := ← fill f.nsPrefix (nullable text) value }
  | (some _, value) => do
      ignore value
      return f
  | (none, _) => malformed

def checkedName (uri : Option String) (localName : String) (nsPrefix : Option String) :
    Decoded QName :=
  (QName.of? uri localName nsPrefix).mapError .badName

/-- Only objects may leave the namespace and the prefix out. -/
def qName : Json → Decoded QName
  | .object members => do
      let f ← members.foldlM NameFields.add ⟨none, none, none⟩
      match f.localName with
      | some localName => checkedName f.uri.join localName f.nsPrefix.join
      | none => malformed
  | .array items => do
      let (uri, items) ← item (nullable text) items
      let (localName, items) ← item text items
      let (nsPrefix, items) ← item (nullable text) items
      noMore items
      checkedName uri localName nsPrefix
  | _ => malformed

/-- The name of a variant without data, alone or as the one key of an object. -/
def variantName : Json → Decoded String
  | .string (some name) => .ok name
  | .object [(some name, .null)] => .ok name
  | _ => malformed

def valueKind (value : Json) : Decoded ValueKind := do
  match ValueKind.ofTableName? (← variantName value) with
  | some kind => return kind
  | none => malformed

def contentModel : Json → Decoded ContentModel
  | .object [(some "simple", value)] => (valueKind value).map .simple
  | value => do
      match ← variantName value with
      | "empty" => return .empty
      | "complex" => return .complex
      | "mixed" => return .mixed
      | _ => malformed

structure SpecFields where
  name : Option QName
  kind : Option ValueKind
  required : Option Bool

def SpecFields.add (f : SpecFields) (member : Option String × Json) : Decoded SpecFields := do
  match member with
  | (some "name", value) => return { f with name := ← fill f.name qName value }
  | (some "kind", value) => return { f with kind := ← fill f.kind valueKind value }
  | (some "required", value) => return { f with required := ← fill f.required bool value }
  | (some _, value) => do
      ignore value
      return f
  | (none, _) => malformed

/-- Attributes are optional strings unless the table says otherwise. -/
def attributeSpec : Json → Decoded AttributeSpec
  | .object members => do
      let f ← members.foldlM SpecFields.add ⟨none, none, none⟩
      match f.name with
      | some name => return ⟨name, f.kind.getD .string, f.required.getD false⟩
      | none => malformed
  | .array items => do
      let (name, items) ← item qName items
      let (kind, items) ← itemOr .string valueKind items
      let (required, items) ← itemOr false bool items
      noMore items
      return ⟨name, kind, required⟩
  | _ => malformed

def list {α : Type} (decode : Json → Decoded α) : Json → Decoded (List α)
  | .array items => items.mapM decode
  | _ => malformed

structure TypeFields where
  name : Option QName
  typeName : Option (Option QName)
  attributes : Option (List AttributeSpec)
  content : Option ContentModel

def TypeFields.add (f : TypeFields) (member : Option String × Json) : Decoded TypeFields := do
  match member with
  | (some "name", value) => return { f with name := ← fill f.name qName value }
  | (some "type_name", value) =>
      return { f with typeName := ← fill f.typeName (nullable qName) value }
  | (some "attributes", value) =>
      return { f with attributes := ← fill f.attributes (list attributeSpec) value }
  | (some "content", value) => return { f with content := ← fill f.content contentModel value }
  | (some _, value) => do
      ignore value
      return f
  | (none, _) => malformed

/-- Types have complex content and no attributes unless the table says otherwise. -/
def typeDescriptor : Json → Decoded TypeDescriptor
  | .object members => do
      let f ← members.foldlM TypeFields.add ⟨none, none, none, none⟩
      match f.name with
      | some name =>
          return ⟨name, f.typeName.join, f.attributes.getD [], f.content.getD .complex⟩
      | none => malformed
  | .array items => do
      let (name, items) ← item qName items
      let (typeName, items) ← itemOr none (nullable qName) items
      let (attributes, items) ← itemOr [] (list attributeSpec) items
      let (content, items) ← itemOr .complex contentModel items
      noMore items
      return ⟨name, typeName, attributes, content⟩
  | _ => malformed

end Table

def QName.toJson (q : QName) : Json :=
  .record [("namespace", .textOrNull q.uri), ("local_name", .text q.localName),
    ("prefix", .textOrNull q.nsPrefix)]

def ContentModel.toJson : ContentModel → Json
  | .empty => .text "empty"
  | .simple kind => .record [("simple", .text kind.tableName)]
  | .complex => .text "complex"
  | .mixed => .text "mixed"

def AttributeSpec.toJson (spec : AttributeSpec) : Json :=
  .record [("name", spec.name.toJson), ("kind", .text spec.kind.tableName),
    ("required", .bool spec.required)]

namespace TypeDescriptor

def toJson (d : TypeDescriptor) : Json :=
  .record [("name", d.name.toJson), ("type_name", (d.typeName.map QName.toJson).getD .null),
    ("attributes", .array (d.attributes.map AttributeSpec.toJson)), ("content", d.content.toJson)]

def tableToJson (ds : List TypeDescriptor) : Json :=
  .array (ds.map toJson)

/-- Checks every descriptor of a table. -/
def checkAll (ds : List TypeDescriptor) : Except DescriptorFault (List TypeDescriptor) := do
  ds.forM check
  return ds

/-- The descriptors of a table; `whole` says whether its text ended with it. -/
def ofTable (table : Json) (whole : Bool) : Except DescriptorFault (List TypeDescriptor) := do
  let ds ← (Table.list Table.typeDescriptor table).mapError .table
  if whole then checkAll ds else throw (.table .malformed)

/-- Reads a table of descriptors. -/
def readTable (s : String) : Except DescriptorFault (List TypeDescriptor) :=
  let (table, whole) := Json.parse s
  ofTable table whole

end TypeDescriptor

end XmlBinding
