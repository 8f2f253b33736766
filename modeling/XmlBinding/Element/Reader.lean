import XmlBinding.Element.Basic
import XmlBinding.Error
import XmlBinding.Markup.Tree

/-!
The element tree of a document. Namespaces are resolved on the way down; the prefix a name gets is
not the one it was written with but the first one bound to its namespace, nearest declarations
first. Declarations that repeat what already holds are dropped.
-/

namespace XmlBinding

namespace Markup

/-- What the attributes of a tag declare, and those that declare nothing. -/
structure SplitTag where
  declared : List Declaration
  attributes : List RawAttribute

/-- Sorts one attribute. The prefix `xml` and its namespace belong to each other alone, and the
namespace of declarations cannot be bound. -/
def sortAttribute (tag : SplitTag) (a : RawAttribute) : Option SplitTag := do
  let localName := String.ofList a.name.localName
  if a.name.nsPrefix = "xmlns".toList then
    let uri := String.ofList (← attributeValue? a.value)
    if uri = xmlnsUri ∨ (localName = "xml" ↔ uri ≠ xmlUri) then none
    else if tag.declared.any (·.nsPrefix == some localName) then none
    else if uri = xmlUri then return tag
    else return { tag with declared := tag.declared ++ [⟨some localName, uri⟩] }
  else if localName = "xmlns" then
    let uri := String.ofList (← attributeValue? a.value)
    if uri = xmlUri ∨ uri = xmlnsUri then none
    else return { tag with declared := tag.declared ++ [⟨none, uri⟩] }
  else return { tag with attributes := tag.attributes ++ [a] }

def splitTag? (attributes : List RawAttribute) : Option SplitTag :=
  attributes.foldlM sortAttribute ⟨[], []⟩

/-- The bindings in force on an element: its own, then those around it that it does not hide. -/
def inForce (declared outer : List Declaration) : List Declaration :=
  if declared.isEmpty then outer
  else
    outer.foldl (fun ds d => if ds.any (·.nsPrefix == d.nsPrefix) then ds else ds ++ [d]) declared

def uriOf? (bindings : List Declaration) (nsPrefix : Option String) : Option String :=
  (bindings.find? fun d => d.nsPrefix == nsPrefix).map (·.uri)

/-- The first prefix bound to a namespace; none also if that binding is the default. -/
def prefixOf? (bindings : List Declaration) (uri : String) : Option String :=
  if uri = xmlUri then some "xml"
  else (bindings.find? fun d => d.uri == uri).bind (·.nsPrefix)

/-- The namespace of an element; none at all if the prefix is unknown. -/
def elementUri? (bindings : List Declaration) (name : RawName) : Option (Option String) :=
  if name.nsPrefix.isEmpty then some (uriOf? bindings none)
  else (uriOf? bindings (some (String.ofList name.nsPrefix))).map some

/-- The namespace of an attribute, which the default does not give. -/
def attributeUri? (bindings : List Declaration) (name : RawName) : Option (Option String) :=
  if name.nsPrefix.isEmpty then some none
  else if name.nsPrefix = "xml".toList then some (some xmlUri)
  else (uriOf? bindings (some (String.ofList name.nsPrefix))).map some

/-- The name that stands for a namespace and a local part where the bindings are in force. -/
def qualified (bindings : List Declaration) (uri : Option String) (localName : List Char) : QName :=
  QName.of uri (String.ofList localName) (uri.bind (prefixOf? bindings))

/-- An attribute with its namespace as written, in which an empty one still differs from none. -/
def resolveAttribute? (bindings : List Declaration) (a : RawAttribute) :
    Option (ExpandedName × QName × String) := do
  let uri ← attributeUri? bindings a.name
  let value ← attributeValue? a.value
  return (⟨uri, String.ofList a.name.localName⟩, qualified bindings uri a.name.localName,
    String.ofList value)

/-- The attributes of an element; none if two have one name. -/
def resolveAttributes? (bindings : List Declaration) (attributes : List RawAttribute) :
    Option (NameTable String) := do
  let resolved ← attributes.mapM (resolveAttribute? bindings)
  if (resolved.map (·.1)).Nodup then return OrderedTable.ofList (resolved.map (·.2)) else none

/-- The declarations that an element keeps: those not in force around it already. -/
def newDeclarations (bindings outer : List Declaration) : List Declaration :=
  (bindings.filter fun d => !outer.contains d).foldl
    (fun ds d => addDeclaration ds (Declaration.of d.nsPrefix d.uri)) []

mutual

/-- The element that a tree denotes among the bindings around it. -/
def Tree.element? (outer : List Declaration) : Tree → Option Element
  | ⟨name, attributes, children⟩ => do
      if name.nsPrefix = "xmlns".toList then none
      let split ← splitTag? attributes
      let bindings := inForce split.declared outer
      let uri ← elementUri? bindings name
      let table ← resolveAttributes? bindings split.attributes
      let nodes ← Piece.nodes? bindings children
      let tag : Tag :=
        ⟨qualified bindings uri name.localName, newDeclarations bindings outer, table⟩
      return ⟨tag, nodes⟩
termination_by structural t => t

def Piece.node? (outer : List Declaration) : Piece → Option Node
  | .text value => some (.text (String.ofList value))
  | .element value => (Tree.element? outer value).map .element
termination_by structural p => p

def Piece.nodes? (outer : List Declaration) : List Piece → Option (List Node)
  | [] => some []
  | piece :: pieces => do
      let node ← Piece.node? outer piece
      let nodes ← Piece.nodes? outer pieces
      return node :: nodes
termination_by structural ps => ps

end

end Markup

/-- Reads a document. -/
def Element.read (text : String) : Except Error Element :=
  match (Markup.tree? text.toList).bind (Markup.Tree.element? []) with
  | some e => .ok e
  | none => .error (.document .notWellFormed)

end XmlBinding
