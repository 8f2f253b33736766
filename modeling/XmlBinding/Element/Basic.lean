import XmlBinding.Scope

/-!
Element trees: what a document says after parsing. An element keeps the namespace declarations made
on it and its attributes in order; two trees are alike when they differ only in the prefixes of
names and in the order of attributes.
-/

namespace XmlBinding

/-- What the start tag of an element says. -/
structure Tag where
  name : QName
  declarations : List Declaration
  attributes : NameTable String
deriving Inhabited

mutual

structure Element extends Tag where
  children : List Node

inductive Node where
  | text (value : String)
  | element (value : Element)

end

instance : Inhabited Element :=
  ⟨⟨default, []⟩⟩

instance : Inhabited Node :=
  ⟨.text ""⟩

/-- Adds a declaration unless the very same one is there. -/
def addDeclaration (ds : List Declaration) (d : Declaration) : List Declaration :=
  if d ∈ ds then ds else ds ++ [d]

namespace Tag

def ofName (name : QName) : Tag :=
  ⟨name, [], OrderedTable.empty⟩

def attribute? (t : Tag) (name : QName) : Option String :=
  t.attributes.get? name.expanded

/-- An attribute that is there already keeps its place and the prefix it was first set with. -/
def setAttribute (t : Tag) (name : QName) (value : String) : Tag :=
  { t with attributes := t.attributes.put name value }

def declare (t : Tag) (d : Declaration) : Tag :=
  { t with declarations := addDeclaration t.declarations d }

/-- Likeness up to prefixes of names and the order of attributes. -/
def same (a b : Tag) : Bool :=
  a.name.same b.name && a.declarations == b.declarations &&
    a.attributes.sameContent b.attributes

end Tag

namespace Node

def text? : Node → Option String
  | .text value => some value
  | .element _ => none

def element? : Node → Option Element
  | .text _ => none
  | .element value => some value

end Node

namespace Element

def setAttribute (e : Element) (name : QName) (value : String) : Element :=
  { e with toTag := e.toTag.setAttribute name value }

def declare (e : Element) (d : Declaration) : Element :=
  { e with toTag := e.toTag.declare d }

def addChild (e child : Element) : Element :=
  { e with children := e.children ++ [.element child] }

/-- Text after text is joined to it. -/
def appendText (e : Element) (value : String) : Element :=
  match e.children.getLast? with
  | some (.text last) => { e with children := e.children.dropLast ++ [.text (last ++ value)] }
  | _ => { e with children := e.children ++ [.text value] }

def childElements (e : Element) : List Element :=
  e.children.filterMap Node.element?

/-- All the text directly in an element; none if there is no text node. -/
def text? (e : Element) : Option String :=
  match e.children.filterMap Node.text? with
  | [] => none
  | texts => some (String.join texts)

def findChildren (e : Element) (localName : String) : List Element :=
  e.childElements.filter fun child => child.name.localName == localName

end Element

mutual

/-- Likeness of elements is likeness of their tags and of their children, in order. -/
def Element.same : Element → Element → Bool
  | ⟨tag, children⟩, other => tag.same other.toTag && Node.sameAll children other.children
termination_by structural e => e

def Node.same : Node → Node → Bool
  | .text value, .text other => value == other
  | .element value, .element other => Element.same value other
  | _, _ => false
termination_by structural n => n

def Node.sameAll : List Node → List Node → Bool
  | [], [] => true
  | node :: nodes, other :: others => Node.same node other && Node.sameAll nodes others
  | _, _ => false
termination_by structural ns => ns

end

end XmlBinding
