import XmlBinding.Name.NCName
import XmlBinding.OrderedTable

/-!
Qualified names. What identifies an element, an attribute or a type is the expanded name, the pair
of a namespace and a local part; the prefix is only how the name was or should be written.
-/

namespace XmlBinding

structure ExpandedName where
  uri : Option String
  localName : String
deriving DecidableEq, Inhabited

structure QName where
  expanded : ExpandedName
  nsPrefix : Option String
deriving DecidableEq, Inhabited

/-- An empty text stands for an absent one. -/
def present (s : Option String) : Option String :=
  s.filter (· != "")

namespace QName

/-- Empty namespaces and prefixes are absent. -/
def of (uri : Option String) (localName : String) (nsPrefix : Option String) : QName :=
  ⟨⟨present uri, localName⟩, present nsPrefix⟩

/-- A name in no namespace. -/
def unqualified (localName : String) : QName :=
  ⟨⟨none, localName⟩, none⟩

def prefixed (uri localName nsPrefix : String) : QName :=
  of (some uri) localName (some nsPrefix)

def namespaced (uri localName : String) : QName :=
  of (some uri) localName none

abbrev uri (q : QName) : Option String :=
  q.expanded.uri

abbrev localName (q : QName) : String :=
  q.expanded.localName

/-- The local part is checked before the prefix. -/
def check (q : QName) : Except NameFault Unit := do
  checkNCName q.localName
  match q.nsPrefix with
  | some p => checkNCName p
  | none => .ok ()

def of? (uri : Option String) (localName : String) (nsPrefix : Option String) :
    Except NameFault QName := do
  let q := of uri localName nsPrefix
  q.check
  return q

/-- Equality up to the prefix. -/
def same (a b : QName) : Bool :=
  a.expanded == b.expanded

def withPrefix (q : QName) (nsPrefix : Option String) : QName :=
  of q.uri q.localName nsPrefix

/-- The name as it is written in a document. -/
def prefixedName (q : QName) : String :=
  match q.nsPrefix with
  | some p => s!"{p}:{q.localName}"
  | none => q.localName

/-- The name as it is shown in messages, with its namespace in braces. -/
def display (q : QName) : String :=
  match q.uri with
  | some uri => s!"\x7b{uri}\x7d{q.localName}"
  | none => q.localName

theorem same_iff {a b : QName} : a.same b = true ↔ a.expanded = b.expanded := by
  simp [same]

end QName

/-- Tables whose entries are named up to the prefix. -/
abbrev NameTable (α : Type) := OrderedTable QName.expanded α

end XmlBinding
