import XmlBinding.Name.QName

/-!
Namespace scopes: which prefixes, and which default, are bound to which namespace at a place in a
document. A scope grows by declarations; a later declaration of a prefix hides the earlier one but
keeps its place in the order. The prefix `xml` is always bound.
-/

namespace XmlBinding

def xmlUri : String := "http://www.w3.org/XML/1998/namespace"

def xmlnsUri : String := "http://www.w3.org/2000/xmlns/"

def schemaUri : String := "http://www.w3.org/2001/XMLSchema"

def instanceUri : String := "http://www.w3.org/2001/XMLSchema-instance"

def instancePrefix : String := "xsi"

/-- One namespace declaration; without a prefix it sets the default. -/
structure Declaration where
  nsPrefix : Option String
  uri : String
deriving DecidableEq, Inhabited

def Declaration.of (nsPrefix : Option String) (uri : String) : Declaration :=
  ⟨present nsPrefix, uri⟩

/-- Why a prefixed name has no meaning in a scope. -/
inductive ResolveFault where
  | unknownPrefix (nsPrefix : String)
  | badName (fault : NameFault)

structure Scope where
  bindings : OrderedTable (id : String → String) String
  defaultUri : Option String
deriving Inhabited

namespace Scope

def empty : Scope :=
  ⟨OrderedTable.empty, none⟩

def bindPrefix (s : Scope) (nsPrefix uri : String) : Scope :=
  { s with bindings := s.bindings.set nsPrefix uri }

/-- The empty namespace takes the default away. -/
def setDefault (s : Scope) (uri : String) : Scope :=
  { s with defaultUri := present (some uri) }

def declare (s : Scope) (d : Declaration) : Scope :=
  match d.nsPrefix with
  | some p => s.bindPrefix p d.uri
  | none => s.setDefault d.uri

def declareAll (s : Scope) (ds : List Declaration) : Scope :=
  ds.foldl declare s

def ofDeclarations (ds : List Declaration) : Scope :=
  empty.declareAll ds

def prefixUri (s : Scope) (nsPrefix : String) : Option String :=
  if nsPrefix = "xml" then some xmlUri else s.bindings.get? nsPrefix

/-- The namespace that a prefix, or its absence, stands for. -/
def lookup (s : Scope) : Option String → Option String
  | some p => s.prefixUri p
  | none => s.defaultUri

def isBound (s : Scope) (nsPrefix uri : Option String) : Bool :=
  s.lookup nsPrefix == uri

/-- The prefix that was first bound last among those now bound to a namespace. -/
def findPrefix (s : Scope) (uri : String) : Option String :=
  if uri = xmlUri then some "xml"
  else (s.bindings.entries.reverse.find? fun e => e.2 == uri).map (·.1)

/-- The name that a text with an optional prefix denotes. -/
def resolve (s : Scope) (text : String) : Except ResolveFault QName :=
  match splitColon text with
  | (some p, after) =>
      match s.prefixUri p with
      | some uri => (QName.of? (some uri) after (some p)).mapError .badName
      | none => .error (.unknownPrefix p)
  | (none, whole) => (QName.of? s.defaultUri whole none).mapError .badName

end Scope

end XmlBinding
