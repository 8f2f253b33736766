import XmlBinding.Object.Basic

/-!
Registries: which descriptor stands for an element name or a type name. A key can be taken once
only; registering a descriptor takes its name and its type name, both or none. A registry may have a
descriptor to fall back on for everything unknown.
-/

namespace XmlBinding

structure Registry where
  types : NameTable TypeDescriptor
  fallback : Option TypeDescriptor
deriving Inhabited

namespace Registry

def empty : Registry :=
  ⟨OrderedTable.empty, none⟩

def withFallback : Registry :=
  ⟨OrderedTable.empty, some .wildcard⟩

def lookup (r : Registry) (key : QName) : Option TypeDescriptor :=
  r.types.get? key.expanded

def contains (r : Registry) (key : QName) : Bool :=
  r.types.contains key.expanded

def keys (r : Registry) : List QName :=
  r.types.items

/-- The registry after registering under several keys, and how that ended. All keys are looked up
before the first one is written. -/
def registerKeys (r : Registry) (keys : List QName) (d : TypeDescriptor) :
    Registry × Except Error Unit :=
  match keys.find? r.contains with
  | some key => (r, .error (.duplicateRegistration key))
  | none => ({ r with types := keys.foldl (fun types key => types.set key d) r.types }, .ok ())

def register (r : Registry) (key : QName) (d : TypeDescriptor) : Registry × Except Error Unit :=
  r.registerKeys [key] d

/-- The names that a descriptor is found under. -/
def keysOf (d : TypeDescriptor) : List QName :=
  match d.typeName with
  | some typeName => if typeName.same d.name then [d.name] else [d.name, typeName]
  | none => [d.name]

def registerType (r : Registry) (d : TypeDescriptor) : Registry × Except Error Unit :=
  match d.check with
  | .ok _ => r.registerKeys (keysOf d) d
  | .error fault => (r, .error (.descriptor fault))

/-- The descriptor taken out, and the registry without its key. -/
def deregister (r : Registry) (key : QName) : Option TypeDescriptor × Registry :=
  (r.lookup key, { r with types := r.types.erase key.expanded })

/-- Registers one type after the other up to the first fault. The registry holds what was registered
before it. -/
def registerTypes (r : Registry) : List TypeDescriptor → Registry × Except Error Unit
  | [] => (r, .ok ())
  | d :: ds =>
      match r.registerType d with
      | (r, .ok _) => r.registerTypes ds
      | (r, .error e) => (r, .error e)

def build? (r : Registry) (key : QName) : Option TypedObject :=
  (r.lookup key).map TypeDescriptor.build

def buildNamed? (r : Registry) (key elementName : QName) : Option TypedObject :=
  (r.lookup key).map fun d => d.buildNamed elementName

end Registry

end XmlBinding
