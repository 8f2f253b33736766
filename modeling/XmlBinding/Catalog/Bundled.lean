import XmlBinding.Catalog.ReqAttr
import XmlBinding.Catalog.Saml2p
import XmlBinding.Catalog.Soap11
import XmlBinding.Catalog.XmlEnc
import XmlBinding.Descriptor.Table

/-!
The catalogs that come with the library, and registering from catalogs and tables. A fault in the
middle leaves what was registered before it.
-/

namespace XmlBinding

def version : String := "0.1.0"

/-- The bundled catalogs in the order in which they are registered. -/
def bundledCatalogs : List (String × Catalog) :=
  [("soap11", Soap11.catalog), ("xmlenc", XmlEnc.catalog), ("reqattr", ReqAttr.catalog),
    ("saml2p", Saml2p.catalog)]

def bundledCatalog? (name : String) : Option Catalog :=
  (bundledCatalogs.find? fun entry => entry.1 == name).map (·.2)

namespace Registry

def registerBundled (r : Registry) : Registry × Except Error Unit :=
  r.registerTypes (bundledCatalogs.flatMap fun entry => entry.2.types)

/-- Registers the types of a table, of which none is registered if the table cannot be read. The
answer is how many there are. -/
def registerTable (r : Registry) (text : String) : Registry × Except Error Nat :=
  match TypeDescriptor.readTable text with
  | .error fault => (r, .error (.descriptor fault))
  | .ok ds =>
      let (r, result) := r.registerTypes ds
      (r, result.map fun _ => ds.length)

end Registry

def Suite.registerBundled (s : Suite) : Suite :=
  s.registerAll (bundledCatalogs.flatMap fun entry => entry.2.rules)

end XmlBinding
