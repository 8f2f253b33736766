import XmlBinding.Registry.Basic
import XmlBinding.Validation.Suite

/-!
Catalogs: the types of a vocabulary, ready to be registered, and the rules for them.
-/

namespace XmlBinding

structure Catalog where
  types : List TypeDescriptor
  rules : List (QName × Rule)

end XmlBinding
