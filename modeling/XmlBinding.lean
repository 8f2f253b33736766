import XmlBinding.Catalog.Bundled
import XmlBinding.Element.Reader
import XmlBinding.Element.Writer
import XmlBinding.Proofs.NamespaceSound
import XmlBinding.Proofs.RoundTrip
import XmlBinding.Proofs.Reemission
import XmlBinding.Proofs.Collecting
import XmlBinding.Proofs.FailFast
import XmlBinding.Proofs.Image
import XmlBinding.Proofs.InForce
import XmlBinding.Proofs.InstanceData
import XmlBinding.Proofs.Measure
import XmlBinding.Proofs.Replayed
import XmlBinding.Trust.Configuration
import XmlBinding.Binding.Marshal
import XmlBinding.Binding.Unmarshal
import XmlBinding.Proofs.Loading
import XmlBinding.Proofs.Likeness
import XmlBinding.Proofs.HandedOn
import XmlBinding.Proofs.Blame
import XmlBinding.Proofs.Credentials
import XmlBinding.Proofs.FaultCode
import XmlBinding.Json.Writer
import XmlBinding.Proofs.JsonText
import XmlBinding.Proofs.TableForm
import XmlBinding.Proofs.Base64
import XmlBinding.Proofs.Layers
import XmlBinding.Proofs.Attributes
import XmlBinding.Proofs.LegalNames
import XmlBinding.Proofs.Instant
import XmlBinding.Proofs.Duration
import XmlBinding.Proofs.TypeText
import XmlBinding.Proofs.TableHistory
import XmlBinding.Proofs.PrefixSearch
