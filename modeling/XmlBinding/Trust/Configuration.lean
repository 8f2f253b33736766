import XmlBinding.Error
import XmlBinding.Trust.Credentials
import XmlBinding.Trust.Criteria

/-!
Security configurations: the parameters of secured connections, each of which may be left open.
Configurations are resolved in layers; every parameter comes from the first layer that has it.
Collaborators are shared and may change, so a configuration holds references of some type to them.
-/

namespace XmlBinding

/-- A provider that others share, or one of the configuration's own. -/
inductive ProviderRef (ρ : Type) where
  | shared (ref : ρ)
  | own (provider : CredentialsProvider)

/-- The parameters; `ρ` is the type of references to shared collaborators. -/
structure Configuration (ρ : Type) where
  credentialsProvider : Option (ProviderRef ρ) := none
  authCache : Option ρ := none
  trustEngine : Option ρ := none
  criteria : Option Criteria := none
  protocols : Option (List String) := none
  cipherSuites : Option (List String) := none
  hostnameVerifier : Option ρ := none
  clientCredential : Option ρ := none

namespace Configuration

variable {ρ : Type}

def empty : Configuration ρ :=
  {}

/-- Trimmed texts that are not blank; none at all if none is left. -/
def nonBlank (texts : Option (List String)) : Option (List String) :=
  (texts.map fun texts => (texts.map Text.trim).filter (· != "")).filter fun texts =>
    !texts.isEmpty

def withProtocols (c : Configuration ρ) (texts : Option (List String)) : Configuration ρ :=
  { c with protocols := nonBlank texts }

def withCipherSuites (c : Configuration ρ) (texts : Option (List String)) : Configuration ρ :=
  { c with cipherSuites := nonBlank texts }

/-- Sets a provider that knows one entry. -/
def withBasicCredentials (c : Configuration ρ) (credentials : Option Credentials)
    (scope : AuthScope) : Configuration ρ :=
  { c with
    credentialsProvider :=
      credentials.map fun credentials => .own (CredentialsProvider.empty.set scope credentials) }

def isEmpty (c : Configuration ρ) : Bool :=
  c.credentialsProvider.isNone && c.authCache.isNone && c.trustEngine.isNone &&
    c.criteria.isNone && c.protocols.isNone && c.cipherSuites.isNone &&
    c.hostnameVerifier.isNone && c.clientCredential.isNone

/-- The first present value of a parameter. -/
def first {α : Type} (layers : List (Configuration ρ)) (field : Configuration ρ → Option α) :
    Option α :=
  layers.findSome? field

/-- Resolves layers, at least one; criteria that are given count before those of any layer. -/
def resolve (layers : List (Configuration ρ)) (criteria : Option Criteria) :
    Except Error (Configuration ρ) :=
  if layers.isEmpty then .error (.security .noConfiguration)
  else
    let resolved : Configuration ρ :=
      { credentialsProvider := first layers (·.credentialsProvider)
        authCache := first layers (·.authCache)
        trustEngine := first layers (·.trustEngine)
        criteria := criteria.or (first layers (·.criteria))
        hostnameVerifier := first layers (·.hostnameVerifier)
        clientCredential := first layers (·.clientCredential) }
    .ok ((resolved.withProtocols (first layers (·.protocols))).withCipherSuites
      (first layers (·.cipherSuites)))

def describeList : Option (List String) → String
  | some texts => s!"Some({Text.quotedList texts})"
  | none => "None"

def describeCriteria : Option Criteria → String
  | some criteria => s!"Some({criteria.describe})"
  | none => "None"

/-- A description that tells of collaborators only whether they are there. -/
def describe (c : Configuration ρ) : String :=
  Text.described "SecurityConfiguration"
    [("credentials_provider", toString c.credentialsProvider.isSome),
      ("auth_cache", toString c.authCache.isSome),
      ("tls_trust_engine", toString c.trustEngine.isSome),
      ("tls_criteria_set", describeCriteria c.criteria),
      ("tls_protocols", describeList c.protocols),
      ("tls_cipher_suites", describeList c.cipherSuites),
      ("hostname_verifier", toString c.hostnameVerifier.isSome),
      ("client_tls_credential", toString c.clientCredential.isSome)]

end Configuration

end XmlBinding
