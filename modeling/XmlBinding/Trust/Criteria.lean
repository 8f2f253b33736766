import XmlBinding.Text.Quoted

/-!
What is asked of the peer of a connection, and the credential by which a party is known.
-/

namespace XmlBinding

inductive Criterion where
  | entityId (value : String)
  | peerEntityId (value : String)
  | serverName (value : String)
  | keyLength (bits : Nat)
  | other (name value : String)
deriving DecidableEq, Inhabited

def Criterion.describe : Criterion → String
  | .entityId value => s!"EntityId({Text.quoted value})"
  | .peerEntityId value => s!"PeerEntityId({Text.quoted value})"
  | .serverName value => s!"ServerName({Text.quoted value})"
  | .keyLength bits => s!"KeyLength({bits})"
  | .other name value =>
      Text.described "Other" [("name", Text.quoted name), ("value", Text.quoted value)]

/-- Criteria in the order in which they were first added. -/
structure Criteria where
  items : List Criterion
deriving DecidableEq, Inhabited

namespace Criteria

def empty : Criteria :=
  ⟨[]⟩

/-- A criterion is there once at most. -/
def add (c : Criteria) (item : Criterion) : Criteria :=
  if item ∈ c.items then c else ⟨c.items ++ [item]⟩

def ofList (items : List Criterion) : Criteria :=
  items.foldl add empty

def contains (c : Criteria) (item : Criterion) : Bool :=
  c.items.contains item

def describe (c : Criteria) : String :=
  let items := String.intercalate ", " (c.items.map Criterion.describe)
  Text.described "CriteriaSet" [("criteria", s!"[{items}]")]

end Criteria

/-- Certificates, that of the party itself first, and perhaps the key that goes with it. -/
structure X509Credential where
  entityId : Option String
  certificates : List (List UInt8)
  privateKey : Option (List UInt8)
deriving DecidableEq, Inhabited

/-- A description that does not give the key away. -/
def X509Credential.describe (c : X509Credential) : String :=
  Text.described "X509Credential"
    [("entity_id", Text.quotedOption c.entityId), ("certificates", toString c.certificates.length),
      ("private_key", Text.quotedOption (c.privateKey.map fun _ => "<redacted>"))]

end XmlBinding
