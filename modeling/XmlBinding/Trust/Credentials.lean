import XmlBinding.OrderedTable
import XmlBinding.Text.Quoted

/-!
Credentials for servers. A provider holds them by scope, and answers with those of the scope that
says most about a target among those that match it: a host says more than a port, a port more than a
realm, a realm more than a scheme. Of scopes that say the same, the one set first counts.
-/

namespace XmlBinding

structure Credentials where
  username : String
  password : String
deriving DecidableEq, Inhabited

/-- A description that does not give the password away. -/
def Credentials.describe (c : Credentials) : String :=
  Text.described "UsernamePasswordCredentials"
    [("username", Text.quoted c.username), ("password", Text.quoted "<redacted>")]

/-- What is known of a server; a part that is absent matches everything. -/
structure AuthScope where
  host : Option String
  port : Option Nat
  realm : Option String
  scheme : Option String
deriving DecidableEq, Inhabited

namespace AuthScope

def anything : AuthScope :=
  ⟨none, none, none, none⟩

/-- The small letters of a host name; hosts are compared by them. -/
def foldHost (host : String) : String :=
  String.ofList (host.toList.map Char.toLower)

/-- What a part of a scope adds to the score against a target; none if it does not match. -/
def partScore {α : Type} [DecidableEq α] (weight : Nat) : Option α → Option α → Option Nat
  | none, _ => some 0
  | some a, some b => if a = b then some weight else none
  | some _, none => none

/-- How much a stored scope says about a target; none if it does not match. -/
def score? (stored target : AuthScope) : Option Nat := do
  let host ← partScore 8 (stored.host.map foldHost) (target.host.map foldHost)
  let port ← partScore 4 stored.port target.port
  let realm ← partScore 2 stored.realm target.realm
  let scheme ← partScore 1 stored.scheme target.scheme
  return host + port + realm + scheme

end AuthScope

structure CredentialsProvider where
  entries : OrderedTable (id : AuthScope → AuthScope) Credentials
deriving Inhabited

namespace CredentialsProvider

def empty : CredentialsProvider :=
  ⟨OrderedTable.empty⟩

/-- A scope that is stored already keeps its rank. -/
def set (p : CredentialsProvider) (scope : AuthScope) (credentials : Credentials) :
    CredentialsProvider :=
  ⟨p.entries.set scope credentials⟩

/-- The better of two candidates; the earlier one if they are equally good. -/
def better (a b : Nat × Credentials) : Nat × Credentials :=
  if a.1 < b.1 then b else a

/-- The best candidate among scored entries. -/
def best? : List (Nat × Credentials) → Option (Nat × Credentials)
  | [] => none
  | first :: rest => some (rest.foldl better first)

def candidates (p : CredentialsProvider) (target : AuthScope) : List (Nat × Credentials) :=
  p.entries.entries.filterMap fun e => (e.1.score? target).map fun score => (score, e.2)

def credentials? (p : CredentialsProvider) (target : AuthScope) : Option Credentials :=
  (best? (p.candidates target)).map (·.2)

end CredentialsProvider

/-- Which scheme a host asked for last. -/
structure SchemeCache where
  schemes : OrderedTable AuthScope.foldHost String
deriving Inhabited

namespace SchemeCache

def empty : SchemeCache :=
  ⟨OrderedTable.empty⟩

def put (c : SchemeCache) (host scheme : String) : SchemeCache :=
  ⟨c.schemes.set host scheme⟩

def get? (c : SchemeCache) (host : String) : Option String :=
  c.schemes.get? (AuthScope.foldHost host)

def remove (c : SchemeCache) (host : String) : SchemeCache :=
  ⟨c.schemes.erase (AuthScope.foldHost host)⟩

end SchemeCache

end XmlBinding
