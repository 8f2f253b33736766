import XmlBinding.Uri.Address

/-!
Absolute URIs. Schemes that are special (`http` and its kind, and `file`) always have an authority
and a path; other schemes may have a path that is no hierarchy. All parts are kept as they are
written: percent-encoded, with dot segments resolved and default ports left out.
-/

namespace XmlBinding

inductive Uri.Host where
  | name (text : List Char)
  | address4 (n : Nat)
  | address6 (groups : List Nat)
deriving DecidableEq

structure Uri.Authority where
  username : List Char
  password : List Char
  host : Uri.Host
  port : Option Nat
deriving DecidableEq

inductive Uri.Path where
  | plain (text : List Char)
  | segments (parts : List (List Char))
deriving DecidableEq

structure Uri where
  scheme : List Char
  authority : Option Uri.Authority
  path : Uri.Path
  query : Option (List Char)
  fragment : Option (List Char)
deriving DecidableEq

namespace Uri

/-- Why a text is not an absolute URI. -/
inductive Fault where
  | emptyHost
  | domainName
  | port
  | address4
  | address6
  | domainCharacter
  | relative

def Fault.message : Fault → String
  | .emptyHost => "empty host"
  | .domainName => "invalid international domain name"
  | .port => "invalid port number"
  | .address4 => "invalid IPv4 address"
  | .address6 => "invalid IPv6 address"
  | .domainCharacter => "invalid domain character"
  | .relative => "relative URL without a base"

inductive SchemeKind where
  | file
  | special
  | other
deriving DecidableEq

def defaultPort? (scheme : List Char) : Option Nat :=
  match String.ofList scheme with
  | "http" | "ws" => some 80
  | "https" | "wss" => some 443
  | "ftp" => some 21
  | _ => none

def schemeKind (scheme : List Char) : SchemeKind :=
  if scheme = ['f', 'i', 'l', 'e'] then .file
  else if (defaultPort? scheme).isSome then .special
  else .other

def Host.chars : Host → List Char
  | .name text => text
  | .address4 n => address4Chars n
  | .address6 groups => '[' :: address6Chars groups ++ [']']

def Authority.chars (a : Authority) : List Char :=
  let password := if a.password.isEmpty then [] else ':' :: a.password
  let user :=
    if a.username.isEmpty ∧ a.password.isEmpty then [] else a.username ++ password ++ ['@']
  let port := match a.port with
    | some n => ':' :: Nat.toDigits 10 n
    | none => []
  user ++ a.host.chars ++ port

/-- The characters of a path. Without an authority it cannot start with two slashes, so a dot
segment is put before them. -/
def Path.chars (hasAuthority : Bool) : Path → List Char
  | .plain text => text
  | .segments parts =>
      let text := parts.flatMap ('/' :: ·)
      match parts with
      | [] :: _ :: _ => if hasAuthority then text else '/' :: '.' :: text
      | _ => text

def chars (u : Uri) : List Char :=
  let authority := match u.authority with
    | some a => '/' :: '/' :: a.chars
    | none => []
  let query := match u.query with
    | some text => '?' :: text
    | none => []
  let fragment := match u.fragment with
    | some text => '#' :: text
    | none => []
  u.scheme ++ ':' :: authority ++ u.path.chars u.authority.isSome ++ query ++ fragment

def write (u : Uri) : String :=
  String.ofList u.chars

end Uri

end XmlBinding
