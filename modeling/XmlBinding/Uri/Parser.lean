import XmlBinding.Domain.Name
import XmlBinding.Text.Blank
import XmlBinding.Uri.Basic

/-!
Reading absolute URIs as browsers do: leniently, with a canonical result. Control characters and
spaces around the text are dropped, and breaks (tabs and line ends) anywhere. Hosts of special
schemes are lower-cased ASCII names or addresses; backslashes separate there like slashes.

A break shows in one place only: behind the drive that opens the path of a file, it ends the segment
where more of it follows. So the text of a file URI keeps its breaks until its path is split.
-/

namespace XmlBinding.Uri

def isBreak (c : Char) : Bool :=
  c == '\t' || c == '\n' || c == '\r'

def skipBreaks (cs : List Char) : List Char :=
  cs.dropWhile isBreak

def dropBreaks (cs : List Char) : List Char :=
  cs.filter fun c => !isBreak c

/-- The text without the control characters and spaces around it. -/
def trimEnds (cs : List Char) : List Char :=
  Text.dropEnds (fun c => decide (c.toNat ≤ 0x20)) cs

/-- The text without what counts for nothing in it. -/
def strip (cs : List Char) : List Char :=
  dropBreaks (trimEnds cs)

def isSchemePart (c : Char) : Bool :=
  c.isAlphanum || c == '+' || c == '-' || c == '.'

/-- The scheme in small letters and what follows its colon. -/
def scheme? (cs : List Char) : Option (List Char × List Char) :=
  match cs with
  | [] => none
  | c :: _ =>
      match cs.takeWhile isSchemePart, cs.dropWhile isSchemePart with
      | scheme, ':' :: rest => if c.isAlpha then some (scheme.map (·.toLower), rest) else none
      | _, _ => none

def isSlash (kind : SchemeKind) (c : Char) : Bool :=
  c == '/' || (kind != .other && c == '\\')

def endsPath (c : Char) : Bool :=
  c == '?' || c == '#'

/-- A character that ends the authority. -/
def endsAuthority (kind : SchemeKind) (c : Char) : Bool :=
  isSlash kind c || endsPath c

/-- Username and password, which the first colon parts. -/
def user (text : List Char) : List Char × List Char :=
  let username := text.takeWhile (· != ':')
  let password := (text.dropWhile (· != ':')).drop 1
  (encode encodedInUserInfo username, encode encodedInUserInfo password)

/-- Username, password and the text after the last `@` of the authority. -/
def readUser (kind : SchemeKind) (cs : List Char) :
    Except Fault ((List Char × List Char) × List Char) :=
  let authority := cs.takeWhile fun c => !endsAuthority kind c
  let rest := cs.dropWhile fun c => !endsAuthority kind c
  match Text.cutLast (· == '@') authority with
  | none => .ok (([], []), cs)
  | some (userText, host) =>
      if userText.isEmpty && host.isEmpty && !rest.isEmpty then .error .emptyHost
      else .ok (user userText, host ++ rest)

/-- The host text ends at a colon outside brackets. -/
def hostText (kind : SchemeKind) (inBrackets : Bool) : List Char → List Char × List Char
  | [] => ([], [])
  | c :: rest =>
      if (c == ':' && !inBrackets) || endsAuthority kind c then ([], c :: rest)
      else
        let inBrackets := if c = '[' then true else if c = ']' then false else inBrackets
        let (text, rest) := hostText kind inBrackets rest
        (c :: text, rest)

/-- What no name of a host may hold. -/
def forbiddenInDomain (c : Char) : Bool :=
  decide (c.toNat ≤ 0x20) || decide (0x7F ≤ c.toNat) ||
    ['%', '#', '/', ':', '<', '>', '?', '@', '[', '\\', ']', '^', '|'].contains c

/-- What no host may hold where the scheme is not special. -/
def forbiddenInHost (c : Char) : Bool :=
  ['\x00', '\t', '\n', '\r', ' ', '#', '/', ':', '<', '>', '?', '@', '[', '\\', ']', '^',
    '|'].contains c

def readBrackets (text : List Char) : Except Fault Host :=
  if text.getLast? = some ']' then
    match address6? text.dropLast with
    | some groups => .ok (.address6 groups)
    | none => .error .address6
  else .error .address6

/-- A host of a special scheme. A name in ASCII is taken as it stands, but for capital letters. Any
other name would have to be mapped to one in ASCII first, by a table of the standard for such names
that has an entry for nearly every character; it is left out, and these names are refused. -/
def readDomain (text : List Char) : Except Fault Host :=
  match text with
  | '[' :: rest => readBrackets rest
  | _ =>
      match decodeAscii? text with
      | none => .error .domainName
      | some decoded =>
          if decoded.any forbiddenInDomain then .error .domainName
          else if decoded.isEmpty then .error .emptyHost
          else
            let name := decoded.map (·.toLower)
            if !Domain.isName name then .error .domainName
            else if endsInNumber name then
              match address4? name with
              | some n => .ok (.address4 n)
              | none => .error .address4
            else .ok (.name name)

/-- A host of a scheme that is not special. -/
def readPlainHost (text : List Char) : Except Fault Host :=
  match text with
  | '[' :: rest => readBrackets rest
  | _ =>
      if text.any forbiddenInHost then .error .domainCharacter
      else .ok (.name (encode isControl text))

/-- A port ends with the authority; the default port of the scheme is left out. -/
def readPort (scheme : List Char) (cs : List Char) : Except Fault (Option Nat × List Char) :=
  let digits := cs.takeWhile Char.isDigit
  let rest := cs.dropWhile Char.isDigit
  let port := Text.numberOf digits
  if port > 65535 then .error .port
  else
    match rest with
    | [] => .ok (chosen port digits, rest)
    | c :: _ =>
        if c == '/' || c == '\\' || endsPath c then .ok (chosen port digits, rest)
        else .error .port
where
  chosen (port : Nat) (digits : List Char) : Option Nat :=
    if digits.isEmpty ∨ defaultPort? scheme = some port then none else some port

def Host.isEmpty : Host → Bool
  | .name text => text.isEmpty
  | _ => false

def readAuthority (scheme : List Char) (cs : List Char) :
    Except Fault (Authority × List Char) := do
  let kind := schemeKind scheme
  let ((username, password), cs) ← readUser kind cs
  let (text, rest) := hostText kind false cs
  if kind = .special ∧ text.isEmpty then throw .emptyHost
  let host ← if kind = .special then readDomain text else readPlainHost text
  if host.isEmpty && rest.head? == some ':' then throw .emptyHost
  let (port, rest) ← match rest with
    | ':' :: rest => readPort scheme rest
    | _ => .ok (none, rest)
  if host.isEmpty && !(username.isEmpty && password.isEmpty) then throw .emptyHost
  return (⟨username, password, host, port⟩, rest)

/-- A letter with a colon or a bar, as old systems name drives. -/
def isDrive : List Char → Bool
  | [letter, mark] => letter.isAlpha && (mark == ':' || mark == '|')
  | _ => false

/-- A drive, alone or in front of a backslash. -/
def opensWithDrive : List Char → Bool
  | letter :: mark :: rest => isDrive [letter, mark] && (rest.isEmpty || rest.head? == some '\\')
  | _ => false

/-- The segments before one of two dots. A drive stays. -/
def parent (done : List (List Char)) : List (List Char) :=
  match done.getLast? with
  | some last => if opensWithDrive last then done else done.dropLast
  | none => done

def isSingleDot (segment : List Char) : Bool :=
  String.ofList (segment.map (·.toLower)) ∈ [".", "%2e"]

def isDoubleDot (segment : List Char) : Bool :=
  String.ofList (segment.map (·.toLower)) ∈ ["..", "%2e%2e", "%2e.", ".%2e"]

/-- A drive that a break parts from what follows it in its segment. -/
def brokenDrive? (segment : List Char) : Option (List Char × List Char) :=
  match skipBreaks segment with
  | [] => none
  | letter :: rest =>
      match skipBreaks rest with
      | ':' :: c :: rest =>
          let more := dropBreaks rest
          if letter.isAlpha && isBreak c && !more.isEmpty then some ([letter, ':'], more) else none
      | _ => none

/-- Adds the segments of a path to those before them, resolving dots. A drive counts only as the
first segment of a file path; the answer also says whether such a drive stood there alone. -/
def addSegments (kind : SchemeKind) (done : List (List Char)) (drive : Bool) :
    List (List Char) → List (List Char) × Bool
  | [] => (done, drive)
  | raw :: rest =>
      let segment := encode encodedInPath (dropBreaks raw)
      let closing : List (List Char) := if rest.isEmpty then [[]] else []
      let first := kind == .file && done.isEmpty
      if isDoubleDot segment then addSegments kind (parent done ++ closing) drive rest
      else if isSingleDot segment then addSegments kind (done ++ closing) drive rest
      else if first && isDrive segment then
        addSegments kind [segment.take 1 ++ [':']] true rest
      else
        match if first then brokenDrive? raw else none with
        | some (driveName, more) =>
            addSegments kind [driveName, encode encodedInPath more] drive rest
        | none => addSegments kind (done ++ [segment]) drive rest

/-- Paths of files do not start with empty segments. -/
def dropEmptySegments : List (List Char) → List (List Char)
  | [] :: next :: rest => dropEmptySegments (next :: rest)
  | parts => parts

def pathOf (kind : SchemeKind) (cs : List Char) : List (List Char) × Bool :=
  let (parts, drive) := addSegments kind [] false (Text.splitOn (isSlash kind) cs)
  if kind = .file then (dropEmptySegments parts, drive) else (parts, drive)

def queryOf (kind : SchemeKind) (cs : List Char) : List Char :=
  encode (if kind = .other then encodedInQuery else encodedInSpecialQuery) cs

/-- Query and fragment, at the start of which the text stands. -/
def tails (kind : SchemeKind) : List Char → Option (List Char) × Option (List Char)
  | '?' :: rest =>
      let query := queryOf kind (rest.takeWhile (· != '#'))
      match rest.dropWhile (· != '#') with
      | [] => (some query, none)
      | _ :: fragment => (some query, some (encode encodedInFragment fragment))
  | '#' :: fragment => (none, some (encode encodedInFragment fragment))
  | _ => (none, none)

/-- What follows a slash at the start of the text. -/
def afterSlash? (kind : SchemeKind) (cs : List Char) : Option (List Char) :=
  match skipBreaks cs with
  | [] => none
  | c :: rest => if isSlash kind c then some rest else none

def dropSlash (kind : SchemeKind) (cs : List Char) : List Char :=
  (afterSlash? kind cs).getD cs

/-- Splits off the path in front of a query and a fragment. -/
def cutPath (cs : List Char) : List Char × List Char :=
  (cs.takeWhile fun c => !endsPath c, cs.dropWhile fun c => !endsPath c)

def finish (scheme : List Char) (authority : Option Authority) (path : Path) (rest : List Char) :
    Uri :=
  let (query, fragment) := tails (schemeKind scheme) rest
  ⟨scheme, authority, path, query, fragment⟩

/-- Reads on after the two slashes before an authority. -/
def readHierarchy (scheme : List Char) (cs : List Char) : Except Fault Uri := do
  let kind := schemeKind scheme
  let (authority, rest) ← readAuthority scheme cs
  let (path, rest) := cutPath rest
  let parts := if kind = .other ∧ path.isEmpty then [] else (pathOf kind (dropSlash kind path)).1
  return finish scheme (some authority) (.segments parts) rest

def noHost : Authority :=
  ⟨[], [], .name [], none⟩

def isLocalhost (host : Host) : Bool :=
  host == .name "localhost".toList

/-- The host of a file, if it has one, and where its path begins. -/
def readFileHost (cs : List Char) : Except Fault (Option Host × List Char) :=
  let text := dropBreaks (cs.takeWhile fun c => !endsAuthority .file c)
  let rest := cs.dropWhile fun c => !endsAuthority .file c
  if isDrive text then .ok (none, cs)
  else if text.isEmpty then .ok (none, rest)
  else do
    let host ← readDomain text
    return (if isLocalhost host then none else some host, rest)

/-- Reads on after the two slashes before the host of a file. A drive at the start of the path takes
the place of the host. Without a host the path keeps the slash it starts with, so that what follows
is not its first segment and no drive. -/
def readFileHierarchy (scheme : List Char) (cs : List Char) : Except Fault Uri := do
  let (host, rest) ← readFileHost cs
  let (path, rest) := cutPath rest
  match host with
  | some host =>
      let (parts, drive) := pathOf .file (dropSlash .file path)
      let authority := if drive then noHost else { noHost with host }
      return finish scheme (some authority) (.segments parts) (dropBreaks rest)
  | none =>
      return finish scheme (some noHost) (.segments (pathOf .file path).1) (dropBreaks rest)

/-- Reads on after `file:`. -/
def readFile (scheme : List Char) (cs : List Char) : Except Fault Uri :=
  match (afterSlash? .file cs).bind (afterSlash? .file) with
  | some rest => readFileHierarchy scheme rest
  | none =>
      let (path, rest) := cutPath cs
      let parts := (pathOf .file (dropSlash .file path)).1
      .ok (finish scheme (some noHost) (.segments parts) (dropBreaks rest))

def readOther (scheme : List Char) (cs : List Char) : Except Fault Uri :=
  match cs with
  | '/' :: '/' :: rest => readHierarchy scheme rest
  | '/' :: rest =>
      let (path, rest) := cutPath rest
      .ok (finish scheme none (.segments (pathOf .other path).1) rest)
  | _ =>
      let (path, rest) := cutPath cs
      .ok (finish scheme none (.plain (encode isControl path)) rest)

def readChars (cs : List Char) : Except Fault Uri :=
  match scheme? (strip cs) with
  | none => .error .relative
  | some (scheme, rest) =>
      match schemeKind scheme with
      | .file => readFile scheme (afterColon (trimEnds cs))
      | .special => readHierarchy scheme (rest.dropWhile (isSlash .special))
      | .other => readOther scheme rest
where
  afterColon (cs : List Char) : List Char :=
    (cs.dropWhile (· != ':')).drop 1

def read (s : String) : Except Fault Uri :=
  readChars s.toList

/-- A text that may stand for a URI in a document: an absolute one, a relative one without blanks,
or nothing. -/
def check (s : String) : Except Fault Unit :=
  let s := Text.trim s
  if s.isEmpty then .ok ()
  else
    match read s with
    | .ok _ => .ok ()
    | .error .relative => if s.toList.any Text.isBlank then .error .relative else .ok ()
    | .error fault => .error fault

end XmlBinding.Uri
