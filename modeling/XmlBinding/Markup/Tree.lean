import XmlBinding.Markup.Token

/-!
Documents as trees of tags: every start tag has its end tag, one element holds all others, and
nothing but blanks stands outside it. Names are still as they were written.
-/

namespace XmlBinding.Markup

mutual

structure Tree where
  name : RawName
  attributes : List RawAttribute
  children : List Piece

inductive Piece where
  | text (value : List Char)
  | element (value : Tree)

end

instance : Inhabited Tree :=
  ⟨⟨default, [], []⟩⟩

/-- An element whose end tag has not come yet, with its children so far in reverse. -/
structure OpenTag where
  name : RawName
  attributes : List RawAttribute
  pieces : List Piece

def OpenTag.push (t : OpenTag) (piece : Piece) : OpenTag :=
  { t with pieces := piece :: t.pieces }

/-- Texts that no tag separates are one. -/
def OpenTag.pushText (t : OpenTag) (value : List Char) : OpenTag :=
  match t.pieces with
  | .text before :: pieces => { t with pieces := .text (before ++ value) :: pieces }
  | _ => t.push (.text value)

def OpenTag.close (t : OpenTag) : Tree :=
  ⟨t.name, t.attributes, t.pieces.reverse⟩

/-- The elements that are open, innermost first, and the outermost one once it is complete. -/
structure Building where
  openTags : List OpenTag
  root : Option Tree

namespace Building

def start : Building :=
  ⟨[], none⟩

/-- Adds a complete element to the one that holds it. There is one outermost element only. -/
def place (b : Building) (tree : Tree) : Option Building :=
  match b.openTags, b.root with
  | top :: below, root => some ⟨top.push (.element tree) :: below, root⟩
  | [], none => some ⟨[], some tree⟩
  | [], some _ => none

def addText (b : Building) (value : List Char) : Option Building :=
  match b.openTags with
  | top :: below => some ⟨top.pushText value :: below, b.root⟩
  | [] => none

def open? (b : Building) (name : RawName) (attributes : List RawAttribute) : Option Building :=
  if b.openTags.isEmpty && b.root.isSome then none
  else some ⟨⟨name, attributes, []⟩ :: b.openTags, b.root⟩

def close? (b : Building) (name : RawName) : Option Building :=
  match b.openTags with
  | top :: below => if top.name = name then place ⟨below, b.root⟩ top.close else none
  | [] => none

/-- What a piece of the document adds. -/
def step (b : Building) : Token → Option Building
  | .text raw =>
      if b.openTags.isEmpty && raw.all isSpace then some b
      else (textValue? raw).bind b.addText
  | .literal raw => b.addText (literalValue raw)
  | .openTag name attributes closed =>
      if closed then b.place ⟨name, attributes, []⟩ else b.open? name attributes
  | .closeTag name => b.close? name

/-- The outermost element, if it is complete and no other element is open. -/
def finish (b : Building) : Option Tree :=
  if b.openTags.isEmpty then b.root else none

end Building

def treeOfTokens? (tokens : List Token) : Option Tree :=
  (tokens.foldlM Building.step Building.start).bind Building.finish

/-- Passes over blanks, which must be there unless the declaration ends. -/
def declarationGap? (cs : List Char) : Option (List Char) :=
  if cs.head?.any isSpace then some (dropSpaces cs)
  else if ['?', '>'].isPrefixOf cs || cs.isEmpty then some cs
  else none

/-- Passes over one item of the declaration, if it begins with the keyword. -/
def declarationItem? (keyword : String) (cs : List Char) : Option (List Char) :=
  if keyword.toList.isPrefixOf cs then (rawAttribute? cs).map (·.2) else none

/-- Passes over the declaration of a document after its opening. A version is required; an encoding
and a word on other files may follow, in this order. -/
def declaration? (cs : List Char) : Option (List Char) := do
  let cs ← declarationGap? cs
  let cs ← declarationItem? "version" cs
  let cs ← declarationGap? cs
  let cs ← match declarationItem? "encoding" cs with
    | some rest => declarationGap? rest
    | none => if "encoding".toList.isPrefixOf cs then none else some cs
  let cs ← match declarationItem? "standalone" cs with
    | some rest => some rest
    | none => if "standalone".toList.isPrefixOf cs then none else some cs
  match dropSpaces cs with
  | '?' :: '>' :: rest => return rest
  | _ => none

/-- A text may start with a mark of the byte order. -/
def dropByteOrderMark : List Char → List Char
  | c :: rest => if c = '\uFEFF' then rest else c :: rest
  | [] => []

/-- The tree of a document. -/
def tree? (cs : List Char) : Option Tree :=
  let cs := dropByteOrderMark cs
  if cs.all isDocumentChar then
    if "<?xml ".toList.isPrefixOf cs then
      ((declaration? (cs.drop 5)).bind tokens?).bind treeOfTokens?
    else (tokens? cs).bind treeOfTokens?
  else none

end XmlBinding.Markup
