import XmlBinding.Element.Basic

/-!
The text of an element tree. Declarations stand before attributes; an element without children is
written as one empty tag. Of the characters that markup uses, five are escaped wherever they stand.
-/

namespace XmlBinding

def escapeChar (c : Char) : List Char :=
  match c with
  | '<' => "&lt;".toList
  | '>' => "&gt;".toList
  | '&' => "&amp;".toList
  | '\'' => "&apos;".toList
  | '"' => "&quot;".toList
  | c => [c]

def escape (s : String) : List Char :=
  s.toList.flatMap escapeChar

/-- An attribute with the blank before it. -/
def attributeChars (key value : String) : List Char :=
  ' ' :: key.toList ++ '=' :: '"' :: escape value ++ ['"']

def Declaration.key (d : Declaration) : String :=
  match d.nsPrefix with
  | some p => s!"xmlns:{p}"
  | none => "xmlns"

/-- What stands between the angle brackets of a start tag. -/
def Tag.chars (t : Tag) : List Char :=
  t.name.prefixedName.toList ++ t.declarations.flatMap (fun d => attributeChars d.key d.uri) ++
    t.attributes.entries.flatMap fun e => attributeChars e.1.prefixedName e.2

mutual

def Element.chars : Element → List Char
  | ⟨tag, children⟩ =>
      if children.isEmpty then '<' :: tag.chars ++ ['/', '>']
      else '<' :: tag.chars ++ '>' :: Node.charsAll children ++
        '<' :: '/' :: tag.name.prefixedName.toList ++ ['>']
termination_by structural e => e

def Node.chars : Node → List Char
  | .text value => escape value
  | .element value => Element.chars value
termination_by structural n => n

def Node.charsAll : List Node → List Char
  | [] => []
  | node :: nodes => Node.chars node ++ Node.charsAll nodes
termination_by structural ns => ns

end

def Element.write (e : Element) : String :=
  String.ofList e.chars

end XmlBinding
