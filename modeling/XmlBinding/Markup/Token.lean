import XmlBinding.Markup.Reference
import XmlBinding.Text.Split

/-!
The pieces of a document: tags, texts and literal sections, in order. Comments and processing
instructions are passed over, document types are refused. Every step reads at least one character,
which is why reading ends.
-/

namespace XmlBinding.Markup

/-- A name as it is written; without a colon, the prefix is empty. -/
structure RawName where
  nsPrefix : List Char
  localName : List Char
deriving DecidableEq, Inhabited

structure RawAttribute where
  name : RawName
  value : List Char
deriving DecidableEq, Inhabited

inductive Token where
  | openTag (name : RawName) (attributes : List RawAttribute) (closed : Bool)
  | closeTag (name : RawName)
  | text (raw : List Char)
  | literal (raw : List Char)

/-- A name of at most two parts. The first may be empty, the second may not. -/
def rawName? (cs : List Char) : Option RawName :=
  let starts := fun part : List Char => part.head?.all NCName.isStart
  match cs.dropWhile (· != ':') with
  | [] => if starts cs && !cs.isEmpty then some ⟨[], cs⟩ else none
  | _ :: after =>
      let before := cs.takeWhile (· != ':')
      if starts before && starts after && !after.isEmpty && !after.contains ':' then
        some ⟨before, after⟩
      else none

/-- Reads a name. -/
def name? (cs : List Char) : Option (RawName × List Char) :=
  (rawName? (cs.takeWhile isNamePart)).map fun name => (name, cs.dropWhile isNamePart)

/-- Reads an equals sign and the blanks around it. -/
def equals? (cs : List Char) : Option (List Char) :=
  match dropSpaces cs with
  | '=' :: rest => some (dropSpaces rest)
  | _ => none

/-- Reads a quoted text, in which no tag may start. -/
def quoted? : List Char → Option (List Char × List Char)
  | quote :: rest =>
      if quote = '"' ∨ quote = '\'' then
        let inside := fun c => c != quote && c != '<'
        match rest.dropWhile inside with
        | [] => none
        | c :: after => if c = quote then some (rest.takeWhile inside, after) else none
      else none
  | [] => none

/-- Reads a name, an equals sign and a quoted text. -/
def rawAttribute? (cs : List Char) : Option (RawAttribute × List Char) := do
  let (name, cs) ← name? cs
  let cs ← equals? cs
  let (value, cs) ← quoted? cs
  return (⟨name, value⟩, cs)

theorem length_dropWhile_le (p : Char → Bool) (cs : List Char) :
    (cs.dropWhile p).length ≤ cs.length :=
  (List.dropWhile_sublist p).length_le

theorem length_of_name? {cs rest : List Char} {name : RawName}
    (h : name? cs = some (name, rest)) : rest.length ≤ cs.length := by
  obtain ⟨n, _, hn⟩ := Option.map_eq_some_iff.1 h
  rw [← (Prod.mk.inj hn).2]
  exact length_dropWhile_le _ _

theorem length_of_equals? {cs rest : List Char} (h : equals? cs = some rest) :
    rest.length < cs.length := by
  unfold equals? at h
  split at h
  · next after hs =>
      have h1 := length_dropWhile_le isSpace cs
      have h2 := length_dropWhile_le isSpace after
      rw [dropSpaces] at hs
      rw [hs, List.length_cons] at h1
      rw [← Option.some.inj h, dropSpaces]
      omega
  · cases h

theorem length_of_quoted? {cs value rest : List Char} (h : quoted? cs = some (value, rest)) :
    rest.length < cs.length := by
  unfold quoted? at h
  split at h
  · next quote after =>
      simp only at h
      split at h
      · split at h
        · cases h
        · next c tail hs =>
            have h1 := length_dropWhile_le (fun c => c != quote && c != '<') after
            rw [hs, List.length_cons] at h1
            split at h
            · rw [← (Prod.mk.inj (Option.some.inj h)).2, List.length_cons]
              omega
            · cases h
      · cases h
  · cases h

theorem length_of_rawAttribute? {cs rest : List Char} {a : RawAttribute}
    (h : rawAttribute? cs = some (a, rest)) : rest.length < cs.length := by
  obtain ⟨⟨name, afterName⟩, hn, h⟩ := Option.bind_eq_some_iff.1 h
  obtain ⟨afterEquals, he, h⟩ := Option.bind_eq_some_iff.1 h
  obtain ⟨⟨value, afterValue⟩, hq, h⟩ := Option.bind_eq_some_iff.1 h
  have h1 := length_of_name? hn
  have h2 := length_of_equals? he
  have h3 := length_of_quoted? hq
  rw [← (Prod.mk.inj (Option.some.inj h)).2]
  omega

/-- Reads the end of a start tag, which may close the element, too. -/
def tagEnd? : List Char → Option (Bool × List Char)
  | '/' :: '>' :: rest => some (true, rest)
  | '>' :: rest => some (false, rest)
  | _ => none

/-- Reads the attributes of a start tag and its end. Each attribute has a blank before it. -/
def tagRest? (cs : List Char) : Option (List RawAttribute × Bool × List Char) :=
  match tagEnd? (dropSpaces cs) with
  | some (closed, rest) => some ([], closed, rest)
  | none =>
      if cs.head?.any isSpace then
        match _h : rawAttribute? (dropSpaces cs) with
        | some (first, rest) => (tagRest? rest).map fun (others, after) => (first :: others, after)
        | none => none
      else none
termination_by cs.length
decreasing_by
  have h1 := length_of_rawAttribute? _h
  have h2 := length_dropWhile_le isSpace cs
  rw [dropSpaces] at h1
  omega

theorem length_of_tagEnd? {cs rest : List Char} {closed : Bool}
    (h : tagEnd? cs = some (closed, rest)) : rest.length < cs.length := by
  unfold tagEnd? at h
  split at h
  · simp only [List.length_cons, ← (Prod.mk.inj (Option.some.inj h)).2]
    omega
  · simp only [List.length_cons, ← (Prod.mk.inj (Option.some.inj h)).2]
    omega
  · cases h

theorem length_of_tagRest? {cs rest : List Char} {attributes : List RawAttribute} {closed : Bool}
    (h : tagRest? cs = some (attributes, closed, rest)) : rest.length < cs.length := by
  fun_induction tagRest? cs generalizing attributes closed rest with
  | case1 cs closed after hs =>
      have h1 := length_of_tagEnd? hs
      have h2 := length_dropWhile_le isSpace cs
      rw [dropSpaces] at h1
      rw [← (Prod.mk.inj (Prod.mk.inj (Option.some.inj h)).2).2]
      omega
  | case2 cs _ _ first after ha ih =>
      have h1 := length_of_rawAttribute? ha
      have h2 := length_dropWhile_le isSpace cs
      rw [dropSpaces] at h1
      obtain ⟨⟨others, c, tail⟩, ht, he⟩ := Option.map_eq_some_iff.1 h
      have h3 := ih ht
      rw [← (Prod.mk.inj (Prod.mk.inj he).2).2]
      omega
  | case3 => cases h
  | case4 => cases h

/-- Passes over a comment after its opening. Two hyphens may not stand in it. -/
def comment? (cs : List Char) : Option (List Char) :=
  match Text.cut ['-', '-', '>'] cs with
  | some (body, rest) =>
      if (Text.cut ['-', '-'] body).isNone && body.getLast? != some '-' then some rest else none
  | none => none

/-- Passes over a processing instruction after its opening. The declaration of a document, which
looks like one, may not stand here. -/
def instruction? (cs : List Char) : Option (List Char) :=
  if ['x', 'm', 'l', ' '].isPrefixOf cs then none
  else if cs.head?.any isNameStart then
    (Text.cut ['?', '>'] (dropSpaces (cs.dropWhile isNamePart))).map (·.2)
  else none

/-- Reads an end tag after its opening. -/
def closeTag? (cs : List Char) : Option (RawName × List Char) := do
  let (name, cs) ← name? cs
  match dropSpaces cs with
  | '>' :: rest => return (name, rest)
  | _ => none

/-- Reads one piece after a `<`; comments and instructions yield none. -/
def markup? (cs : List Char) : Option (Option Token × List Char) :=
  match cs with
  | '!' :: '-' :: '-' :: rest => (comment? rest).map (none, ·)
  | '!' :: '[' :: 'C' :: 'D' :: 'A' :: 'T' :: 'A' :: '[' :: rest =>
      (Text.cut [']', ']', '>'] rest).map fun (body, rest) => (some (.literal body), rest)
  | '?' :: rest => (instruction? rest).map (none, ·)
  | '/' :: rest => (closeTag? rest).map fun (name, rest) => (some (.closeTag name), rest)
  | cs => do
      let (name, cs) ← name? cs
      let (attributes, closed, cs) ← tagRest? cs
      return (some (.openTag name attributes closed), cs)

theorem length_of_comment? {cs rest : List Char} (h : comment? cs = some rest) :
    rest.length ≤ cs.length := by
  unfold comment? at h
  split at h
  · next body after hc =>
      split at h
      · have := Text.length_of_cut hc
        rw [← Option.some.inj h]
        omega
      · cases h
  · cases h

theorem length_of_instruction? {cs rest : List Char} (h : instruction? cs = some rest) :
    rest.length ≤ cs.length := by
  unfold instruction? at h
  split at h
  · cases h
  split at h
  · obtain ⟨⟨before, after⟩, hc, he⟩ := Option.map_eq_some_iff.1 h
    have h1 := Text.length_of_cut hc
    have h2 := length_dropWhile_le isNamePart cs
    have h3 := length_dropWhile_le isSpace (cs.dropWhile isNamePart)
    simp only [dropSpaces] at h1
    simp only at he
    rw [← he]
    omega
  · cases h

theorem length_of_closeTag? {cs rest : List Char} {name : RawName}
    (h : closeTag? cs = some (name, rest)) : rest.length ≤ cs.length := by
  obtain ⟨⟨n, after⟩, hn, hr⟩ := Option.bind_eq_some_iff.1 h
  simp only at hr
  split at hr
  · next tail hs =>
      have h1 := length_of_name? hn
      have h2 := length_dropWhile_le isSpace after
      rw [dropSpaces] at hs
      rw [hs, List.length_cons] at h2
      rw [← (Prod.mk.inj (Option.some.inj hr)).2]
      omega
  · cases hr

theorem length_of_markup? {cs rest : List Char} {token : Option Token}
    (h : markup? cs = some (token, rest)) : rest.length ≤ cs.length := by
  unfold markup? at h
  split at h
  · obtain ⟨after, ha, he⟩ := Option.map_eq_some_iff.1 h
    have := length_of_comment? ha
    simp only [List.length_cons, ← (Prod.mk.inj he).2]
    omega
  · obtain ⟨⟨body, after⟩, ha, he⟩ := Option.map_eq_some_iff.1 h
    have := Text.length_of_cut ha
    simp only [List.length_cons, ← (Prod.mk.inj he).2]
    omega
  · obtain ⟨after, ha, he⟩ := Option.map_eq_some_iff.1 h
    have := length_of_instruction? ha
    simp only [List.length_cons, ← (Prod.mk.inj he).2]
    omega
  · obtain ⟨⟨name, after⟩, ha, he⟩ := Option.map_eq_some_iff.1 h
    have := length_of_closeTag? ha
    simp only [List.length_cons, ← (Prod.mk.inj he).2]
    omega
  · obtain ⟨⟨name, after⟩, hn, h'⟩ := Option.bind_eq_some_iff.1 h
    obtain ⟨⟨attributes, closed, tail⟩, ht, he⟩ := Option.bind_eq_some_iff.1 h'
    have h1 := length_of_name? hn
    have h2 := length_of_tagRest? ht
    have h3 := (Prod.mk.inj (Option.some.inj he)).2
    rw [← h3]
    omega

/-- The pieces of a text after the declaration; none if one of them is malformed. -/
def tokens? : List Char → Option (List Token)
  | [] => some []
  | c :: rest =>
      if c = '<' then
        match _h : markup? rest with
        | some (some token, rest) => (tokens? rest).map (token :: ·)
        | some (none, rest) => tokens? rest
        | none => none
      else
        let raw := c :: rest.takeWhile (· != '<')
        if (Text.cut [']', ']', '>'] raw).isSome then none
        else (tokens? (rest.dropWhile (· != '<'))).map (.text raw :: ·)
termination_by cs => cs.length
decreasing_by
  · have := length_of_markup? _h
    simp only [List.length_cons]
    omega
  · have := length_of_markup? _h
    simp only [List.length_cons]
    omega
  · have := length_dropWhile_le (fun c => c != '<') rest
    simp only [List.length_cons]
    omega

end XmlBinding.Markup
