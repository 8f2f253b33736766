import XmlBinding.Proofs.Tokens
import XmlBinding.Proofs.Tree

/-!
The text of an element tree as markup. A document cannot tell adjacent texts from one text, nor an
empty text from none, so what is read of a written tree is the tree with its texts joined. Reading
goes through the document once; a written element, wherever it stands, adds itself to what is open
there and leaves the rest to be read.
-/

namespace XmlBinding

open Markup

/-! ### Joined texts -/

namespace Node

/-- Puts a text before nodes: it becomes a part of a text that stands first, and an empty one
nothing. -/
def consText (value : String) : List Node → List Node
  | .text next :: nodes => .text (value ++ next) :: nodes
  | nodes => if value = "" then nodes else .text value :: nodes

/-- Adjacent texts are one, and no text is empty. -/
def joinTexts : List Node → List Node
  | [] => []
  | .element e :: nodes => .element e :: joinTexts nodes
  | .text value :: nodes => consText value (joinTexts nodes)

/-- No text is empty or beside another one. -/
def Separated : List Node → Prop
  | [] => True
  | .element _ :: nodes => Separated nodes
  | .text value :: nodes =>
      value ≠ "" ∧ (∀ next, nodes.head? ≠ some (.text next)) ∧ Separated nodes

/-- A text put before nodes is joined to a text there, or stands by itself, or is left out. -/
theorem consText_cases (value : String) (nodes : List Node) :
    (∃ next rest, nodes = .text next :: rest ∧
        consText value nodes = .text (value ++ next) :: rest) ∨
      (∀ next, nodes.head? ≠ some (.text next)) ∧
        (value = "" ∧ consText value nodes = nodes ∨
          value ≠ "" ∧ consText value nodes = .text value :: nodes) := by
  have halone {nodes : List Node}
      (heq : consText value nodes = if value = "" then nodes else .text value :: nodes) :
      value = "" ∧ consText value nodes = nodes ∨
        value ≠ "" ∧ consText value nodes = .text value :: nodes := by
    rw [heq]
    by_cases hempty : value = ""
    · exact .inl ⟨hempty, if_pos hempty⟩
    · exact .inr ⟨hempty, if_neg hempty⟩
  match nodes with
  | [] => exact .inr ⟨fun _ => nofun, halone rfl⟩
  | .element e :: rest => exact .inr ⟨fun _ => nofun, halone rfl⟩
  | .text next :: rest => exact .inl ⟨next, rest, rfl, rfl⟩

theorem separated_consText (value : String) {nodes : List Node} (h : Separated nodes) :
    Separated (consText value nodes) := by
  rcases consText_cases value nodes with
    ⟨next, rest, rfl, heq⟩ | ⟨hhead, ⟨-, heq⟩ | ⟨hne, heq⟩⟩
  · rw [heq]
    obtain ⟨hne, hrest⟩ := h
    refine ⟨fun hempty => hne ?_, hrest⟩
    rw [← String.toList_eq_nil_iff, String.toList_append, List.append_eq_nil_iff] at hempty
    exact String.toList_eq_nil_iff.1 hempty.2
  · rwa [heq]
  · rw [heq]
    exact ⟨hne, hhead, h⟩

theorem charsAll_consText (value : String) (nodes : List Node) :
    charsAll (consText value nodes) = escape value ++ charsAll nodes := by
  rcases consText_cases value nodes with
    ⟨next, rest, rfl, heq⟩ | ⟨-, ⟨rfl, heq⟩ | ⟨-, heq⟩⟩
  · rw [heq, charsAll, charsAll, chars, chars, escape_append, List.append_assoc]
  · rw [heq]
    rfl
  · rw [heq, charsAll, chars]

theorem element_mem_consText {e : Element} {value : String} {nodes : List Node} :
    .element e ∈ consText value nodes ↔ .element e ∈ nodes := by
  rcases consText_cases value nodes with
    ⟨next, rest, rfl, heq⟩ | ⟨-, ⟨-, heq⟩ | ⟨-, heq⟩⟩ <;> simp [heq]

theorem text_mem_consText {text value : String} {nodes : List Node}
    (h : .text text ∈ consText value nodes) :
    text = value ∨ .text text ∈ nodes ∨ ∃ next, .text next ∈ nodes ∧ text = value ++ next := by
  rcases consText_cases value nodes with
    ⟨next, rest, rfl, heq⟩ | ⟨-, ⟨-, heq⟩ | ⟨-, heq⟩⟩
  · rw [heq] at h
    rcases List.mem_cons.1 h with h | h
    · cases h
      exact .inr (.inr ⟨next, List.mem_cons_self, rfl⟩)
    · exact .inr (.inl (List.mem_cons_of_mem _ h))
  · rw [heq] at h
    exact .inr (.inl h)
  · rw [heq] at h
    rcases List.mem_cons.1 h with h | h
    · cases h
      exact .inl rfl
    · exact .inr (.inl h)

theorem separated_joinTexts (nodes : List Node) : Separated (joinTexts nodes) := by
  induction nodes with
  | nil => trivial
  | cons n ns ih =>
      cases n with
      | element e => exact ih
      | text value => exact separated_consText value ih

/-- Joined or not, the texts are written with the same characters. -/
theorem charsAll_joinTexts (nodes : List Node) : charsAll (joinTexts nodes) = charsAll nodes := by
  induction nodes with
  | nil => rfl
  | cons n ns ih =>
      cases n with
      | element e => rw [joinTexts, charsAll, charsAll, ih]
      | text value => rw [joinTexts, charsAll_consText, charsAll, chars, ih]

theorem element_mem_joinTexts {e : Element} {nodes : List Node} :
    .element e ∈ joinTexts nodes ↔ .element e ∈ nodes := by
  induction nodes with
  | nil => rfl
  | cons n ns ih =>
      cases n with
      | element e' => rw [joinTexts, List.mem_cons, List.mem_cons, ih]
      | text value =>
          rw [joinTexts, element_mem_consText, ih, List.mem_cons]
          exact (or_iff_right nofun).symm

/-- What holds of all texts, and of a text put together from others, holds of the joined ones. -/
theorem forall_text_joinTexts {P : String → Prop} (happend : ∀ s t, P s → P t → P (s ++ t))
    {nodes : List Node} (h : ∀ value, .text value ∈ nodes → P value) :
    ∀ value, .text value ∈ joinTexts nodes → P value := by
  induction nodes with
  | nil => exact fun _ => nofun
  | cons n ns ih =>
      have hrest := ih fun value hvalue => h value (List.mem_cons_of_mem n hvalue)
      intro value hvalue
      cases n with
      | element e =>
          rcases List.mem_cons.1 hvalue with heq | hvalue
          · cases heq
          · exact hrest value hvalue
      | text first =>
          have hfirst := h first List.mem_cons_self
          rcases text_mem_consText hvalue with rfl | hmem | ⟨next, hnext, rfl⟩
          · exact hfirst
          · exact hrest value hmem
          · exact happend first next hfirst (hrest next hnext)

end Node

mutual

/-- The tree with its texts joined. -/
def Element.joined : Element → Element
  | ⟨tag, nodes⟩ => ⟨tag, Node.joinTexts (Node.joinedEach nodes)⟩
termination_by structural e => e

def Node.joined : Node → Node
  | .text value => .text value
  | .element e => .element (Element.joined e)
termination_by structural n => n

def Node.joinedEach : List Node → List Node
  | [] => []
  | n :: ns => Node.joined n :: Node.joinedEach ns
termination_by structural ns => ns

end

theorem Node.joinTexts_joinedEach (nodes : List Node) :
    joinTexts (joinedEach nodes) = (joinTexts nodes).map joined := by
  have hcons (value : String) (nodes : List Node) :
      consText value (nodes.map joined) = (consText value nodes).map joined := by
    match nodes with
    | [] | .element e :: rest => by_cases h : value = "" <;> simp [consText, joined, h]
    | .text next :: rest => rfl
  induction nodes with
  | nil => rfl
  | cons n ns ih =>
      cases n with
      | element e => rw [joinedEach, joined, joinTexts, ih, joinTexts, List.map_cons, joined]
      | text value => rw [joinedEach, joined, joinTexts, ih, joinTexts, hcons]

theorem Element.joined_mk (tag : Tag) (nodes : List Node) :
    joined ⟨tag, nodes⟩ = ⟨tag, (Node.joinTexts nodes).map Node.joined⟩ := by
  rw [joined, Node.joinTexts_joinedEach]

theorem Node.element_mem_joined {e' : Element} {nodes : List Node} :
    .element e' ∈ (joinTexts nodes).map joined ↔ ∃ e, .element e ∈ nodes ∧ e.joined = e' := by
  rw [List.mem_map]
  constructor
  · rintro ⟨n, hn, heq⟩
    cases n with
    | text value => cases heq
    | element e =>
        cases heq
        exact ⟨e, element_mem_joinTexts.1 hn, rfl⟩
  · rintro ⟨e, he, rfl⟩
    exact ⟨.element e, element_mem_joinTexts.2 he, rfl⟩

/-- Joining texts leaves the tags alone. -/
theorem Element.everywhere_joined_iff {T : Scope → Tag → Prop} {e : Element} {scope : Scope}
    {depth : Nat} :
    e.joined.Everywhere (fun scope _ el => T scope el.toTag) scope depth ↔
      e.Everywhere (fun scope _ el => T scope el.toTag) scope depth := by
  induction e generalizing scope depth with
  | mk tag nodes ih =>
      rw [joined_mk, everywhere_mk, everywhere_mk]
      refine and_congr_right fun _ => ⟨fun h e he => ?_, fun h e' he' => ?_⟩
      · exact (ih e he).1 (h e.joined (Node.element_mem_joined.2 ⟨e, he, rfl⟩))
      · obtain ⟨e, he, rfl⟩ := Node.element_mem_joined.1 he'
        exact (ih e he).2 (h e he)

/-- What holds of all texts of a tree, and of a text put together from others, holds of the joined
texts. -/
theorem Element.texts_joined {P : String → Prop} (happend : ∀ s t, P s → P t → P (s ++ t))
    {e : Element} {scope : Scope} {depth : Nat}
    (h : e.Everywhere (fun _ _ el => ∀ text, .text text ∈ el.children → P text) scope depth) :
    e.joined.Everywhere (fun _ _ el => ∀ text, .text text ∈ el.children → P text) scope depth := by
  induction e generalizing scope depth with
  | mk tag nodes ih =>
      rw [everywhere_mk] at h
      rw [joined_mk, everywhere_mk]
      refine ⟨fun text htext => ?_, fun e' he' => ?_⟩
      · obtain ⟨n, hn, heq⟩ := List.mem_map.1 htext
        cases n with
        | element e => cases heq
        | text value =>
            obtain rfl : value = text := Node.text.inj heq
            exact Node.forall_text_joinTexts happend h.1 value hn
      · obtain ⟨e, he, rfl⟩ := Node.element_mem_joined.1 he'
        exact ih e he (h.2 e he)

/-! ### The markup of a tree -/

/-- A text whose characters may all stand in a document. -/
def IsDocumentText (s : String) : Prop :=
  ∀ c ∈ s.toList, isDocumentChar c = true

/-- A tag whose names are read as names, and whose values may stand in a document. -/
structure Tag.Legible (tag : Tag) : Prop where
  name : Spells tag.name.prefixedName tag.name.raw
  declarations : ∀ d ∈ tag.declarations, Spells d.key d.raw ∧ IsDocumentText d.uri
  attributes : ∀ a ∈ tag.attributes.entries, Spells a.1.prefixedName a.1.raw ∧ IsDocumentText a.2

/-- The attributes that a tag is written with, declarations first. -/
def Tag.written (tag : Tag) : List (String × String) :=
  (tag.declarations.map fun d => (d.key, d.uri)) ++
    tag.attributes.entries.map fun a => (a.1.prefixedName, a.2)

/-- The attributes that are read of a written tag. -/
def Tag.raw (tag : Tag) : List RawAttribute :=
  (tag.declarations.map fun d => ⟨d.raw, escape d.uri⟩) ++
    tag.attributes.entries.map fun a => ⟨a.1.raw, escape a.2⟩

theorem Tag.chars_eq (tag : Tag) :
    tag.chars = tag.name.prefixedName.toList ++
      tag.written.flatMap fun w => attributeChars w.1 w.2 := by
  rw [chars, written, List.flatMap_append, List.flatMap_map, List.flatMap_map, List.append_assoc]

theorem Tag.Legible.readsRaw {tag : Tag} (h : tag.Legible) :
    List.Forall₂ ReadsRaw tag.written tag.raw := by
  rw [Tag.written, Tag.raw]
  refine List.rel_append ?_ ?_
  · rw [List.forall₂_map_left_iff, List.forall₂_map_right_iff, List.forall₂_same]
    exact fun d hd => ⟨(h.declarations d hd).1, rfl⟩
  · rw [List.forall₂_map_left_iff, List.forall₂_map_right_iff, List.forall₂_same]
    exact fun a ha => ⟨(h.attributes a ha).1, rfl⟩

mutual

/-- The markup that a tree is read as. -/
def Element.tree : Element → Tree
  | ⟨tag, nodes⟩ => ⟨tag.name.raw, tag.raw, Node.pieces nodes⟩
termination_by structural e => e

def Node.piece : Node → Piece
  | .text value => .text (reread value).toList
  | .element e => .element (Element.tree e)
termination_by structural n => n

def Node.pieces : List Node → List Piece
  | [] => []
  | n :: ns => Node.piece n :: Node.pieces ns
termination_by structural ns => ns

end

theorem Node.pieces_eq_map (nodes : List Node) : pieces nodes = nodes.map piece := by
  induction nodes with
  | nil => rfl
  | cons n ns ih => rw [pieces, List.map_cons, ih]

/-! ### Reading goes on after an element -/

namespace Markup.Building

variable {b : Building} {rest : List Char}

/-- What the rest of a document adds. -/
def read (b : Building) (cs : List Char) : Option Building :=
  (tokens? cs).bind fun tokens => tokens.foldlM step b

theorem read_nil (b : Building) : b.read [] = some b := by
  rw [read, tokens?]
  rfl

theorem bind_map_cons (token : Token) (tokens : Option (List Token)) :
    (tokens.map (token :: ·)).bind (fun tokens => tokens.foldlM step b) =
      (b.step token).bind fun b' => tokens.bind fun tokens => tokens.foldlM step b' := by
  cases tokens with
  | none => cases b.step token <;> rfl
  | some tokens => rfl

theorem read_tag {cs : List Char} {token : Token} (h : markup? cs = some (some token, rest)) :
    b.read ('<' :: cs) = (b.step token).bind fun b' => b'.read rest := by
  rw [read, tokens?_tag h, bind_map_cons]
  rfl

theorem read_text {raw : List Char} (hne : raw ≠ []) (hopen : '<' ∉ raw) (hclose : '>' ∉ raw) :
    b.read (raw ++ '<' :: rest) = (b.step (.text raw)).bind fun b' => b'.read ('<' :: rest) := by
  rw [read, tokens?_text hne hopen hclose, bind_map_cons]
  rfl

/-- A written text is added to the innermost open element, unless there is a text there. -/
theorem read_escape {value : String} (hne : value ≠ "") {top : OpenTag} {below : List OpenTag}
    {root : Option Tree} (hhead : ∀ before, top.pieces.head? ≠ some (.text before)) :
    read ⟨top :: below, root⟩ (escape value ++ '<' :: rest) =
      read ⟨top.push (Node.text value).piece :: below, root⟩ ('<' :: rest) := by
  have hraw : escape value ≠ [] := fun hnil => hne (escape_eq_nil_iff.1 hnil)
  have hstep : step ⟨top :: below, root⟩ (.text (escape value)) =
      some ⟨top.push (Node.text value).piece :: below, root⟩ := by
    have hpush : top.pushText (reread value).toList = top.push (.text (reread value).toList) := by
      rw [OpenTag.pushText]
      split
      · next before pieces hpieces =>
          exact absurd (by rw [hpieces]; rfl) (hhead before)
      · rfl
    show (textValue? (escape value)).bind _ = _
    rw [textValue?_escape]
    show some (Building.mk (top.pushText _ :: below) root) = _
    rw [hpush]
    rfl
  rw [read_text hraw (not_mem_escape (by decide) (by decide))
    (not_mem_escape (by decide) (by decide)), hstep]
  rfl

/-- What nodes add to an open element, given what each of the elements among them adds. -/
theorem read_charsAll {nodes : List Node}
    (helements : ∀ e, .element e ∈ nodes → ∀ (b : Building) rest,
      b.read (e.chars ++ rest) = (b.place e.joined.tree).bind fun b' => b'.read rest)
    (hseparated : Node.Separated nodes) {top : OpenTag} {below : List OpenTag} {root : Option Tree}
    (hhead : ∀ value, nodes.head? = some (.text value) →
      ∀ before, top.pieces.head? ≠ some (.text before)) :
    read ⟨top :: below, root⟩ (Node.charsAll nodes ++ '<' :: rest) =
      read
        ⟨{ top with pieces := (nodes.map fun n => n.joined.piece).reverse ++ top.pieces } :: below,
          root⟩ ('<' :: rest) := by
  induction nodes generalizing top with
  | nil => rfl
  | cons n ns ih =>
      have hrest := fun e he => helements e (List.mem_cons_of_mem n he)
      have hpieces (piece : Piece) :
          (ns.map fun n => n.joined.piece).reverse ++ piece :: top.pieces =
            ((ns.map fun n => n.joined.piece).reverse ++ [piece]) ++ top.pieces := by
        simp
      rw [Node.charsAll, List.append_assoc, List.map_cons, List.reverse_cons]
      cases n with
      | text value =>
          obtain ⟨hne, hnext, hseparated⟩ := hseparated
          -- Behind a text that stands by itself there is a tag.
          obtain ⟨more, hmore⟩ : ∃ more, Node.charsAll ns ++ '<' :: rest = '<' :: more := by
            match ns with
            | [] => exact ⟨rest, rfl⟩
            | .element ⟨tag, nodes⟩ :: ns =>
                rw [Node.charsAll, Node.chars, Element.chars]
                split <;> exact ⟨_, rfl⟩
            | .text next :: ns => exact absurd rfl (hnext next)
          rw [Node.chars, hmore, read_escape hne (hhead value rfl), ← hmore,
            ih hrest hseparated fun next hns => absurd hns (hnext next)]
          show read ⟨{ top with pieces := _ ++ _ :: top.pieces } :: below, root⟩ _ = _
          rw [hpieces]
          rfl
      | element e =>
          rw [Node.chars, helements e List.mem_cons_self]
          show read ⟨top.push (.element e.joined.tree) :: below, root⟩ _ = _
          have hhead' : ∀ before, (top.push (.element e.joined.tree)).pieces.head? ≠
              some (.text before) := by
            rintro before ⟨⟩
          rw [ih hrest hseparated fun _ _ => hhead']
          show read ⟨{ top with pieces := _ ++ _ :: top.pieces } :: below, root⟩ _ = _
          rw [hpieces]
          rfl

/-- An element can be opened wherever it can be placed. -/
theorem open?_cases (b : Building) (name : RawName) (attributes : List RawAttribute) :
    b.open? name attributes = some ⟨⟨name, attributes, []⟩ :: b.openTags, b.root⟩ ∨
      b.open? name attributes = none ∧ ∀ tree, b.place tree = none := by
  obtain ⟨openTags, root⟩ := b
  cases openTags with
  | cons top below => exact .inl rfl
  | nil =>
      cases root with
      | none => exact .inl rfl
      | some tree => exact .inr ⟨rfl, fun _ => rfl⟩

theorem step_closeTag (top : OpenTag) (below : List OpenTag) (root : Option Tree) :
    step ⟨top :: below, root⟩ (.closeTag top.name) = place ⟨below, root⟩ top.close := by
  show (if top.name = top.name then place ⟨below, root⟩ top.close else none) = _
  rw [if_pos rfl]

end Markup.Building

/-- A written element is read as its markup, and the rest after it. -/
theorem Element.read_chars {e : Element} {scope : Scope} {depth : Nat}
    (h : e.Everywhere (fun _ _ el => el.toTag.Legible) scope depth) (b : Building)
    (rest : List Char) :
    b.read (e.chars ++ rest) = (b.place e.joined.tree).bind fun b' => b'.read rest := by
  induction e generalizing scope depth b rest with
  | mk tag nodes ih =>
      rw [everywhere_mk] at h
      obtain ⟨htag, hbelow⟩ := h
      have hopen (closed : Bool) (rest : List Char) :=
        markup?_openTag htag.name htag.readsRaw closed rest
      rw [joined_mk, Element.tree, Node.pieces_eq_map, List.map_map, Element.chars]
      cases nodes with
      | nil =>
          have hchars : '<' :: tag.chars ++ ['/', '>'] ++ rest =
              '<' :: (tag.name.prefixedName.toList ++
                (tag.written.flatMap (fun w => attributeChars w.1 w.2) ++
                  (tagClose true ++ rest))) := by
            simp [Tag.chars_eq, tagClose]
          show b.read ('<' :: tag.chars ++ ['/', '>'] ++ rest) = _
          rw [hchars, Building.read_tag (hopen true rest)]
          rfl
      | cons n ns =>
          generalize hnodes : n :: ns = nodes at ih hbelow ⊢
          have hchars : (if nodes.isEmpty then '<' :: tag.chars ++ ['/', '>']
              else '<' :: tag.chars ++ '>' :: Node.charsAll nodes ++
                '<' :: '/' :: tag.name.prefixedName.toList ++ ['>']) ++ rest =
              '<' :: (tag.name.prefixedName.toList ++
                (tag.written.flatMap (fun w => attributeChars w.1 w.2) ++
                  (tagClose false ++ (Node.charsAll (Node.joinTexts nodes) ++
                    '<' :: '/' :: (tag.name.prefixedName.toList ++ '>' :: rest))))) := by
            rw [Node.charsAll_joinTexts, ← hnodes]
            simp [Tag.chars_eq, tagClose]
          rw [hchars, Building.read_tag (hopen false _)]
          show (b.open? tag.name.raw tag.raw).bind _ = _
          rcases b.open?_cases tag.name.raw tag.raw with hopened | ⟨hopened, hplace⟩
          · rw [hopened, Option.bind_some]
            have helements : ∀ e, .element e ∈ Node.joinTexts nodes → ∀ (b : Building) rest,
                b.read (e.chars ++ rest) = (b.place e.joined.tree).bind fun b' => b'.read rest := by
              intro e he b rest
              rw [Node.element_mem_joinTexts] at he
              exact ih e he (hbelow e he) b rest
            rw [Building.read_charsAll helements (Node.separated_joinTexts nodes)
              (fun _ _ before => by simp), Building.read_tag (markup?_closeTag htag.name rest)]
            refine (congrArg (Option.bind · _) (Building.step_closeTag _ _ _)).trans ?_
            simp [OpenTag.close, Function.comp_def]
          · rw [hopened, hplace]
            rfl

/-! ### The whole document -/

theorem isDocumentChar_of_isNamePart {c : Char} (h : isNamePart c = true) :
    isDocumentChar c = true := by
  rw [isNamePart, Bool.or_eq_true, NCName.isPart, Bool.or_eq_true, Text.inRanges_iff, beq_iff_eq,
    NCName.isStart, Text.inRanges_iff] at h
  have hranges : ∀ range ∈ NCName.startRanges ++ NCName.restRanges,
      0x20 ≤ range.1 ∧ (range.2 < 0xFFFE ∨ 0xFFFF < range.1) := by
    decide
  have hrange {range : Nat × Nat} (hmem : range ∈ NCName.startRanges ++ NCName.restRanges)
      (hle : range.1 ≤ c.toNat) (hge : c.toNat ≤ range.2) : isDocumentChar c = true := by
    have hbounds := hranges range hmem
    have hcontrol : ¬c.toNat < 0x20 := by omega
    have hnone : c.toNat ≠ 0xFFFE ∧ c.toNat ≠ 0xFFFF := by omega
    rw [isDocumentChar, if_neg hcontrol]
    simp [hnone]
  rcases h with (⟨range, hmem, hle, hge⟩ | ⟨range, hmem, hle, hge⟩) | rfl
  · exact hrange (List.mem_append_left _ hmem) hle hge
  · exact hrange (List.mem_append_right _ hmem) hle hge
  · rfl

theorem Spells.isDocumentChar {text : String} {name : RawName} (h : Spells text name) :
    IsDocumentText text :=
  fun c hc => isDocumentChar_of_isNamePart (h.parts c hc)

theorem IsDocumentText.escape {s : String} (h : IsDocumentText s) :
    ∀ c ∈ XmlBinding.escape s, isDocumentChar c = true := by
  intro c hc
  rcases mem_escape hc with ⟨hmem, -⟩ | rfl | rfl | hpart
  · exact h c hmem
  · rfl
  · rfl
  · exact isDocumentChar_of_isNamePart (isNamePart_of_isPart hpart)

theorem isDocumentChar_of_mem_attributeChars {key value : String} {c : Char}
    (hkey : IsDocumentText key) (hvalue : IsDocumentText value)
    (hc : c ∈ attributeChars key value) : isDocumentChar c = true := by
  simp only [attributeChars, List.cons_append, List.mem_cons, List.mem_append, List.not_mem_nil,
    or_false] at hc
  rcases hc with rfl | (hc | rfl | rfl | hc) | rfl
  · rfl
  · exact hkey c hc
  · rfl
  · rfl
  · exact hvalue.escape c hc
  · rfl

theorem Tag.Legible.isDocumentChar {tag : Tag} (h : tag.Legible) {c : Char} (hc : c ∈ tag.chars) :
    isDocumentChar c = true := by
  rw [Tag.chars] at hc
  simp only [List.mem_append, List.mem_flatMap] at hc
  rcases hc with (hc | ⟨d, hd, hc⟩) | ⟨a, ha, hc⟩
  · exact h.name.isDocumentChar c hc
  · obtain ⟨hkey, huri⟩ := h.declarations d hd
    exact isDocumentChar_of_mem_attributeChars hkey.isDocumentChar huri hc
  · obtain ⟨hkey, hvalue⟩ := h.attributes a ha
    exact isDocumentChar_of_mem_attributeChars hkey.isDocumentChar hvalue hc

theorem Node.isDocumentChar_of_mem_charsAll {nodes : List Node} {c : Char}
    (htexts : ∀ value, .text value ∈ nodes → IsDocumentText value)
    (helements : ∀ e, .element e ∈ nodes → ∀ c ∈ e.chars, isDocumentChar c = true)
    (hc : c ∈ charsAll nodes) : isDocumentChar c = true := by
  induction nodes with
  | nil => cases hc
  | cons n ns ih =>
      rw [charsAll] at hc
      rcases List.mem_append.1 hc with hc | hc
      · cases n with
        | text value => exact (htexts value List.mem_cons_self).escape c hc
        | element e => exact helements e List.mem_cons_self c hc
      · exact ih (fun value hvalue => htexts value (List.mem_cons_of_mem n hvalue))
          (fun e he => helements e (List.mem_cons_of_mem n he)) hc

/-- A tree that may be written as a document. -/
def Element.Legible (e : Element) : Prop :=
  e.toTag.Legible ∧ ∀ text, .text text ∈ e.children → IsDocumentText text

theorem Element.isDocumentChar_of_mem_chars {e : Element} {scope : Scope} {depth : Nat}
    (h : e.Everywhere (fun _ _ el => el.Legible) scope depth) :
    ∀ c ∈ e.chars, isDocumentChar c = true := by
  induction e generalizing scope depth with
  | mk tag nodes ih =>
      rw [everywhere_mk] at h
      obtain ⟨⟨htag, htexts⟩, hbelow⟩ := h
      intro c hc
      rw [chars] at hc
      split at hc
      · simp only [List.cons_append, List.mem_cons, List.mem_append, List.not_mem_nil,
          or_false] at hc
        rcases hc with rfl | hc | rfl | rfl
        · rfl
        · exact htag.isDocumentChar hc
        · rfl
        · rfl
      · simp only [List.cons_append, List.mem_cons, List.mem_append, List.not_mem_nil,
          or_false] at hc
        rcases hc with rfl | ((hc | rfl | hc) | rfl | rfl | hc) | rfl
        · rfl
        · exact htag.isDocumentChar hc
        · rfl
        · exact Node.isDocumentChar_of_mem_charsAll htexts (fun e he => ih e he (hbelow e he)) hc
        · rfl
        · rfl
        · exact htag.name.isDocumentChar c hc
        · rfl

/-- A written document is read as the markup of the tree with its texts joined. -/
theorem Element.tree?_chars {e : Element} {scope : Scope} {depth : Nat}
    (h : e.Everywhere (fun _ _ el => el.Legible) scope depth) :
    tree? e.chars = some e.joined.tree := by
  have hlegible : e.Everywhere (fun _ _ el => el.toTag.Legible) scope depth :=
    h.imp fun _ _ _ hel => hel.1
  -- The document begins with a tag: no mark and no declaration stands before it.
  obtain ⟨c, cs, hchars, hc⟩ : ∃ c cs, e.chars = '<' :: c :: cs ∧ isNamePart c = true := by
    obtain ⟨tag, nodes⟩ := e
    obtain ⟨c, cs, hname, hc⟩ := ((everywhere_mk.1 hlegible).1).name.exists_cons
    have htag : ∃ more, tag.chars = c :: more := by
      rw [Tag.chars, hname]
      exact ⟨_, rfl⟩
    obtain ⟨more, hmore⟩ := htag
    rw [chars, hmore]
    split <;> exact ⟨c, _, rfl, hc⟩
  have hmark : dropByteOrderMark e.chars = e.chars := by
    rw [hchars]
    rfl
  have hdeclaration : "<?xml ".toList.isPrefixOf e.chars = false := by
    have hne : ('?' == c) = false :=
      beq_eq_false_iff_ne.2 fun heq => ne_of_isNamePart hc '?' (by decide) heq.symm
    rw [hchars]
    show ('<' == '<' && ('?' == c && _)) = false
    rw [hne, Bool.false_and, Bool.and_false]
  have hall : e.chars.all isDocumentChar = true :=
    List.all_eq_true.2 (isDocumentChar_of_mem_chars h)
  have hread : Building.start.read e.chars = some ⟨[], some e.joined.tree⟩ := by
    have hplace := read_chars hlegible Building.start []
    rw [List.append_nil] at hplace
    rw [hplace]
    show Building.read _ [] = _
    rw [Building.read_nil]
  have htree : (tokens? e.chars).bind treeOfTokens? =
      (Building.start.read e.chars).bind Building.finish := by
    rw [Building.read, Option.bind_assoc]
    rfl
  rw [tree?, hmark]
  rw [if_pos hall, hdeclaration, if_neg nofun, htree, hread]
  rfl

end XmlBinding
