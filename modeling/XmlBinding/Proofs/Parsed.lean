import Mathlib.Data.List.TakeWhile
import XmlBinding.Markup.Tree
import XmlBinding.Proofs.Outcome

/-!
The names in a document. The tokenizer lets no other names pass than those of the grammar, and the
tags of a tree are the tags of the document; so whatever is read, all its names are names.
-/

namespace XmlBinding.Markup

/-- A name as the grammar has it. Before a colon there may be nothing. -/
structure RawName.Named (name : RawName) : Prop where
  localName : NCName.accepts name.localName = true
  nsPrefix : name.nsPrefix = [] ∨ NCName.accepts name.nsPrefix = true

/-- A start tag whose names are names. -/
structure TagNamed (name : RawName) (attributes : List RawAttribute) : Prop where
  name : name.Named
  attributes : ∀ a ∈ attributes, a.name.Named

def Token.Named : Token → Prop
  | .openTag name attributes _ => TagNamed name attributes
  | _ => True

/-! ### Trees of tags -/

mutual

/-- A statement about every tag of a tree. -/
def Tree.Everywhere (P : RawName → List RawAttribute → Prop) : Tree → Prop
  | ⟨name, attributes, pieces⟩ => P name attributes ∧ Piece.everywhereAll P pieces
termination_by structural t => t

def Piece.everywhere (P : RawName → List RawAttribute → Prop) : Piece → Prop
  | .text _ => True
  | .element t => Tree.Everywhere P t
termination_by structural p => p

def Piece.everywhereAll (P : RawName → List RawAttribute → Prop) : List Piece → Prop
  | [] => True
  | p :: ps => Piece.everywhere P p ∧ Piece.everywhereAll P ps
termination_by structural ps => ps

end

section Everywhere

variable {P Q : RawName → List RawAttribute → Prop} {name : RawName}
  {attributes : List RawAttribute} {pieces : List Piece}

theorem Piece.everywhereAll_iff :
    Piece.everywhereAll P pieces ↔ ∀ t, .element t ∈ pieces → t.Everywhere P := by
  induction pieces with
  | nil => simp [Piece.everywhereAll]
  | cons p ps ih =>
      rw [Piece.everywhereAll, ih]
      cases p with
      | text value => simp [Piece.everywhere]
      | element t => simp [Piece.everywhere]

theorem Tree.everywhere_mk :
    Tree.Everywhere P ⟨name, attributes, pieces⟩ ↔
      P name attributes ∧ ∀ t, .element t ∈ pieces → t.Everywhere P := by
  rw [Tree.Everywhere, Piece.everywhereAll_iff]

@[elab_as_elim, induction_eliminator]
theorem Tree.induction {motive : Tree → Prop}
    (mk : ∀ name attributes pieces, (∀ t, .element t ∈ pieces → motive t) →
      motive ⟨name, attributes, pieces⟩) (t : Tree) : motive t := by
  -- A piece, or a list of pieces, has the motive for the elements in it.
  refine Tree.rec (motive_1 := motive) (motive_2 := fun p => ∀ t, p = .element t → motive t)
    (motive_3 := fun ps => ∀ t, .element t ∈ ps → motive t) mk ?_ ?_ ?_ ?_ t
  · intro _ t h
    cases h
  · intro _ ih t h
    cases h
    exact ih
  · intro t h
    cases h
  · intro p ps ihp ihps t h
    rcases List.mem_cons.1 h with h | h
    · exact ihp t h.symm
    · exact ihps t h

end Everywhere

/-! ### The names of tokens -/

theorem accepts_of_parts {cs : List Char} (hparts : ∀ c ∈ cs, NCName.isPart c = true)
    (hstart : cs.head?.all NCName.isStart = true) (hne : cs ≠ []) : NCName.accepts cs = true := by
  cases cs with
  | nil => exact absurd rfl hne
  | cons c rest =>
      rw [NCName.accepts, Bool.and_eq_true, List.all_eq_true]
      exact ⟨hstart, fun c' hc' => hparts c' (List.mem_cons_of_mem c hc')⟩

theorem named_of_rawName? {cs : List Char} {name : RawName}
    (hcs : ∀ c ∈ cs, isNamePart c = true) (h : rawName? cs = some name) : name.Named := by
  have hpart {c : Char} (hc : c ∈ cs) (hcolon : c ≠ ':') : NCName.isPart c = true := by
    simpa [isNamePart, hcolon] using hcs c hc
  rw [rawName?] at h
  split at h
  · next hdrop =>
      rw [List.dropWhile_eq_nil_iff] at hdrop
      dsimp only at h
      split at h
      · next hstart =>
          cases h
          rw [Bool.and_eq_true, Bool.not_eq_true', List.isEmpty_eq_false_iff] at hstart
          refine ⟨accepts_of_parts (fun c hc => hpart hc ?_) hstart.1 hstart.2, .inl rfl⟩
          exact bne_iff_ne.1 (hdrop c hc)
      · cases h
  · next colon after hdrop =>
      have happend : cs.takeWhile (· != ':') ++ colon :: after = cs := by
        rw [← hdrop, List.takeWhile_append_dropWhile]
      dsimp only at h
      split at h
      · next hstart =>
          cases h
          simp only [Bool.and_eq_true, Bool.not_eq_true', List.isEmpty_eq_false_iff] at hstart
          obtain ⟨⟨⟨hbefore, hafter⟩, hne⟩, hcolon⟩ := hstart
          refine ⟨accepts_of_parts (fun c hc => hpart ?_ ?_) hafter hne, ?_⟩
          · rw [← happend]
            exact List.mem_append_right _ (List.mem_cons_of_mem colon hc)
          · rintro rfl
            rw [List.contains_iff_mem.2 hc] at hcolon
            cases hcolon
          · by_cases hempty : cs.takeWhile (· != ':') = []
            · exact .inl hempty
            · refine .inr (accepts_of_parts (fun c hc => hpart ?_ ?_) hbefore hempty)
              · exact (List.takeWhile_sublist _).mem hc
              · have hbefore := List.mem_takeWhile_imp (p := (· != ':')) hc
                exact bne_iff_ne.1 hbefore
      · cases h

theorem named_of_name? {cs rest : List Char} {name : RawName} (h : name? cs = some (name, rest)) :
    name.Named := by
  obtain ⟨name', hname, heq⟩ := Option.map_eq_some_iff.1 h
  cases heq
  exact named_of_rawName? (fun c hc => List.mem_takeWhile_imp hc) hname

theorem named_of_rawAttribute? {cs rest : List Char} {a : RawAttribute}
    (h : rawAttribute? cs = some (a, rest)) : a.name.Named := by
  obtain ⟨⟨name, afterName⟩, hname, h⟩ := Option.bind_eq_some_iff.1 h
  obtain ⟨afterEquals, -, h⟩ := Option.bind_eq_some_iff.1 h
  obtain ⟨⟨value, afterValue⟩, -, h⟩ := Option.bind_eq_some_iff.1 h
  cases h
  exact named_of_name? hname

theorem named_of_tagRest? {cs rest : List Char} {attributes : List RawAttribute} {closed : Bool}
    (h : tagRest? cs = some (attributes, closed, rest)) : ∀ a ∈ attributes, a.name.Named := by
  fun_induction tagRest? cs generalizing attributes closed rest with
  | case1 =>
      cases h
      exact List.forall_mem_nil _
  | case2 cs _ _ first after hfirst ih =>
      obtain ⟨⟨others, c, tail⟩, hothers, heq⟩ := Option.map_eq_some_iff.1 h
      cases heq
      exact List.forall_mem_cons.2 ⟨named_of_rawAttribute? hfirst, ih hothers⟩
  | case3 => cases h
  | case4 => cases h

theorem named_of_markup? {cs rest : List Char} {token : Token}
    (h : markup? cs = some (some token, rest)) : token.Named := by
  unfold markup? at h
  split at h
  · obtain ⟨after, -, heq⟩ := Option.map_eq_some_iff.1 h
    cases heq
  · obtain ⟨⟨body, after⟩, -, heq⟩ := Option.map_eq_some_iff.1 h
    cases heq
    trivial
  · obtain ⟨after, -, heq⟩ := Option.map_eq_some_iff.1 h
    cases heq
  · obtain ⟨⟨name, after⟩, -, heq⟩ := Option.map_eq_some_iff.1 h
    cases heq
    trivial
  · obtain ⟨⟨name, after⟩, hname, h⟩ := Option.bind_eq_some_iff.1 h
    obtain ⟨⟨attributes, closed, tail⟩, hrest, heq⟩ := Option.bind_eq_some_iff.1 h
    cases heq
    exact ⟨named_of_name? hname, named_of_tagRest? hrest⟩

theorem named_of_tokens? {cs : List Char} {tokens : List Token} (h : tokens? cs = some tokens) :
    ∀ token ∈ tokens, token.Named := by
  fun_induction tokens? cs generalizing tokens with
  | case1 =>
      cases h
      exact List.forall_mem_nil _
  | case2 rest token after hmarkup ih =>
      obtain ⟨others, hothers, rfl⟩ := Option.map_eq_some_iff.1 h
      exact List.forall_mem_cons.2 ⟨named_of_markup? hmarkup, ih hothers⟩
  | case3 rest after hmarkup ih => exact ih h
  | case4 => cases h
  | case5 => cases h
  | case6 =>
      rename_i ih
      obtain ⟨others, hothers, rfl⟩ := Option.map_eq_some_iff.1 h
      exact List.forall_mem_cons.2 ⟨trivial, ih hothers⟩

/-! ### The names of a tree -/

/-- A text is joined to one that stands there or stands by itself; the elements stay. -/
theorem OpenTag.element_mem_pushText {top : OpenTag} {value : List Char} {t : Tree} :
    .element t ∈ (top.pushText value).pieces ↔ .element t ∈ top.pieces := by
  obtain ⟨name, attributes, pieces⟩ := top
  match pieces with
  | .text before :: pieces => simp [pushText]
  | [] | .element _ :: pieces => simp [pushText, push]

theorem OpenTag.tag_pushText (top : OpenTag) (value : List Char) :
    (top.pushText value).name = top.name ∧ (top.pushText value).attributes = top.attributes := by
  rw [pushText]
  split <;> exact ⟨rfl, rfl⟩

/-- Every tag that is open, and every one that is closed, has names. -/
structure Building.Named (b : Building) : Prop where
  openTags : ∀ t ∈ b.openTags, TagNamed t.name t.attributes ∧
    ∀ below, .element below ∈ t.pieces → below.Everywhere TagNamed
  root : ∀ t, b.root = some t → t.Everywhere TagNamed

namespace Building

variable {b b' : Building}

theorem Named.place (h : b.Named) {t : Tree} (ht : t.Everywhere TagNamed)
    (hb : b.place t = some b') : b'.Named := by
  obtain ⟨openTags, root⟩ := b
  match openTags, root with
  | top :: below, root =>
      cases hb
      obtain ⟨htop, hbelow⟩ := List.forall_mem_cons.1 h.openTags
      refine ⟨List.forall_mem_cons.2 ⟨⟨htop.1, fun t' ht' => ?_⟩, hbelow⟩, h.root⟩
      rcases List.mem_cons.1 ht' with heq | hmem
      · cases heq
        exact ht
      · exact htop.2 t' hmem
  | [], none =>
      cases hb
      exact ⟨List.forall_mem_nil _, fun t' ht' => Option.some.inj ht' ▸ ht⟩
  | [], some _ => cases hb

theorem Named.addText (h : b.Named) {value : List Char} (hb : b.addText value = some b') :
    b'.Named := by
  obtain ⟨openTags, root⟩ := b
  match openTags with
  | [] => cases hb
  | top :: below =>
      cases hb
      obtain ⟨htop, hbelow⟩ := List.forall_mem_cons.1 h.openTags
      refine ⟨List.forall_mem_cons.2 ⟨?_, hbelow⟩, h.root⟩
      rw [(top.tag_pushText value).1, (top.tag_pushText value).2]
      exact ⟨htop.1, fun t ht => htop.2 t (OpenTag.element_mem_pushText.1 ht)⟩

theorem Named.step (h : b.Named) {token : Token} (ht : token.Named)
    (hb : b.step token = some b') : b'.Named := by
  cases token with
  | text raw =>
      rw [Building.step] at hb
      split at hb
      · cases hb
        exact h
      · obtain ⟨value, -, hb⟩ := Option.bind_eq_some_iff.1 hb
        exact h.addText hb
  | literal raw => exact h.addText hb
  | openTag name attributes closed =>
      rw [Building.step] at hb
      split at hb
      · refine h.place (Tree.everywhere_mk.2 ⟨ht, fun t hbelow => ?_⟩) hb
        cases hbelow
      · rw [Building.open?] at hb
        split at hb
        · cases hb
        · cases hb
          refine ⟨List.forall_mem_cons.2 ⟨⟨ht, fun t hbelow => ?_⟩, h.openTags⟩, h.root⟩
          cases hbelow
  | closeTag name =>
      obtain ⟨openTags, root⟩ := b
      match openTags with
      | [] => cases hb
      | top :: below =>
          rw [Building.step, Building.close?] at hb
          dsimp only at hb
          split at hb
          · obtain ⟨htop, hbelow⟩ := List.forall_mem_cons.1 h.openTags
            refine Named.place (b := ⟨below, root⟩) ⟨hbelow, h.root⟩ ?_ hb
            refine Tree.everywhere_mk.2 ⟨htop.1, fun t ht' => htop.2 t ?_⟩
            exact List.mem_reverse.1 ht'
          · cases hb

end Building

theorem named_of_treeOfTokens? {tokens : List Token} {t : Tree}
    (htokens : ∀ token ∈ tokens, token.Named) (h : treeOfTokens? tokens = some t) :
    t.Everywhere TagNamed := by
  obtain ⟨b, hrun, hfinish⟩ := Option.bind_eq_some_iff.1 h
  have hb : b.Named :=
    foldlM_option_invariant (fun token hmem _ _ hb hstep => hb.step (htokens token hmem) hstep)
      (⟨List.forall_mem_nil _, nofun⟩ : Building.start.Named) hrun
  rw [Building.finish] at hfinish
  split at hfinish
  · exact hb.root t hfinish
  · cases hfinish

/-- Every tag of a document has names. -/
theorem named_of_tree? {cs : List Char} {t : Tree} (h : tree? cs = some t) :
    t.Everywhere TagNamed := by
  rw [tree?] at h
  split at h
  · split at h
    · obtain ⟨ts, hts, h⟩ := Option.bind_eq_some_iff.1 h
      obtain ⟨rest, -, hrest⟩ := Option.bind_eq_some_iff.1 hts
      exact named_of_treeOfTokens? (named_of_tokens? hrest) h
    · obtain ⟨ts, hts, h⟩ := Option.bind_eq_some_iff.1 h
      exact named_of_treeOfTokens? (named_of_tokens? hts) h
  · cases h

end XmlBinding.Markup
