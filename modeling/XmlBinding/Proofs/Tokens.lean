import XmlBinding.Proofs.Escaping
import XmlBinding.Proofs.Scope
import XmlBinding.Markup.Tree

/-!
Written tags, read piece by piece. Whatever follows, the reader finds the very name, attributes and
end of a tag that were written, since none of their characters can be taken for one that ends them.
-/

namespace XmlBinding

open Markup

/-! ### Classes of characters -/

theorem isNamePart_of_isPart {c : Char} (h : NCName.isPart c = true) : isNamePart c = true := by
  rw [isNamePart, h, Bool.true_or]

/-- The characters around names cannot be in them. -/
theorem ne_of_isNamePart {c : Char} (h : isNamePart c = true) :
    ∀ c' ∈ ['<', '>', '/', '=', '"', '!', '?', ' ', '\t', '\n', '\r'], c ≠ c' := by
  have hother : ['<', '>', '/', '=', '"', '!', '?', ' ', '\t', '\n', '\r'].all
      (fun c' => !isNamePart c') = true := by
    decide
  rintro c' hc' rfl
  have hnone := List.all_eq_true.1 hother c hc'
  rw [h] at hnone
  cases hnone

theorem isSpace_of_isNamePart {c : Char} (h : isNamePart c = true) : isSpace c = false := by
  have hne := ne_of_isNamePart h
  simp only [List.mem_cons, List.not_mem_nil, or_false, forall_eq_or_imp, forall_eq] at hne
  simp [isSpace, hne]

theorem dropSpaces_of_head {cs : List Char} (h : ∀ c ∈ cs.head?, isSpace c = false) :
    dropSpaces cs = cs := by
  cases cs with
  | nil => rfl
  | cons c rest =>
      have hc : isSpace c = false := h c rfl
      rw [dropSpaces, List.dropWhile_cons_of_neg (by simp [hc])]

/-! ### Names -/

/-- The name of a tag or an attribute, before its prefix is looked up. -/
def QName.raw (q : QName) : RawName :=
  ⟨(q.nsPrefix.getD "").toList, q.localName.toList⟩

/-- The name of the attribute that a declaration is written as. -/
def Declaration.raw (d : Declaration) : RawName :=
  match d.nsPrefix with
  | some p => ⟨"xmlns".toList, p.toList⟩
  | none => ⟨[], "xmlns".toList⟩

/-- A text that is read as a name, and as nothing else. -/
structure Spells (text : String) (name : RawName) : Prop where
  parts : ∀ c ∈ text.toList, isNamePart c = true
  read : rawName? text.toList = some name

theorem exists_cons_of_isNCName {s : String} (h : isNCName s = true) :
    ∃ c cs, s.toList = c :: cs ∧ NCName.isStart c = true := by
  rw [isNCName] at h
  cases hs : s.toList with
  | nil => rw [hs] at h; cases h
  | cons c cs =>
      rw [hs, NCName.accepts, Bool.and_eq_true] at h
      exact ⟨c, cs, rfl, h.1⟩

theorem isPart_of_isNCName {s : String} (h : isNCName s = true) :
    ∀ c ∈ s.toList, NCName.isPart c = true := by
  rw [isNCName] at h
  cases hs : s.toList with
  | nil => exact List.forall_mem_nil _
  | cons c cs =>
      rw [hs, NCName.accepts, Bool.and_eq_true, List.all_eq_true] at h
      rw [List.forall_mem_cons, NCName.isPart, h.1]
      exact ⟨rfl, h.2⟩

theorem spells_local {s : String} (h : isNCName s = true) : Spells s ⟨[], s.toList⟩ := by
  obtain ⟨c, cs, hs, hstart⟩ := exists_cons_of_isNCName h
  refine ⟨fun c hc => isNamePart_of_isPart (isPart_of_isNCName h c hc), ?_⟩
  have hcolon : s.toList.dropWhile (· != ':') = [] := by
    rw [List.dropWhile_eq_nil_iff]
    intro c hc
    rw [bne_iff_ne]
    rintro rfl
    exact not_mem_colon_of_isNCName h hc
  rw [rawName?, hcolon, hs]
  simp [hstart]

theorem spells_prefixed {p s : String} (hp : isNCName p = true) (hs : isNCName s = true) :
    Spells s!"{p}:{s}" ⟨p.toList, s.toList⟩ := by
  obtain ⟨c, cs, hps, hstart⟩ := exists_cons_of_isNCName hp
  obtain ⟨c', cs', hss, hstart'⟩ := exists_cons_of_isNCName hs
  have hlist : (s!"{p}:{s}").toList = p.toList ++ ':' :: s.toList := by
    simp [toString]
  have hinside : ∀ c ∈ p.toList, (c != ':') = true := by
    intro c hc
    rw [bne_iff_ne]
    rintro rfl
    exact not_mem_colon_of_isNCName hp hc
  constructor
  · rw [hlist]
    intro c hc
    rcases List.mem_append.1 hc with hc | hc
    · exact isNamePart_of_isPart (isPart_of_isNCName hp c hc)
    · rcases List.mem_cons.1 hc with rfl | hc
      · rfl
      · exact isNamePart_of_isPart (isPart_of_isNCName hs c hc)
  · have hdrop : (p.toList ++ ':' :: s.toList).dropWhile (· != ':') = ':' :: s.toList := by
      rw [List.dropWhile_append_of_pos hinside, List.dropWhile_cons_of_neg (by simp)]
    have htake : (p.toList ++ ':' :: s.toList).takeWhile (· != ':') = p.toList := by
      rw [List.takeWhile_append_of_pos hinside, List.takeWhile_cons_of_neg (by simp),
        List.append_nil]
    have hcolon : s.toList.contains ':' = false := by
      rw [List.contains_eq_mem, decide_eq_false_iff_not]
      exact not_mem_colon_of_isNCName hs
    rw [hlist, rawName?, hdrop]
    dsimp only
    rw [htake, hcolon, hps, hss]
    simp [hstart, hstart']

/-- A name is read as its prefix and its local part. -/
theorem QName.spells {q : QName} (hlocal : isNCName q.localName = true)
    (hp : q.PrefixIn fun p => isNCName p = true) : Spells q.prefixedName q.raw := by
  rw [prefixedName, raw]
  cases hq : q.nsPrefix with
  | none => exact spells_local hlocal
  | some p => exact spells_prefixed (hp p hq) hlocal

theorem Declaration.spells {d : Declaration}
    (h : ∀ p, d.nsPrefix = some p → isNCName p = true) : Spells d.key d.raw := by
  rw [key, raw]
  cases hd : d.nsPrefix with
  | none => exact spells_local (by decide)
  | some p => exact spells_prefixed (p := "xmlns") (by decide) (h p hd)

theorem Spells.exists_cons {text : String} {name : RawName} (h : Spells text name) :
    ∃ c cs, text.toList = c :: cs ∧ isNamePart c = true := by
  cases hs : text.toList with
  | nil =>
      have hread := h.read
      rw [hs] at hread
      cases hread
  | cons c cs => exact ⟨c, cs, rfl, h.parts c (hs ▸ List.mem_cons_self)⟩

/-- What follows a name is left. -/
theorem Spells.name? {text : String} {name : RawName} (h : Spells text name) {c : Char}
    (hc : isNamePart c = false) (rest : List Char) :
    Markup.name? (text.toList ++ c :: rest) = some (name, c :: rest) := by
  have htake : (text.toList ++ c :: rest).takeWhile isNamePart = text.toList := by
    rw [List.takeWhile_append_of_pos h.parts, List.takeWhile_cons_of_neg (by simp [hc]),
      List.append_nil]
  have hdrop : (text.toList ++ c :: rest).dropWhile isNamePart = c :: rest := by
    rw [List.dropWhile_append_of_pos h.parts, List.dropWhile_cons_of_neg (by simp [hc])]
  rw [Markup.name?, htake, hdrop, h.read]
  rfl

/-! ### Attributes -/

theorem quoted?_escape (value : String) (rest : List Char) :
    quoted? ('"' :: (escape value ++ '"' :: rest)) = some (escape value, rest) := by
  have hinside : ∀ c ∈ escape value, (c != '"' && c != '<') = true := by
    intro c hc
    rw [Bool.and_eq_true, bne_iff_ne, bne_iff_ne]
    constructor
    · rintro rfl
      exact not_mem_escape (by decide) (by decide) hc
    · rintro rfl
      exact not_mem_escape (by decide) (by decide) hc
  have htake : (escape value ++ '"' :: rest).takeWhile (fun c => c != '"' && c != '<') =
      escape value := by
    rw [List.takeWhile_append_of_pos hinside, List.takeWhile_cons_of_neg (by simp),
      List.append_nil]
  have hdrop : (escape value ++ '"' :: rest).dropWhile (fun c => c != '"' && c != '<') =
      '"' :: rest := by
    rw [List.dropWhile_append_of_pos hinside, List.dropWhile_cons_of_neg (by simp)]
  rw [quoted?, if_pos (.inl rfl)]
  dsimp only
  rw [hdrop]
  dsimp only
  rw [if_pos rfl, htake]

theorem rawAttribute?_append {key value : String} {name : RawName} (h : Spells key name)
    (rest : List Char) :
    rawAttribute? (key.toList ++ '=' :: '"' :: (escape value ++ '"' :: rest)) =
      some (⟨name, escape value⟩, rest) := by
  have hequals : equals? ('=' :: '"' :: (escape value ++ '"' :: rest)) =
      some ('"' :: (escape value ++ '"' :: rest)) := rfl
  rw [rawAttribute?, h.name? (by decide)]
  simp only [Option.bind_eq_bind, Option.bind_some, hequals, quoted?_escape]
  rfl

/-- An attribute as it is written, and what is read of it before references are resolved. -/
def ReadsRaw (written : String × String) (a : RawAttribute) : Prop :=
  Spells written.1 a.name ∧ a.value = escape written.2

/-- The end of a start tag. -/
def tagClose (closed : Bool) : List Char :=
  if closed then ['/', '>'] else ['>']

/-- The attributes of a tag are read up to the end of the tag. -/
theorem tagRest?_append {written : List (String × String)} {as : List RawAttribute}
    (h : List.Forall₂ ReadsRaw written as) (closed : Bool) (rest : List Char) :
    tagRest? (written.flatMap (fun w => attributeChars w.1 w.2) ++ (tagClose closed ++ rest)) =
      some (as, closed, rest) := by
  induction h with
  | nil =>
      have hspaces : dropSpaces (tagClose closed ++ rest) = tagClose closed ++ rest := by
        cases closed <;> rfl
      have hend : tagEnd? (tagClose closed ++ rest) = some (closed, rest) := by
        cases closed <;> rfl
      rw [List.flatMap_nil, List.nil_append, tagRest?, hspaces, hend]
  | @cons w a written as hw _ ih =>
      obtain ⟨key, value⟩ := w
      obtain ⟨hspells, hvalue⟩ := hw
      dsimp only at hspells hvalue
      obtain ⟨c, cs, hkey, hc⟩ := hspells.exists_cons
      generalize hmore : written.flatMap (fun w => attributeChars w.1 w.2) ++
        (tagClose closed ++ rest) = more at ih
      have hchars : ((key, value) :: written).flatMap (fun w => attributeChars w.1 w.2) ++
          (tagClose closed ++ rest) =
          ' ' :: (key.toList ++ '=' :: '"' :: (escape value ++ '"' :: more)) := by
        rw [← hmore]
        simp [attributeChars]
      have hdrop : dropSpaces (' ' :: (key.toList ++ '=' :: '"' :: (escape value ++ '"' :: more))) =
          key.toList ++ '=' :: '"' :: (escape value ++ '"' :: more) := by
        show dropSpaces (key.toList ++ _) = _
        refine dropSpaces_of_head fun c' hc' => ?_
        rw [hkey] at hc'
        obtain rfl : c = c' := Option.some.inj hc'
        exact isSpace_of_isNamePart hc
      have hopen : tagEnd? (key.toList ++ '=' :: '"' :: (escape value ++ '"' :: more)) = none := by
        have hne := ne_of_isNamePart hc
        rw [hkey, List.cons_append, tagEnd?]
        · rintro rest h
          exact absurd (List.cons.inj h).1 (hne '/' (by decide))
        · rintro rest h
          exact absurd (List.cons.inj h).1 (hne '>' (by decide))
      have hblank : (' ' :: (key.toList ++ '=' :: '"' :: (escape value ++ '"' :: more))).head?.any
          isSpace = true := rfl
      rw [hchars, tagRest?, hdrop, hopen]
      dsimp only
      rw [if_pos hblank]
      split
      · next first after hfirst =>
          rw [rawAttribute?_append hspells] at hfirst
          obtain ⟨rfl, rfl⟩ := Prod.mk.inj (Option.some.inj hfirst)
          rw [ih, ← hvalue]
          rfl
      · next hfirst =>
          rw [rawAttribute?_append hspells] at hfirst
          cases hfirst

/-! ### Tags and texts -/

/-- A start tag is read as its name and its attributes. -/
theorem markup?_openTag {text : String} {name : RawName} (hname : Spells text name)
    {written : List (String × String)} {as : List RawAttribute}
    (h : List.Forall₂ ReadsRaw written as) (closed : Bool) (rest : List Char) :
    markup? (text.toList ++ (written.flatMap (fun w => attributeChars w.1 w.2) ++
      (tagClose closed ++ rest))) = some (some (.openTag name as closed), rest) := by
  have hrest := tagRest?_append h closed rest
  obtain ⟨stop, more, hmore, hstop⟩ : ∃ stop more,
      written.flatMap (fun w => attributeChars w.1 w.2) ++ (tagClose closed ++ rest) =
        stop :: more ∧ isNamePart stop = false := by
    cases written with
    | nil => cases closed <;> exact ⟨_, _, rfl, rfl⟩
    | cons w written => exact ⟨' ', _, rfl, rfl⟩
  obtain ⟨c, cs, htext, hc⟩ := hname.exists_cons
  have hne := ne_of_isNamePart hc
  have hread := hname.name? hstop more
  rw [hmore] at hrest ⊢
  rw [htext, List.cons_append] at hread ⊢
  have hbang : c ≠ '!' := hne '!' (by decide)
  rw [markup?]
  · simp only [Option.bind_eq_bind, hread, Option.bind_some, hrest]
    rfl
  · exact fun _ h => hbang (List.cons.inj h).1
  · exact fun _ h => hbang (List.cons.inj h).1
  · exact fun _ h => hne '?' (by decide) (List.cons.inj h).1
  · exact fun _ h => hne '/' (by decide) (List.cons.inj h).1

theorem markup?_closeTag {text : String} {name : RawName} (hname : Spells text name)
    (rest : List Char) :
    markup? ('/' :: (text.toList ++ '>' :: rest)) = some (some (.closeTag name), rest) := by
  have hread := hname.name? (c := '>') (by decide) rest
  have hclose : closeTag? (text.toList ++ '>' :: rest) = some (name, rest) := by
    simp only [closeTag?, Option.bind_eq_bind, hread, Option.bind_some]
    rfl
  rw [markup?, hclose]
  rfl

theorem tokens?_tag {cs rest : List Char} {token : Token}
    (h : markup? cs = some (some token, rest)) :
    tokens? ('<' :: cs) = (tokens? rest).map (token :: ·) := by
  rw [tokens?, if_pos rfl]
  split
  · next token' rest' h' =>
      rw [h] at h'
      cases h'
      rfl
  · next rest' h' =>
      rw [h] at h'
      cases h'
  · next h' =>
      rw [h] at h'
      cases h'

theorem cut_eq_none {pattern cs : List Char} {c : Char} (hc : c ∈ pattern) (h : c ∉ cs) :
    Text.cut pattern cs = none := by
  induction cs with
  | nil => rfl
  | cons c' cs ih =>
      have hnot : ¬pattern.isPrefixOf (c' :: cs) = true := by
        intro hprefix
        exact h ((List.isPrefixOf_iff_prefix.1 hprefix).subset hc)
      rw [Text.cut, if_neg hnot, ih fun hmem => h (List.mem_cons_of_mem c' hmem)]
      rfl

/-- A text before a tag is read as a whole. -/
theorem tokens?_text {raw : List Char} (hne : raw ≠ []) (hopen : '<' ∉ raw) (hclose : '>' ∉ raw)
    (rest : List Char) :
    tokens? (raw ++ '<' :: rest) = (tokens? ('<' :: rest)).map (.text raw :: ·) := by
  have hcut : (Text.cut [']', ']', '>'] raw).isSome = false := by
    rw [cut_eq_none (c := '>') (by decide) hclose]
    rfl
  obtain ⟨c, cs, rfl⟩ := List.exists_cons_of_ne_nil hne
  rw [List.mem_cons, not_or] at hopen
  have hinside : ∀ c' ∈ cs, (c' != '<') = true := by
    intro c' hc'
    rw [bne_iff_ne]
    rintro rfl
    exact hopen.2 hc'
  have htake : (cs ++ '<' :: rest).takeWhile (· != '<') = cs := by
    rw [List.takeWhile_append_of_pos hinside, List.takeWhile_cons_of_neg (by simp),
      List.append_nil]
  have hdrop : (cs ++ '<' :: rest).dropWhile (· != '<') = '<' :: rest := by
    rw [List.dropWhile_append_of_pos hinside, List.dropWhile_cons_of_neg (by simp)]
  rw [List.cons_append, tokens?, if_neg fun h => hopen.1 h.symm]
  dsimp only
  rw [htake, hdrop, hcut]
  rfl

end XmlBinding
