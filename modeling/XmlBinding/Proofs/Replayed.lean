import XmlBinding.Proofs.Parsed
import XmlBinding.Proofs.Serialized

/-!
The namespaces of a tree that is read. The tree has declarations of its own, and prefixes that were
looked up again; replaying the declarations gives every prefix the meaning that it has in the
document at this place, and the names of the tree are those of the document. Only an attribute may
be left without a prefix: that is, where the first binding of its namespace is the default.
-/

namespace XmlBinding

open Markup

/-! ### A document alongside the tree that is read of it -/

section Along

variable {P : List Declaration → Scope → RawName → List RawAttribute → Tag → Prop}
  {outer : List Declaration} {scope : Scope}

mutual

/-- A statement about every tag of a document and the tag that is read of it: given the bindings in
force on the one, the scope in force on the other, and the attributes that declare nothing. Texts
stand in their own places. -/
def Markup.Tree.Along (P : List Declaration → Scope → RawName → List RawAttribute → Tag → Prop)
    (outer : List Declaration) (scope : Scope) : Tree → Element → Prop
  | ⟨name, attributes, pieces⟩, e =>
      ∃ split, splitTag? attributes = some split ∧
        P (inForce split.declared outer) (scope.declareAll e.declarations) name split.attributes
          e.toTag ∧
          Piece.alongAll P (inForce split.declared outer) (scope.declareAll e.declarations) pieces
            e.children
termination_by structural t => t

def Markup.Piece.along (P : List Declaration → Scope → RawName → List RawAttribute → Tag → Prop)
    (outer : List Declaration) (scope : Scope) : Piece → Node → Prop
  | .text value, n => n = .text (String.ofList value)
  | .element t, n => ∃ e, n = .element e ∧ Tree.Along P outer scope t e
termination_by structural p => p

def Markup.Piece.alongAll (P : List Declaration → Scope → RawName → List RawAttribute → Tag → Prop)
    (outer : List Declaration) (scope : Scope) : List Piece → List Node → Prop
  | [], nodes => nodes = []
  | p :: ps, nodes =>
      ∃ n ns, nodes = n :: ns ∧ Piece.along P outer scope p n ∧ Piece.alongAll P outer scope ps ns
termination_by structural ps => ps

end

theorem Markup.Piece.alongAll_iff {pieces : List Piece} {nodes : List Node} :
    Piece.alongAll P outer scope pieces nodes ↔
      List.Forall₂ (Piece.along P outer scope) pieces nodes := by
  induction pieces generalizing nodes with
  | nil => rw [Piece.alongAll, List.forall₂_nil_left_iff]
  | cons p ps ih =>
      rw [Piece.alongAll, List.forall₂_cons_left_iff]
      simp only [ih]
      constructor
      · rintro ⟨n, ns, rfl, hn, hns⟩
        exact ⟨n, ns, hn, hns, rfl⟩
      · rintro ⟨n, ns, hn, hns, rfl⟩
        exact ⟨n, ns, rfl, hn, hns⟩

theorem Markup.Tree.along_mk {name : RawName} {attributes : List RawAttribute}
    {pieces : List Piece} {tag : Tag} {nodes : List Node} :
    Tree.Along P outer scope ⟨name, attributes, pieces⟩ ⟨tag, nodes⟩ ↔
      ∃ split, splitTag? attributes = some split ∧
        P (inForce split.declared outer) (scope.declareAll tag.declarations) name split.attributes
          tag ∧
          List.Forall₂
            (Piece.along P (inForce split.declared outer) (scope.declareAll tag.declarations))
            pieces nodes := by
  rw [Tree.Along]
  simp only [Piece.alongAll_iff]

end Along

/-! ### The bindings in a document -/

/-- A declaration that a document may make: of a name other than `xml`, or of the default, and not
for the namespace of XML itself. -/
structure Declaration.Allowed (d : Declaration) : Prop where
  named : ∀ p, d.nsPrefix = some p → isNCName p = true ∧ p ≠ "xml"
  uri_ne : d.uri ≠ xmlUri

namespace Markup

variable {declared outer bindings : List Declaration} {scope : Scope}

/-- Bindings of distinct prefixes, as a document may make them. -/
structure Lawful (bindings : List Declaration) : Prop where
  distinct : (bindings.map Declaration.nsPrefix).Nodup
  allowed : ∀ d ∈ bindings, d.Allowed

/-- No prefix, and no default, is declared twice on a tag. -/
def DeclaresOnce (_name : RawName) (attributes : List RawAttribute) : Prop :=
  ∀ split, splitTag? attributes = some split → (split.declared.map Declaration.nsPrefix).Nodup

theorem allowed_of_sortAttribute {split split' : SplitTag} {a : RawAttribute}
    (ha : a.name.Named) (hsplit : ∀ d ∈ split.declared, d.Allowed)
    (h : sortAttribute split a = some split') : ∀ d ∈ split'.declared, d.Allowed := by
  have hadd {d : Declaration} (hd : d.Allowed) : ∀ d' ∈ split.declared ++ [d], d'.Allowed := by
    intro d' hd'
    rcases List.mem_append.1 hd' with hd' | hd'
    · exact hsplit d' hd'
    · exact List.mem_singleton.1 hd' ▸ hd
  rw [sortAttribute] at h
  split at h
  · obtain ⟨value, -, h⟩ := Option.bind_eq_some_iff.1 h
    dsimp only at h
    split at h
    · cases h
    · next hallowed =>
        split at h
        · cases h
        · split at h
          · cases h
            exact hsplit
          · next huri =>
              cases h
              refine hadd ⟨fun p hp => ?_, huri⟩
              cases hp
              refine ⟨?_, fun hxml => hallowed (.inr ?_)⟩
              · rw [isNCName, String.toList_ofList]
                exact ha.localName
              · exact iff_of_true hxml huri
  · split at h
    · obtain ⟨value, -, h⟩ := Option.bind_eq_some_iff.1 h
      dsimp only at h
      split at h
      · cases h
      · next hallowed =>
          cases h
          refine hadd ⟨fun p hp => ?_, fun huri => hallowed (.inl huri)⟩
          cases hp
    · cases h
      exact hsplit

theorem allowed_of_splitTag? {attributes : List RawAttribute} {split : SplitTag}
    (hnamed : ∀ a ∈ attributes, a.name.Named) (h : splitTag? attributes = some split) :
    ∀ d ∈ split.declared, d.Allowed :=
  foldlM_option_invariant (motive := fun split => ∀ d ∈ split.declared, d.Allowed)
    (fun a ha _ _ hsplit hstep => allowed_of_sortAttribute (hnamed a ha) hsplit hstep)
    (List.forall_mem_nil _) h

theorem nodup_inForce (hdeclared : (declared.map Declaration.nsPrefix).Nodup)
    (houter : (outer.map Declaration.nsPrefix).Nodup) :
    ((inForce declared outer).map Declaration.nsPrefix).Nodup := by
  refine inForce_induction (motive := fun ds => (ds.map Declaration.nsPrefix).Nodup) hdeclared
    houter fun ds hds d _ hfresh => ?_
  rw [List.map_append, List.nodup_append]
  refine ⟨hds, List.nodup_singleton _, fun p hp q hq hsame => ?_⟩
  obtain ⟨d', hd', rfl⟩ := List.mem_map.1 hp
  obtain rfl : q = d.nsPrefix := List.mem_singleton.1 hq
  exact hfresh d' hd' hsame

theorem lawful_nil : Lawful [] :=
  ⟨List.nodup_nil, List.forall_mem_nil _⟩

theorem Lawful.inForce (hdeclared : Lawful declared) (houter : Lawful outer) :
    Lawful (inForce declared outer) where
  distinct := nodup_inForce hdeclared.distinct houter.distinct
  allowed := forall_mem_inForce hdeclared.allowed houter.allowed

theorem Lawful.find?_of_mem (h : Lawful bindings) {d : Declaration} (hd : d ∈ bindings) :
    (bindings.find? fun d' => d'.nsPrefix == d.nsPrefix) = some d := by
  have hdistinct := h.distinct
  clear h
  induction bindings with
  | nil => cases hd
  | cons first rest ih =>
      rw [List.map_cons, List.nodup_cons] at hdistinct
      rcases List.mem_cons.1 hd with rfl | hd
      · exact List.find?_cons_of_pos (beq_self_eq_true _)
      · have hne : first.nsPrefix ≠ d.nsPrefix :=
          fun heq => hdistinct.1 (heq ▸ List.mem_map_of_mem hd)
        rw [List.find?_cons_of_neg (by simpa using hne), ih hd hdistinct.2]

theorem nsPrefix_ne_xml {d : Declaration} (h : d.Allowed) : d.nsPrefix ≠ some "xml" :=
  fun hp => (h.named "xml" hp).2 rfl

theorem nsPrefix_ne_empty {d : Declaration} (h : d.Allowed) : d.nsPrefix ≠ some "" :=
  fun hp => ne_empty_of_isNCName (h.named "" hp).1 rfl

/-- A binding in force in the document is one in the scope, too. -/
theorem Agrees.lookup_of_mem (h : Agrees bindings scope) (hlawful : Lawful bindings)
    {d : Declaration} (hd : d ∈ bindings) : scope.lookup d.nsPrefix = d.meaning := by
  rw [h d.nsPrefix (nsPrefix_ne_xml (hlawful.allowed d hd)), hlawful.find?_of_mem hd]
  rfl

/-- The declarations that a tag keeps are the bindings in force on it that are not around it. -/
theorem Lawful.newDeclarations_eq (h : Lawful bindings) (outer : List Declaration) :
    newDeclarations bindings outer = bindings.filter fun d => !outer.contains d := by
  have hof : (bindings.filter fun d => !outer.contains d).map
      (fun d => Declaration.of d.nsPrefix d.uri) = bindings.filter fun d => !outer.contains d := by
    refine (List.map_congr_left fun d hd => ?_).trans (List.map_id _)
    have hp := nsPrefix_ne_empty (h.allowed d (List.mem_of_mem_filter hd))
    rw [Declaration.of, present_eq_self_iff.2 hp]
    rfl
  have hnodup : (bindings.filter fun d => !outer.contains d).Nodup :=
    (List.Nodup.of_map _ h.distinct).filter _
  rw [newDeclarations, ← List.foldl_map, hof, foldl_addDeclaration, eraseDups_of_nodup hnodup]

/-- Replaying the declarations that a tag keeps gives the bindings in force on it. -/
theorem Agrees.replay (h : Agrees outer scope) (houter : Lawful outer)
    (hdeclared : Lawful declared) :
    Agrees (inForce declared outer)
      (scope.declareAll (newDeclarations (inForce declared outer) outer)) := by
  have hlawful := hdeclared.inForce houter
  rw [hlawful.newDeclarations_eq]
  intro k hk
  cases hfound : (inForce declared outer).find? fun d => d.nsPrefix == k with
  | none =>
      have habsent : ∀ d ∈ (inForce declared outer).filter (fun d => !outer.contains d),
          d.nsPrefix ≠ k := by
        intro d hd
        simpa using List.find?_eq_none.1 hfound d (List.mem_of_mem_filter hd)
      rw [find?_inForce, Option.or_eq_none_iff] at hfound
      rw [Scope.lookup_declareAll_of_absent habsent, h k hk, hfound.2]
  | some d =>
      have hd := List.mem_of_find?_eq_some hfound
      obtain rfl : d.nsPrefix = k := by simpa using List.find?_some hfound
      by_cases hmem : d ∈ outer
      · -- A binding that was there before is not declared again, nor is its prefix.
        have habsent : ∀ d' ∈ (inForce declared outer).filter (fun d => !outer.contains d),
            d'.nsPrefix ≠ d.nsPrefix := by
          intro d' hd' hsame
          have hd'' := hlawful.find?_of_mem (List.mem_of_mem_filter hd')
          rw [hsame, hfound] at hd''
          obtain rfl : d = d' := Option.some.inj hd''
          have hother := (List.mem_filter.1 hd').2
          simp [hmem] at hother
        rw [Scope.lookup_declareAll_of_absent habsent]
        exact h.lookup_of_mem houter hmem
      · have hdistinct : (((inForce declared outer).filter fun d => !outer.contains d).map
            Declaration.nsPrefix).Nodup :=
          hlawful.distinct.sublist (List.filter_sublist.map _)
        exact Scope.lookup_declareAll_of_mem hdistinct (List.mem_filter.2 ⟨hd, by simpa using hmem⟩)

/-! ### The names that are read -/

/-- The first binding of a namespace is the default. -/
def DefaultFirst (bindings : List Declaration) (uri : String) : Prop :=
  ∃ d, (bindings.find? fun d => d.uri == uri) = some d ∧ d.nsPrefix = none

theorem exists_of_uriOf? {k : Option String} {uri : String} (h : uriOf? bindings k = some uri) :
    ∃ d ∈ bindings, d.uri = uri := by
  obtain ⟨d, hd, huri⟩ := Option.map_eq_some_iff.1 h
  exact ⟨d, List.mem_of_find?_eq_some hd, huri⟩

/-- The namespace of an element is one that is bound; if there is none, neither is there a default.
-/
theorem elementUri?_cases {name : RawName} {uri : Option String}
    (h : elementUri? bindings name = some uri) :
    (uri = none ∧ (bindings.find? fun d => d.nsPrefix == none) = none) ∨
      ∃ d ∈ bindings, uri = some d.uri := by
  rw [elementUri?] at h
  split at h
  · cases huri : uriOf? bindings none with
    | none => exact .inl ⟨(Option.some.inj h).symm.trans huri, Option.map_eq_none_iff.1 huri⟩
    | some u =>
        obtain ⟨d, hd, rfl⟩ := exists_of_uriOf? huri
        exact .inr ⟨d, hd, (Option.some.inj h).symm.trans huri⟩
  · obtain ⟨u, huri, rfl⟩ := Option.map_eq_some_iff.1 h
    obtain ⟨d, hd, rfl⟩ := exists_of_uriOf? huri
    exact .inr ⟨d, hd, rfl⟩

theorem attributeUri?_cases {name : RawName} {uri : Option String}
    (h : attributeUri? bindings name = some uri) :
    uri = none ∨ uri = some xmlUri ∨ ∃ d ∈ bindings, uri = some d.uri := by
  rw [attributeUri?] at h
  split at h
  · exact .inl (Option.some.inj h).symm
  · split at h
    · exact .inr (.inl (Option.some.inj h).symm)
    · obtain ⟨u, huri, rfl⟩ := Option.map_eq_some_iff.1 h
      obtain ⟨d, hd, rfl⟩ := exists_of_uriOf? huri
      exact .inr (.inr ⟨d, hd, rfl⟩)

/-- A name that is made for a bound namespace has the prefix of the first binding of it. -/
theorem Lawful.exists_qualified (h : Lawful bindings) {d : Declaration} (hd : d ∈ bindings)
    (localName : List Char) :
    ∃ first ∈ bindings, first.uri = d.uri ∧
      (bindings.find? fun d' => d'.uri == d.uri) = some first ∧
        qualified bindings (some d.uri) localName =
          ⟨⟨present (some d.uri), String.ofList localName⟩, first.nsPrefix⟩ := by
  have hfound : (bindings.find? fun d' => d'.uri == d.uri).isSome = true := by
    rw [List.find?_isSome]
    exact ⟨d, hd, beq_self_eq_true _⟩
  obtain ⟨first, hfirst⟩ := Option.isSome_iff_exists.1 hfound
  have hmem := List.mem_of_find?_eq_some hfirst
  have huri : first.uri = d.uri := by simpa using List.find?_some hfirst
  refine ⟨first, hmem, huri, hfirst, ?_⟩
  have hprefix : prefixOf? bindings d.uri = first.nsPrefix := by
    rw [prefixOf?, if_neg (h.allowed d hd).uri_ne, hfirst]
    rfl
  have hp := nsPrefix_ne_empty (h.allowed first hmem)
  rw [qualified, Option.bind_some, hprefix, QName.of, present_eq_self_iff.2 hp]

theorem present_meaning {d : Declaration} (h : d.Allowed) :
    present d.meaning = present (some d.uri) := by
  rw [Declaration.meaning]
  cases hp : d.nsPrefix with
  | none =>
      by_cases hempty : d.uri = ""
      · rw [hempty]
        rfl
      · rw [present_of_ne hempty, present_of_ne hempty]
  | some p =>
      dsimp only
      rw [if_neg (h.named p hp).2]

/-- The name of an element that is read is bound, in the scope that agrees with the document. -/
theorem Agrees.bound_qualified (h : Agrees bindings scope) (hlawful : Lawful bindings)
    {name : RawName} {uri : Option String} (huri : Markup.elementUri? bindings name = some uri)
    (localName : List Char) :
    (qualified bindings uri localName).PrefixIn (fun p => isNCName p = true) ∧
      present (scope.lookup (qualified bindings uri localName).nsPrefix) = present uri ∧
        ∀ p, (qualified bindings uri localName).nsPrefix = some p → scope.prefixUri p ≠ none := by
  rcases elementUri?_cases huri with ⟨rfl, hnone⟩ | ⟨d, hd, rfl⟩
  · refine ⟨nofun, ?_, nofun⟩
    show present (scope.lookup none) = none
    rw [h none nofun, hnone]
    rfl
  · obtain ⟨first, hmem, hsame, -, hqualified⟩ := hlawful.exists_qualified hd localName
    have hallowed := hlawful.allowed first hmem
    have hlookup := h.lookup_of_mem hlawful hmem
    rw [hqualified]
    refine ⟨fun p hp => (hallowed.named p hp).1, ?_, fun p hp hnone => ?_⟩
    · show present (scope.lookup first.nsPrefix) = _
      rw [hlookup, present_meaning hallowed, hsame]
    · have hfirst : first.nsPrefix = some p := hp
      rw [hfirst, Scope.lookup_some, hnone] at hlookup
      exact Declaration.meaning_ne_none hfirst hlookup.symm

/-- The name of an attribute that is read has a prefix for its namespace, unless the first binding
of the namespace is the default. -/
theorem Agrees.boundIn_qualified_iff (h : Agrees bindings scope) (hlawful : Lawful bindings)
    {name : RawName} {u : Option String} (hu : Markup.attributeUri? bindings name = some u)
    {localName : List Char} {uri : String}
    (huri : (qualified bindings u localName).uri = some uri) :
    (qualified bindings u localName).BoundIn scope ↔ ¬DefaultFirst bindings uri := by
  obtain ⟨rfl, hne⟩ : u = some uri ∧ uri ≠ "" := by
    have hpresent : present u = some uri := huri
    obtain ⟨hmem, hne⟩ := Option.filter_eq_some_iff.1 hpresent
    exact ⟨hmem, by simpa using hne⟩
  rw [QName.boundIn_iff huri]
  rcases attributeUri?_cases hu with heq | heq | ⟨d, hd, heq⟩
  · cases heq
  · obtain rfl : uri = xmlUri := Option.some.inj heq
    refine iff_of_true ⟨"xml", ?_, Scope.prefixUri_xml scope⟩ ?_
    · rw [qualified, Option.bind_some, prefixOf?, if_pos rfl]
      rfl
    · rintro ⟨d, hfound, -⟩
      have hxml : d.uri = xmlUri := by simpa using List.find?_some hfound
      exact (hlawful.allowed d (List.mem_of_find?_eq_some hfound)).uri_ne hxml
  · obtain rfl : uri = d.uri := Option.some.inj heq
    obtain ⟨first, hmem, hsame, hfound, hqualified⟩ := hlawful.exists_qualified hd localName
    have hlookup := h.lookup_of_mem hlawful hmem
    rw [hqualified, DefaultFirst, hfound]
    cases hp : first.nsPrefix with
    | none =>
        refine iff_of_false ?_ (not_not_intro ⟨first, rfl, hp⟩)
        rintro ⟨p, hnone, -⟩
        cases hnone
    | some p =>
        refine iff_of_true ⟨p, rfl, ?_⟩ ?_
        · rw [hp, Declaration.meaning, hp, Scope.lookup_some] at hlookup
          rw [hlookup]
          dsimp only
          rw [if_neg ((hlawful.allowed first hmem).named p hp).2, hsame]
        · rintro ⟨d', hd', hnone⟩
          obtain rfl : first = d' := Option.some.inj hd'
          cases hp.symm.trans hnone

/-! ### The attributes that are read -/

theorem forall₂_of_mapM {α β : Type} {f : α → Option β} {as : List α} {bs : List β}
    (h : as.mapM f = some bs) : List.Forall₂ (fun a b => f a = some b) as bs := by
  induction as generalizing bs with
  | nil =>
      cases h
      exact .nil
  | cons a as ih =>
      rw [List.mapM_cons] at h
      obtain ⟨b, hb, h⟩ := Option.bind_eq_some_iff.1 h
      obtain ⟨rest, hrest, h⟩ := Option.bind_eq_some_iff.1 h
      cases h
      exact .cons hb (ih hrest)

/-- What is read of an attribute is named after its namespace and its local part. -/
def ReadsAttribute (bindings : List Declaration) (a : RawAttribute) (name : QName) : Prop :=
  ∃ uri, attributeUri? bindings a.name = some uri ∧
    name = qualified bindings uri a.name.localName

/-- The attributes of a tag are read of those of the document. -/
theorem resolveAttributes?_names {attributes : List RawAttribute} {table : NameTable String}
    (h : resolveAttributes? bindings attributes = some table) :
    (∀ k, k ∈ table.entries.map (fun e => e.1.expanded) ↔
        ∃ a ∈ attributes, ∃ name, ReadsAttribute bindings a name ∧ k = name.expanded) ∧
      ∀ e ∈ table.entries, ∃ a ∈ attributes, ReadsAttribute bindings a e.1 := by
  obtain ⟨resolved, hresolved, h⟩ := Option.bind_eq_some_iff.1 h
  have hread : List.Forall₂ (fun a r => ReadsAttribute bindings a r.2.1) attributes resolved := by
    refine (forall₂_of_mapM hresolved).imp fun a r hr => ?_
    obtain ⟨uri, huri, hr⟩ := Option.bind_eq_some_iff.1 hr
    obtain ⟨value, -, hr⟩ := Option.bind_eq_some_iff.1 hr
    cases hr
    exact ⟨uri, huri, rfl⟩
  split at h
  · cases h
    refine ⟨fun k => ?_, fun e he => ?_⟩
    · rw [OrderedTable.mem_keys_ofList, List.map_map, List.mem_map]
      constructor
      · rintro ⟨r, hr, rfl⟩
        obtain ⟨a, ha, hname⟩ := exists_mem_left_of_forall₂ hread hr
        exact ⟨a, ha, r.2.1, hname, rfl⟩
      · rintro ⟨a, ha, name, ⟨uri, huri, rfl⟩, rfl⟩
        obtain ⟨r, hr, uri', huri', hname⟩ := exists_mem_left_of_forall₂ hread.flip ha
        obtain rfl : uri = uri' := Option.some.inj (huri.symm.trans huri')
        exact ⟨r, hr, congrArg QName.expanded hname⟩
    · obtain ⟨e', he', heq⟩ := OrderedTable.mem_items_ofList he
      obtain ⟨r, hr, rfl⟩ := List.mem_map.1 he'
      obtain ⟨a, ha, hname⟩ := exists_mem_left_of_forall₂ hread hr
      exact ⟨a, ha, heq ▸ hname⟩
  · cases h

end Markup

/-- A name whose prefix is bound to its namespace, or whose namespace is the default, denotes itself
as it is written. -/
theorem Scope.denotes_of_lookup {scope : Scope} {q : QName} (hlocal : isNCName q.localName = true)
    (hnamed : q.PrefixIn fun p => isNCName p = true)
    (hlookup : present (scope.lookup q.nsPrefix) = q.uri)
    (hbound : ∀ p, q.nsPrefix = some p → scope.prefixUri p ≠ none) :
    scope.denotes q.prefixedName = some q.expanded := by
  rw [QName.prefixedName]
  cases hp : q.nsPrefix with
  | none =>
      rw [hp, lookup_none] at hlookup
      rw [denotes_of_resolve (resolve_unprefixed hlocal)]
      show some (⟨present scope.defaultUri, q.localName⟩ : ExpandedName) = some q.expanded
      rw [hlookup]
  | some p =>
      obtain ⟨uri, huri⟩ := Option.ne_none_iff_exists'.1 (hbound p hp)
      rw [hp, lookup_some, huri] at hlookup
      dsimp only
      rw [denotes_of_resolve (resolve_prefixed (hnamed p hp) hlocal huri)]
      show some (⟨present (some uri), q.localName⟩ : ExpandedName) = some q.expanded
      rw [hlookup]

/-! ### Reading a document -/

/-- A tag as it is read of a tag in a document. In the scope that the declarations of the tree make,
every prefix stands for what it stands for in the document; the names are those of the document, and
that of the element means in this scope what it says. So do the names of attributes, but where the
first binding of a namespace is the default: there they have no prefix. -/
structure Tag.Replays (bindings : List Declaration) (scope : Scope) (name : RawName)
    (attributes : List RawAttribute) (tag : Tag) : Prop where
  agrees : Agrees bindings scope
  name : ∃ uri, elementUri? bindings name = some uri ∧
    tag.name.expanded = ⟨present uri, String.ofList name.localName⟩
  bound : present (scope.lookup tag.name.nsPrefix) = tag.name.uri
  denoted : scope.denotes tag.name.prefixedName = some tag.name.expanded
  attributeNames : ∀ k, k ∈ tag.attributes.entries.map (fun e => e.1.expanded) ↔
    ∃ a ∈ attributes, ∃ uri, attributeUri? bindings a.name = some uri ∧
      k = ⟨present uri, String.ofList a.name.localName⟩
  attributes : ∀ e ∈ tag.attributes.entries, ∀ uri, e.1.uri = some uri →
    (e.1.BoundIn scope ↔ ¬DefaultFirst bindings uri)

namespace Markup

variable {bindings outer : List Declaration} {scope : Scope}

theorem Agrees.replays (h : Agrees bindings scope) (hlawful : Lawful bindings) {name : RawName}
    (hname : name.Named) {attributes : List RawAttribute} {uri : Option String}
    {declarations : List Declaration} {table : NameTable String}
    (huri : Markup.elementUri? bindings name = some uri)
    (htable : resolveAttributes? bindings attributes = some table) :
    Tag.Replays bindings scope name attributes
      ⟨qualified bindings uri name.localName, declarations, table⟩ := by
  obtain ⟨hnamed, hlookup, hbound⟩ := h.bound_qualified hlawful huri name.localName
  obtain ⟨hkeys, hitems⟩ := resolveAttributes?_names htable
  have hlocal : isNCName (qualified bindings uri name.localName).localName = true := by
    show isNCName (String.ofList name.localName) = true
    rw [isNCName, String.toList_ofList]
    exact hname.localName
  refine ⟨h, ⟨uri, huri, rfl⟩, hlookup,
    Scope.denotes_of_lookup hlocal hnamed hlookup hbound, fun k => (hkeys k).trans ?_,
    fun e he uri' huri' => ?_⟩
  · refine exists_congr fun a => and_congr_right fun _ => ⟨?_, ?_⟩
    · rintro ⟨_, ⟨uri, huri, rfl⟩, rfl⟩
      exact ⟨uri, huri, rfl⟩
    · rintro ⟨uri, huri, rfl⟩
      exact ⟨_, ⟨uri, huri, rfl⟩, rfl⟩
  · obtain ⟨a, -, u, hu, hname⟩ := hitems e he
    rw [hname] at huri' ⊢
    exact h.boundIn_qualified_iff hlawful hu huri'

theorem Tree.along_of_element? {t : Tree} {e : Element} (hnamed : t.Everywhere TagNamed)
    (honce : t.Everywhere DeclaresOnce) (houter : Lawful outer) (h : Agrees outer scope)
    (hread : Tree.element? outer t = some e) : t.Along Tag.Replays outer scope e := by
  induction t generalizing outer scope e with
  | mk name attributes pieces ih =>
      rw [everywhere_mk] at hnamed honce
      obtain ⟨-, split, uri, table, nodes, hsplit, huri, htable, hnodes, rfl⟩ :=
        element?_eq_some.1 hread
      have hdeclared : Lawful split.declared :=
        ⟨honce.1 split hsplit, allowed_of_splitTag? hnamed.1.attributes hsplit⟩
      have hlawful := hdeclared.inForce houter
      have hinside := h.replay houter hdeclared
      rw [along_mk]
      refine ⟨split, hsplit, hinside.replays hlawful hnamed.1.name huri htable, ?_⟩
      refine forall₂_imp_of_mem (Piece.nodes?_eq_some.1 hnodes) fun piece hpiece n hn => ?_
      cases piece with
      | text value => exact (Option.some.inj hn).symm
      | element t =>
          obtain ⟨e, he, rfl⟩ := Option.map_eq_some_iff.1 hn
          exact ⟨e, rfl, ih t hpiece (hnamed.2 t hpiece) (honce.2 t hpiece) hlawful hinside he⟩

end Markup

/-- Whatever is read of a document in which no tag declares anything twice, replaying its
declarations gives at every element the bindings that are in force in the document there; every
element and every attribute has the name that it has in the document; the prefix of an element, or
the default, stands for its namespace; and an attribute in a namespace has a prefix that stands for
it exactly where the default is not the first binding of the namespace. -/
theorem Element.replays_of_read {text : String} {e : Element} (h : Element.read text = .ok e) :
    ∃ t, tree? text.toList = some t ∧
      (t.Everywhere DeclaresOnce → t.Along Tag.Replays [] .empty e) := by
  rw [Element.read] at h
  split at h
  · next e' hread =>
      cases h
      obtain ⟨t, ht, hread⟩ := Option.bind_eq_some_iff.1 hread
      exact ⟨t, ht, fun honce => Tree.along_of_element? (named_of_tree? ht) honce lawful_nil
        agrees_empty hread⟩
  · cases h

/-! ### A written document -/

/-- No tag of a written document declares anything twice. -/
theorem Element.declaresOnce_tree {e : Element} {scope : Scope} {depth : Nat}
    (h : e.Everywhere (fun scope _ el => el.toTag.Portable scope) scope depth) :
    e.tree.Everywhere DeclaresOnce := by
  induction e generalizing scope depth with
  | mk tag nodes ih =>
      rw [everywhere_mk] at h
      obtain ⟨htag, hbelow⟩ := h
      rw [tree, Tree.everywhere_mk]
      refine ⟨fun split hsplit => ?_, fun t ht => ?_⟩
      · rw [splitTag?_raw htag] at hsplit
        obtain rfl := Option.some.inj hsplit
        exact htag.sound.declarations
      · rw [Node.pieces_eq_map] at ht
        obtain ⟨n, hn, heq⟩ := List.mem_map.1 ht
        cases n with
        | text value => cases heq
        | element e =>
            cases heq
            exact ih e hn (hbelow e hn)

theorem letter_replays :
    ∃ e e' t, letter.marshal .standard .empty = .ok e ∧ Element.read e.write = .ok e' ∧
      tree? e.write.toList = some t ∧ t.Along Tag.Replays [] .empty e' := by
  obtain ⟨e, he⟩ := exists_eq_ok (x := letter.marshal .standard .empty) (by decide)
  have hcarried := TypedObject.carriedBy_of_marshalAt letter_portable rfl Scope.prefixesIn_empty he
  have hportable := TypedObject.portable_of_carriedBy letter_portable hcarried
  obtain ⟨e', he'⟩ :=
    (TypedObject.read_write_of_carriedBy letter_portable hcarried).1.2 (by decide)
  obtain ⟨t, ht, halong⟩ := Element.replays_of_read he'
  refine ⟨e, e', t, he, he', ht, halong ?_⟩
  obtain rfl : t = e.joined.tree := Option.some.inj (ht.symm.trans (Element.tree?_write hportable))
  exact Element.declaresOnce_tree (Element.portable_joined hportable)

/-! ### An attribute in the default namespace -/

/-- A tree that a document can carry is read with the bindings and the names of its document. -/
theorem Element.along_of_read_write {e e' : Element}
    (h : e.Everywhere (fun scope _ el => el.Portable scope) .empty 1)
    (hread : Element.read e.write = .ok e') : e.joined.tree.Along Tag.Replays [] .empty e' :=
  Tree.along_of_element? (named_of_tree? (tree?_write h)) (declaresOnce_tree (portable_joined h))
    lawful_nil agrees_empty ((read_write_eq_ok h).1 hread)

/-- An object with an attribute in its own namespace, which is the default and has a prefix, too. -/
def twofold : TypedObject :=
  (TypeDescriptor.ofName (.namespaced "u" "a")).build.setAttribute (.prefixed "u" "x" "p") "1"

theorem twofold_portable : ∀ o ∈ twofold.graph, o.Portable :=
  List.forall_mem_singleton.2 ⟨by decide, nofun, by decide, by decide, by decide, nofun⟩

/-- An attribute is read without a prefix where its namespace is the default, and then the tree says
no longer that it is in this namespace. -/
theorem twofold_unprefixed :
    ∃ e, Element.read "<a xmlns=\"u\" xmlns:p=\"u\" p:x=\"1\"/>" = .ok e ∧
      ∃ a ∈ e.attributes.entries, a.1.uri = some "u" ∧
        ¬a.1.BoundIn (Scope.empty.declareAll e.declarations) := by
  obtain ⟨⟨tag, nodes⟩, he⟩ := exists_eq_ok (x := twofold.marshal .standard .empty) (by decide)
  have hshape : (twofold.marshal .standard .empty).toOption.map
      (fun e => (e.declarations, e.attributes.entries, e.write)) =
        some ([⟨none, "u"⟩, ⟨some "p", "u"⟩], [(.prefixed "u" "x" "p", "1")],
          "<a xmlns=\"u\" xmlns:p=\"u\" p:x=\"1\"/>") := by
    decide
  rw [he] at hshape
  obtain ⟨hdeclarations, hshape⟩ := Prod.mk.inj (Option.some.inj hshape)
  obtain ⟨hentries, hwrite⟩ := Prod.mk.inj hshape
  have hcarried := TypedObject.carriedBy_of_marshalAt twofold_portable rfl Scope.prefixesIn_empty he
  have hportable := TypedObject.portable_of_carriedBy twofold_portable hcarried
  obtain ⟨⟨tag', nodes'⟩, he'⟩ :=
    (TypedObject.read_write_of_carriedBy twofold_portable hcarried).1.2 (by decide)
  have halong := Element.along_of_read_write hportable he'
  have hjoined := Element.portable_joined hportable
  rw [Element.joined_mk] at halong hjoined
  obtain ⟨split, hsplit, hreplays, -⟩ := Tree.along_mk.1 halong
  rw [splitTag?_raw (Element.everywhere_mk.1 hjoined).1] at hsplit
  obtain rfl := Option.some.inj hsplit
  have hbindings : inForce tag.declarations [] = [⟨none, "u"⟩, ⟨some "p", "u"⟩] := by
    rw [hdeclarations]
    rfl
  -- The attribute is there under its name, and the default is the first binding of its namespace.
  have hkey : ⟨some "u", "x"⟩ ∈ tag'.attributes.entries.map fun e => e.1.expanded := by
    rw [hreplays.attributeNames]
    refine ⟨⟨QName.raw (.prefixed "u" "x" "p"), escape "1"⟩, ?_, some "u", ?_, by decide⟩
    · rw [hentries]
      exact List.mem_cons_self
    · show attributeUri? (inForce tag.declarations []) _ = _
      rw [hbindings]
      decide
  have hfirst : DefaultFirst (inForce tag.declarations []) "u" := by
    rw [hbindings]
    exact ⟨⟨none, "u"⟩, by decide, rfl⟩
  obtain ⟨a, ha, hexpanded⟩ := List.mem_map.1 hkey
  have huri : a.1.uri = some "u" := congrArg ExpandedName.uri hexpanded
  refine ⟨⟨tag', nodes'⟩, hwrite ▸ he', a, ha, huri, fun hbound => ?_⟩
  exact (hreplays.attributes a ha "u" huri).1 hbound hfirst

end XmlBinding
