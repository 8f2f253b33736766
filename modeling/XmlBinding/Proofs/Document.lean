import XmlBinding.Proofs.Bindings
import XmlBinding.Proofs.Image
import XmlBinding.Proofs.NamespaceSound

/-!
Trees that are written and read again. What is read of a written document is the tree, its adjacent
texts joined, with the same names and the same attributes in the same order; of prefixes and
declarations only the meaning is kept. Values come back as a document keeps them, with its line ends
and blanks.
-/

namespace XmlBinding

open Markup

/-! ### Alike but for prefixes -/

mutual

/-- A tree with the names, attributes and children of another one. What is read of its texts and of
its attribute values is given. -/
def Element.ReadsAs (text value : String → String) : Element → Element → Prop
  | ⟨tag, nodes⟩, e =>
      e.name.expanded = tag.name.expanded ∧
        e.listed = tag.listed.map (fun a => (a.1, value a.2)) ∧
          Node.readsAsAll text value nodes e.children
termination_by structural e => e

def Node.readsAs (text value : String → String) : Node → Node → Prop
  | .text v, n => n = .text (text v)
  | .element e, n => ∃ e', n = .element e' ∧ Element.ReadsAs text value e e'
termination_by structural n => n

def Node.readsAsAll (text value : String → String) : List Node → List Node → Prop
  | [], nodes => nodes = []
  | n :: ns, nodes =>
      ∃ n' ns', nodes = n' :: ns' ∧ Node.readsAs text value n n' ∧
        Node.readsAsAll text value ns ns'
termination_by structural ns => ns

end

section ReadsAs

variable {text value : String → String}

theorem Node.readsAsAll_iff {nodes nodes' : List Node} :
    readsAsAll text value nodes nodes' ↔ List.Forall₂ (readsAs text value) nodes nodes' := by
  induction nodes generalizing nodes' with
  | nil => rw [readsAsAll, List.forall₂_nil_left_iff]
  | cons n ns ih =>
      rw [readsAsAll, List.forall₂_cons_left_iff]
      simp only [ih]
      constructor
      · rintro ⟨n', ns', rfl, hn, hns⟩
        exact ⟨n', ns', hn, hns, rfl⟩
      · rintro ⟨n', ns', hn, hns, rfl⟩
        exact ⟨n', ns', rfl, hn, hns⟩

theorem Element.readsAs_mk {tag tag' : Tag} {nodes nodes' : List Node} :
    ReadsAs text value ⟨tag, nodes⟩ ⟨tag', nodes'⟩ ↔
      tag'.name.expanded = tag.name.expanded ∧
        tag'.listed = tag.listed.map (fun a => (a.1, value a.2)) ∧
          List.Forall₂ (Node.readsAs text value) nodes nodes' := by
  rw [ReadsAs, Node.readsAsAll_iff]

/-- Where nothing is lost of any text and value, the trees have the same ones. -/
theorem Element.ReadsAs.unchanged {e e' : Element} {scope : Scope} {depth : Nat}
    (h : e.ReadsAs text value e')
    (hkept : e.Everywhere (fun _ _ el => (∀ a ∈ el.attributes.entries, value a.2 = a.2) ∧
      ∀ v, .text v ∈ el.children → text v = v) scope depth) : e.ReadsAs id id e' := by
  induction e generalizing scope depth e' with
  | mk tag nodes ih =>
      obtain ⟨tag', nodes'⟩ := e'
      rw [readsAs_mk] at h ⊢
      rw [everywhere_mk] at hkept
      obtain ⟨hname, hlisted, hnodes⟩ := h
      obtain ⟨⟨hvalues, htexts⟩, hbelow⟩ := hkept
      refine ⟨hname, ?_, ?_⟩
      · rw [hlisted, Tag.listed, List.map_map, List.map_map]
        refine List.map_congr_left fun a ha => ?_
        show (a.1.expanded, value a.2) = (a.1.expanded, a.2)
        rw [hvalues a ha]
      · refine forall₂_imp_of_mem hnodes fun n hn n' hread => ?_
        cases n with
        | text v =>
            have hn' : n' = .text (text v) := hread
            rw [hn', htexts v hn]
            rfl
        | element e =>
            obtain ⟨e', hn', hread⟩ := hread
            exact ⟨e', hn', ih e hn hread (hbelow e hn)⟩

end ReadsAs

/-! ### What a document keeps of a tag -/

/-- A declaration that means in a document what it means in a tree: it does not touch the prefixes
and namespaces that belong to XML itself, and its namespace has no blanks that would become spaces.
-/
structure Declaration.Portable (d : Declaration) : Prop where
  named : ∀ p, d.nsPrefix = some p → isNCName p = true ∧ p ≠ "xml"
  uri_ne : d.uri ≠ xmlUri ∧ d.uri ≠ xmlnsUri
  document : IsDocumentText d.uri
  kept : respaced d.uri = d.uri

/-- A tag that is read as what it says. -/
structure Tag.Portable (tag : Tag) (scope : Scope) : Prop where
  sound : tag.NamespaceSound scope
  name : tag.name.Proper ∧ tag.name.nsPrefix ≠ some "xmlns"
  declarations : ∀ d ∈ tag.declarations, d.Portable
  attributes : ∀ a ∈ tag.attributes.entries,
    a.1.Proper ∧ a.1.localName ≠ "xmlns" ∧ a.1.nsPrefix ≠ some "xmlns" ∧ IsDocumentText a.2

theorem Tag.Portable.legible {tag : Tag} {scope : Scope} (h : tag.Portable scope) :
    tag.Legible where
  name := QName.spells h.name.1.localName h.name.1.prefixIn
  declarations d hd :=
    ⟨Declaration.spells fun p hp => ((h.declarations d hd).named p hp).1,
      (h.declarations d hd).document⟩
  attributes a ha := by
    obtain ⟨hproper, -, -, hdocument⟩ := h.attributes a ha
    exact ⟨QName.spells hproper.localName hproper.prefixIn, hdocument⟩

/-- An element of which a document can carry the tag and the texts. -/
def Element.Portable (e : Element) (scope : Scope) : Prop :=
  e.toTag.Portable scope ∧ ∀ text, .text text ∈ e.children → IsDocumentText text

theorem QName.raw_nsPrefix_ne {name : QName} {p : String} (h : name.nsPrefix ≠ some p)
    (hp : p ≠ "") : name.raw.nsPrefix ≠ p.toList := by
  intro heq
  have hname : name.nsPrefix.getD "" = p := String.toList_inj.1 heq
  cases hq : name.nsPrefix with
  | none =>
      rw [hq] at hname
      exact hp hname.symm
  | some q =>
      rw [hq] at hname
      exact h (hq.trans (congrArg some hname))

namespace Markup

variable {bindings outer : List Declaration} {scope : Scope}

theorem sortAttribute_default (split : SplitTag) {a : RawAttribute} {uri : String}
    (hp : a.name.nsPrefix ≠ "xmlns".toList) (hlocal : String.ofList a.name.localName = "xmlns")
    (hvalue : attributeValue? a.value = some uri.toList) (huri : ¬(uri = xmlUri ∨ uri = xmlnsUri)) :
    sortAttribute split a = some { split with declared := split.declared ++ [⟨none, uri⟩] } := by
  rw [sortAttribute]
  dsimp only
  rw [if_neg hp, if_pos hlocal, hvalue]
  simp only [Option.bind_eq_bind, Option.bind_some, String.ofList_toList]
  rw [if_neg huri]
  rfl

theorem sortAttribute_prefix {split : SplitTag} {a : RawAttribute} {p uri : String}
    (hp : a.name.nsPrefix = "xmlns".toList) (hlocal : String.ofList a.name.localName = p)
    (hvalue : attributeValue? a.value = some uri.toList) (hxml : p ≠ "xml") (huri : uri ≠ xmlUri)
    (hxmlns : uri ≠ xmlnsUri) (hfresh : ∀ d ∈ split.declared, d.nsPrefix ≠ some p) :
    sortAttribute split a = some { split with declared := split.declared ++ [⟨some p, uri⟩] } := by
  have hallowed : ¬(uri = xmlnsUri ∨ (p = "xml" ↔ uri ≠ xmlUri)) := by
    tauto
  have hunbound : split.declared.any (·.nsPrefix == some p) = false := by
    simpa using hfresh
  rw [sortAttribute]
  dsimp only
  rw [if_pos hp, hvalue, hlocal]
  simp only [Option.bind_eq_bind, Option.bind_some, String.ofList_toList]
  rw [if_neg hallowed, hunbound, if_neg nofun, if_neg huri]
  rfl

theorem sortAttribute_declaration {split : SplitTag} {d : Declaration} (hd : d.Portable)
    (hfresh : ∀ d' ∈ split.declared, d'.nsPrefix ≠ d.nsPrefix) :
    sortAttribute split ⟨d.raw, escape d.uri⟩ =
      some { split with declared := split.declared ++ [d] } := by
  obtain ⟨nsPrefix, uri⟩ := d
  obtain ⟨hxml, hxmlns⟩ : uri ≠ xmlUri ∧ uri ≠ xmlnsUri := hd.uri_ne
  have hvalue : attributeValue? (escape uri) = some uri.toList := by
    rw [attributeValue?_escape, hd.kept]
  cases nsPrefix with
  | none =>
      exact sortAttribute_default split (a := ⟨⟨[], "xmlns".toList⟩, escape uri⟩) nofun
        String.ofList_toList hvalue (not_or.2 ⟨hxml, hxmlns⟩)
  | some p =>
      exact sortAttribute_prefix (a := ⟨⟨"xmlns".toList, p.toList⟩, escape uri⟩) rfl
        String.ofList_toList hvalue (hd.named p rfl).2 hxml hxmlns hfresh

theorem sortAttribute_attribute (split : SplitTag) {name : QName} (value : List Char)
    (hlocal : name.localName ≠ "xmlns") (hp : name.nsPrefix ≠ some "xmlns") :
    sortAttribute split ⟨name.raw, value⟩ =
      some { split with attributes := split.attributes ++ [⟨name.raw, value⟩] } := by
  have hlocal' : ¬String.ofList name.raw.localName = "xmlns" := by
    rw [QName.raw, String.ofList_toList]
    exact hlocal
  rw [sortAttribute]
  dsimp only
  rw [if_neg (QName.raw_nsPrefix_ne hp (by decide)), if_neg hlocal']
  rfl

/-- The declarations of a tag are read as such, and all other attributes as none. -/
theorem splitTag?_raw {tag : Tag} (h : tag.Portable scope) :
    splitTag? tag.raw =
      some ⟨tag.declarations, tag.attributes.entries.map fun a => ⟨a.1.raw, escape a.2⟩⟩ := by
  have hdeclared (ds : List Declaration) (split : SplitTag) (hds : ∀ d ∈ ds, d.Portable)
      (hdistinct : ((split.declared ++ ds).map Declaration.nsPrefix).Nodup) :
      (ds.map fun d => (⟨d.raw, escape d.uri⟩ : RawAttribute)).foldlM sortAttribute split =
        some { split with declared := split.declared ++ ds } := by
    induction ds generalizing split with
    | nil =>
        rw [List.append_nil]
        rfl
    | cons d ds ih =>
        rw [List.forall_mem_cons] at hds
        have hfresh : ∀ d' ∈ split.declared, d'.nsPrefix ≠ d.nsPrefix := by
          intro d' hd' hsame
          rw [List.map_append, List.nodup_append] at hdistinct
          exact hdistinct.2.2 _ (List.mem_map_of_mem hd') _ List.mem_cons_self hsame
        have happend : split.declared ++ d :: ds = split.declared ++ [d] ++ ds := by
          simp
        rw [List.map_cons, List.foldlM_cons, sortAttribute_declaration hds.1 hfresh]
        rw [happend] at hdistinct ⊢
        exact ih { split with declared := split.declared ++ [d] } hds.2 hdistinct
  have hattributes (as : List (QName × String)) (split : SplitTag)
      (has : ∀ a ∈ as, a.1.localName ≠ "xmlns" ∧ a.1.nsPrefix ≠ some "xmlns") :
      (as.map fun a => (⟨a.1.raw, escape a.2⟩ : RawAttribute)).foldlM sortAttribute split =
        some { split with
          attributes := split.attributes ++ as.map fun a => ⟨a.1.raw, escape a.2⟩ } := by
    induction as generalizing split with
    | nil =>
        rw [List.map_nil, List.append_nil]
        rfl
    | cons a as ih =>
        rw [List.forall_mem_cons] at has
        rw [List.map_cons, List.foldlM_cons, sortAttribute_attribute split _ has.1.1 has.1.2]
        refine (ih _ has.2).trans ?_
        simp
  rw [splitTag?, Tag.raw, List.foldlM_append,
    hdeclared _ ⟨[], []⟩ h.declarations h.sound.declarations]
  refine (hattributes _ _ fun a ha => ?_).trans (by simp)
  obtain ⟨-, hlocal, hp, -⟩ := h.attributes a ha
  exact ⟨hlocal, hp⟩

theorem mapM_eq_some {α β : Type} {f : α → Option β} {g : α → β} {as : List α}
    (h : ∀ a ∈ as, f a = some (g a)) : as.mapM f = some (as.map g) := by
  induction as with
  | nil => rfl
  | cons a as ih =>
      rw [List.forall_mem_cons] at h
      rw [List.mapM_cons, h.1, ih h.2]
      rfl

/-- The attributes of a tag are read with their names and in their order. -/
theorem Agrees.exists_resolveAttributes? (h : Agrees bindings scope) {t : NameTable String}
    (ht : ∀ a ∈ t.entries, a.1.Normal ∧ a.1.BoundIn scope) :
    ∃ t' : NameTable String,
      resolveAttributes? bindings (t.entries.map fun a => ⟨a.1.raw, escape a.2⟩) = some t' ∧
        t'.entries.map (fun a => (a.1.expanded, a.2)) =
          t.entries.map fun a => (a.1.expanded, respaced a.2) := by
  let read (a : QName × String) : ExpandedName × QName × String :=
    (a.1.expanded, qualified bindings a.1.uri a.1.localName.toList, respaced a.2)
  have hresolve : (t.entries.map fun a => (⟨a.1.raw, escape a.2⟩ : RawAttribute)).mapM
      (resolveAttribute? bindings) = some (t.entries.map read) := by
    rw [List.mapM_map]
    refine mapM_eq_some fun a ha => ?_
    obtain ⟨hnormal, hbound⟩ := ht a ha
    show resolveAttribute? bindings ⟨a.1.raw, escape a.2⟩ = some (read a)
    rw [resolveAttribute?, h.attributeUri? hnormal hbound, attributeValue?_escape]
    simp only [Option.bind_eq_bind, Option.bind_some, QName.raw, String.ofList_toList]
    rfl
  have hexpanded : ∀ a ∈ t.entries, (read a).2.1.expanded = a.1.expanded := by
    intro a ha
    have huri := present_eq_self_iff.2 (QName.normal_iff.1 (ht a ha).1).1
    show (⟨present a.1.uri, String.ofList a.1.localName.toList⟩ : ExpandedName) = a.1.expanded
    rw [huri, String.ofList_toList]
  have hkeys : ((t.entries.map read).map fun a => a.2.1.expanded) =
      t.entries.map fun a => a.1.expanded := by
    rw [List.map_map]
    exact List.map_congr_left hexpanded
  have hentries : (OrderedTable.ofList ((t.entries.map read).map (·.2)) :
      NameTable String).entries = (t.entries.map read).map (·.2) := by
    apply OrderedTable.entries_ofList
    rw [List.map_map]
    exact hkeys ▸ t.distinct
  refine ⟨.ofList ((t.entries.map read).map (·.2)), ?_, ?_⟩
  · have hdistinct : ((t.entries.map read).map (·.1)).Nodup := by
      rw [List.map_map]
      exact t.distinct
    rw [resolveAttributes?, hresolve]
    exact if_pos hdistinct
  · rw [hentries, List.map_map, List.map_map]
    refine List.map_congr_left fun a ha => ?_
    exact Prod.ext (hexpanded a ha) rfl

end Markup

/-! ### Reading a written tree -/

/-- A tree that means in a document what it says is read again, unless one of its elements is in the
namespace of XML itself. -/
theorem Element.exists_element? {e : Element} {scope : Scope} {depth : Nat}
    {outer : List Declaration}
    (h : e.Everywhere (fun scope _ el => el.toTag.Portable scope ∧ el.name.nsPrefix ≠ some "xml")
      scope depth) (hagrees : Agrees outer scope) :
    ∃ e', Tree.element? outer e.tree = some e' ∧ e.ReadsAs reread respaced e' := by
  induction e generalizing scope depth outer with
  | mk tag nodes ih =>
      rw [everywhere_mk] at h
      obtain ⟨⟨htag, hxml⟩, hbelow⟩ := h
      have hsplit := splitTag?_raw htag
      have hinside := hagrees.declareAll htag.sound.declarations
      obtain ⟨uri, huri, hpresent⟩ :=
        hinside.elementUri? htag.name.1.normal htag.sound.element hxml
      obtain ⟨table, htable, hlisted⟩ := hinside.exists_resolveAttributes? fun a ha =>
        ⟨(htag.attributes a ha).1.normal, htag.sound.attributes a ha⟩
      have hnodes : ∀ n ∈ nodes, ∃ n', Piece.node? (inForce tag.declarations outer) n.piece =
          some n' ∧ Node.readsAs reread respaced n n' := by
        intro n hn
        cases n with
        | text v =>
            refine ⟨.text (reread v), ?_, rfl⟩
            rw [Node.piece, Piece.node?, String.ofList_toList]
        | element e =>
            obtain ⟨e', he', hread⟩ := ih e hn (hbelow e hn) hinside
            refine ⟨.element e', ?_, e', rfl, hread⟩
            rw [Node.piece, Piece.node?, he']
            rfl
      obtain ⟨nodes', hnodes'⟩ := exists_forall₂ hnodes
      have hpieces : Piece.nodes? (inForce tag.declarations outer) (Node.pieces nodes) =
          some nodes' := by
        rw [Piece.nodes?_eq_some, Node.pieces_eq_map, List.forall₂_map_left_iff]
        exact hnodes'.imp fun _ _ hn => hn.1
      have hxmlns := QName.raw_nsPrefix_ne htag.name.2 (by decide)
      refine ⟨_, Tree.element?_eq_some.2
        ⟨hxmlns, _, uri, table, nodes', hsplit, huri, htable, hpieces, rfl⟩, ?_⟩
      rw [readsAs_mk]
      refine ⟨?_, ?_, hnodes'.imp fun _ _ hn => hn.2⟩
      · show (⟨present uri, String.ofList tag.name.localName.toList⟩ : ExpandedName) =
          tag.name.expanded
        rw [hpresent, String.ofList_toList]
      · show table.entries.map _ = _
        rw [hlisted, Tag.listed, List.map_map]
        rfl

/-- No element of the namespace of XML itself is read again. -/
theorem Element.ne_xml_of_element? {e e' : Element} {scope : Scope} {depth : Nat}
    {outer : List Declaration}
    (h : e.Everywhere (fun scope _ el => el.toTag.Portable scope) scope depth)
    (houter : ∀ d ∈ outer, d.nsPrefix ≠ some "xml") (hread : Tree.element? outer e.tree = some e') :
    e.Everywhere (fun _ _ el => el.name.nsPrefix ≠ some "xml") scope depth := by
  induction e generalizing scope depth outer e' with
  | mk tag nodes ih =>
      rw [everywhere_mk] at h ⊢
      obtain ⟨htag, hbelow⟩ := h
      obtain ⟨-, split, uri, table, nodes', hsplit, huri, -, hnodes, -⟩ :=
        Tree.element?_eq_some.1 hread
      rw [splitTag?_raw htag] at hsplit
      obtain rfl := Option.some.inj hsplit
      have hinside : ∀ d ∈ inForce tag.declarations outer, d.nsPrefix ≠ some "xml" :=
        forall_mem_inForce
          (fun d hd hxml => ((htag.declarations d hd).named "xml" hxml).2 rfl) houter
      refine ⟨fun hxml => ?_, fun e he => ?_⟩
      · rw [elementUri?_xml hinside hxml] at huri
        cases huri
      · rw [Piece.nodes?_eq_some, Node.pieces_eq_map, List.forall₂_map_left_iff] at hnodes
        obtain ⟨n, -, hn⟩ := exists_mem_left_of_forall₂ hnodes.flip he
        rw [Node.piece, Piece.node?] at hn
        obtain ⟨e', he', -⟩ := Option.map_eq_some_iff.1 hn
        exact ih e he (hbelow e he) hinside he'

/-- The markup of a written document is that of the tree with its texts joined. -/
theorem Element.tree?_write {e : Element}
    (h : e.Everywhere (fun scope _ el => el.Portable scope) .empty 1) :
    tree? e.write.toList = some e.joined.tree := by
  have hlegible : e.Everywhere (fun _ _ el => el.Legible) .empty 1 :=
    h.imp fun _ _ _ hel => ⟨hel.1.legible, hel.2⟩
  rw [Element.write, String.toList_ofList, tree?_chars hlegible]

theorem Element.read_write_eq_ok {e e' : Element}
    (h : e.Everywhere (fun scope _ el => el.Portable scope) .empty 1) :
    Element.read e.write = .ok e' ↔ Tree.element? [] e.joined.tree = some e' := by
  rw [Element.read, tree?_write h, Option.bind_some]
  cases Tree.element? [] e.joined.tree with
  | none => exact ⟨nofun, nofun⟩
  | some e'' => simp

theorem Element.portable_joined {e : Element}
    (h : e.Everywhere (fun scope _ el => el.Portable scope) .empty 1) :
    e.joined.Everywhere (fun scope _ el => el.toTag.Portable scope) .empty 1 :=
  (everywhere_joined_iff (T := fun scope tag => tag.Portable scope)).2 (everywhere_and.1 h).1

/-- A tree that means in a document what it says is read again from its text, unless one of its
elements is in the namespace of XML itself; what is read has the same names, attributes and
children, adjacent texts joined. -/
theorem Element.read_write {e : Element}
    (h : e.Everywhere (fun scope _ el => el.Portable scope) .empty 1) :
    ((∃ e', Element.read e.write = .ok e') ↔
        e.Everywhere (fun _ _ el => el.name.nsPrefix ≠ some "xml") .empty 1) ∧
      ∀ e', Element.read e.write = .ok e' → e.joined.ReadsAs reread respaced e' := by
  have hportable := portable_joined h
  have hread {e' : Element} :
      Element.read e.write = .ok e' ↔ Tree.element? [] e.joined.tree = some e' :=
    read_write_eq_ok h
  have hxml (e' : Element) (he' : Element.read e.write = .ok e') :
      e.joined.Everywhere (fun _ _ el => el.name.nsPrefix ≠ some "xml") .empty 1 :=
    ne_xml_of_element? hportable (List.forall_mem_nil _) (hread.1 he')
  have hexists
      (hxml : e.joined.Everywhere (fun _ _ el => el.name.nsPrefix ≠ some "xml") .empty 1) :=
    exists_element? (everywhere_and.2 ⟨hportable, hxml⟩) agrees_empty
  have hjoined {scope : Scope} {depth : Nat} :
      e.joined.Everywhere (fun _ _ el => el.name.nsPrefix ≠ some "xml") scope depth ↔
        e.Everywhere (fun _ _ el => el.name.nsPrefix ≠ some "xml") scope depth :=
    everywhere_joined_iff (T := fun _ tag => tag.name.nsPrefix ≠ some "xml")
  refine ⟨⟨?_, fun h => ?_⟩, fun e' he' => ?_⟩
  · rintro ⟨e', he'⟩
    exact hjoined.1 (hxml e' he')
  · obtain ⟨e', he', -⟩ := hexists (hjoined.2 h)
    exact ⟨e', hread.2 he'⟩
  · obtain ⟨e'', he'', hreads⟩ := hexists (hxml e' he')
    obtain rfl : e'' = e' := Option.some.inj (he''.symm.trans (hread.1 he'))
    exact hreads

end XmlBinding
