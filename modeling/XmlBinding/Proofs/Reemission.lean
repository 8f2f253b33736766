import XmlBinding.Proofs.Spelled

/-!
Reading a tree and writing it again. A tree whose names are bound where they stand can always be
written again, if only the required attributes are there; and what is written differs from the tree
in nothing but the spelling of types, blanks around truth values, and texts that mean nothing.
-/

namespace XmlBinding

/-! ### Trees that say the same -/

/-- A tag that says what another one said: the same name, the same bindings in force, the same
attributes with the same values. Only the type may be spelled anew, and the truth value is trimmed.
-/
structure Tag.Restates (scope scope' : Scope) (tag tag' : Tag) : Prop where
  name : tag'.name = tag.name
  bindings : scope'.Agree scope
  attributes : ∀ name, name.same xsiTypeName = false → name.same xsiNilName = false →
    tag'.attribute? name = tag.attribute? name
  nil : tag'.attribute? xsiNilName = (tag.attribute? xsiNilName).map Text.trim
  untyped : tag.attribute? xsiTypeName = none → tag'.attribute? xsiTypeName = none
  typed : ∀ text, tag.attribute? xsiTypeName = some text →
    ∃ text' name, tag'.attribute? xsiTypeName = some text' ∧
      scope.denotes (Text.trim text) = some name ∧ scope'.denotes text' = some name

section Trees

variable {r : Registry} {config : UnmarshalConfig} {scope scope' : Scope} {tag tag' : Tag}
  {nodes nodes' : List Node} {content : ContentModel}

/-- A node and the one in its place, given how elements belong together. -/
inductive Node.Pairs (R : Element → Element → Prop) : Node → Node → Prop where
  | text (value : String) : Pairs R (.text value) (.text value)
  | element {e e' : Element} (h : R e e') : Pairs R (.element e) (.element e')

mutual

/-- A tree that says what another one said: its tags do, in the scopes in force on them, and its
nodes are those of the other one, but for texts that mean nothing under the descriptor selected
there. -/
def Element.Restates (r : Registry) (config : UnmarshalConfig) (scope scope' : Scope) :
    Element → Element → Prop
  | ⟨tag, nodes⟩, e' =>
      tag.Restates (scope.declareAll tag.declarations) (scope'.declareAll e'.declarations)
          e'.toTag ∧
        ∃ type d, tag.NamesType (scope.declareAll tag.declarations) type ∧
          r.Chooses config tag.name type d ∧
          Node.restatesAll r config (scope.declareAll tag.declarations)
            (scope'.declareAll e'.declarations) d.content nodes e'.children
termination_by structural e => e

def Node.restates (r : Registry) (config : UnmarshalConfig) (scope scope' : Scope) :
    Node → Node → Prop
  | .text value, n' => n' = .text value
  | .element e, n' => ∃ e', n' = .element e' ∧ Element.Restates r config scope scope' e e'
termination_by structural n => n

def Node.restatesAll (r : Registry) (config : UnmarshalConfig) (scope scope' : Scope)
    (content : ContentModel) : List Node → List Node → Prop
  | [], nodes' => nodes' = []
  | n :: ns, nodes' =>
      if n.isDropped config content then Node.restatesAll r config scope scope' content ns nodes'
      else ∃ n' ns', nodes' = n' :: ns' ∧ Node.restates r config scope scope' n n' ∧
        Node.restatesAll r config scope scope' content ns ns'
termination_by structural ns => ns

end

theorem Node.restates_iff {n n' : Node} :
    n.restates r config scope scope' n' ↔
      n.Pairs (Element.Restates r config scope scope') n' := by
  cases n with
  | text value =>
      rw [Node.restates]
      constructor
      · rintro rfl
        exact .text value
      · rintro ⟨⟩
        rfl
  | element e =>
      rw [Node.restates]
      refine ⟨?_, fun h => ?_⟩
      · rintro ⟨e', rfl, h⟩
        exact .element h
      · cases h with
        | element h => exact ⟨_, rfl, h⟩

theorem Node.restatesAll_iff :
    Node.restatesAll r config scope scope' content nodes nodes' ↔
      List.Forall₂ (Node.Pairs (Element.Restates r config scope scope'))
        (nodes.filter fun n => !n.isDropped config content) nodes' := by
  induction nodes generalizing nodes' with
  | nil => rw [Node.restatesAll, List.filter_nil, List.forall₂_nil_left_iff]
  | cons n ns ih =>
      rw [Node.restatesAll]
      split
      · next hdropped => rw [List.filter_cons_of_neg (by simpa using hdropped), ih]
      · next hkept =>
          rw [List.filter_cons_of_pos (by simpa using hkept), List.forall₂_cons_left_iff]
          simp only [ih, Node.restates_iff]
          constructor
          · rintro ⟨n', ns', rfl, hn, hns⟩
            exact ⟨n', ns', hn, hns, rfl⟩
          · rintro ⟨n', ns', hn, hns, rfl⟩
            exact ⟨n', ns', rfl, hn, hns⟩

theorem Element.restates_mk :
    Element.Restates r config scope scope' ⟨tag, nodes⟩ ⟨tag', nodes'⟩ ↔
      tag.Restates (scope.declareAll tag.declarations) (scope'.declareAll tag'.declarations) tag' ∧
        ∃ type d, tag.NamesType (scope.declareAll tag.declarations) type ∧
          r.Chooses config tag.name type d ∧
          List.Forall₂ (Node.Pairs (Element.Restates r config (scope.declareAll tag.declarations)
              (scope'.declareAll tag'.declarations)))
            (nodes.filter fun n => !n.isDropped config d.content) nodes' := by
  rw [Element.Restates]
  simp only [Node.restatesAll_iff]

end Trees

/-! ### One tag, read and written -/

/-- What is written for a tag that was read restates it. -/
theorem ObjectHead.Shown.restates {r : Registry} {config : UnmarshalConfig} {scope scope' : Scope}
    {tag : Tag} {head : ObjectHead} {f : Frame}
    (hshown : head.Shown (fun p => isNCName p = true) scope' f.tag)
    (h : head.ReadFrom r config scope tag) (hs : scope.Legal)
    (hname : f.tag.name = head.elementName)
    (hfits : ∀ entry ∈ tag.attributes.entries, head.descriptor.Fits scope entry)
    (hagree : scope'.Agree scope) : tag.Restates scope scope' f.tag where
  name := hname.trans h.elementName
  bindings := hagree
  attributes name htype hnil := by
    cases hinstance : name.isInstance with
    | false =>
        rw [hshown.own name hinstance, h.attribute?_eq, hinstance]
        rfl
    | true =>
        rw [QName.isInstance_iff, htype, hnil] at hinstance
        rcases hinstance with hother | hother | hlocation | hlocation
        · cases hother
        · cases hother
        · rw [Tag.attribute?, Tag.attribute?, QName.same_iff.1 hlocation]
          exact hshown.schemaLocation.trans h.schemaLocation
        · rw [Tag.attribute?, Tag.attribute?, QName.same_iff.1 hlocation]
          exact hshown.noNamespaceLocation.trans h.noNamespaceLocation
  nil := by
    rw [hshown.nil, h.nil]
    cases hvalue : tag.attribute? xsiNilName with
    | none => rfl
    | some value =>
        obtain ⟨name, hmem, hname⟩ := OrderedTable.get?_eq_some_iff.1 hvalue
        obtain ⟨truth, htruth⟩ := (hfits _ hmem).nil (QName.same_iff.2 hname)
        show (Truth.read? value).map Truth.write = some (Text.trim value)
        rw [show Truth.read? value = some truth from htruth, Option.map_some,
          Truth.write_of_read? htruth]
  untyped habsent := by
    have htype := hshown.type
    rw [TypeText, h.schemaType.eq (.absent habsent)] at htype
    exact htype
  typed value hvalue := by
    obtain ⟨type, hschema, hmeaning⟩ := h.schemaType.resolve hvalue
    have htype := hshown.type
    rw [TypeText, hschema] at htype
    obtain ⟨value', hvalue', hdenotes⟩ := htype
    refine ⟨value', type.expanded, hvalue', Scope.denotes_of_resolve hmeaning, ?_⟩
    exact hdenotes (fun _ hp => hp) (hs.of_resolve hmeaning).1.localName

/-- The tag written for an object that was read restates the tag it was read from, and the reader of
the new tag is in the scope of its writer. -/
theorem ObjectHead.ReadFrom.restates_of_writeTag {r : Registry} {config : UnmarshalConfig}
    {writing : MarshalConfig} {scope scope' : Scope} {tag : Tag} {head : ObjectHead} {f : Frame}
    {text : Option String} (h : head.ReadFrom r config scope tag) (hs : scope.Legal)
    (htag : tag.Spelled scope)
    (hfits : ∀ entry ∈ tag.attributes.entries, head.descriptor.Fits scope entry)
    (hs' : scope'.PrefixesIn fun p => isNCName p = true) (hdeclare : writing.declareInstance = true)
    (hwrite : head.writeTag text writing scope' = .ok f) (hagree : f.scope.Agree scope) :
    scope'.declareAll f.tag.declarations = f.scope ∧
      (f.scope.PrefixesIn fun p => isNCName p = true) ∧ tag.Restates scope f.scope f.tag := by
  have htracking : Scope.Tracking writing.declareInstance Eq := by
    rw [hdeclare]
    exact Scope.tracking_eq
  obtain ⟨hsound, hwritten⟩ :=
    ObjectHead.writeTag_sound htracking prefixClass_isNCName (h.legal hs htag) hs' rfl hwrite
  have hshown := hwritten.shown h.routed h.plain
  exact ⟨hsound.tracked.symm, hsound.prefixes, hshown.restates h hs hwritten.name_eq hfits hagree⟩

/-! ### The whole tree, read and written -/

/-- Nodes that match the same children are pairs. -/
theorem Node.forall₂_pairs {R S : Element → TypedObject → Prop} {T : Element → Element → Prop}
    {nodes nodes' : List Node} {children : List Child}
    (h : List.Forall₂ (Node.Matches R) nodes children)
    (h' : List.Forall₂ (Node.Matches S) nodes' children)
    (pair : ∀ e e' o, .element e ∈ nodes → R e o → S e' o → T e e') :
    List.Forall₂ (Node.Pairs T) nodes nodes' := by
  induction h generalizing nodes' with
  | nil =>
      cases h'
      exact .nil
  | @cons n c ns cs hn _ ih =>
      obtain ⟨n', ns', hn', hns', rfl⟩ := List.forall₂_cons_right_iff.1 h'
      refine .cons ?_ (ih hns' fun e e' o he => pair e e' o (List.mem_cons_of_mem n he))
      cases hn with
      | text value =>
          cases hn'
          exact .text value
      | element ho =>
          obtain ⟨e', rfl, ho'⟩ := Node.matches_object_iff.1 hn'
          exact .element (pair _ e' _ List.mem_cons_self ho ho')

/-- Children can be written if and only if their elements fulfil what decides on each of them. -/
theorem Child.exists_marshalAll_iff {writing : MarshalConfig} {scope : Scope} {depth : Nat}
    {R : Element → TypedObject → Prop} {P : Element → Prop} {nodes : List Node}
    {children : List Child}
    (h : List.Forall₂ (Node.Matches R) nodes children)
    (each : ∀ e o, .element e ∈ nodes → R e o →
      ((∃ e', o.marshalAt writing scope depth = .ok e') ↔ P e)) :
    (∃ nodes', Child.marshalAll writing scope depth children = .ok nodes') ↔
      ∀ e, .element e ∈ nodes → P e := by
  simp only [Child.marshalAll_eq_ok]
  refine ⟨?_, fun hall => ?_⟩
  · rintro ⟨nodes', hnodes'⟩ e he
    obtain ⟨o, ho, hR⟩ := exists_object_of_mem h he
    obtain ⟨e', -, hwrite⟩ := exists_element_of_mem hnodes' ho
    exact (each e o he hR).1 ⟨e', hwrite⟩
  · have hwritable : ∀ c ∈ children, ∃ n, Node.Matches
        (fun e o => o.marshalAt writing scope depth = .ok e) n c := by
      intro c hc
      cases c with
      | text value => exact ⟨_, .text value⟩
      | object o =>
          obtain ⟨e, he, hR⟩ := exists_element_of_mem h hc
          obtain ⟨e', hwrite⟩ := (each e o he hR).2 (hall e he)
          exact ⟨_, .element hwrite⟩
    obtain ⟨nodes', hnodes'⟩ := exists_forall₂ hwritable
    exact ⟨nodes', hnodes'.flip⟩

section Trees

variable {r : Registry} {config : UnmarshalConfig} {scope scope' : Scope} {depth : Nat}

/-- At every place in a tree: the reader and the writer are in scopes with the same look-ups there.
-/
theorem Element.reemission_of_unmarshalAt (hr : r.Filled) {e : Element} {x : TypedObject}
    (hs : scope.Legal) (hs' : scope'.PrefixesIn fun p => isNCName p = true)
    (hagree : scope'.Agree scope)
    (hspelled : e.Everywhere (fun inForce _ el => el.Spelled inForce) scope depth)
    (hread : e.unmarshalAt r config scope depth = .ok x) :
    ((∃ e', x.marshalAt ⟨config.limits, true⟩ scope' depth = .ok e') ↔
        e.Everywhere (fun inForce _ el => el.Complete r config inForce) scope depth) ∧
      ∀ e', x.marshalAt ⟨config.limits, true⟩ scope' depth = .ok e' →
        e.Restates r config scope scope' e' := by
  induction e generalizing scope scope' depth x with
  | mk tag nodes ih =>
      obtain ⟨head, children⟩ := x
      rw [everywhere_mk] at hspelled
      obtain ⟨htag, hbelow⟩ := hspelled
      obtain ⟨⟨hdepth, hattributes, hnodes⟩, hhead, hchildren, htext⟩ := unmarshalAt_eq_ok.1 hread
      rw [Node.unmarshalAll_eq_ok] at hchildren
      obtain ⟨hfrom, hfits⟩ := Tag.readHead_eq_ok.1 hhead
      have hcheck := hr.check_of_chooses hfrom.descriptor
      have hinside := hs.declareAll htag.declarations
      obtain ⟨f, hinForce, hwritten⟩ := hfrom.writeTag_eq_ok config.limits hcheck hfits
        htext hs htag hs' hagree
      have hlimits : depth ≤ config.limits.maxDepth ∧
          head.attributes.size + head.unknown.size ≤ config.limits.maxAttributes ∧
          children.length ≤ config.limits.maxChildren := by
        refine ⟨hdepth, hfrom.size_le.trans hattributes, ?_⟩
        rw [← hchildren.length_eq]
        exact (List.length_filter_le _ nodes).trans hnodes
      have restated (hcomplete : tag.Complete r config (scope.declareAll tag.declarations)) :=
        hfrom.restates_of_writeTag hinside htag hfits hs' rfl
          ((hwritten f).2 ⟨hcomplete, rfl⟩) hinForce
      -- The hypothesis of induction, in the scopes that reader and writer have inside the tag.
      have below (hcomplete : tag.Complete r config (scope.declareAll tag.declarations)) (e o)
          (he : .element e ∈ nodes.filter fun n => !n.isDropped config head.descriptor.content)
          (ho : e.unmarshalAt r config (scope.declareAll tag.declarations) (depth + 1) = .ok o) :=
        have hmem := List.mem_of_mem_filter he
        ih e hmem hinside (restated hcomplete).2.1 hinForce (hbelow e hmem) ho
      refine ⟨?_, fun e' hwrite => ?_⟩
      · have hall (hcomplete : tag.Complete r config (scope.declareAll tag.declarations)) :=
          Child.exists_marshalAll_iff hchildren fun e o he ho => (below hcomplete e o he ho).1
        rw [everywhere_mk]
        constructor
        · rintro ⟨e', hwrite⟩
          obtain ⟨-, f', nodes', hwriteTag, hwriteAll, rfl⟩ := TypedObject.marshalAt_eq_ok.1 hwrite
          obtain ⟨hcomplete, rfl⟩ := (hwritten f').1 hwriteTag
          refine ⟨hcomplete, fun e he => ?_⟩
          exact (hall hcomplete).1 ⟨nodes', hwriteAll⟩ e (List.mem_filter.2 ⟨he, rfl⟩)
        · rintro ⟨hcomplete, hcompleteBelow⟩
          obtain ⟨nodes', hwriteAll⟩ :=
            (hall hcomplete).2 fun e he => hcompleteBelow e (List.mem_of_mem_filter he)
          exact ⟨⟨f.tag, nodes'⟩, TypedObject.marshalAt_eq_ok.2
            ⟨hlimits, f, nodes', (hwritten f).2 ⟨hcomplete, rfl⟩, hwriteAll, rfl⟩⟩
      · obtain ⟨-, f', nodes', hwriteTag, hwriteAll, rfl⟩ := TypedObject.marshalAt_eq_ok.1 hwrite
        obtain ⟨hcomplete, rfl⟩ := (hwritten f').1 hwriteTag
        obtain ⟨hscope, -, hrestates⟩ := restated hcomplete
        rw [restates_mk, hscope]
        refine ⟨hrestates, _, _, hfrom.schemaType, hfrom.descriptor, ?_⟩
        exact Node.forall₂_pairs hchildren (Child.marshalAll_eq_ok.1 hwriteAll)
          fun e e' o he ho hwriteBelow => (below hcomplete e o he ho).2 e' hwriteBelow

/-- What was read from a tree with its names bound can be written again exactly if every element has
the attributes that its descriptor requires, and the tree that is written then says what the one
that was read said. -/
theorem Element.reemission_lossless (hr : r.Filled) {e : Element} {x : TypedObject}
    (hs : scope.Legal)
    (hspelled : e.Everywhere (fun inForce _ el => el.Spelled inForce) scope 1)
    (hread : e.unmarshal r config scope = .ok x) :
    ((∃ e', x.marshal ⟨config.limits, true⟩ scope = .ok e') ↔
        e.Everywhere (fun inForce _ el => el.Complete r config inForce) scope 1) ∧
      ∀ e', x.marshal ⟨config.limits, true⟩ scope = .ok e' → e.Restates r config scope scope e' :=
  reemission_of_unmarshalAt hr hs hs.prefixesIn (Scope.Agree.refl scope) hspelled hread

end Trees

/-! ### A list with an item of no known type -/

def listType : TypeDescriptor :=
  (TypeDescriptor.ofName (.prefixed "urn:n" "List" "t")).withRequired (.unqualified "size") .string

def listRegistry : Registry :=
  (Registry.withFallback.registerType listType).1

def itemElement : Element :=
  ⟨⟨.unqualified "item", [], .empty⟩, [.text "x"]⟩

/-- Blanks stand around the item, and in the truth value. -/
def listElement : Element :=
  ⟨⟨.prefixed "urn:n" "List" "t", [⟨some "t", "urn:n"⟩, ⟨some "i", instanceUri⟩],
      .ofList [(.unqualified "size", "1"), (.prefixed instanceUri "nil" "i", " 0 ")]⟩,
    [.text "  ", .element itemElement]⟩

/-- A statement about the list and its item is one about both. -/
theorem listElement_everywhere {P : Scope → Nat → Element → Prop} :
    listElement.Everywhere P .empty 1 ↔
      P (Scope.empty.declareAll listElement.declarations) 1 listElement ∧
        P (Scope.empty.declareAll listElement.declarations) 2 itemElement := by
  have helements : ∀ e, .element e ∈ listElement.children ↔ e = itemElement := by
    simp [listElement]
  have hleaf : ∀ e, .element e ∉ itemElement.children := by
    simp [itemElement]
  exact Element.everywhere_over_leaf helements hleaf

theorem listRegistry_filled : listRegistry.Filled := by
  have hregistered : (Registry.withFallback.registerType listType).2 = .ok () := rfl
  exact .register .withFallback (Prod.ext rfl hregistered)

theorem listElement_spelled :
    listElement.Everywhere (fun inForce _ el => el.Spelled inForce) .empty 1 := by
  have hattributes : ∀ entry ∈ listElement.attributes.entries,
      entry.1.uri = none ∨ entry.1.uri = some instanceUri := by
    decide
  have hdeclarations : ∀ d ∈ listElement.declarations, ∀ p ∈ d.nsPrefix,
      isNCName p = true ∧ p ≠ "xml" ∧ d.uri ≠ "" := by
    decide
  have hnames : listElement.name.Proper ∧ itemElement.name.Proper ∧
      ∀ entry ∈ listElement.attributes.entries, entry.1.Proper := by
    decide
  refine listElement_everywhere.2 ⟨⟨hnames.1, ⟨rfl, nofun⟩, hnames.2.2, ?_, ?_, by decide⟩,
    ⟨hnames.2.1, ⟨rfl, fun _ => rfl⟩, nofun, nofun, nofun, List.nodup_nil⟩⟩
  · intro entry hentry uri huri
    rcases hattributes entry hentry with hnone | hinstance
    · exact nomatch hnone.symm.trans huri
    · cases hinstance.symm.trans huri
      exact ⟨"i", rfl⟩
  · intro d hd
    refine ⟨fun p hp => ?_, fun hp => ?_⟩
    · obtain ⟨hname, hxml, -⟩ := hdeclarations d hd p hp
      exact ⟨hname, fun h => absurd h hxml⟩
    · obtain ⟨p, hp⟩ := Option.ne_none_iff_exists'.1 hp
      exact (hdeclarations d hd p hp).2.2

theorem listElement_restated :
    ∃ x e', listElement.unmarshal listRegistry .standard .empty = .ok x ∧
      x.marshal ⟨.standard, true⟩ .empty = .ok e' ∧
      listElement.Restates listRegistry .standard .empty .empty e' := by
  have hreadable :
      (listElement.unmarshal listRegistry .standard .empty).toOption.isSome = true := by
    decide
  obtain ⟨x, hread⟩ := Option.isSome_iff_exists.1 hreadable
  rw [toOption_eq_some] at hread
  have hcomplete : listElement.Everywhere
      (fun inForce _ el => el.Complete listRegistry .standard inForce) .empty 1 := by
    refine listElement_everywhere.2 ⟨?_, ?_⟩
    · refine ⟨none, listType, .absent rfl, Registry.select?_eq_some.1 (by decide), ?_⟩
      intro spec hspec _
      obtain rfl := List.mem_singleton.1 hspec
      exact ⟨"1", rfl⟩
    · exact ⟨none, .wildcard, .absent rfl, Registry.select?_eq_some.1 (by decide), nofun⟩
  obtain ⟨hwritable, hrestated⟩ :=
    Element.reemission_lossless listRegistry_filled Scope.legal_empty listElement_spelled hread
  obtain ⟨e', hwrite⟩ := hwritable.2 hcomplete
  exact ⟨x, e', hread, hwrite, hrestated e' hwrite⟩

end XmlBinding
