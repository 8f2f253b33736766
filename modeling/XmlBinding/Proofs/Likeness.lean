import XmlBinding.Proofs.RoundTrip

/-!
Reading elements that are alike. No step of reading looks at the prefix of a name or at the order of
attributes, so a run on one tree can be carried over, step by step, to any tree like it. Main
statement: of two trees that are alike both can be read or neither, and the objects read from them
are alike, with the same descriptors from the outermost object down.
-/

namespace XmlBinding

/-! ### Elements that are alike -/

theorem QName.same_comm (a b : QName) : a.same b = b.same a := by
  rw [Bool.eq_iff_iff, same_iff, same_iff, eq_comm]

/-- Tags are alike if their names are, their declarations are the same, and so is what is found
under every name. -/
theorem Tag.same_iff {tag tag' : Tag} :
    tag.same tag' = true ↔
      tag.name.same tag'.name = true ∧ tag.declarations = tag'.declarations ∧
        ∀ name, tag.attributes.get? name = tag'.attributes.get? name := by
  rw [Tag.same, Bool.and_eq_true, Bool.and_eq_true, beq_iff_eq, OrderedTable.sameContent_iff,
    and_assoc]

theorem Tag.same_comm (tag tag' : Tag) : tag.same tag' = tag'.same tag := by
  rw [Bool.eq_iff_iff, Tag.same_iff, Tag.same_iff, QName.same_comm]
  simp only [eq_comm]

theorem Node.sameAll_iff {nodes nodes' : List Node} :
    Node.sameAll nodes nodes' = true ↔
      List.Forall₂ (fun n n' => n.same n' = true) nodes nodes' := by
  induction nodes generalizing nodes' with
  | nil => cases nodes' <;> simp [Node.sameAll]
  | cons n ns ih => cases nodes' <;> simp [Node.sameAll, ih]

theorem Element.same_mk {tag tag' : Tag} {nodes nodes' : List Node} :
    Element.same ⟨tag, nodes⟩ ⟨tag', nodes'⟩ = true ↔
      tag.same tag' = true ∧ List.Forall₂ (fun n n' => n.same n' = true) nodes nodes' := by
  rw [Element.same, Bool.and_eq_true, Node.sameAll_iff]

theorem Element.same_symm {e e' : Element} (h : e.same e' = true) : e'.same e = true := by
  induction e generalizing e' with
  | mk tag nodes ih =>
      obtain ⟨tag', nodes'⟩ := e'
      rw [Element.same_mk] at h ⊢
      refine ⟨Tag.same_comm tag tag' ▸ h.1, ?_⟩
      refine List.Forall₂.flip (forall₂_imp_of_mem h.2 fun n hn n' hsame => ?_)
      show n'.same n = true
      cases n with
      | text value => cases n' <;> simp_all [Node.same]
      | element e =>
          cases n' with
          | text value => simp [Node.same] at hsame
          | element e' =>
              rw [Node.same] at hsame
              simpa only [Node.same] using ih e hn hsame

/-- A text is like itself only, so what is kept of lists that are alike is alike. -/
theorem Node.kept_of_same {nodes nodes' : List Node}
    (h : List.Forall₂ (fun n n' => n.same n' = true) nodes nodes') (config : UnmarshalConfig)
    (content : ContentModel) :
    List.Forall₂ (fun n n' => n.same n' = true)
      (nodes.filter fun n => !n.isDropped config content)
      (nodes'.filter fun n => !n.isDropped config content) := by
  refine List.rel_filter (fun n n' hsame => ?_) h
  have hdropped : n.isDropped config content = n'.isDropped config content := by
    cases n <;> cases n' <;> simp_all [Node.same, Node.isDropped]
  dsimp only
  rw [hdropped]

/-! ### Objects that are alike -/

/-- Objects that are alike and have, from the outermost one down, the very same descriptors. -/
structure TypedObject.Alike (x y : TypedObject) : Prop where
  same : x.same y = true
  descriptors : x.graph.map (·.descriptor) = y.graph.map (·.descriptor)

/-- Lists of children of which this holds. -/
structure Child.Alike (children others : List Child) : Prop where
  same : Child.sameAll children others = true
  descriptors : (Child.graphAll children).map (·.descriptor) =
    (Child.graphAll others).map (·.descriptor)

section Objects

variable {head head' : ObjectHead} {children others : List Child}

theorem TypedObject.Alike.mk' (hhead : head.same head' = true)
    (hdescriptor : head.descriptor = head'.descriptor) (h : Child.Alike children others) :
    TypedObject.Alike ⟨head, children⟩ ⟨head', others⟩ where
  same := TypedObject.same_iff.2 ⟨hhead, h.same⟩
  descriptors := by
    rw [TypedObject.graph, TypedObject.graph, List.map_cons, List.map_cons, h.descriptors,
      hdescriptor]

/-- Children that are alike have the same texts. -/
theorem Child.text?_of_sameAll (h : Child.sameAll children others = true) :
    TypedObject.text? ⟨head, children⟩ = TypedObject.text? ⟨head', others⟩ := by
  have htexts : children.filterMap Child.text? = others.filterMap Child.text? := by
    induction children generalizing others with
    | nil => cases others <;> simp_all [Child.sameAll]
    | cons c cs ih =>
        cases others with
        | nil => simp [Child.sameAll] at h
        | cons c' cs' =>
            rw [Child.sameAll, Bool.and_eq_true] at h
            have htext : c.text? = c'.text? := by
              cases c <;> cases c' <;> simp_all [Child.same, Child.text?]
            rw [List.filterMap_cons, List.filterMap_cons, htext, ih h.2]
  rw [TypedObject.text?, TypedObject.text?]
  simp only [htexts]

/-- Where elements that are alike have objects that are alike, lists of such nodes have such
children. -/
theorem Child.exists_alike {R S : Element → TypedObject → Prop} {nodes nodes' : List Node}
    (h : List.Forall₂ (Node.Matches R) nodes children)
    (hnodes : List.Forall₂ (fun n n' => n.same n' = true) nodes nodes')
    (carry : ∀ e e' o, .element e ∈ nodes → e.same e' = true → R e o → ∃ y, S e' y ∧ o.Alike y) :
    ∃ others, List.Forall₂ (Node.Matches S) nodes' others ∧ Child.Alike children others := by
  induction h generalizing nodes' with
  | nil =>
      cases hnodes
      exact ⟨[], .nil, rfl, rfl⟩
  | @cons n c ns cs hn _ ih =>
      obtain ⟨n', ns', hsame, hrest, rfl⟩ := List.forall₂_cons_left_iff.1 hnodes
      obtain ⟨others, hothers, halike⟩ := ih hrest fun e e' o he =>
        carry e e' o (List.mem_cons_of_mem n he)
      cases hn with
      | text value =>
          cases n' with
          | element e' => simp [Node.same] at hsame
          | text value' =>
              refine ⟨.text value' :: others, .cons (.text value') hothers, ?_, ?_⟩
              · rw [Child.sameAll, Child.same, halike.same, Bool.and_true]
                simpa only [Node.same] using hsame
              · exact halike.descriptors
      | @element e o ho =>
          cases n' with
          | text value' => simp [Node.same] at hsame
          | element e' =>
              rw [Node.same] at hsame
              obtain ⟨y, hy, hoy⟩ := carry e e' o List.mem_cons_self hsame ho
              refine ⟨.object y :: others, .cons (.element hy) hothers, ?_, ?_⟩
              · rw [Child.sameAll, Child.same, hoy.same, halike.same]
                rfl
              · rw [Child.graphAll, Child.graphAll, Child.graph, Child.graph, List.map_append,
                  List.map_append, hoy.descriptors, halike.descriptors]

end Objects

/-! ### Reading one tag -/

section Tags

variable {tag tag' : Tag} {r : Registry} {config : UnmarshalConfig} {scope : Scope}
  {head head' : ObjectHead} {type : Option QName} {d : TypeDescriptor}

theorem Tag.NamesType.carry (h : tag.NamesType scope type) (hsame : tag.same tag' = true) :
    tag'.NamesType scope type := by
  obtain ⟨-, -, hattributes⟩ := Tag.same_iff.1 hsame
  have htype : tag.attribute? xsiTypeName = tag'.attribute? xsiTypeName := hattributes _
  cases h with
  | absent h => exact .absent (htype ▸ h)
  | named h meaning => exact .named (htype ▸ h) meaning

/-- Descriptors are chosen by names up to their prefixes. -/
theorem Registry.Chooses.carry {name name' : QName} (h : r.Chooses config name type d)
    (hsame : name.same name' = true) : r.Chooses config name' type d := by
  rw [← Registry.select?_eq_some, Registry.select?] at h ⊢
  rwa [← Registry.lookup_congr hsame]

theorem TypeDescriptor.Fits.carry {entry entry' : QName × String} (h : d.Fits scope entry)
    (hname : entry.1.expanded = entry'.1.expanded) (hvalue : entry.2 = entry'.2) :
    d.Fits scope entry' where
  nil hnil := by
    rw [← hvalue]
    refine h.nil ?_
    rw [QName.same_iff, hname]
    exact QName.same_iff.1 hnil
  value hinstance spec hspec := by
    rw [← hvalue]
    refine h.value ?_ spec ?_
    · rwa [QName.isInstance_congr hname]
    · rwa [TypeDescriptor.spec?_congr hname]

/-- What is read from tags that are alike is alike. -/
theorem ObjectHead.ReadFrom.same_of_same (h : head.ReadFrom r config scope tag)
    (h' : head'.ReadFrom r config scope tag') (hsame : tag.same tag' = true) :
    head.same head' = true ∧ head.descriptor = head'.descriptor := by
  obtain ⟨hname, hdeclarations, hattributes⟩ := Tag.same_iff.1 hsame
  have hvalue (name : QName) : tag.attribute? name = tag'.attribute? name :=
    hattributes name.expanded
  have htype : head.schemaType = head'.schemaType := (h.schemaType.carry hsame).eq h'.schemaType
  have hdescriptor : head.descriptor = head'.descriptor := by
    have hchosen := h.descriptor.carry hname
    rw [htype] at hchosen
    exact hchosen.eq h'.descriptor
  have hmodeled (k : ExpandedName) : head.attributes.get? k = head'.attributes.get? k := by
    have hstored := h.attributes_get? ⟨k, none⟩
    rw [hdescriptor, hvalue] at hstored
    exact hstored.trans (h'.attributes_get? ⟨k, none⟩).symm
  have hunknown (k : ExpandedName) : head.unknown.get? k = head'.unknown.get? k := by
    have hstored := h.unknown_get? ⟨k, none⟩
    rw [hdescriptor, hvalue] at hstored
    exact hstored.trans (h'.unknown_get? ⟨k, none⟩).symm
  refine ⟨?_, hdescriptor⟩
  simp only [ObjectHead.same, Bool.and_eq_true, beq_iff_eq, OrderedTable.sameContent_iff]
  refine ⟨⟨⟨⟨⟨⟨⟨?_, ?_⟩, ?_⟩, ?_⟩, ?_⟩, ?_⟩, hmodeled⟩, hunknown⟩
  · rw [QName.same_iff, hdescriptor]
  · rw [h.elementName, h'.elementName, hname]
  · rw [htype]
  · rw [h.nil, h'.nil, hvalue]
  · rw [h.schemaLocation, h'.schemaLocation, hvalue]
  · rw [h.noNamespaceLocation, h'.noNamespaceLocation, hvalue]

/-- A tag that can be read makes every tag like it readable, in whatever order the attributes of the
other one are read. -/
theorem Tag.readHead_carry (h : tag.readHead r config scope = .ok head)
    (hsame : tag.same tag' = true) :
    ∃ head', tag'.readHead r config scope = .ok head' ∧ head.same head' = true ∧
      head.descriptor = head'.descriptor := by
  obtain ⟨hread, hfits⟩ := Tag.readHead_eq_ok.1 h
  obtain ⟨hname, -, hattributes⟩ := Tag.same_iff.1 hsame
  have hread' := ObjectHead.readFrom_foldl_take (hread.schemaType.carry hsame)
    (hread.descriptor.carry hname)
  obtain ⟨hlike, hdescriptor⟩ := hread.same_of_same hread' hsame
  refine ⟨_, Tag.readHead_eq_ok.2 ⟨hread', fun entry hentry => ?_⟩, hlike, hdescriptor⟩
  -- The entry stands in the first tag as well, somewhere, with some prefix.
  have hfound := OrderedTable.get?_of_mem hentry
  rw [← hattributes, OrderedTable.get?_eq_some_iff] at hfound
  obtain ⟨name, hmem, hexpanded⟩ := hfound
  rw [← hdescriptor]
  exact (hfits _ hmem).carry hexpanded rfl

end Tags

/-! ### Reading a tree -/

/-- A run on one element, carried over to an element like it. -/
theorem Element.unmarshalAt_carry {e e' : Element} {r : Registry} {config : UnmarshalConfig}
    {scope : Scope} {depth : Nat} {x : TypedObject}
    (h : e.unmarshalAt r config scope depth = .ok x) (hsame : e.same e' = true) :
    ∃ y, e'.unmarshalAt r config scope depth = .ok y ∧ x.Alike y := by
  induction e generalizing e' scope depth x with
  | mk tag nodes ih =>
      obtain ⟨head, children⟩ := x
      obtain ⟨tag', nodes'⟩ := e'
      obtain ⟨htag, hnodes⟩ := Element.same_mk.1 hsame
      obtain ⟨-, hdeclarations, hattributes⟩ := Tag.same_iff.1 htag
      obtain ⟨hlimits, hhead, hchildren, htext⟩ := Element.unmarshalAt_eq_ok.1 h
      rw [OrderedTable.size_eq_of_get?_eq hattributes, hnodes.length_eq] at hlimits
      rw [hdeclarations] at hhead hchildren htext
      obtain ⟨head', hhead', hlike, hdescriptor⟩ := Tag.readHead_carry hhead htag
      rw [hdescriptor] at hchildren htext
      rw [Node.unmarshalAll_eq_ok] at hchildren
      have hkept := Node.kept_of_same hnodes config head'.descriptor.content
      obtain ⟨others, hothers, halike⟩ := Child.exists_alike hchildren hkept
        fun e e' o he hsame ho => ih e (List.mem_of_mem_filter he) ho hsame
      rw [Child.text?_of_sameAll halike.same] at htext
      refine ⟨⟨head', others⟩, ?_, .mk' hlike hdescriptor halike⟩
      rw [Element.unmarshalAt_eq_ok, Node.unmarshalAll_eq_ok]
      exact ⟨hlimits, hhead', hothers, htext⟩

/-- Neither the prefixes of names nor the order of attributes can change whether a tree is accepted,
which descriptor is chosen for any of its elements, or what is read. -/
theorem Element.unmarshal_same {e e' : Element} (h : e.same e' = true) (r : Registry)
    (config : UnmarshalConfig) (scope : Scope) :
    ((∃ x, e.unmarshal r config scope = .ok x) ↔ ∃ y, e'.unmarshal r config scope = .ok y) ∧
      ∀ x y, e.unmarshal r config scope = .ok x → e'.unmarshal r config scope = .ok y →
        x.same y = true ∧ x.graph.map (·.descriptor) = y.graph.map (·.descriptor) := by
  refine ⟨⟨?_, ?_⟩, fun x y hx hy => ?_⟩
  · rintro ⟨x, hx⟩
    obtain ⟨y, hy, -⟩ := Element.unmarshalAt_carry hx h
    exact ⟨y, hy⟩
  · rintro ⟨y, hy⟩
    obtain ⟨x, hx, -⟩ := Element.unmarshalAt_carry hy (Element.same_symm h)
    exact ⟨x, hx⟩
  · -- Reading has one result, so this is the one that the run on the first tree carries over to.
    obtain ⟨y', hy', halike⟩ := Element.unmarshalAt_carry hx h
    cases hy.symm.trans hy'
    exact ⟨halike.same, halike.descriptors⟩

/-! ### A memo that is written in two ways -/

def noteType : TypeDescriptor :=
  ((TypeDescriptor.ofName (.prefixed "urn:n" "Note" "n")).withTypeName
    (.prefixed "urn:n" "NoteType" "n")).withAttribute (.unqualified "urgent") .boolean

def noteRegistry : Registry :=
  (Registry.withFallback.registerType noteType).1

/-- A memo is known by its type only; the note in it is known by its name. -/
def memo (p : String) (attributes : List (QName × String)) : Element :=
  ⟨⟨.prefixed "urn:n" "Memo" p, [⟨some "n", "urn:n"⟩, ⟨some "m", "urn:n"⟩], .ofList attributes⟩,
    [.element ⟨⟨.prefixed "urn:n" "Note" p, [], .empty⟩, []⟩]⟩

def memoAttributes (p : String) : List (QName × String) :=
  [(.prefixed instanceUri "type" p, "n:NoteType"), (.unqualified "urgent", "true")]

theorem memo_read_alike :
    let e := memo "n" (memoAttributes "xsi")
    let e' := memo "m" (memoAttributes "i").reverse
    e.same e' = true ∧ e.name ≠ e'.name ∧ e.attributes.items ≠ e'.attributes.items ∧
      (∃ x, e.unmarshal noteRegistry .standard .empty = .ok x) ∧
      ((∃ x, e.unmarshal noteRegistry .standard .empty = .ok x) ↔
        ∃ y, e'.unmarshal noteRegistry .standard .empty = .ok y) ∧
      ∀ x y, e.unmarshal noteRegistry .standard .empty = .ok x →
        e'.unmarshal noteRegistry .standard .empty = .ok y →
          x.same y = true ∧ x.graph.map (·.descriptor) = y.graph.map (·.descriptor) := by
  intro e e'
  have hsame : e.same e' = true := by decide +kernel
  have hreadable : (e.unmarshal noteRegistry .standard .empty).toOption.isSome = true := by
    decide +kernel
  exact ⟨hsame, by decide +kernel, by decide +kernel, exists_eq_ok hreadable,
    Element.unmarshal_same hsame noteRegistry .standard .empty⟩

end XmlBinding
