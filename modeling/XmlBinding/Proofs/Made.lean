import XmlBinding.Proofs.StartTag

/-!
Objects as they can be made: built from a descriptor or read from a document, and then changed.
Whatever is done to an object, its attributes stay where its descriptor wants them, and its names
stay as their constructors make them. What is said of all such objects needs no other assumption on
how an object came to be what it is.
-/

namespace XmlBinding

/-- The names and declarations of a tag as their constructors make them. -/
structure Tag.Normal (tag : Tag) : Prop where
  name : tag.name.Normal
  attributes : ∀ e ∈ tag.attributes.entries, e.1.Normal
  declarations : ∀ d ∈ tag.declarations, d.nsPrefix ≠ some ""

/-- What an object keeps, whatever is done to it. -/
structure ObjectHead.Regular (head : ObjectHead) : Prop where
  normal : head.Normal
  routed : head.Routed

/-- The changes to an object that leave its children alone. -/
inductive ObjectHead.Sets (head : ObjectHead) : ObjectHead → Prop where
  | setting {name : QName} (normal : name.Normal) (value : String) :
      Sets head (head.setAttribute name value)
  | removal (name : QName) : Sets head (head.removeAttribute name).2
  | nil (nil : Option Truth) : Sets head { head with nil }
  | schemaLocation (schemaLocation : Option String) : Sets head { head with schemaLocation }
  | noNamespaceLocation (noNamespaceLocation : Option String) :
      Sets head { head with noNamespaceLocation }
  | declaration {d : Declaration} (named : d.nsPrefix ≠ some "") : Sets head (head.declare d)

/-- An object graph that was built from a descriptor, or read from a document with whatever
registry, and then changed: by setters, and by putting other such graphs and texts in the place of
the children. The names that come in, and the prefixes that are declared, are as their constructors
make them: none has an empty namespace or an empty prefix in place of none. -/
inductive TypedObject.Made : TypedObject → Prop where
  | build {d : TypeDescriptor} (name : d.name.Normal) : Made d.build
  | buildNamed {d : TypeDescriptor} {elementName : QName} (name : elementName.Normal)
      (type : d.xsiType.Normal) : Made (d.buildNamed elementName)
  | read {e : Element} {r : Registry} {config : UnmarshalConfig} {scope : Scope} {x : TypedObject}
      (tags : e.Everywhere (fun _ _ el => el.toTag.Normal) scope 1)
      (h : e.unmarshal r config scope = .ok x) : Made x
  | set {o : TypedObject} {head : ObjectHead} (h : Made o) (change : o.toObjectHead.Sets head) :
      Made ⟨head, o.children⟩
  | setChildren {o : TypedObject} {children : List Child} (h : Made o)
      (below : ∀ c, .object c ∈ children → Made c) : Made { o with children }
  | child {o c : TypedObject} (h : Made o) (below : .object c ∈ o.children) : Made c

/-- What is resolved is a name that a constructor has made. -/
theorem Scope.normal_of_resolve {s : Scope} {text : String} {q : QName}
    (h : s.resolve text = .ok q) : q.Normal := by
  rw [resolve] at h
  split at h
  · next p after _ =>
      cases hp : s.prefixUri p with
      | none => simp [hp] at h
      | some uri =>
          simp only [hp, mapError_eq_ok, QName.of?_eq_ok] at h
          exact h.1 ▸ QName.normal_of _ _ _
  · simp only [mapError_eq_ok, QName.of?_eq_ok] at h
    exact h.1 ▸ QName.normal_of _ _ _

namespace ObjectHead

variable {head head' : ObjectHead}

theorem regular_ofDescriptor (d : TypeDescriptor) {elementName : QName}
    {schemaType : Option QName} (name : elementName.Normal)
    (type : ∀ type, schemaType = some type → type.Normal) :
    { ofDescriptor d elementName with schemaType }.Regular :=
  ⟨⟨name, type, nofun, nofun, nofun⟩, nofun, nofun⟩

theorem Normal.setAttribute (h : head.Normal) {name : QName} (hname : name.Normal)
    (value : String) : (head.setAttribute name value).Normal := by
  rw [ObjectHead.setAttribute]
  split
  · refine ⟨h.elementName, h.schemaType, fun e he => ?_, h.unknown, h.declarations⟩
    rcases OrderedTable.mem_entries_set.1 he with rfl | ⟨hmem, -⟩
    · exact hname
    · exact h.attributes e hmem
  · refine ⟨h.elementName, h.schemaType, h.attributes, fun e he => ?_, h.declarations⟩
    rcases OrderedTable.mem_entries_set.1 he with rfl | ⟨hmem, -⟩
    · exact hname
    · exact h.unknown e hmem

theorem Normal.removeAttribute (h : head.Normal) (name : QName) :
    (head.removeAttribute name).2.Normal := by
  rw [ObjectHead.removeAttribute]
  split
  · exact ⟨h.elementName, h.schemaType,
      fun e he => h.attributes e (List.mem_of_mem_filter he), h.unknown, h.declarations⟩
  · exact ⟨h.elementName, h.schemaType, h.attributes,
      fun e he => h.unknown e (List.mem_of_mem_filter he), h.declarations⟩

theorem mem_declarations_declare {d d' : Declaration} (h : d' ∈ (head.declare d).declarations) :
    d' ∈ head.declarations ∨ d' = d := by
  rw [ObjectHead.declare, addDeclaration] at h
  split at h
  · exact .inl h
  · simpa using h

/-- A change keeps the names normal and the attributes in their places. -/
theorem Sets.regular (change : head.Sets head') (h : head.Regular) : head'.Regular := by
  obtain ⟨hnormal, hrouted⟩ := h
  cases change with
  | setting normal value =>
      exact ⟨hnormal.setAttribute normal value, hrouted.setAttribute _ value⟩
  | removal name => exact ⟨hnormal.removeAttribute name, hrouted.removeAttribute name⟩
  | declaration named =>
      refine ⟨⟨hnormal.elementName, hnormal.schemaType, hnormal.attributes, hnormal.unknown, ?_⟩,
        hrouted.attributes, hrouted.unknown⟩
      intro d hd
      rcases mem_declarations_declare hd with hd | rfl
      · exact hnormal.declarations d hd
      · exact named
  | nil | schemaLocation | noNamespaceLocation =>
      exact ⟨⟨hnormal.elementName, hnormal.schemaType, hnormal.attributes, hnormal.unknown,
        hnormal.declarations⟩, hrouted.attributes, hrouted.unknown⟩

/-- What is read from a tag has the names of the tag, and a type that was resolved. -/
theorem ReadFrom.regular {r : Registry} {config : UnmarshalConfig} {scope : Scope} {tag : Tag}
    (h : head.ReadFrom r config scope tag) (htag : tag.Normal) : head.Regular where
  routed := h.routed
  normal :=
    { elementName := h.elementName ▸ htag.name
      schemaType := fun type htype => by
        have hnames := h.schemaType
        rw [htype] at hnames
        cases hnames with
        | named _ hmeaning => exact Scope.normal_of_resolve hmeaning
      attributes := fun e he => by
        rw [h.attributes] at he
        exact htag.attributes e (List.mem_of_mem_filter he)
      unknown := fun e he => by
        rw [h.unknown] at he
        exact htag.attributes e (List.mem_of_mem_filter he)
      declarations := fun d hd => by
        rw [h.declarations, List.mem_eraseDups] at hd
        exact htag.declarations d hd }

end ObjectHead

/-- Every object that is read from a tree with normal names is regular. -/
theorem Element.regular_of_decodesTo {e : Element} {r : Registry} {config : UnmarshalConfig}
    {scope : Scope} {depth : Nat} {x : TypedObject}
    (tags : e.Everywhere (fun _ _ el => el.toTag.Normal) scope depth)
    (h : e.DecodesTo r config scope x) : ∀ o ∈ x.graph, o.Regular := by
  induction e generalizing scope depth x with
  | mk tag nodes ih =>
      obtain ⟨head, children⟩ := x
      rw [everywhere_mk] at tags
      rw [decodesTo_mk] at h
      rw [TypedObject.forall_mem_graph]
      refine ⟨h.1.regular tags.1, fun c hc => ?_⟩
      obtain ⟨e, he, hbelow⟩ := exists_element_of_mem h.2 hc
      have hmem := List.mem_of_mem_filter he
      exact ih e hmem (tags.2 e hmem) hbelow

namespace TypedObject

theorem regular_buildNamed {d : TypeDescriptor} {elementName : QName} (name : elementName.Normal)
    (type : d.xsiType.Normal) : (d.buildNamed elementName).Regular := by
  apply ObjectHead.regular_ofDescriptor d name
  intro t ht
  split at ht
  · cases ht
    exact type
  · cases ht

/-- However an object graph was made, every object of it is regular. -/
theorem Made.regular {x : TypedObject} (h : x.Made) : ∀ o ∈ x.graph, o.Regular := by
  induction h with
  | build name =>
      rw [forall_mem_graph]
      exact ⟨ObjectHead.regular_ofDescriptor _ name nofun, nofun⟩
  | buildNamed name type =>
      rw [forall_mem_graph]
      exact ⟨regular_buildNamed name type, nofun⟩
  | read tags h => exact Element.regular_of_decodesTo tags (Element.sound_of_unmarshalAt h).2
  | set h change ih =>
      rw [forall_mem_graph] at ih ⊢
      exact ⟨change.regular ih.1, ih.2⟩
  | setChildren h below ih ihbelow =>
      rw [forall_mem_graph] at ih ⊢
      exact ⟨ih.1, ihbelow⟩
  | child h below ih =>
      rw [forall_mem_graph] at ih
      exact ih.2 _ below

end TypedObject

end XmlBinding
