import XmlBinding.Proofs.Built

/-!
Writing a graph that was built and reading it back. What is read is the graph again, provided one
thing: the text of a type is trimmed before it is read, and there are names that begin or end with a
character that counts as blank. A reader takes such a type for another one. Apart from that nothing
is lost.
-/

namespace XmlBinding

/-! ### Likeness of graphs -/

theorem TypedObject.same_iff {x y : TypedObject} :
    x.same y = true ↔
      x.toObjectHead.same y.toObjectHead = true ∧ Child.sameAll x.children y.children = true := by
  obtain ⟨head, children⟩ := x
  rw [TypedObject.same, Bool.and_eq_true]

/-- Nodes that match the members of two lists of like children. -/
theorem exists_like_of_forall₂ {R U : Element → TypedObject → Prop} {nodes : List Node}
    {children others : List Child} {e : Element} (h : List.Forall₂ (Node.Matches R) nodes children)
    (h' : List.Forall₂ (Node.Matches U) nodes others) (hsame : Child.sameAll others children = true)
    (he : .element e ∈ nodes) :
    ∃ o y, .object o ∈ children ∧ R e o ∧ U e y ∧ y.same o = true := by
  induction h generalizing others with
  | nil => cases he
  | @cons n c ns cs hn _ ih =>
      obtain ⟨c', others, hn', hns', rfl⟩ := List.forall₂_cons_left_iff.1 h'
      rw [Child.sameAll, Bool.and_eq_true] at hsame
      rcases List.mem_cons.1 he with rfl | he
      · obtain ⟨o, rfl, ho⟩ := Node.matches_element_iff.1 hn
        obtain ⟨y, rfl, hy⟩ := Node.matches_element_iff.1 hn'
        rw [Child.same] at hsame
        exact ⟨o, y, List.mem_cons_self, ho, hy, hsame.1⟩
      · obtain ⟨o, y, hmem, ho, hy, hlike⟩ := ih hns' hsame.2 he
        exact ⟨o, y, List.mem_cons_of_mem c hmem, ho, hy, hlike⟩

/-- From a like object for each element, like children for all nodes. -/
theorem exists_like_children {R U : Element → TypedObject → Prop} {nodes : List Node}
    {children : List Child} (h : List.Forall₂ (Node.Matches R) nodes children)
    (like : ∀ e o, .element e ∈ nodes → .object o ∈ children → R e o →
      ∃ y, U e y ∧ y.same o = true) :
    ∃ others, List.Forall₂ (Node.Matches U) nodes others ∧
      Child.sameAll others children = true := by
  induction h with
  | nil => exact ⟨[], .nil, rfl⟩
  | @cons n c ns cs hn _ ih =>
      obtain ⟨others, hothers, hsame⟩ := ih fun e o he ho =>
        like e o (List.mem_cons_of_mem n he) (List.mem_cons_of_mem c ho)
      cases hn with
      | text value =>
          refine ⟨.text value :: others, .cons (.text value) hothers, ?_⟩
          rw [Child.sameAll, Child.same, hsame, beq_self_eq_true]
          rfl
      | element ho =>
          obtain ⟨y, hy, hlike⟩ := like _ _ List.mem_cons_self List.mem_cons_self ho
          refine ⟨.object y :: others, .cons (.element hy) hothers, ?_⟩
          rw [Child.sameAll, Child.same, hsame, hlike]
          rfl

/-! ### Objects that can be written and read -/

/-- What an object must fulfil besides being built: its names are proper, `xml` stands for its own
namespace only, its values are in the lexical spaces of their kinds (but for names, which are
checked where they are written), none of its own attributes is one that every element may have, and
it has no blank text where blank text means nothing. -/
structure TypedObject.Presentable (o : TypedObject) : Prop where
  elementName : o.elementName.Proper
  xmlName : o.elementName.nsPrefix = some "xml" → o.elementName.uri = some xmlUri
  schemaType : ∀ type, o.schemaType = some type → type.Proper
  attributeNames : ∀ e ∈ o.attributes.entries, e.1.Proper
  unknownNames : ∀ e ∈ o.unknown.entries, e.1.Proper ∧ e.1.isInstance = false
  declarations : ∀ d ∈ o.declarations, d.PrefixIn fun p => isNCName p = true
  values : ∀ e ∈ o.attributes.entries, ∀ spec, o.descriptor.spec? e.1 = some spec →
    spec.kind ≠ .qName → spec.kind.Accepts .empty e.2
  content : ∀ kind text, o.descriptor.content = .simple kind → kind ≠ .qName →
    o.text? = some text → kind.Accepts .empty text
  children : o.descriptor.content.ignoresBlank = true →
    ∀ text, .text text ∈ o.children → Text.isBlankText text = false

theorem TypedObject.Presentable.legal {o : TypedObject} (h : o.Presentable) :
    o.Legal fun p => isNCName p = true where
  elementName := h.elementName.legal
  xmlName := h.xmlName
  schemaType type htype := (h.schemaType type htype).legal
  attributes e he := (h.attributeNames e he).legal
  unknown e he := (h.unknownNames e he).1.legal
  declarations := h.declarations

/-- Only names have different lexical spaces in different scopes. -/
theorem ValueKind.Accepts.of_ne {kind : ValueKind} {s t : Scope} {value : String}
    (hkind : kind ≠ .qName) (h : kind.Accepts s value) : kind.Accepts t value := by
  cases kind with
  | qName => exact absurd rfl hkind
  | _ => exact h

section Level

variable {r : Registry} {config : UnmarshalConfig} {scope : Scope} {tag : Tag} {o : TypedObject}
  {head head' : ObjectHead} {type type' : Option QName} {allowed : String → Prop}

theorem TypedObject.Presentable.plain (h : o.Presentable) (hg : o.Grounded r) : o.Plain := by
  intro name hname
  have hattributes : o.attributes.get? name.expanded = none := by
    refine hg.attributes_get?_eq_none (Bool.eq_false_iff.2 fun hmodels => ?_)
    rw [TypeDescriptor.isInstance_of_models hg.check hmodels] at hname
    cases hname
  have hunknown : o.unknown.get? name.expanded = none := by
    rw [OrderedTable.get?_eq_none_iff]
    intro e he hsame
    have hother := (h.unknownNames e he).2
    rw [QName.isInstance_congr hsame, hname] at hother
    cases hother
  rw [ObjectHead.attribute?, hattributes, hunknown]
  rfl

/-- Of the attributes of an object, the modeled ones are in the one table and the others in the
other. -/
theorem ObjectHead.Routed.attributes_get? (h : head.Routed) (name : QName) :
    head.attributes.get? name.expanded =
      if head.descriptor.models name = true then head.attribute? name else none := by
  split
  · next hmodels => rw [ObjectHead.attribute?, h.unknown_get?_eq_none hmodels, Option.or_none]
  · next hmodels => exact h.attributes_get?_eq_none (Bool.eq_false_iff.2 hmodels)

theorem ObjectHead.Routed.unknown_get? (h : head.Routed) (name : QName) :
    head.unknown.get? name.expanded =
      if head.descriptor.models name = true then none else head.attribute? name := by
  split
  · next hmodels => exact h.unknown_get?_eq_none hmodels
  · next hmodels =>
      rw [ObjectHead.attribute?, h.attributes_get?_eq_none (Bool.eq_false_iff.2 hmodels),
        Option.none_or]

/-! ### One level of a graph -/

/-- What was written can be read under the descriptor it was written with. -/
theorem ObjectHead.Shown.fits (h : o.Shown allowed scope tag) (hp : o.Presentable)
    (hrouted : o.Routed) {text : Option String} (hmeant : o.NamesMeant scope text) :
    ∀ entry ∈ tag.attributes.entries, o.descriptor.Fits scope entry := by
  rintro ⟨name, value⟩ hmem
  have hvalue : tag.attribute? name = some value := OrderedTable.get?_of_mem hmem
  refine ⟨fun hnil => ?_, fun hinstance spec hspec => ?_⟩
  · have hnil' : tag.attribute? xsiNilName = some value := by
      rw [Tag.attribute?, ← QName.same_iff.1 hnil]
      exact hvalue
    rw [h.nil, Option.map_eq_some_iff] at hnil'
    obtain ⟨truth, -, rfl⟩ := hnil'
    exact ⟨truth, Truth.read?_write truth⟩
  · have hown := (h.own name hinstance).symm.trans hvalue
    have hmem' := List.mem_of_find?_eq_some hspec
    have hname : spec.name.same name = true := by simpa using List.find?_some hspec
    by_cases hkind : spec.kind = .qName
    · rw [hkind]
      apply hmeant.attributes spec hmem' hkind value
      rw [ObjectHead.attribute?, QName.same_iff.1 hname]
      exact hown
    · have hmodels : o.descriptor.models name = true := by
        rw [TypeDescriptor.models, hspec]
        rfl
      have hstored := hrouted.attributes_get? name
      rw [if_pos hmodels, hown] at hstored
      obtain ⟨name', hmem', hsame⟩ := OrderedTable.get?_eq_some_iff.1 hstored
      rw [← TypeDescriptor.spec?_congr hsame] at hspec
      exact (hp.values _ hmem' spec hspec hkind).of_ne hkind

theorem TypedObject.Presentable.fitsText (hp : o.Presentable)
    (hmeant : o.NamesMeant scope o.text?) : o.descriptor.FitsText scope o.text? := by
  intro kind text hcontent htext
  by_cases hkind : kind = .qName
  · rw [hkind] at hcontent ⊢
    exact hmeant.content hcontent text htext
  · exact (hp.content kind text hcontent hkind htext).of_ne hkind

/-- Like names and like types have the same descriptor. -/
theorem Registry.Finds.chooses {elementName : QName} {d : TypeDescriptor}
    (h : r.Finds elementName d type) (hkeep : config.keepUnknown = true)
    (htype : type'.map QName.expanded = type.map QName.expanded) :
    r.Chooses config elementName type' d := by
  cases h with
  | byName found =>
      rw [Option.map_none, Option.map_eq_none_iff] at htype
      subst htype
      exact .ofName nofun found
  | byType found =>
      obtain ⟨q, rfl, hq⟩ := Option.map_eq_some_iff.1 htype
      exact .ofType rfl ((lookup_congr (QName.same_iff.2 hq)).trans found)
  | byFallback unknown found =>
      rw [Option.map_none, Option.map_eq_none_iff] at htype
      subst htype
      exact .ofFallback nofun unknown hkeep found

/-- The text of the type on a tag denotes the same with the blanks around it and without. -/
def Tag.TypeKept (tag : Tag) (scope : Scope) : Prop :=
  ∀ text, tag.attribute? xsiTypeName = some text →
    scope.denotes (Text.trim text) = scope.denotes text

/-- The type that is read is the one that was written exactly if trimming does it no harm. -/
theorem ObjectHead.Shown.exists_namesType_iff
    (h : head.Shown (fun p => isNCName p = true) scope tag)
    (hproper : ∀ type, head.schemaType = some type → type.Proper) :
    (∃ type, tag.NamesType scope type ∧
      type.map QName.expanded = head.schemaType.map QName.expanded) ↔ tag.TypeKept scope := by
  have htext := h.type
  rw [TypeText] at htext
  cases htype : head.schemaType with
  | none =>
      rw [htype] at htext
      refine ⟨fun _ text hpresent => ?_, fun _ => ?_⟩
      · cases htext.symm.trans hpresent
      · exact ⟨none, .absent htext, rfl⟩
  | some type =>
      rw [htype] at htext
      obtain ⟨text, hpresent, hdenotes⟩ := htext
      have hwritten := hdenotes (fun _ hp => hp) (hproper type htype).localName
      refine ⟨?_, fun hkept => ?_⟩
      · rintro ⟨type', hnames, hlike⟩ text' htext'
        cases hpresent.symm.trans htext'
        obtain ⟨q, rfl, hmeaning⟩ := hnames.resolve hpresent
        rw [Scope.denotes_of_resolve hmeaning, hwritten]
        exact hlike
      · have hread := (hkept text hpresent).trans hwritten
        rw [Scope.denotes, Option.map_eq_some_iff] at hread
        obtain ⟨q, hq, hexpanded⟩ := hread
        refine ⟨some q, .named hpresent (toOption_eq_some.1 hq), ?_⟩
        exact congrArg some hexpanded

/-- What is read with the right type is like what was written. -/
theorem ObjectHead.ReadFrom.same (hread : head'.ReadFrom r config scope tag)
    (h : head.Shown allowed scope tag) (hname : tag.name = head.elementName)
    (hrouted : head.Routed) (hplain : head.Plain) (hd : head'.descriptor = head.descriptor)
    (htype : head'.schemaType.map QName.expanded = head.schemaType.map QName.expanded) :
    head'.same head = true := by
  have hnil : head'.nil = head.nil := by
    rw [hread.nil, h.nil]
    cases head.nil with
    | none => rfl
    | some truth => exact Truth.read?_write truth
  have hvalue : ∀ name, head'.attribute? name = head.attribute? name := by
    intro name
    rw [hread.attribute?_eq]
    cases hinstance : name.isInstance with
    | true => exact (hplain name hinstance).symm
    | false => exact h.own name hinstance
  -- Both are routed by one descriptor, so their tables agree as the attributes do.
  have hattributes : head'.attributes.sameContent head.attributes = true := by
    apply OrderedTable.sameContent_iff.2
    intro k
    have hstored := hread.routed.attributes_get? ⟨k, none⟩
    rw [hd, hvalue] at hstored
    exact hstored.trans (hrouted.attributes_get? ⟨k, none⟩).symm
  have hunknown : head'.unknown.sameContent head.unknown = true := by
    apply OrderedTable.sameContent_iff.2
    intro k
    have hstored := hread.routed.unknown_get? ⟨k, none⟩
    rw [hd, hvalue] at hstored
    exact hstored.trans (hrouted.unknown_get? ⟨k, none⟩).symm
  have hlocation := hread.schemaLocation.trans h.schemaLocation
  have hnoNamespace := hread.noNamespaceLocation.trans h.noNamespaceLocation
  have hname' := hread.elementName.trans hname
  simp only [ObjectHead.same, Bool.and_eq_true, beq_iff_eq, QName.same_iff]
  refine ⟨⟨⟨⟨⟨⟨⟨?_, ?_⟩, htype⟩, hnil⟩, hlocation⟩, hnoNamespace⟩, hattributes⟩, hunknown⟩
  · rw [hd]
  · rw [hname']

/-- No node that stands for a child of a presentable object is dropped. -/
theorem TypedObject.Presentable.filter_isDropped (config : UnmarshalConfig)
    {R : Element → TypedObject → Prop} {nodes : List Node} (hp : o.Presentable)
    (h : List.Forall₂ (Node.Matches R) nodes o.children) :
    (nodes.filter fun n => !n.isDropped config o.descriptor.content) = nodes := by
  rw [List.filter_eq_self]
  intro n hn
  cases n with
  | element e => rfl
  | text value =>
      obtain ⟨c, hc, hmatch⟩ := exists_mem_left_of_forall₂ h.flip hn
      obtain rfl := Node.matches_text_iff.1 (show (Node.text value).Matches R c from hmatch)
      cases hblank : o.descriptor.content.ignoresBlank with
      | false => simp [Node.isDropped, ContentModel.drops, hblank]
      | true => simp [Node.isDropped, ContentModel.drops, hp.children hblank value hc]

end Level

/-! ### The whole graph -/

/-- An element within the limits. -/
structure Element.Within (limits : Limits) (depth : Nat) (e : Element) : Prop where
  depth_le : depth ≤ limits.maxDepth
  attributes_le : e.attributes.size ≤ limits.maxAttributes
  children_le : e.children.length ≤ limits.maxChildren

section Graph

variable {r : Registry} {config : UnmarshalConfig} {writing : MarshalConfig} {scope : Scope}
  {depth : Nat} {x y : TypedObject} {e : Element}

/-- If no type is spoilt by trimming, what was written is read as a graph like the one written. -/
theorem TypedObject.exists_like_of_alongside (hkeep : config.keepUnknown = true)
    (hx : ∀ o ∈ x.graph, o.Presentable ∧ o.Grounded r)
    (h : x.Alongside (WrittenAs (fun p => isNCName p = true) writing) scope depth e)
    (hlimits : e.Everywhere (fun _ depth el => el.Within config.limits depth) scope depth)
    (hkept : e.Everywhere (fun scope _ el => el.TypeKept scope) scope depth) :
    ∃ y, e.unmarshalAt r config scope depth = .ok y ∧ y.same x = true := by
  induction x generalizing scope depth e with
  | mk head children ih =>
      obtain ⟨tag, nodes⟩ := e
      rw [forall_mem_graph] at hx
      obtain ⟨⟨hp, hg⟩, hbelow⟩ := hx
      rw [alongside_mk] at h
      rw [Element.everywhere_mk] at hlimits hkept
      have hwritten := h.1
      have hshown := hwritten.shown hg.toRouted (hp.plain hg)
      obtain ⟨type, hnames, hlike⟩ := (hshown.exists_namesType_iff hp.schemaType).2 hkept.1
      have hchooses := hg.finds.chooses hkeep hlike
      rw [← hwritten.name_eq] at hchooses
      -- The type is read as it was meant, so the descriptor found for it is that of the object.
      have hread := ObjectHead.readFrom_foldl_take hnames hchooses
      have hfixed := ObjectHead.fixed_foldl_take tag.attributes.entries
        { ObjectHead.ofDescriptor head.descriptor tag.name with
          schemaType := type, declarations := tag.declarations.foldl addDeclaration [] }
      generalize tag.attributes.entries.foldl ObjectHead.take _ = head' at hread hfixed
      have hd : head'.descriptor = head.descriptor := hfixed.1
      have hlike' : head'.schemaType.map QName.expanded = head.schemaType.map QName.expanded := by
        rw [hfixed.2.2.1]
        exact hlike
      obtain ⟨others, hothers, hsame⟩ := exists_like_children h.2 fun e o he ho halong =>
        ih o ho (hbelow o ho) halong (hlimits.2 e he) (hkept.2 e he)
      have hkeptNodes := hp.filter_isDropped config h.2
      refine ⟨⟨head', others⟩, Element.unmarshalAt_eq_ok.2 ⟨?_, ?_, ?_, ?_⟩, ?_⟩
      · exact ⟨hlimits.1.depth_le, hlimits.1.attributes_le, hlimits.1.children_le⟩
      · rw [Tag.readHead_eq_ok, hd]
        exact ⟨hread, hshown.fits hp hg.toRouted hwritten.meant⟩
      · rw [Node.unmarshalAll_eq_ok, hd, hkeptNodes]
        exact hothers
      · have htext : TypedObject.text? ⟨head', others⟩ = TypedObject.text? ⟨head, children⟩ :=
          (text?_of_forall₂ hothers).symm.trans hwritten.text_eq
        rw [hd, htext]
        exact hp.fitsText hwritten.meant
      · rw [same_iff]
        exact ⟨hread.same hshown hwritten.name_eq hg.toRouted (hp.plain hg) hd hlike', hsame⟩

/-- Where a graph like the one written is read, no type was spoilt by trimming. -/
theorem TypedObject.typeKept_of_like (hkeep : config.keepUnknown = true)
    (hx : ∀ o ∈ x.graph, o.Presentable ∧ o.Grounded r)
    (h : x.Alongside (WrittenAs (fun p => isNCName p = true) writing) scope depth e)
    (hy : e.DecodesTo r config scope y) (hsame : y.same x = true) :
    e.Everywhere (fun scope _ el => el.TypeKept scope) scope depth := by
  induction x generalizing scope depth e y with
  | mk head children ih =>
      obtain ⟨tag, nodes⟩ := e
      obtain ⟨head', others⟩ := y
      rw [forall_mem_graph] at hx
      obtain ⟨⟨hp, hg⟩, hbelow⟩ := hx
      rw [alongside_mk] at h
      rw [Element.decodesTo_mk] at hy
      obtain ⟨hread, hothers⟩ := hy
      rw [same_iff] at hsame
      have hwritten := h.1
      have hshown := hwritten.shown hg.toRouted (hp.plain hg)
      have hlike : head'.schemaType.map QName.expanded = head.schemaType.map QName.expanded := by
        have hhead := hsame.1
        simp only [ObjectHead.same, Bool.and_eq_true, beq_iff_eq] at hhead
        exact hhead.1.1.1.1.1.2
      -- A like object has a like type, and with it the same descriptor.
      have hd : head'.descriptor = head.descriptor := by
        have hchooses := hg.finds.chooses hkeep hlike
        rw [← hwritten.name_eq] at hchooses
        exact hread.descriptor.eq hchooses
      rw [hd, hp.filter_isDropped (o := ⟨head, children⟩) config h.2] at hothers
      rw [Element.everywhere_mk]
      refine ⟨(hshown.exists_namesType_iff hp.schemaType).1 ⟨_, hread.schemaType, hlike⟩, ?_⟩
      intro e he
      obtain ⟨o, y, ho, halong, hdecodes, hsame'⟩ :=
        exists_like_of_forall₂ h.2 hothers hsame.2 he
      exact ih o ho (hbelow o ho) halong hdecodes hsame'

/-- Reading what was written for a graph gives the graph again if and only if, on each of its
elements, the text of the type denotes the same after trimming as before. -/
theorem TypedObject.roundTrip_iff {limits : Limits} (hr : r.Filled)
    (hwild : ∀ key d, r.lookup key = some d → d.isWildcard = false) (hx : Built r x)
    (hpresentable : ∀ o ∈ x.graph, o.Presentable)
    (hscope : scope.PrefixesIn fun p => isNCName p = true)
    (hwritten : x.marshal ⟨limits, true⟩ scope = .ok e) (hkeep : config.keepUnknown = true)
    (hlimits : e.Everywhere (fun _ depth el => el.Within config.limits depth) scope 1) :
    (∃ y, e.unmarshal r config scope = .ok y ∧ y.same x = true) ↔
      e.Everywhere (fun scope _ el => el.TypeKept scope) scope 1 := by
  have hgraph : ∀ o ∈ x.graph, o.Presentable ∧ o.Grounded r :=
    fun o ho => ⟨hpresentable o ho, hx.grounded hr hwild o ho⟩
  have hlegal : ∀ o ∈ x.graph, o.Legal fun p => isNCName p = true :=
    fun o ho => (hpresentable o ho).legal
  have halong := writtenAs_of_marshalAt Scope.tracking_eq prefixClass_isNCName hlegal hscope rfl
    hwritten
  refine ⟨?_, fun hkept => ?_⟩
  · rintro ⟨y, hread, hsame⟩
    exact typeKept_of_like hkeep hgraph halong (Element.sound_of_unmarshalAt hread).2 hsame
  · exact exists_like_of_alongside hkeep hgraph halong hlimits hkept

end Graph

/-! ### One object, and a type whose name ends with a blank -/

/-- A type with the local part of its name left open. -/
def thingType (kind : String) : TypeDescriptor :=
  ((TypeDescriptor.ofName (.prefixed "urn:n" "Thing" "t")).withTypeName (.prefixed "urn:n" kind "t")
    ).withContent .mixed

def thingRegistry (kind : String) : Registry :=
  (Registry.withFallback.registerType (thingType kind)).1

/-- An object of the type under a name that is not its own. -/
def thing (kind : String) : TypedObject :=
  (thingType kind).buildNamed (.prefixed "urn:n" "Other" "t")

def thingElement (kind : String) : Element :=
  ((thing kind).marshal .standard .empty).toOption.getD default

theorem thing_presentable {kind : String} (h : isNCName kind = true) (children : List Child) :
    TypedObject.Presentable ⟨(thing kind).toObjectHead, children⟩ := by
  have hname : (QName.prefixed "urn:n" "Other" "t").Proper := by decide
  have hxml : (QName.prefixed "urn:n" "Other" "t").nsPrefix ≠ some "xml" := by decide
  have hkind : (QName.prefixed "urn:n" kind "t").Proper := by
    refine QName.proper_iff.2 ⟨QName.normal_of _ _ _, h, fun p hp => ?_⟩
    obtain rfl : "t" = p := Option.some.inj hp
    decide
  refine ⟨hname, fun hp => absurd hp hxml, fun type htype => ?_, nofun, nofun, nofun, nofun, ?_, ?_⟩
  · cases htype
    exact hkind
  · exact fun _ _ hcontent => nomatch hcontent
  · exact fun hblank => nomatch hblank

/-- The registry holds the one type, and the object is built from it. -/
theorem thing_built {kind : String}
    (h : (Registry.withFallback.registerType (thingType kind)).2 = .ok ()) :
    (thingRegistry kind).Filled ∧
      (∀ key d, (thingRegistry kind).lookup key = some d → d.isWildcard = false) ∧
      Built (thingRegistry kind) (thing kind) := by
  have hr : Registry.withFallback.registerType (thingType kind) = (thingRegistry kind, .ok ()) :=
    Prod.ext rfl h
  obtain ⟨-, -, -, hlookup⟩ := Registry.registerType_eq_ok hr
  refine ⟨.register .withFallback hr, fun key d hd => ?_, ?_⟩
  · rw [hlookup] at hd
    split at hd
    · have hwild : (QName.prefixed "urn:n" "Thing" "t").same anyTypeName = false := by decide
      cases hd
      exact hwild
    · cases hd
  · have hfound : (thingRegistry kind).lookup (thingType kind).name = some (thingType kind) := by
      rw [hlookup, if_pos (Registry.name_mem_keysOf _)]
    have hbuilt : (thingRegistry kind).buildNamed? (thingType kind).name
        (.prefixed "urn:n" "Other" "t") = some (thing kind) := by
      rw [Registry.buildNamed?, hfound]
      rfl
    exact .buildNamed hbuilt

/-- A type whose name ends with a character that is a part of names and a blank at once is lost: the
element is read without it, though everything that reading asks for is there. -/
theorem thing_lost :
    ((thingRegistry "Kind\u1680").Filled ∧
      (∀ key d, (thingRegistry "Kind\u1680").lookup key = some d → d.isWildcard = false) ∧
      Built (thingRegistry "Kind\u1680") (thing "Kind\u1680")) ∧
    (∀ o ∈ (thing "Kind\u1680").graph, o.Presentable) ∧
    (thing "Kind\u1680").marshal .standard .empty = .ok (thingElement "Kind\u1680") ∧
    (thingElement "Kind\u1680").Everywhere (fun _ depth el => el.Within .standard depth) .empty 1 ∧
    ¬∃ y, (thingElement "Kind\u1680").unmarshal (thingRegistry "Kind\u1680") .standard .empty =
      .ok y ∧ y.same (thing "Kind\u1680") = true := by
  refine ⟨thing_built rfl, fun o ho => ?_, rfl, ?_, ?_⟩
  · obtain rfl : o = thing "Kind\u1680" := List.mem_singleton.1 ho
    exact thing_presentable (by decide) []
  · rw [Element.everywhere_leaf fun _ => List.not_mem_nil]
    exact ⟨by decide, by decide, by decide⟩
  · rintro ⟨y, hread, hsame⟩
    have hother : ((thingElement "Kind\u1680").unmarshal (thingRegistry "Kind\u1680") .standard
        .empty).toOption.all (fun y => !y.same (thing "Kind\u1680")) = true := by
      decide +kernel
    rw [hread] at hother
    simp [Except.toOption, hsame] at hother

/-- An object of the type with a text and another such object below it. -/
def nestedThing : TypedObject :=
  ((thing "Kind").addChild (.text "a")).addChild (.object ((thing "Kind").addChild (.text "b")))

/-- The inner element declares nothing: its prefixes are those of the outer one. -/
def innerElement : Element :=
  ⟨⟨.prefixed "urn:n" "Other" "t", [], .ofList [(xsiTypeName, "t:Kind")]⟩, [.text "b"]⟩

def nestedElement : Element :=
  ⟨⟨.prefixed "urn:n" "Other" "t", [⟨some "t", "urn:n"⟩, ⟨some "xsi", instanceUri⟩],
      .ofList [(xsiTypeName, "t:Kind")]⟩,
    [.text "a", .element innerElement]⟩

theorem nestedElement_everywhere {P : Scope → Nat → Element → Prop} :
    nestedElement.Everywhere P .empty 1 ↔
      P (Scope.empty.declareAll nestedElement.declarations) 1 nestedElement ∧
        P (Scope.empty.declareAll nestedElement.declarations) 2 innerElement := by
  have helements : ∀ e, .element e ∈ nestedElement.children ↔ e = innerElement := by
    simp [nestedElement]
  have hleaf : ∀ e, .element e ∉ innerElement.children := by
    simp [innerElement]
  exact Element.everywhere_over_leaf helements hleaf

theorem nestedThing_built {r : Registry} (h : Built r (thing "Kind")) : Built r nestedThing := by
  have hinner : Built r ((thing "Kind").addChild (.text "b")) :=
    h.setChildren fun c hc => nomatch List.mem_singleton.1 hc
  have houter : Built r ((thing "Kind").addChild (.text "a")) :=
    h.setChildren fun c hc => nomatch List.mem_singleton.1 hc
  refine houter.setChildren fun c hc => ?_
  have hchildren : Child.object c ∈
      [.text "a", .object ((thing "Kind").addChild (.text "b"))] := hc
  obtain rfl : c = (thing "Kind").addChild (.text "b") := by simpa using hchildren
  exact hinner

theorem thing_kept :
    ∃ y, nestedElement.unmarshal (thingRegistry "Kind") .standard .empty = .ok y ∧
      y.same nestedThing = true := by
  have hregistered : (Registry.withFallback.registerType (thingType "Kind")).2 = .ok () := rfl
  obtain ⟨hfilled, hwild, hbuilt⟩ := thing_built hregistered
  have hpresentable : ∀ o ∈ nestedThing.graph, o.Presentable := by
    intro o ho
    have hgraph : nestedThing.graph = [nestedThing, (thing "Kind").addChild (.text "b")] := rfl
    rw [hgraph, List.mem_cons, List.mem_singleton] at ho
    rcases ho with rfl | rfl <;> exact thing_presentable (by decide) _
  have hwritten : nestedThing.marshal ⟨.standard, true⟩ .empty = .ok nestedElement := rfl
  refine (TypedObject.roundTrip_iff hfilled hwild (nestedThing_built hbuilt) hpresentable
    Scope.prefixesIn_empty hwritten rfl ?_).2 ?_
  · exact nestedElement_everywhere.2
      ⟨⟨by decide, by decide, by decide⟩, ⟨by decide, by decide, by decide⟩⟩
  · have houter : nestedElement.attribute? xsiTypeName = some "t:Kind" := by decide
    have hinner : innerElement.attribute? xsiTypeName = some "t:Kind" := by decide
    refine nestedElement_everywhere.2 ⟨fun text h => ?_, fun text h => ?_⟩
    · cases houter.symm.trans h
      decide
    · cases hinner.symm.trans h
      decide

end XmlBinding
