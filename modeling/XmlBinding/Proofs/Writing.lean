import XmlBinding.Proofs.Frame

/-!
What writing makes of an object. A start tag is written in three parts: the declarations and the
name, the text for the type, and one list of attributes. From these parts follows all that is known
of a written element; level by level it is carried down the object graph, for the scopes that the
writer has and for those that a reader of the tree gets from its declarations.
-/

namespace XmlBinding

variable {allowed : String → Prop} {declare : Bool} {f f' : Frame} {head : ObjectHead}
  {R : Scope → Scope → Prop} {start scope : Scope}

/-! ### The attributes in the order of writing -/

/-- An attribute that may be absent. -/
def Frame.optional (name : QName) (value : Option String) (declare : Bool) : List Frame.Entry :=
  (value.map fun value => (name, value, declare)).toList

namespace ObjectHead

/-- The attributes that every element may have, given the text for the type. -/
def instanceEntries (head : ObjectHead) (typeText : Option String) (declare : Bool) :
    List Frame.Entry :=
  Frame.optional xsiTypeName typeText declare ++
    (Frame.optional xsiSchemaLocationName head.schemaLocation declare ++
      (Frame.optional xsiNoNamespaceLocationName head.noNamespaceLocation declare ++
        Frame.optional xsiNilName (head.nil.map Truth.write) declare))

/-- The modeled attributes as the descriptor lists them, under the names they were set with. -/
def modeledEntries (head : ObjectHead) : List Frame.Entry :=
  head.descriptor.attributes.filterMap fun spec =>
    (head.attributes.entry? spec.name.expanded).map fun (name, value) => (name, value, true)

def unknownEntries (head : ObjectHead) : List Frame.Entry :=
  head.unknown.entries.map fun (name, value) => (name, value, true)

def entries (head : ObjectHead) (typeText : Option String) (declare : Bool) : List Frame.Entry :=
  head.instanceEntries typeText declare ++ head.modeledEntries ++ head.unknownEntries

/-- Every required attribute is there. -/
def Complete (head : ObjectHead) : Prop :=
  ∀ spec ∈ head.descriptor.attributes, spec.required = true →
    ∃ value, head.attributes.get? spec.name.expanded = some value

end ObjectHead

namespace Frame

theorem writeOptional_eq (f : Frame) (name : QName) (value : Option String) (declare : Bool) :
    f.writeOptional name value declare = (optional name value declare).foldlM write f := by
  cases value with
  | none => rfl
  | some value =>
      show f.writeAttribute name value declare = (f.write (name, value, declare) >>= pure)
      rw [bind_pure]
      rfl

/-- The text for a type, if there is one. -/
def typeText? (f : Frame) : Option QName → Except MarshalFault (Option String × Frame)
  | none => .ok (none, f)
  | some type => (f.typeText type).map fun (text, f) => (some text, f)

theorem writeType_eq (f : Frame) (type : Option QName) (declare : Bool) :
    f.writeType type declare =
      f.typeText? type >>= fun (text, f) => (optional xsiTypeName text declare).foldlM write f := by
  cases type with
  | none => rfl
  | some type =>
      rw [writeType, typeText?]
      cases f.typeText type with
      | error fault => rfl
      | ok result => exact writeOptional_eq result.2 xsiTypeName (some result.1) declare

theorem writeInstance_eq (f : Frame) (head : ObjectHead) (declare : Bool) :
    f.writeInstance head declare =
      f.typeText? head.schemaType >>= fun (text, f) =>
        (head.instanceEntries text declare).foldlM write f := by
  rw [writeInstance, writeType_eq]
  simp only [writeOptional_eq, bind_assoc, ObjectHead.instanceEntries, List.foldlM_append]

theorem foldlM_writeModeled_eq_ok :
    head.descriptor.attributes.foldlM (writeModeled head) f = .ok f' ↔
      head.Complete ∧ head.modeledEntries.foldlM write f = .ok f' := by
  rw [ObjectHead.Complete, ObjectHead.modeledEntries]
  generalize head.descriptor.attributes = specs
  induction specs generalizing f with
  | nil => simp
  | cons spec specs ih =>
      rw [List.foldlM_cons, bind_eq_ok, List.forall_mem_cons, writeModeled, OrderedTable.get?]
      cases hentry : head.attributes.entry? spec.name.expanded with
      | none =>
          rw [List.filterMap_cons_none (by rw [hentry]; rfl)]
          cases hrequired : spec.required with
          | true => simp
          | false => simp [ih]
      | some entry =>
          rw [List.filterMap_cons_some (by rw [hentry]; rfl), List.foldlM_cons, bind_eq_ok]
          simp only [ih, Option.map_some]
          constructor
          · rintro ⟨f₁, hwrite, hcomplete, hrest⟩
            exact ⟨⟨fun _ => ⟨_, rfl⟩, hcomplete⟩, f₁, hwrite, hrest⟩
          · rintro ⟨⟨-, hcomplete⟩, f₁, hwrite, hrest⟩
            exact ⟨f₁, hwrite, hcomplete, hrest⟩

theorem foldlM_writeUnknown_eq (f : Frame) (head : ObjectHead) :
    head.unknown.entries.foldlM writeUnknown f = head.unknownEntries.foldlM write f := by
  rw [ObjectHead.unknownEntries, List.foldlM_map]
  rfl

end Frame

/-! ### The parts of a start tag -/

/-- The tag with its declarations and its name bound. -/
def ObjectHead.openTag (head : ObjectHead) (scope : Scope) : Except MarshalFault Frame := do
  let f ← (Frame.start head.elementName scope).bindAll head.declarations
  f.bindElementName

/-- A tag is written by opening it, spelling the type and writing the attributes in their order;
then the names among the values are checked. -/
theorem ObjectHead.writeTag_eq_ok {text : Option String} {config : MarshalConfig} :
    head.writeTag text config scope = .ok f ↔
      isNCName head.elementName.localName = true ∧ head.Complete ∧
        head.checkNames text f.scope = .ok () ∧
        ∃ f₀ typeText f₁, head.openTag scope = .ok f₀ ∧
          f₀.typeText? head.schemaType = .ok (typeText, f₁) ∧
          (head.entries typeText config.declareInstance).foldlM Frame.write f₁ = .ok f := by
  rw [ObjectHead.writeTag]
  cases hlocal : isNCName head.elementName.localName with
  | false => exact ⟨fun h => (nomatch h), fun h => nomatch h.1⟩
  | true =>
      simp only [Bool.not_true, Bool.false_eq_true, if_false, true_and, bind_eq_ok, pure_eq_ok,
        Frame.writeInstance_eq, Frame.foldlM_writeModeled_eq_ok, Frame.foldlM_writeUnknown_eq,
        openTag, entries, List.foldlM_append, List.append_assoc]
      constructor
      · rintro ⟨f₀, hall, f₁, hname, f₂, ⟨⟨typeText, f₃⟩, htype, hinstance⟩, f₄,
          ⟨hcomplete, hmodeled⟩, f₅, hunknown, ⟨⟩, hcheck, rfl⟩
        exact ⟨hcomplete, hcheck, f₁, typeText, f₃, ⟨f₀, hall, hname⟩, htype, f₂, hinstance, f₄,
          hmodeled, hunknown⟩
      · rintro ⟨hcomplete, hcheck, f₁, typeText, f₃, ⟨f₀, hall, hname⟩, htype, f₂, hinstance, f₄,
          hmodeled, hunknown⟩
        exact ⟨f₀, hall, f₁, hname, f₂, ⟨⟨typeText, f₃⟩, htype, hinstance⟩, f₄,
          ⟨hcomplete, hmodeled⟩, f, hunknown, (), hcheck, rfl⟩

/-! ### Opening a tag -/

/-- The names and declarations of an object as their constructors make them, with prefixes in a
class; the prefix `xml` stands for its own namespace only. -/
structure ObjectHead.Legal (allowed : String → Prop) (head : ObjectHead) : Prop where
  elementName : head.elementName.Legal allowed
  xmlName : head.elementName.nsPrefix = some "xml" → head.elementName.uri = some xmlUri
  schemaType : ∀ type, head.schemaType = some type → type.Legal allowed
  attributes : ∀ e ∈ head.attributes.entries, e.1.Legal allowed
  unknown : ∀ e ∈ head.unknown.entries, e.1.Legal allowed
  declarations : ∀ d ∈ head.declarations, d.PrefixIn allowed

namespace Frame

/-- A tag of a name, with declarations and no attributes yet. -/
structure Opened (allowed : String → Prop) (R : Scope → Scope → Prop) (start : Scope) (name : QName)
    (f : Frame) : Prop extends Sound allowed R start f where
  name_eq : f.tag.name = name
  blank : f.tag.attributes.entries = []

theorem opened_start {name : QName} (h : R scope start) (hs : scope.PrefixesIn allowed) :
    Opened allowed R start name (Frame.start name scope) where
  tracked := h
  prefixes := hs
  distinct := List.nodup_nil
  bound := nofun
  name_eq := rfl
  blank := rfl

theorem Opened.bind (hR : Scope.Tracking declare R) (ha : PrefixClass allowed) {name : QName}
    (hf : Opened allowed R start name f) {p : Option String} {uri : String}
    (hp : (⟨p, uri⟩ : Declaration).PrefixIn allowed) (h : f.bind p uri true = .ok f') :
    Opened allowed R start name f' ∧ f'.scope.lookup p = present (some uri) := by
  rcases binds_iff.1 h with ⟨hbound, rfl⟩ | ⟨-, hne, hfresh, rfl⟩
  · exact ⟨hf, hbound⟩
  · have hpresent : present p = p := by
      rw [present_eq_self_iff]
      rintro rfl
      exact ha.ne_empty "" (hp "" rfl).1 rfl
    rw [Declaration.of, hpresent]
    -- The tag has no attributes yet that a new declaration could hide anything from.
    refine ⟨⟨hf.toSound.extend hR (hf.prefixes.declare hp) hfresh ?_, hf.name_eq, hf.blank⟩, ?_⟩
    · rw [hf.blank]
      exact List.forall_mem_nil _
    · rw [scope_extend, Scope.lookup_declare, if_pos rfl, Declaration.meaning_eq hp hne]

theorem Opened.bindAll (hR : Scope.Tracking declare R) (ha : PrefixClass allowed) {name : QName}
    (hf : Opened allowed R start name f) {ds : List Declaration}
    (hds : ∀ d ∈ ds, d.PrefixIn allowed) (h : f.bindAll ds = .ok f') :
    Opened allowed R start name f' :=
  foldlM_invariant (fun d hd _ _ hf hbind => (hf.bind hR ha (hds d hd) hbind).1) hf h

/-- The name of an element is bound like a declaration; without a namespace it may have no prefix.
-/
theorem bindElementName_eq_ok :
    f.bindElementName = .ok f' ↔ (f.tag.name.uri = none → f.tag.name.nsPrefix = none) ∧
      f.bind f.tag.name.nsPrefix (f.tag.name.uri.getD "") true = .ok f' := by
  rw [Frame.bindElementName]
  cases huri : f.tag.name.uri with
  | some uri => simp
  | none => cases hp : f.tag.name.nsPrefix <;> simp [Frame.fail]

theorem Opened.bindElementName (hR : Scope.Tracking declare R) (ha : PrefixClass allowed)
    (hf : Opened allowed R start head.elementName f) (hhead : head.Legal allowed)
    (h : f.bindElementName = .ok f') :
    Opened allowed R start head.elementName f' ∧ head.elementName.NamedIn f'.scope := by
  rw [bindElementName_eq_ok, hf.name_eq] at h
  obtain ⟨hunprefixed, hbind⟩ := h
  have hd : (⟨head.elementName.nsPrefix, head.elementName.uri.getD ""⟩ : Declaration).PrefixIn
      allowed := by
    intro q hq
    refine ⟨hhead.elementName.prefixIn q hq, ?_⟩
    rintro rfl
    rw [hhead.xmlName hq]
    rfl
  obtain ⟨hf', hlookup⟩ := hf.bind hR ha hd hbind
  refine ⟨hf', ?_, hunprefixed⟩
  rw [hlookup, hhead.elementName.normal.present_uri]

end Frame

theorem ObjectHead.openTag_sound (hR : Scope.Tracking declare R) (ha : PrefixClass allowed)
    (hhead : head.Legal allowed) (hs : scope.PrefixesIn allowed) (h : R scope start)
    (hf : head.openTag scope = .ok f) :
    Frame.Opened allowed R start head.elementName f ∧ head.elementName.NamedIn f.scope := by
  obtain ⟨f₀, hall, hname⟩ := bind_eq_ok.1 hf
  have h₀ := (Frame.opened_start h hs).bindAll hR ha hhead.declarations hall
  exact h₀.bindElementName hR ha hhead hname

/-! ### What is known of a written tag -/

namespace ObjectHead

/-- The text that a type is written as denotes the type; there is none without one. -/
def TypeText (allowed : String → Prop) (head : ObjectHead) (scope : Scope) (text : Option String) :
    Prop :=
  match head.schemaType with
  | none => text = none
  | some type => ∃ value, text = some value ∧
      ((∀ p, allowed p → isNCName p = true) → isNCName type.localName = true →
        scope.denotes value = some type.expanded)

/-- Every attribute and text that is a name has a meaning. -/
structure NamesMeant (head : ObjectHead) (scope : Scope) (text : Option String) : Prop where
  attributes : ∀ spec ∈ head.descriptor.attributes, spec.kind = .qName →
    ∀ value, head.attribute? spec.name = some value → ValueKind.qName.Accepts scope value
  content : head.descriptor.content = .simple .qName →
    ∀ value, text = some value → ValueKind.qName.Accepts scope value

/-- A written tag, as seen in the scope in force on it. -/
structure Written (allowed : String → Prop) (declare : Bool) (head : ObjectHead)
    (text : Option String) (scope : Scope) (tag : Tag) : Prop where
  localName : isNCName head.elementName.localName = true
  name_eq : tag.name = head.elementName
  named : tag.name.NamedIn scope
  bound : ∀ e ∈ tag.attributes.entries, e.1.BoundIn scope
  distinct : (tag.declarations.map Declaration.nsPrefix).Nodup
  complete : head.Complete
  meant : head.NamesMeant scope text
  values : ∃ typeText, head.TypeText allowed scope typeText ∧
    ∀ k, tag.attributes.get? k = Frame.valueIn k (head.entries typeText declare)

theorem checkName_eq_ok {attr : Option QName} {text : String} :
    head.checkName scope attr text = .ok () ↔ ValueKind.qName.Accepts scope text := by
  rw [checkName, mapError_eq_ok, ValueKind.check_eq_ok]

theorem checkNameAttribute_eq_ok {spec : AttributeSpec} :
    head.checkNameAttribute scope spec = .ok () ↔
      (spec.kind = .qName → ∀ value, head.attribute? spec.name = some value →
        ValueKind.qName.Accepts scope value) := by
  rw [checkNameAttribute]
  split
  · next value hkind hvalue =>
      rw [checkName_eq_ok]
      refine ⟨fun h _ value' hvalue' => ?_, fun h => ?_⟩
      · cases hvalue.symm.trans hvalue'
        exact h
      · exact h hkind value hvalue
  · next hother =>
      refine ⟨fun _ hkind value hvalue => ?_, fun _ => rfl⟩
      exact absurd hvalue (hother value hkind)

theorem checkNames_eq_ok {text : Option String} :
    head.checkNames text scope = .ok () ↔ head.NamesMeant scope text := by
  unfold checkNames
  rw [check_bind_eq_ok, forM_eq_ok]
  simp only [checkNameAttribute_eq_ok]
  split
  · next value hcontent =>
      rw [checkName_eq_ok]
      refine ⟨?_, fun h => ?_⟩
      · rintro ⟨hattributes, h⟩
        refine ⟨hattributes, fun _ value' hvalue => ?_⟩
        cases hvalue
        exact h
      · exact ⟨h.attributes, h.content hcontent value rfl⟩
  · next hother =>
      refine ⟨?_, fun h => ?_⟩
      · rintro ⟨hattributes, -⟩
        exact ⟨hattributes, fun hcontent value hvalue => absurd hvalue (hother value hcontent)⟩
      · exact ⟨h.attributes, rfl⟩

theorem TypeText.mono {s t : Scope} (h : t.Extends s) {text : Option String}
    (htext : head.TypeText allowed s text) : head.TypeText allowed t text := by
  cases htype : head.schemaType with
  | none =>
      rw [TypeText, htype] at htext ⊢
      exact htext
  | some type =>
      rw [TypeText, htype] at htext ⊢
      obtain ⟨value, hvalue, hdenotes⟩ := htext
      exact ⟨value, hvalue, fun hnames hlocal => h.denotes (hdenotes hnames hlocal)⟩

theorem NamesMeant.mono {s t : Scope} (h : t.Extends s) {text : Option String}
    (hnames : head.NamesMeant s text) : head.NamesMeant t text where
  attributes spec hspec hkind value hvalue :=
    (hnames.attributes spec hspec hkind value hvalue).mono h
  content hcontent value hvalue := (hnames.content hcontent value hvalue).mono h

/-- What is known of a tag in a scope is known of it in every scope that extends it. -/
theorem Written.mono {text : Option String} {s t : Scope} {tag : Tag} (h : t.Extends s)
    (hw : head.Written allowed declare text s tag) : head.Written allowed declare text t tag where
  localName := hw.localName
  name_eq := hw.name_eq
  named := hw.named.mono h
  bound e he := (hw.bound e he).mono h
  distinct := hw.distinct
  complete := hw.complete
  meant := hw.meant.mono h
  values := by
    obtain ⟨typeText, htext, hvalues⟩ := hw.values
    exact ⟨typeText, htext.mono h, hvalues⟩

theorem TypeText.of_typeText? (declare : Bool) (ha : PrefixClass allowed)
    (hhead : head.Legal allowed) (hf : f.scope.PrefixesIn allowed) {text : Option String}
    (h : f.typeText? head.schemaType = .ok (text, f')) :
    Frame.Run allowed declare f f' ∧ f'.tag.attributes = f.tag.attributes ∧
      head.TypeText allowed f'.scope text := by
  rw [TypeText]
  cases htype : head.schemaType with
  | none =>
      rw [htype] at h
      cases h
      exact ⟨.refl f, rfl, rfl⟩
  | some type =>
      rw [htype] at h
      obtain ⟨⟨value, f₁⟩, hspell, heq⟩ := map_eq_ok.1 h
      cases heq
      have hspells := Frame.typeText_sound declare ha hf (hhead.schemaType type htype) hspell
      exact ⟨hspells.run, hspells.attributes, value, rfl, hspells.denotes⟩

/-- The attributes that every element may have are the ones with such names. -/
theorem mem_instanceEntries {typeText : Option String} {w : Frame.Entry}
    (hw : w ∈ head.instanceEntries typeText declare) : w.1 ∈ instanceNames ∧ w.2.2 = declare := by
  have hoptional {name : QName} {value : Option String} (hname : name ∈ instanceNames)
      (h : w ∈ Frame.optional name value declare) : w.1 ∈ instanceNames ∧ w.2.2 = declare := by
    rw [Frame.optional, Option.mem_toList, Option.map_eq_some_iff] at h
    obtain ⟨v, -, rfl⟩ := h
    exact ⟨hname, rfl⟩
  simp only [instanceEntries, List.mem_append] at hw
  rcases hw with hw | hw | hw | hw
  · exact hoptional (by decide) hw
  · exact hoptional (by decide) hw
  · exact hoptional (by decide) hw
  · exact hoptional (by decide) hw

theorem mem_modeledEntries {w : Frame.Entry} (hw : w ∈ head.modeledEntries) :
    (w.1, w.2.1) ∈ head.attributes.entries ∧ w.2.2 = true := by
  obtain ⟨spec, -, hentry⟩ := List.mem_filterMap.1 hw
  obtain ⟨e, he, rfl⟩ := Option.map_eq_some_iff.1 hentry
  exact ⟨(OrderedTable.entry?_eq_some_iff.1 he).1, rfl⟩

theorem mem_unknownEntries {w : Frame.Entry} (hw : w ∈ head.unknownEntries) :
    (w.1, w.2.1) ∈ head.unknown.entries ∧ w.2.2 = true := by
  obtain ⟨e, he, rfl⟩ := List.mem_map.1 hw
  exact ⟨he, rfl⟩

/-- Every name that is written is legal, and only those of the attributes that every element may
have are written without a declaration of their prefix. -/
theorem Legal.entries (ha : PrefixClass allowed) (hhead : head.Legal allowed)
    (typeText : Option String) : ∀ w ∈ head.entries typeText declare,
      w.1.Legal allowed ∧ Frame.Assumable declare w.2.2 w.1 := by
  intro w hw
  simp only [ObjectHead.entries, List.mem_append] at hw
  rcases hw with (hw | hw) | hw
  · obtain ⟨hname, hdeclare⟩ := mem_instanceEntries hw
    have hnames : ∀ name ∈ instanceNames, name.Normal ∧ name.nsPrefix = some instancePrefix ∧
        name.uri = some instanceUri := by
      decide
    obtain ⟨hnormal, hnsPrefix, huri⟩ := hnames w.1 hname
    refine ⟨⟨hnormal, fun p hp => ?_⟩,
      fun hassume => ⟨hdeclare.symm.trans hassume, hnsPrefix, huri⟩⟩
    cases hnsPrefix.symm.trans hp
    exact ha.instancePrefix
  · obtain ⟨hmem, hdeclare⟩ := mem_modeledEntries hw
    exact ⟨hhead.attributes _ hmem, fun hassume => nomatch hdeclare.symm.trans hassume⟩
  · obtain ⟨hmem, hdeclare⟩ := mem_unknownEntries hw
    exact ⟨hhead.unknown _ hmem, fun hassume => nomatch hdeclare.symm.trans hassume⟩

theorem writeTag_sound {config : MarshalConfig} {text : Option String}
    (hR : Scope.Tracking config.declareInstance R) (ha : PrefixClass allowed)
    (hhead : head.Legal allowed) (hs : scope.PrefixesIn allowed) (h : R scope start)
    (hf : head.writeTag text config scope = .ok f) :
    Frame.Sound allowed R start f ∧
      head.Written allowed config.declareInstance text f.scope f.tag := by
  obtain ⟨hlocal, hcomplete, hcheck, f₀, typeText, f₁, hopen, htype, hwrite⟩ := writeTag_eq_ok.1 hf
  obtain ⟨h₀, hnamed⟩ := openTag_sound hR ha hhead hs h hopen
  obtain ⟨hrun₁, hattributes, htext⟩ :=
    TypeText.of_typeText? config.declareInstance ha hhead h₀.prefixes htype
  have h₂ :=
    Frame.writeAll_sound ha (hrun₁.prefixes ha h₀.prefixes) (hhead.entries ha typeText) hwrite
  -- From the open tag on there are only steps, which keep what the opening has established.
  have hrun : Frame.Run allowed config.declareInstance f₀ f := hrun₁.trans h₂.run
  have hsound := hrun.sound hR ha h₀.toSound
  have hname : f.tag.name = head.elementName := hrun.name_eq.trans h₀.name_eq
  refine ⟨hsound, hlocal, hname, ?_, hsound.bound, hsound.distinct, hcomplete,
    checkNames_eq_ok.1 hcheck, typeText, htext.mono h₂.run.extends, fun k => ?_⟩
  · rw [hname]
    exact hnamed.mono hrun.extends
  · rw [h₂.value, hattributes, OrderedTable.get?, OrderedTable.entry?, h₀.blank]
    exact Option.or_none

end ObjectHead

/-! ### The values that are written -/

namespace Frame

theorem valueIn_eq_none {k : ExpandedName} {ws : List Entry} (h : ∀ w ∈ ws, w.1.expanded ≠ k) :
    valueIn k ws = none := by
  induction ws with
  | nil => rfl
  | cons w ws ih =>
      rw [List.forall_mem_cons] at h
      rw [valueIn, ih h.2, if_neg h.1]
      rfl

theorem valueIn_optional (k : ExpandedName) (name : QName) (value : Option String)
    (declare : Bool) :
    valueIn k (optional name value declare) = if name.expanded = k then value else none := by
  cases value with
  | none => exact (ite_self none).symm
  | some value => rfl

/-- The entries of a table give each name the value that the table has for it. -/
theorem valueIn_map_entries (k : ExpandedName) (t : NameTable String) :
    valueIn k (t.entries.map fun (name, value) => (name, value, true)) = t.get? k := by
  obtain ⟨es, hnodup⟩ := t
  show _ = (es.find? fun e => e.1.expanded == k).map (·.2)
  induction es with
  | nil => rfl
  | cons e es ih =>
      rw [List.map_cons, List.nodup_cons] at hnodup
      rw [List.map_cons, valueIn]
      by_cases hkey : e.1.expanded = k
      · have habsent : ∀ w ∈ es.map fun (name, value) => (name, value, true),
            w.1.expanded ≠ k := by
          intro w hw hwk
          obtain ⟨e', he', rfl⟩ := List.mem_map.1 hw
          exact hnodup.1 (hkey.trans hwk.symm ▸ List.mem_map_of_mem he')
        rw [valueIn_eq_none habsent, List.find?_cons_of_pos (by simpa using hkey), if_pos hkey]
        rfl
      · rw [ih hnodup.2, List.find?_cons_of_neg (by simpa using hkey), if_neg hkey, Option.or_none]

end Frame

theorem TypeDescriptor.models_iff {d : TypeDescriptor} {name : QName} :
    d.models name = true ↔ name.expanded ∈ d.attributes.map fun spec => spec.name.expanded := by
  rw [models, spec?, List.find?_isSome, List.mem_map]
  simp only [QName.same_iff]

namespace ObjectHead

theorem valueIn_modeledEntries (k : ExpandedName) (head : ObjectHead) :
    Frame.valueIn k head.modeledEntries =
      if k ∈ head.descriptor.attributes.map fun spec => spec.name.expanded then
        head.attributes.get? k
      else none := by
  rw [modeledEntries]
  generalize head.descriptor.attributes = specs
  induction specs with
  | nil => rfl
  | cons spec specs ih =>
      simp only [List.map_cons, List.mem_cons]
      cases hentry : head.attributes.entry? spec.name.expanded with
      | none =>
          have hnone : head.attributes.get? spec.name.expanded = none := by
            rw [OrderedTable.get?, hentry]
            rfl
          rw [List.filterMap_cons_none (by rw [hentry]; rfl), ih]
          by_cases hk : k = spec.name.expanded
          · rw [hk, hnone, ite_self, ite_self]
          · simp only [hk, false_or]
      | some e =>
          have hkey := (OrderedTable.entry?_eq_some_iff.1 hentry).2
          rw [List.filterMap_cons_some (by rw [hentry]; rfl), Frame.valueIn, ih]
          by_cases hk : k = spec.name.expanded
          · have hsome : head.attributes.get? k = some e.2 := by
              rw [hk, OrderedTable.get?, hentry]
              rfl
            rw [if_pos (hkey.trans hk.symm), hsome]
            simp only [hk, true_or, if_true]
            split <;> rfl
          · have hother : ¬e.1.expanded = k := fun h => hk (h.symm.trans hkey)
            rw [if_neg hother, Option.or_none]
            simp only [hk, false_or]

/-- Attributes are where the descriptor wants them: what is set through the object is kept so. -/
structure Routed (head : ObjectHead) : Prop where
  attributes : ∀ e ∈ head.attributes.entries, head.descriptor.models e.1 = true
  unknown : ∀ e ∈ head.unknown.entries, head.descriptor.models e.1 = false

/-- Setting an attribute changes the tables of attributes only. -/
theorem setAttribute_eq (head : ObjectHead) (name : QName) (value : String) :
    ∃ attributes unknown, head.setAttribute name value = { head with attributes, unknown } := by
  rw [ObjectHead.setAttribute]
  split
  · exact ⟨_, head.unknown, rfl⟩
  · exact ⟨head.attributes, _, rfl⟩

theorem removeAttribute_eq (head : ObjectHead) (name : QName) :
    ∃ attributes unknown, (head.removeAttribute name).2 = { head with attributes, unknown } := by
  rw [ObjectHead.removeAttribute]
  split
  · exact ⟨_, head.unknown, rfl⟩
  · exact ⟨head.attributes, _, rfl⟩

theorem Routed.setAttribute (h : head.Routed) (name : QName) (value : String) :
    (head.setAttribute name value).Routed := by
  rw [ObjectHead.setAttribute]
  split
  · next hmodels =>
      refine ⟨fun e he => ?_, h.unknown⟩
      rcases OrderedTable.mem_entries_set.1 he with rfl | ⟨hmem, -⟩
      · exact hmodels
      · exact h.attributes e hmem
  · next hmodels =>
      refine ⟨h.attributes, fun e he => ?_⟩
      rcases OrderedTable.mem_entries_set.1 he with rfl | ⟨hmem, -⟩
      · exact Bool.eq_false_iff.2 hmodels
      · exact h.unknown e hmem

theorem Routed.removeAttribute (h : head.Routed) (name : QName) :
    (head.removeAttribute name).2.Routed := by
  rw [ObjectHead.removeAttribute]
  split
  · exact ⟨fun e he => h.attributes e (List.mem_of_mem_filter he), h.unknown⟩
  · exact ⟨h.attributes, fun e he => h.unknown e (List.mem_of_mem_filter he)⟩

/-- A name is in one of the tables only, as the descriptor wants it. -/
theorem Routed.unknown_get?_eq_none (h : head.Routed) {name : QName}
    (hmodels : head.descriptor.models name = true) : head.unknown.get? name.expanded = none := by
  rw [OrderedTable.get?_eq_none_iff]
  intro e he hsame
  have hother := h.unknown e he
  rw [TypeDescriptor.models_congr hsame, hmodels] at hother
  cases hother

theorem Routed.attributes_get?_eq_none (h : head.Routed) {name : QName}
    (hmodels : head.descriptor.models name = false) :
    head.attributes.get? name.expanded = none := by
  rw [OrderedTable.get?_eq_none_iff]
  intro e he hsame
  have hother := h.attributes e he
  rw [TypeDescriptor.models_congr hsame, hmodels] at hother
  cases hother

theorem Routed.or_comm (h : head.Routed) (k : ExpandedName) :
    (head.unknown.get? k).or (head.attributes.get? k) =
      (head.attributes.get? k).or (head.unknown.get? k) := by
  cases hmodels : head.descriptor.models ⟨k, none⟩ with
  | true =>
      have hunknown : head.unknown.get? k = none := h.unknown_get?_eq_none hmodels
      rw [hunknown, Option.none_or, Option.or_none]
  | false =>
      have hattributes : head.attributes.get? k = none := h.attributes_get?_eq_none hmodels
      rw [hattributes, Option.none_or, Option.or_none]

/-- All attributes of an object are written, before those that every element may have. -/
theorem Routed.valueIn_entries (h : head.Routed) (k : ExpandedName) (typeText : Option String) :
    Frame.valueIn k (head.entries typeText declare) =
      ((head.attributes.get? k).or (head.unknown.get? k)).or
        (Frame.valueIn k (head.instanceEntries typeText declare)) := by
  have hmodeled : Frame.valueIn k head.modeledEntries = head.attributes.get? k := by
    rw [valueIn_modeledEntries]
    split
    · rfl
    · next hk =>
        have hother : head.descriptor.models ⟨k, none⟩ = false :=
          Bool.eq_false_iff.2 fun hmodels => hk (TypeDescriptor.models_iff.1 hmodels)
        exact (h.attributes_get?_eq_none hother).symm
  rw [entries, Frame.valueIn_append, Frame.valueIn_append, hmodeled, unknownEntries,
    Frame.valueIn_map_entries, ← Option.or_assoc, h.or_comm]

/-- None of the attributes of an object is one that every element may have. -/
def Plain (head : ObjectHead) : Prop :=
  ∀ name, name.isInstance = true → head.attribute? name = none

/-- What is read from a tag is where the descriptor wants it, and is on the tag. -/
theorem ReadFrom.routed {tag : Tag} {r : Registry} {config : UnmarshalConfig}
    (h : head.ReadFrom r config scope tag) : head.Routed where
  attributes e he := by
    rw [h.attributes, OrderedTable.entries_filter, List.mem_filter, Bool.and_eq_true] at he
    exact he.2.2
  unknown e he := by
    rw [h.unknown, OrderedTable.entries_filter, List.mem_filter, Bool.and_eq_true,
      Bool.not_eq_true'] at he
    simpa using he.2.2

theorem ReadFrom.attribute?_eq {tag : Tag} {r : Registry} {config : UnmarshalConfig}
    (h : head.ReadFrom r config scope tag) (name : QName) :
    head.attribute? name = if name.isInstance then none else tag.attribute? name := by
  rw [ObjectHead.attribute?, h.attributes_get?, h.unknown_get?]
  cases name.isInstance with
  | true => rfl
  | false =>
      cases head.descriptor.models name with
      | true => exact Option.or_none
      | false => exact Option.none_or

theorem ReadFrom.plain {tag : Tag} {r : Registry} {config : UnmarshalConfig}
    (h : head.ReadFrom r config scope tag) : head.Plain := by
  intro name hname
  rw [h.attribute?_eq, if_pos hname]

/-- What a reader finds on a tag, attribute by attribute. -/
structure Shown (allowed : String → Prop) (head : ObjectHead) (scope : Scope) (tag : Tag) :
    Prop where
  own : ∀ name, name.isInstance = false → tag.attribute? name = head.attribute? name
  type : head.TypeText allowed scope (tag.attribute? xsiTypeName)
  nil : tag.attribute? xsiNilName = head.nil.map Truth.write
  schemaLocation : tag.attribute? xsiSchemaLocationName = head.schemaLocation
  noNamespaceLocation : tag.attribute? xsiNoNamespaceLocationName = head.noNamespaceLocation

theorem valueIn_instanceEntries {name : QName} (h : name.isInstance = false)
    (typeText : Option String) :
    Frame.valueIn name.expanded (head.instanceEntries typeText declare) = none := by
  apply Frame.valueIn_eq_none
  intro w hw hname
  have hinstance : name.isInstance = true :=
    List.any_eq_true.2 ⟨w.1, (mem_instanceEntries hw).1, QName.same_iff.2 hname.symm⟩
  exact nomatch h.symm.trans hinstance

theorem Written.shown {text : Option String} {tag : Tag}
    (hw : head.Written allowed declare text scope tag) (hrouted : head.Routed)
    (hplain : head.Plain) : head.Shown allowed scope tag := by
  obtain ⟨typeText, htype, hvalues⟩ := hw.values
  have hvalue (name : QName) : tag.attribute? name = (head.attribute? name).or
      (Frame.valueIn name.expanded (head.instanceEntries typeText declare)) := by
    rw [Tag.attribute?, hvalues, hrouted.valueIn_entries]
    rfl
  have hinstance (name : QName) (h : name.isInstance = true) : tag.attribute? name =
      Frame.valueIn name.expanded (head.instanceEntries typeText declare) := by
    rw [hvalue, hplain name h, Option.none_or]
  constructor
  · intro name h
    rw [hvalue, valueIn_instanceEntries h, Option.or_none]
  · rw [hinstance xsiTypeName (by decide)]
    simpa +decide [instanceEntries, Frame.valueIn_append, Frame.valueIn_optional] using htype
  · rw [hinstance xsiNilName (by decide)]
    simp +decide [instanceEntries, Frame.valueIn_append, Frame.valueIn_optional]
  · rw [hinstance xsiSchemaLocationName (by decide)]
    simp +decide [instanceEntries, Frame.valueIn_append, Frame.valueIn_optional]
  · rw [hinstance xsiNoNamespaceLocationName (by decide)]
    simp +decide [instanceEntries, Frame.valueIn_append, Frame.valueIn_optional]

end ObjectHead

/-! ### Writing a graph -/

variable {config : MarshalConfig} {depth : Nat} {children : List Child} {nodes : List Node}

/-- What a run of writing an object consists of. -/
theorem TypedObject.marshalAt_eq_ok {e : Element} :
    TypedObject.marshalAt config scope depth ⟨head, children⟩ = .ok e ↔
      (depth ≤ config.limits.maxDepth ∧
        head.attributes.size + head.unknown.size ≤ config.limits.maxAttributes ∧
        children.length ≤ config.limits.maxChildren) ∧
      ∃ f nodes, head.writeTag (TypedObject.text? ⟨head, children⟩) config scope = .ok f ∧
        Child.marshalAll config f.scope (depth + 1) children = .ok nodes ∧ ⟨f.tag, nodes⟩ = e := by
  rw [TypedObject.marshalAt, TypedObject.frame]
  simp only [bind_eq_ok, pure_eq_ok]
  constructor
  · rintro ⟨f, ⟨⟨⟩, hlimits, htag⟩, nodes, hchildren, rfl⟩
    exact ⟨checkLimits_eq_ok.1 hlimits, f, nodes, mapError_eq_ok.1 htag, hchildren, rfl⟩
  · rintro ⟨hlimits, f, nodes, htag, hchildren, rfl⟩
    exact ⟨f, ⟨(), checkLimits_eq_ok.2 hlimits, mapError_eq_ok.2 htag⟩, nodes, hchildren, rfl⟩

theorem Child.marshal_eq_ok {c : Child} {n : Node} :
    Child.marshal config scope depth c = .ok n ↔
      n.Matches (fun e o => o.marshalAt config scope depth = .ok e) c := by
  cases c with
  | text value =>
      rw [Child.marshal, Except.ok.injEq]
      constructor
      · rintro rfl
        exact .text value
      · rintro ⟨⟩
        rfl
  | object o =>
      rw [Child.marshal, map_eq_ok, Node.matches_object_iff]
      simp only [eq_comm, and_comm]

theorem Child.marshalAll_eq_ok :
    Child.marshalAll config scope depth children = .ok nodes ↔
      List.Forall₂ (Node.Matches fun e o => o.marshalAt config scope depth = .ok e)
        nodes children := by
  induction children generalizing nodes with
  | nil =>
      rw [Child.marshalAll, List.forall₂_nil_right_iff]
      exact ⟨fun h => (Except.ok.inj h).symm, fun h => congrArg _ h.symm⟩
  | cons c cs ih =>
      rw [Child.marshalAll, List.forall₂_cons_right_iff]
      simp only [bind_eq_ok, pure_eq_ok, ih, Child.marshal_eq_ok]
      constructor
      · rintro ⟨n, hn, ns, hns, rfl⟩
        exact ⟨n, ns, hn, hns, rfl⟩
      · rintro ⟨n, ns, hn, hns, rfl⟩
        exact ⟨n, hn, ns, hns, rfl⟩

/-- What every written tag has, in the scope that a reader has there, every element of a written
tree has. The relation between the scopes of the writer and of the reader is kept by each tag; the
children are written in the scope of the writer. -/
theorem TypedObject.alongside_of_marshalAt {Q : Scope → Nat → TypedObject → Element → Prop}
    {x : TypedObject} {e : Element}
    (level : ∀ o ∈ x.graph, ∀ scope start depth f nodes, R scope start →
      o.writeTag o.text? config scope = .ok f →
      List.Forall₂ (Node.Matches fun el c => c.marshalAt config f.scope (depth + 1) = .ok el)
        nodes o.children →
      R f.scope (start.declareAll f.tag.declarations) ∧
        Q (start.declareAll f.tag.declarations) depth o ⟨f.tag, nodes⟩)
    (hstart : R scope start) (h : x.marshalAt config scope depth = .ok e) :
    x.Alongside Q start depth e := by
  induction x generalizing scope start depth e with
  | mk head children ih =>
      rw [TypedObject.forall_mem_graph] at level
      obtain ⟨-, f, nodes, htag, hchildren, rfl⟩ := TypedObject.marshalAt_eq_ok.1 h
      rw [Child.marshalAll_eq_ok] at hchildren
      obtain ⟨hscope, hself⟩ := level.1 scope start depth f nodes hstart htag hchildren
      rw [TypedObject.alongside_mk]
      refine ⟨hself, Node.forall₂_matches_imp hchildren fun e o _ ho hbelow => ?_⟩
      exact ih o ho (level.2 o ho) hscope hbelow

/-- A written element, as seen in the scope in force on it and at its depth. -/
structure TypedObject.WrittenAs (allowed : String → Prop) (config : MarshalConfig) (scope : Scope)
    (depth : Nat) (o : TypedObject) (e : Element) : Prop
    extends o.Written allowed config.declareInstance o.text? scope e.toTag where
  text_eq : e.text? = o.text?

/-- What is known of every written tag is known of every element of a written tree, in the scope
that a reader has there. -/
theorem TypedObject.writtenAs_of_marshalAt (hR : Scope.Tracking config.declareInstance R)
    (ha : PrefixClass allowed) {x : TypedObject} {e : Element} (hx : ∀ o ∈ x.graph, o.Legal allowed)
    (hs : scope.PrefixesIn allowed) (hstart : R scope start)
    (h : x.marshalAt config scope depth = .ok e) :
    x.Alongside (WrittenAs allowed config) start depth e := by
  refine alongside_of_marshalAt (R := fun s t => s.PrefixesIn allowed ∧ R s t) ?_ ⟨hs, hstart⟩ h
  rintro o ho scope start depth f nodes ⟨hs, hstart⟩ htag hchildren
  obtain ⟨hsound, hwritten⟩ := ObjectHead.writeTag_sound hR ha (hx o ho) hs hstart htag
  -- What holds in the scope of the writer holds in that of the reader, which extends it.
  have hextends := hR.extends_of hsound.tracked
  have htext : Element.text? ⟨f.tag, nodes⟩ = TypedObject.text? ⟨o.toObjectHead, o.children⟩ :=
    text?_of_forall₂ hchildren
  exact ⟨⟨hsound.prefixes, hsound.tracked⟩, hwritten.mono hextends, htext⟩

end XmlBinding
