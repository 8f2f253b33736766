import XmlBinding.Proofs.Document

/-!
Objects as documents. An object whose names, namespaces and texts may stand in a document is written
as a tree that a document can carry: whatever is declared on the way, neither `xml` nor its
namespace is declared, and every attribute has a value of the object or one that looks like a name.
So the document is read again, and what is lost on the way is known.
-/

namespace XmlBinding

open Markup

/-! ### What a document can carry -/

/-- The prefixes that a document can declare, and `xml`. -/
def IsDocumentPrefix (p : String) : Prop :=
  isNCName p = true ∧ p ≠ "xmlns"

/-- A namespace that a document can declare without changing it. -/
structure IsDocumentUri (uri : String) : Prop where
  uri_ne : uri ≠ xmlnsUri
  document : IsDocumentText uri
  kept : respaced uri = uri

/-- A binding that a document allows: the prefix `xml` and its namespace belong to each other. -/
structure Declaration.Bindable (d : Declaration) : Prop where
  named : ∀ p, d.nsPrefix = some p → IsDocumentPrefix p
  xml_iff : d.nsPrefix = some "xml" ↔ d.uri = xmlUri
  uri : IsDocumentUri d.uri

/-- A name that passes the checks, with a namespace that a document can declare. -/
structure QName.Portable (name : QName) : Prop where
  proper : name.Proper
  nsPrefix_ne : name.nsPrefix ≠ some "xmlns"
  uri : ∀ uri, name.uri = some uri → IsDocumentUri uri

instance (s : String) : Decidable (IsDocumentText s) :=
  List.decidableBAll (isDocumentChar · = true) s.toList

instance (uri : String) : Decidable (IsDocumentUri uri) :=
  decidable_of_iff (uri ≠ xmlnsUri ∧ IsDocumentText uri ∧ respaced uri = uri)
    ⟨fun ⟨hne, hdocument, hkept⟩ => ⟨hne, hdocument, hkept⟩,
      fun ⟨hne, hdocument, hkept⟩ => ⟨hne, hdocument, hkept⟩⟩

instance (d : Declaration) : Decidable d.Bindable :=
  decidable_of_iff ((∀ p ∈ d.nsPrefix, isNCName p = true ∧ p ≠ "xmlns") ∧
      (d.nsPrefix = some "xml" ↔ d.uri = xmlUri) ∧ IsDocumentUri d.uri)
    ⟨fun ⟨hnamed, hxml, huri⟩ => ⟨hnamed, hxml, huri⟩,
      fun ⟨hnamed, hxml, huri⟩ => ⟨hnamed, hxml, huri⟩⟩

instance (name : QName) : Decidable name.Portable :=
  decidable_of_iff
    (name.Proper ∧ name.nsPrefix ≠ some "xmlns" ∧ ∀ uri ∈ name.uri, IsDocumentUri uri)
    ⟨fun ⟨hproper, hp, huri⟩ => ⟨hproper, hp, huri⟩, fun ⟨hproper, hp, huri⟩ => ⟨hproper, hp, huri⟩⟩

/-- The texts that are written as values of attributes. -/
def ObjectHead.values (head : ObjectHead) : List String :=
  head.attributes.values ++ head.unknown.values ++
    (head.schemaLocation.toList ++ head.noNamespaceLocation.toList)

def ObjectHead.attributeNames (head : ObjectHead) : List QName :=
  head.attributes.items ++ head.unknown.items

/-- An object that a document can carry. -/
structure TypedObject.Portable (o : TypedObject) : Prop where
  elementName : o.elementName.Portable
  schemaType : ∀ type, o.schemaType = some type → type.Portable
  attributeNames : ∀ name ∈ o.attributeNames, name.Portable ∧ name.localName ≠ "xmlns"
  demands : ∀ d ∈ o.demands, d.Bindable
  values : ∀ value ∈ o.values, IsDocumentText value
  texts : ∀ text, .text text ∈ o.children → IsDocumentText text

/-- A text of characters that may stand in names. -/
def LooksNamed (s : String) : Prop :=
  ∀ c ∈ s.toList, isNamePart c = true

theorem LooksNamed.isDocumentText {s : String} (h : LooksNamed s) : IsDocumentText s :=
  fun c hc => isDocumentChar_of_isNamePart (h c hc)

theorem LooksNamed.respaced_eq {s : String} (h : LooksNamed s) : respaced s = s := by
  rw [respaced_eq_self_iff]
  intro c hc
  have hne := ne_of_isNamePart (h c hc)
  simp only [List.mem_cons, List.not_mem_nil, or_false, forall_eq_or_imp, forall_eq] at hne
  simp [isControlBlank, hne]

theorem Truth.looksNamed_write (t : Truth) : LooksNamed t.write := by
  rcases t with ⟨_ | _, _ | _⟩ <;> exact List.all_eq_true.1 (by decide)

theorem prefixClass_isDocumentPrefix : PrefixClass IsDocumentPrefix where
  ne_empty _ h := ne_empty_of_isNCName h.1
  numbered n := by
    refine ⟨Frame.isNCName_numberedPrefix n, fun heq => ?_⟩
    have hlist := congrArg String.toList heq
    rw [Frame.toList_numberedPrefix] at hlist
    exact absurd (List.cons.inj hlist).1 (by decide)
  instancePrefix := ⟨isNCName_instancePrefix, by decide⟩
  xml := ⟨isNCName_xml, by decide⟩

theorem QName.Portable.legal {name : QName} (h : name.Portable) : name.Legal IsDocumentPrefix :=
  ⟨h.proper.normal, fun _ hp =>
    ⟨h.proper.nsPrefix hp, fun heq => h.nsPrefix_ne (heq ▸ hp)⟩⟩

/-- What may be bound may be declared, but for `xml`, which is bound already. -/
theorem Declaration.Bindable.portable {d : Declaration} (h : d.Bindable)
    (hxml : d.nsPrefix ≠ some "xml") : d.Portable where
  named p hp := ⟨(h.named p hp).1, fun heq => hxml (heq ▸ hp)⟩
  uri_ne := ⟨fun huri => hxml (h.xml_iff.2 huri), h.uri.uri_ne⟩
  document := h.uri.document
  kept := h.uri.kept

/-- The prefix for a name may be declared, unless it is `xml` or for its namespace. -/
theorem QName.Portable.declaration {name : QName} (h : name.Portable) {p uri : String}
    (huri : name.uri = some uri) (hxmlUri : uri ≠ xmlUri) (hp : IsDocumentPrefix p)
    (hxml : p ≠ "xml") : (⟨some p, uri⟩ : Declaration).Portable where
  named q hq := by
    cases hq
    exact ⟨hp.1, hxml⟩
  uri_ne := ⟨hxmlUri, (h.uri uri huri).uri_ne⟩
  document := (h.uri uri huri).document
  kept := (h.uri uri huri).kept

/-! ### Tags in the making -/

namespace Frame

variable {values : List String} {declare : Bool} {f f' : Frame}

/-- An attribute that a document can carry, with one of some values or one that looks like a name.
-/
structure Attribute (values : List String) (name : ExpandedName) (value : String) : Prop where
  localName : isNCName name.localName = true ∧ name.localName ≠ "xmlns"
  uri_ne : name.uri ≠ some ""
  value : value ∈ values ∨ LooksNamed value

/-- A frame of which a document can carry what is on the tag so far. -/
structure Portable (values : List String) (f : Frame) : Prop where
  declarations : ∀ d ∈ f.tag.declarations, d.Portable
  attributes : ∀ a ∈ f.tag.attributes.entries, Attribute values a.1.expanded a.2

theorem portable_start (name : QName) (scope : Scope) : Portable values (start name scope) :=
  ⟨nofun, nofun⟩

theorem Portable.bind (hf : f.Portable values) {p : Option String} {uri : String}
    (hd : p ≠ some "xml" → (⟨p, uri⟩ : Declaration).Portable) (hxml : p = some "xml" → uri = xmlUri)
    (h : f.bind p uri declare = .ok f') : f'.Portable values := by
  rcases binds_iff.1 h with ⟨-, rfl⟩ | ⟨hunbound, -, hfresh, rfl⟩
  · exact hf
  · have hp : p ≠ some "xml" := by
      rintro rfl
      rw [hxml rfl] at hunbound
      exact hunbound rfl
    have hpresent : present p = p := by
      rw [present_eq_self_iff]
      rintro rfl
      exact ne_empty_of_isNCName ((hd hp).named "" rfl).1 rfl
    rw [Declaration.of, hpresent]
    cases declare with
    | false => exact ⟨hf.declarations, hf.attributes⟩
    | true =>
        refine ⟨fun d hmem => ?_, hf.attributes⟩
        rw [tag_extend_true, declarations_declare hfresh, List.mem_append, List.mem_singleton]
          at hmem
        rcases hmem with hmem | rfl
        · exact hf.declarations d hmem
        · exact hd hp

theorem Portable.bindAll (hf : f.Portable values) {ds : List Declaration}
    (hds : ∀ d ∈ ds, d.Bindable) (h : f.bindAll ds = .ok f') : f'.Portable values :=
  foldlM_invariant (fun d hd _ _ hf hbind =>
    hf.bind (hds d hd).portable (hds d hd).xml_iff.1 hbind) hf h

/-- The namespace of the prefix `xml` needs no declaration. -/
theorem eq_of_qualify_xml {name name' : QName} (hxml : name.uri = some xmlUri)
    (h : f.qualify name declare = .ok (name', f')) : f' = f := by
  rw [qualify, hxml] at h
  dsimp only at h
  rw [Scope.findPrefix, if_pos rfl] at h
  split at h
  · cases h
    rfl
  · cases h
    rfl

theorem Portable.qualify (hf : f.Portable values) {name name' : QName} (hname : name.Portable)
    (h : f.qualify name declare = .ok (name', f')) : f'.Portable values := by
  by_cases hxml : name.uri = some xmlUri
  · rw [eq_of_qualify_xml hxml h]
    exact hf
  · have hne {uri : String} (huri : name.uri = some uri) : uri ≠ xmlUri :=
      fun heq => hxml (huri.trans (congrArg some heq))
    -- The prefix is free where it is bound, and `xml` never is.
    have hbind {p uri : String} {d : Bool} (huri : name.uri = some uri) (hp : IsDocumentPrefix p)
        (hfree : f.scope.prefixUri p = none) (hbind : f.bind (some p) uri d = .ok f') :
        f'.Portable values := by
      have hp' : p ≠ "xml" := by
        rintro rfl
        exact absurd hfree (by simp)
      refine hf.bind (fun _ => hname.declaration huri (hne huri) hp hp') (fun heq => ?_) hbind
      exact absurd (Option.some.inj heq) hp'
    cases qualified_of_qualify h with
    | unqualified | kept | found => exact hf
    | @numbered n _ _ huri free bind =>
        exact hbind huri (prefixClass_isDocumentPrefix.numbered n) free bind
    | own huri hp free bind => exact hbind huri (hname.legal.prefixIn _ hp) free bind

/-- The text for a type looks like a name. -/
theorem Portable.typeText (hf : f.Portable values) (hs : f.scope.PrefixesIn IsDocumentPrefix)
    {type : QName} (htype : type.Portable) {text : String}
    (h : f.typeText type = .ok (text, f')) : f'.Portable values ∧ LooksNamed text := by
  rcases typeText_cases h with ⟨-, rfl, rfl⟩ | ⟨name, hqualify, -, rfl⟩
  · exact ⟨hf, (spells_local htype.proper.localName).parts⟩
  · have hq : Qualifies IsDocumentPrefix true f type name f' :=
      qualify_sound (d := true) prefixClass_isDocumentPrefix hs htype.legal nofun hqualify
    have hlocal : isNCName name.localName = true := by
      rw [QName.localName, hq.expanded]
      exact htype.proper.localName
    exact ⟨hf.qualify htype hqualify, (QName.spells hlocal fun p hp => (hq.prefixIn p hp).1).parts⟩

theorem Portable.typeText? (hf : f.Portable values) (hs : f.scope.PrefixesIn IsDocumentPrefix)
    {type : Option QName} (htype : ∀ t, type = some t → t.Portable) {text : Option String}
    (h : f.typeText? type = .ok (text, f')) :
    f'.Portable values ∧ ∀ v, text = some v → LooksNamed v := by
  cases type with
  | none =>
      cases h
      exact ⟨hf, nofun⟩
  | some type =>
      obtain ⟨⟨v, f₁⟩, htext, heq⟩ := map_eq_ok.1 h
      cases heq
      obtain ⟨hf', hv⟩ := hf.typeText hs (htype type rfl) htext
      exact ⟨hf', fun v' hv' => Option.some.inj hv' ▸ hv⟩

theorem Portable.write (hf : f.Portable values) {w : Entry} (hname : w.1.Portable)
    (hlocal : w.1.localName ≠ "xmlns") (hvalue : w.2.1 ∈ values ∨ LooksNamed w.2.1)
    (h : f.write w = .ok f') : f'.Portable values := by
  obtain ⟨⟨name, f₁⟩, hqualify, heq⟩ := bind_eq_ok.1 h
  rw [pure_eq_ok] at heq
  subst heq
  have hf₁ := hf.qualify hname hqualify
  have hexpanded := (qualify_grows hname.proper.normal hqualify).1
  refine ⟨hf₁.declarations, fun a ha => ?_⟩
  rcases OrderedTable.mem_entries_put ha with ⟨hkey, hwritten⟩ | hmem
  · rw [hkey, hexpanded, hwritten]
    exact ⟨⟨hname.proper.localName, hlocal⟩, (QName.normal_iff.1 hname.proper.normal).1, hvalue⟩
  · exact hf₁.attributes a hmem

end Frame

/-! ### Written tags -/

/-- The prefix of a bound name is one of the scope. -/
theorem QName.BoundIn.prefixIn {allowed : String → Prop} (ha : PrefixClass allowed) {q : QName}
    {scope : Scope} (hs : scope.PrefixesIn allowed) (hq : q.BoundIn scope) :
    q.PrefixIn allowed := by
  intro p hp
  cases huri : q.uri with
  | none =>
      rw [BoundIn, huri] at hq
      cases hq.symm.trans hp
  | some uri =>
      obtain ⟨p', hp', hbound⟩ := (boundIn_iff huri).1 hq
      obtain rfl : p' = p := Option.some.inj (hp'.symm.trans hp)
      by_cases hxml : p' = "xml"
      · exact hxml ▸ ha.xml
      · exact (hs _ (Scope.mem_bindings_of_prefixUri hbound hxml) p' rfl).1

theorem portable_instanceNames :
    ∀ name ∈ instanceNames, name.Portable ∧ name.localName ≠ "xmlns" := by
  decide

namespace TypedObject

variable {o : TypedObject} {config : MarshalConfig} {scope : Scope} {f : Frame}

/-- Only an element in the namespace of XML itself has the prefix `xml`. -/
theorem Portable.xml_iff (h : o.Portable) :
    o.elementName.nsPrefix = some "xml" ↔ o.elementName.uri = some xmlUri := by
  have hd : Declaration.Bindable ⟨o.elementName.nsPrefix, o.elementName.uri.getD ""⟩ :=
    h.demands _ (List.mem_append_right _ List.mem_cons_self)
  have hne : "" ≠ xmlUri := by decide
  rw [hd.xml_iff]
  cases o.elementName.uri with
  | none => exact ⟨fun hempty => absurd hempty hne, nofun⟩
  | some uri => simp

theorem Portable.legal (h : o.Portable) : o.Legal IsDocumentPrefix where
  elementName := h.elementName.legal
  xmlName := h.xml_iff.1
  schemaType type htype := (h.schemaType type htype).legal
  attributes e he :=
    (h.attributeNames e.1 (List.mem_append_left _ (List.mem_map_of_mem he))).1.legal
  unknown e he :=
    (h.attributeNames e.1 (List.mem_append_right _ (List.mem_map_of_mem he))).1.legal
  declarations d hd p hp := by
    have hbindable := h.demands d (List.mem_append_left _ hd)
    exact ⟨hbindable.named p hp, fun heq => hbindable.xml_iff.1 (heq ▸ hp)⟩

/-- Every attribute is written with a value of the object, or with one that looks like a name. -/
theorem Portable.entries (h : o.Portable) {typeText : Option String} {declare : Bool}
    (htype : ∀ text, typeText = some text → LooksNamed text) :
    ∀ w ∈ o.entries typeText declare,
      w.1.Portable ∧ w.1.localName ≠ "xmlns" ∧ (w.2.1 ∈ o.values ∨ LooksNamed w.2.1) := by
  intro w hw
  have hoptional {name : QName} {value : Option String} (hname : name ∈ instanceNames)
      (hvalue : ∀ v, value = some v → v ∈ o.values ∨ LooksNamed v)
      (h : w ∈ Frame.optional name value declare) :
      w.1.Portable ∧ w.1.localName ≠ "xmlns" ∧ (w.2.1 ∈ o.values ∨ LooksNamed w.2.1) := by
    rw [Frame.optional, Option.mem_toList, Option.map_eq_some_iff] at h
    obtain ⟨v, hv, rfl⟩ := h
    obtain ⟨hportable, hlocal⟩ := portable_instanceNames name hname
    exact ⟨hportable, hlocal, hvalue v hv⟩
  simp only [ObjectHead.entries, ObjectHead.instanceEntries, List.mem_append] at hw
  rcases hw with ((hw | hw | hw | hw) | hw) | hw
  · exact hoptional (by decide) (fun v hv => .inr (htype v hv)) hw
  · exact hoptional (by decide) (fun v hv => .inl (by simp [ObjectHead.values, hv])) hw
  · exact hoptional (by decide) (fun v hv => .inl (by simp [ObjectHead.values, hv])) hw
  · refine hoptional (by decide) (fun v hv => .inr ?_) hw
    obtain ⟨truth, -, rfl⟩ := Option.map_eq_some_iff.1 hv
    exact truth.looksNamed_write
  · have hmem := (ObjectHead.mem_modeledEntries hw).1
    obtain ⟨hname, hlocal⟩ :=
      h.attributeNames w.1 (List.mem_append_left _ (List.mem_map_of_mem hmem))
    refine ⟨hname, hlocal, .inl (List.mem_append_left _ (List.mem_append_left _ ?_))⟩
    exact List.mem_map_of_mem hmem
  · have hmem := (ObjectHead.mem_unknownEntries hw).1
    obtain ⟨hname, hlocal⟩ :=
      h.attributeNames w.1 (List.mem_append_right _ (List.mem_map_of_mem hmem))
    refine ⟨hname, hlocal, .inl (List.mem_append_left _ (List.mem_append_right _ ?_))⟩
    exact List.mem_map_of_mem hmem

theorem Portable.frame (h : o.Portable) (hs : scope.PrefixesIn IsDocumentPrefix)
    (hf : o.writeTag o.text? config scope = .ok f) : f.Portable o.values := by
  obtain ⟨-, -, -, f₀, typeText, f₁, hopen, htype, hwrite⟩ := ObjectHead.writeTag_eq_ok.1 hf
  have h₀ : f₀.Portable o.values :=
    (Frame.portable_start _ _).bindAll h.demands (ObjectHead.openTag_eq_ok.1 hopen).2
  have hprefixes : f₀.scope.PrefixesIn IsDocumentPrefix :=
    (ObjectHead.openTag_sound Scope.tracking_eq prefixClass_isDocumentPrefix h.legal hs rfl
      hopen).1.prefixes
  obtain ⟨h₁, htext⟩ := h₀.typeText? hprefixes h.schemaType htype
  have hentries (w : Frame.Entry) (hw : w ∈ o.entries typeText config.declareInstance) :=
    h.entries htext w hw
  refine foldlM_invariant (fun w hw _ _ hf hwrite => ?_) h₁ hwrite
  obtain ⟨hname, hlocal, hvalue⟩ := hentries w hw
  exact hf.write hname hlocal hvalue hwrite

/-- An element that a document can carry, with the name, the values and the texts of an object. -/
structure CarriedBy (scope : Scope) (o : TypedObject) (e : Element) : Prop where
  portable : e.toTag.Portable scope
  name_eq : e.name = o.elementName
  values : ∀ a ∈ e.attributes.entries, a.2 ∈ o.values ∨ LooksNamed a.2
  texts : ∀ text, .text text ∈ e.children → .text text ∈ o.children

/-- Every element that is written for an object that a document can carry is one, too. -/
theorem carriedBy_of_marshalAt {x : TypedObject} {depth : Nat} {e : Element}
    (hx : ∀ o ∈ x.graph, o.Portable) (hdeclare : config.declareInstance = true)
    (hs : scope.PrefixesIn IsDocumentPrefix) (h : x.marshalAt config scope depth = .ok e) :
    x.Alongside (fun inForce _ => CarriedBy inForce) scope depth e := by
  refine alongside_of_marshalAt (R := fun s t => s.PrefixesIn IsDocumentPrefix ∧ s = t) ?_
    ⟨hs, rfl⟩ h
  rintro o ho scope _ depth f nodes ⟨hs, rfl⟩ htag hchildren
  have hportable := hx o ho
  obtain ⟨hsound, hwritten⟩ := ObjectHead.writeTag_sound (hdeclare ▸ Scope.tracking_eq)
    prefixClass_isDocumentPrefix hportable.legal hs rfl htag
  have hframe := hportable.frame hs htag
  rw [← hsound.tracked]
  refine ⟨⟨hsound.prefixes, rfl⟩, ⟨⟨hwritten.named, hwritten.bound, hwritten.distinct⟩, ?_,
    hframe.declarations, fun a ha => ?_⟩, hwritten.name_eq,
    fun a ha => (hframe.attributes a ha).value, fun text htext => ?_⟩
  · rw [hwritten.name_eq]
    exact ⟨hportable.elementName.proper, hportable.elementName.nsPrefix_ne⟩
  · obtain ⟨⟨hlocal, hother⟩, huri, hvalue⟩ := hframe.attributes a ha
    have hp := (hwritten.bound a ha).prefixIn prefixClass_isDocumentPrefix hsound.prefixes
    have hnormal : a.1.Normal :=
      QName.normal_iff.2 ⟨huri, fun hempty => ne_empty_of_isNCName (hp "" hempty).1 rfl⟩
    refine ⟨QName.proper_iff.2 ⟨hnormal, hlocal, fun p hp' => (hp p hp').1⟩, hother,
      fun hxmlns => (hp _ hxmlns).2 rfl, ?_⟩
    rcases hvalue with hmem | hnamed
    · exact hportable.values _ hmem
    · exact hnamed.isDocumentText
  · obtain ⟨c, hc, hmatch⟩ := exists_mem_left_of_forall₂ hchildren.flip htext
    exact Node.matches_text_iff.1 hmatch ▸ hc

/-- An object of which a document changes nothing: no text has a carriage return, and no value has
any blanks but spaces. -/
structure Lossless (o : TypedObject) : Prop where
  values : ∀ value ∈ o.values, ∀ c ∈ value.toList, isControlBlank c = false
  texts : ∀ text, .text text ∈ o.children → '\r' ∉ text.toList

theorem lossless_of_carriedBy {x : TypedObject} {depth : Nat} {e : Element}
    (hx : ∀ o ∈ x.graph, o.Lossless)
    (h : x.Alongside (fun inForce _ => CarriedBy inForce) scope depth e) :
    e.joined.Everywhere (fun _ _ el => (∀ a ∈ el.attributes.entries, respaced a.2 = a.2) ∧
      ∀ text, .text text ∈ el.children → reread text = text) scope depth := by
  have hkept : x.Alongside (fun _ _ _ el => (∀ a ∈ el.attributes.entries, respaced a.2 = a.2) ∧
      ∀ text, .text text ∈ el.children → '\r' ∉ text.toList) scope depth e := by
    refine h.imp fun _ _ o el ho hel => ⟨fun a ha => ?_, fun text htext => ?_⟩
    · rcases hel.values a ha with hmem | hnamed
      · exact respaced_eq_self_iff.2 ((hx o ho).values a.2 hmem)
      · exact hnamed.respaced_eq
    · exact (hx o ho).texts text (hel.texts text htext)
  obtain ⟨hvalues, htexts⟩ := Element.everywhere_and.1 (hkept.everywhere fun _ _ _ _ hel => hel)
  have happend : ∀ s t : String, '\r' ∉ s.toList → '\r' ∉ t.toList → '\r' ∉ (s ++ t).toList := by
    intro s t hs ht
    rw [String.toList_append, List.mem_append]
    exact not_or.2 ⟨hs, ht⟩
  refine Element.everywhere_and.2 ⟨?_, ?_⟩
  · exact (Element.everywhere_joined_iff
      (T := fun _ tag => ∀ a ∈ tag.attributes.entries, respaced a.2 = a.2)).2 hvalues
  · exact (Element.texts_joined happend htexts).imp fun _ _ _ hel text htext =>
      reread_eq_self (hel text htext)

theorem portable_of_carriedBy {x : TypedObject} {e : Element} (hx : ∀ o ∈ x.graph, o.Portable)
    (h : x.Alongside (fun inForce _ => CarriedBy inForce) .empty 1 e) :
    e.Everywhere (fun scope _ el => el.Portable scope) .empty 1 := by
  have hdocument : x.Alongside (fun inForce _ _ el => el.Portable inForce) .empty 1 e :=
    h.imp fun _ _ o el ho hel =>
      ⟨hel.portable, fun text htext => (hx o ho).texts text (hel.texts text htext)⟩
  exact hdocument.everywhere fun _ _ _ _ hel => hel

/-- What is written for an object that a document can carry is read again, unless an element is in
the namespace of XML itself. -/
theorem read_write_of_carriedBy {x : TypedObject} {e : Element} (hx : ∀ o ∈ x.graph, o.Portable)
    (h : x.Alongside (fun inForce _ => CarriedBy inForce) .empty 1 e) :
    ((∃ e', Element.read e.write = .ok e') ↔
        ∀ o ∈ x.graph, o.elementName.uri ≠ some xmlUri) ∧
      ∀ e', Element.read e.write = .ok e' → e.joined.ReadsAs reread respaced e' := by
  obtain ⟨hexists, hreads⟩ := Element.read_write (portable_of_carriedBy hx h)
  refine ⟨hexists.trans (h.everywhere_iff fun _ _ o el ho hel => ?_), hreads⟩
  rw [hel.name_eq, Ne, (hx o ho).xml_iff]

/-- An object that a document can carry is written as a document that is read again, unless an
element is in the namespace of XML itself. What is read has the same names, attributes and children,
adjacent texts joined; of texts and values it has what a document keeps of them, which is all unless
there are carriage returns, or blanks other than spaces in the value of an attribute. -/
theorem read_write_of_marshal {x : TypedObject} {config : MarshalConfig} {e : Element}
    (hx : ∀ o ∈ x.graph, o.Portable) (hdeclare : config.declareInstance = true)
    (h : x.marshal config .empty = .ok e) :
    ((∃ e', Element.read e.write = .ok e') ↔
        ∀ o ∈ x.graph, o.elementName.uri ≠ some xmlUri) ∧
      ∀ e', Element.read e.write = .ok e' →
        e.joined.ReadsAs reread respaced e' ∧
          ((∀ o ∈ x.graph, o.Lossless) → e.joined.ReadsAs id id e') := by
  have hcarried := carriedBy_of_marshalAt hx hdeclare Scope.prefixesIn_empty h
  obtain ⟨hexists, hreads⟩ := read_write_of_carriedBy hx hcarried
  refine ⟨hexists, fun e' he' => ⟨hreads e' he', fun hlossless => ?_⟩⟩
  exact (hreads e' he').unchanged (lossless_of_carriedBy hlossless hcarried)

end TypedObject

/-- An object with an attribute and two texts beside each other, and an object below it. -/
def letter : TypedObject :=
  { ((TypeDescriptor.ofName (.prefixed "urn:n" "Letter" "t")).withContent .mixed
      |>.build).setAttribute (.prefixed "urn:m" "to" "m") "\"A\" & <B>" with
    children := [.text "1 < 2", .text " & 3", .object
      { (TypeDescriptor.ofName (.namespaced "urn:m" "Note")).build with
        nil := some (.word true)
        schemaLocation := some "urn:m m.xsd" }] }

theorem letter_portable : ∀ o ∈ letter.graph, o.Portable := by
  refine List.forall_mem_cons.2 ⟨?_, List.forall_mem_singleton.2 ?_⟩
  · refine ⟨by decide, nofun, by decide, by decide, by decide, fun text htext => ?_⟩
    have htext : text = "1 < 2" ∨ text = " & 3" := by simpa [letter] using htext
    rcases htext with rfl | rfl <;> decide
  · exact ⟨by decide, nofun, by decide, by decide, by decide, nofun⟩

theorem letter_lossless : ∀ o ∈ letter.graph, o.Lossless := by
  have hplain {values : List String}
      (h : (values.all fun value => value.toList.all fun c => !isControlBlank c) = true) :
      ∀ value ∈ values, ∀ c ∈ value.toList, isControlBlank c = false := by
    simpa only [List.all_eq_true, Bool.not_eq_true'] using h
  refine List.forall_mem_cons.2
    ⟨⟨hplain (by decide), fun text htext => ?_⟩, List.forall_mem_singleton.2 ?_⟩
  · have htext : text = "1 < 2" ∨ text = " & 3" := by simpa [letter] using htext
    rcases htext with rfl | rfl <;> decide
  · exact ⟨hplain (by decide), nofun⟩

theorem letter_read :
    ∃ e e', letter.marshal .standard .empty = .ok e ∧ Element.read e.write = .ok e' ∧
      e.joined.ReadsAs id id e' := by
  obtain ⟨e, he⟩ := exists_eq_ok (x := letter.marshal .standard .empty) (by decide)
  obtain ⟨hexists, hreads⟩ := TypedObject.read_write_of_marshal letter_portable rfl he
  obtain ⟨e', he'⟩ := hexists.2 (by decide)
  exact ⟨e, e', he, he', (hreads e' he').2 letter_lossless⟩

/-! ### A text with a carriage return -/

/-- An object with one text. -/
def returned : TypedObject :=
  { ((TypeDescriptor.ofName (.prefixed "urn:n" "Thing" "t")).withContent .mixed).build with
    children := [.text "a\rb"] }

theorem returned_portable : ∀ o ∈ returned.graph, o.Portable := by
  refine List.forall_mem_singleton.2
    ⟨by decide, nofun, nofun, by decide, nofun, fun text htext => ?_⟩
  obtain rfl : text = "a\rb" := Child.text.inj (List.mem_singleton.1 htext)
  decide

/-- The document is read, but the text that is read has a line feed where the object has a carriage
return. -/
theorem returned_changed :
    (∀ o ∈ returned.graph, o.Portable) ∧
      ∃ e, returned.marshal .standard .empty = .ok e ∧
        ∃ e', Element.read e.write = .ok e' ∧ e'.children = [.text "a\nb"] ∧
          ¬e.joined.ReadsAs id id e' := by
  obtain ⟨⟨tag, nodes⟩, he⟩ :=
    exists_eq_ok (x := returned.marshal .standard .empty) (by decide)
  have hcarried :=
    TypedObject.carriedBy_of_marshalAt returned_portable rfl Scope.prefixesIn_empty he
  obtain ⟨hexists, hreads⟩ := TypedObject.read_write_of_carriedBy returned_portable hcarried
  obtain ⟨⟨tag', nodes'⟩, he'⟩ := hexists.2 (by decide)
  have hnodes : nodes = [.text "a\rb"] := by
    cases (TypedObject.alongside_mk.1 hcarried).2 with
    | cons hn hrest =>
        cases hn
        cases hrest
        rfl
  have hread {text value : String → String}
      (h : Element.ReadsAs text value (Element.joined ⟨tag, nodes⟩) ⟨tag', nodes'⟩) :
      nodes' = [.text (text "a\rb")] := by
    rw [hnodes, Element.joined_mk, Element.readsAs_mk] at h
    cases h.2.2 with
    | cons hn hrest =>
        cases hrest
        exact congrArg (fun n => [n]) hn
  have hchildren : nodes' = [.text "a\nb"] := hread (hreads _ he')
  refine ⟨returned_portable, _, he, _, he', hchildren, fun hsame => ?_⟩
  have htext : "a\nb" = id "a\rb" := by
    simpa using hchildren.symm.trans (hread hsame)
  exact absurd htext (by decide)

end XmlBinding
