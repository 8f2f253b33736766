import XmlBinding.Proofs.Made
import XmlBinding.Proofs.NamespaceSound

/-!
The attributes that every element may have, on a written element. They are written first, from the
fields of the object; whatever was set as an attribute under one of their names is written later and
takes the place of the field. So an element says what the fields say exactly if no such attribute
says anything else.
-/

namespace XmlBinding

/-- The names of an object as the checked constructor lets them pass. The prefixes that it declares
are names too, and `xml` is declared for its own namespace only. -/
structure ObjectHead.Named (head : ObjectHead) : Prop where
  elementName : head.elementName.Proper
  xmlName : head.elementName.nsPrefix = some "xml" → head.elementName.uri = some xmlUri
  schemaType : ∀ type, head.schemaType = some type → type.Proper
  attributes : ∀ e ∈ head.attributes.entries, e.1.Proper
  unknown : ∀ e ∈ head.unknown.entries, e.1.Proper
  declarations : ∀ d ∈ head.declarations, d.PrefixIn fun p => isNCName p = true

/-- A text that is there if a type is, and then denotes it. -/
def Scope.Tells (scope : Scope) (type : Option QName) (text : Option String) : Prop :=
  text.map scope.denotes = type.map fun type => some type.expanded

/-- With a default that has a property, a value has it if it has it wherever it is not the default.
-/
theorem or_iff_of_default {P : Option String → Prop} {a b : Option String} (h : P b) :
    P (a.or b) ↔ ∀ text, a = some text → P (some text) := by
  cases a with
  | none => exact ⟨fun _ => nofun, fun _ => h⟩
  | some text => simp

namespace ObjectHead

variable {head : ObjectHead} {scope : Scope} {typeText text : Option String} {declare : Bool}
  {tag : Tag}

/-- What is found under the names that every element may have is what the fields of the object say.
-/
structure FieldsTold (head : ObjectHead) (scope : Scope) (found : QName → Option String) :
    Prop where
  type : scope.Tells head.schemaType (found xsiTypeName)
  nil : found xsiNilName = head.nil.map Truth.write
  schemaLocation : found xsiSchemaLocationName = head.schemaLocation
  noNamespaceLocation : found xsiNoNamespaceLocationName = head.noNamespaceLocation

/-- An attribute that was set under one of these names says what the field says. -/
structure Unforged (head : ObjectHead) (scope : Scope) : Prop where
  type : ∀ text, head.attribute? xsiTypeName = some text → scope.Tells head.schemaType (some text)
  nil : ∀ text, head.attribute? xsiNilName = some text → some text = head.nil.map Truth.write
  schemaLocation : ∀ text, head.attribute? xsiSchemaLocationName = some text →
    some text = head.schemaLocation
  noNamespaceLocation : ∀ text, head.attribute? xsiNoNamespaceLocationName = some text →
    some text = head.noNamespaceLocation

theorem Named.legal (h : head.Named) : head.Legal fun p => isNCName p = true where
  elementName := h.elementName.legal
  xmlName := h.xmlName
  schemaType type htype := (h.schemaType type htype).legal
  attributes e he := (h.attributes e he).legal
  unknown e he := (h.unknown e he).legal
  declarations := h.declarations

theorem Named.tells (hnames : head.Named)
    (h : head.TypeText (fun p => isNCName p = true) scope typeText) :
    scope.Tells head.schemaType typeText := by
  cases htype : head.schemaType with
  | none =>
      rw [TypeText, htype] at h
      obtain rfl : typeText = none := h
      rfl
  | some type =>
      rw [TypeText, htype] at h
      obtain ⟨value, rfl, hdenotes⟩ := h
      have hlocal := (hnames.schemaType type htype).localName
      exact congrArg some (hdenotes (fun _ hp => hp) hlocal)

/-- What is written for the fields says what the fields say. -/
theorem fieldsTold_instanceEntries (declare : Bool) (h : scope.Tells head.schemaType typeText) :
    head.FieldsTold scope fun name =>
      Frame.valueIn name.expanded (head.instanceEntries typeText declare) where
  type := by
    simpa +decide [instanceEntries, Frame.valueIn_append, Frame.valueIn_optional] using h
  nil := by
    simp +decide [instanceEntries, Frame.valueIn_append, Frame.valueIn_optional]
  schemaLocation := by
    simp +decide [instanceEntries, Frame.valueIn_append, Frame.valueIn_optional]
  noNamespaceLocation := by
    simp +decide [instanceEntries, Frame.valueIn_append, Frame.valueIn_optional]

/-- Where the fields stand behind the attributes of the object, they are told if nothing else is
said in their place. -/
theorem fieldsTold_iff_unforged {found own : QName → Option String}
    (hown : head.FieldsTold scope own)
    (hfound : ∀ name, found name = (head.attribute? name).or (own name)) :
    head.FieldsTold scope found ↔ head.Unforged scope := by
  have htype := or_iff_of_default (a := head.attribute? xsiTypeName) hown.type
  have hnil := or_iff_of_default (a := head.attribute? xsiNilName)
    (P := fun text => text = head.nil.map Truth.write) hown.nil
  have hlocation := or_iff_of_default (a := head.attribute? xsiSchemaLocationName)
    (P := fun text => text = head.schemaLocation) hown.schemaLocation
  have hnoNamespace := or_iff_of_default (a := head.attribute? xsiNoNamespaceLocationName)
    (P := fun text => text = head.noNamespaceLocation) hown.noNamespaceLocation
  constructor
  · rintro ⟨h₁, h₂, h₃, h₄⟩
    rw [hfound] at h₁ h₂ h₃ h₄
    exact ⟨htype.1 h₁, hnil.1 h₂, hlocation.1 h₃, hnoNamespace.1 h₄⟩
  · rintro ⟨h₁, h₂, h₃, h₄⟩
    constructor
    · rw [hfound]
      exact htype.2 h₁
    · rw [hfound]
      exact hnil.2 h₂
    · rw [hfound]
      exact hlocation.2 h₃
    · rw [hfound]
      exact hnoNamespace.2 h₄

/-- Behind the attributes of an object, its fields are on the tag that is written for it. -/
theorem Written.exists_fields
    (hw : head.Written (fun p => isNCName p = true) declare text scope tag)
    (hnames : head.Named) (hrouted : head.Routed) :
    ∃ own, head.FieldsTold scope own ∧
      ∀ name, tag.attribute? name = (head.attribute? name).or (own name) := by
  obtain ⟨typeText, htype, hvalues⟩ := hw.values
  refine ⟨_, fieldsTold_instanceEntries declare (hnames.tells htype), fun name => ?_⟩
  rw [Tag.attribute?, hvalues, hrouted.valueIn_entries]
  rfl

end ObjectHead

/-- On every element that is written for an object, the attributes that every element may have say
what the fields of the object say, exactly if no attribute that was set under one of their names
says anything else; for any such attribute stands there as it was set. -/
theorem TypedObject.fieldsTold_iff_of_marshal {x : TypedObject} {config : MarshalConfig}
    {scope surroundings : Scope} {e : Element} (hx : x.Made) (hnames : ∀ o ∈ x.graph, o.Named)
    (hscope : scope.PrefixesIn fun p => isNCName p = true)
    (hsuits : config.Suits scope surroundings) (h : x.marshal config scope = .ok e) :
    x.Alongside (fun inForce _ o el =>
      (o.FieldsTold inForce el.attribute? ↔ o.Unforged inForce) ∧
        ∀ name value, o.attribute? name = some value → el.attribute? name = some value)
      surroundings 1 e := by
  have hregular := hx.regular
  have hlegal : ∀ o ∈ x.graph, o.Legal fun p => isNCName p = true :=
    fun o ho => (hnames o ho).legal
  have hwritten :=
    writtenAs_of_marshalAt config.tracking_suits prefixClass_isNCName hlegal hscope hsuits h
  refine hwritten.imp fun inForce _ o el ho hel => ?_
  obtain ⟨own, htold, hfound⟩ := hel.toWritten.exists_fields (hnames o ho) (hregular o ho).routed
  refine ⟨ObjectHead.fieldsTold_iff_unforged htold hfound, fun name value hvalue => ?_⟩
  show el.toTag.attribute? name = _
  rw [hfound, hvalue, Option.some_or]

/-! ### An object with an attribute under such a name -/

/-- An object whose field says that it is not nil, and an attribute that it is. -/
def forged : TypedObject :=
  { (TypeDescriptor.ofName (.prefixed "urn:n" "Thing" "t")).build.setAttribute xsiNilName "true"
    with nil := some (.word false) }

theorem forged_made : forged.Made := by
  have hbuilt : (TypeDescriptor.ofName (.prefixed "urn:n" "Thing" "t")).build.Made :=
    .build (by decide)
  exact .set (.set hbuilt (.setting (by decide) "true")) (.nil (some (.word false)))

theorem forged_named : forged.Named where
  elementName := by decide
  xmlName := by decide
  schemaType := nofun
  attributes := nofun
  unknown := by decide
  declarations := nofun

/-- The field of the object is not what is written, but the attribute that was set under its name.
-/
theorem forged_replaced :
    forged.Made ∧ (∀ o ∈ forged.graph, o.Named) ∧
      ∃ e, forged.marshal .standard .empty = .ok e ∧ forged.nil = some (.word false) ∧
        e.attribute? xsiNilName = some "true" ∧
        ¬forged.Alongside (fun inForce _ o el => o.FieldsTold inForce el.attribute?) .empty 1
          e := by
  obtain ⟨e, he⟩ := exists_eq_ok (x := forged.marshal .standard .empty) (by decide)
  have hnil : (forged.marshal .standard .empty).toOption.map (fun e => e.attribute? xsiNilName) =
      some (some "true") := by
    decide
  rw [he] at hnil
  have hnil : e.attribute? xsiNilName = some "true" := Option.some.inj hnil
  refine ⟨forged_made, ?_, e, he, rfl, hnil, fun h => ?_⟩
  · intro o ho
    obtain rfl : o = forged := List.mem_singleton.1 ho
    exact forged_named
  · have htold := h.outermost.nil
    exact absurd (hnil.symm.trans htold) (by decide)

/-- An object under a foreign name, with a type and an object below it that says two things at once.
-/
def bundle : TypedObject :=
  { ((TypeDescriptor.ofName (.prefixed "urn:n" "Thing" "t")).withContent .mixed).buildNamed
      (.namespaced "urn:m" "Bundle") with
    schemaLocation := some "urn:n n.xsd"
    children := [.object forged] }

theorem bundle_made : bundle.Made := by
  have hbuilt : (((TypeDescriptor.ofName (.prefixed "urn:n" "Thing" "t")).withContent .mixed)
      |>.buildNamed (.namespaced "urn:m" "Bundle")).Made :=
    .buildNamed (by decide) (by decide)
  have hset : TypedObject.Made { bundle with children := [] } :=
    hbuilt.set (.schemaLocation (some "urn:n n.xsd"))
  refine hset.setChildren fun c hc => ?_
  have hforged : c = forged := by
    simpa using hc
  exact hforged ▸ forged_made

theorem bundle_named : ∀ o ∈ bundle.graph, o.Named := by
  have hbundle : bundle.Named := by
    refine ⟨by decide, by decide, fun type htype => ?_, nofun, nofun, nofun⟩
    obtain rfl : .prefixed "urn:n" "Thing" "t" = type := Option.some.inj htype
    decide
  exact List.forall_mem_cons.2 ⟨hbundle, List.forall_mem_singleton.2 forged_named⟩

theorem bundle_fields :
    ∃ e, bundle.marshal .standard .empty = .ok e ∧
      bundle.Alongside (fun inForce _ o el =>
        (o.FieldsTold inForce el.attribute? ↔ o.Unforged inForce) ∧
          ∀ name value, o.attribute? name = some value → el.attribute? name = some value)
        .empty 1 e := by
  obtain ⟨e, he⟩ := exists_eq_ok (x := bundle.marshal .standard .empty) (by decide)
  have hsuits : MarshalConfig.standard.Suits .empty .empty := rfl
  exact ⟨e, he, TypedObject.fieldsTold_iff_of_marshal bundle_made bundle_named
    Scope.prefixesIn_empty hsuits he⟩

end XmlBinding
