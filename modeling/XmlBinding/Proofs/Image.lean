import XmlBinding.Proofs.Built
import XmlBinding.Proofs.Made

/-!
What is written for an object, to the last attribute. Up to prefixes and declarations an element is
the image of its object: the same name, the same children in the same places, and the attributes in
one order, whatever order they were set in. No two writes meet, since no name is among the
attributes of an object twice.
-/

namespace XmlBinding

/-- The attributes of a tag in their order, without the prefixes of their names. -/
def Tag.listed (tag : Tag) : List (ExpandedName × String) :=
  tag.attributes.entries.map fun (name, value) => (name.expanded, value)

/-- The attributes, among some in an order, that have a value. -/
def valued (attributes : List (ExpandedName × Option String)) : List (ExpandedName × String) :=
  attributes.filterMap fun (name, value) => value.map fun value => (name, value)

namespace ObjectHead

/-- The attributes that every element may have, given the text for the type. -/
def instanceImage (head : ObjectHead) (typeText : Option String) :
    List (ExpandedName × Option String) :=
  [(xsiTypeName.expanded, typeText), (xsiSchemaLocationName.expanded, head.schemaLocation),
    (xsiNoNamespaceLocationName.expanded, head.noNamespaceLocation),
    (xsiNilName.expanded, head.nil.map Truth.write)]

/-- The modeled attributes, as the descriptor lists them. -/
def modeledImage (head : ObjectHead) : List (ExpandedName × Option String) :=
  head.descriptor.attributes.map fun spec =>
    (spec.name.expanded, head.attributes.get? spec.name.expanded)

/-- The attributes of the element that stands for an object: those that every element may have, the
modeled ones, and all others as they are stored. -/
def image (head : ObjectHead) (typeText : Option String) : List (ExpandedName × String) :=
  valued (head.instanceImage typeText ++ head.modeledImage) ++
    head.unknown.entries.map fun (name, value) => (name.expanded, value)

end ObjectHead

/-- An element that is the image of an object, but for its children. The type is written as its
name, with whatever prefix. -/
structure TypedObject.ImagedBy (o : TypedObject) (e : Element) : Prop where
  name : e.name = o.elementName
  attributes : ∃ type : Option QName, type.map QName.expanded = o.schemaType.map QName.expanded ∧
    e.listed = o.image (type.map QName.prefixedName)

namespace Frame

/-- Attributes to be written, without the prefixes of their names. -/
def listed (ws : List Entry) : List (ExpandedName × String) :=
  ws.map fun (name, value, _) => (name.expanded, value)

theorem listed_append (ws ws' : List Entry) : listed (ws ++ ws') = listed ws ++ listed ws' :=
  List.map_append

@[simp] theorem listed_optional (name : QName) (value : Option String) (declare : Bool) :
    listed (optional name value declare) = valued [(name.expanded, value)] := by
  cases value <;> rfl

end Frame

/-! ### No name twice -/

theorem valued_append (as bs : List (ExpandedName × Option String)) :
    valued (as ++ bs) = valued as ++ valued bs :=
  List.filterMap_append

theorem sublist_valued (as : List (ExpandedName × Option String)) :
    ((valued as).map Prod.fst).Sublist (as.map Prod.fst) := by
  induction as with
  | nil => exact .slnil
  | cons a as ih =>
      obtain ⟨name, value⟩ := a
      cases value with
      | none => exact ih.cons name
      | some value => exact ih.cons_cons name

namespace ObjectHead

variable {head : ObjectHead}

theorem isInstance_of_mem_instanceImage {typeText : Option String}
    {a : ExpandedName × Option String} (h : a ∈ head.instanceImage typeText) :
    ∃ name ∈ instanceNames, name.expanded = a.1 := by
  simp only [instanceImage, List.mem_cons, List.not_mem_nil, or_false] at h
  rcases h with rfl | rfl | rfl | rfl
  · exact ⟨xsiTypeName, by decide, rfl⟩
  · exact ⟨xsiSchemaLocationName, by decide, rfl⟩
  · exact ⟨xsiNoNamespaceLocationName, by decide, rfl⟩
  · exact ⟨xsiNilName, by decide, rfl⟩

theorem keys_modeledImage (head : ObjectHead) :
    head.modeledImage.map Prod.fst =
      head.descriptor.attributes.map fun spec => spec.name.expanded := by
  simp [modeledImage]

/-- No name is asked for twice among the attributes that have a place of their own. -/
theorem nodup_ownImage (hcheck : head.descriptor.check = .ok ()) (typeText : Option String) :
    ((head.instanceImage typeText ++ head.modeledImage).map Prod.fst).Nodup := by
  obtain ⟨hdistinct, huri⟩ := TypeDescriptor.check_eq_ok.1 hcheck
  rw [List.map_append, keys_modeledImage, List.nodup_append]
  refine ⟨?_, hdistinct, ?_⟩
  · show [xsiTypeName.expanded, xsiSchemaLocationName.expanded, xsiNoNamespaceLocationName.expanded,
      xsiNilName.expanded].Nodup
    decide
  · intro k hk k' hk' heq
    obtain ⟨a, ha, rfl⟩ := List.mem_map.1 hk
    obtain ⟨spec, hspec, rfl⟩ := List.mem_map.1 hk'
    obtain ⟨name, hname, hexpanded⟩ := isInstance_of_mem_instanceImage ha
    have hinstance : ∀ name ∈ instanceNames, name.uri = some instanceUri := by decide
    apply huri spec hspec
    rw [QName.uri, ← heq, ← hexpanded]
    exact hinstance name hname

/-- The names in the image of an object are distinct. -/
theorem nodup_image (hrouted : head.Routed) (hcheck : head.descriptor.check = .ok ())
    (hunknown : ∀ e ∈ head.unknown.entries, e.1.isInstance = false) (typeText : Option String) :
    ((head.image typeText).map Prod.fst).Nodup := by
  rw [image, List.map_append, List.map_map, List.nodup_append]
  refine ⟨(nodup_ownImage hcheck typeText).sublist (sublist_valued _), head.unknown.distinct, ?_⟩
  intro k hk k' hk' heq
  obtain ⟨e, he, rfl⟩ := List.mem_map.1 hk'
  replace heq : k = e.1.expanded := heq
  have hmem := (sublist_valued _).subset hk
  rw [List.map_append, keys_modeledImage, List.mem_append] at hmem
  rcases hmem with hmem | hmem
  · obtain ⟨a, ha, rfl⟩ := List.mem_map.1 hmem
    obtain ⟨name, hname, hexpanded⟩ := isInstance_of_mem_instanceImage ha
    have hinstance : e.1.isInstance = true :=
      List.any_eq_true.2 ⟨name, hname, QName.same_iff.2 (heq.symm.trans hexpanded.symm)⟩
    exact nomatch hinstance.symm.trans (hunknown e he)
  · have hmodels : head.descriptor.models e.1 = true := TypeDescriptor.models_iff.2 (heq ▸ hmem)
    exact nomatch hmodels.symm.trans (hrouted.unknown e he)

/-- What is written for an object is its image, in this order. -/
theorem listed_entries (head : ObjectHead) (typeText : Option String) (declare : Bool) :
    Frame.listed (head.entries typeText declare) = head.image typeText := by
  have hinstance : Frame.listed (head.instanceEntries typeText declare) =
      valued (head.instanceImage typeText) := by
    simp only [instanceEntries, Frame.listed_append, Frame.listed_optional, ← valued_append]
    rfl
  have hmodeled : Frame.listed head.modeledEntries = valued head.modeledImage := by
    rw [Frame.listed, modeledEntries, List.map_filterMap, valued, modeledImage,
      List.filterMap_map]
    apply List.filterMap_congr
    intro spec _
    cases hentry : head.attributes.entry? spec.name.expanded with
    | none => simp [OrderedTable.get?, hentry]
    | some e =>
        have hkey := (OrderedTable.entry?_eq_some_iff.1 hentry).2
        simp [OrderedTable.get?, hentry, hkey]
  have hunknown : Frame.listed head.unknownEntries =
      head.unknown.entries.map fun (name, value) => (name.expanded, value) := by
    rw [Frame.listed, unknownEntries, List.map_map]
    rfl
  rw [entries, image, Frame.listed_append, Frame.listed_append, hinstance, hmodeled, hunknown,
    valued_append]

end ObjectHead

/-! ### Writing one after the other -/

namespace Frame

variable {f f' : Frame}

theorem BindsOnly.listed (h : BindsOnly f f') : f'.tag.listed = f.tag.listed := by
  rw [Tag.listed, h.attributes, Tag.listed]

/-- An attribute whose name is not there yet is written after all others. -/
theorem listed_write {w : Entry} (hw : w.1.Normal)
    (habsent : w.1.expanded ∉ f.tag.listed.map Prod.fst) (h : f.write w = .ok f') :
    f'.tag.name = f.tag.name ∧ f'.tag.listed = f.tag.listed ++ [(w.1.expanded, w.2.1)] := by
  obtain ⟨f₁, name, hgrows, hexpanded, rfl⟩ := write_grows hw h
  have hbinds := hgrows.bindsOnly
  have hnone : f₁.tag.attributes.get? name.expanded = none := by
    rw [OrderedTable.get?_eq_none_iff, hbinds.attributes, hexpanded]
    intro e he hkey
    apply habsent
    rw [Tag.listed, List.map_map, ← hkey]
    exact List.mem_map_of_mem he
  refine ⟨hbinds.name, ?_⟩
  show (f₁.tag.attributes.put name w.2.1).entries.map _ = _
  rw [OrderedTable.entries_put_of_absent _ hnone, List.map_append, ← hbinds.listed, ← hexpanded]
  rfl

/-- Attributes of distinct names are written one after the other, after those that are there. -/
theorem listed_writeAll {ws : List Entry} (hws : ∀ w ∈ ws, w.1.Normal)
    (hdistinct : ((f.tag.listed ++ listed ws).map Prod.fst).Nodup)
    (h : ws.foldlM write f = .ok f') :
    f'.tag.name = f.tag.name ∧ f'.tag.listed = f.tag.listed ++ listed ws := by
  induction ws generalizing f with
  | nil =>
      rw [List.foldlM_nil, pure_eq_ok] at h
      subst h
      exact ⟨rfl, (List.append_nil _).symm⟩
  | cons w ws ih =>
      rw [List.foldlM_cons, bind_eq_ok] at h
      obtain ⟨f₁, hwrite, hrest⟩ := h
      rw [List.forall_mem_cons] at hws
      have habsent : w.1.expanded ∉ f.tag.listed.map Prod.fst := by
        rw [List.map_append, List.nodup_append] at hdistinct
        intro hmem
        exact hdistinct.2.2 _ hmem _ List.mem_cons_self rfl
      obtain ⟨hname, hlisted⟩ := listed_write hws.1 habsent hwrite
      -- Written or still to be written, the attributes stay the same.
      have hsame : f.tag.listed ++ listed (w :: ws) = f₁.tag.listed ++ listed ws := by
        rw [hlisted, List.append_assoc]
        rfl
      rw [hsame] at hdistinct ⊢
      obtain ⟨hname', hlisted'⟩ := ih hws.2 hdistinct hrest
      exact ⟨hname'.trans hname, hlisted'⟩

end Frame

/-- A tag that is written for an object has its name, and its attributes in the order of the image.
-/
theorem ObjectHead.image_of_writeTag {head : ObjectHead} {text : Option String}
    {config : MarshalConfig} {scope : Scope} {f : Frame} (hhead : head.Regular)
    (hcheck : head.descriptor.check = .ok ())
    (hunknown : ∀ e ∈ head.unknown.entries, e.1.isInstance = false)
    (h : head.writeTag text config scope = .ok f) :
    f.tag.name = head.elementName ∧
      ∃ type : Option QName, type.map QName.expanded = head.schemaType.map QName.expanded ∧
        f.tag.listed = head.image (type.map QName.prefixedName) := by
  obtain ⟨-, -, -, f₀, typeText, f₁, hopen, htype, hwrite⟩ := writeTag_eq_ok.1 h
  obtain ⟨⟨type, hexpanded, rfl⟩, hgrows⟩ := Frame.typeText?_grows hhead.normal.schemaType htype
  -- Nothing is written yet when the attributes are begun.
  have hbinds := (bindsOnly_of_openTag hopen).trans hgrows.bindsOnly
  have hblank : f₁.tag.listed = [] := hbinds.listed
  have hdistinct : ((f₁.tag.listed ++ Frame.listed
      (head.entries (type.map QName.prefixedName) config.declareInstance)).map Prod.fst).Nodup := by
    rw [hblank, listed_entries]
    exact nodup_image hhead.routed hcheck hunknown _
  obtain ⟨hname, hlisted⟩ := Frame.listed_writeAll (hhead.normal.entries _) hdistinct hwrite
  refine ⟨hname.trans hbinds.name, type, hexpanded, ?_⟩
  rw [hlisted, hblank, listed_entries]
  rfl

/-- What is written for an object graph is its image, level by level: the same names, the attributes
of each object once, in their order and with their values, and the same children, no text joined to
another. Required attributes are never left out. -/
theorem TypedObject.imagedBy_of_marshal {x : TypedObject} {config : MarshalConfig} {scope : Scope}
    {e : Element} (hx : x.Made) (hcheck : ∀ o ∈ x.graph, o.descriptor.check = .ok ())
    (hunknown : ∀ o ∈ x.graph, ∀ entry ∈ o.unknown.entries, entry.1.isInstance = false)
    (h : x.marshal config scope = .ok e) :
    (∀ o ∈ x.graph, o.Complete) ∧ x.Alongside (fun _ _ o el => o.ImagedBy el) scope 1 e := by
  have hregular := hx.regular
  have hlevels : x.Alongside (fun _ _ o el => o.Complete ∧ o.ImagedBy el) scope 1 e := by
    refine alongside_of_marshalAt (R := fun _ _ => True) ?_ trivial h
    intro o ho inForce start depth f nodes _ htag _
    obtain ⟨hname, hattributes⟩ :=
      ObjectHead.image_of_writeTag (hregular o ho) (hcheck o ho) (hunknown o ho) htag
    exact ⟨trivial, (ObjectHead.writeTag_eq_ok.1 htag).2.1, hname, hattributes⟩
  constructor
  · exact hlevels.forall_graph fun _ _ _ _ h => h.1
  · exact hlevels.imp fun _ _ _ _ _ h => h.2

/-- A type with an attribute that may not be missing and one that may. -/
def reportType : TypeDescriptor :=
  (TypeDescriptor.ofName (.prefixed "urn:r" "Report" "r"))
    |>.withRequired (.unqualified "id") .string
    |>.withAttribute (.unqualified "lang") .string
    |>.withContent .mixed

/-- An object under another name than that of its type. Its attributes were set against their order,
one of them empty and one under a prefix that stands for another namespace; its texts are adjacent.
-/
def report : TypedObject :=
  { (((reportType.buildNamed (.prefixed "urn:r" "Minutes" "r")).setAttribute
      (.prefixed "urn:o" "note" "r") "x").setAttribute (.unqualified "lang") "").setAttribute
      (.unqualified "id") "7" with
    nil := some ⟨false, true⟩
    children :=
      [.text "a", .text "b", .object (TypeDescriptor.ofName (.namespaced "urn:r" "Item")).build] }

theorem report_made : report.Made := by
  have hbuilt : (reportType.buildNamed (.prefixed "urn:r" "Minutes" "r")).Made :=
    .buildNamed (by decide) (by decide)
  have hset : TypedObject.Made { report with children := [] } :=
    (((hbuilt.set (.setting (by decide) "x")).set (.setting (by decide) "")).set
      (.setting (by decide) "7")).set (.nil _)
  refine hset.setChildren fun c hc => ?_
  have hitem : c = (TypeDescriptor.ofName (.namespaced "urn:r" "Item")).build := by
    simpa using hc
  exact hitem ▸ .build (by decide)

theorem report_imaged :
    ∃ e, report.marshal .standard .empty = .ok e ∧ (∀ o ∈ report.graph, o.Complete) ∧
      report.Alongside (fun _ _ o el => o.ImagedBy el) .empty 1 e := by
  obtain ⟨e, he⟩ := exists_eq_ok (x := report.marshal .standard .empty) (by decide)
  have hcheck : ∀ o ∈ report.graph, o.descriptor.check = .ok () :=
    List.forall_mem_cons.2 ⟨rfl, List.forall_mem_singleton.2 rfl⟩
  have hunknown : ∀ o ∈ report.graph, ∀ entry ∈ o.unknown.entries, entry.1.isInstance = false := by
    decide
  exact ⟨e, he, TypedObject.imagedBy_of_marshal report_made hcheck hunknown he⟩

/-- Whatever order they were set in, the attributes are written in the order of the type, and the
one that it does not have after them. -/
example : (report.marshal .standard .empty).toOption.map (fun e => e.listed) =
    some [(xsiTypeName.expanded, "r:Report"), (xsiNilName.expanded, "0"), (⟨none, "id"⟩, "7"),
      (⟨none, "lang"⟩, ""), (⟨some "urn:o", "note"⟩, "x")] := by
  decide

end XmlBinding
