import XmlBinding.Proofs.Made
import XmlBinding.Proofs.RoundTrip

/-!
The limits of writing and of reading. Both measure depth and children alike, but a writer counts the
attributes of the object and a reader those of the element. The element has more of them: one for
each field that is set, unless an attribute was set under its name. What a reader refuses for its
size is known exactly once these are counted, too.
-/

namespace XmlBinding

namespace ObjectHead

variable {head : ObjectHead} {declare : Bool} {typeText : Option String}

/-- The attributes that every element may have, and whether the object has a field for them set. -/
def fields (head : ObjectHead) : List (QName × Bool) :=
  [(xsiTypeName, head.schemaType.isSome), (xsiSchemaLocationName, head.schemaLocation.isSome),
    (xsiNoNamespaceLocationName, head.noNamespaceLocation.isSome), (xsiNilName, head.nil.isSome)]

/-- The attributes that are written besides those of the object. -/
def addedFields (head : ObjectHead) : List QName :=
  (head.fields.filter fun (name, isSet) => isSet && (head.attribute? name).isNone).map (·.1)

/-- The number of attributes that are written for an object. -/
def writtenSize (head : ObjectHead) : Nat :=
  head.attributes.size + head.unknown.size + head.addedFields.length

/-- No more than the four fields are added. -/
theorem writtenSize_le (head : ObjectHead) :
    head.writtenSize ≤ head.attributes.size + head.unknown.size + 4 := by
  have hadded : head.addedFields.length ≤ head.fields.length := by
    rw [addedFields, List.length_map]
    exact List.length_filter_le _ _
  exact Nat.add_le_add_left hadded _

theorem nodup_addedFields (head : ObjectHead) : (head.addedFields.map QName.expanded).Nodup := by
  have hfields : (head.fields.map fun f => f.1.expanded).Nodup := by
    show [xsiTypeName.expanded, xsiSchemaLocationName.expanded, xsiNoNamespaceLocationName.expanded,
      xsiNilName.expanded].Nodup
    decide
  rw [addedFields, List.map_map]
  exact hfields.sublist (List.filter_sublist.map _)

/-- A field that is set is written, whatever the text for the type is. -/
theorem exists_field_iff (h : typeText.isSome = head.schemaType.isSome) (k : ExpandedName) :
    (∃ f ∈ head.fields, f.2 = true ∧ f.1.expanded = k) ↔
      (Frame.valueIn k (head.instanceEntries typeText declare)).isSome = true := by
  have hsome {α : Type} (c : Prop) [Decidable c] (value : Option α) :
      (if c then value else none).isSome = true ↔ value.isSome = true ∧ c := by
    by_cases hc : c <;> simp [hc]
  simp only [instanceEntries, Frame.valueIn_append, Frame.valueIn_optional, Option.isSome_or,
    Bool.or_eq_true, hsome, Option.isSome_map, fields, ← h, List.mem_cons, List.not_mem_nil,
    or_false, exists_eq_or_imp, exists_eq_left]
  tauto

theorem mem_addedFields_iff (declare : Bool) (h : typeText.isSome = head.schemaType.isSome)
    (k : ExpandedName) :
    k ∈ head.addedFields.map QName.expanded ↔
      (head.attributes.get? k).or (head.unknown.get? k) = none ∧
        (Frame.valueIn k (head.instanceEntries typeText declare)).isSome = true := by
  rw [← exists_field_iff h, addedFields, List.map_map, List.mem_map]
  simp only [List.mem_filter, Bool.and_eq_true, Option.isNone_iff_eq_none, Function.comp]
  constructor
  · rintro ⟨f, ⟨hf, hset, hnone⟩, rfl⟩
    exact ⟨hnone, f, hf, hset, rfl⟩
  · rintro ⟨hnone, f, hf, hset, rfl⟩
    exact ⟨f, ⟨hf, hset, hnone⟩, rfl⟩

/-- The attributes of an object and the fields that are written besides them, by their names. -/
def writtenKeys (head : ObjectHead) : List ExpandedName :=
  (head.attributes.entries.map fun e => e.1.expanded) ++
    (head.unknown.entries.map fun e => e.1.expanded) ++ head.addedFields.map QName.expanded

theorem length_writtenKeys (head : ObjectHead) : head.writtenKeys.length = head.writtenSize := by
  simp only [writtenKeys, writtenSize, OrderedTable.size, List.length_append, List.length_map]

/-- No name is in both tables of an object, and no field is added under a name in one of them. -/
theorem Routed.nodup_writtenKeys (h : head.Routed) : head.writtenKeys.Nodup := by
  rw [writtenKeys, List.nodup_append, List.nodup_append]
  refine ⟨⟨head.attributes.distinct, head.unknown.distinct, ?_⟩, head.nodup_addedFields, ?_⟩
  · intro k hk k' hk' heq
    obtain ⟨e, he, rfl⟩ := List.mem_map.1 hk
    have hnone : head.unknown.get? e.1.expanded = none :=
      h.unknown_get?_eq_none (h.attributes e he)
    rw [← heq, OrderedTable.mem_keys_iff, hnone] at hk'
    cases hk'
  · intro k hk k' hk' heq
    subst heq
    have hsome : (head.schemaType.map QName.prefixedName).isSome = head.schemaType.isSome :=
      Option.isSome_map
    obtain ⟨hnone, -⟩ := (mem_addedFields_iff true hsome k).1 hk'
    rw [Option.or_eq_none_iff] at hnone
    rw [List.mem_append, OrderedTable.mem_keys_iff, OrderedTable.mem_keys_iff, hnone.1,
      hnone.2] at hk
    rcases hk with hk | hk <;> cases hk

/-- A tag that is written for an object has the attributes of these names. -/
theorem mem_writtenKeys_iff {text : Option String} {config : MarshalConfig} {scope : Scope}
    {f : Frame} (hhead : head.Regular) (h : head.writeTag text config scope = .ok f)
    (k : ExpandedName) : k ∈ head.writtenKeys ↔ (f.tag.attributes.get? k).isSome = true := by
  obtain ⟨-, -, -, f₀, typeText, f₁, hopen, htype, hwrite⟩ := writeTag_eq_ok.1 h
  obtain ⟨⟨type, hexpanded, rfl⟩, hgrows⟩ := Frame.typeText?_grows hhead.normal.schemaType htype
  have hsome : (type.map QName.prefixedName).isSome = head.schemaType.isSome := by
    have hnames := congrArg Option.isSome hexpanded
    rw [Option.isSome_map, Option.isSome_map] at hnames
    rw [Option.isSome_map, hnames]
  have hblank : f₁.tag.attributes = OrderedTable.empty :=
    ((bindsOnly_of_openTag hopen).trans hgrows.bindsOnly).attributes
  rw [Frame.get?_writeAll (hhead.normal.entries _) hwrite, hblank, OrderedTable.get?_empty,
    Option.or_none, hhead.routed.valueIn_entries, writtenKeys, List.mem_append, List.mem_append,
    OrderedTable.mem_keys_iff, OrderedTable.mem_keys_iff,
    mem_addedFields_iff config.declareInstance hsome]
  cases hattributes : head.attributes.get? k <;> cases hunknown : head.unknown.get? k <;> simp

/-- A tag that is written for an object has this many attributes. -/
theorem size_of_writeTag {text : Option String} {config : MarshalConfig} {scope : Scope}
    {f : Frame} (hhead : head.Regular) (h : head.writeTag text config scope = .ok f) :
    f.tag.attributes.size = head.writtenSize := by
  rw [← length_writtenKeys]
  exact OrderedTable.size_eq_length hhead.routed.nodup_writtenKeys (mem_writtenKeys_iff hhead h)

end ObjectHead

/-! ### Errors for the size of an element -/

/-- What is measured, of an element at a depth. -/
def Measure.found (depth attributes children : Nat) : Measure → Nat
  | .depth => depth
  | .attributes => attributes
  | .children => children

/-- An error for a measure that exceeds its limit. -/
def Limits.Refuses (limits : Limits) (found : Measure → Nat) (error : Error) : Prop :=
  ∃ measure, limits.maximum measure < found measure ∧
    error = .limitExceeded (.exceeded measure (found measure) (limits.maximum measure))

section Limits

variable {limits : Limits} {found : Measure → Nat} {error : Error}

theorem Limits.refuses_of_check (measure : Measure)
    (h : (limits.check measure (found measure)).mapError .limitExceeded = .error error) :
    limits.Refuses found error := by
  rw [Limits.check] at h
  split at h
  · cases h
  · next hexceeds =>
      cases h
      exact ⟨measure, Nat.lt_of_not_le hexceeds, rfl⟩

theorem refuses_of_checkLimits {depth attributes children : Nat}
    (h : checkLimits limits depth attributes children = .error error) :
    limits.Refuses (Measure.found depth attributes children) error := by
  rw [checkLimits] at h
  rcases bind_eq_error.1 h with hdepth | ⟨-, -, h⟩
  · exact Limits.refuses_of_check .depth hdepth
  · rcases bind_eq_error.1 h with hattributes | ⟨-, -, hchildren⟩
    · exact Limits.refuses_of_check .attributes hattributes
    · exact Limits.refuses_of_check .children hchildren

theorem Limits.Refuses.isRejected (h : limits.Refuses found error) : error.isRejected = true := by
  obtain ⟨measure, -, rfl⟩ := h
  rfl

/-- What is measured of an element within the limits exceeds none. -/
theorem Element.Within.found_le {depth : Nat} {e : Element}
    (h : e.Within limits depth) (measure : Measure) :
    measure.found depth e.attributes.size e.children.length ≤ limits.maximum measure := by
  cases measure with
  | depth => exact h.depth_le
  | attributes => exact h.attributes_le
  | children => exact h.children_le

end Limits

/-! ### Reading fails for its limits only where they are exceeded -/

section Reading

variable {α β : Type} {r : Registry} {config : UnmarshalConfig} {scope : Scope} {tag : Tag}

/-- A computation that fails on what an element says only, not on its size. -/
def RejectsOnly (x : Except Error α) : Prop :=
  ∀ error, x = .error error → ∃ fault, error = .unmarshalling fault

theorem rejectsOnly_ok (a : α) : RejectsOnly (.ok a) :=
  fun _ => nofun

theorem rejectsOnly_reject (tag : Tag) (cause : UnmarshalCause) (value : Option String) :
    RejectsOnly (.error (tag.reject cause value) : Except Error α) := by
  rintro _ ⟨⟩
  exact ⟨_, rfl⟩

theorem rejectsOnly_mapError {ε : Type} {x : Except ε α} {cause : ε → UnmarshalCause}
    {value : Option String} :
    RejectsOnly (x.mapError fun fault => tag.reject (cause fault) value) := by
  cases x with
  | ok a => exact rejectsOnly_ok a
  | error fault => exact rejectsOnly_reject tag _ value

theorem rejectsOnly_ite {b : Bool} {x y : Except Error α} (hx : RejectsOnly x)
    (hy : RejectsOnly y) : RejectsOnly (if b then x else y) := by
  cases b with
  | true => exact hx
  | false => exact hy

theorem RejectsOnly.bind {x : Except Error α} {f : α → Except Error β} (h : RejectsOnly x)
    (hf : ∀ a, RejectsOnly (f a)) : RejectsOnly (x >>= f) := by
  intro error herror
  rcases bind_eq_error.1 herror with hx | ⟨a, -, ha⟩
  · exact h error hx
  · exact hf a error ha

theorem rejectsOnly_foldlM {f : β → α → Except Error β} (step : ∀ b a, RejectsOnly (f b a))
    (as : List α) (b : β) : RejectsOnly (as.foldlM f b) := by
  induction as generalizing b with
  | nil => exact rejectsOnly_ok b
  | cons a as ih =>
      rw [List.foldlM_cons]
      exact (step b a).bind fun b' => ih b'

theorem rejectsOnly_readAttribute (head : ObjectHead) (entry : QName × String) :
    RejectsOnly (ObjectHead.readAttribute tag scope head entry) := by
  obtain ⟨name, value⟩ := entry
  rw [ObjectHead.readAttribute]
  refine rejectsOnly_ite (rejectsOnly_ok _) (rejectsOnly_ite ?_
    (rejectsOnly_ite (rejectsOnly_ok _) (rejectsOnly_ite (rejectsOnly_ok _) ?_)))
  · cases readTruth value with
    | ok nil => exact rejectsOnly_ok _
    | error fault => exact rejectsOnly_reject tag _ _
  · refine RejectsOnly.bind ?_ fun _ => rejectsOnly_ok _
    rw [TypeDescriptor.checkValue]
    cases head.descriptor.spec? name with
    | none => exact rejectsOnly_ok _
    | some spec => exact rejectsOnly_mapError

theorem rejectsOnly_schemaType? : RejectsOnly (tag.schemaType? scope) := by
  rw [Tag.schemaType?]
  split
  · exact rejectsOnly_ok _
  · split
    · exact rejectsOnly_ok _
    · exact rejectsOnly_reject tag _ _

theorem rejectsOnly_readHead : RejectsOnly (tag.readHead r config scope) := by
  rw [Tag.readHead]
  refine rejectsOnly_schemaType?.bind fun schemaType => ?_
  cases r.select? config tag.name schemaType with
  | none => exact rejectsOnly_reject tag _ _
  | some d => exact rejectsOnly_foldlM rejectsOnly_readAttribute _ _

theorem rejectsOnly_checkContent (o : TypedObject) : RejectsOnly (o.checkContent tag scope) := by
  rw [TypedObject.checkContent]
  split
  · exact rejectsOnly_mapError
  · exact rejectsOnly_ok _

/-- A child that cannot be read is an element that cannot be. -/
theorem Node.unmarshalAll_eq_error {content : ContentModel} {depth : Nat} {nodes : List Node}
    {error : Error} (h : Node.unmarshalAll r config scope depth content nodes = .error error) :
    ∃ e, .element e ∈ nodes ∧ e.unmarshalAt r config scope depth = .error error := by
  induction nodes with
  | nil => cases h
  | cons n ns ih =>
      rw [Node.unmarshalAll] at h
      rcases bind_eq_error.1 h with hn | ⟨child, -, hrest⟩
      · cases n with
        | text value => cases hn
        | element e =>
            rw [Node.unmarshal, map_eq_error] at hn
            exact ⟨e, List.mem_cons_self, hn⟩
      · rcases bind_eq_error.1 hrest with hns | ⟨children, -, hpure⟩
        · obtain ⟨e, he, herror⟩ := ih hns
          exact ⟨e, List.mem_cons_of_mem n he, herror⟩
        · cases hpure

/-- An element is refused for what one in it says, or for the size of one in it. -/
theorem Element.unmarshalAt_eq_error {depth : Nat} {e : Element} {error : Error}
    (h : e.unmarshalAt r config scope depth = .error error) :
    (∃ fault, error = .unmarshalling fault) ∨
      ∃ depth' el, Inside Element.Below depth e depth' el ∧
        config.limits.Refuses (Measure.found depth' el.attributes.size el.children.length)
          error := by
  induction e generalizing scope depth with
  | mk tag nodes ih =>
      rw [unmarshalAt] at h
      rcases bind_eq_error.1 h with hlimits | ⟨-, -, h⟩
      · exact .inr ⟨depth, ⟨tag, nodes⟩, .self _ _, refuses_of_checkLimits hlimits⟩
      rcases bind_eq_error.1 h with hhead | ⟨head, -, h⟩
      · exact .inl (rejectsOnly_readHead _ hhead)
      rcases bind_eq_error.1 h with hchildren | ⟨children, -, h⟩
      · obtain ⟨child, hchild, hunread⟩ := Node.unmarshalAll_eq_error hchildren
        refine (ih child hchild hunread).imp_right ?_
        rintro ⟨depth', el, hinside, hrefuses⟩
        exact ⟨depth', el, .under hchild hinside, hrefuses⟩
      rcases bind_eq_error.1 h with hcontent | ⟨-, -, hpure⟩
      · exact .inl (rejectsOnly_checkContent _ _ hcontent)
      · cases hpure

/-- Where all elements are within the limits, none is refused for its size. -/
theorem Element.rejectsOnly_of_within {depth : Nat} {e : Element}
    (h : e.Everywhere (fun _ depth el => el.Within config.limits depth) scope depth) :
    RejectsOnly (e.unmarshalAt r config scope depth) := by
  intro error herror
  rcases unmarshalAt_eq_error herror with hfault | ⟨depth', el, hinside, hrefuses⟩
  · exact hfault
  · obtain ⟨-, hwithin⟩ := h.of_inside hinside
    obtain ⟨measure, hexceeds, -⟩ := hrefuses
    exact absurd hexceeds (Nat.not_lt.2 (hwithin.found_le measure))

end Reading

/-! ### Both sides of the limits -/

/-- An element within the limits of a writer: as deep and with as many children as allowed. Its
attributes are those that are written for the object. -/
structure TypedObject.Measured (limits : Limits) (depth : Nat) (o : TypedObject) (e : Element) :
    Prop where
  depth_le : depth ≤ limits.maxDepth
  children_le : e.children.length ≤ limits.maxChildren
  checked : o.attributes.size + o.unknown.size ≤ limits.maxAttributes
  size_eq : e.attributes.size = o.writtenSize

theorem TypedObject.measured_of_marshalAt {x : TypedObject} {config : MarshalConfig}
    {scope start : Scope} {depth : Nat} {e : Element} (hx : ∀ o ∈ x.graph, o.Regular)
    (h : x.marshalAt config scope depth = .ok e) :
    x.Alongside (fun _ => Measured config.limits) start depth e := by
  induction x generalizing scope start depth e with
  | mk head children ih =>
      obtain ⟨⟨hdepth, hchecked, hlength⟩, f, nodes, htag, hchildren, rfl⟩ := marshalAt_eq_ok.1 h
      rw [Child.marshalAll_eq_ok] at hchildren
      rw [forall_mem_graph] at hx
      rw [alongside_mk]
      refine ⟨⟨hdepth, ?_, hchecked, ObjectHead.size_of_writeTag hx.1 htag⟩, ?_⟩
      · exact hchildren.length_eq.trans_le hlength
      · exact Node.forall₂_matches_imp hchildren fun e o _ ho hbelow =>
          ih o ho (hx.2 o ho) hbelow

/-- The elements are within the limits exactly if the sizes of their objects are. -/
theorem TypedObject.within_iff_of_measured {x : TypedObject} {limits : Limits} {scope : Scope}
    {depth : Nat} {e : Element} (h : x.Alongside (fun _ => Measured limits) scope depth e) :
    e.Everywhere (fun _ depth el => el.Within limits depth) scope depth ↔
      ∀ o ∈ x.graph, o.writtenSize ≤ limits.maxAttributes := by
  refine h.everywhere_iff fun _ _ o el _ hel => ⟨fun hwithin => ?_, fun hsize => ?_⟩
  · exact hel.size_eq ▸ hwithin.attributes_le
  · exact ⟨hel.depth_le, hel.size_eq.trans_le hsize, hel.children_le⟩

/-- What is written within limits is as deep as they allow, and has no more children; an element has
the attributes that are written for its object, at most four more than allowed. So the tree is
within the limits exactly if all these are counted and fit. It is then never refused for its size,
and otherwise never read. -/
theorem TypedObject.limits_of_marshal {x : TypedObject} {config : MarshalConfig}
    {scope surroundings : Scope} {e : Element} {r : Registry} {reader : UnmarshalConfig}
    (hx : x.Made) (hlimits : reader.limits = config.limits)
    (h : x.marshal config scope = .ok e) :
    x.Alongside (fun _ depth o el =>
        depth ≤ config.limits.maxDepth ∧ el.children.length ≤ config.limits.maxChildren ∧
          el.attributes.size = o.writtenSize ∧
            el.attributes.size ≤ config.limits.maxAttributes + 4) surroundings 1 e ∧
      (e.Everywhere (fun _ depth el => el.Within config.limits depth) surroundings 1 ↔
        ∀ o ∈ x.graph, o.writtenSize ≤ config.limits.maxAttributes) ∧
      ((∀ o ∈ x.graph, o.writtenSize ≤ config.limits.maxAttributes) →
        ∀ fault, e.unmarshal r reader surroundings ≠ .error (.limitExceeded fault)) ∧
      ((∃ o ∈ x.graph, config.limits.maxAttributes < o.writtenSize) →
        ∃ error, e.unmarshal r reader surroundings = .error error) := by
  have hmade : ∀ o ∈ x.graph, o.Regular := hx.regular
  have hmeasured : x.Alongside (fun _ => Measured config.limits) surroundings 1 e :=
    measured_of_marshalAt hmade h
  have hwithin := within_iff_of_measured hmeasured
  refine ⟨?_, hwithin, fun hsizes fault herror => ?_, ?_⟩
  · refine hmeasured.imp fun _ _ o el _ hel => ⟨hel.depth_le, hel.children_le, hel.size_eq, ?_⟩
    rw [hel.size_eq]
    exact o.writtenSize_le.trans (Nat.add_le_add_right hel.checked 4)
  · have hrejects := Element.rejectsOnly_of_within (r := r) (hlimits ▸ hwithin.2 hsizes)
    obtain ⟨fault', heq⟩ := hrejects _ herror
    cases heq
  · rintro ⟨o, ho, hexceeds⟩
    cases hread : e.unmarshal r reader surroundings with
    | error error => exact ⟨error, rfl⟩
    | ok y =>
        have hfits :
            e.Everywhere (fun _ depth el => el.Within config.limits depth) surroundings 1 :=
          (Element.sound_of_unmarshalAt hread).1.imp fun _ _ _ hel =>
            hlimits ▸ ⟨hel.depth_le, hel.attributes_le, hel.children_le⟩
        exact absurd (hwithin.1 hfits o ho) (Nat.not_le.2 hexceeds)

/-- An object of which only the field is set that says that it is nil. -/
def nilled : TypedObject :=
  { (TypeDescriptor.ofName (.prefixed "urn:n" "Thing" "t")).build with nil := some (.word true) }

theorem nilled_made : nilled.Made :=
  (TypedObject.Made.build (by decide)).set (.nil (some (.word true)))

/-- The standard limits, but for a number of attributes. -/
def Limits.withAttributes (maxAttributes : Nat) : Limits :=
  { Limits.standard with maxAttributes }

/-- Where no attribute is allowed, the object is written with one all the same, and any reader with
the same limits refuses what was written for its size. -/
theorem nilled_refused :
    nilled.Made ∧ ∃ e, nilled.marshal ⟨.withAttributes 0, true⟩ .empty = .ok e ∧
      ¬e.Everywhere (fun _ depth el => el.Within (.withAttributes 0) depth) .empty 1 ∧
      ∀ r keepUnknown ignoreBlank,
        e.unmarshal r ⟨.withAttributes 0, keepUnknown, ignoreBlank⟩ .empty =
          .error (.limitExceeded (.exceeded .attributes 1 0)) := by
  obtain ⟨e, he⟩ :=
    exists_eq_ok (x := nilled.marshal ⟨.withAttributes 0, true⟩ .empty) (by decide)
  have hsize : (nilled.marshal ⟨.withAttributes 0, true⟩ .empty).toOption.map
      (fun e => e.attributes.size) = some 1 := by
    decide
  rw [he] at hsize
  have hsize : e.attributes.size = 1 := Option.some.inj hsize
  obtain ⟨tag, nodes⟩ := e
  refine ⟨nilled_made, _, he, fun h => ?_, fun r keepUnknown ignoreBlank => ?_⟩
  · have hwithin := (Element.everywhere_mk.1 h).1.attributes_le
    rw [hsize] at hwithin
    exact absurd hwithin (by decide)
  · rw [Element.unmarshal, Element.unmarshalAt, hsize]
    rfl

/-- An object with an attribute of its own and a schema location, below one that is nil. -/
def nested : TypedObject :=
  { ((TypeDescriptor.ofName (.namespaced "urn:n" "List")).withContent .mixed).build with
    nil := some (.word true)
    children :=
      [.object { (TypeDescriptor.ofName (.namespaced "urn:n" "Item")).build.setAttribute
        (.unqualified "id") "7" with schemaLocation := some "urn:n n.xsd" }] }

theorem nested_made : nested.Made := by
  have hbuilt :
      ((TypeDescriptor.ofName (.namespaced "urn:n" "List")).withContent .mixed).build.Made :=
    .build (by decide)
  have hset : TypedObject.Made { nested with children := [] } :=
    hbuilt.set (.nil (some (.word true)))
  refine hset.setChildren fun c hc => ?_
  obtain rfl : c = _ := by simpa using hc
  have hitem : (TypeDescriptor.ofName (.namespaced "urn:n" "Item")).build.Made := .build (by decide)
  exact (hitem.set (.setting (by decide) "7")).set (.schemaLocation (some "urn:n n.xsd"))

theorem nested_within :
    (∀ o ∈ nested.graph, o.writtenSize ≤ 2) ∧
      ∃ e, nested.marshal ⟨⟨2, 2, 1⟩, true⟩ .empty = .ok e ∧
        ∀ r fault,
          e.unmarshal r ⟨⟨2, 2, 1⟩, true, true⟩ .empty ≠ .error (.limitExceeded fault) := by
  have hsizes : ∀ o ∈ nested.graph, o.writtenSize ≤ 2 := by
    decide
  obtain ⟨e, he⟩ := exists_eq_ok (x := nested.marshal ⟨⟨2, 2, 1⟩, true⟩ .empty) (by decide)
  refine ⟨hsizes, e, he, fun r => ?_⟩
  exact (TypedObject.limits_of_marshal nested_made rfl he).2.2.1 hsizes

end XmlBinding
