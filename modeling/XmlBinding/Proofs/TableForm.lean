import XmlBinding.Proofs.JsonText
import XmlBinding.Proofs.Loading
import XmlBinding.Proofs.Name

/-!
Tables of descriptors as JSON texts. A descriptor is written as a record of all its fields, and read
from a record that may leave some out, or from an array; names are checked as they are read. Main
statement: the tables that can be read are those of checked descriptors with checked names, and each
of them is what is read from its own text.
-/

namespace XmlBinding

/-- A descriptor all names of which can be read. -/
structure TypeDescriptor.Named (d : TypeDescriptor) : Prop where
  name : d.name.Proper
  typeName : ∀ typeName, d.typeName = some typeName → typeName.Proper
  attributes : ∀ spec ∈ d.attributes, spec.name.Proper

/-- A descriptor that can stand in a table. -/
structure TypeDescriptor.Sound (d : TypeDescriptor) : Prop extends d.Named where
  checked : d.check = .ok ()

namespace Table

variable {α : Type} {decode : Json → Decoded α}

/-! ### What is written can be read -/

theorem qName_toJson {q : QName} (h : q.Proper) : qName q.toJson = .ok q := by
  have hfields : qName q.toJson = checkedName q.uri q.localName q.nsPrefix := by
    obtain ⟨⟨uri, localName⟩, nsPrefix⟩ := q
    cases uri <;> cases nsPrefix <;> rfl
  rw [hfields, checkedName, mapError_eq_ok]
  exact h

theorem valueKind_tableName (kind : ValueKind) : valueKind (.text kind.tableName) = .ok kind := by
  cases kind <;> rfl

theorem contentModel_toJson (content : ContentModel) :
    contentModel content.toJson = .ok content := by
  cases content with
  | simple kind => cases kind <;> rfl
  | _ => rfl

theorem attributeSpec_toJson {spec : AttributeSpec} (h : spec.name.Proper) :
    attributeSpec spec.toJson = .ok spec := by
  simp only [attributeSpec, AttributeSpec.toJson, Json.record, List.map_cons, List.map_nil,
    List.foldlM_cons, List.foldlM_nil, SpecFields.add, fill, qName_toJson h, valueKind_tableName,
    bool]
  rfl

/-- A list is read item by item. -/
theorem list_map {encode : α → Json} {as : List α} (h : ∀ a ∈ as, decode (encode a) = .ok a) :
    list decode (.array (as.map encode)) = .ok as := by
  rw [list]
  induction as with
  | nil => rfl
  | cons a as ih =>
      rw [List.forall_mem_cons] at h
      rw [List.map_cons, List.mapM_cons, h.1, ih h.2]
      rfl

theorem nullable_qName {name : Option QName} (h : ∀ q, name = some q → q.Proper) :
    nullable qName ((name.map QName.toJson).getD .null) = .ok name := by
  cases name with
  | none => rfl
  | some q => exact map_eq_ok.2 ⟨q, qName_toJson (h q rfl), rfl⟩

theorem typeDescriptor_toJson {d : TypeDescriptor} (h : d.Named) :
    typeDescriptor d.toJson = .ok d := by
  have hattributes : list attributeSpec (.array (d.attributes.map AttributeSpec.toJson)) =
      .ok d.attributes :=
    list_map fun spec hspec => attributeSpec_toJson (h.attributes spec hspec)
  simp only [typeDescriptor, TypeDescriptor.toJson, Json.record, List.map_cons, List.map_nil,
    List.foldlM_cons, List.foldlM_nil, TypeFields.add, fill, qName_toJson h.name,
    nullable_qName h.typeName, hattributes, contentModel_toJson]
  rfl

/-! ### What is read has been checked -/

/-- Everything that a decoder accepts has a property. -/
def Yields (decode : Json → Decoded α) (P : α → Prop) : Prop :=
  ∀ value a, decode value = .ok a → P a

variable {P : α → Prop}

theorem Yields.nullable (h : Yields decode P) :
    Yields (nullable decode) fun field => ∀ a, field = some a → P a := by
  intro value field hvalue a hfield
  unfold Table.nullable at hvalue
  split at hvalue
  · cases hvalue
    cases hfield
  · obtain ⟨a', ha', rfl⟩ := map_eq_ok.1 hvalue
    cases hfield
    exact h _ _ ha'

theorem Yields.list (h : Yields decode P) : Yields (list decode) fun as => ∀ a ∈ as, P a := by
  intro value as hvalue
  unfold Table.list at hvalue
  split at hvalue
  · next items =>
      induction items generalizing as with
      | nil =>
          cases hvalue
          exact List.forall_mem_nil _
      | cons item items ih =>
          simp only [List.mapM_cons, bind_eq_ok, pure_eq_ok] at hvalue
          obtain ⟨a, ha, as', has', rfl⟩ := hvalue
          exact List.forall_mem_cons.2 ⟨h _ _ ha, ih _ has'⟩
  · cases hvalue

/-- A field is filled with what was decoded. -/
theorem Yields.fill (h : Yields decode P) {field field' : Option α} {value : Json}
    (hfill : fill field decode value = .ok field') : ∀ a, field' = some a → P a := by
  rw [Table.fill] at hfill
  split at hfill
  · cases hfill
  · obtain ⟨a', ha', rfl⟩ := map_eq_ok.1 hfill
    rintro a ⟨⟩
    exact h _ _ ha'

theorem Yields.item (h : Yields decode P) {items rest : List Json} {a : α}
    (hitem : item decode items = .ok (a, rest)) : P a := by
  cases items with
  | nil => cases hitem
  | cons value items =>
      obtain ⟨a', ha', hpure⟩ := bind_eq_ok.1 hitem
      cases hpure
      exact h _ _ ha'

theorem Yields.itemOr (h : Yields decode P) {default : α} (hdefault : P default)
    {items rest : List Json} {a : α} (hitem : itemOr default decode items = .ok (a, rest)) :
    P a := by
  unfold Table.itemOr at hitem
  split at hitem
  · cases hitem
    exact hdefault
  · exact h.item hitem

theorem proper_of_checkedName {uri nsPrefix : Option String} {localName : String} {q : QName}
    (h : checkedName uri localName nsPrefix = .ok q) : q.Proper := by
  rw [checkedName, mapError_eq_ok, QName.of?_eq_ok] at h
  obtain ⟨rfl, hcheck⟩ := h
  exact QName.proper_iff.2 ⟨QName.normal_of _ _ _, QName.check_eq_ok.1 hcheck⟩

theorem yields_qName : Yields qName QName.Proper := by
  intro value q h
  unfold qName at h
  split at h
  · obtain ⟨f, -, h⟩ := bind_eq_ok.1 h
    split at h
    · exact proper_of_checkedName h
    · cases h
  · obtain ⟨⟨uri, items₁⟩, -, h⟩ := bind_eq_ok.1 h
    obtain ⟨⟨localName, items₂⟩, -, h⟩ := bind_eq_ok.1 h
    obtain ⟨⟨nsPrefix, items₃⟩, -, h⟩ := bind_eq_ok.1 h
    obtain ⟨-, -, h⟩ := bind_eq_ok.1 h
    exact proper_of_checkedName h
  · cases h

theorem SpecFields.name_add {f f' : SpecFields} {member : Option String × Json}
    (hf : ∀ q, f.name = some q → q.Proper) (h : f.add member = .ok f') :
    ∀ q, f'.name = some q → q.Proper := by
  unfold SpecFields.add at h
  split at h
  · obtain ⟨field, hfield, hpure⟩ := bind_eq_ok.1 h
    cases hpure
    exact yields_qName.fill hfield
  · obtain ⟨_, -, hpure⟩ := bind_eq_ok.1 h
    cases hpure
    exact hf
  · obtain ⟨_, -, hpure⟩ := bind_eq_ok.1 h
    cases hpure
    exact hf
  · obtain ⟨_, -, hpure⟩ := bind_eq_ok.1 h
    cases hpure
    exact hf
  · cases h

theorem yields_attributeSpec : Yields attributeSpec fun spec => spec.name.Proper := by
  intro value spec h
  unfold attributeSpec at h
  split at h
  · obtain ⟨f, hfields, h⟩ := bind_eq_ok.1 h
    have hname : ∀ q, f.name = some q → q.Proper :=
      foldlM_invariant (motive := fun f => ∀ q, f.name = some q → q.Proper)
        (fun _ _ _ _ hf hadd => SpecFields.name_add hf hadd) nofun hfields
    split at h
    · next name hfound =>
        cases h
        exact hname name hfound
    · cases h
  · obtain ⟨⟨name, items₁⟩, hname, h⟩ := bind_eq_ok.1 h
    obtain ⟨⟨kind, items₂⟩, -, h⟩ := bind_eq_ok.1 h
    obtain ⟨⟨required, items₃⟩, -, h⟩ := bind_eq_ok.1 h
    obtain ⟨-, -, h⟩ := bind_eq_ok.1 h
    cases h
    exact yields_qName.item hname
  · cases h

/-- Fields in which all names have been checked. -/
structure TypeFields.Named (f : TypeFields) : Prop where
  name : ∀ q, f.name = some q → q.Proper
  typeName : ∀ field, f.typeName = some field → ∀ q, field = some q → q.Proper
  attributes : ∀ specs, f.attributes = some specs → ∀ spec ∈ specs, spec.name.Proper

theorem TypeFields.named_none : Named ⟨none, none, none, none⟩ :=
  ⟨nofun, nofun, nofun⟩

theorem TypeFields.Named.add {f f' : TypeFields} {member : Option String × Json} (hf : f.Named)
    (h : f.add member = .ok f') : f'.Named := by
  unfold TypeFields.add at h
  split at h
  · obtain ⟨field, hfield, hpure⟩ := bind_eq_ok.1 h
    cases hpure
    exact { hf with name := yields_qName.fill hfield }
  · obtain ⟨field, hfield, hpure⟩ := bind_eq_ok.1 h
    cases hpure
    exact { hf with typeName := yields_qName.nullable.fill hfield }
  · obtain ⟨field, hfield, hpure⟩ := bind_eq_ok.1 h
    cases hpure
    exact { hf with attributes := yields_attributeSpec.list.fill hfield }
  · obtain ⟨_, -, hpure⟩ := bind_eq_ok.1 h
    cases hpure
    exact { hf with }
  · obtain ⟨_, -, hpure⟩ := bind_eq_ok.1 h
    cases hpure
    exact hf
  · cases h

theorem yields_typeDescriptor : Yields typeDescriptor TypeDescriptor.Named := by
  intro value d h
  unfold typeDescriptor at h
  split at h
  · obtain ⟨f, hfields, h⟩ := bind_eq_ok.1 h
    have hf : f.Named :=
      foldlM_invariant (motive := TypeFields.Named)
        (fun _ _ _ _ hf hadd => TypeFields.Named.add hf hadd) TypeFields.named_none hfields
    split at h
    · next name hname =>
        cases h
        refine ⟨hf.name name hname, fun typeName htypeName => ?_, ?_⟩
        · exact hf.typeName _ (Option.join_eq_some_iff.1 htypeName) typeName rfl
        · cases hattributes : f.attributes with
          | none => exact List.forall_mem_nil _
          | some specs => exact hf.attributes specs hattributes
    · cases h
  · obtain ⟨⟨name, items₁⟩, hname, h⟩ := bind_eq_ok.1 h
    obtain ⟨⟨typeName, items₂⟩, htypeName, h⟩ := bind_eq_ok.1 h
    obtain ⟨⟨attributes, items₃⟩, hattributes, h⟩ := bind_eq_ok.1 h
    obtain ⟨⟨content, items₄⟩, -, h⟩ := bind_eq_ok.1 h
    obtain ⟨-, -, h⟩ := bind_eq_ok.1 h
    cases h
    have hnone : ∀ q : QName, none = some q → q.Proper := nofun
    exact ⟨yields_qName.item hname, yields_qName.nullable.itemOr hnone htypeName,
      yields_attributeSpec.list.itemOr (List.forall_mem_nil _) hattributes⟩
  · cases h

end Table

/-! ### The text of a table -/

theorem Json.writable_textOrNull (value : Option String) : (Json.textOrNull value).Writable := by
  cases value with
  | none => exact .null
  | some value => exact .text value

theorem QName.writable_toJson (q : QName) : q.toJson.Writable := by
  refine .record ?_
  simp only [List.forall_mem_cons]
  exact ⟨Json.writable_textOrNull _, .text _, Json.writable_textOrNull _, List.forall_mem_nil _⟩

theorem ContentModel.writable_toJson (content : ContentModel) : content.toJson.Writable := by
  cases content with
  | simple kind => exact .record (List.forall_mem_singleton.2 (.text _))
  | _ => exact .text _

theorem AttributeSpec.writable_toJson (spec : AttributeSpec) : spec.toJson.Writable := by
  refine .record ?_
  simp only [List.forall_mem_cons]
  exact ⟨spec.name.writable_toJson, .text _, .bool _, List.forall_mem_nil _⟩

namespace TypeDescriptor

theorem writable_toJson (d : TypeDescriptor) : d.toJson.Writable := by
  have htypeName : ((d.typeName.map QName.toJson).getD .null).Writable := by
    cases d.typeName with
    | none => exact .null
    | some typeName => exact typeName.writable_toJson
  refine .record ?_
  simp only [List.forall_mem_cons]
  refine ⟨d.name.writable_toJson, htypeName, .array ?_, d.content.writable_toJson,
    List.forall_mem_nil _⟩
  exact List.forall_mem_map.2 fun spec _ => spec.writable_toJson

theorem writable_tableToJson (ds : List TypeDescriptor) : (tableToJson ds).Writable :=
  .array (List.forall_mem_map.2 fun d _ => d.writable_toJson)

/-- What is read is sound. -/
theorem sound_of_readTable {text : String} {ds : List TypeDescriptor}
    (h : readTable text = .ok ds) : ∀ d ∈ ds, d.Sound := by
  obtain ⟨table, -, hread, hchecked⟩ := readTable_eq_ok.1 h
  have hnamed := Table.yields_typeDescriptor.list table ds hread
  exact fun d hd => ⟨hnamed d hd, hchecked d hd⟩

/-- A text of a table with sound descriptors is read as these, however it is laid out. -/
theorem readTable_of_parse {text : String} {ds : List TypeDescriptor}
    (htext : Json.parse text = (tableToJson ds, true)) (hds : ∀ d ∈ ds, d.Sound) :
    readTable text = .ok ds := by
  have hread : Table.list Table.typeDescriptor (tableToJson ds) = .ok ds :=
    Table.list_map fun d hd => Table.typeDescriptor_toJson (hds d hd).toNamed
  exact readTable_eq_ok.2 ⟨_, htext, hread, fun d hd => (hds d hd).checked⟩

/-- A table is read back, from its own text and from any other of the same value, exactly if its
descriptors are checked and their names are names. Every table that is read is such a one, so it is
read again from its own text. -/
theorem readTable_exactly (ds : List TypeDescriptor) :
    (readTable (tableToJson ds).write = .ok ds ↔ ∀ d ∈ ds, d.Sound) ∧
    (∀ text, Json.parse text = (tableToJson ds, true) →
      (readTable text = .ok ds ↔ ∀ d ∈ ds, d.Sound)) ∧
    ∀ text, readTable text = .ok ds →
      (∀ d ∈ ds, d.Sound) ∧ readTable (tableToJson ds).write = .ok ds := by
  have hwritten : Json.parse (tableToJson ds).write = (tableToJson ds, true) :=
    (writable_tableToJson ds).parse_write
  refine ⟨⟨sound_of_readTable, readTable_of_parse hwritten⟩,
    fun text htext => ⟨sound_of_readTable, readTable_of_parse htext⟩, fun text hread => ?_⟩
  have hsound := sound_of_readTable hread
  exact ⟨hsound, readTable_of_parse hwritten hsound⟩

end TypeDescriptor

end XmlBinding
