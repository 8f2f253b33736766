import XmlBinding.Proofs.Registrations
import XmlBinding.Proofs.Writing

/-!
Registries that are only ever added to, and the objects that are built from them. A descriptor that
is found under one key is found under its own name and its type name as well; an object keeps the
way back to its descriptor, through the type it carries or through its name, whatever is set on it
later.
-/

namespace XmlBinding

/-! ### Registries that are only added to -/

/-- A registry that was filled with checked descriptors, each under its own names. -/
inductive Registry.Filled : Registry → Prop where
  | empty : Filled .empty
  | withFallback : Filled .withFallback
  | register {r r' : Registry} {d : TypeDescriptor} (filled : Filled r)
      (added : r.registerType d = (r', .ok ())) : Filled r'

namespace Registry

variable {r r' : Registry} {d : TypeDescriptor} {key : QName}

theorem lookup_foldl_set {keys : List QName} {types : NameTable TypeDescriptor}
    {fallback : Option TypeDescriptor} :
    Registry.lookup ⟨keys.foldl (fun types key => types.set key d) types, fallback⟩ key =
      if key.expanded ∈ keys.map QName.expanded then some d
      else Registry.lookup ⟨types, fallback⟩ key := by
  induction keys generalizing types with
  | nil => rfl
  | cons k ks ih =>
      rw [List.foldl_cons, ih, List.map_cons]
      simp only [List.mem_cons, lookup, OrderedTable.get?_set]
      by_cases hrest : key.expanded ∈ ks.map QName.expanded
      · rw [if_pos hrest, if_pos (.inr hrest)]
      · rw [if_neg hrest]
        by_cases hkey : k.expanded = key.expanded
        · rw [if_pos hkey, if_pos (.inl hkey.symm)]
        · rw [if_neg hkey, if_neg]
          rintro (h | h)
          · exact hkey h.symm
          · exact hrest h

/-- What registering a type does: the descriptor is checked, its names are free, and afterwards it
is found under them and everything else where it was. -/
theorem registerType_eq_ok (h : r.registerType d = (r', .ok ())) :
    d.check = .ok () ∧ r'.fallback = r.fallback ∧
      (∀ key ∈ keysOf d, r.lookup key = none) ∧
      ∀ key, r'.lookup key =
        if key.expanded ∈ (keysOf d).map QName.expanded then some d else r.lookup key := by
  obtain ⟨hcheck, hfree, rfl⟩ := registerType_eq_ok_iff.1 h
  exact ⟨hcheck, rfl, fun key hkey => not_taken_iff.1 (hfree key hkey),
    fun key => lookup_foldl_set⟩

/-- The keys of a descriptor are its name and its type name. -/
theorem name_mem_keysOf (d : TypeDescriptor) : d.name.expanded ∈ (keysOf d).map QName.expanded := by
  rw [keysOf]
  split
  · split <;> simp
  · simp

theorem xsiType_mem_keysOf (d : TypeDescriptor) :
    d.xsiType.expanded ∈ (keysOf d).map QName.expanded := by
  rw [keysOf, TypeDescriptor.xsiType]
  split
  · next typeName htype =>
      rw [htype, Option.getD_some]
      split
      · next hsame => simp [QName.same_iff.1 hsame]
      · simp
  · next htype => simp [htype]

/-- What is registered stays where it is. -/
theorem lookup_of_registerType {d' : TypeDescriptor} (h : r.registerType d = (r', .ok ()))
    (hfound : r.lookup key = some d') : r'.lookup key = some d' := by
  obtain ⟨-, -, hfree, hlookup⟩ := registerType_eq_ok h
  rw [hlookup, if_neg, hfound]
  intro hmem
  obtain ⟨k, hk, hexpanded⟩ := List.mem_map.1 hmem
  have hnone := hfree k hk
  rw [lookup, hexpanded] at hnone
  cases hfound.symm.trans hnone

/-- A descriptor that is found has passed its check, and is found under its own names. -/
structure Holds (r : Registry) (d : TypeDescriptor) : Prop where
  check : d.check = .ok ()
  name : r.lookup d.name = some d
  xsiType : r.lookup d.xsiType = some d

theorem Filled.holds (hr : r.Filled) (hfound : r.lookup key = some d) : r.Holds d := by
  induction hr generalizing key d with
  | empty => cases hfound
  | withFallback => cases hfound
  | @register r r' d' _ added ih =>
      obtain ⟨hcheck, -, -, hlookup⟩ := registerType_eq_ok added
      -- What is found is the new type, under any of its keys, or was there before.
      rw [hlookup] at hfound
      split at hfound
      · cases hfound
        refine ⟨hcheck, ?_, ?_⟩
        · rw [hlookup, if_pos (name_mem_keysOf d')]
        · rw [hlookup, if_pos (xsiType_mem_keysOf d')]
      · have hd := ih hfound
        exact ⟨hd.check, lookup_of_registerType added hd.name,
          lookup_of_registerType added hd.xsiType⟩

theorem Filled.fallback_eq (hr : r.Filled) (hfound : r.fallback = some d) :
    d = .wildcard := by
  induction hr with
  | empty => cases hfound
  | withFallback => exact (Option.some.inj hfound).symm
  | register _ added ih => exact ih ((registerType_eq_ok added).2.1 ▸ hfound)

end Registry

/-- Whether a name is one that every element may have as an attribute depends on its expanded form.
-/
theorem QName.uri_of_isInstance {name : QName} (h : name.isInstance = true) :
    name.uri = some instanceUri := by
  obtain ⟨other, hmem, hsame⟩ := List.any_eq_true.1 h
  have huri : ∀ other ∈ instanceNames, other.uri = some instanceUri := by decide
  rw [QName.uri, QName.same_iff.1 hsame]
  exact huri other hmem

namespace TypeDescriptor

/-- The check asks for attributes of different names, none of which every element may have. -/
theorem checkAttributes_eq_ok {owner : QName} {seen : List ExpandedName}
    {specs : List AttributeSpec} :
    checkAttributes owner seen specs = .ok () ↔
      (specs.map fun spec => spec.name.expanded).Nodup ∧
        ∀ spec ∈ specs, spec.name.expanded ∉ seen ∧ spec.name.uri ≠ some instanceUri := by
  induction specs generalizing seen with
  | nil => simp [checkAttributes]
  | cons spec specs ih =>
      rw [checkAttributes, List.map_cons, List.nodup_cons, List.forall_mem_cons, List.mem_map]
      by_cases hseen : spec.name.expanded ∈ seen
      · rw [if_pos hseen]
        exact ⟨nofun, fun h => absurd hseen h.2.1.1⟩
      · by_cases huri : spec.name.uri = some instanceUri
        · rw [if_neg hseen, if_pos huri]
          exact ⟨nofun, fun h => absurd huri h.2.1.2⟩
        · rw [if_neg hseen, if_neg huri, ih]
          simp only [List.mem_cons, not_or]
          constructor
          · rintro ⟨hnodup, hrest⟩
            refine ⟨⟨?_, hnodup⟩, ⟨hseen, huri⟩, fun spec' hmem => ?_⟩
            · rintro ⟨spec', hmem, hname⟩
              exact (hrest spec' hmem).1.1 hname
            · exact ⟨(hrest spec' hmem).1.2, (hrest spec' hmem).2⟩
          · rintro ⟨⟨hfirst, hnodup⟩, -, hrest⟩
            refine ⟨hnodup, fun spec' hmem => ⟨⟨?_, (hrest spec' hmem).1⟩, (hrest spec' hmem).2⟩⟩
            intro hname
            exact hfirst ⟨spec', hmem, hname⟩

theorem check_eq_ok {d : TypeDescriptor} :
    d.check = .ok () ↔ (d.attributes.map fun spec => spec.name.expanded).Nodup ∧
      ∀ spec ∈ d.attributes, spec.name.uri ≠ some instanceUri := by
  rw [check, checkAttributes_eq_ok]
  simp only [List.not_mem_nil, not_false_iff, true_and]

/-- In a descriptor that has passed its check, each attribute is the only one of its name. -/
theorem spec?_of_mem {d : TypeDescriptor} (hcheck : d.check = .ok ()) {spec : AttributeSpec}
    (hspec : spec ∈ d.attributes) : d.spec? spec.name = some spec := by
  cases hfound : d.spec? spec.name with
  | none => exact absurd (QName.same_iff.2 rfl) (List.find?_eq_none.1 hfound spec hspec)
  | some spec' =>
      have hmem := List.mem_of_find?_eq_some hfound
      have hsame : spec'.name.same spec.name = true := by simpa using List.find?_some hfound
      rw [List.inj_on_of_nodup_map (check_eq_ok.1 hcheck).1 hmem hspec (QName.same_iff.1 hsame)]

/-- A descriptor that has passed its check models none of the attributes that every element may
have. -/
theorem isInstance_of_models {d : TypeDescriptor} {name : QName} (hcheck : d.check = .ok ())
    (hmodels : d.models name = true) : name.isInstance = false := by
  rw [models_iff, List.mem_map] at hmodels
  obtain ⟨spec, hspec, hname⟩ := hmodels
  rw [Bool.eq_false_iff]
  intro hinstance
  have huri := QName.uri_of_isInstance hinstance
  rw [QName.uri, ← hname] at huri
  exact (check_eq_ok.1 hcheck).2 spec hspec huri

end TypeDescriptor

/-- The descriptor that is chosen from a registry that was only added to has passed its check. -/
theorem Registry.Filled.check_of_chooses {r : Registry} {config : UnmarshalConfig} {name : QName}
    {type : Option QName} {d : TypeDescriptor} (hr : r.Filled) (h : r.Chooses config name type d) :
    d.check = .ok () := by
  cases h with
  | ofType _ found => exact (hr.holds found).check
  | ofName _ found => exact (hr.holds found).check
  | ofFallback _ _ _ found =>
      rw [hr.fallback_eq found]
      rfl

/-! ### Objects that are built and then changed -/

/-- An object graph each object of which was built from a registry: under any key and element name,
or from the fallback under a name that is not registered. Afterwards anything may be set on it, and
its children may be replaced by others that were built. -/
inductive Built (r : Registry) : TypedObject → Prop where
  | build {key : QName} {o : TypedObject} (h : r.build? key = some o) : Built r o
  | buildNamed {key elementName : QName} {o : TypedObject}
      (h : r.buildNamed? key elementName = some o) : Built r o
  | fallback {d : TypeDescriptor} {elementName : QName} (h : r.fallback = some d)
      (unknown : r.lookup elementName = none) : Built r (d.buildNamed elementName)
  | setAttribute {o : TypedObject} (h : Built r o) (name : QName) (value : String) :
      Built r (o.setAttribute name value)
  | removeAttribute {o : TypedObject} (h : Built r o) (name : QName) :
      Built r (o.removeAttribute name).2
  | setNil {o : TypedObject} (h : Built r o) (nil : Option Truth) : Built r { o with nil }
  | setSchemaLocation {o : TypedObject} (h : Built r o) (schemaLocation : Option String) :
      Built r { o with schemaLocation }
  | setNoNamespaceLocation {o : TypedObject} (h : Built r o) (noNamespaceLocation : Option String) :
      Built r { o with noNamespaceLocation }
  | declare {o : TypedObject} (h : Built r o) (d : Declaration) : Built r (o.declare d)
  | setChildren {o : TypedObject} (h : Built r o) {children : List Child}
      (below : ∀ c, .object c ∈ children → Built r c) : Built r { o with children }

/-- How the descriptor of an object is found again: by the name of the object, by the type that it
carries, or not at all. -/
inductive Registry.Finds (r : Registry) (elementName : QName) (d : TypeDescriptor) :
    Option QName → Prop where
  | byName (found : r.lookup elementName = some d) : Finds r elementName d none
  | byType (found : r.lookup d.xsiType = some d) : Finds r elementName d (some d.xsiType)
  | byFallback (unknown : r.lookup elementName = none) (found : r.fallback = some d) :
      Finds r elementName d none

/-- What building establishes and no later change takes away. -/
structure ObjectHead.Grounded (r : Registry) (head : ObjectHead) : Prop extends head.Routed where
  finds : r.Finds head.elementName head.descriptor head.schemaType
  check : head.descriptor.check = .ok ()

section Grounded

variable {r : Registry} {d : TypeDescriptor} {head : ObjectHead}

theorem Registry.lookup_congr {name name' : QName} (h : name.same name' = true) :
    r.lookup name = r.lookup name' := by
  rw [Registry.lookup, Registry.lookup, QName.same_iff.1 h]

theorem TypeDescriptor.schemaType_buildNamed (d : TypeDescriptor) (elementName : QName) :
    (d.buildNamed elementName).schemaType =
      if elementName.same d.name || d.isWildcard then none else some d.xsiType := by
  rw [buildNamed]
  cases elementName.same d.name <;> cases d.isWildcard <;> rfl

/-- Under the name of its descriptor an object carries no type, under any other one it does. -/
theorem TypeDescriptor.grounded_buildNamed (hd : r.Holds d) (hwild : d.isWildcard = false)
    (elementName : QName) : (d.buildNamed elementName).Grounded r := by
  refine ⟨⟨nofun, nofun⟩, ?_, hd.check⟩
  rw [schemaType_buildNamed, hwild, Bool.or_false]
  cases hsame : elementName.same d.name with
  | true => exact .byName ((Registry.lookup_congr hsame).trans hd.name)
  | false => exact .byType hd.xsiType

theorem TypeDescriptor.grounded_build (hd : r.Holds d) : d.build.Grounded r :=
  ⟨⟨nofun, nofun⟩, .byName hd.name, hd.check⟩

/-- The descriptor for every type is never named on an object. -/
theorem TypeDescriptor.grounded_fallback (hd : r.fallback = some .wildcard) {elementName : QName}
    (unknown : r.lookup elementName = none) : (wildcard.buildNamed elementName).Grounded r := by
  have hwild : wildcard.isWildcard = true := by decide
  refine ⟨⟨nofun, nofun⟩, ?_, rfl⟩
  rw [schemaType_buildNamed, hwild, Bool.or_true]
  exact .byFallback unknown hd

theorem ObjectHead.Grounded.setAttribute (h : head.Grounded r) (name : QName) (value : String) :
    (head.setAttribute name value).Grounded r := by
  have hrouted := h.toRouted.setAttribute name value
  obtain ⟨attributes, unknown, heq⟩ := head.setAttribute_eq name value
  rw [heq] at hrouted ⊢
  exact ⟨hrouted, h.finds, h.check⟩

theorem ObjectHead.Grounded.removeAttribute (h : head.Grounded r) (name : QName) :
    (head.removeAttribute name).2.Grounded r := by
  have hrouted := h.toRouted.removeAttribute name
  obtain ⟨attributes, unknown, heq⟩ := head.removeAttribute_eq name
  rw [heq] at hrouted ⊢
  exact ⟨hrouted, h.finds, h.check⟩

/-- Every object of a graph that was built is grounded. -/
theorem Built.grounded {x : TypedObject} (hr : r.Filled)
    (hwild : ∀ key d, r.lookup key = some d → d.isWildcard = false) (hx : Built r x) :
    ∀ o ∈ x.graph, o.Grounded r := by
  -- Only the head of the outermost object changes with a setter, or only its children.
  have head_changed {o o' : TypedObject} (ih : ∀ p ∈ o.graph, p.Grounded r)
      (hchildren : o'.children = o.children) (h : o.Grounded r → o'.Grounded r) :
      ∀ p ∈ o'.graph, p.Grounded r := by
    rw [TypedObject.forall_mem_graph] at ih ⊢
    rw [hchildren]
    exact ⟨h ih.1, ih.2⟩
  have leaf {o : TypedObject} (hchildren : o.children = []) (h : o.Grounded r) :
      ∀ p ∈ o.graph, p.Grounded r := by
    rw [TypedObject.forall_mem_graph, hchildren]
    exact ⟨h, nofun⟩
  induction hx with
  | build h =>
      obtain ⟨d, hd, rfl⟩ := Option.map_eq_some_iff.1 h
      exact leaf rfl (TypeDescriptor.grounded_build (hr.holds hd))
  | @buildNamed key elementName o h =>
      obtain ⟨d, hd, rfl⟩ := Option.map_eq_some_iff.1 h
      exact leaf rfl (TypeDescriptor.grounded_buildNamed (hr.holds hd) (hwild key d hd) elementName)
  | fallback h unknown =>
      obtain rfl := hr.fallback_eq h
      exact leaf rfl (TypeDescriptor.grounded_fallback h unknown)
  | setAttribute _ name value ih => exact head_changed ih rfl fun h => h.setAttribute name value
  | removeAttribute _ name ih => exact head_changed ih rfl fun h => h.removeAttribute name
  | setNil _ _ ih =>
      exact head_changed ih rfl fun h => ⟨⟨h.attributes, h.unknown⟩, h.finds, h.check⟩
  | setSchemaLocation _ _ ih =>
      exact head_changed ih rfl fun h => ⟨⟨h.attributes, h.unknown⟩, h.finds, h.check⟩
  | setNoNamespaceLocation _ _ ih =>
      exact head_changed ih rfl fun h => ⟨⟨h.attributes, h.unknown⟩, h.finds, h.check⟩
  | declare _ _ ih =>
      exact head_changed ih rfl fun h => ⟨⟨h.attributes, h.unknown⟩, h.finds, h.check⟩
  | setChildren _ _ ih ihbelow =>
      rw [TypedObject.forall_mem_graph] at ih ⊢
      exact ⟨⟨⟨ih.1.attributes, ih.1.unknown⟩, ih.1.finds, ih.1.check⟩, ihbelow⟩

end Grounded

end XmlBinding
