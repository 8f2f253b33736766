import XmlBinding.Proofs.Tree

/-!
What reading accepts, and what it makes of it. Both are said without running anything: a condition
on each element of a tree, in the scope in force on it, and a relation between a tree and the object
read from it. Reading ends well exactly on the trees whose elements fulfil the condition, and its
result is the object that the relation names.
-/

namespace XmlBinding

/-! ### Lexical spaces -/

/-- The lexical space of a kind. A qualified name is one or two names with a colon between them, the
first of which is bound. -/
def ValueKind.Accepts (kind : ValueKind) (scope : Scope) (value : String) : Prop :=
  match kind with
  | .string => True
  | .boolean => ∃ truth, Truth.read? value = some truth
  | .dateTime => ∃ instant, Instant.read value = .ok instant
  | .duration => Duration.isDuration value = true
  | .base64Binary => ∃ bytes, Base64.read value = .ok bytes
  | .anyUri => Uri.check value = .ok ()
  | .qName =>
      isQNameText (Text.trim value) = true ∧
        ∀ p, (splitColon (Text.trim value)).1 = some p → ∃ uri, scope.prefixUri p = some uri

/-- What a scope gives a meaning to, every scope that extends it does. -/
theorem ValueKind.Accepts.mono {kind : ValueKind} {s t : Scope} {value : String}
    (h : t.Extends s) (hv : kind.Accepts s value) : kind.Accepts t value := by
  cases kind with
  | qName =>
      refine ⟨hv.1, fun p hp => ?_⟩
      obtain ⟨uri, huri⟩ := hv.2 p hp
      exact ⟨uri, h.prefixUri huri⟩
  | _ => exact hv

theorem readTruth_eq_ok {value : String} {truth : Truth} :
    readTruth value = .ok truth ↔ Truth.read? value = some truth := by
  rw [readTruth]
  cases Truth.read? value with
  | none => exact ⟨nofun, nofun⟩
  | some t => simp

theorem exists_readQName_iff {scope : Scope} {value : String} :
    (∃ name, readQName scope value = .ok name) ↔ ValueKind.qName.Accepts scope value := by
  rw [ValueKind.Accepts]
  -- Once the text has the form of a name, only an unbound prefix can take its meaning away.
  by_cases htext : isQNameText (Text.trim value) = true
  · simp only [readQName, htext, if_true, mapError_eq_ok, true_and]
    rw [isQNameText] at htext
    rw [Scope.resolve]
    split at htext
    · next p after hsplit =>
        rw [Bool.and_eq_true] at htext
        rw [hsplit]
        refine ⟨?_, fun hbound => ?_⟩
        · rintro ⟨name, hname⟩ p' hp'
          cases hp'
          cases hbound : scope.prefixUri p with
          | none => simp [hbound] at hname
          | some uri => exact ⟨uri, rfl⟩
        · obtain ⟨uri, huri⟩ := hbound p rfl
          refine ⟨QName.of (some uri) after (some p), ?_⟩
          simp only [huri, mapError_eq_ok, QName.of?_eq_ok, QName.check_eq_ok, true_and]
          refine ⟨htext.2, fun p' hp' => ?_⟩
          rw [QName.of, present_of_ne (ne_empty_of_isNCName htext.1)] at hp'
          exact Option.some.inj hp' ▸ htext.1
    · next whole hsplit =>
        rw [hsplit]
        refine ⟨fun _ p hp => ?_, fun _ => ?_⟩
        · cases hp
        · refine ⟨QName.of scope.defaultUri whole none, ?_⟩
          simp only [mapError_eq_ok, QName.of?_eq_ok, QName.check_eq_ok, true_and]
          refine ⟨htext, fun p hp => ?_⟩
          cases hp
  · simp only [readQName, htext]
    refine ⟨?_, fun h => ?_⟩
    · rintro ⟨name, h⟩
      cases h
    · exact absurd h.1 (by simp)

theorem ValueKind.check_eq_ok {kind : ValueKind} {scope : Scope} {value : String} :
    kind.check scope value = .ok () ↔ kind.Accepts scope value := by
  cases kind with
  | string => exact ⟨fun _ => trivial, fun _ => rfl⟩
  | boolean => simp [check, Accepts, map_eq_ok, readTruth_eq_ok]
  | dateTime => simp [check, Accepts, map_eq_ok]
  | duration => simp [check, Accepts]
  | base64Binary => simp [check, Accepts, map_eq_ok]
  | anyUri => simp [check, Accepts]
  | qName => simp [check, map_eq_ok, ← exists_readQName_iff]

/-- What a truth value is written as is read as this value, and is the text it was read from but for
the blanks around it. -/
theorem Truth.read?_write (truth : Truth) : Truth.read? truth.write = some truth := by
  obtain ⟨value, numeric⟩ := truth
  cases value <;> cases numeric <;> decide

theorem Truth.write_of_read? {text : String} {truth : Truth} (h : Truth.read? text = some truth) :
    truth.write = Text.trim text := by
  rw [Truth.read?] at h
  split at h
  · next htrim => exact htrim ▸ (Option.some.inj h ▸ rfl)
  · next htrim => exact htrim ▸ (Option.some.inj h ▸ rfl)
  · next htrim => exact htrim ▸ (Option.some.inj h ▸ rfl)
  · next htrim => exact htrim ▸ (Option.some.inj h ▸ rfl)
  · cases h

/-! ### The attributes that every element may have -/

def instanceNames : List QName :=
  [xsiTypeName, xsiNilName, xsiSchemaLocationName, xsiNoNamespaceLocationName]

/-- Whether a name is one that every element may have as an attribute, whatever its type. -/
def QName.isInstance (name : QName) : Bool :=
  instanceNames.any name.same

theorem QName.isInstance_iff {name : QName} :
    name.isInstance = true ↔ name.same xsiTypeName = true ∨ name.same xsiNilName = true ∨
      name.same xsiSchemaLocationName = true ∨ name.same xsiNoNamespaceLocationName = true := by
  simp [isInstance, instanceNames]

theorem QName.isInstance_congr {name name' : QName} (h : name.expanded = name'.expanded) :
    name.isInstance = name'.isInstance := by
  have hsame : name.same = name'.same := by
    funext other
    rw [same, same, h]
  rw [isInstance, isInstance, hsame]

theorem QName.same_eq_false_of_same {name a b : QName} (h : name.same a = true)
    (hne : a.expanded ≠ b.expanded) : name.same b = false := by
  rw [QName.same_iff] at h
  rw [Bool.eq_false_iff, Ne, QName.same_iff, h]
  exact hne

/-! ### Choosing the descriptor -/

/-- The type that the tag names, if any; its text is read without the blanks around it. -/
inductive Tag.NamesType (tag : Tag) (scope : Scope) : Option QName → Prop where
  | absent (h : tag.attribute? xsiTypeName = none) : NamesType tag scope none
  | named {text : String} {type : QName} (h : tag.attribute? xsiTypeName = some text)
      (meaning : scope.resolve (Text.trim text) = .ok type) : NamesType tag scope (some type)

theorem Tag.schemaType?_eq_ok {tag : Tag} {scope : Scope} {type : Option QName} :
    tag.schemaType? scope = .ok type ↔ tag.NamesType scope type := by
  rw [Tag.schemaType?]
  cases htext : tag.attribute? xsiTypeName with
  | none =>
      refine ⟨fun h => ?_, ?_⟩
      · cases h
        exact .absent htext
      · rintro (_ | ⟨h, -⟩)
        · rfl
        · exact absurd (htext.symm.trans h) nofun
  | some text =>
      refine ⟨fun h => ?_, ?_⟩
      · cases hmeaning : scope.resolve (Text.trim text) with
        | error fault => simp only [hmeaning, reduceCtorEq] at h
        | ok q =>
            simp only [hmeaning, Except.ok.injEq] at h
            exact h ▸ .named htext hmeaning
      · rintro (h | ⟨h, hmeaning⟩)
        · exact absurd (htext.symm.trans h) nofun
        · cases htext.symm.trans h
          simp only [hmeaning]

theorem Tag.NamesType.eq {tag : Tag} {scope : Scope} {type type' : Option QName}
    (h : tag.NamesType scope type) (h' : tag.NamesType scope type') : type = type' := by
  rw [← schemaType?_eq_ok] at h h'
  exact Except.ok.inj (h.symm.trans h')

theorem Tag.NamesType.resolve {tag : Tag} {scope : Scope} {type : Option QName} {text : String}
    (h : tag.NamesType scope type) (htext : tag.attribute? xsiTypeName = some text) :
    ∃ q, type = some q ∧ scope.resolve (Text.trim text) = .ok q := by
  cases h with
  | absent habsent => cases habsent.symm.trans htext
  | named htext' meaning =>
      cases htext.symm.trans htext'
      exact ⟨_, rfl, meaning⟩

/-- The descriptor that stands for an element: the one of its type, else the one of its name, else
the fallback where unknown elements are kept. -/
inductive Registry.Chooses (r : Registry) (config : UnmarshalConfig) (name : QName)
    (type : Option QName) (d : TypeDescriptor) : Prop where
  | ofType {q : QName} (named : type = some q) (found : r.lookup q = some d)
  | ofName (untyped : ∀ q, type = some q → r.lookup q = none) (found : r.lookup name = some d)
  | ofFallback (untyped : ∀ q, type = some q → r.lookup q = none) (unnamed : r.lookup name = none)
      (kept : config.keepUnknown = true) (found : r.fallback = some d)

theorem Registry.select?_eq_some {r : Registry} {config : UnmarshalConfig} {name : QName}
    {type : Option QName} {d : TypeDescriptor} :
    r.select? config name type = some d ↔ r.Chooses config name type d := by
  rw [Registry.select?]
  cases htype : type.bind r.lookup with
  | some d' =>
      obtain ⟨q, hq, hfound⟩ := Option.bind_eq_some_iff.1 htype
      rw [Option.some_or, Option.some_or]
      refine ⟨fun h => ?_, ?_⟩
      · cases h
        exact .ofType hq hfound
      · rintro (⟨hq', hfound'⟩ | ⟨huntyped, -⟩ | ⟨huntyped, -, -, -⟩)
        · cases hq.symm.trans hq'
          exact hfound.symm.trans hfound'
        · exact absurd (huntyped q hq) (by simp [hfound])
        · exact absurd (huntyped q hq) (by simp [hfound])
  | none =>
      have huntyped : ∀ q, type = some q → r.lookup q = none := by
        intro q hq
        rw [hq] at htype
        exact htype
      rw [Option.none_or]
      cases hname : r.lookup name with
      | some d' =>
          rw [Option.some_or]
          refine ⟨fun h => ?_, ?_⟩
          · cases h
            exact .ofName huntyped hname
          · rintro (⟨hq, hfound⟩ | ⟨-, hfound⟩ | ⟨-, hunnamed, -, -⟩)
            · exact absurd (huntyped _ hq) (by simp [hfound])
            · exact hname.symm.trans hfound
            · exact absurd hunnamed (by simp [hname])
      | none =>
          rw [Option.none_or]
          refine ⟨fun h => ?_, ?_⟩
          · split at h
            · next hkept => exact .ofFallback huntyped hname hkept h
            · cases h
          · rintro (⟨hq, hfound⟩ | ⟨-, hfound⟩ | ⟨-, -, hkept, hfound⟩)
            · exact absurd (huntyped _ hq) (by simp [hfound])
            · exact absurd hname (by simp [hfound])
            · rw [if_pos hkept, hfound]

theorem Registry.Chooses.eq {r : Registry} {config : UnmarshalConfig} {name : QName}
    {type : Option QName} {d d' : TypeDescriptor} (h : r.Chooses config name type d)
    (h' : r.Chooses config name type d') : d = d' := by
  rw [← select?_eq_some] at h h'
  exact Option.some.inj (h.symm.trans h')

/-! ### Reading the attributes -/

theorem TypeDescriptor.spec?_congr {d : TypeDescriptor} {name name' : QName}
    (h : name.expanded = name'.expanded) : d.spec? name = d.spec? name' := by
  simp only [spec?, QName.same, h]

theorem TypeDescriptor.models_congr {d : TypeDescriptor} {name name' : QName}
    (h : name.expanded = name'.expanded) : d.models name = d.models name' := by
  rw [models, models, spec?_congr h]

/-- An attribute that can be read under a descriptor. -/
structure TypeDescriptor.Fits (d : TypeDescriptor) (scope : Scope) (entry : QName × String) :
    Prop where
  nil : entry.1.same xsiNilName = true → ValueKind.boolean.Accepts scope entry.2
  value : entry.1.isInstance = false → ∀ spec, d.spec? entry.1 = some spec →
    spec.kind.Accepts scope entry.2

theorem TypeDescriptor.checkValue_eq_ok {d : TypeDescriptor} {tag : Tag} {scope : Scope}
    {name : QName} {value : String} :
    d.checkValue tag scope name value = .ok () ↔
      ∀ spec, d.spec? name = some spec → spec.kind.Accepts scope value := by
  rw [TypeDescriptor.checkValue]
  cases d.spec? name with
  | none => exact ⟨fun _ => nofun, fun _ => rfl⟩
  | some spec => simp [ValueKind.check_eq_ok]

/-- What an attribute adds to an object. -/
def ObjectHead.take (head : ObjectHead) (entry : QName × String) : ObjectHead :=
  if entry.1.same xsiTypeName then head
  else if entry.1.same xsiNilName then { head with nil := Truth.read? entry.2 }
  else if entry.1.same xsiSchemaLocationName then { head with schemaLocation := some entry.2 }
  else if entry.1.same xsiNoNamespaceLocationName then
    { head with noNamespaceLocation := some entry.2 }
  else head.setAttribute entry.1 entry.2

theorem ObjectHead.readAttribute_eq_ok {tag : Tag} {scope : Scope} {head head' : ObjectHead}
    {entry : QName × String} :
    ObjectHead.readAttribute tag scope head entry = .ok head' ↔
      head.descriptor.Fits scope entry ∧ head.take entry = head' := by
  obtain ⟨name, value⟩ := entry
  rw [ObjectHead.readAttribute, ObjectHead.take]
  dsimp only
  -- Only the nil attribute and the ones of the descriptor can be refused.
  have free (hname : name.isInstance = true) (hnil : name.same xsiNilName = false) :
      head.descriptor.Fits scope (name, value) :=
    ⟨fun h => absurd h (by simp [hnil]), fun h => absurd h (by simp [hname])⟩
  by_cases htype : name.same xsiTypeName = true
  · have hfits := free (QName.isInstance_iff.2 (.inl htype))
      (QName.same_eq_false_of_same htype (by decide))
    simp [htype, hfits]
  · by_cases hnil : name.same xsiNilName = true
    · have hinstance := QName.isInstance_iff.2 (.inr (.inl hnil))
      simp only [htype, hnil, if_true, Bool.false_eq_true, if_false]
      refine ⟨fun h => ?_, ?_⟩
      · split at h
        · next truth hread =>
            rw [readTruth_eq_ok] at hread
            refine ⟨⟨fun _ => ⟨truth, hread⟩, fun h => absurd h (by simp [hinstance])⟩, ?_⟩
            rw [hread]
            exact Except.ok.inj h
        · cases h
      · rintro ⟨hfits, rfl⟩
        obtain ⟨truth, hread⟩ := hfits.nil hnil
        rw [hread, readTruth_eq_ok.2 hread]
    · by_cases hlocation : name.same xsiSchemaLocationName = true
      · have hfits := free (QName.isInstance_iff.2 (.inr (.inr (.inl hlocation))))
          (Bool.eq_false_iff.2 hnil)
        simp [htype, hnil, hlocation, hfits]
      · by_cases hnoNamespace : name.same xsiNoNamespaceLocationName = true
        · have hfits := free (QName.isInstance_iff.2 (.inr (.inr (.inr hnoNamespace))))
            (Bool.eq_false_iff.2 hnil)
          simp [htype, hnil, hlocation, hnoNamespace, hfits]
        · have hother : name.isInstance = false := by
            rw [Bool.eq_false_iff, Ne, QName.isInstance_iff]
            simp [htype, hnil, hlocation, hnoNamespace]
          simp only [htype, hnil, hlocation, hnoNamespace, Bool.false_eq_true, if_false]
          rw [bind_eq_ok]
          constructor
          · rintro ⟨⟨⟩, hcheck, hset⟩
            refine ⟨⟨fun h => absurd h hnil, fun _ => ?_⟩, pure_eq_ok.1 hset⟩
            exact TypeDescriptor.checkValue_eq_ok.1 hcheck
          · rintro ⟨hfits, hset⟩
            exact ⟨(), TypeDescriptor.checkValue_eq_ok.2 (hfits.value hother), pure_eq_ok.2 hset⟩

@[simp] theorem ObjectHead.descriptor_setAttribute (head : ObjectHead) (name : QName)
    (value : String) : (head.setAttribute name value).descriptor = head.descriptor := by
  rw [ObjectHead.setAttribute]
  split <;> rfl

@[simp] theorem ObjectHead.descriptor_take (head : ObjectHead) (entry : QName × String) :
    (head.take entry).descriptor = head.descriptor := by
  unfold ObjectHead.take
  split_ifs <;> simp

theorem ObjectHead.foldlM_readAttribute_eq_ok {tag : Tag} {scope : Scope}
    {entries : List (QName × String)} {head head' : ObjectHead} :
    entries.foldlM (ObjectHead.readAttribute tag scope) head = .ok head' ↔
      (∀ entry ∈ entries, head.descriptor.Fits scope entry) ∧
        entries.foldl ObjectHead.take head = head' := by
  induction entries generalizing head with
  | nil => simp
  | cons entry entries ih =>
      rw [List.foldlM_cons, bind_eq_ok, List.forall_mem_cons, List.foldl_cons]
      simp only [readAttribute_eq_ok, ih]
      constructor
      · rintro ⟨_, ⟨hfits, rfl⟩, hrest, hend⟩
        rw [descriptor_take] at hrest
        exact ⟨⟨hfits, hrest⟩, hend⟩
      · rintro ⟨⟨hfits, hrest⟩, hend⟩
        refine ⟨_, ⟨hfits, rfl⟩, ?_, hend⟩
        rwa [descriptor_take]

/-! ### What each field is after reading the attributes -/

section Take

variable {head : ObjectHead} {entry : QName × String}

theorem instanceNames_distinct : (instanceNames.map QName.expanded).Nodup := by
  decide

theorem ObjectHead.take_of_not_isInstance (h : entry.1.isInstance = false) :
    head.take entry = head.setAttribute entry.1 entry.2 := by
  rw [Bool.eq_false_iff, Ne, QName.isInstance_iff] at h
  push Not at h
  rw [take, if_neg h.1, if_neg h.2.1, if_neg h.2.2.1, if_neg h.2.2.2]

namespace ObjectHead

theorem nil_take : (head.take entry).nil =
    if entry.1.expanded = xsiNilName.expanded then Truth.read? entry.2 else head.nil := by
  have hdistinct := instanceNames_distinct
  simp only [take, setAttribute, QName.same_iff]
  split_ifs <;> simp_all [instanceNames]

theorem schemaLocation_take : (head.take entry).schemaLocation =
    if entry.1.expanded = xsiSchemaLocationName.expanded then some entry.2
    else head.schemaLocation := by
  have hdistinct := instanceNames_distinct
  simp only [take, setAttribute, QName.same_iff]
  split_ifs <;> simp_all [instanceNames]

theorem noNamespaceLocation_take : (head.take entry).noNamespaceLocation =
    if entry.1.expanded = xsiNoNamespaceLocationName.expanded then some entry.2
    else head.noNamespaceLocation := by
  have hdistinct := instanceNames_distinct
  simp only [take, setAttribute, QName.same_iff]
  split_ifs <;> simp_all [instanceNames]

/-- The attributes of a kind: those that the descriptor models, or the others. -/
def table (head : ObjectHead) (modeled : Bool) : NameTable String :=
  if modeled then head.attributes else head.unknown

@[simp] theorem table_true : head.table true = head.attributes := rfl

@[simp] theorem table_false : head.table false = head.unknown := rfl

theorem table_setAttribute {modeled : Bool} {name : QName} {value : String} :
    (head.setAttribute name value).table modeled =
      if head.descriptor.models name = modeled then (head.table modeled).set name value
      else head.table modeled := by
  cases modeled <;> cases hmodels : head.descriptor.models name <;>
    simp [setAttribute, table, hmodels]

/-- The attributes that every element may have go to neither table. -/
theorem table_take_of_isInstance {modeled : Bool} (h : entry.1.isInstance = true) :
    (head.take entry).table modeled = head.table modeled := by
  rw [QName.isInstance_iff] at h
  rw [take]
  split_ifs
  · rfl
  · rfl
  · rfl
  · rfl
  · simp_all

theorem nil_foldl_take (t : NameTable String) (head : ObjectHead) :
    (t.entries.foldl take head).nil =
      ((t.get? xsiNilName.expanded).map Truth.read?).getD head.nil :=
  OrderedTable.foldl_entries_of_key (fun _ _ => nil_take) t head

theorem schemaLocation_foldl_take (t : NameTable String) (head : ObjectHead) :
    (t.entries.foldl take head).schemaLocation =
      ((t.get? xsiSchemaLocationName.expanded).map some).getD head.schemaLocation :=
  OrderedTable.foldl_entries_of_key (fun _ _ => schemaLocation_take) t head

theorem noNamespaceLocation_foldl_take (t : NameTable String) (head : ObjectHead) :
    (t.entries.foldl take head).noNamespaceLocation =
      ((t.get? xsiNoNamespaceLocationName.expanded).map some).getD head.noNamespaceLocation :=
  OrderedTable.foldl_entries_of_key (fun _ _ => noNamespaceLocation_take) t head

/-- What an attribute cannot change. -/
theorem fixed_take (head : ObjectHead) (entry : QName × String) :
    (head.take entry).descriptor = head.descriptor ∧
    (head.take entry).elementName = head.elementName ∧
    (head.take entry).schemaType = head.schemaType ∧
    (head.take entry).declarations = head.declarations := by
  simp only [take, setAttribute]
  split_ifs <;> exact ⟨rfl, rfl, rfl, rfl⟩

theorem fixed_foldl_take (entries : List (QName × String)) (head : ObjectHead) :
    (entries.foldl take head).descriptor = head.descriptor ∧
      (entries.foldl take head).elementName = head.elementName ∧
      (entries.foldl take head).schemaType = head.schemaType ∧
      (entries.foldl take head).declarations = head.declarations := by
  induction entries generalizing head with
  | nil => exact ⟨rfl, rfl, rfl, rfl⟩
  | cons entry entries ih =>
      obtain ⟨hdescriptor, hname, htype, hdeclarations⟩ := ih (head.take entry)
      obtain ⟨hdescriptor', hname', htype', hdeclarations'⟩ := fixed_take head entry
      rw [List.foldl_cons]
      exact ⟨hdescriptor.trans hdescriptor', hname.trans hname', htype.trans htype',
        hdeclarations.trans hdeclarations'⟩

theorem table_foldl_take (modeled : Bool) (t : NameTable String)
    (h : head.table modeled = OrderedTable.empty) :
    (t.entries.foldl take head).table modeled =
      t.filter fun e => !e.1.isInstance && head.descriptor.models e.1 == modeled := by
  refine OrderedTable.ext ((OrderedTable.entries_foldl_set
    (I := fun head' : ObjectHead => head'.descriptor = head.descriptor)
    (g := fun head' : ObjectHead => head'.table modeled)
    (p := fun e => !e.1.isInstance && head.descriptor.models e.1 == modeled)
    ?_ ?_ ?_ t.distinct rfl ?_).trans ?_)
  · intro head' entry hd
    rw [descriptor_take, hd]
  · intro head' entry hd hp
    rw [Bool.and_eq_true, Bool.not_eq_true', beq_iff_eq] at hp
    rw [take_of_not_isInstance hp.1, table_setAttribute, hd, if_pos hp.2]
  · intro head' entry hd hp
    cases hinstance : entry.1.isInstance with
    | true => exact table_take_of_isInstance hinstance
    | false =>
        rw [take_of_not_isInstance hinstance, table_setAttribute, hd,
          if_neg (by simpa [hinstance] using hp)]
  · intro entry _
    rw [h, OrderedTable.get?_empty]
  · rw [h]
    rfl

end ObjectHead

end Take

/-! ### The object that is read -/

theorem foldl_addDeclaration_loop (ds seen : List Declaration) :
    ds.foldl addDeclaration seen = List.eraseDupsBy.loop (· == ·) ds seen.reverse := by
  induction ds generalizing seen with
  | nil => rw [List.foldl_nil, List.eraseDupsBy.loop, List.reverse_reverse]
  | cons d ds ih =>
      rw [List.foldl_cons, ih, addDeclaration, List.eraseDupsBy.loop]
      by_cases hd : d ∈ seen
      · have hany : (seen.reverse.any fun d' => d == d') = true := by simpa using hd
        rw [if_pos hd, hany]
      · have hany : (seen.reverse.any fun d' => d == d') = false := by
          simpa using fun d' hd' (he : d = d') => hd (he ▸ hd')
        rw [if_neg hd, hany, List.reverse_append, List.reverse_singleton, List.singleton_append]

/-- Repeated declarations are kept once, at the place of the first. -/
theorem foldl_addDeclaration (ds : List Declaration) :
    ds.foldl addDeclaration [] = ds.eraseDups :=
  foldl_addDeclaration_loop ds []

theorem eraseDups_of_nodup {α : Type} [DecidableEq α] {as : List α} (h : as.Nodup) :
    as.eraseDups = as := by
  induction as with
  | nil => rfl
  | cons a as ih =>
      rw [List.nodup_cons] at h
      have hfilter : (as.filter fun b => !b == a) = as := by
        rw [List.filter_eq_self]
        intro b hb
        have hne : b ≠ a := fun he => h.1 (he ▸ hb)
        simpa using hne
      rw [List.eraseDups_cons, hfilter, ih h.2]

/-- What reading makes of a tag under some registry. -/
structure ObjectHead.ReadFrom (head : ObjectHead) (r : Registry) (config : UnmarshalConfig)
    (scope : Scope) (tag : Tag) : Prop where
  schemaType : tag.NamesType scope head.schemaType
  descriptor : r.Chooses config tag.name head.schemaType head.descriptor
  elementName : head.elementName = tag.name
  nil : head.nil = (tag.attribute? xsiNilName).bind Truth.read?
  schemaLocation : head.schemaLocation = tag.attribute? xsiSchemaLocationName
  noNamespaceLocation : head.noNamespaceLocation = tag.attribute? xsiNoNamespaceLocationName
  attributes : head.attributes =
    tag.attributes.filter fun e => !e.1.isInstance && head.descriptor.models e.1
  unknown : head.unknown =
    tag.attributes.filter fun e => !e.1.isInstance && !head.descriptor.models e.1
  declarations : head.declarations = tag.declarations.eraseDups

/-- Of the attributes on a tag an object has those it models among its own, if no element has them.
-/
theorem ObjectHead.ReadFrom.attributes_get? {head : ObjectHead} {r : Registry}
    {config : UnmarshalConfig} {scope : Scope} {tag : Tag} (h : head.ReadFrom r config scope tag)
    (name : QName) : head.attributes.get? name.expanded =
      if (!name.isInstance && head.descriptor.models name) = true then tag.attribute? name
      else none := by
  rw [h.attributes]
  exact OrderedTable.get?_filter
    (q := fun k => !(⟨k, none⟩ : QName).isInstance && head.descriptor.models ⟨k, none⟩)
    (fun _ => rfl) tag.attributes name.expanded

theorem ObjectHead.ReadFrom.unknown_get? {head : ObjectHead} {r : Registry}
    {config : UnmarshalConfig} {scope : Scope} {tag : Tag} (h : head.ReadFrom r config scope tag)
    (name : QName) : head.unknown.get? name.expanded =
      if (!name.isInstance && !head.descriptor.models name) = true then tag.attribute? name
      else none := by
  rw [h.unknown]
  exact OrderedTable.get?_filter
    (q := fun k => !(⟨k, none⟩ : QName).isInstance && !head.descriptor.models ⟨k, none⟩)
    (fun _ => rfl) tag.attributes name.expanded

theorem ObjectHead.ReadFrom.eq {head head' : ObjectHead} {r : Registry} {config : UnmarshalConfig}
    {scope : Scope} {tag : Tag} (h : head.ReadFrom r config scope tag)
    (h' : head'.ReadFrom r config scope tag) : head = head' := by
  have htype := h.schemaType.eq h'.schemaType
  have hdescriptor : head.descriptor = head'.descriptor := by
    have hchosen := h.descriptor
    rw [htype] at hchosen
    exact hchosen.eq h'.descriptor
  have hattributes := h.attributes
  have hunknown := h.unknown
  rw [hdescriptor, ← h'.attributes] at hattributes
  rw [hdescriptor, ← h'.unknown] at hunknown
  have hname := h.elementName.trans h'.elementName.symm
  have hnil := h.nil.trans h'.nil.symm
  have hlocation := h.schemaLocation.trans h'.schemaLocation.symm
  have hnoNamespace := h.noNamespaceLocation.trans h'.noNamespaceLocation.symm
  have hdeclarations := h.declarations.trans h'.declarations.symm
  cases head
  cases head'
  simp_all

/-- A tag that is read with some type and descriptor, without its values being checked. -/
theorem ObjectHead.readFrom_foldl_take {tag : Tag} {r : Registry} {config : UnmarshalConfig}
    {scope : Scope} {type : Option QName} {d : TypeDescriptor} (htype : tag.NamesType scope type)
    (hd : r.Chooses config tag.name type d) :
    (tag.attributes.entries.foldl ObjectHead.take
      { ObjectHead.ofDescriptor d tag.name with
        schemaType := type
        declarations := tag.declarations.foldl addDeclaration []
      }).ReadFrom r config scope tag := by
  generalize hstart : { ObjectHead.ofDescriptor d tag.name with
    schemaType := type, declarations := tag.declarations.foldl addDeclaration [] } = start
  obtain ⟨hdescriptor, hname, hschema, hdeclarations⟩ :=
    ObjectHead.fixed_foldl_take tag.attributes.entries start
  have hempty (modeled : Bool) : start.table modeled = OrderedTable.empty := by
    subst hstart
    cases modeled <;> rfl
  constructor
  · rw [hschema]
    subst hstart
    exact htype
  · rw [hschema, hdescriptor]
    subst hstart
    exact hd
  · rw [hname]
    subst hstart
    rfl
  · rw [ObjectHead.nil_foldl_take, Tag.attribute?]
    subst hstart
    cases tag.attributes.get? xsiNilName.expanded <;> rfl
  · rw [ObjectHead.schemaLocation_foldl_take, Tag.attribute?]
    subst hstart
    cases tag.attributes.get? xsiSchemaLocationName.expanded <;> rfl
  · rw [ObjectHead.noNamespaceLocation_foldl_take, Tag.attribute?]
    subst hstart
    cases tag.attributes.get? xsiNoNamespaceLocationName.expanded <;> rfl
  · rw [hdescriptor]
    simpa using ObjectHead.table_foldl_take true tag.attributes (hempty true)
  · rw [hdescriptor]
    simpa using ObjectHead.table_foldl_take false tag.attributes (hempty false)
  · rw [hdeclarations]
    subst hstart
    exact foldl_addDeclaration tag.declarations

theorem Tag.readHead_eq_ok {tag : Tag} {r : Registry} {config : UnmarshalConfig} {scope : Scope}
    {head : ObjectHead} :
    tag.readHead r config scope = .ok head ↔
      head.ReadFrom r config scope tag ∧
        ∀ entry ∈ tag.attributes.entries, head.descriptor.Fits scope entry := by
  rw [Tag.readHead, bind_eq_ok]
  constructor
  · rintro ⟨type, htype, h⟩
    rw [Tag.schemaType?_eq_ok] at htype
    cases hd : r.select? config tag.name type with
    | none =>
        rw [hd] at h
        cases h
    | some d =>
        rw [hd] at h
        rw [Registry.select?_eq_some] at hd
        have hread := ObjectHead.readFrom_foldl_take htype hd
        obtain ⟨hfits, rfl⟩ := ObjectHead.foldlM_readAttribute_eq_ok.1 h
        refine ⟨hread, fun entry hentry => ?_⟩
        rw [(ObjectHead.fixed_foldl_take _ _).1]
        exact hfits entry hentry
  · rintro ⟨hread, hfits⟩
    -- Reading has one result, so the head that is read is this one.
    have hread' := ObjectHead.readFrom_foldl_take hread.schemaType hread.descriptor
    refine ⟨head.schemaType, Tag.schemaType?_eq_ok.2 hread.schemaType, ?_⟩
    rw [Registry.select?_eq_some.2 hread.descriptor]
    exact ObjectHead.foldlM_readAttribute_eq_ok.2 ⟨hfits, hread'.eq hread⟩

/-! ### Reading a tree -/

/-- A text that means nothing under a content model. -/
def Node.isDropped (config : UnmarshalConfig) (content : ContentModel) : Node → Bool
  | .text value => content.drops config value
  | .element _ => false

section Trees

variable {r : Registry} {config : UnmarshalConfig} {scope : Scope} {depth : Nat} {tag : Tag}
  {nodes : List Node} {head : ObjectHead} {children : List Child} {content : ContentModel}

mutual

/-- The object that an element is read as: the head is read from the tag, and each child, but for
texts that mean nothing, stands in its place, read in the scope of the element. -/
def Element.DecodesTo (r : Registry) (config : UnmarshalConfig) (scope : Scope) :
    Element → TypedObject → Prop
  | ⟨tag, nodes⟩, o =>
      o.toObjectHead.ReadFrom r config (scope.declareAll tag.declarations) tag ∧
        Node.decodesAll r config (scope.declareAll tag.declarations) o.descriptor.content nodes
          o.children
termination_by structural e => e

def Node.decodesTo (r : Registry) (config : UnmarshalConfig) (scope : Scope) : Node → Child → Prop
  | .text value, c => c = .text value
  | .element e, c => ∃ o, c = .object o ∧ Element.DecodesTo r config scope e o
termination_by structural n => n

def Node.decodesAll (r : Registry) (config : UnmarshalConfig) (scope : Scope)
    (content : ContentModel) : List Node → List Child → Prop
  | [], children => children = []
  | n :: ns, children =>
      if n.isDropped config content then Node.decodesAll r config scope content ns children
      else ∃ c cs, children = c :: cs ∧ Node.decodesTo r config scope n c ∧
        Node.decodesAll r config scope content ns cs
termination_by structural ns => ns

end

theorem Node.decodesTo_iff {n : Node} {c : Child} :
    n.decodesTo r config scope c ↔ n.Matches (Element.DecodesTo r config scope) c := by
  cases n with
  | text value => rw [Node.decodesTo, Node.matches_text_iff]
  | element e => rw [Node.decodesTo, Node.matches_element_iff]

theorem Node.decodesAll_iff :
    Node.decodesAll r config scope content nodes children ↔
      List.Forall₂ (Node.Matches (Element.DecodesTo r config scope))
        (nodes.filter fun n => !n.isDropped config content) children := by
  induction nodes generalizing children with
  | nil => rw [Node.decodesAll, List.filter_nil, List.forall₂_nil_left_iff]
  | cons n ns ih =>
      rw [Node.decodesAll]
      split
      · next hdropped => rw [List.filter_cons_of_neg (by simpa using hdropped), ih]
      · next hkept =>
          rw [List.filter_cons_of_pos (by simpa using hkept), List.forall₂_cons_left_iff]
          simp only [ih, Node.decodesTo_iff]
          constructor
          · rintro ⟨c, cs, rfl, hc, hcs⟩
            exact ⟨c, cs, hc, hcs, rfl⟩
          · rintro ⟨c, cs, hc, hcs, rfl⟩
            exact ⟨c, cs, rfl, hc, hcs⟩

theorem Element.decodesTo_mk :
    Element.DecodesTo r config scope ⟨tag, nodes⟩ ⟨head, children⟩ ↔
      head.ReadFrom r config (scope.declareAll tag.declarations) tag ∧
        List.Forall₂
          (Node.Matches (Element.DecodesTo r config (scope.declareAll tag.declarations)))
          (nodes.filter fun n => !n.isDropped config head.descriptor.content) children := by
  rw [Element.DecodesTo, Node.decodesAll_iff]

/-! ### Which trees can be read -/

/-- A text that simple content can have. -/
def TypeDescriptor.FitsText (d : TypeDescriptor) (scope : Scope) (text : Option String) : Prop :=
  ∀ kind value, d.content = .simple kind → text = some value → kind.Accepts scope value

/-- What an element must fulfil to be read, whatever stands below it. -/
structure Element.Readable (r : Registry) (config : UnmarshalConfig) (scope : Scope) (depth : Nat)
    (e : Element) : Prop where
  depth_le : depth ≤ config.limits.maxDepth
  attributes_le : e.attributes.size ≤ config.limits.maxAttributes
  children_le : e.children.length ≤ config.limits.maxChildren
  typed : ∃ type d, e.NamesType scope type ∧ r.Chooses config e.name type d ∧
    (∀ entry ∈ e.attributes.entries, d.Fits scope entry) ∧ d.FitsText scope e.text?

theorem checkLimits_eq_ok {limits : Limits} {depth attributes children : Nat} :
    checkLimits limits depth attributes children = .ok () ↔
      depth ≤ limits.maxDepth ∧ attributes ≤ limits.maxAttributes ∧
        children ≤ limits.maxChildren := by
  rw [checkLimits]
  simp only [check_bind_eq_ok, mapError_eq_ok, Limits.check_eq_ok_iff, Limits.maximum]

theorem TypedObject.checkContent_eq_ok {o : TypedObject} :
    o.checkContent tag scope = .ok () ↔ o.descriptor.FitsText scope o.text? := by
  rw [TypedObject.checkContent, TypeDescriptor.FitsText]
  split
  · next kind text hcontent htext =>
      rw [hcontent, htext, mapError_eq_ok, ValueKind.check_eq_ok]
      refine ⟨fun h kind' value hkind hvalue => ?_, fun h => ?_⟩
      · cases hkind
        cases hvalue
        exact h
      · exact h kind text rfl rfl
  · next hother =>
      refine ⟨fun _ kind value hkind hvalue => ?_, fun _ => rfl⟩
      exact absurd hvalue (hother kind value hkind)

/-- What a run of reading an element consists of. -/
theorem Element.unmarshalAt_eq_ok :
    Element.unmarshalAt r config scope depth ⟨tag, nodes⟩ = .ok ⟨head, children⟩ ↔
      (depth ≤ config.limits.maxDepth ∧ tag.attributes.size ≤ config.limits.maxAttributes ∧
        nodes.length ≤ config.limits.maxChildren) ∧
      tag.readHead r config (scope.declareAll tag.declarations) = .ok head ∧
      Node.unmarshalAll r config (scope.declareAll tag.declarations) (depth + 1)
        head.descriptor.content nodes = .ok children ∧
      head.descriptor.FitsText (scope.declareAll tag.declarations)
        (TypedObject.text? ⟨head, children⟩) := by
  rw [Element.unmarshalAt]
  rw [check_bind_eq_ok, checkLimits_eq_ok]
  apply and_congr_right
  intro _
  simp only [bind_eq_ok, pure_eq_ok]
  constructor
  · rintro ⟨_, hhead, _, hchildren, ⟨⟩, htext, heq⟩
    cases heq
    exact ⟨hhead, hchildren, TypedObject.checkContent_eq_ok.1 htext⟩
  · rintro ⟨hhead, hchildren, htext⟩
    exact ⟨head, hhead, children, hchildren, (), TypedObject.checkContent_eq_ok.2 htext, rfl⟩

theorem Node.unmarshal_eq_ok {n : Node} {child : Option Child} :
    Node.unmarshal r config scope depth content n = .ok child ↔
      n.isDropped config content = true ∧ child = none ∨
      n.isDropped config content = false ∧
        ∃ c, child = some c ∧
          n.Matches (fun e o => e.unmarshalAt r config scope depth = .ok o) c := by
  cases n with
  | text value =>
      rw [Node.unmarshal, Node.isDropped, Except.ok.injEq]
      cases content.drops config value with
      | true => simp [eq_comm]
      | false =>
          simp only [Bool.false_eq_true, if_false, false_and, true_and, false_or]
          simp only [Node.matches_text_iff, exists_eq_right, eq_comm]
  | element e =>
      rw [Node.unmarshal, Node.isDropped, map_eq_ok]
      simp only [Bool.false_eq_true, false_and, true_and, false_or, Node.matches_element_iff]
      constructor
      · rintro ⟨o, ho, rfl⟩
        exact ⟨_, rfl, o, rfl, ho⟩
      · rintro ⟨_, rfl, o, rfl, ho⟩
        exact ⟨o, ho, rfl⟩

theorem Node.unmarshalAll_eq_ok :
    Node.unmarshalAll r config scope depth content nodes = .ok children ↔
      List.Forall₂ (Node.Matches fun e o => e.unmarshalAt r config scope depth = .ok o)
        (nodes.filter fun n => !n.isDropped config content) children := by
  induction nodes generalizing children with
  | nil =>
      rw [Node.unmarshalAll, List.filter_nil, List.forall₂_nil_left_iff]
      exact ⟨fun h => (Except.ok.inj h).symm, fun h => congrArg _ h.symm⟩
  | cons n ns ih =>
      rw [Node.unmarshalAll]
      simp only [bind_eq_ok, pure_eq_ok, ih, Node.unmarshal_eq_ok]
      cases hdropped : n.isDropped config content with
      | true =>
          rw [List.filter_cons_of_neg (by simp [hdropped])]
          refine ⟨?_, fun h => ?_⟩
          · rintro ⟨_, ⟨-, rfl⟩ | ⟨⟨⟩, -⟩, cs, hcs, rfl⟩
            exact hcs
          · exact ⟨none, .inl ⟨rfl, rfl⟩, children, h, rfl⟩
      | false =>
          rw [List.filter_cons_of_pos (by simp [hdropped]), List.forall₂_cons_left_iff]
          constructor
          · rintro ⟨_, ⟨⟨⟩, -⟩ | ⟨-, c, rfl, hc⟩, cs, hcs, rfl⟩
            exact ⟨c, cs, hc, hcs, rfl⟩
          · rintro ⟨c, cs, hc, hcs, rfl⟩
            exact ⟨some c, .inr ⟨rfl, c, rfl, hc⟩, cs, hcs, rfl⟩

/-- Simple content drops no text, so an object with it has the text of its element. -/
theorem fitsText_iff {d : TypeDescriptor} {R : Element → TypedObject → Prop}
    (h : List.Forall₂ (Node.Matches R) (nodes.filter fun n => !n.isDropped config d.content)
      children) :
    d.FitsText scope (TypedObject.text? ⟨head, children⟩) ↔
      d.FitsText scope (Element.text? ⟨tag, nodes⟩) := by
  cases hcontent : d.content with
  | simple kind =>
      have hkept : (nodes.filter fun n => !n.isDropped config d.content) = nodes := by
        rw [List.filter_eq_self]
        intro n _
        cases n <;> simp [Node.isDropped, hcontent, ContentModel.drops, ContentModel.ignoresBlank]
      rw [hkept] at h
      have htext : Element.text? ⟨tag, nodes⟩ = TypedObject.text? ⟨head, children⟩ :=
        text?_of_forall₂ h
      rw [htext]
  | _ => simp [TypeDescriptor.FitsText, hcontent]

/-- What is read fulfils the condition everywhere, and is what the relation names. -/
theorem Element.sound_of_unmarshalAt {e : Element} {o : TypedObject}
    (h : e.unmarshalAt r config scope depth = .ok o) :
    e.Everywhere (Readable r config) scope depth ∧ e.DecodesTo r config scope o := by
  induction e generalizing scope depth o with
  | mk tag nodes ih =>
      obtain ⟨head, children⟩ := o
      obtain ⟨⟨hdepth, hattributes, hnodes⟩, hhead, hchildren, htext⟩ := unmarshalAt_eq_ok.1 h
      obtain ⟨hread, hfits⟩ := Tag.readHead_eq_ok.1 hhead
      rw [Node.unmarshalAll_eq_ok] at hchildren
      rw [everywhere_mk, decodesTo_mk]
      refine ⟨⟨⟨hdepth, hattributes, hnodes, ?_⟩, fun e he => ?_⟩, hread, ?_⟩
      · exact ⟨_, _, hread.schemaType, hread.descriptor, hfits, (fitsText_iff hchildren).1 htext⟩
      · have hkept : .element e ∈
            nodes.filter fun n => !n.isDropped config head.descriptor.content :=
          List.mem_filter.2 ⟨he, rfl⟩
        obtain ⟨o, -, ho⟩ := exists_object_of_mem hchildren hkept
        exact (ih e he ho).1
      · refine Node.forall₂_matches_imp hchildren fun e o he _ ho => ?_
        exact (ih e (List.mem_of_mem_filter he) ho).2

/-- A tree that fulfils the condition everywhere can be read. -/
theorem Element.exists_unmarshalAt {e : Element}
    (h : e.Everywhere (Readable r config) scope depth) :
    ∃ o, e.unmarshalAt r config scope depth = .ok o := by
  induction e generalizing scope depth with
  | mk tag nodes ih =>
      -- The head is what the attributes make of a new one; the children come from the hypothesis.
      rw [everywhere_mk] at h
      obtain ⟨⟨hdepth, hattributes, hnodes, type, d, htype, hd, hfits, htext⟩, hbelow⟩ := h
      have hread := ObjectHead.readFrom_foldl_take htype hd
      generalize hhead : tag.attributes.entries.foldl ObjectHead.take _ = head at hread
      have hdescriptor : head.descriptor = d := by
        rw [← hhead]
        exact (ObjectHead.fixed_foldl_take _ _).1
      have hnode : ∀ n ∈ nodes.filter fun n => !n.isDropped config head.descriptor.content,
          ∃ c, n.Matches (fun e o =>
            e.unmarshalAt r config (scope.declareAll tag.declarations) (depth + 1) = .ok o) c := by
        intro n hn
        have hmem := List.mem_of_mem_filter hn
        cases n with
        | text value => exact ⟨_, .text value⟩
        | element e =>
            obtain ⟨o, ho⟩ := ih e hmem (hbelow e hmem)
            exact ⟨_, .element ho⟩
      obtain ⟨children, hchildren⟩ := exists_forall₂ hnode
      refine ⟨⟨head, children⟩, unmarshalAt_eq_ok.2 ⟨⟨hdepth, hattributes, hnodes⟩, ?_, ?_, ?_⟩⟩
      · rw [Tag.readHead_eq_ok, hdescriptor]
        exact ⟨hread, hfits⟩
      · exact Node.unmarshalAll_eq_ok.2 hchildren
      · rw [fitsText_iff hchildren, hdescriptor]
        exact htext

end Trees

/-- Reading ends well exactly on the trees each of whose elements, in the scope in force on it, is
within the limits, names a type that has a meaning if it names one, has a descriptor, and has values
in the lexical spaces of their kinds; and what is read is then what the descriptors make of it. -/
theorem Element.unmarshal_exactly (e : Element) (r : Registry) (config : UnmarshalConfig)
    (scope : Scope) :
    ((∃ o, e.unmarshal r config scope = .ok o) ↔ e.Everywhere (Readable r config) scope 1) ∧
      ∀ o, e.unmarshal r config scope = .ok o → e.DecodesTo r config scope o := by
  refine ⟨⟨?_, exists_unmarshalAt⟩, fun o ho => (sound_of_unmarshalAt ho).2⟩
  rintro ⟨o, ho⟩
  exact (sound_of_unmarshalAt ho).1

end XmlBinding
