import XmlBinding.Proofs.Built

/-!
Tags whose names are bound where they stand. What is read from such a tag can be written again, if
only the required attributes are there: no declaration is missing, none is in the way, and what was
checked on reading need not be checked again.
-/

namespace XmlBinding

/-! ### Trees that spell their names -/

/-- A declaration of a name for a namespace that is one; the default may be taken away. -/
structure Declaration.Legal (d : Declaration) : Prop where
  prefixIn : d.PrefixIn fun p => isNCName p = true
  uri_ne : d.nsPrefix ≠ none → d.uri ≠ ""

/-- A scope whose prefixes are names, with `xml` bound to its own namespace only and nothing bound
to the empty one. -/
structure Scope.Legal (s : Scope) : Prop where
  prefixesIn : s.PrefixesIn fun p => isNCName p = true
  lookup_ne : ∀ k, s.lookup k ≠ some ""

namespace Scope

variable {s : Scope}

theorem legal_empty : empty.Legal where
  prefixesIn := prefixesIn_empty
  lookup_ne k h := by
    cases k with
    | none => cases h
    | some p =>
        rw [lookup_some, prefixUri] at h
        split at h
        · exact absurd h (by decide)
        · cases h

theorem Legal.declareAll (hs : s.Legal) {ds : List Declaration} (hds : ∀ d ∈ ds, d.Legal) :
    (s.declareAll ds).Legal := by
  induction ds generalizing s with
  | nil => exact hs
  | cons d ds ih =>
      rw [List.forall_mem_cons] at hds
      refine ih ⟨hs.prefixesIn.declare hds.1.prefixIn, fun k => ?_⟩ hds.2
      rw [lookup_declare]
      split
      · rw [Declaration.meaning_eq hds.1.prefixIn hds.1.uri_ne]
        exact (QName.normal_iff.1 (QName.normal_of (some d.uri) none "")).1
      · exact hs.lookup_ne k

/-- Only names have a meaning as prefixes. -/
theorem PrefixesIn.isNCName_of_prefixUri (hs : s.PrefixesIn fun p => isNCName p = true)
    {p u : String} (hp : s.prefixUri p = some u) : isNCName p = true := by
  by_cases hxml : p = "xml"
  · rw [hxml]
    exact isNCName_xml
  · exact (hs _ (mem_bindings_of_prefixUri hp hxml) p rfl).1

/-- What a text denotes is a name whose own prefix, or its absence, is the reason why it does. -/
theorem Legal.of_resolve (hs : s.Legal) {text : String} {q : QName} (h : s.resolve text = .ok q) :
    q.Proper ∧ q.NamedIn s := by
  rw [resolve] at h
  split at h
  · next p after hsplit =>
      cases hp : s.prefixUri p with
      | none => simp [hp] at h
      | some uri =>
          simp only [hp, mapError_eq_ok, QName.of?_eq_ok] at h
          obtain ⟨rfl, hcheck⟩ := h
          have huri : uri ≠ "" := fun he => hs.lookup_ne (some p) (he ▸ hp)
          have hnsPrefix := ne_empty_of_isNCName (hs.prefixesIn.isNCName_of_prefixUri hp)
          refine ⟨?_, ?_, ?_⟩
          · exact QName.proper_iff.2 ⟨QName.normal_of _ _ _, QName.check_eq_ok.1 hcheck⟩
          · show s.lookup (present (some p)) = present (some uri)
            rw [present_of_ne hnsPrefix, present_of_ne huri, lookup_some, hp]
          · intro hnone
            exact nomatch (present_of_ne huri).symm.trans hnone
  · next whole hsplit =>
      simp only [mapError_eq_ok, QName.of?_eq_ok] at h
      obtain ⟨rfl, hcheck⟩ := h
      refine ⟨?_, ?_, fun _ => rfl⟩
      · exact QName.proper_iff.2 ⟨QName.normal_of _ _ _, QName.check_eq_ok.1 hcheck⟩
      · exact (present_eq_self_iff.2 (hs.lookup_ne none)).symm

end Scope

/-- A tag whose names are proper and bound where it stands: its own to exactly its namespace, those
of attributes to some prefix. No prefix is declared twice on it. -/
structure Tag.Spelled (scope : Scope) (tag : Tag) : Prop where
  name : tag.name.Proper
  named : tag.name.NamedIn scope
  attributeNames : ∀ entry ∈ tag.attributes.entries, entry.1.Proper
  attributes : ∀ entry ∈ tag.attributes.entries, ∀ uri, entry.1.uri = some uri →
    ∃ p, scope.prefixUri p = some uri
  declarations : ∀ d ∈ tag.declarations, d.Legal
  distinct : (tag.declarations.map Declaration.nsPrefix).Nodup

/-- A tag with all the attributes that the descriptor selected for it requires. -/
def Tag.Complete (r : Registry) (config : UnmarshalConfig) (scope : Scope) (tag : Tag) : Prop :=
  ∃ type d, tag.NamesType scope type ∧ r.Chooses config tag.name type d ∧
    ∀ spec ∈ d.attributes, spec.required = true → ∃ value, tag.attribute? spec.name = some value

/-! ### Writing what is bound already -/

namespace Frame

variable {f : Frame} {scope : Scope}

/-- A declaration of a prefix that the tag does not have yet: where it says nothing new, it is left
out. -/
theorem exists_bind {d : Declaration} (hagree : f.scope.Agree scope) (hd : d.Legal)
    (fresh : ∀ d' ∈ f.tag.declarations, d'.nsPrefix ≠ d.nsPrefix) :
    ∃ f', f.bind d.nsPrefix d.uri true = .ok f' ∧ f'.scope.Agree (scope.declare d) ∧
      f'.tag.name = f.tag.name ∧ ∀ d' ∈ f'.tag.declarations, d' ∈ f.tag.declarations ∨ d' = d := by
  by_cases hbound : f.scope.lookup d.nsPrefix = present (some d.uri)
  · refine ⟨f, binds_iff.2 (.inl ⟨hbound, rfl⟩), fun k => ?_, rfl, fun d' hd' => .inl hd'⟩
    rw [Scope.lookup_declare]
    split
    · next hsame => rw [← hsame, hbound, Declaration.meaning_eq hd.prefixIn hd.uri_ne]
    · exact hagree k
  · have hself : Declaration.of d.nsPrefix d.uri = d := by
      rw [Declaration.of, present_eq_self_iff.2 fun h => ?_]
      exact ne_empty_of_isNCName (hd.prefixIn "" h).1 rfl
    refine ⟨f.extend d true, ?_, hagree.declare d, rfl, fun d' hd' => ?_⟩
    · exact binds_iff.2 (.inr ⟨hbound, hd.uri_ne, fresh, by rw [hself]⟩)
    · rw [tag_extend_true, declarations_declare fresh, List.mem_append, List.mem_singleton] at hd'
      exact hd'

/-- Declarations that are made one after the other on a tag that has none of their prefixes. -/
theorem exists_bindAll {ds : List Declaration} (hagree : f.scope.Agree scope)
    (hds : ∀ d ∈ ds, d.Legal) (distinct : (ds.map Declaration.nsPrefix).Nodup)
    (fresh : ∀ d ∈ f.tag.declarations, d.nsPrefix ∉ ds.map Declaration.nsPrefix) :
    ∃ f', f.bindAll ds = .ok f' ∧ f'.scope.Agree (scope.declareAll ds) ∧
      f'.tag.name = f.tag.name := by
  induction ds generalizing f scope with
  | nil => exact ⟨f, rfl, hagree, rfl⟩
  | cons d ds ih =>
      rw [List.forall_mem_cons] at hds
      rw [List.map_cons, List.nodup_cons] at distinct
      simp only [List.map_cons, List.mem_cons, not_or] at fresh
      obtain ⟨f₁, hbind, hscope₁, hname₁, hdeclarations⟩ :=
        exists_bind hagree hds.1 fun d' hd' => (fresh d' hd').1
      have hfresh : ∀ d' ∈ f₁.tag.declarations, d'.nsPrefix ∉ ds.map Declaration.nsPrefix := by
        intro d' hd'
        rcases hdeclarations d' hd' with hmem | rfl
        · exact (fresh d' hmem).2
        · exact distinct.1
      obtain ⟨f', hall, hscope, hname⟩ := ih hscope₁ hds.2 distinct.2 hfresh
      refine ⟨f', ?_, hscope, hname.trans hname₁⟩
      rw [bindAll, List.foldlM_cons, bind_eq_ok]
      exact ⟨f₁, hbind, hall⟩

/-- A name that is bound already needs no declaration. -/
theorem bindElementName_of_namedIn (hnormal : f.tag.name.Normal) (h : f.tag.name.NamedIn f.scope) :
    f.bindElementName = .ok f := by
  refine bindElementName_eq_ok.2 ⟨h.2, binds_iff.2 (.inl ⟨?_, rfl⟩)⟩
  rw [h.1, hnormal.present_uri]

/-- A type whose prefix, or its absence, stands for its namespace can be spelled without a
declaration. -/
theorem exists_typeText {type : QName} (hf : f.scope.PrefixesIn fun p => isNCName p = true)
    (h : type.NamedIn f.scope) : ∃ text, f.typeText type = .ok (text, f) := by
  have hlookup := h.1
  rw [typeText]
  cases huri : type.uri with
  | none =>
      rw [h.2 huri, Scope.lookup_none, huri] at hlookup
      refine ⟨type.localName, if_pos ?_⟩
      rw [hlookup]
      rfl
  | some uri =>
      dsimp only
      split
      · exact ⟨_, rfl⟩
      · next hother =>
          -- The default alone is not enough here, so a prefix is found for the namespace.
          have hbound : ∃ p, f.scope.prefixUri p = some uri := by
            cases hp : type.nsPrefix with
            | some p =>
                rw [hp, huri, Scope.lookup_some] at hlookup
                exact ⟨p, hlookup⟩
            | none =>
                rw [hp, huri, Scope.lookup_none] at hlookup
                cases hfound : f.scope.findPrefix uri with
                | some p => exact ⟨p, hf.prefixUri_of_findPrefix hfound⟩
                | none => simp [hp, hfound, hlookup] at hother
          have hreached : ∀ uri', type.uri = some uri' → ∃ p, f.scope.prefixUri p = some uri' := by
            intro uri' huri'
            cases huri.symm.trans huri'
            exact hbound
          obtain ⟨name, hqualify⟩ := exists_qualify (d := true) hreached
          rw [hqualify]
          exact ⟨_, rfl⟩

/-- The type that was read from a tag can be spelled again. -/
theorem exists_typeText? {tag : Tag} {type : Option QName} (hs : scope.Legal)
    (hf : f.scope.PrefixesIn fun p => isNCName p = true) (hagree : f.scope.Agree scope)
    (h : tag.NamesType scope type) :
    ∃ text, f.typeText? type = .ok (text, f) ∧
      (text ≠ none → ∃ value, tag.attribute? xsiTypeName = some value) := by
  cases h with
  | absent => exact ⟨none, rfl, fun h => absurd rfl h⟩
  | @named value type hvalue hmeaning =>
      obtain ⟨text, htext⟩ :=
        exists_typeText hf ((hs.of_resolve hmeaning).2.mono hagree.symm.extends)
      refine ⟨some text, ?_, fun _ => ⟨value, hvalue⟩⟩
      rw [typeText?, htext]
      rfl

end Frame

/-! ### What was read, before it is written -/

namespace ObjectHead

variable {r : Registry} {config : UnmarshalConfig} {scope : Scope} {tag : Tag} {head : ObjectHead}
  {declare : Bool}

namespace ReadFrom

/-- Every attribute that is to be written stands on the tag that was read. -/
theorem attribute?_of_mem_entries (h : head.ReadFrom r config scope tag) {text : Option String}
    (htext : text ≠ none → ∃ value, tag.attribute? xsiTypeName = some value) :
    ∀ w ∈ head.entries text declare, ∃ value, tag.attribute? w.1 = some value := by
  have optional {name : QName} {value : Option String} {w : Frame.Entry}
      (hw : w ∈ Frame.optional name value declare)
      (hvalue : value ≠ none → ∃ value, tag.attribute? name = some value) :
      ∃ value, tag.attribute? w.1 = some value := by
    rw [Frame.optional, Option.mem_toList, Option.map_eq_some_iff] at hw
    obtain ⟨v, rfl, rfl⟩ := hw
    exact hvalue (Option.some_ne_none v)
  have stored {w : Frame.Entry} (hw : (w.1, w.2.1) ∈ tag.attributes.entries) :
      ∃ value, tag.attribute? w.1 = some value :=
    ⟨w.2.1, OrderedTable.get?_of_mem hw⟩
  intro w hw
  simp only [entries, instanceEntries, List.mem_append] at hw
  rcases hw with ((hw | hw | hw | hw) | hw) | hw
  · exact optional hw htext
  · rw [h.schemaLocation] at hw
    exact optional hw Option.ne_none_iff_exists'.1
  · rw [h.noNamespaceLocation] at hw
    exact optional hw Option.ne_none_iff_exists'.1
  · refine optional hw fun hnil => Option.ne_none_iff_exists'.1 fun habsent => hnil ?_
    rw [h.nil, habsent]
    rfl
  · have hmem := (mem_modeledEntries hw).1
    rw [h.attributes] at hmem
    exact stored (List.mem_of_mem_filter hmem)
  · have hmem := (mem_unknownEntries hw).1
    rw [h.unknown] at hmem
    exact stored (List.mem_of_mem_filter hmem)

/-- The two tables of an object share the attributes of the tag between them. -/
theorem size_le (h : head.ReadFrom r config scope tag) :
    head.attributes.size + head.unknown.size ≤ tag.attributes.size := by
  -- No attribute passes both filters: the second one's are among those the first one leaves.
  have hunknown : (tag.attributes.entries.filter fun e =>
      !e.1.isInstance && !head.descriptor.models e.1).length ≤
      (tag.attributes.entries.filter fun e =>
        !(!e.1.isInstance && head.descriptor.models e.1)).length := by
    refine (List.monotone_filter_right _ fun e he => ?_).length_le
    simp only [Bool.and_eq_true, Bool.not_eq_true'] at he
    simp [he.2]
  have hsplit := List.length_eq_length_filter_add (l := tag.attributes.entries)
    fun e => !e.1.isInstance && head.descriptor.models e.1
  rw [h.attributes, h.unknown]
  show (List.filter _ _).length + (List.filter _ _).length ≤ tag.attributes.entries.length
  omega

/-- What is required of the object is required of the tag. -/
theorem complete_iff (h : head.ReadFrom r config scope tag)
    (hcheck : head.descriptor.check = .ok ()) : head.Complete ↔ tag.Complete r config scope := by
  have hget : ∀ spec ∈ head.descriptor.attributes,
      head.attributes.get? spec.name.expanded = tag.attribute? spec.name := by
    intro spec hspec
    have hmodels : head.descriptor.models spec.name = true :=
      TypeDescriptor.models_iff.2 (List.mem_map_of_mem hspec)
    have hinstance := TypeDescriptor.isInstance_of_models hcheck hmodels
    rw [h.attributes_get?, hmodels, hinstance]
    rfl
  refine ⟨fun hcomplete => ?_, ?_⟩
  · refine ⟨_, _, h.schemaType, h.descriptor, fun spec hspec hrequired => ?_⟩
    rw [← hget spec hspec]
    exact hcomplete spec hspec hrequired
  · rintro ⟨type, d, htype, hd, hrequired⟩ spec hspec hspecRequired
    obtain rfl := htype.eq h.schemaType
    obtain rfl := hd.eq h.descriptor
    rw [hget spec hspec]
    exact hrequired spec hspec hspecRequired

/-- What was checked on reading need not be checked on writing. -/
theorem namesMeant (h : head.ReadFrom r config scope tag) (hcheck : head.descriptor.check = .ok ())
    (hfits : ∀ entry ∈ tag.attributes.entries, head.descriptor.Fits scope entry)
    {text : Option String} (htext : head.descriptor.FitsText scope text) :
    head.NamesMeant scope text where
  attributes spec hspec hkind value hvalue := by
    have hspec? := TypeDescriptor.spec?_of_mem hcheck hspec
    rw [h.attribute?_eq] at hvalue
    split at hvalue
    · cases hvalue
    · next hinstance =>
        obtain ⟨name, hmem, hname⟩ := OrderedTable.get?_eq_some_iff.1 hvalue
        rw [← QName.isInstance_congr hname, Bool.not_eq_true] at hinstance
        rw [← TypeDescriptor.spec?_congr hname] at hspec?
        rw [← hkind]
        exact (hfits _ hmem).value hinstance spec hspec?
  content hcontent value hvalue := htext .qName value hcontent hvalue

end ReadFrom

end ObjectHead

/-! ### One tag, read and written -/

namespace ObjectHead

section Level

variable {r : Registry} {config : UnmarshalConfig} {scope scope' : Scope} {tag : Tag}
  {head : ObjectHead} {text : Option String} {f : Frame}

/-- What was read from a tag with proper names has proper names. -/
theorem ReadFrom.legal (h : head.ReadFrom r config scope tag) (hs : scope.Legal)
    (htag : tag.Spelled scope) : head.Legal fun p => isNCName p = true where
  elementName := h.elementName ▸ htag.name.legal
  xmlName hxml := by
    rw [h.elementName] at hxml ⊢
    rw [← htag.named.1, hxml]
    exact Scope.prefixUri_xml scope
  schemaType type htype := by
    have hnames := h.schemaType
    rw [htype] at hnames
    cases hnames with
    | named hvalue hmeaning => exact (hs.of_resolve hmeaning).1.legal
  attributes e he := by
    rw [h.attributes] at he
    exact (htag.attributeNames e (List.mem_of_mem_filter he)).legal
  unknown e he := by
    rw [h.unknown] at he
    exact (htag.attributeNames e (List.mem_of_mem_filter he)).legal
  declarations d hd := by
    rw [h.declarations, List.mem_eraseDups] at hd
    exact (htag.declarations d hd).prefixIn

/-- The tag is opened again with the declarations it was read with. -/
theorem ReadFrom.exists_openTag (h : head.ReadFrom r config (scope.declareAll tag.declarations) tag)
    (htag : tag.Spelled (scope.declareAll tag.declarations)) (hagree : scope'.Agree scope) :
    ∃ f, head.openTag scope' = .ok f ∧ f.scope.Agree (scope.declareAll tag.declarations) := by
  have hdeclarations : head.declarations = tag.declarations := by
    rw [h.declarations]
    exact eraseDups_of_nodup (List.Nodup.of_map _ htag.distinct)
  obtain ⟨f, hall, hscope, hname⟩ := Frame.exists_bindAll (f := .start head.elementName scope')
    hagree htag.declarations htag.distinct (List.forall_mem_nil _)
  replace hname : f.tag.name = tag.name := hname.trans h.elementName
  have hnamed : f.tag.name.NamedIn f.scope := by
    rw [hname]
    exact htag.named.mono hscope.symm.extends
  have hnormal : f.tag.name.Normal := by
    rw [hname]
    exact htag.name.normal
  refine ⟨f, ?_, hscope⟩
  rw [openTag, hdeclarations, bind_eq_ok]
  exact ⟨f, hall, Frame.bindElementName_of_namedIn hnormal hnamed⟩

/-- The namespaces of all attributes that are to be written are bound. -/
theorem ReadFrom.reached (h : head.ReadFrom r config scope tag) (htag : tag.Spelled scope)
    (hagree : f.scope.Agree scope) {typeText : Option String}
    (hpresent : typeText ≠ none → ∃ value, tag.attribute? xsiTypeName = some value) :
    ∀ w ∈ head.entries typeText true, ∀ uri, w.1.uri = some uri →
      ∃ p, f.scope.prefixUri p = some uri := by
  intro w hw uri huri
  obtain ⟨value, hvalue⟩ := h.attribute?_of_mem_entries hpresent w hw
  obtain ⟨name, hmem, hsame⟩ := OrderedTable.get?_eq_some_iff.1 hvalue
  rw [QName.uri, ← hsame] at huri
  obtain ⟨p, hp⟩ := htag.attributes _ hmem uri huri
  exact ⟨p, (hagree (some p)).trans hp⟩

/-- Writing what was read from a tag goes one way only: everything that is needed is bound already,
and the frame is there if only the required attributes are. -/
theorem ReadFrom.writeTag_eq_ok (limits : Limits)
    (h : head.ReadFrom r config (scope.declareAll tag.declarations) tag)
    (hcheck : head.descriptor.check = .ok ())
    (hfits : ∀ entry ∈ tag.attributes.entries,
      head.descriptor.Fits (scope.declareAll tag.declarations) entry)
    (htext : head.descriptor.FitsText (scope.declareAll tag.declarations) text)
    (hs : scope.Legal) (htag : tag.Spelled (scope.declareAll tag.declarations))
    (hs' : scope'.PrefixesIn fun p => isNCName p = true) (hagree : scope'.Agree scope) :
    ∃ f, f.scope.Agree (scope.declareAll tag.declarations) ∧
      ∀ f', head.writeTag text ⟨limits, true⟩ scope' = .ok f' ↔
        tag.Complete r config (scope.declareAll tag.declarations) ∧ f = f' := by
  have hinside := hs.declareAll htag.declarations
  obtain ⟨f₀, hopen, hscope⟩ := h.exists_openTag htag hagree
  obtain ⟨hopened, -⟩ :=
    openTag_sound Scope.tracking_eq prefixClass_isNCName (h.legal hinside htag) hs' rfl hopen
  obtain ⟨typeText, htype, hpresent⟩ :=
    Frame.exists_typeText? hinside hopened.prefixes hscope h.schemaType
  obtain ⟨f, hwrite, hscope'⟩ := Frame.exists_writeAll (h.reached htag hscope hpresent)
  rw [← hscope'] at hscope
  refine ⟨f, hscope, fun f' => ?_⟩
  rw [ObjectHead.writeTag_eq_ok, h.complete_iff hcheck]
  constructor
  · rintro ⟨-, hcomplete, -, f₀', typeText', f₁', hopen', htype', hwrite'⟩
    -- Each part of the run has one result, so this run is the one above.
    cases hopen.symm.trans hopen'
    cases htype.symm.trans htype'
    exact ⟨hcomplete, Except.ok.inj (hwrite.symm.trans hwrite')⟩
  · rintro ⟨hcomplete, rfl⟩
    have hmeant := (h.namesMeant hcheck hfits htext).mono hscope.symm.extends
    refine ⟨?_, hcomplete, checkNames_eq_ok.2 hmeant, f₀, typeText, f₀, hopen, htype, hwrite⟩
    rw [h.elementName]
    exact htag.name.localName

end Level

end ObjectHead

end XmlBinding
