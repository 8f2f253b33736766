import XmlBinding.Proofs.Blame
import XmlBinding.Proofs.InForce
import XmlBinding.Proofs.Serialized

/-!
Which names stand on a written tag. The local name of an element is checked; the local names of
attributes are those that were set, whatever they are. A prefix on the tag is bound there, so it
comes from the surroundings, was made up, or was brought along: by a declaration of the object, by
the name of its element, by its type or by an attribute. Main statement: what an object must keep to
for the names on its element to be legal.
-/

namespace XmlBinding

/-- The prefix, if there is one, is a name. -/
def Declaration.PrefixNamed (d : Declaration) : Prop :=
  ∀ p, d.nsPrefix = some p → isNCName p = true

instance (d : Declaration) : Decidable d.PrefixNamed :=
  inferInstanceAs (Decidable (∀ p ∈ d.nsPrefix, isNCName p = true))

/-- Every prefix that is bound is a name. -/
def Scope.PrefixesNamed (s : Scope) : Prop :=
  ∀ p, s.prefixUri p ≠ none → isNCName p = true

/-- Every name on a start tag passes the check for names, and so does every prefix that the tag
declares. -/
structure Tag.LegalNames (tag : Tag) : Prop where
  name : tag.name.check = .ok ()
  attributes : ∀ e ∈ tag.attributes.entries, e.1.check = .ok ()
  declarations : ∀ d ∈ tag.declarations, d.PrefixNamed

namespace ObjectHead

/-- The names that need not be written, where another prefix is bound to their namespace, with the
prefix that they have. -/
def prefixedNames (head : ObjectHead) : List QName :=
  head.schemaType.toList ++ head.attributeNames

/-- What an object may bring along as a declaration on its tag. -/
def Brings (head : ObjectHead) (d : Declaration) : Prop :=
  d ∈ head.demands ∧ (d.nsPrefix ≠ none → d.uri ≠ "") ∨
    ∃ name ∈ head.prefixedNames, name.uri = some d.uri ∧ name.nsPrefix = d.nsPrefix

/-- All names of an object pass the check for names. -/
structure NamesChecked (head : ObjectHead) : Prop where
  elementName : head.elementName.check = .ok ()
  prefixedNames : ∀ name ∈ head.prefixedNames, name.check = .ok ()
  declarations : ∀ d ∈ head.declarations, d.PrefixNamed

/-- What makes the names on the element of an object legal, where all prefixes that are bound around
it are names: so are the local names of its attributes and the prefixes that it demands, and those
that its type or an attribute brings along if the element declares them. -/
structure KeepsLegal (head : ObjectHead) (tag : Tag) : Prop where
  attributes : ∀ name ∈ head.attributeNames, isNCName name.localName = true
  demands : ∀ d ∈ head.demands, d.uri ≠ "" → d.PrefixNamed
  brought : ∀ name ∈ head.prefixedNames, ∀ d ∈ tag.declarations,
    name.uri = some d.uri → name.nsPrefix = d.nsPrefix → d.PrefixNamed

theorem NamesChecked.keepsLegal {head : ObjectHead} (h : head.NamesChecked) (tag : Tag) :
    head.KeepsLegal tag where
  attributes name hname :=
    (QName.check_eq_ok.1 (h.prefixedNames name (List.mem_append_right _ hname))).1
  demands d hd _ := by
    rcases List.mem_append.1 hd with hd | hd
    · exact h.declarations d hd
    · rw [List.mem_singleton.1 hd]
      exact (QName.check_eq_ok.1 h.elementName).2
  brought name hname d _ _ hsame p hp :=
    (QName.check_eq_ok.1 (h.prefixedNames name hname)).2 p (hsame.trans hp)

end ObjectHead

/-! ### Where prefixes come from -/

theorem QName.eq_of_withPrefix {name : QName} {p q : String}
    (h : (name.withPrefix (some p)).nsPrefix = some q) : p = q := by
  have hpresent : present (some p) = some q := h
  rw [present, Option.filter_eq_some_iff] at hpresent
  exact Option.some.inj hpresent.1

namespace Scope

/-- Every prefix that is bound in the one scope is a name or bound in the other, too. -/
def CoveredBy (s t : Scope) : Prop :=
  ∀ p, s.prefixUri p ≠ none → isNCName p = true ∨ t.prefixUri p ≠ none

theorem PrefixesNamed.declareAll {s : Scope} (hs : s.PrefixesNamed) {ds : List Declaration}
    (hds : ∀ d ∈ ds, d.PrefixNamed) : (s.declareAll ds).PrefixesNamed := by
  intro p hp
  by_cases hdeclared : ∃ d ∈ ds, d.nsPrefix = some p
  · obtain ⟨d, hd, hsame⟩ := hdeclared
    exact hds d hd p hsame
  · push Not at hdeclared
    rw [← lookup_some, lookup_declareAll_of_absent hdeclared] at hp
    exact hs p hp

/-- A prefix that is bound after a declaration is the one declared or was bound before. -/
theorem bound_declare_iff {s : Scope} {d : Declaration} {p : String} :
    (s.declare d).prefixUri p ≠ none ↔ d.nsPrefix = some p ∨ s.prefixUri p ≠ none := by
  rw [← lookup_some, lookup_declare]
  split
  · next hsame => exact iff_of_true (Declaration.meaning_ne_none hsame) (.inl hsame)
  · next hother => exact (or_iff_right hother).symm

theorem bound_of_findPrefix {s : Scope} {p uri : String} (h : s.findPrefix uri = some p) :
    s.prefixUri p ≠ none := by
  rw [prefixUri_of_findPrefix h]
  split
  · exact Option.some_ne_none xmlUri
  · exact Option.some_ne_none uri

theorem CoveredBy.declare {s t : Scope} (h : s.CoveredBy t) (d : Declaration) :
    (s.declare d).CoveredBy (t.declare d) := by
  intro p hp
  rw [bound_declare_iff] at hp ⊢
  rcases hp with hp | hp
  · exact .inr (.inl hp)
  · exact (h p hp).imp_right .inr

end Scope

namespace Frame

/-- A frame in which every prefix has a source: those of attributes are bound, what is bound is
declared on the tag or around it, and what is declared on the tag was made up or brought along. -/
structure Sourced (brings : Declaration → Prop) (start : Scope) (f : Frame) : Prop where
  declared : ∀ d ∈ f.tag.declarations, d.PrefixNamed ∨ brings d
  covered : f.scope.CoveredBy (start.declareAll f.tag.declarations)
  attributes : ∀ e ∈ f.tag.attributes.entries, ∀ p, e.1.nsPrefix = some p →
    f.scope.prefixUri p ≠ none

variable {brings : Declaration → Prop} {start : Scope} {f f' : Frame} {declare : Bool}

theorem sourced_start {scope : Scope} (h : scope.CoveredBy start) (name : QName) :
    Sourced brings start (Frame.start name scope) where
  declared := nofun
  covered := h
  attributes := nofun

/-- Binding a prefix keeps the sources; only a prefix that is a name may go undeclared. -/
theorem Sourced.bind (hf : Sourced brings start f) {p : Option String} {uri : String}
    (hp : p ≠ some "")
    (hsource : (p ≠ none → uri ≠ "") →
      (⟨p, uri⟩ : Declaration).PrefixNamed ∨ brings ⟨p, uri⟩)
    (hassumed : declare = false → (⟨p, uri⟩ : Declaration).PrefixNamed)
    (h : f.bind p uri declare = .ok f') : Sourced brings start f' := by
  rcases binds_iff.1 h with ⟨-, rfl⟩ | ⟨-, hne, hfresh, rfl⟩
  · exact hf
  rw [Declaration.of, present_eq_self_iff.2 hp]
  have hattributes : ∀ e ∈ (f.extend ⟨p, uri⟩ declare).tag.attributes.entries, ∀ q,
      e.1.nsPrefix = some q → (f.scope.declare ⟨p, uri⟩).prefixUri q ≠ none := by
    intro e he q hq
    rw [attributes_extend] at he
    exact Scope.bound_declare_iff.2 (.inr (hf.attributes e he q hq))
  cases declare with
  | true =>
      have hdeclarations : (f.extend ⟨p, uri⟩ true).tag.declarations =
          f.tag.declarations ++ [⟨p, uri⟩] :=
        declarations_declare hfresh
      refine ⟨?_, ?_, hattributes⟩
      · rw [hdeclarations, List.forall_mem_append, List.forall_mem_singleton]
        exact ⟨hf.declared, hsource hne⟩
      · rw [hdeclarations, Scope.declareAll_append]
        exact hf.covered.declare ⟨p, uri⟩
  | false =>
      refine ⟨hf.declared, fun q hq => ?_, hattributes⟩
      rcases Scope.bound_declare_iff.1 hq with hsame | hbound
      · exact .inl (hassumed rfl q hsame)
      · exact hf.covered q hbound

theorem Sourced.bindAll (hf : Sourced brings start f) {ds : List Declaration}
    (hds : ∀ d ∈ ds, d.nsPrefix ≠ some "" ∧ ((d.nsPrefix ≠ none → d.uri ≠ "") → brings d))
    (h : f.bindAll ds = .ok f') : Sourced brings start f' :=
  foldlM_invariant (fun d hd _ _ hf hbind =>
    hf.bind (hds d hd).1 (fun hne => .inr ((hds d hd).2 hne)) (by simp) hbind) hf h

/-- A name is qualified by a prefix that is bound then. -/
theorem Sourced.qualify (hf : Sourced brings start f) {name name' : QName} (hname : name.Normal)
    (hsource : ∀ uri, name.uri = some uri →
      (⟨name.nsPrefix, uri⟩ : Declaration).PrefixNamed ∨ brings ⟨name.nsPrefix, uri⟩)
    (hassumed : declare = false → ∀ p, name.nsPrefix = some p → isNCName p = true)
    (h : f.qualify name declare = .ok (name', f')) :
    Sourced brings start f' ∧
      ∀ p, name'.nsPrefix = some p → f'.scope.prefixUri p ≠ none := by
  -- A prefix that is bound for the name is bound afterwards.
  have hbinds {p uri : String} {d : Bool} (huri : name.uri = some uri) (hp : p ≠ "")
      (hfree : f.scope.prefixUri p = none)
      (hsource : (⟨some p, uri⟩ : Declaration).PrefixNamed ∨ brings ⟨some p, uri⟩)
      (hassumed : d = false → isNCName p = true) (hbind : f.bind (some p) uri d = .ok f') :
      Sourced brings start f' ∧ f'.scope.prefixUri p ≠ none := by
    refine ⟨hf.bind (by simpa using hp) (fun _ => hsource) ?_ hbind, ?_⟩
    · intro hd q hq
      exact Option.some.inj hq ▸ hassumed hd
    · obtain ⟨-, rfl⟩ := (bind_free hp (hname.uri_ne huri) hfree).1 hbind
      exact Scope.bound_declare_iff.2 (.inl rfl)
  cases qualified_of_qualify h with
  | unqualified => exact ⟨hf, nofun⟩
  | @kept q uri huri hq bound =>
      refine ⟨hf, fun p hp => ?_⟩
      rw [← Option.some.inj (hq.symm.trans hp), bound]
      exact Option.some_ne_none uri
  | @found q uri huri found =>
      refine ⟨hf, fun p hp => ?_⟩
      obtain rfl := QName.eq_of_withPrefix hp
      exact Scope.bound_of_findPrefix found
  | @numbered n uri _ huri free bind =>
      have hnamed := isNCName_numberedPrefix n
      obtain ⟨hf', hbound⟩ := hbinds huri (ne_empty_of_isNCName hnamed) free
        (.inl fun q hq => Option.some.inj hq ▸ hnamed) (by simp) bind
      exact ⟨hf', fun p hp => QName.eq_of_withPrefix hp ▸ hbound⟩
  | @own q uri _ huri hq free bind =>
      obtain ⟨hf', hbound⟩ := hbinds huri (hname.prefix_ne hq) free (hq ▸ hsource uri huri)
        (fun hd => hassumed hd q hq) bind
      exact ⟨hf', fun p hp => Option.some.inj (hq.symm.trans hp) ▸ hbound⟩

theorem Sourced.typeText? (hf : Sourced brings start f) {type : Option QName}
    (htype : ∀ t, type = some t → t.Normal)
    (hsource : ∀ t, type = some t → ∀ uri, t.uri = some uri → brings ⟨t.nsPrefix, uri⟩)
    {text : Option String} (h : f.typeText? type = .ok (text, f')) : Sourced brings start f' := by
  cases type with
  | none =>
      cases h
      exact hf
  | some type =>
      obtain ⟨⟨value, f₁⟩, htext, heq⟩ := map_eq_ok.1 h
      cases heq
      rcases typeText_cases htext with ⟨-, -, rfl⟩ | ⟨name, hqualify, -, -⟩
      · exact hf
      · exact (hf.qualify (htype type rfl) (fun uri huri => .inr (hsource type rfl uri huri))
          (by simp) hqualify).1

theorem Sourced.write (hf : Sourced brings start f) {w : Entry} (hname : w.1.Normal)
    (hsource : ∀ uri, w.1.uri = some uri →
      (⟨w.1.nsPrefix, uri⟩ : Declaration).PrefixNamed ∨ brings ⟨w.1.nsPrefix, uri⟩)
    (hassumed : w.2.2 = false → ∀ p, w.1.nsPrefix = some p → isNCName p = true)
    (h : f.write w = .ok f') : Sourced brings start f' := by
  obtain ⟨⟨name, f₁⟩, hqualify, heq⟩ := bind_eq_ok.1 h
  rw [pure_eq_ok] at heq
  subst heq
  obtain ⟨hf₁, hbound⟩ := hf.qualify hname hsource hassumed hqualify
  refine ⟨hf₁.declared, hf₁.covered, fun e he p hp => ?_⟩
  -- An attribute that is there already keeps the name that it was written with.
  rcases OrderedTable.mem_items_put he with hwritten | ⟨e', he', hkept⟩
  · exact hbound p (hwritten ▸ hp)
  · exact hf₁.attributes e' he' p (hkept ▸ hp)

/-- What is bound stays bound. -/
theorem Grows.bound (h : Grows declare f f') {p : String} (hp : f.scope.prefixUri p ≠ none) :
    f'.scope.prefixUri p ≠ none := by
  cases h with
  | same => exact hp
  | bind => exact Scope.bound_declare_iff.2 (.inr hp)

end Frame

/-! ### Written tags -/

namespace ObjectHead

variable {head : ObjectHead} {tag : Tag} {start scope : Scope} {config : MarshalConfig}
  {text : Option String} {f : Frame}

/-- What is known of the names on a tag that is written for an object, in the scope in force on it.
-/
structure TracedBy (inForce : Scope) (head : ObjectHead) (tag : Tag) : Prop where
  name_eq : tag.name = head.elementName
  localName : isNCName head.elementName.localName = true
  prefixed : head.elementName.nsPrefix ≠ none → head.elementName.uri.getD "" ≠ ""
  localNames : (∀ e ∈ tag.attributes.entries, isNCName e.1.localName = true) ↔
    ∀ name ∈ head.attributeNames, isNCName name.localName = true
  declared : ∀ d ∈ tag.declarations, d.PrefixNamed ∨ head.Brings d
  attributes : ∀ e ∈ tag.attributes.entries, ∀ p, e.1.nsPrefix = some p →
    isNCName p = true ∨ inForce.prefixUri p ≠ none
  demands : ∀ d ∈ head.demands, d.uri ≠ "" → ∀ p, d.nsPrefix = some p →
    isNCName p = true ∨ inForce.prefixUri p ≠ none

/-- The names of the attributes on a tag are those of the object, and some that every element may
have. -/
theorem localNames_iff_of_writeTag (hhead : head.Regular)
    (h : head.writeTag text config scope = .ok f) :
    (∀ e ∈ f.tag.attributes.entries, isNCName e.1.localName = true) ↔
      ∀ name ∈ head.attributeNames, isNCName name.localName = true := by
  have hadded : ∀ name ∈ head.addedFields, isNCName name.localName = true := by
    have hfields : ∀ name ∈ [xsiTypeName, xsiSchemaLocationName, xsiNoNamespaceLocationName,
        xsiNilName], isNCName name.localName = true := by
      decide
    exact fun name hname => hfields name ((List.filter_sublist.map Prod.fst).subset hname)
  have hkeys : (∀ e ∈ f.tag.attributes.entries, isNCName e.1.localName = true) ↔
      ∀ k ∈ head.writtenKeys, isNCName k.localName = true := by
    simp only [mem_writtenKeys_iff hhead h, ← OrderedTable.mem_keys_iff, List.forall_mem_map]
  rw [hkeys, writtenKeys, List.forall_mem_append, List.forall_mem_append, attributeNames,
    List.forall_mem_append]
  simp only [OrderedTable.items, List.forall_mem_map]
  exact and_iff_left hadded

theorem Normal.name_of_writeTag (hhead : head.Normal)
    (h : head.writeTag text config scope = .ok f) : f.tag.name = head.elementName := by
  obtain ⟨-, -, -, f₀, typeText, f₁, hopen, htype, hwrite⟩ := writeTag_eq_ok.1 h
  have hopened : f₁.tag.name = head.elementName :=
    ((bindsOnly_of_openTag hopen).trans
      (Frame.typeText?_grows hhead.schemaType htype).2.bindsOnly).name
  refine foldlM_invariant (motive := fun f => f.tag.name = head.elementName) ?_ hopened hwrite
  intro w hw f₂ f₃ h₂ hwrite
  obtain ⟨_, _, hgrows, -, rfl⟩ := Frame.write_grows (hhead.entries typeText w hw) hwrite
  exact hgrows.bindsOnly.name.trans h₂

/-- A name that is written is one that every element may have, or it comes with the prefix that it
was set with. -/
theorem source_of_mem_entries (head : ObjectHead) {typeText : Option String} {declare : Bool}
    {w : Frame.Entry} (hw : w ∈ head.entries typeText declare) :
    (∀ uri, w.1.uri = some uri →
      (⟨w.1.nsPrefix, uri⟩ : Declaration).PrefixNamed ∨ head.Brings ⟨w.1.nsPrefix, uri⟩) ∧
    (w.2.2 = false → ∀ p, w.1.nsPrefix = some p → isNCName p = true) := by
  have hown (hname : w.1 ∈ head.attributeNames) (uri : String) (huri : w.1.uri = some uri) :
      head.Brings ⟨w.1.nsPrefix, uri⟩ :=
    .inr ⟨w.1, List.mem_append_right _ hname, huri, rfl⟩
  simp only [entries, List.mem_append] at hw
  rcases hw with (hw | hw) | hw
  · have hnames : ∀ name ∈ instanceNames, ∀ p ∈ name.nsPrefix, isNCName p = true := by decide
    have hnamed := hnames w.1 (mem_instanceEntries hw).1
    exact ⟨fun _ _ => .inl hnamed, fun _ => hnamed⟩
  · obtain ⟨hmem, hdeclare⟩ := mem_modeledEntries hw
    have hname : w.1 ∈ head.attributeNames :=
      List.mem_append_left _ (List.mem_map_of_mem hmem)
    exact ⟨fun uri huri => .inr (hown hname uri huri), by simp [hdeclare]⟩
  · obtain ⟨hmem, hdeclare⟩ := mem_unknownEntries hw
    have hname : w.1 ∈ head.attributeNames :=
      List.mem_append_right _ (List.mem_map_of_mem hmem)
    exact ⟨fun uri huri => .inr (hown hname uri huri), by simp [hdeclare]⟩

/-- What a tag declares was made up or is brought along, and what is demanded is bound on it. -/
theorem Normal.sourced_of_writeTag (hhead : head.Normal) (hscope : scope.CoveredBy start)
    (h : head.writeTag text config scope = .ok f) :
    f.Sourced head.Brings start ∧
      ∀ d ∈ head.demands, d.uri ≠ "" → ∀ p, d.nsPrefix = some p → f.scope.prefixUri p ≠ none := by
  obtain ⟨-, -, -, f₀, typeText, f₁, hopen, htype, hwrite⟩ := writeTag_eq_ok.1 h
  have hall := (openTag_eq_ok.1 hopen).2
  have h₀ : f₀.Sourced head.Brings start :=
    (Frame.sourced_start hscope _).bindAll
      (fun d hd => ⟨hhead.demands d hd, fun hne => .inl ⟨hd, hne⟩⟩) hall
  have h₁ : f₁.Sourced head.Brings start := by
    refine h₀.typeText? hhead.schemaType (fun type htype uri huri => .inr ?_) htype
    exact ⟨type, List.mem_append_left _ (Option.mem_toList.2 htype), huri, rfl⟩
  have hrun : f.Sourced head.Brings start ∧
      ∀ p, f₁.scope.prefixUri p ≠ none → f.scope.prefixUri p ≠ none := by
    refine foldlM_invariant (motive := fun f => f.Sourced head.Brings start ∧
      ∀ p, f₁.scope.prefixUri p ≠ none → f.scope.prefixUri p ≠ none) ?_ ⟨h₁, fun _ hp => hp⟩ hwrite
    rintro w hw f₂ f₃ ⟨h₂, hbound⟩ hwrite
    have hnormal := hhead.entries typeText w hw
    have hsource := head.source_of_mem_entries hw
    refine ⟨h₂.write hnormal hsource.1 hsource.2 hwrite, fun p hp => ?_⟩
    obtain ⟨_, _, hgrows, -, rfl⟩ := Frame.write_grows hnormal hwrite
    exact hgrows.bound (hbound p hp)
  refine ⟨hrun.1, fun d hd hne p hp => hrun.2 p ?_⟩
  exact (Frame.typeText?_grows hhead.schemaType htype).2.bound
    (Frame.bound_of_mem hhead.demands hd hp hne hall)

theorem tracedBy_of_writeTag (hhead : head.Regular) (hscope : scope.CoveredBy start)
    (h : head.writeTag text config scope = .ok f) :
    f.scope.CoveredBy (start.declareAll f.tag.declarations) ∧
      head.TracedBy (start.declareAll f.tag.declarations) f.tag := by
  obtain ⟨hsourced, hdemands⟩ := hhead.normal.sourced_of_writeTag hscope h
  obtain ⟨hlocal, -, -, f₀, -, -, hopen, -, -⟩ := writeTag_eq_ok.1 h
  refine ⟨hsourced.covered, ?_⟩
  exact
    { name_eq := hhead.normal.name_of_writeTag h
      localName := hlocal
      prefixed := fun hprefix huri => by
        cases hnone : head.elementName.uri with
        | none => exact hprefix ((openTag_eq_ok.1 hopen).1 hnone)
        | some uri => exact hhead.normal.elementName.uri_ne hnone (by simpa [hnone] using huri)
      localNames := localNames_iff_of_writeTag hhead h
      declared := hsourced.declared
      attributes := fun e he p hp => hsourced.covered p (hsourced.attributes e he p hp)
      demands := fun d hd hne p hp => hsourced.covered p (hdemands d hd hne p hp) }

/-- The names on a tag are legal exactly if the object keeps to what makes them so. -/
theorem TracedBy.legalNames_iff (hstart : start.PrefixesNamed)
    (h : head.TracedBy (start.declareAll tag.declarations) tag) :
    tag.LegalNames ↔ head.KeepsLegal tag := by
  constructor
  · intro hlegal
    have hinForce := hstart.declareAll hlegal.declarations
    refine ⟨h.localNames.1 fun e he => ?_, fun d hd hne p hp => ?_, ?_⟩
    · exact (QName.check_eq_ok.1 (hlegal.attributes e he)).1
    · exact (h.demands d hd hne p hp).elim id (hinForce p)
    · exact fun _ _ d hd _ _ => hlegal.declarations d hd
  · intro hkeeps
    have hdeclarations : ∀ d ∈ tag.declarations, d.PrefixNamed := by
      intro d hd
      rcases h.declared d hd with hnamed | ⟨hdemand, hne⟩ | ⟨name, hname, huri, hprefix⟩
      · exact hnamed
      · exact fun p hp => hkeeps.demands d hdemand (hne (by simp [hp])) p hp
      · exact hkeeps.brought name hname d hd huri hprefix
    have hinForce := hstart.declareAll hdeclarations
    refine ⟨?_, fun e he => ?_, hdeclarations⟩
    · rw [h.name_eq, QName.check_eq_ok]
      refine ⟨h.localName, fun p hp => ?_⟩
      have hdemand : ⟨head.elementName.nsPrefix, head.elementName.uri.getD ""⟩ ∈ head.demands :=
        List.mem_append_right _ List.mem_cons_self
      exact hkeeps.demands _ hdemand (h.prefixed (by simp [hp])) p hp
    · refine QName.check_eq_ok.2 ⟨h.localNames.2 hkeeps.attributes e he, fun p hp => ?_⟩
      exact (h.attributes e he p hp).elim id (hinForce p)

end ObjectHead

/-! ### Written graphs -/

namespace TypedObject

/-- From the outermost element down, the names are legal exactly if the objects keep to it: then
the prefixes bound around the elements below are names, too. -/
theorem everywhere_legalNames_iff {x : TypedObject} {start : Scope} {depth : Nat} {e : Element}
    (hstart : start.PrefixesNamed)
    (h : x.Alongside (fun inForce _ o el => o.TracedBy inForce el.toTag) start depth e) :
    e.Everywhere (fun _ _ el => el.toTag.LegalNames) start depth ↔
      x.Alongside (fun _ _ o el => o.KeepsLegal el.toTag) start depth e := by
  induction x generalizing start depth e with
  | mk head children ih =>
      obtain ⟨tag, nodes⟩ := e
      obtain ⟨htraced, hbelow⟩ := alongside_mk.1 h
      have hself := htraced.legalNames_iff hstart
      rw [Element.everywhere_mk, alongside_mk, hself]
      refine and_congr_right fun hkeeps => ?_
      have hinForce := hstart.declareAll (hself.2 hkeeps).declarations
      exact Node.forall_element_iff hbelow fun e o ho hrest => ih o ho hinForce hrest

theorem tracedBy_of_marshal {x : TypedObject} {config : MarshalConfig} {scope : Scope}
    {e : Element} (hx : x.Made) (h : x.marshal config scope = .ok e) :
    x.Alongside (fun inForce _ o el => o.TracedBy inForce el.toTag) scope 1 e := by
  refine alongside_of_marshalAt (R := Scope.CoveredBy) ?_ (fun _ hp => .inr hp) h
  intro o ho inForce start depth f nodes hcovered htag _
  exact ObjectHead.tracedBy_of_writeTag (hx.regular o ho) hcovered htag

/-- Where all prefixes bound around a graph are names: what is written has legal names only, exactly
if its objects keep to what makes them so, and they do if their names pass the check. An object
whose element would have another local name is refused. -/
theorem legalNames_of_marshal {x : TypedObject} {scope : Scope} (hx : x.Made)
    (hscope : scope.PrefixesNamed) (config : MarshalConfig) :
    (∀ e, x.marshal config scope = .ok e →
      (e.Everywhere (fun _ _ el => el.toTag.LegalNames) scope 1 ↔
        x.Alongside (fun _ _ o el => o.KeepsLegal el.toTag) scope 1 e) ∧
      ((∀ o ∈ x.graph, o.NamesChecked) →
        e.Everywhere (fun _ _ el => el.toTag.LegalNames) scope 1)) ∧
    ((∃ o ∈ x.graph, isNCName o.elementName.localName = false) →
      ∃ error, x.marshal config scope = .error error ∧
        ((∃ fault, error = .marshalling fault) ∨
          ∃ depth o, Inside Below 1 x depth o ∧ config.limits.Refuses
            (Measure.found depth (o.attributes.size + o.unknown.size) o.children.length)
            error)) := by
  constructor
  · intro e he
    have htraced := tracedBy_of_marshal hx he
    have hiff := everywhere_legalNames_iff hscope htraced
    refine ⟨hiff, fun hchecked => hiff.2 (htraced.imp fun _ _ o el ho _ => ?_)⟩
    exact (hchecked o ho).keepsLegal el.toTag
  · rintro ⟨o, ho, hlocal⟩
    cases hresult : x.marshal config scope with
    | error error => exact ⟨error, rfl, marshalAt_eq_error hresult⟩
    | ok e =>
        have hnamed := (tracedBy_of_marshal hx hresult).forall_graph
          (T := fun o => isNCName o.elementName.localName = true)
          (fun _ _ _ _ htraced => htraced.localName) o ho
        rw [hlocal] at hnamed
        cases hnamed

end TypedObject

theorem Scope.prefixesNamed_empty : Scope.empty.PrefixesNamed := by
  intro p hp
  rw [prefixUri] at hp
  split at hp
  · next hxml => exact hxml ▸ isNCName_xml
  · exact absurd rfl hp

/-- An object with an attribute whose name looks like an attribute and the name of another. -/
def disguised : TypedObject :=
  (TypeDescriptor.ofName (.prefixed "urn:n" "Thing" "t")).build.setAttribute
    (.unqualified "x=\"1\" y") "2"

theorem disguised_made : disguised.Made :=
  .set (.build (by decide)) (.setting (by decide) "2")

/-- The object is written, with a name that is not legal, and its one attribute is read as two. -/
theorem disguised_misread :
    disguised.Made ∧ Scope.empty.PrefixesNamed ∧
      ∃ e e', disguised.marshal .standard .empty = .ok e ∧
        ¬e.Everywhere (fun _ _ el => el.toTag.LegalNames) .empty 1 ∧
        e.attributes.items = [.unqualified "x=\"1\" y"] ∧ Element.read e.write = .ok e' ∧
        e'.attributes.items = [.unqualified "x", .unqualified "y"] := by
  have hshape : (disguised.marshal .standard .empty).toOption.map
      (fun e => (e.attributes.items, e.write)) =
        some ([.unqualified "x=\"1\" y"], "<t:Thing xmlns:t=\"urn:n\" x=\"1\" y=\"2\"/>") := by
    decide
  have hread : (Element.read "<t:Thing xmlns:t=\"urn:n\" x=\"1\" y=\"2\"/>").toOption.map
      (fun e => e.attributes.items) = some [.unqualified "x", .unqualified "y"] := by
    decide +kernel
  obtain ⟨e, he, hwritten⟩ := Option.map_eq_some_iff.1 hshape
  obtain ⟨e', he', hitems'⟩ := Option.map_eq_some_iff.1 hread
  obtain ⟨hitems, hwrite⟩ := Prod.mk.inj hwritten
  refine ⟨disguised_made, Scope.prefixesNamed_empty, e, e', toOption_eq_some.1 he, fun hlegal => ?_,
    hitems, hwrite ▸ toOption_eq_some.1 he', hitems'⟩
  obtain ⟨tag, nodes⟩ := e
  have hattributes := (Element.everywhere_mk.1 hlegal).1.attributes
  have hmem : .unqualified "x=\"1\" y" ∈ tag.attributes.items := by
    rw [show tag.attributes.items = _ from hitems]
    exact List.mem_cons_self
  obtain ⟨entry, hentry, hname⟩ := List.mem_map.1 hmem
  have hlocal := (QName.check_eq_ok.1 (hattributes entry hentry)).1
  rw [hname] at hlocal
  exact absurd hlocal (by decide)

/-- An object with an attribute that was set under a prefix that is not a name, in a namespace that
the object declares under another. -/
def respelled : TypedObject :=
  ((TypeDescriptor.ofName (.prefixed "urn:n" "Thing" "t")).build.declare
    ⟨some "m", "urn:m"⟩).setAttribute (.prefixed "urn:m" "note" "1") "x"

theorem respelled_made : respelled.Made :=
  .set (.set (.build (by decide)) (.declaration (by decide))) (.setting (by decide) "x")

/-- The attribute is written with the prefix that is declared. -/
theorem respelled_legal :
    respelled.Made ∧ Scope.empty.PrefixesNamed ∧
      ∃ e, respelled.marshal .standard .empty = .ok e ∧
        e.Everywhere (fun _ _ el => el.toTag.LegalNames) .empty 1 := by
  have hshape : (respelled.marshal .standard .empty).toOption.map
      (fun e => (e.declarations, e.children.isEmpty)) =
        some ([⟨some "m", "urn:m"⟩, ⟨some "t", "urn:n"⟩], true) := by
    decide
  obtain ⟨⟨tag, nodes⟩, he, hwritten⟩ := Option.map_eq_some_iff.1 hshape
  obtain ⟨hdeclarations, hnodes⟩ := Prod.mk.inj hwritten
  obtain rfl : nodes = [] := List.isEmpty_iff.1 hnodes
  have hdeclarations : tag.declarations = [⟨some "m", "urn:m"⟩, ⟨some "t", "urn:n"⟩] :=
    hdeclarations
  have hkeeps : respelled.KeepsLegal tag := by
    refine ⟨by decide, by decide, ?_⟩
    rw [hdeclarations]
    decide
  have he := toOption_eq_some.1 he
  refine ⟨respelled_made, Scope.prefixesNamed_empty, _, he, ?_⟩
  exact ((TypedObject.legalNames_of_marshal respelled_made Scope.prefixesNamed_empty .standard).1 _
    he).1.2 (TypedObject.alongside_mk.2 ⟨hkeeps, .nil⟩)

end XmlBinding
