import XmlBinding.Proofs.Made

/-!
Which declarations of an object take effect. A tag never declares a prefix twice, so what it
declares holds on it. But a declaration of what holds already is left out, and nothing remembers it
then: a later declaration of the same prefix, or the name of the element, may bind the prefix to
something else. So it is the last demand for a prefix that counts, and where the surroundings bind a
prefix already an earlier demand can be lost.
-/

namespace XmlBinding

theorem present_inj {u v : String} : present (some u) = present (some v) ↔ u = v := by
  by_cases hu : u = ""
  · by_cases hv : v = ""
    · simp [hu, hv]
    · simp [hu, present_of_ne hv, Ne.symm hv]
  · by_cases hv : v = ""
    · simp [hv, present_of_ne hu, hu]
    · simp [present_of_ne hu, present_of_ne hv]

namespace Declaration

/-- What the declaration says holds in a scope: the prefix stands for the namespace, or for nothing
if that is empty. -/
def InForce (d : Declaration) (scope : Scope) : Prop :=
  scope.lookup d.nsPrefix = present (some d.uri)

/-- Whether something can be declared: a default, or a prefix for a namespace. Else the prefix is to
stand for nothing, which no document can say. -/
def Declarable (d : Declaration) : Prop :=
  d.nsPrefix = none ∨ d.uri ≠ ""

instance (d : Declaration) : Decidable d.Declarable :=
  inferInstanceAs (Decidable (_ ∨ _))

/-- The namespace in the last declaration of a prefix, or of the default. -/
def lastUri (p : Option String) : List Declaration → Option String
  | [] => none
  | d :: ds => (lastUri p ds).or (if d.nsPrefix = p then some d.uri else none)

theorem exists_lastUri {d : Declaration} {ds : List Declaration} (h : d ∈ ds) :
    ∃ uri, lastUri d.nsPrefix ds = some uri := by
  induction ds with
  | nil => cases h
  | cons d' ds ih =>
      rw [lastUri]
      rcases List.mem_cons.1 h with rfl | h
      · cases lastUri d.nsPrefix ds with
        | none => exact ⟨d.uri, by simp⟩
        | some uri => exact ⟨uri, rfl⟩
      · obtain ⟨uri, huri⟩ := ih h
        exact ⟨uri, by simp [huri]⟩

theorem meaning_ne_none {d : Declaration} {p : String} (h : d.nsPrefix = some p) :
    d.meaning ≠ none := by
  rw [meaning, h]
  dsimp only
  split <;> simp

end Declaration

/-- When a declaration of an object is in force on the element that was written for it. The prefix
`xml` has its meaning always. Any other, and the default, stands for what was demanded last; a
prefix that is to stand for nothing does so unless the tag declares it for some name. -/
def ObjectHead.Upholds (head : ObjectHead) (tag : Tag) (d : Declaration) : Prop :=
  if d.nsPrefix = some "xml" then d.uri = xmlUri
  else if d.Declarable then Declaration.lastUri d.nsPrefix head.demands = some d.uri
  else ∀ d' ∈ tag.declarations, d'.nsPrefix ≠ d.nsPrefix

/-- What the declarations of an object come to on its element, within some surroundings: which of
them are in force, and that no other is lost than one that the surroundings make already. -/
structure TypedObject.DeclaredBy (surroundings : Scope) (o : TypedObject) (e : Element) : Prop where
  upheld : ∀ d ∈ o.declarations,
    d.InForce (surroundings.declareAll e.declarations) ↔ o.Upholds e.toTag d
  inherited : ∀ d ∈ o.declarations, d.nsPrefix ≠ some "xml" →
    d.InForce (surroundings.declareAll e.declarations) ∨ d.InForce surroundings

namespace Scope

variable {s : Scope} {ds : List Declaration}

theorem lookup_declareAll_of_absent {k : Option String} (h : ∀ d ∈ ds, d.nsPrefix ≠ k) :
    (s.declareAll ds).lookup k = s.lookup k := by
  induction ds generalizing s with
  | nil => rfl
  | cons d ds ih =>
      rw [List.forall_mem_cons] at h
      rw [declareAll_cons, ih h.2, lookup_declare, if_neg h.1]

/-- Among declarations of distinct prefixes, each has its meaning. -/
theorem lookup_declareAll_of_mem {d : Declaration}
    (distinct : (ds.map Declaration.nsPrefix).Nodup) (h : d ∈ ds) :
    (s.declareAll ds).lookup d.nsPrefix = d.meaning := by
  induction ds generalizing s with
  | nil => cases h
  | cons d' ds ih =>
      rw [List.map_cons, List.nodup_cons] at distinct
      rw [declareAll_cons]
      rcases List.mem_cons.1 h with rfl | h
      · rw [lookup_declareAll_of_absent, lookup_declare, if_pos rfl]
        intro d' hd' hsame
        exact distinct.1 (hsame ▸ List.mem_map_of_mem hd')
      · exact ih distinct.2 h

end Scope

namespace Frame

variable {f f' f'' : Frame} {start : Scope}

/-! ### The scope of a tag and its declarations -/

/-- The scope in a frame is what the declarations of the tag make of the surroundings; no prefix is
declared twice. -/
structure Tracked (start : Scope) (f : Frame) : Prop where
  scope_eq : f.scope = start.declareAll f.tag.declarations
  distinct : (f.tag.declarations.map Declaration.nsPrefix).Nodup

theorem tracked_start (name : QName) (scope : Scope) : Tracked scope (Frame.start name scope) :=
  ⟨rfl, List.nodup_nil⟩

theorem Tracked.extend (hf : Tracked start f) {d : Declaration}
    (fresh : ∀ d' ∈ f.tag.declarations, d'.nsPrefix ≠ d.nsPrefix) :
    Tracked start (f.extend d true) := by
  refine ⟨?_, distinct_declare hf.distinct fresh⟩
  rw [scope_extend, tag_extend_true, declarations_declare fresh, Scope.declareAll_append,
    ← hf.scope_eq]
  rfl

theorem Tracked.bind (hf : Tracked start f) {p : Option String} (hp : p ≠ some "") {uri : String}
    (h : f.bind p uri true = .ok f') : Tracked start f' := by
  rcases binds_iff.1 h with ⟨-, rfl⟩ | ⟨-, -, hfresh, rfl⟩
  · exact hf
  · rw [Declaration.of, present_eq_self_iff.2 hp]
    exact hf.extend hfresh

theorem Tracked.bindAll (hf : Tracked start f) {ds : List Declaration}
    (hds : ∀ d ∈ ds, d.nsPrefix ≠ some "") (h : f.bindAll ds = .ok f') : Tracked start f' :=
  foldlM_invariant (fun d hd _ _ hf hbind => hf.bind (hds d hd) hbind) hf h

/-! ### Binding what is demanded -/

/-- Binding a prefix, or the default, changes what it stands for and nothing else. -/
theorem lookup_of_bind {p : Option String} (hp : p ≠ some "") {uri : String} {declare : Bool}
    {k : Option String} (hk : k ≠ some "xml") (h : f.bind p uri declare = .ok f') :
    f'.scope.lookup k = if p = k then present (some uri) else f.scope.lookup k := by
  rcases binds_iff.1 h with ⟨hbound, rfl⟩ | ⟨-, hne, -, rfl⟩
  · split
    · next hsame => rw [← hsame, hbound]
    · rfl
  · rw [scope_extend, Declaration.of, present_eq_self_iff.2 hp, Scope.lookup_declare]
    split
    · next hsame =>
        have hd : (⟨p, uri⟩ : Declaration).PrefixIn fun _ => True := by
          intro q hq
          refine ⟨trivial, ?_⟩
          rintro rfl
          exact absurd (hsame.symm.trans hq) hk
        exact Declaration.meaning_eq hd hne
    · rfl

/-- It is the last demand for a prefix that counts. -/
theorem lookup_of_bindAll {ds : List Declaration} (hds : ∀ d ∈ ds, d.nsPrefix ≠ some "")
    {k : Option String} (hk : k ≠ some "xml") (h : f.bindAll ds = .ok f') :
    f'.scope.lookup k =
      (Declaration.lastUri k ds).elim (f.scope.lookup k) fun uri => present (some uri) := by
  induction ds generalizing f with
  | nil =>
      cases h
      rfl
  | cons d ds ih =>
      rw [bindAll, List.foldlM_cons, bind_eq_ok] at h
      obtain ⟨f₁, hbind, hrest⟩ := h
      rw [List.forall_mem_cons] at hds
      rw [ih hds.2 hrest, lookup_of_bind hds.1 hk hbind, Declaration.lastUri]
      cases Declaration.lastUri k ds with
      | some uri => rfl
      | none => split <;> rfl

/-- A prefix that is bound stays bound to something. -/
theorem bound_of_bind {p : Option String} {uri : String} {declare : Bool} {q : String}
    (hq : f.scope.prefixUri q ≠ none) (h : f.bind p uri declare = .ok f') :
    f'.scope.prefixUri q ≠ none := by
  rcases binds_iff.1 h with ⟨-, rfl⟩ | ⟨-, -, -, rfl⟩
  · exact hq
  · rw [scope_extend, ← Scope.lookup_some, Scope.lookup_declare]
    split
    · next hsame => exact Declaration.meaning_ne_none hsame
    · exact hq

theorem bound_of_bindAll {ds : List Declaration} {q : String} (hq : f.scope.prefixUri q ≠ none)
    (h : f.bindAll ds = .ok f') : f'.scope.prefixUri q ≠ none :=
  foldlM_invariant (motive := fun f => f.scope.prefixUri q ≠ none)
    (fun _ _ _ _ hq hbind => bound_of_bind hq hbind) hq h

/-- The frames before and after one of the declarations is bound. -/
theorem bindAll_of_mem {d : Declaration} {ds : List Declaration} (hd : d ∈ ds)
    (h : f.bindAll ds = .ok f') :
    ∃ before after f₁ f₂, before ⊆ ds ∧ f.bindAll before = .ok f₁ ∧
      f₁.bind d.nsPrefix d.uri true = .ok f₂ ∧ f₂.bindAll after = .ok f' := by
  obtain ⟨before, after, rfl⟩ := List.append_of_mem hd
  rw [bindAll, List.foldlM_append, bind_eq_ok] at h
  obtain ⟨f₁, hbefore, h⟩ := h
  rw [List.foldlM_cons, bind_eq_ok] at h
  obtain ⟨f₂, hbind, hafter⟩ := h
  exact ⟨before, after, f₁, f₂, List.subset_append_left _ _, hbefore, hbind, hafter⟩

/-- A prefix that was bound to a namespace for one of the declarations stays bound to something. -/
theorem bound_of_mem {ds : List Declaration} (hds : ∀ d ∈ ds, d.nsPrefix ≠ some "")
    {d : Declaration} (hd : d ∈ ds) {q : String} (hq : d.nsPrefix = some q) (hne : d.uri ≠ "")
    (h : f.bindAll ds = .ok f') : f'.scope.prefixUri q ≠ none := by
  obtain ⟨_, _, f₁, f₂, -, -, hbind, hafter⟩ := bindAll_of_mem hd h
  apply bound_of_bindAll _ hafter
  by_cases hxml : q = "xml"
  · simp [hxml]
  · have hlookup := lookup_of_bind (hds d hd) (k := some q) (by simpa using hxml) hbind
    rw [if_pos hq, present_of_ne hne, Scope.lookup_some] at hlookup
    simp [hlookup]

/-- A prefix that is to stand for nothing was bound to nothing before. -/
theorem free_of_mem {ds : List Declaration} {d : Declaration} (hd : d ∈ ds) {q : String}
    (hq : d.nsPrefix = some q) (hempty : d.uri = "") (h : f.bindAll ds = .ok f') :
    f.scope.prefixUri q = none := by
  obtain ⟨_, _, f₁, f₂, -, hbefore, hbind, -⟩ := bindAll_of_mem hd h
  by_contra hbound
  have hbound₁ := bound_of_bindAll hbound hbefore
  rcases binds_iff.1 hbind with ⟨hfree, -⟩ | ⟨-, hne, -, -⟩
  · rw [hq, hempty, Scope.lookup_some] at hfree
    exact hbound₁ hfree
  · exact hne (by simp [hq]) hempty

theorem subset_of_bind {p : Option String} {uri : String} (h : f.bind p uri true = .ok f') :
    f.tag.declarations ⊆ f'.tag.declarations := by
  rcases binds_iff.1 h with ⟨-, rfl⟩ | ⟨-, -, -, rfl⟩
  · exact List.Subset.refl _
  · rw [tag_extend_true, Tag.declare, addDeclaration]
    split
    · exact List.Subset.refl _
    · exact List.subset_append_left _ _

theorem subset_of_bindAll {ds : List Declaration} (h : f.bindAll ds = .ok f') :
    f.tag.declarations ⊆ f'.tag.declarations :=
  foldlM_invariant (motive := fun f' => f.tag.declarations ⊆ f'.tag.declarations)
    (fun _ _ _ _ hsub hbind => List.Subset.trans hsub (subset_of_bind hbind))
    (List.Subset.refl _) h

/-- What holds in a frame holds later, unless it is not the tag but the surroundings that say so. -/
theorem Tracked.inForce_or_inherited (hf : Tracked start f) (hf' : Tracked start f')
    (hsub : f.tag.declarations ⊆ f'.tag.declarations) {d : Declaration} (h : d.InForce f.scope) :
    d.InForce f'.scope ∨ d.InForce start := by
  rw [Declaration.InForce, hf.scope_eq] at h
  by_cases hown : ∃ d' ∈ f.tag.declarations, d'.nsPrefix = d.nsPrefix
  · obtain ⟨d', hd', hsame⟩ := hown
    apply Or.inl
    rw [← hsame, Scope.lookup_declareAll_of_mem hf.distinct hd'] at h
    rw [Declaration.InForce, hf'.scope_eq, ← hsame,
      Scope.lookup_declareAll_of_mem hf'.distinct (hsub hd'), h]
  · push Not at hown
    rw [Scope.lookup_declareAll_of_absent hown] at h
    exact .inr h

/-! ### The rest of the tag -/

/-- What is done to a tag once it is open: prefixes that are bound to nothing may be declared. -/
structure Later (f f' : Frame) : Prop where
  scope : f'.scope.Extends f.scope
  declarations : f.tag.declarations ⊆ f'.tag.declarations

theorem Later.refl (f : Frame) : Later f f :=
  ⟨Scope.Extends.refl _, List.Subset.refl _⟩

theorem Later.trans (h : Later f f') (h' : Later f' f'') : Later f f'' :=
  ⟨h'.scope.trans h.scope, List.Subset.trans h.declarations h'.declarations⟩

theorem Tracked.grows (hf : Tracked start f) (h : Grows true f f') :
    Tracked start f' ∧ Later f f' := by
  cases h with
  | same => exact ⟨hf, .refl f⟩
  | @bind p uri written named free fresh onTag =>
      obtain rfl : written = true := onTag rfl
      refine ⟨hf.extend fresh, Scope.extends_bindPrefix free uri, ?_⟩
      rw [tag_extend_true, declarations_declare fresh]
      exact List.subset_append_left _ _

theorem Tracked.write (hf : Tracked start f) {w : Entry} (hw : w.1.Normal) (hdeclare : w.2.2 = true)
    (h : f.write w = .ok f') : Tracked start f' ∧ Later f f' := by
  obtain ⟨f₁, name, hgrows, -, rfl⟩ := write_grows hw h
  rw [hdeclare] at hgrows
  obtain ⟨htracked, hlater⟩ := hf.grows hgrows
  exact ⟨⟨htracked.scope_eq, htracked.distinct⟩, hlater.scope, hlater.declarations⟩

theorem Tracked.writeAll (hf : Tracked start f) {ws : List Entry}
    (hws : ∀ w ∈ ws, w.1.Normal ∧ w.2.2 = true) (h : ws.foldlM Frame.write f = .ok f') :
    Tracked start f' ∧ Later f f' := by
  refine foldlM_invariant (motive := fun f' => Tracked start f' ∧ Later f f') ?_ ⟨hf, .refl f⟩ h
  rintro w hw f₁ f₂ ⟨htracked, hlater⟩ hwrite
  obtain ⟨htracked', hlater'⟩ := htracked.write (hws w hw).1 (hws w hw).2 hwrite
  exact ⟨htracked', hlater.trans hlater'⟩

end Frame

namespace ObjectHead

variable {head : ObjectHead} {config : MarshalConfig} {text : Option String} {scope : Scope}
  {f : Frame} {d : Declaration}

theorem Normal.demands (h : head.Normal) : ∀ d ∈ head.demands, d.nsPrefix ≠ some "" := by
  intro d hd
  rcases List.mem_append.1 hd with hd | hd
  · exact h.declarations d hd
  · rw [List.mem_singleton.1 hd]
    exact (QName.normal_iff.1 h.elementName).2

/-- A tag is opened by binding what is demanded, and nothing that is done to it afterwards takes a
binding away. -/
theorem tracked_of_writeTag (hhead : head.Normal) (hdeclare : config.declareInstance = true)
    (h : head.writeTag text config scope = .ok f) :
    f.Tracked scope ∧ ∃ f₀, (Frame.start head.elementName scope).bindAll head.demands = .ok f₀ ∧
      Frame.Later f₀ f := by
  obtain ⟨-, -, -, f₀, typeText, f₁, hopen, htype, hwrite⟩ := writeTag_eq_ok.1 h
  have hall := (openTag_eq_ok.1 hopen).2
  have h₀ := (Frame.tracked_start head.elementName scope).bindAll hhead.demands hall
  obtain ⟨h₁, hlater₁⟩ := h₀.grows (Frame.typeText?_grows hhead.schemaType htype).2
  have hentries : ∀ w ∈ head.entries typeText config.declareInstance,
      w.1.Normal ∧ w.2.2 = true := by
    intro w hw
    refine ⟨hhead.entries typeText w hw, ?_⟩
    simp only [entries, List.mem_append] at hw
    rcases hw with (hw | hw) | hw
    · exact (mem_instanceEntries hw).2.trans hdeclare
    · exact (mem_modeledEntries hw).2
    · exact (mem_unknownEntries hw).2
  obtain ⟨hf, hlater⟩ := h₁.writeAll hentries hwrite
  exact ⟨hf, f₀, hall, hlater₁.trans hlater⟩

/-- When a declaration of the object is in force on the tag that is written for it. -/
theorem inForce_iff_upholds (hhead : head.Normal) (hdeclare : config.declareInstance = true)
    (h : head.writeTag text config scope = .ok f) (hd : d ∈ head.declarations) :
    d.InForce f.scope ↔ head.Upholds f.tag d := by
  obtain ⟨hf, f₀, hall, hlater⟩ := tracked_of_writeTag hhead hdeclare h
  have hdemand : d ∈ head.demands := List.mem_append_left _ hd
  rw [Declaration.InForce, Upholds]
  split_ifs with hxml hdeclarable
  · rw [hxml, Scope.lookup_some, Scope.prefixUri_xml, ← present_of_ne (by decide), present_inj,
      eq_comm]
  · obtain ⟨uri, huri⟩ := Declaration.exists_lastUri hdemand
    have hlookup₀ : f₀.scope.lookup d.nsPrefix = present (some uri) := by
      rw [Frame.lookup_of_bindAll hhead.demands hxml hall, huri]
      rfl
    -- What the last demand has bound stays bound while the attributes are written.
    have hlookup : f.scope.lookup d.nsPrefix = present (some uri) := by
      cases hp : d.nsPrefix with
      | none =>
          rw [hp] at hlookup₀
          exact hlater.scope.defaultUri.trans hlookup₀
      | some q =>
          rw [hp] at hlookup₀
          have hne : d.uri ≠ "" := hdeclarable.resolve_left (by simp [hp])
          obtain ⟨bound, hbound⟩ :=
            Option.ne_none_iff_exists'.1 (Frame.bound_of_mem hhead.demands hdemand hp hne hall)
          rw [← hlookup₀, Scope.lookup_some, Scope.lookup_some, hbound]
          exact hlater.scope.prefixUri hbound
    rw [hlookup, huri, present_inj, Option.some.injEq]
  · rw [Declaration.Declarable, not_or, not_not] at hdeclarable
    obtain ⟨q, hq⟩ := Option.ne_none_iff_exists'.1 hdeclarable.1
    rw [hdeclarable.2, present_empty]
    constructor
    · intro hfree d' hd' hsame
      rw [← hsame, hf.scope_eq, Scope.lookup_declareAll_of_mem hf.distinct hd'] at hfree
      exact Declaration.meaning_ne_none (hsame.trans hq) hfree
    · intro habsent
      rw [hf.scope_eq, Scope.lookup_declareAll_of_absent habsent, hq]
      exact Frame.free_of_mem hdemand hq hdeclarable.2 hall

/-- A declaration is lost only where the surroundings say the same: any other is in force on the
tag, or the tag is not written. -/
theorem inForce_or_inherited (hhead : head.Normal) (hdeclare : config.declareInstance = true)
    (h : head.writeTag text config scope = .ok f) (hd : d ∈ head.declarations)
    (hxml : d.nsPrefix ≠ some "xml") : d.InForce f.scope ∨ d.InForce scope := by
  obtain ⟨hf, f₀, hall, hlater⟩ := tracked_of_writeTag hhead hdeclare h
  obtain ⟨before, _, f₁, f₂, hsub, hbefore, hbind, hafter⟩ :=
    Frame.bindAll_of_mem (List.mem_append_left _ hd) hall
  have h₁ := (Frame.tracked_start head.elementName scope).bindAll
    (fun d' hd' => hhead.demands d' (hsub hd')) hbefore
  have hheld : d.InForce f₂.scope := by
    rw [Declaration.InForce, Frame.lookup_of_bind (hhead.declarations d hd) hxml hbind, if_pos rfl]
  refine (h₁.bind (hhead.declarations d hd) hbind).inForce_or_inherited hf ?_ hheld
  exact List.Subset.trans (Frame.subset_of_bindAll hafter) hlater.declarations

end ObjectHead

/-- What is known of the declarations on a tag is known of the element. -/
theorem TypedObject.declaredBy_of_marshalAt {o : TypedObject} {config : MarshalConfig}
    {scope : Scope} {depth : Nat} {e : Element} (ho : o.Normal)
    (hdeclare : config.declareInstance = true) (h : o.marshalAt config scope depth = .ok e) :
    o.DeclaredBy scope e := by
  obtain ⟨head, children⟩ := o
  obtain ⟨-, f, nodes, htag, -, rfl⟩ := marshalAt_eq_ok.1 h
  obtain ⟨hf, -⟩ := ObjectHead.tracked_of_writeTag ho hdeclare htag
  have hscope : scope.declareAll f.tag.declarations = f.scope := hf.scope_eq.symm
  refine ⟨fun d hd => ?_, fun d hd hxml => ?_⟩
  · show d.InForce (scope.declareAll f.tag.declarations) ↔ _
    rw [hscope]
    exact ObjectHead.inForce_iff_upholds ho hdeclare htag hd
  · show d.InForce (scope.declareAll f.tag.declarations) ∨ _
    rw [hscope]
    exact ObjectHead.inForce_or_inherited ho hdeclare htag hd hxml

/-- For every object of a graph that is written, from the outermost one down, it is known which of
its declarations are in force on its element; those that are not are in force around it. -/
theorem TypedObject.declaredBy_of_marshal {x : TypedObject} {config : MarshalConfig} {scope : Scope}
    {e : Element} (hx : x.Made) (hdeclare : config.declareInstance = true)
    (h : x.marshal config scope = .ok e) :
    x.DeclaredBy scope e ∧ x.Alongside (fun inForce _ o el =>
      List.Forall₂ (Node.Matches fun below c => c.DeclaredBy inForce below)
        el.children o.children) scope 1 e := by
  have hregular := hx.regular
  refine ⟨declaredBy_of_marshalAt (hregular x ?_).normal hdeclare h, ?_⟩
  · exact mem_graph.2 (.inl rfl)
  · refine alongside_of_marshalAt (R := Eq) ?_ rfl h
    rintro o ho start _ depth f nodes rfl htag hchildren
    obtain ⟨hf, -⟩ := ObjectHead.tracked_of_writeTag (hregular o ho).normal hdeclare htag
    refine ⟨hf.scope_eq, ?_⟩
    rw [← hf.scope_eq]
    refine Node.forall₂_matches_imp hchildren fun below c _ hc hbelow => ?_
    exact declaredBy_of_marshalAt (hregular c (mem_graph_of_child ho hc)).normal hdeclare hbelow

/-- An object whose own name has the prefix that it declares for another namespace. -/
def ambiguous : TypedObject :=
  (TypeDescriptor.ofName (.prefixed "urn:m" "Thing" "t")).build.declare ⟨some "t", "urn:n"⟩

theorem ambiguous_made : ambiguous.Made :=
  .set (.build (by decide)) (.declaration (by decide))

/-- Where the surroundings say what the object declares, its declaration is left out and then lost
to its name. Where they do not, the same object is refused. -/
theorem ambiguous_lost :
    ambiguous.Made ∧
    ambiguous.marshal .standard (.ofDeclarations [⟨some "t", "urn:n"⟩]) =
      .ok ⟨⟨.prefixed "urn:m" "Thing" "t", [⟨some "t", "urn:m"⟩], .empty⟩, []⟩ ∧
    ¬ambiguous.Alongside (fun inForce _ o _ => ∀ d ∈ o.declarations, d.InForce inForce)
      (.ofDeclarations [⟨some "t", "urn:n"⟩]) 1
      ⟨⟨.prefixed "urn:m" "Thing" "t", [⟨some "t", "urn:m"⟩], .empty⟩, []⟩ ∧
    ambiguous.marshal .standard .empty =
      .error (.marshalling
        ⟨.redeclared (some "t") "urn:n", some (.prefixed "urn:m" "Thing" "t"), none⟩) := by
  refine ⟨ambiguous_made, rfl, fun h => ?_, rfl⟩
  have hlost : ¬(⟨some "t", "urn:n"⟩ : Declaration).InForce
      ((Scope.ofDeclarations [⟨some "t", "urn:n"⟩]).declareAll [⟨some "t", "urn:m"⟩]) := by
    rw [Declaration.InForce]
    decide
  have hheld := (TypedObject.alongside_mk.1 h).1
  exact hlost (hheld _ (by decide))

/-- A box that makes for its contents the declaration that the object in it loses. -/
def box : TypedObject :=
  { ((TypeDescriptor.ofName (.prefixed "urn:b" "Box" "b")).build.declare
      ⟨some "t", "urn:n"⟩).declare ⟨none, "urn:d"⟩ with
    children := [.object ambiguous] }

theorem box_made : box.Made := by
  have hbuilt : (TypeDescriptor.ofName (.prefixed "urn:b" "Box" "b")).build.Made :=
    .build (by decide)
  have hdeclared : TypedObject.Made { box with children := [] } :=
    (hbuilt.set (.declaration (by decide))).set (.declaration (by decide))
  refine hdeclared.setChildren fun c hc => ?_
  have hambiguous : c = ambiguous := by
    simpa using hc
  exact hambiguous ▸ ambiguous_made

theorem box_declaredBy :
    MarshalConfig.standard.declareInstance = true ∧
    ∃ e, box.marshal .standard .empty = .ok e ∧
      box.DeclaredBy .empty e ∧ box.Alongside (fun inForce _ o el =>
        List.Forall₂ (Node.Matches fun below c => c.DeclaredBy inForce below)
          el.children o.children) .empty 1 e := by
  obtain ⟨e, he⟩ := exists_eq_ok (x := box.marshal .standard .empty) (by decide)
  exact ⟨rfl, e, he, TypedObject.declaredBy_of_marshal box_made rfl he⟩

end XmlBinding
