import XmlBinding.Proofs.Writing

/-!
What writing does to a start tag, whatever is bound around it. Names and declarations only have to
be as their constructors make them; no prefix of the surroundings is asked for anything. Writing a
name binds at most one prefix, a free one, and the name that is written differs in its prefix at
most.
-/

namespace XmlBinding

theorem QName.expanded_withPrefix {q : QName} (h : q.Normal) (p : Option String) :
    (q.withPrefix p).expanded = q.expanded := by
  have huri : present q.uri = q.uri := present_eq_self_iff.2 (QName.normal_iff.1 h).1
  simp only [QName.withPrefix, QName.of, huri]

/-- The names and declarations of an object as their constructors make them: no prefix and no
namespace of a name is the empty text. -/
structure ObjectHead.Normal (head : ObjectHead) : Prop where
  elementName : head.elementName.Normal
  schemaType : ∀ type, head.schemaType = some type → type.Normal
  attributes : ∀ e ∈ head.attributes.entries, e.1.Normal
  unknown : ∀ e ∈ head.unknown.entries, e.1.Normal
  declarations : ∀ d ∈ head.declarations, d.nsPrefix ≠ some ""

namespace Frame

variable {f f' : Frame} {declare : Bool}

/-! ### One binding more -/

/-- A frame with at most one binding more: of a free prefix, by a declaration on the tag unless it
may be left to the surroundings. -/
inductive Grows (declare : Bool) (f : Frame) : Frame → Prop where
  | same : Grows declare f f
  | bind {p uri : String} {written : Bool} (named : p ≠ "") (free : f.scope.prefixUri p = none)
      (fresh : ∀ d ∈ f.tag.declarations, d.nsPrefix ≠ some p)
      (onTag : declare = true → written = true) : Grows declare f (f.extend ⟨some p, uri⟩ written)

/-- Two frames that may differ in what is bound only. -/
structure BindsOnly (f f' : Frame) : Prop where
  name : f'.tag.name = f.tag.name
  attributes : f'.tag.attributes = f.tag.attributes

theorem BindsOnly.refl (f : Frame) : BindsOnly f f :=
  ⟨rfl, rfl⟩

theorem BindsOnly.trans {f'' : Frame} (h : BindsOnly f f') (h' : BindsOnly f' f'') :
    BindsOnly f f'' :=
  ⟨h'.name.trans h.name, h'.attributes.trans h.attributes⟩

theorem bindsOnly_extend (f : Frame) (d : Declaration) (declare : Bool) :
    BindsOnly f (f.extend d declare) := by
  cases declare <;> exact ⟨rfl, rfl⟩

theorem Grows.bindsOnly (h : Grows declare f f') : BindsOnly f f' := by
  cases h with
  | same => exact .refl f
  | bind => exact bindsOnly_extend f _ _

theorem bindsOnly_of_bind {p : Option String} {uri : String} (h : f.bind p uri declare = .ok f') :
    BindsOnly f f' := by
  rcases binds_iff.1 h with ⟨-, rfl⟩ | ⟨-, -, -, rfl⟩
  · exact .refl f
  · exact bindsOnly_extend f _ _

theorem grows_of_bind {p uri : String} {written : Bool} (hp : p ≠ "") (huri : uri ≠ "")
    (hfree : f.scope.prefixUri p = none) (hwritten : declare = true → written = true)
    (h : f.bind (some p) uri written = .ok f') : Grows declare f f' := by
  obtain ⟨hfresh, rfl⟩ := (bind_free hp huri hfree).1 h
  exact .bind hp hfree hfresh hwritten

/-- A name is written with another prefix at most, and at most that prefix is bound for it. -/
theorem qualify_grows {name name' : QName} (hname : name.Normal)
    (h : f.qualify name declare = .ok (name', f')) :
    name'.expanded = name.expanded ∧ Grows declare f f' := by
  cases qualified_of_qualify h with
  | unqualified huri =>
      refine ⟨?_, .same⟩
      show (⟨none, name.localName⟩ : ExpandedName) = name.expanded
      rw [← huri]
  | kept huri hp bound => exact ⟨rfl, .same⟩
  | found huri found => exact ⟨QName.expanded_withPrefix hname _, .same⟩
  | @numbered n _ _ huri free bind =>
      have hp := ne_empty_of_isNCName (isNCName_numberedPrefix n)
      exact ⟨QName.expanded_withPrefix hname _,
        grows_of_bind hp (hname.uri_ne huri) free (fun _ => rfl) bind⟩
  | own huri hp free bind =>
      exact ⟨rfl, grows_of_bind (hname.prefix_ne hp) (hname.uri_ne huri) free id bind⟩

/-- The text for a type is its name, written with some prefix or none. -/
theorem typeText_grows {type : QName} (htype : type.Normal) {text : String}
    (h : f.typeText type = .ok (text, f')) :
    (∃ q : QName, q.expanded = type.expanded ∧ text = q.prefixedName) ∧ Grows true f f' := by
  rcases typeText_cases h with ⟨-, rfl, rfl⟩ | ⟨name, hqualify, -, rfl⟩
  · exact ⟨⟨⟨type.expanded, none⟩, rfl, rfl⟩, .same⟩
  · obtain ⟨hexpanded, hgrows⟩ := qualify_grows htype hqualify
    exact ⟨⟨name, hexpanded, rfl⟩, hgrows⟩

theorem typeText?_grows {type : Option QName} (htype : ∀ t, type = some t → t.Normal)
    {text : Option String} (h : f.typeText? type = .ok (text, f')) :
    (∃ q : Option QName, q.map QName.expanded = type.map QName.expanded ∧
      text = q.map QName.prefixedName) ∧ Grows true f f' := by
  cases type with
  | none =>
      cases h
      exact ⟨⟨none, rfl, rfl⟩, .same⟩
  | some type =>
      obtain ⟨⟨value, f₁⟩, htext, heq⟩ := map_eq_ok.1 h
      cases heq
      obtain ⟨⟨q, hexpanded, rfl⟩, hgrows⟩ := typeText_grows (htype type rfl) htext
      exact ⟨⟨some q, congrArg some hexpanded, rfl⟩, hgrows⟩

/-- Writing an attribute: its prefix is bound if need be, then it is set under its own name. -/
theorem write_grows {w : Entry} (hw : w.1.Normal) (h : f.write w = .ok f') :
    ∃ f₁ name, Grows w.2.2 f f₁ ∧ name.expanded = w.1.expanded ∧
      f' = { f₁ with tag := f₁.tag.setAttribute name w.2.1 } := by
  obtain ⟨⟨name, f₁⟩, hqualify, heq⟩ := bind_eq_ok.1 h
  rw [pure_eq_ok] at heq
  obtain ⟨hexpanded, hgrows⟩ := qualify_grows hw hqualify
  exact ⟨f₁, name, hgrows, hexpanded, heq.symm⟩

/-- Writing attributes gives each name its last value, and leaves the others as they are. -/
theorem get?_writeAll {ws : List Entry} (hws : ∀ w ∈ ws, w.1.Normal)
    (h : ws.foldlM write f = .ok f') (k : ExpandedName) :
    f'.tag.attributes.get? k = (valueIn k ws).or (f.tag.attributes.get? k) := by
  induction ws generalizing f with
  | nil =>
      rw [List.foldlM_nil, pure_eq_ok] at h
      exact h ▸ rfl
  | cons w ws ih =>
      rw [List.foldlM_cons, bind_eq_ok] at h
      obtain ⟨f₂, hw, hrest⟩ := h
      rw [List.forall_mem_cons] at hws
      obtain ⟨f₁, name, hgrows, hexpanded, rfl⟩ := write_grows hws.1 hw
      have hput : (f₁.tag.setAttribute name w.2.1).attributes.get? k =
          if w.1.expanded = k then some w.2.1 else f.tag.attributes.get? k := by
        rw [← hexpanded, ← hgrows.bindsOnly.attributes]
        exact OrderedTable.get?_put _ _ _ _
      rw [ih hws.2 hrest, valueIn, Option.or_assoc, hput]
      split <;> rfl

end Frame

/-- All names that are written are as the constructor makes them. -/
theorem ObjectHead.Normal.entries {head : ObjectHead} {declare : Bool} (hhead : head.Normal)
    (typeText : Option String) : ∀ w ∈ head.entries typeText declare, w.1.Normal := by
  intro w hw
  simp only [ObjectHead.entries, List.mem_append] at hw
  rcases hw with (hw | hw) | hw
  · have hnames : ∀ name ∈ instanceNames, name.Normal := by decide
    exact hnames w.1 (mem_instanceEntries hw).1
  · exact hhead.attributes _ (mem_modeledEntries hw).1
  · exact hhead.unknown _ (mem_unknownEntries hw).1

/-! ### Opening a tag -/

theorem Frame.bindsOnly_of_bindAll {f f' : Frame} {ds : List Declaration}
    (h : f.bindAll ds = .ok f') : BindsOnly f f' :=
  foldlM_invariant (fun _ _ _ _ hf hbind => hf.trans (bindsOnly_of_bind hbind)) (.refl f) h

namespace ObjectHead

/-- What is bound on the tag of an object before anything else: its declarations, and its name. -/
def demands (head : ObjectHead) : List Declaration :=
  head.declarations ++ [⟨head.elementName.nsPrefix, head.elementName.uri.getD ""⟩]

variable {head : ObjectHead} {scope : Scope} {f : Frame}

/-- Opening a tag is binding what is demanded; a name without a namespace may have no prefix. -/
theorem openTag_eq_ok :
    head.openTag scope = .ok f ↔
      (head.elementName.uri = none → head.elementName.nsPrefix = none) ∧
        (Frame.start head.elementName scope).bindAll head.demands = .ok f := by
  rw [openTag, demands, Frame.bindAll, Frame.bindAll, List.foldlM_append]
  simp only [bind_eq_ok, List.foldlM_cons, List.foldlM_nil, pure_eq_ok, exists_eq_right,
    Frame.bindElementName_eq_ok]
  -- Declarations leave the name of the tag alone, which is the one that is bound after them.
  have hname (f₀ : Frame) (h : (Frame.start head.elementName scope).bindAll head.declarations =
      .ok f₀) : f₀.tag.name = head.elementName :=
    (Frame.bindsOnly_of_bindAll h).name
  constructor
  · rintro ⟨f₀, hall, hp, hbind⟩
    rw [hname f₀ hall] at hp hbind
    exact ⟨hp, f₀, hall, hbind⟩
  · rintro ⟨hp, f₀, hall, hbind⟩
    refine ⟨f₀, hall, ?_⟩
    rw [hname f₀ hall]
    exact ⟨hp, hbind⟩

theorem bindsOnly_of_openTag (h : head.openTag scope = .ok f) :
    Frame.BindsOnly (Frame.start head.elementName scope) f :=
  Frame.bindsOnly_of_bindAll (openTag_eq_ok.1 h).2

end ObjectHead

end XmlBinding
