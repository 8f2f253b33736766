import Mathlib.Logic.Relation
import XmlBinding.Proofs.Reading

/-!
What can happen to a start tag once its own declarations and its name are there. A step binds a
prefix that is free, takes the prefix of the attributes that every element may have for granted, or
writes an attribute whose name has a meaning. Every operation is a run of such steps, so what one
step keeps, no later binding can spoil.
-/

namespace XmlBinding

/-- The prefix of an element, or its absence, stands for the namespace of its name. -/
def QName.NamedIn (q : QName) (scope : Scope) : Prop :=
  scope.lookup q.nsPrefix = q.uri ∧ (q.uri = none → q.nsPrefix = none)

/-- The prefix of an attribute stands for the namespace of its name; there is none without one. -/
def QName.BoundIn (q : QName) (scope : Scope) : Prop :=
  match q.uri with
  | some uri => ∃ p, q.nsPrefix = some p ∧ scope.prefixUri p = some uri
  | none => q.nsPrefix = none

/-- A name as the constructor makes it, with a prefix in a class if it has one. -/
structure QName.Legal (allowed : String → Prop) (q : QName) : Prop where
  normal : q.Normal
  prefixIn : q.PrefixIn allowed

theorem QName.Normal.legal {q : QName} (h : q.Normal) : q.Legal fun p => p ≠ "" :=
  ⟨h, h.prefixIn⟩

theorem QName.Proper.legal {q : QName} (h : q.Proper) : q.Legal fun p => isNCName p = true :=
  ⟨h.normal, h.prefixIn⟩

theorem QName.mk_of_prefix {q : QName} {p : String} (h : q.nsPrefix = some p) :
    ⟨q.expanded, some p⟩ = q := by
  rw [← h]

theorem QName.boundIn_iff {q : QName} {scope : Scope} {uri : String} (h : q.uri = some uri) :
    q.BoundIn scope ↔ ∃ p, q.nsPrefix = some p ∧ scope.prefixUri p = some uri := by
  rw [QName.BoundIn, h]

theorem QName.BoundIn.mono {q : QName} {s t : Scope} (h : t.Extends s) (hq : q.BoundIn s) :
    q.BoundIn t := by
  cases huri : q.uri with
  | none =>
      rw [QName.BoundIn, huri] at hq ⊢
      exact hq
  | some uri =>
      rw [QName.boundIn_iff huri] at hq ⊢
      obtain ⟨p, hp, hbound⟩ := hq
      exact ⟨p, hp, h.prefixUri hbound⟩

theorem QName.NamedIn.mono {q : QName} {s t : Scope} (h : t.Extends s) (hq : q.NamedIn s) :
    q.NamedIn t := by
  refine ⟨?_, hq.2⟩
  have hlookup := hq.1
  cases hp : q.nsPrefix with
  | none =>
      rw [hp, Scope.lookup_none] at hlookup
      rw [Scope.lookup_none, h.defaultUri, hlookup]
  | some p =>
      have huri : q.uri ≠ none := by
        intro hnone
        cases hp.symm.trans (hq.2 hnone)
      obtain ⟨uri, huri⟩ := Option.ne_none_iff_exists'.1 huri
      rw [hp, huri] at hlookup
      rw [Scope.lookup_some, huri]
      exact h.prefixUri hlookup

/-- The written form of a name denotes the name where its prefix is bound. -/
theorem Scope.denotes_prefixedName {q : QName} {scope : Scope} {uri : String}
    (huri : q.uri = some uri) (hne : uri ≠ "") (hlocal : isNCName q.localName = true)
    (hq : q.BoundIn scope) (hnsPrefix : q.PrefixIn fun p => isNCName p = true) :
    scope.denotes q.prefixedName = some q.expanded := by
  obtain ⟨p, hp, hbound⟩ := (QName.boundIn_iff huri).1 hq
  have htext : q.prefixedName = s!"{p}:{q.localName}" := by
    rw [QName.prefixedName, hp]
  rw [htext, denotes_of_resolve (resolve_prefixed (hnsPrefix p hp) hlocal hbound)]
  show some (⟨present (some uri), q.localName⟩ : ExpandedName) = some q.expanded
  rw [present_of_ne hne, ← huri]

namespace Frame

variable {allowed : String → Prop} {declare : Bool} {f f' f'' : Frame} {name name' : QName}

/-! ### Binding a prefix -/

/-- The frame with a declaration in force, on the tag or from the surroundings. -/
def extend (f : Frame) (d : Declaration) (declare : Bool) : Frame :=
  ⟨if declare then f.tag.declare d else f.tag, f.scope.declare d⟩

@[simp] theorem scope_extend (f : Frame) (d : Declaration) (declare : Bool) :
    (f.extend d declare).scope = f.scope.declare d := rfl

@[simp] theorem tag_extend_true (f : Frame) (d : Declaration) :
    (f.extend d true).tag = f.tag.declare d := rfl

theorem attributes_extend (f : Frame) (d : Declaration) (declare : Bool) :
    (f.extend d declare).tag.attributes = f.tag.attributes := by
  cases declare <;> rfl

/-- A prefix that is bound already stays as it is; any other must not be declared on the tag. -/
theorem binds_iff {p : Option String} {uri : String} :
    f.bind p uri declare = .ok f' ↔
      f.scope.lookup p = present (some uri) ∧ f = f' ∨
      f.scope.lookup p ≠ present (some uri) ∧ (p ≠ none → uri ≠ "") ∧
        (∀ d ∈ f.tag.declarations, d.nsPrefix ≠ p) ∧ f.extend (.of p uri) declare = f' := by
  have htarget : (present (some uri)).isNone = true ↔ uri = "" := by
    rw [Option.isNone_iff_eq_none]
    refine ⟨fun h => ?_, ?_⟩
    · by_contra hne
      rw [present_of_ne hne] at h
      cases h
    · rintro rfl
      rfl
  rw [bind]
  dsimp only
  -- The three guards in their order: bound already, an empty namespace, declared on the tag.
  by_cases hbound : f.scope.lookup p = present (some uri)
  · rw [if_pos (by simpa [Scope.isBound] using hbound)]
    simp [hbound]
  · rw [if_neg (by simpa [Scope.isBound] using hbound)]
    by_cases hempty : p ≠ none ∧ uri = ""
    · rw [if_pos (by simpa [htarget, Option.ne_none_iff_isSome] using hempty)]
      refine ⟨nofun, ?_⟩
      rintro (h | h)
      · exact absurd h.1 hbound
      · exact absurd hempty.2 (h.2.1 hempty.1)
    · rw [if_neg (by simpa [htarget, Option.ne_none_iff_isSome] using hempty)]
      have hne : p ≠ none → uri ≠ "" := fun hp hu => hempty ⟨hp, hu⟩
      cases hfound : f.tag.declarations.find? fun d => d.nsPrefix == p with
      | some d =>
          have hmem := List.mem_of_find?_eq_some hfound
          have hsame : d.nsPrefix = p := by simpa using List.find?_some hfound
          exact ⟨nofun, fun h => h.elim (fun h => absurd h.1 hbound) fun h =>
            absurd hsame (h.2.2.1 d hmem)⟩
      | none =>
          have hfresh : ∀ d ∈ f.tag.declarations, d.nsPrefix ≠ p := by
            simpa using List.find?_eq_none.1 hfound
          simp only [Except.ok.injEq]
          refine ⟨fun h => ?_, ?_⟩
          · exact .inr ⟨hbound, hne, hfresh, h⟩
          · rintro (h | h)
            · exact absurd h.1 hbound
            · exact h.2.2.2

/-- Among prefixes that are bound to nothing, a declaration of the tag is the only obstacle. -/
theorem bind_free {p uri : String} (hp : p ≠ "") (huri : uri ≠ "")
    (hfree : f.scope.prefixUri p = none) :
    f.bind (some p) uri declare = .ok f' ↔
      (∀ d ∈ f.tag.declarations, d.nsPrefix ≠ some p) ∧ f.extend ⟨some p, uri⟩ declare = f' := by
  rw [binds_iff, Scope.lookup_some, hfree, present_of_ne huri, Declaration.of, present_of_ne hp]
  simp [huri]

/-! ### Steps -/

/-- One step of writing a tag. Without a declaration of its own, the prefix of the attributes that
every element may have is taken for granted where nothing else is bound to it. -/
inductive Step (allowed : String → Prop) (declare : Bool) : Frame → Frame → Prop where
  | bind {f : Frame} {p uri : String} (legal : allowed p)
      (free : f.scope.prefixUri p = none) (fresh : ∀ d ∈ f.tag.declarations, d.nsPrefix ≠ some p) :
      Step allowed declare f (f.extend ⟨some p, uri⟩ true)
  | assume {f : Frame} (undeclared : declare = false)
      (free : f.scope.prefixUri instancePrefix = none) :
      Step allowed declare f (f.extend ⟨some instancePrefix, instanceUri⟩ false)
  | write {f : Frame} {name : QName} {value : String} (bound : name.BoundIn f.scope) :
      Step allowed declare f { f with tag := f.tag.setAttribute name value }

/-- Any number of steps. -/
def Run (allowed : String → Prop) (declare : Bool) : Frame → Frame → Prop :=
  Relation.ReflTransGen (Step allowed declare)

theorem Run.refl (f : Frame) : Run allowed declare f f :=
  Relation.ReflTransGen.refl

theorem Run.trans (h : Run allowed declare f f') (h' : Run allowed declare f' f'') :
    Run allowed declare f f'' :=
  Relation.ReflTransGen.trans h h'

theorem Step.extends (h : Step allowed declare f f') : f'.scope.Extends f.scope := by
  cases h with
  | bind legal free fresh => exact Scope.extends_bindPrefix free _
  | assume undeclared free => exact Scope.extends_bindPrefix free _
  | write bound => exact Scope.Extends.refl _

theorem Step.name_eq (h : Step allowed declare f f') : f'.tag.name = f.tag.name := by
  cases h <;> rfl

theorem Run.extends (h : Run allowed declare f f') : f'.scope.Extends f.scope := by
  induction h with
  | refl => exact Scope.Extends.refl _
  | tail _ step ih => exact step.extends.trans ih

theorem Run.name_eq (h : Run allowed declare f f') : f'.tag.name = f.tag.name := by
  induction h with
  | refl => rfl
  | tail _ step ih => exact step.name_eq.trans ih

end Frame

/-! ### What steps keep -/

/-- A relation between the scope of a writer and the scope of a reader of what is written: it is
kept by declarations, and where the prefix of the attributes that every element may have is left to
the surroundings, the reader has it from there. -/
structure Scope.Tracking (declare : Bool) (R : Scope → Scope → Prop) : Prop where
  extends_of {s t : Scope} : R s t → t.Extends s
  declared {s t : Scope} (d : Declaration) : R s t → R (s.declare d) (t.declare d)
  assumed {s t : Scope} : declare = false → R s t → s.prefixUri instancePrefix = none →
    R (s.bindPrefix instancePrefix instanceUri) t

theorem Scope.tracking_eq : Scope.Tracking true Eq where
  extends_of h := h ▸ Extends.refl _
  declared d h := congrArg (Scope.declare · d) h
  assumed h := nomatch h

namespace Frame

/-- A tag whose names have their meanings, for its writer and for every reader in the surroundings
`start`. -/
structure Sound (allowed : String → Prop) (R : Scope → Scope → Prop) (start : Scope) (f : Frame) :
    Prop where
  tracked : R f.scope (start.declareAll f.tag.declarations)
  prefixes : f.scope.PrefixesIn allowed
  distinct : (f.tag.declarations.map Declaration.nsPrefix).Nodup
  bound : ∀ e ∈ f.tag.attributes.entries, e.1.BoundIn f.scope

variable {allowed : String → Prop} {declare : Bool} {f f' f'' : Frame} {name name' : QName}
  {R : Scope → Scope → Prop} {start : Scope}

theorem declarations_declare {d : Declaration}
    (fresh : ∀ d' ∈ f.tag.declarations, d'.nsPrefix ≠ d.nsPrefix) :
    (f.tag.declare d).declarations = f.tag.declarations ++ [d] := by
  rw [Tag.declare, addDeclaration, if_neg]
  exact fun hmem => fresh d hmem rfl

theorem distinct_declare {d : Declaration}
    (distinct : (f.tag.declarations.map Declaration.nsPrefix).Nodup)
    (fresh : ∀ d' ∈ f.tag.declarations, d'.nsPrefix ≠ d.nsPrefix) :
    ((f.tag.declare d).declarations.map Declaration.nsPrefix).Nodup := by
  rw [declarations_declare fresh, List.map_append, List.nodup_append]
  refine ⟨distinct, List.nodup_singleton _, ?_⟩
  intro p hp q hq
  obtain ⟨d', hmem, rfl⟩ := List.mem_map.1 hp
  rw [List.map_singleton, List.mem_singleton] at hq
  exact hq ▸ fresh d' hmem

/-- A new declaration keeps a tag sound, unless it hides what an attribute needs. -/
theorem Sound.extend (hR : Scope.Tracking declare R) (hf : Sound allowed R start f)
    {d : Declaration} (hd : (f.scope.declare d).PrefixesIn allowed)
    (fresh : ∀ d' ∈ f.tag.declarations, d'.nsPrefix ≠ d.nsPrefix)
    (keeps : ∀ e ∈ f.tag.attributes.entries, e.1.BoundIn (f.scope.declare d)) :
    Sound allowed R start (f.extend d true) where
  tracked := by
    rw [tag_extend_true, declarations_declare fresh, Scope.declareAll_append]
    exact hR.declared d hf.tracked
  prefixes := hd
  distinct := distinct_declare hf.distinct fresh
  bound := keeps

theorem Step.prefixes (ha : PrefixClass allowed) (h : Step allowed declare f f')
    (hf : f.scope.PrefixesIn allowed) : f'.scope.PrefixesIn allowed := by
  cases h with
  | bind legal free fresh => exact hf.declare_of_free legal free
  | assume undeclared free => exact hf.declare_of_free ha.instancePrefix free
  | write bound => exact hf

theorem Run.prefixes (ha : PrefixClass allowed) (h : Run allowed declare f f')
    (hf : f.scope.PrefixesIn allowed) : f'.scope.PrefixesIn allowed := by
  induction h with
  | refl => exact hf
  | tail _ step ih => exact step.prefixes ha ih

theorem Step.sound (hR : Scope.Tracking declare R) (ha : PrefixClass allowed)
    (h : Step allowed declare f f') (hf : Sound allowed R start f) : Sound allowed R start f' := by
  have hprefixes := h.prefixes ha hf.prefixes
  -- A step only extends the scope, so what is on the tag keeps its meaning.
  have hbound : ∀ e ∈ f.tag.attributes.entries, e.1.BoundIn f'.scope :=
    fun e he => (hf.bound e he).mono h.extends
  cases h with
  | bind legal free fresh => exact hf.extend hR hprefixes fresh hbound
  | assume undeclared free =>
      exact ⟨hR.assumed undeclared hf.tracked free, hprefixes, hf.distinct, hbound⟩
  | @write name value bound =>
      refine ⟨hf.tracked, hprefixes, hf.distinct, fun e he => ?_⟩
      rcases OrderedTable.mem_items_put he with hname | ⟨e', he', hname⟩
      · rw [hname]
        exact bound
      · rw [← hname]
        exact hbound e' he'

theorem Run.sound (hR : Scope.Tracking declare R) (ha : PrefixClass allowed)
    (h : Run allowed declare f f') (hf : Sound allowed R start f) : Sound allowed R start f' := by
  induction h with
  | refl => exact hf
  | tail _ step ih => exact step.sound hR ha ih

/-! ### Qualifying a name -/

/-- A name that is written stays the same but for a prefix, which is bound then. -/
structure Qualifies (allowed : String → Prop) (declare : Bool) (f : Frame) (name name' : QName)
    (f' : Frame) : Prop where
  run : Run allowed declare f f'
  attributes : f'.tag.attributes = f.tag.attributes
  expanded : name'.expanded = name.expanded
  bound : name'.BoundIn f'.scope
  prefixIn : name'.PrefixIn allowed

/-- The names that may be written without a declaration of their prefix. -/
def Assumable (declare d : Bool) (name : QName) : Prop :=
  d = false → declare = false ∧ name.nsPrefix = some instancePrefix ∧ name.uri = some instanceUri

/-- A name whose prefix becomes bound to its namespace. -/
theorem qualifies_of_bound {p uri : String} (huri : name.uri = some uri) (ha : allowed p)
    (run : Run allowed declare f f') (attributes : f'.tag.attributes = f.tag.attributes)
    (bound : f'.scope.prefixUri p = some uri) :
    Qualifies allowed declare f name ⟨name.expanded, some p⟩ f' where
  run := run
  attributes := attributes
  expanded := rfl
  bound := (QName.boundIn_iff (q := ⟨name.expanded, some p⟩) huri).2 ⟨p, rfl, bound⟩
  prefixIn _ hq := Option.some.inj hq ▸ ha

theorem qualifies_of_free (ha : PrefixClass allowed) {p uri : String} (huri : name.uri = some uri)
    (hne : uri ≠ "") (hp : allowed p) (hfree : f.scope.prefixUri p = none) {d : Bool}
    (hd : d = false → declare = false ∧ p = instancePrefix ∧ uri = instanceUri)
    (h : f.bind (some p) uri d = .ok f') :
    Qualifies allowed declare f name ⟨name.expanded, some p⟩ f' := by
  obtain ⟨hfresh, rfl⟩ := (bind_free (ha.ne_empty p hp) hne hfree).1 h
  refine qualifies_of_bound huri hp ?_ (attributes_extend f _ d)
    (Scope.prefixUri_declare_of_free hfree uri)
  cases d with
  | true => exact .single (.bind hp hfree hfresh)
  | false =>
      obtain ⟨hdeclare, rfl, rfl⟩ := hd rfl
      exact .single (.assume hdeclare hfree)

/-- What qualifying a name comes to: a name without a namespace has no prefix; any other keeps its
prefix, or gets one that is bound to its namespace already or becomes so. -/
inductive Qualified (f : Frame) (name : QName) (declare : Bool) : QName → Frame → Prop where
  | unqualified (huri : name.uri = none) :
      Qualified f name declare (.unqualified name.localName) f
  | kept {p uri : String} (huri : name.uri = some uri) (hp : name.nsPrefix = some p)
      (bound : f.scope.prefixUri p = some uri) : Qualified f name declare name f
  | found {p uri : String} (huri : name.uri = some uri) (found : f.scope.findPrefix uri = some p) :
      Qualified f name declare (name.withPrefix (some p)) f
  | numbered {n : Nat} {uri : String} {f' : Frame} (huri : name.uri = some uri)
      (free : f.scope.prefixUri (numberedPrefix n) = none)
      (bind : f.bind (some (numberedPrefix n)) uri true = .ok f') :
      Qualified f name declare (name.withPrefix (some (numberedPrefix n))) f'
  | own {p uri : String} {f' : Frame} (huri : name.uri = some uri) (hp : name.nsPrefix = some p)
      (free : f.scope.prefixUri p = none) (bind : f.bind (some p) uri declare = .ok f') :
      Qualified f name declare name f'

theorem qualified_of_qualify {d : Bool} (h : f.qualify name d = .ok (name', f')) :
    Qualified f name d name' f' := by
  rw [qualify] at h
  cases huri : name.uri with
  | none =>
      simp only [huri, Except.ok.injEq, Prod.mk.injEq] at h
      obtain ⟨rfl, rfl⟩ := h
      exact .unqualified huri
  | some uri =>
      simp only [huri] at h
      split at h
      · next hkept =>
          cases h
          rw [Bool.and_eq_true, Option.isSome_iff_exists] at hkept
          obtain ⟨⟨p, hp⟩, hbound⟩ := hkept
          rw [hp, Scope.isBound, beq_iff_eq, Scope.lookup_some] at hbound
          exact .kept huri hp hbound
      · split at h
        · next p hfound =>
            cases h
            exact .found huri hfound
        · next p hfound hp =>
            -- The prefix of the name is taken if it is free, else a new one is made up.
            split at h
            · obtain ⟨⟨n, hn⟩, hfree⟩ := f.scope.freshPrefix_spec
              rw [hn] at h hfree
              obtain ⟨f₁, hbind, heq⟩ := map_eq_ok.1 h
              cases heq
              exact .numbered huri hfree hbind
            · next hfree =>
                obtain ⟨f₁, hbind, heq⟩ := map_eq_ok.1 h
                cases heq
                exact .own huri hp (by simpa using hfree) hbind
        · cases h

theorem qualify_sound (ha : PrefixClass allowed) (hf : f.scope.PrefixesIn allowed)
    (hname : name.Legal allowed) {d : Bool} (hd : Assumable declare d name)
    (h : f.qualify name d = .ok (name', f')) : Qualifies allowed declare f name name' f' := by
  cases qualified_of_qualify h with
  | unqualified huri =>
      refine ⟨.refl _, rfl, ?_, rfl, nofun⟩
      show (⟨none, name.localName⟩ : ExpandedName) = name.expanded
      rw [← huri]
  | @kept p uri huri hp bound =>
      rw [← QName.mk_of_prefix hp]
      exact qualifies_of_bound huri (hname.prefixIn p hp) (.refl _) rfl bound
  | @found p uri huri found =>
      have hp := hf.allowed_of_findPrefix ha found
      rw [QName.withPrefix_eq hname.normal (ha.ne_empty p hp)]
      exact qualifies_of_bound huri hp (.refl _) rfl (hf.prefixUri_of_findPrefix found)
  | @numbered n uri _ huri free bind =>
      have hp := ha.numbered n
      rw [QName.withPrefix_eq hname.normal (ha.ne_empty _ hp)]
      exact qualifies_of_free (d := true) ha huri (hname.normal.uri_ne huri) hp free nofun bind
  | @own p uri _ huri hp free bind =>
      rw [← QName.mk_of_prefix hp]
      refine qualifies_of_free ha huri (hname.normal.uri_ne huri) (hname.prefixIn p hp) free ?_ bind
      intro hd'
      obtain ⟨hdeclare, hp', huri'⟩ := hd hd'
      exact ⟨hdeclare, Option.some.inj (hp.symm.trans hp'), Option.some.inj (huri.symm.trans huri')⟩

/-- A name whose namespace is bound to some prefix can be written without a declaration. -/
theorem exists_qualify {d : Bool}
    (h : ∀ uri, name.uri = some uri → ∃ p, f.scope.prefixUri p = some uri) :
    ∃ name', f.qualify name d = .ok (name', f) := by
  rw [qualify]
  cases huri : name.uri with
  | none => exact ⟨_, rfl⟩
  | some uri =>
      obtain ⟨p, hp⟩ := h uri huri
      obtain ⟨q, hq⟩ := Scope.exists_findPrefix hp
      dsimp only
      rw [hq]
      split
      · exact ⟨_, rfl⟩
      · exact ⟨_, rfl⟩

/-! ### Spelling a type -/

/-- The text for a type denotes the type in the scope that the rest of the tag is written in. -/
structure Spells (allowed : String → Prop) (declare : Bool) (f : Frame) (type : QName)
    (text : String) (f' : Frame) : Prop where
  run : Run allowed declare f f'
  attributes : f'.tag.attributes = f.tag.attributes
  denotes : (∀ p, allowed p → isNCName p = true) → isNCName type.localName = true →
    f'.scope.denotes text = some type.expanded

/-- The text for a type is its local name where it is in the default namespace, or in none if there
is no default; else it is the qualified name. -/
theorem typeText_cases {type : QName} {text : String} (h : f.typeText type = .ok (text, f')) :
    (f.scope.defaultUri = type.uri ∧ text = type.localName ∧ f' = f) ∨
      ∃ name, f.qualify type true = .ok (name, f') ∧ type.uri ≠ none ∧
        text = name.prefixedName := by
  rw [typeText] at h
  cases huri : type.uri with
  | none =>
      simp only [huri] at h
      split at h
      · next hdefault =>
          cases h
          exact .inl ⟨by simpa using hdefault, rfl, rfl⟩
      · cases h
  | some uri =>
      simp only [huri] at h
      -- The default is used only where no prefix is found, else the name is qualified.
      split at h
      · next hdefault =>
          cases h
          exact .inl ⟨by simpa using (Bool.and_eq_true_iff.1 hdefault).2, rfl, rfl⟩
      · split at h
        · next name f₁ hqualify =>
            cases h
            exact .inr ⟨name, hqualify, nofun, rfl⟩
        · cases h

theorem typeText_sound (declare : Bool) (ha : PrefixClass allowed)
    (hf : f.scope.PrefixesIn allowed) {type : QName} (htype : type.Legal allowed) {text : String}
    (h : f.typeText type = .ok (text, f')) : Spells allowed declare f type text f' := by
  rcases typeText_cases h with ⟨hdefault, rfl, rfl⟩ | ⟨name, hqualify, hne, rfl⟩
  · refine ⟨.refl _, rfl, fun _ hlocal => ?_⟩
    rw [Scope.denotes_of_resolve (Scope.resolve_unprefixed hlocal), hdefault]
    show some (⟨present type.uri, type.localName⟩ : ExpandedName) = some type.expanded
    rw [present_eq_self_iff.2 (QName.normal_iff.1 htype.normal).1]
  · obtain ⟨uri, huri⟩ := Option.ne_none_iff_exists'.1 hne
    have hq : Qualifies allowed declare f type name f' :=
      qualify_sound (d := true) ha hf htype nofun hqualify
    refine ⟨hq.run, hq.attributes, fun hnames hlocal => ?_⟩
    have huri' : name.uri = some uri := (congrArg ExpandedName.uri hq.expanded).trans huri
    have hlocal' : isNCName name.localName = true := by
      rw [QName.localName, hq.expanded]
      exact hlocal
    rw [← hq.expanded]
    exact Scope.denotes_prefixedName huri' (htype.normal.uri_ne huri) hlocal' hq.bound
      fun p hp => hnames p (hq.prefixIn p hp)

/-! ### Writing attributes -/

/-- An attribute to be written, and whether its prefix may be declared for it. -/
abbrev Entry := QName × String × Bool

def write (f : Frame) (w : Entry) : Except MarshalFault Frame :=
  f.writeAttribute w.1 w.2.1 w.2.2

/-- The value that the last entry for a name gives it. -/
def valueIn (k : ExpandedName) : List Entry → Option String
  | [] => none
  | w :: ws => (valueIn k ws).or (if w.1.expanded = k then some w.2.1 else none)

theorem valueIn_append (k : ExpandedName) (ws ws' : List Entry) :
    valueIn k (ws ++ ws') = (valueIn k ws').or (valueIn k ws) := by
  induction ws with
  | nil => rw [List.nil_append, valueIn, Option.or_none]
  | cons w ws ih => rw [List.cons_append, valueIn, ih, valueIn, Option.or_assoc]

/-- What writing attributes does to a tag. -/
structure Writes (allowed : String → Prop) (declare : Bool) (f : Frame) (ws : List Entry)
    (f' : Frame) : Prop where
  run : Run allowed declare f f'
  value (k : ExpandedName) :
    f'.tag.attributes.get? k = (valueIn k ws).or (f.tag.attributes.get? k)

theorem write_sound (ha : PrefixClass allowed) (hf : f.scope.PrefixesIn allowed) {w : Entry}
    (hw : w.1.Legal allowed ∧ Assumable declare w.2.2 w.1) (h : f.write w = .ok f') :
    Writes allowed declare f [w] f' := by
  obtain ⟨⟨name, f₁⟩, hqualify, heq⟩ := bind_eq_ok.1 h
  rw [pure_eq_ok] at heq
  subst heq
  have hq := qualify_sound ha hf hw.1 hw.2 hqualify
  refine ⟨hq.run.tail (.write hq.bound), fun k => ?_⟩
  show (f₁.tag.attributes.put name w.2.1).get? k = _
  rw [OrderedTable.get?_put, hq.expanded, hq.attributes, valueIn, valueIn, Option.none_or]
  split
  · rfl
  · rfl

theorem writeAll_sound (ha : PrefixClass allowed) (hf : f.scope.PrefixesIn allowed)
    {ws : List Entry} (hws : ∀ w ∈ ws, w.1.Legal allowed ∧ Assumable declare w.2.2 w.1)
    (h : ws.foldlM write f = .ok f') : Writes allowed declare f ws f' := by
  induction ws generalizing f with
  | nil =>
      rw [List.foldlM_nil, pure_eq_ok] at h
      subst h
      exact ⟨.refl _, fun k => rfl⟩
  | cons w ws ih =>
      rw [List.foldlM_cons, bind_eq_ok] at h
      obtain ⟨f₁, hw, hrest⟩ := h
      rw [List.forall_mem_cons] at hws
      have h₁ := write_sound ha hf hws.1 hw
      have h₂ := ih (h₁.run.prefixes ha hf) hws.2 hrest
      refine ⟨h₁.run.trans h₂.run, fun k => ?_⟩
      rw [h₂.value, h₁.value, valueIn, valueIn, valueIn, Option.none_or, Option.or_assoc]

/-- Attributes whose namespaces are bound are written without changing anything else. -/
theorem exists_writeAll {ws : List Entry}
    (h : ∀ w ∈ ws, ∀ uri, w.1.uri = some uri → ∃ p, f.scope.prefixUri p = some uri) :
    ∃ f', ws.foldlM write f = .ok f' ∧ f'.scope = f.scope := by
  induction ws generalizing f with
  | nil => exact ⟨f, rfl, rfl⟩
  | cons w ws ih =>
      rw [List.forall_mem_cons] at h
      obtain ⟨name, hqualify⟩ := exists_qualify (d := w.2.2) h.1
      obtain ⟨f', hrest, hscope⟩ :=
        ih (f := { f with tag := f.tag.setAttribute name w.2.1 }) h.2
      refine ⟨f', ?_, hscope⟩
      rw [List.foldlM_cons, bind_eq_ok]
      refine ⟨_, ?_, hrest⟩
      rw [write, writeAttribute, bind_eq_ok]
      exact ⟨_, hqualify, rfl⟩

end Frame

end XmlBinding
