import XmlBinding.Proofs.StartTag

/-!
Qualifying a name on a frame whose declarations are all in force: whatever comes of it, no binding
is lost and at most one is gained, and the only names that are refused are those with a namespace
that neither they nor the scope have a prefix for. Frames are values, so an operation that fails
cannot leave anything behind; the operations are stated a second time as ones that change a frame in
place, step by step, and come to the same. Main statement: a name that is qualified in place.
-/

namespace XmlBinding

namespace Frame

variable {f f' : Frame} {name name' : QName} {declare : Bool}

/-! ### Declarations on the tag and the scope -/

/-- What the tag declares is in force in the scope. -/
def Reflected (f : Frame) : Prop :=
  ∀ d ∈ f.tag.declarations, f.scope.lookup d.nsPrefix = d.meaning

theorem reflected_start (name : QName) (scope : Scope) : (start name scope).Reflected :=
  nofun

theorem mem_declarations_extend {d d' : Declaration} {written : Bool}
    (h : d' ∈ (f.extend d written).tag.declarations) : d' ∈ f.tag.declarations ∨ d' = d := by
  cases written with
  | false => exact .inl h
  | true =>
      rw [tag_extend_true, Tag.declare, addDeclaration] at h
      split at h
      · exact .inl h
      · simpa using h

/-- A declaration of a prefix that the tag does not declare hides nothing that it declares. -/
theorem Reflected.extend (hf : f.Reflected) {d : Declaration} {written : Bool}
    (fresh : ∀ d' ∈ f.tag.declarations, d'.nsPrefix ≠ d.nsPrefix) :
    (f.extend d written).Reflected := by
  intro d' hd'
  rw [scope_extend, Scope.lookup_declare]
  rcases mem_declarations_extend hd' with hmem | rfl
  · rw [if_neg (fresh d' hmem).symm]
    exact hf d' hmem
  · exact if_pos rfl

/-- A prefix that is bound to nothing is declared nowhere on the tag. -/
theorem Reflected.fresh (hf : f.Reflected) {p : String} (hfree : f.scope.prefixUri p = none) :
    ∀ d ∈ f.tag.declarations, d.nsPrefix ≠ some p := by
  intro d hd hsame
  have hmeaning := hf d hd
  rw [hsame, Scope.lookup_some, hfree, Declaration.meaning, hsame] at hmeaning
  dsimp only at hmeaning
  split at hmeaning <;> cases hmeaning

theorem Reflected.grows (hf : f.Reflected) (h : Grows declare f f') : f'.Reflected := by
  cases h with
  | same => exact hf
  | bind named free fresh onTag => exact hf.extend fresh

theorem Reflected.bind (hf : f.Reflected) {p : Option String} (hp : p ≠ some "") {uri : String}
    (h : f.bind p uri declare = .ok f') : f'.Reflected := by
  rcases binds_iff.1 h with ⟨-, rfl⟩ | ⟨-, -, hfresh, rfl⟩
  · exact hf
  · rw [Declaration.of, present_eq_self_iff.2 hp]
    exact hf.extend hfresh

theorem Grows.extends (h : Grows declare f f') : f'.scope.Extends f.scope := by
  cases h with
  | same => exact Scope.Extends.refl _
  | bind named free fresh onTag => exact Scope.extends_bindPrefix free _

/-- The prefixes that are bound in the one frame and not in the other are one at most. -/
theorem Grows.atMostOne (h : Grows declare f f') {p q : String}
    (hp : f.scope.prefixUri p = none) (hp' : f'.scope.prefixUri p ≠ none)
    (hq : f.scope.prefixUri q = none) (hq' : f'.scope.prefixUri q ≠ none) : p = q := by
  cases h with
  | same => exact absurd hp hp'
  | @bind r uri written named free fresh onTag =>
      have honly {p : String} (hp : f.scope.prefixUri p = none)
          (hp' : (f.extend ⟨some r, uri⟩ written).scope.prefixUri p ≠ none) : r = p := by
        by_contra hne
        apply hp'
        rw [scope_extend, ← Scope.lookup_some, Scope.lookup_declare, if_neg (by simpa using hne)]
        exact hp
      rw [← honly hp hp', ← honly hq hq']

/-! ### Which names are refused -/

/-- Where no declaration is hidden, every free prefix can be bound. -/
theorem exists_bind_free (hf : f.Reflected) {p uri : String} (hp : p ≠ "") (huri : uri ≠ "")
    (hfree : f.scope.prefixUri p = none) (declare : Bool) :
    ∃ f', f.bind (some p) uri declare = .ok f' :=
  ⟨_, (bind_free hp huri hfree).2 ⟨hf.fresh hfree, rfl⟩⟩

/-- A name with a prefix can be written, if need be with another one. -/
theorem exists_qualify_of_prefix (hf : f.Reflected) (hname : name.Normal) {uri p : String}
    (huri : name.uri = some uri) (hp : name.nsPrefix = some p) (declare : Bool) :
    ∃ x, f.qualify name declare = .ok x := by
  have hne := hname.uri_ne huri
  rw [qualify, huri]
  dsimp only
  split
  · exact ⟨_, rfl⟩
  · cases f.scope.findPrefix uri with
    | some q => exact ⟨_, rfl⟩
    | none =>
        rw [hp]
        dsimp only
        -- Whichever prefix is bound, its own or one made up, it is free.
        split
        · obtain ⟨⟨n, hn⟩, hfree⟩ := f.scope.freshPrefix_spec
          rw [hn] at hfree ⊢
          obtain ⟨f', hbind⟩ := exists_bind_free hf
            (ne_empty_of_isNCName (isNCName_numberedPrefix n)) hne hfree true
          exact ⟨_, map_eq_ok.2 ⟨f', hbind, rfl⟩⟩
        · next hfree =>
            obtain ⟨f', hbind⟩ := exists_bind_free hf (hname.prefix_ne hp) hne
              (by simpa using hfree) declare
            exact ⟨_, map_eq_ok.2 ⟨f', hbind, rfl⟩⟩

/-- A name cannot be written only if it has a namespace but no prefix, and no prefix stands for the
namespace. -/
theorem qualify_eq_error_iff {allowed : String → Prop} (hf : f.Reflected)
    (hs : f.scope.PrefixesIn allowed) (hname : name.Normal) {fault : MarshalFault} :
    f.qualify name declare = .error fault ↔
      (∃ uri, name.uri = some uri ∧ name.nsPrefix = none ∧ ∀ p, f.scope.prefixUri p ≠ some uri) ∧
        fault = ⟨.unresolvable, some f.tag.name, some name⟩ := by
  by_cases hbare : ∃ uri, name.uri = some uri ∧ name.nsPrefix = none ∧
      ∀ p, f.scope.prefixUri p ≠ some uri
  · have hrefused : f.qualify name declare =
        .error ⟨.unresolvable, some f.tag.name, some name⟩ := by
      obtain ⟨uri, huri, hnone, hall⟩ := hbare
      simp [qualify, huri, hnone, hs.findPrefix_eq_none_iff.2 hall, fail]
    rw [hrefused, Except.error.injEq, eq_comm, and_iff_right hbare]
  · have hwritten : ∃ x, f.qualify name declare = .ok x := by
      by_cases hbound : ∀ uri, name.uri = some uri → ∃ p, f.scope.prefixUri p = some uri
      · obtain ⟨name', h⟩ := exists_qualify hbound
        exact ⟨_, h⟩
      · push Not at hbound
        obtain ⟨uri, huri, hall⟩ := hbound
        obtain ⟨p, hp⟩ :=
          Option.ne_none_iff_exists'.1 fun hnone => hbare ⟨uri, huri, hnone, hall⟩
        exact exists_qualify_of_prefix hf hname huri hp declare
    obtain ⟨x, hx⟩ := hwritten
    rw [hx]
    simp [hbare]

/-! ### Tags that are changed in place -/

/-- An operation on a tag that is changed in place: what was done before a failure stays done. -/
abbrev InPlace (α : Type) :=
  ExceptT MarshalFault (StateM Frame) α

/-- What an operation on a frame of its own comes to in place, if it leaves the frame alone where it
fails. -/
def inPlace {α : Type} (f : Frame) : Except MarshalFault (α × Frame) → Except MarshalFault α × Frame
  | .ok (a, f') => (.ok a, f')
  | .error fault => (.error fault, f)

/-- Binding a prefix, first in the scope and then on the tag. -/
def bindInPlace (nsPrefix : Option String) (uri : String) (declare : Bool) : InPlace Unit := do
  let f ← get
  let target := present (some uri)
  if f.scope.isBound nsPrefix target then
    return
  if nsPrefix.isSome && target.isNone then
    throw ⟨.emptyNamespace, some f.tag.name, none⟩
  if let some d := f.tag.declarations.find? fun d => d.nsPrefix == nsPrefix then
    throw ⟨.redeclared nsPrefix d.uri, some f.tag.name, none⟩
  let d := Declaration.of nsPrefix uri
  modify fun f => { f with scope := f.scope.declare d }
  if declare then
    modify fun f => { f with tag := f.tag.declare d }

def qualifyInPlace (name : QName) (declare : Bool) : InPlace QName := do
  let some uri := name.uri | return .unqualified name.localName
  let f ← get
  if name.nsPrefix.isSome && f.scope.isBound name.nsPrefix (some uri) then
    return name
  if let some p := f.scope.findPrefix uri then
    return name.withPrefix (some p)
  let some p := name.nsPrefix | throw ⟨.unresolvable, some f.tag.name, some name⟩
  if (f.scope.prefixUri p).isSome then
    let p := freshPrefix f.scope
    bindInPlace (some p) uri true
    return name.withPrefix (some p)
  else
    bindInPlace (some p) uri declare
    return name

theorem run_get_bind {α : Type} (g : Frame → InPlace α) (f : Frame) :
    (get >>= g : InPlace α).run.run f = (g f).run.run f := rfl

theorem run_bind_pure {α : Type} {x : InPlace Unit} {f : Frame} {y : Except MarshalFault Frame}
    (h : x.run.run f = f.inPlace (y.map fun f' => ((), f'))) (a : α) :
    (x >>= fun _ => pure a : InPlace α).run.run f = f.inPlace (y.map fun f' => (a, f')) := by
  rw [ExceptT.run_bind, StateT.run_bind, h]
  cases y <;> rfl

theorem run_bindInPlace (f : Frame) (p : Option String) (uri : String) (declare : Bool) :
    (bindInPlace p uri declare).run.run f =
      f.inPlace ((f.bind p uri declare).map fun f' => ((), f')) := by
  rw [bind, bindInPlace, run_get_bind]
  dsimp only
  -- The three guards in their order, and then the two changes.
  cases hbound : f.scope.isBound p (present (some uri)) with
  | true => rfl
  | false =>
      cases hempty : p.isSome && (present (some uri)).isNone with
      | true => rfl
      | false =>
          cases hfound : f.tag.declarations.find? fun d => d.nsPrefix == p with
          | some d => rfl
          | none => cases declare <;> rfl

theorem run_qualifyInPlace (f : Frame) (name : QName) (declare : Bool) :
    (qualifyInPlace name declare).run.run f = f.inPlace (f.qualify name declare) := by
  rw [qualify, qualifyInPlace]
  cases huri : name.uri with
  | none => rfl
  | some uri =>
      dsimp only
      rw [run_get_bind]
      cases hkept : name.nsPrefix.isSome && f.scope.isBound name.nsPrefix (some uri) with
      | true => rfl
      | false =>
          cases hfound : f.scope.findPrefix uri with
          | some p => rfl
          | none =>
              cases hp : name.nsPrefix with
              | none => rfl
              | some p =>
                  simp only [Bool.false_eq_true, if_false]
                  by_cases htaken : (f.scope.prefixUri p).isSome = true
                  · simp only [htaken, if_true]
                    exact run_bind_pure (run_bindInPlace f _ uri true) _
                  · simp only [htaken]
                    exact run_bind_pure (run_bindInPlace f _ uri declare) _

/-! ### The search for a free prefix -/

/-- The search for a numbered prefix, counting on from a number: it ends at the first prefix that is
bound to nothing. -/
inductive FreshSearch (s : Scope) : Nat → Nat → Prop where
  | found {n : Nat} (free : s.prefixUri (numberedPrefix n) = none) : FreshSearch s n n
  | next {n m : Nat} (bound : s.prefixUri (numberedPrefix n) ≠ none)
      (rest : FreshSearch s (n + 1) m) : FreshSearch s n m

theorem freshSearch_of_bound {s : Scope} {n m : Nat} (hle : n ≤ m)
    (bound : ∀ k, n ≤ k → k < m → s.prefixUri (numberedPrefix k) ≠ none)
    (free : s.prefixUri (numberedPrefix m) = none) : FreshSearch s n m := by
  induction hle using Nat.decreasingInduction with
  | self => exact .found free
  | of_succ n hlt ih =>
      exact .next (bound n (Nat.le_refl n) hlt) (ih fun k hk => bound k (Nat.le_of_succ_le hk))

/-- The search ends, and no later than the candidates are one more than the bindings. -/
theorem freshSearch_freshPrefix (s : Scope) :
    ∃ n ≤ s.bindings.size + 1, FreshSearch s 1 n ∧ freshPrefix s = numberedPrefix n ∧
      s.prefixUri (numberedPrefix n) = none := by
  obtain ⟨i, hi, hfree⟩ := s.exists_free_candidate
  rw [freshPrefix, List.find?_map]
  cases hfound : (List.range (s.bindings.size + 1)).find?
      ((fun p => (s.prefixUri p).isNone) ∘ fun n => numberedPrefix (n + 1)) with
  | none =>
      have := List.find?_eq_none.1 hfound i (List.mem_range.2 hi)
      exact absurd hfree (by simpa using this)
  | some n =>
      rw [List.find?_range_eq_some] at hfound
      obtain ⟨hn, hrange, hbefore⟩ := hfound
      have hfree : s.prefixUri (numberedPrefix (n + 1)) = none := by simpa using hn
      refine ⟨n + 1, Nat.succ_le_of_lt (List.mem_range.1 hrange), ?_, rfl, hfree⟩
      refine freshSearch_of_bound (Nat.succ_le_succ (Nat.zero_le n)) (fun k hk hlt => ?_) hfree
      obtain ⟨k, rfl⟩ := Nat.exists_eq_add_of_le' hk
      simpa [Option.isSome_iff_ne_none] using hbefore k (Nat.lt_of_succ_lt_succ hlt)

/-! ### What qualifying comes to -/

theorem scope_of_bind_free {p uri : String} {written : Bool} (hp : p ≠ "") (huri : uri ≠ "")
    (hfree : f.scope.prefixUri p = none) (h : f.bind (some p) uri written = .ok f') :
    f'.scope = f.scope.declare ⟨some p, uri⟩ := by
  obtain ⟨-, rfl⟩ := (bind_free hp huri hfree).1 h
  rfl

/-- A name that is written has a prefix that stands for its namespace, if it has one. -/
theorem boundIn_of_qualify {allowed : String → Prop} (ha : PrefixClass allowed)
    (hs : f.scope.PrefixesIn allowed) (hname : name.Normal)
    (h : f.qualify name declare = .ok (name', f')) : name'.BoundIn f'.scope := by
  have hbinds {p uri : String} {written : Bool} {f' : Frame} (huri : name.uri = some uri)
      (hp : p ≠ "") (hfree : f.scope.prefixUri p = none)
      (hbind : f.bind (some p) uri written = .ok f') :
      (⟨name.expanded, some p⟩ : QName).BoundIn f'.scope := by
    refine (QName.boundIn_iff (q := ⟨name.expanded, some p⟩) huri).2 ⟨p, rfl, ?_⟩
    rw [scope_of_bind_free hp (hname.uri_ne huri) hfree hbind]
    exact Scope.prefixUri_declare_of_free hfree uri
  cases qualified_of_qualify h with
  | unqualified huri => exact rfl
  | kept huri hp bound => exact (QName.boundIn_iff huri).2 ⟨_, hp, bound⟩
  | @found p _ huri found =>
      rw [QName.withPrefix_eq hname (ha.ne_empty p (hs.allowed_of_findPrefix ha found))]
      refine (QName.boundIn_iff (q := ⟨name.expanded, some p⟩) huri).2 ⟨p, rfl, ?_⟩
      exact hs.prefixUri_of_findPrefix found
  | @numbered n _ _ huri free bind =>
      have hp := ne_empty_of_isNCName (isNCName_numberedPrefix n)
      rw [QName.withPrefix_eq hname hp]
      exact hbinds huri hp free bind
  | own huri hp free bind =>
      rw [← QName.mk_of_prefix hp]
      exact hbinds huri (hname.prefix_ne hp) free bind

/-- No prefix gets bound but that of the name and the numbered ones. -/
theorem prefixesIn_of_qualify {allowed : String → Prop} (ha : PrefixClass allowed)
    (hs : f.scope.PrefixesIn allowed) (hname : name.Legal allowed)
    (h : f.qualify name declare = .ok (name', f')) : f'.scope.PrefixesIn allowed := by
  have hbinds {p uri : String} {written : Bool} {f' : Frame} (huri : name.uri = some uri)
      (hp : allowed p) (hfree : f.scope.prefixUri p = none)
      (hbind : f.bind (some p) uri written = .ok f') : f'.scope.PrefixesIn allowed := by
    rw [scope_of_bind_free (ha.ne_empty p hp) (hname.normal.uri_ne huri) hfree hbind]
    exact hs.declare_of_free hp hfree
  cases qualified_of_qualify h with
  | unqualified huri => exact hs
  | kept huri hp bound => exact hs
  | found huri found => exact hs
  | @numbered n _ _ huri free bind => exact hbinds huri (ha.numbered n) free bind
  | own huri hp free bind => exact hbinds huri (hname.prefixIn _ hp) free bind

/-- What qualifying a name on a frame comes to: its result, and the frame that it leaves behind. -/
structure Qualifying (f : Frame) (name : QName) (result : Except MarshalFault QName) (f' : Frame) :
    Prop where
  kept : f'.scope.Extends f.scope
  atMostOne : ∀ p q, f.scope.prefixUri p = none → f'.scope.prefixUri p ≠ none →
    f.scope.prefixUri q = none → f'.scope.prefixUri q ≠ none → p = q
  named : ∀ name', result = .ok name' →
    name'.expanded = name.expanded ∧ name'.BoundIn f'.scope
  refused : ∀ fault, result = .error fault ↔
    (∃ uri, name.uri = some uri ∧ name.nsPrefix = none ∧ ∀ p, f.scope.prefixUri p ≠ some uri) ∧
      fault = ⟨.unresolvable, some f.tag.name, some name⟩

/-- A name that is qualified in place, and the search for a free prefix that this may take: the
number of candidates that are looked at is one more than the number of bindings at most. -/
theorem qualifying_exactly (f : Frame) (name : QName) (declare : Bool) (reflected : f.Reflected)
    (prefixes : f.scope.PrefixesIn fun p => p ≠ "") (normal : name.Normal) :
    (∃ result f', (qualifyInPlace name declare).run.run f = (result, f') ∧
        f.qualify name declare = result.map (fun name' => (name', f')) ∧
        Qualifying f name result f') ∧
      ∃ n ≤ f.scope.bindings.size + 1, FreshSearch f.scope 1 n ∧
        freshPrefix f.scope = numberedPrefix n ∧ f.scope.prefixUri (numberedPrefix n) = none := by
  refine ⟨?_, freshSearch_freshPrefix f.scope⟩
  have hrefused (fault : MarshalFault) : f.qualify name declare = .error fault ↔ _ :=
    qualify_eq_error_iff reflected prefixes normal
  rw [run_qualifyInPlace]
  cases h : f.qualify name declare with
  | error fault =>
      refine ⟨.error fault, f, rfl, rfl, ?_⟩
      exact
        { kept := Scope.Extends.refl _
          atMostOne := fun p q hp hp' => absurd hp hp'
          named := nofun
          refused := fun fault' => by rw [← hrefused, h]; simp }
  | ok x =>
      obtain ⟨name', f'⟩ := x
      obtain ⟨hexpanded, hgrows⟩ := qualify_grows normal h
      have hbound := boundIn_of_qualify prefixClass_ne_empty prefixes normal h
      refine ⟨.ok name', f', rfl, rfl, ?_⟩
      exact
        { kept := hgrows.extends
          atMostOne := fun p q hp hp' hq hq' => hgrows.atMostOne hp hp' hq hq'
          named := fun _ hname => Except.ok.inj hname ▸ ⟨hexpanded, hbound⟩
          refused := fun fault => by rw [← hrefused, h]; simp }

/-- A tag on which the prefix of the next name and the first numbered prefix are taken. -/
def crowded : Frame :=
  (start (.prefixed "urn:m" "Thing" "t") (.ofDeclarations [⟨some "ns1", "urn:a"⟩])).extend
    ⟨some "t", "urn:m"⟩ true

theorem crowded_reflected : crowded.Reflected :=
  (reflected_start _ _).extend nofun

theorem crowded_prefixes : crowded.scope.PrefixesIn fun p => p ≠ "" := by
  have hns1 : (Scope.ofDeclarations [⟨some "ns1", "urn:a"⟩]).PrefixesIn fun p => p ≠ "" :=
    Scope.prefixesIn_empty.declare_of_free (by decide) (by decide)
  exact hns1.declare_of_free (by decide) (by decide)

theorem crowded_qualifying :
    ∃ f', (qualifyInPlace (.prefixed "urn:n" "extra" "t") false).run.run crowded =
        (.ok (.prefixed "urn:n" "extra" "ns2"), f') ∧
      Qualifying crowded (.prefixed "urn:n" "extra" "t") (.ok (.prefixed "urn:n" "extra" "ns2"))
        f' := by
  have hresult : ((qualifyInPlace (.prefixed "urn:n" "extra" "t") false).run.run crowded).1 =
      .ok (.prefixed "urn:n" "extra" "ns2") := by rfl
  obtain ⟨⟨result, f', hrun, -, hq⟩, -⟩ := qualifying_exactly crowded
    (.prefixed "urn:n" "extra" "t") false crowded_reflected crowded_prefixes (by decide)
  rw [hrun] at hresult
  cases hresult
  exact ⟨f', hrun, hq⟩

end Frame

end XmlBinding
