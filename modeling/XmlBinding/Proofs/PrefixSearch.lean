import XmlBinding.Proofs.LegalNames
import XmlBinding.Proofs.TableHistory

/-!
Searching a prefix over the whole history of a scope. Among the prefixes whose last declaration is
of a namespace, the search takes the one that was declared for the first time last. It takes `xml`
like any other, though this prefix keeps its own meaning whatever is declared. Main statement:
searching a prefix and resolving a name with it are inverse to each other, unless a declaration of
`xml` for another namespace comes in between.
-/

namespace XmlBinding

/-- In a list in order, the last member with a property is the one that all others with it are
before. -/
theorem find?_reverse_eq_some_iff {β : Type} {R : β → β → Prop} (hasymm : ∀ a b, R a b → ¬R b a)
    {l : List β} (h : l.Pairwise R) {p : β → Bool} {a : β} :
    l.reverse.find? p = some a ↔
      a ∈ l ∧ p a = true ∧ ∀ b ∈ l, p b = true → b ≠ a → R b a := by
  have hlast {a : β} (hfound : l.reverse.find? p = some a) :
      ∀ b ∈ l, p b = true → b ≠ a → R b a := by
    obtain ⟨-, after, before, hsplit, hafter⟩ := List.find?_eq_some_iff_append.1 hfound
    have hl : l = before.reverse ++ a :: after.reverse := by
      rw [← List.reverse_reverse l, hsplit]
      simp
    intro b hb hpb hne
    rw [hl, List.mem_append, List.mem_cons] at hb
    rcases hb with hb | hb | hb
    · exact (List.pairwise_append.1 (hl ▸ h)).2.2 b hb a List.mem_cons_self
    · exact absurd hb hne
    · have := hafter b (List.mem_reverse.1 hb)
      simp [hpb] at this
  constructor
  · intro hfound
    exact ⟨List.mem_reverse.1 (List.mem_of_find?_eq_some hfound), List.find?_some hfound,
      hlast hfound⟩
  · rintro ⟨hmem, hpa, hall⟩
    cases hfound : l.reverse.find? p with
    | none => exact absurd hpa (List.find?_eq_none.1 hfound a (List.mem_reverse.2 hmem))
    | some b =>
        by_contra hne
        have hne : b ≠ a := fun heq => hne (congrArg some heq)
        have hb := List.mem_reverse.1 (List.mem_of_find?_eq_some hfound)
        exact hasymm b a (hall b hb (List.find?_some hfound) hne) (hlast hfound a hmem hpa hne.symm)

namespace Declaration

theorem lastUri_append_singleton (k : Option String) (ds : List Declaration) (d : Declaration) :
    lastUri k (ds ++ [d]) = if d.nsPrefix = k then some d.uri else lastUri k ds := by
  induction ds with
  | nil => exact Option.none_or
  | cons d' ds ih =>
      rw [List.cons_append, lastUri, ih, lastUri]
      split <;> rfl

/-- What a declaration does to the table of prefixes, if anything. -/
def binding? : Declaration → Option (TableCall String String)
  | ⟨some p, uri⟩ => some (.set p uri)
  | ⟨none, _⟩ => none

/-- How many declarations of prefixes there are from the first one of a prefix on. -/
def age (p : String) (ds : List Declaration) : Nat :=
  (TableCall.lifetime id p (ds.filterMap binding?)).length

/-- Among the prefixes that were last declared for a namespace, one was declared for the first time
after all others. -/
structure Youngest (ds : List Declaration) (uri p : String) : Prop where
  bound : lastUri (some p) ds = some uri
  younger : ∀ q, lastUri (some q) ds = some uri → q ≠ p → age p ds < age q ds

theorem latest?_bindings (p : String) (ds : List Declaration) :
    TableCall.latest? id p (ds.filterMap binding?) =
      (lastUri (some p) ds).map fun uri => (p, uri) := by
  induction ds using List.reverseRecOn with
  | nil => rfl
  | append_singleton ds d ih =>
      rw [List.filterMap_append, lastUri_append_singleton]
      obtain ⟨_ | q, uri⟩ := d
      · rw [if_neg nofun, ← ih]
        exact congrArg (TableCall.latest? id p) (List.append_nil _)
      · by_cases hq : q = p
        · subst hq
          simp [binding?, TableCall.latest?_append_singleton, TableCall.item, TableCall.left?]
        · simp [binding?, TableCall.latest?_append_singleton, TableCall.item, hq, ih]

end Declaration

namespace Scope

variable {ds : List Declaration} {s : Scope} {uri p localName : String}

/-! ### The table of prefixes after some declarations -/

/-- Only the declarations of prefixes change the table. -/
theorem bindings_declareAll (s : Scope) (ds : List Declaration) :
    (s.declareAll ds).bindings =
      (ds.filterMap Declaration.binding?).foldl (fun t call => call.on t) s.bindings := by
  induction ds generalizing s with
  | nil => rfl
  | cons d ds ih =>
      rw [declareAll_cons, ih]
      obtain ⟨_ | p, uri⟩ := d <;> rfl

theorem bindings_ofDeclarations (ds : List Declaration) :
    (ofDeclarations ds).bindings = TableCall.run (ds.filterMap Declaration.binding?) :=
  bindings_declareAll empty ds

theorem mem_bindings_iff :
    (p, uri) ∈ (ofDeclarations ds).bindings.entries ↔
      Declaration.lastUri (some p) ds = some uri := by
  rw [bindings_ofDeclarations, TableCall.mem_run_iff]
  simp [Declaration.latest?_bindings]

theorem prefixUri_ofDeclarations (ds : List Declaration) (p : String) :
    (ofDeclarations ds).prefixUri p =
      if p = "xml" then some xmlUri else Declaration.lastUri (some p) ds := by
  rw [prefixUri]
  congr 1
  ext uri
  rw [OrderedTable.get?_eq_some_iff, ← mem_bindings_iff]
  simp

theorem ordered_bindings (ds : List Declaration) :
    (ofDeclarations ds).bindings.entries.Pairwise fun e e' =>
      Declaration.age e'.1 ds < Declaration.age e.1 ds := by
  have hordered : ((TableCall.run (ds.filterMap Declaration.binding?) :
      OrderedTable (id : String → String) String).entries.map fun e => id e.1).Pairwise
      fun p q => Declaration.age q ds < Declaration.age p ds := TableCall.ordered_run _
  rw [bindings_ofDeclarations]
  exact List.pairwise_map.1 hordered

theorem findPrefix_ofDeclarations (huri : uri ≠ xmlUri) :
    (ofDeclarations ds).findPrefix uri = some p ↔ Declaration.Youngest ds uri p := by
  have hsearch (e : String × String) := find?_reverse_eq_some_iff (a := e)
    (p := fun e => e.2 == uri) (fun _ _ h => Nat.lt_asymm h) (ordered_bindings ds)
  rw [findPrefix, if_neg huri, Option.map_eq_some_iff]
  constructor
  · rintro ⟨⟨p, u⟩, hfound, rfl⟩
    obtain ⟨hmem, hu, hlast⟩ := (hsearch _).1 hfound
    obtain rfl : u = uri := by simpa using hu
    refine ⟨mem_bindings_iff.1 hmem, fun q hq hne => ?_⟩
    exact hlast (q, u) (mem_bindings_iff.2 hq) hu fun heq => hne (congrArg Prod.fst heq)
  · intro h
    refine ⟨(p, uri), (hsearch _).2 ⟨mem_bindings_iff.2 h.bound, by simp, ?_⟩, rfl⟩
    rintro ⟨q, u⟩ hmem hu hne
    obtain rfl : u = uri := by simpa using hu
    exact h.younger q (mem_bindings_iff.1 hmem) fun heq => hne (congrArg (·, u) heq)

/-! ### Searching and resolving -/

/-- Searching a prefix for a namespace and resolving a name with it are inverse to each other. -/
structure Inverse (s : Scope) (uri localName : String) : Prop where
  none_iff : s.findPrefix uri = none ↔ ∀ p, s.prefixUri p ≠ some uri
  bound : ∀ p, s.findPrefix uri = some p → s.prefixUri p = some uri
  denotes : ∀ p, s.findPrefix uri = some p →
    s.denotes ((QName.namespaced uri localName).withPrefix (some p)).prefixedName =
      some (QName.namespaced uri localName).expanded

/-- A name that is written with a prefix denotes what the prefix stands for. -/
theorem denotes_withPrefix {u : String} (hp : isNCName p = true)
    (hlocal : isNCName localName = true) (hbound : s.prefixUri p = some u) :
    s.denotes ((QName.namespaced uri localName).withPrefix (some p)).prefixedName =
      some (QName.namespaced u localName).expanded := by
  have htext : ((QName.namespaced uri localName).withPrefix (some p)).prefixedName =
      s!"{p}:{localName}" := by
    rw [QName.prefixedName, QName.withPrefix, QName.of, present_of_ne (ne_empty_of_isNCName hp)]
    rfl
  rw [htext, denotes_of_resolve (resolve_prefixed hp hlocal hbound)]
  rfl

/-- The one prefix that may be found without standing for the namespace is `xml`. -/
theorem inverse_iff (hs : s.PrefixesNamed) (hlocal : isNCName localName = true) :
    s.Inverse uri localName ↔ ¬(uri ≠ xmlUri ∧ s.findPrefix uri = some "xml") := by
  constructor
  · rintro h ⟨hne, hfound⟩
    exact hne (Option.some.inj (h.bound _ hfound)).symm
  · intro hxml
    have hbound : ∀ p, s.findPrefix uri = some p → s.prefixUri p = some uri := by
      intro p hfound
      rw [prefixUri_of_findPrefix hfound]
      split
      · next hp =>
          by_contra hne
          exact hxml ⟨fun huri => hne (congrArg some huri.symm), hp ▸ hfound⟩
      · rfl
    exact
      { none_iff := findPrefix_eq_none_iff hbound
        bound := hbound
        denotes := fun p h =>
          denotes_withPrefix (hs p (bound_of_findPrefix h)) hlocal (hbound p h) }

/-! ### Scopes after calls -/

/-- A call that changes a scope. -/
inductive Call where
  | declare (d : Declaration)
  | setDefault (uri : String)

namespace Call

def on (s : Scope) : Call → Scope
  | declare d => s.declare d
  | setDefault uri => s.setDefault uri

/-- The declaration that a call comes to. -/
def declaration : Call → Declaration
  | declare d => d
  | setDefault uri => ⟨none, uri⟩

end Call

/-- The scope that calls make of an empty one. -/
def after (calls : List Call) : Scope :=
  calls.foldl Call.on empty

theorem after_eq (calls : List Call) :
    after calls = ofDeclarations (calls.map Call.declaration) := by
  rw [after, ofDeclarations, declareAll, List.foldl_map]
  congr 1
  funext s call
  cases call <;> rfl

theorem prefixesNamed_after {calls : List Call}
    (hnames : ∀ call ∈ calls, call.declaration.PrefixNamed) : (after calls).PrefixesNamed := by
  rw [after_eq]
  exact prefixesNamed_empty.declareAll (List.forall_mem_map.2 hnames)

/-- The prefix `xml`, declared for another namespace than its own, is the youngest one of it. -/
def Usurped (ds : List Declaration) (uri : String) : Prop :=
  uri ≠ xmlUri ∧ Declaration.Youngest ds uri "xml"

/-- What searching a prefix for a namespace comes to in a scope that some declarations have made. -/
structure Searched (s : Scope) (ds : List Declaration) (uri localName : String) : Prop where
  lookup : ∀ p, s.prefixUri p = if p = "xml" then some xmlUri else Declaration.lastUri (some p) ds
  found : ∀ p, s.findPrefix uri = some p ↔
    if uri = xmlUri then p = "xml" else Declaration.Youngest ds uri p
  inverse : s.Inverse uri localName ↔ ¬Usurped ds uri
  misread : Usurped ds uri →
    s.denotes ((QName.namespaced uri localName).withPrefix (some "xml")).prefixedName =
      some (QName.namespaced xmlUri localName).expanded

/-- After any calls that declare names only: a prefix stands for what its last declaration names,
the search takes the youngest prefix of the namespace, and it is inverse to resolving exactly if
this is not `xml`, declared for another namespace than its own. -/
theorem findPrefix_exactly {calls : List Call}
    (hnames : ∀ call ∈ calls, call.declaration.PrefixNamed)
    (hlocal : isNCName localName = true) :
    (after calls).Searched (calls.map Call.declaration) uri localName := by
  have hnamed := prefixesNamed_after hnames
  rw [after_eq] at hnamed ⊢
  exact
    { lookup := prefixUri_ofDeclarations _
      found := fun p => by
        split
        · next huri => simp [findPrefix, huri, eq_comm]
        · next huri => exact findPrefix_ofDeclarations huri
      inverse := by
        rw [inverse_iff hnamed hlocal, Usurped]
        exact not_congr (and_congr_right findPrefix_ofDeclarations)
      misread := fun _ => denotes_withPrefix isNCName_xml hlocal (prefixUri_xml _) }

/-- Prefixes that are declared again, two of them for another namespace in between. The one that
was declared for the first time last is found, and it is not the one that was declared last. -/
theorem shadowed_searched :
    let calls : List Call := [.declare ⟨some "a", "urn:n"⟩, .setDefault "urn:n",
      .declare ⟨some "b", "urn:n"⟩, .declare ⟨some "c", "urn:m"⟩, .declare ⟨some "a", "urn:m"⟩,
      .declare ⟨some "c", "urn:n"⟩, .declare ⟨some "a", "urn:n"⟩]
    (∀ call ∈ calls, call.declaration.PrefixNamed) ∧
      isNCName "item" = true ∧ (after calls).Searched (calls.map Call.declaration) "urn:n" "item" ∧
      (after calls).findPrefix "urn:n" = some "c" ∧ (after calls).Inverse "urn:n" "item" := by
  intro calls
  have hnames : ∀ call ∈ calls, call.declaration.PrefixNamed := by decide
  have hsearched : (after calls).Searched (calls.map Call.declaration) "urn:n" "item" :=
    findPrefix_exactly hnames (by decide)
  refine ⟨hnames, by decide, hsearched, by decide, hsearched.inverse.2 ?_⟩
  rintro ⟨-, hxml⟩
  exact absurd hxml.bound (by decide)

/-- A declaration of `xml` for another namespace binds nothing to it, and yet the search finds
`xml`. -/
theorem usurped_found :
    let calls : List Call := [.declare ⟨some "xml", "urn:n"⟩]
    (∀ call ∈ calls, call.declaration.PrefixNamed) ∧
      isNCName "item" = true ∧ (after calls).findPrefix "urn:n" = some "xml" ∧
      (∀ p, (after calls).prefixUri p ≠ some "urn:n") ∧ ¬(after calls).Inverse "urn:n" "item" := by
  intro calls
  have hfound : (after calls).findPrefix "urn:n" = some "xml" := by decide
  have hunbound : ∀ p, (after calls).prefixUri p ≠ some "urn:n" := by
    intro p
    rw [after_eq, prefixUri_ofDeclarations]
    split
    · decide
    · next hp =>
        show none.or (if some "xml" = some p then some "urn:n" else none) ≠ some "urn:n"
        rw [if_neg fun heq => hp (Option.some.inj heq).symm]
        exact (Option.some_ne_none "urn:n").symm
  refine ⟨by decide, by decide, hfound, hunbound, fun h => ?_⟩
  exact hunbound "xml" (h.bound "xml" hfound)

end Scope

end XmlBinding
