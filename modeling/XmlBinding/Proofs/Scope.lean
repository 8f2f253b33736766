import Mathlib.Data.List.Range
import XmlBinding.Proofs.Name
import XmlBinding.Proofs.Table

/-!
Scopes by their look-ups. A declaration changes the look-up of its own prefix, or of the default,
and no other; so whatever is resolved in a scope has the same meaning in every scope that extends
it. Searching a prefix for a namespace and looking the prefix up are inverse to each other, and
among the numbered prefixes there is always one to spare.
-/

namespace XmlBinding

/-- What a declaration makes its prefix, or the default, stand for. -/
def Declaration.meaning (d : Declaration) : Option String :=
  match d.nsPrefix with
  | some p => if p = "xml" then some xmlUri else some d.uri
  | none => present (some d.uri)

/-- The prefix is in a class, and it is `xml` only for the namespace of that prefix. -/
def Declaration.PrefixIn (allowed : String → Prop) (d : Declaration) : Prop :=
  ∀ p, d.nsPrefix = some p → allowed p ∧ (p = "xml" → d.uri = xmlUri)

def QName.PrefixIn (allowed : String → Prop) (q : QName) : Prop :=
  ∀ p, q.nsPrefix = some p → allowed p

/-- A declaration means what it says, if it takes no prefix away and `xml` nowhere else. -/
theorem Declaration.meaning_eq {allowed : String → Prop} {d : Declaration} (hd : d.PrefixIn allowed)
    (hne : d.nsPrefix ≠ none → d.uri ≠ "") : d.meaning = present (some d.uri) := by
  rw [Declaration.meaning]
  cases hp : d.nsPrefix with
  | none => rfl
  | some p =>
      rw [present_of_ne (hne fun h => nomatch hp.symm.trans h)]
      dsimp only
      split
      · next hxml => exact congrArg some ((hd p hp).2 hxml).symm
      · rfl

/-- A class of prefixes that has all the ones made up while writing, and not the empty text. -/
structure PrefixClass (allowed : String → Prop) : Prop where
  ne_empty : ∀ p, allowed p → p ≠ ""
  numbered : ∀ n, allowed (Frame.numberedPrefix n)
  instancePrefix : allowed instancePrefix
  xml : allowed "xml"

theorem prefixClass_isNCName : PrefixClass fun p => isNCName p = true where
  ne_empty _ := ne_empty_of_isNCName
  numbered := Frame.isNCName_numberedPrefix
  instancePrefix := isNCName_instancePrefix
  xml := isNCName_xml

theorem prefixClass_ne_empty : PrefixClass fun p => p ≠ "" where
  ne_empty _ h := h
  numbered n := ne_empty_of_isNCName (Frame.isNCName_numberedPrefix n)
  instancePrefix := by decide
  xml := by decide

theorem QName.Normal.prefixIn {q : QName} (h : q.Normal) : q.PrefixIn fun p => p ≠ "" :=
  fun _ hp => h.prefix_ne hp

theorem QName.Proper.prefixIn {q : QName} (h : q.Proper) :
    q.PrefixIn fun p => isNCName p = true :=
  fun _ hp => h.nsPrefix hp

namespace Scope

variable {s t r : Scope} {allowed : String → Prop}

/-! ### Look-ups after a declaration -/

@[simp] theorem lookup_some (s : Scope) (p : String) : s.lookup (some p) = s.prefixUri p := rfl

@[simp] theorem lookup_none (s : Scope) : s.lookup none = s.defaultUri := rfl

@[simp] theorem prefixUri_xml (s : Scope) : s.prefixUri "xml" = some xmlUri := rfl

theorem lookup_declare (s : Scope) (d : Declaration) (k : Option String) :
    (s.declare d).lookup k = if d.nsPrefix = k then d.meaning else s.lookup k := by
  obtain ⟨_ | p, uri⟩ := d
  · cases k with
    | none => simp [declare, setDefault, lookup, Declaration.meaning]
    | some q => simp [declare, setDefault, lookup, prefixUri]
  · cases k with
    | none => simp [declare, bindPrefix, lookup]
    | some q =>
        simp only [declare, bindPrefix, lookup, prefixUri, Declaration.meaning, Option.some.injEq,
          OrderedTable.get?_set, id_eq]
        by_cases hpq : p = q
        · subst hpq
          simp
        · simp [hpq]

theorem prefixUri_bindPrefix (s : Scope) (p uri q : String) :
    (s.bindPrefix p uri).prefixUri q =
      if p = q then (if p = "xml" then some xmlUri else some uri) else s.prefixUri q := by
  show (s.declare ⟨some p, uri⟩).lookup (some q) = _
  rw [lookup_declare]
  simp [Declaration.meaning]

@[simp] theorem defaultUri_bindPrefix (s : Scope) (p uri : String) :
    (s.bindPrefix p uri).defaultUri = s.defaultUri := rfl

@[simp] theorem declareAll_nil (s : Scope) : s.declareAll [] = s := rfl

@[simp] theorem declareAll_cons (s : Scope) (d : Declaration) (ds : List Declaration) :
    s.declareAll (d :: ds) = (s.declare d).declareAll ds := rfl

theorem declareAll_append (s : Scope) (ds ds' : List Declaration) :
    s.declareAll (ds ++ ds') = (s.declareAll ds).declareAll ds' :=
  List.foldl_append

/-! ### Scopes with the same look-ups, and scopes that extend others -/

/-- Every prefix stands for the same in both, and so does the default. -/
def Agree (s t : Scope) : Prop :=
  ∀ k, s.lookup k = t.lookup k

/-- What a prefix stands for in the one, it stands for in the other; the defaults are the same. -/
structure Extends (t s : Scope) : Prop where
  prefixUri : ∀ {p u}, s.prefixUri p = some u → t.prefixUri p = some u
  defaultUri : t.defaultUri = s.defaultUri

theorem Agree.refl (s : Scope) : s.Agree s :=
  fun _ => rfl

theorem Agree.symm (h : s.Agree t) : t.Agree s :=
  fun k => (h k).symm

theorem Agree.declare (h : s.Agree t) (d : Declaration) : (s.declare d).Agree (t.declare d) := by
  intro k
  rw [lookup_declare, lookup_declare, h k]

theorem Agree.declareAll (h : s.Agree t) (ds : List Declaration) :
    (s.declareAll ds).Agree (t.declareAll ds) := by
  induction ds generalizing s t with
  | nil => exact h
  | cons d ds ih => exact ih (h.declare d)

theorem Agree.extends (h : s.Agree t) : t.Extends s where
  prefixUri hp := (h (some _)).symm.trans hp
  defaultUri := (h none).symm

theorem Extends.refl (s : Scope) : s.Extends s :=
  (Agree.refl s).extends

theorem Extends.trans (h : t.Extends s) (h' : s.Extends r) : t.Extends r where
  prefixUri hp := h.prefixUri (h'.prefixUri hp)
  defaultUri := h.defaultUri.trans h'.defaultUri

theorem Extends.declare (h : t.Extends s) (d : Declaration) :
    (t.declare d).Extends (s.declare d) where
  prefixUri {p u} hp := by
    rw [← lookup_some, lookup_declare] at hp ⊢
    split at hp
    · next same => rw [if_pos same, hp]
    · next other => rw [if_neg other, lookup_some, h.prefixUri hp]
  defaultUri := by
    rw [← lookup_none, ← lookup_none, lookup_declare, lookup_declare, lookup_none, lookup_none,
      h.defaultUri]

theorem extends_bindPrefix {p : String} (h : s.prefixUri p = none) (uri : String) :
    (s.bindPrefix p uri).Extends s where
  prefixUri {q u} hq := by
    rw [prefixUri_bindPrefix, if_neg, hq]
    rintro rfl
    exact absurd hq (by simp [h])
  defaultUri := rfl

theorem prefixUri_declare_of_free {p : String} (h : s.prefixUri p = none) (uri : String) :
    (s.declare ⟨some p, uri⟩).prefixUri p = some uri := by
  rw [← lookup_some, lookup_declare, if_pos rfl, Declaration.meaning]
  apply if_neg
  rintro rfl
  exact absurd h (by simp)

/-! ### Resolving names -/

/-- The expanded name that a text denotes. -/
def denotes (s : Scope) (text : String) : Option ExpandedName :=
  (s.resolve text).toOption.map QName.expanded

theorem denotes_of_resolve {text : String} {q : QName} (h : s.resolve text = .ok q) :
    s.denotes text = some q.expanded := by
  rw [denotes, h]
  rfl

theorem Extends.resolve (h : t.Extends s) {text : String} {q : QName}
    (hq : s.resolve text = .ok q) : t.resolve text = .ok q := by
  unfold Scope.resolve at hq ⊢
  split at hq
  · next p after hsplit =>
      cases hp : s.prefixUri p with
      | none => simp [hp] at hq
      | some u =>
          rw [hp] at hq
          simpa [h.prefixUri hp] using hq
  · next whole hsplit => rwa [h.defaultUri]

theorem Extends.denotes (h : t.Extends s) {text : String} {n : ExpandedName}
    (hn : s.denotes text = some n) : t.denotes text = some n := by
  rw [Scope.denotes, Option.map_eq_some_iff] at hn
  obtain ⟨q, hq, rfl⟩ := hn
  exact denotes_of_resolve (h.resolve (toOption_eq_some.1 hq))

theorem resolve_prefixed {p l u : String} (hp : isNCName p = true) (hl : isNCName l = true)
    (hu : s.prefixUri p = some u) :
    s.resolve s!"{p}:{l}" = .ok (QName.of (some u) l (some p)) := by
  rw [resolve, splitColon_join (not_mem_colon_of_isNCName hp)]
  simp only [hu, mapError_eq_ok, QName.of?_eq_ok, QName.check_eq_ok, true_and]
  refine ⟨hl, fun p' hp' => ?_⟩
  rw [QName.of, present_of_ne (ne_empty_of_isNCName hp)] at hp'
  exact Option.some.inj hp' ▸ hp

theorem resolve_unprefixed {l : String} (hl : isNCName l = true) :
    s.resolve l = .ok (QName.of s.defaultUri l none) := by
  rw [resolve, splitColon_of_not_mem (not_mem_colon_of_isNCName hl)]
  simp only [mapError_eq_ok, QName.of?_eq_ok, QName.check_eq_ok, true_and]
  refine ⟨hl, fun p hp => ?_⟩
  cases hp

/-! ### Searching a prefix -/

/-- Every bound prefix is in a class, and `xml` is bound to its own namespace only. -/
def PrefixesIn (allowed : String → Prop) (s : Scope) : Prop :=
  ∀ e ∈ s.bindings.entries, (⟨some e.1, e.2⟩ : Declaration).PrefixIn allowed

theorem prefixesIn_empty : empty.PrefixesIn allowed :=
  nofun

theorem PrefixesIn.declare (h : s.PrefixesIn allowed) {d : Declaration}
    (hd : d.PrefixIn allowed) : (s.declare d).PrefixesIn allowed := by
  obtain ⟨_ | p, uri⟩ := d
  · exact h
  · intro e he
    rcases OrderedTable.mem_entries_set.1 he with rfl | ⟨hmem, -⟩
    · exact hd
    · exact h e hmem

/-- The prefix `xml` is never bound to nothing. -/
theorem PrefixesIn.declare_of_free (h : s.PrefixesIn allowed) {p uri : String} (hp : allowed p)
    (hfree : s.prefixUri p = none) : (s.declare ⟨some p, uri⟩).PrefixesIn allowed := by
  apply h.declare
  rintro _ ⟨⟩
  refine ⟨hp, ?_⟩
  rintro rfl
  exact absurd hfree (by simp)

theorem mem_bindings_of_prefixUri {p u : String} (h : s.prefixUri p = some u) (hp : p ≠ "xml") :
    (p, u) ∈ s.bindings.entries := by
  rw [prefixUri, if_neg hp, OrderedTable.get?_eq_some_iff] at h
  obtain ⟨q, hmem, rfl⟩ := h
  exact hmem

theorem PrefixesIn.prefixUri_of_mem (h : s.PrefixesIn allowed) {p u : String}
    (hmem : (p, u) ∈ s.bindings.entries) : s.prefixUri p = some u := by
  rw [prefixUri]
  split
  · next hxml => exact congrArg some ((h _ hmem p rfl).2 hxml).symm
  · next hother => exact OrderedTable.get?_of_mem hmem

theorem findPrefix_cases {p u : String} (h : s.findPrefix u = some p) :
    (p = "xml" ∧ u = xmlUri) ∨ (p, u) ∈ s.bindings.entries := by
  rw [findPrefix] at h
  split at h
  · next hu => exact .inl ⟨(Option.some.inj h).symm, hu⟩
  · next hu =>
      obtain ⟨⟨q, u'⟩, hfound, rfl⟩ := Option.map_eq_some_iff.1 h
      have hmem := List.mem_reverse.1 (List.mem_of_find?_eq_some hfound)
      have huri : u' = u := by simpa using List.find?_some hfound
      exact .inr (huri ▸ hmem)

/-- A prefix that is found stands for the namespace that it was searched for, unless it is `xml`. -/
theorem prefixUri_of_findPrefix {p u : String} (h : s.findPrefix u = some p) :
    s.prefixUri p = if p = "xml" then some xmlUri else some u := by
  rw [prefixUri]
  split
  · rfl
  · next hp =>
      rcases findPrefix_cases h with ⟨hxml, -⟩ | hmem
      · exact absurd hxml hp
      · exact OrderedTable.get?_of_mem hmem

theorem PrefixesIn.prefixUri_of_findPrefix (h : s.PrefixesIn allowed) {p u : String}
    (hfound : s.findPrefix u = some p) : s.prefixUri p = some u := by
  rcases findPrefix_cases hfound with ⟨rfl, rfl⟩ | hmem
  · exact prefixUri_xml s
  · exact h.prefixUri_of_mem hmem

theorem PrefixesIn.allowed_of_findPrefix (h : s.PrefixesIn allowed) (ha : PrefixClass allowed)
    {p u : String} (hfound : s.findPrefix u = some p) : allowed p := by
  rcases findPrefix_cases hfound with ⟨rfl, -⟩ | hmem
  · exact ha.xml
  · exact (h _ hmem p rfl).1

/-- If any prefix stands for a namespace, the search finds one. -/
theorem exists_findPrefix {p u : String} (h : s.prefixUri p = some u) :
    ∃ q, s.findPrefix u = some q := by
  rw [findPrefix]
  split
  · exact ⟨"xml", rfl⟩
  · next hu =>
      have hp : p ≠ "xml" := by
        rintro rfl
        exact hu (Option.some.inj h).symm
      have hmem := List.mem_reverse.2 (mem_bindings_of_prefixUri h hp)
      cases hfound : s.bindings.entries.reverse.find? fun e => e.2 == u with
      | none => exact absurd (beq_self_eq_true u) (List.find?_eq_none.1 hfound _ hmem)
      | some e => exact ⟨e.1, rfl⟩

/-- Where every prefix that is found stands for what was searched, a search that fails shows that
nothing does. -/
theorem findPrefix_eq_none_iff {u : String}
    (h : ∀ p, s.findPrefix u = some p → s.prefixUri p = some u) :
    s.findPrefix u = none ↔ ∀ p, s.prefixUri p ≠ some u := by
  constructor
  · intro hnone p hp
    obtain ⟨q, hq⟩ := exists_findPrefix hp
    cases hnone.symm.trans hq
  · intro hall
    by_contra hne
    obtain ⟨p, hp⟩ := Option.ne_none_iff_exists'.1 hne
    exact hall p (h p hp)

theorem PrefixesIn.findPrefix_eq_none_iff (h : s.PrefixesIn allowed) {u : String} :
    s.findPrefix u = none ↔ ∀ p, s.prefixUri p ≠ some u :=
  Scope.findPrefix_eq_none_iff fun _ => h.prefixUri_of_findPrefix

/-! ### Numbered prefixes to spare -/

/-- One of the candidates is free: they are distinct, and more than the bindings. -/
theorem exists_free_candidate (s : Scope) :
    ∃ n < s.bindings.size + 1, s.prefixUri (Frame.numberedPrefix (n + 1)) = none := by
  -- Else all candidates are bound, and that is one more than there are bindings.
  by_contra hall
  push Not at hall
  have hnodup : ((List.range (s.bindings.size + 1)).map
      fun n => Frame.numberedPrefix (n + 1)).Nodup := by
    apply List.nodup_range.map
    intro m n h
    exact Nat.succ_injective (Frame.numberedPrefix_inj h)
  have hsub : ((List.range (s.bindings.size + 1)).map fun n => Frame.numberedPrefix (n + 1)) ⊆
      s.bindings.entries.map fun e => id e.1 := by
    intro p hp
    obtain ⟨n, hn, rfl⟩ := List.mem_map.1 hp
    obtain ⟨u, hu⟩ := Option.ne_none_iff_exists'.1 (hall n (List.mem_range.1 hn))
    refine List.mem_map.2 ⟨_, mem_bindings_of_prefixUri hu fun hxml => ?_, rfl⟩
    have hlist := congrArg String.toList hxml
    rw [Frame.toList_numberedPrefix] at hlist
    exact absurd (List.cons.inj hlist).1 (by decide)
  have hlen := hnodup.length_le_of_subset hsub
  rw [List.length_map, List.length_map, List.length_range, OrderedTable.size] at hlen
  omega

theorem freshPrefix_spec (s : Scope) :
    (∃ n, Frame.freshPrefix s = Frame.numberedPrefix n) ∧
      s.prefixUri (Frame.freshPrefix s) = none := by
  obtain ⟨n, hn, hfree⟩ := s.exists_free_candidate
  rw [Frame.freshPrefix]
  cases hfound : ((List.range (s.bindings.size + 1)).map fun n =>
      Frame.numberedPrefix (n + 1)).find? fun p => (s.prefixUri p).isNone with
  | none =>
      -- The search meets the free candidate at the latest.
      have := List.find?_eq_none.1 hfound _ (List.mem_map.2 ⟨n, List.mem_range.2 hn, rfl⟩)
      exact absurd hfree (by simpa using this)
  | some p =>
      obtain ⟨m, -, rfl⟩ := List.mem_map.1 (List.mem_of_find?_eq_some hfound)
      exact ⟨⟨m + 1, rfl⟩, by simpa using List.find?_some hfound⟩

end Scope

end XmlBinding
