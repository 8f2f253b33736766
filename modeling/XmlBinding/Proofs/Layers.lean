import Mathlib.Data.List.DropRight
import XmlBinding.Proofs.Outcome
import XmlBinding.Trust.Configuration

/-!
Configurations in layers. Setters and resolving trim the texts of a list and drop the blank ones,
and what was tidied once stays as it is; so a resolved configuration is a layer like any other.
Main statement: each parameter comes from the first layer that has it, and layers may be resolved in
groups.
-/

namespace XmlBinding

/-! ### Trimmed texts -/

namespace Text

variable {p : Char → Bool} {cs : List Char}

theorem dropEnds_eq (p : Char → Bool) (cs : List Char) :
    dropEnds p cs = (cs.dropWhile p).rdropWhile p := rfl

/-- What is left has no character of the class at its ends, so dropping once more drops nothing. -/
theorem dropEnds_dropEnds (p : Char → Bool) (cs : List Char) :
    dropEnds p (dropEnds p cs) = dropEnds p cs := by
  have hfront : (dropEnds p cs).dropWhile p = dropEnds p cs := by
    rw [List.dropWhile_eq_self_iff]
    intro hlength
    have hpre : dropEnds p cs <+: cs.dropWhile p := List.rdropWhile_prefix p _
    rw [hpre.getElem hlength]
    exact List.dropWhile_eq_self_iff.1 (List.dropWhile_idempotent p cs) _
  rw [dropEnds_eq p (dropEnds p cs), hfront, dropEnds_eq, List.rdropWhile_idempotent]

theorem dropEnds_eq_nil_iff : dropEnds p cs = [] ↔ ∀ c ∈ cs, p c = true := by
  rw [dropEnds_eq, List.rdropWhile_eq_nil_iff, ← List.dropWhile_eq_nil_iff,
    List.dropWhile_idempotent, List.dropWhile_eq_nil_iff]

theorem trim_trim (s : String) : trim (trim s) = trim s := by
  rw [trim, trim, String.toList_ofList, dropEnds_dropEnds]

theorem trim_eq_empty_iff {s : String} : trim s = "" ↔ isBlankText s = true := by
  rw [trim, isBlankText, List.all_eq_true, ← dropEnds_eq_nil_iff (p := isBlank),
    ← String.ofList_nil, String.ofList_inj]

end Text

/-- The first value that is there, among some in an order. -/
inductive FirstPresent {α : Type} : List (Option α) → Option α → Prop where
  | absent : FirstPresent [] none
  | here (a : α) (rest : List (Option α)) : FirstPresent (some a :: rest) (some a)
  | later {rest : List (Option α)} {value : Option α} (h : FirstPresent rest value) :
      FirstPresent (none :: rest) value

namespace Configuration

variable {ρ α : Type} {c : Configuration ρ} {layers : List (Configuration ρ)}
  {criteria : Option Criteria}

/-! ### Lists in a configuration -/

/-- A list that is absent, or has texts in it, all of them trimmed and none of them blank. -/
def Clean (texts : Option (List String)) : Prop :=
  ∀ ts, texts = some ts → ts ≠ [] ∧ ∀ t ∈ ts, Text.trim t = t ∧ Text.isBlankText t = false

theorem clean_none : Clean none :=
  nofun

theorem nonBlank_eq_some_iff {texts : Option (List String)} {ts : List String} :
    nonBlank texts = some ts ↔
      ts ≠ [] ∧ ∃ us, texts = some us ∧ (us.map Text.trim).filter (· != "") = ts := by
  rw [nonBlank, Option.filter_eq_some_iff, Option.map_eq_some_iff, and_comm]
  simp

theorem clean_nonBlank (texts : Option (List String)) : Clean (nonBlank texts) := by
  intro ts hts
  obtain ⟨hne, us, -, rfl⟩ := nonBlank_eq_some_iff.1 hts
  refine ⟨hne, fun t ht => ?_⟩
  obtain ⟨hmem, hnonempty⟩ := List.mem_filter.1 ht
  obtain ⟨u, -, rfl⟩ := List.mem_map.1 hmem
  have hblank : Text.isBlankText (Text.trim u) = false := by
    rw [Bool.eq_false_iff, Ne, ← Text.trim_eq_empty_iff, Text.trim_trim]
    simpa using hnonempty
  exact ⟨Text.trim_trim u, hblank⟩

/-- Nothing is left to do for a list that is clean. -/
theorem nonBlank_of_clean {texts : Option (List String)} (h : Clean texts) :
    nonBlank texts = texts := by
  cases texts with
  | none => rfl
  | some ts =>
      obtain ⟨hne, hall⟩ := h ts rfl
      rw [nonBlank_eq_some_iff]
      refine ⟨hne, ts, rfl, ?_⟩
      have htrim : ts.map Text.trim = ts :=
        (List.map_congr_left fun t ht => (hall t ht).1).trans ts.map_id
      rw [htrim, List.filter_eq_self]
      intro t ht
      obtain ⟨htrimmed, hblank⟩ := hall t ht
      rw [bne_iff_ne]
      rintro rfl
      rw [Text.trim_eq_empty_iff.1 htrimmed] at hblank
      cases hblank

/-- The lists of a configuration are clean. -/
structure Tidy (c : Configuration ρ) : Prop where
  protocols : Clean c.protocols
  cipherSuites : Clean c.cipherSuites

/-! ### Setters -/

/-- One call of a setter. -/
inductive Setting (ρ : Type) where
  | credentialsProvider (provider : Option (ProviderRef ρ))
  | basicCredentials (credentials : Option Credentials) (scope : AuthScope)
  | authCache (cache : Option ρ)
  | trustEngine (engine : Option ρ)
  | criteria (criteria : Option Criteria)
  | protocols (texts : Option (List String))
  | cipherSuites (texts : Option (List String))
  | hostnameVerifier (verifier : Option ρ)
  | clientCredential (credential : Option ρ)

def set (c : Configuration ρ) : Setting ρ → Configuration ρ
  | .credentialsProvider credentialsProvider => { c with credentialsProvider }
  | .basicCredentials credentials scope => c.withBasicCredentials credentials scope
  | .authCache authCache => { c with authCache }
  | .trustEngine trustEngine => { c with trustEngine }
  | .criteria criteria => { c with criteria }
  | .protocols texts => c.withProtocols texts
  | .cipherSuites texts => c.withCipherSuites texts
  | .hostnameVerifier hostnameVerifier => { c with hostnameVerifier }
  | .clientCredential clientCredential => { c with clientCredential }

/-- A configuration that setters have made, starting from none or from one that was resolved. -/
inductive Built : Configuration ρ → Prop where
  | empty : Built empty
  | set {c : Configuration ρ} (h : Built c) (s : Setting ρ) : Built (c.set s)
  | resolved {layers : List (Configuration ρ)} {criteria : Option Criteria}
      {c : Configuration ρ} (below : ∀ layer ∈ layers, Built layer)
      (h : resolve layers criteria = .ok c) : Built c

theorem Tidy.set (h : c.Tidy) (s : Setting ρ) : (c.set s).Tidy := by
  cases s with
  | protocols texts => exact ⟨clean_nonBlank texts, h.cipherSuites⟩
  | cipherSuites texts => exact ⟨h.protocols, clean_nonBlank texts⟩
  | credentialsProvider | basicCredentials | authCache | trustEngine | criteria
  | hostnameVerifier | clientCredential => exact ⟨h.protocols, h.cipherSuites⟩

theorem tidy_of_resolve (h : resolve layers criteria = .ok c) : c.Tidy := by
  rw [resolve] at h
  split at h
  · cases h
  · cases h
    exact ⟨clean_nonBlank _, clean_nonBlank _⟩

theorem Built.tidy (h : c.Built) : c.Tidy := by
  induction h with
  | empty => exact ⟨clean_none, clean_none⟩
  | set _ s ih => exact ih.set s
  | resolved _ h _ => exact tidy_of_resolve h

/-! ### Resolving -/

/-- Every parameter as the first layer has it that has it at all; criteria that are given come
first. -/
structure Merges (criteria : Option Criteria) (layers : List (Configuration ρ))
    (c : Configuration ρ) : Prop where
  credentialsProvider : FirstPresent (layers.map (·.credentialsProvider)) c.credentialsProvider
  authCache : FirstPresent (layers.map (·.authCache)) c.authCache
  trustEngine : FirstPresent (layers.map (·.trustEngine)) c.trustEngine
  criteria : FirstPresent (criteria :: layers.map (·.criteria)) c.criteria
  protocols : FirstPresent (layers.map (·.protocols)) c.protocols
  cipherSuites : FirstPresent (layers.map (·.cipherSuites)) c.cipherSuites
  hostnameVerifier : FirstPresent (layers.map (·.hostnameVerifier)) c.hostnameVerifier
  clientCredential : FirstPresent (layers.map (·.clientCredential)) c.clientCredential

/-- The layers without any tidying. -/
def merge (criteria : Option Criteria) (layers : List (Configuration ρ)) : Configuration ρ where
  credentialsProvider := first layers (·.credentialsProvider)
  authCache := first layers (·.authCache)
  trustEngine := first layers (·.trustEngine)
  criteria := criteria.or (first layers (·.criteria))
  protocols := first layers (·.protocols)
  cipherSuites := first layers (·.cipherSuites)
  hostnameVerifier := first layers (·.hostnameVerifier)
  clientCredential := first layers (·.clientCredential)

theorem firstPresent_first (layers : List (Configuration ρ)) (field : Configuration ρ → Option α) :
    FirstPresent (layers.map field) (first layers field) := by
  induction layers with
  | nil => exact .absent
  | cons layer layers ih =>
      rw [List.map_cons, first, List.findSome?_cons]
      cases field layer with
      | none => exact .later ih
      | some a => exact .here a _

theorem merges_merge (criteria : Option Criteria) (layers : List (Configuration ρ)) :
    Merges criteria layers (merge criteria layers) where
  credentialsProvider := firstPresent_first layers _
  authCache := firstPresent_first layers _
  trustEngine := firstPresent_first layers _
  criteria := by
    cases criteria with
    | none => exact .later (firstPresent_first layers _)
    | some criteria => exact .here criteria _
  protocols := firstPresent_first layers _
  cipherSuites := firstPresent_first layers _
  hostnameVerifier := firstPresent_first layers _
  clientCredential := firstPresent_first layers _

theorem clean_first {field : Configuration ρ → Option (List String)}
    (h : ∀ layer ∈ layers, Clean (field layer)) : Clean (first layers field) := by
  intro ts hts
  obtain ⟨layer, hlayer, hfield⟩ := List.exists_of_findSome?_eq_some hts
  exact h layer hlayer ts hfield

/-- Between layers with clean lists nothing has to be tidied. -/
theorem resolve_eq_merge (hne : layers ≠ []) (h : ∀ layer ∈ layers, layer.Tidy)
    (criteria : Option Criteria) : resolve layers criteria = .ok (merge criteria layers) := by
  have hprotocols : nonBlank (first layers (·.protocols)) = first layers (·.protocols) :=
    nonBlank_of_clean (clean_first fun layer hlayer => (h layer hlayer).protocols)
  have hcipherSuites : nonBlank (first layers (·.cipherSuites)) = first layers (·.cipherSuites) :=
    nonBlank_of_clean (clean_first fun layer hlayer => (h layer hlayer).cipherSuites)
  rw [resolve, if_neg (by simpa using hne)]
  simp only [withProtocols, withCipherSuites, hprotocols, hcipherSuites]
  rfl

theorem merge_singleton (c : Configuration ρ) : merge none [c] = c := by
  have hfirst {α : Type} (field : Configuration ρ → Option α) : first [c] field = field c := by
    rw [first, List.findSome?_singleton]
  simp only [merge, hfirst, Option.none_or]

theorem first_append (xs ys : List (Configuration ρ)) (field : Configuration ρ → Option α) :
    first (xs ++ ys) field = (first xs field).or (first ys field) :=
  List.findSome?_append

/-- Layers may be merged in groups: a group counts as one layer. -/
theorem merge_append (criteria : Option Criteria) (xs ys : List (Configuration ρ)) :
    merge criteria (xs ++ ys) = merge criteria [merge none xs, merge none ys] := by
  have hpair {α : Type} (field : Configuration ρ → Option α) (a b : Configuration ρ) :
      first [a, b] field = (field a).or (field b) := by
    rw [first, List.findSome?_cons, List.findSome?_singleton]
    cases field a <;> rfl
  rw [merge, merge]
  simp only [first_append, hpair]
  rfl

/-- Layers that were built, at least one, can be resolved: each parameter comes from the first layer
that has it, and every list stays clean. Resolving them in two groups, and the groups after that,
gives the same; a single layer is left as it is. -/
theorem resolve_layers {xs ys : List (Configuration ρ)} (hxs : ∀ x ∈ xs, x.Built)
    (hys : ∀ y ∈ ys, y.Built) (hx : xs ≠ []) (hy : ys ≠ []) (criteria : Option Criteria) :
    (∃ c, resolve xs criteria = .ok c ∧ Merges criteria xs c ∧ c.Tidy) ∧
      (∃ a b c, resolve xs none = .ok a ∧ resolve ys none = .ok b ∧
        resolve (xs ++ ys) criteria = .ok c ∧ resolve [a, b] criteria = .ok c) ∧
      ∀ x ∈ xs, resolve [x] none = .ok x ∧ x.Tidy := by
  have htidy : ∀ x ∈ xs, x.Tidy := fun x h => (hxs x h).tidy
  have htidy' : ∀ y ∈ ys, y.Tidy := fun y h => (hys y h).tidy
  have hxs' (criteria : Option Criteria) := resolve_eq_merge hx htidy criteria
  have hys' := resolve_eq_merge hy htidy' none
  refine ⟨⟨_, hxs' criteria, merges_merge criteria xs, tidy_of_resolve (hxs' criteria)⟩,
    ⟨_, _, merge criteria (xs ++ ys), hxs' none, hys', ?_, ?_⟩, fun x h => ⟨?_, htidy x h⟩⟩
  · exact resolve_eq_merge (List.append_ne_nil_of_left_ne_nil hx ys)
      (List.forall_mem_append.2 ⟨htidy, htidy'⟩) criteria
  · -- What a group is resolved to is tidy again, so the groups can be merged as layers.
    rw [merge_append]
    refine resolve_eq_merge (List.cons_ne_nil _ _) ?_ criteria
    exact List.forall_mem_cons.2 ⟨tidy_of_resolve (hxs' none),
      List.forall_mem_singleton.2 (tidy_of_resolve hys')⟩
  · rw [resolve_eq_merge (List.cons_ne_nil _ _) (List.forall_mem_singleton.2 (htidy x h)),
      merge_singleton]

/-- Settings for one peer, with blanks in a list, and those for all others. -/
def peer : Configuration Nat :=
  (empty.set (.protocols (some [" TLSv1.3 ", " "]))).set (.clientCredential (some 1))

def general : Configuration Nat :=
  ((empty.set (.protocols (some ["TLSv1.2"]))).set (.cipherSuites (some ["\t"]))).set
    (.basicCredentials (some ⟨"user", "word"⟩) .anything)

theorem peer_layered :
    (∃ c, resolve [peer] none = .ok c ∧ Merges none [peer] c ∧ c.Tidy) ∧
      (∃ a b c, resolve [peer] none = .ok a ∧ resolve [general] none = .ok b ∧
        resolve [peer, general] none = .ok c ∧ resolve [a, b] none = .ok c) ∧
      ∀ x ∈ [peer], resolve [x] none = .ok x ∧ x.Tidy := by
  have hpeer : ∀ x ∈ [peer], x.Built :=
    List.forall_mem_singleton.2 ((Built.empty.set _).set _)
  have hgeneral : ∀ x ∈ [general], x.Built :=
    List.forall_mem_singleton.2 (((Built.empty.set _).set _).set _)
  exact resolve_layers hpeer hgeneral (by simp) (by simp) none

example : (resolve [peer, general] none).toOption.map (fun c => (c.protocols, c.cipherSuites)) =
    some (some ["TLSv1.3"], none) := by
  decide

end Configuration

end XmlBinding
