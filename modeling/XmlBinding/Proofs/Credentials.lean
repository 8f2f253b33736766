import Mathlib.Algebra.Group.Nat.Defs
import Mathlib.Data.List.Lex
import Mathlib.Data.List.MinMax
import XmlBinding.Proofs.Table
import XmlBinding.Trust.Credentials

/-!
Which credentials a provider answers with. The score of a scope is a binary number whose digits are
the parts that the scope says something about, so scores are ordered as these parts are, the host
first. The table of a provider is known from what was set since it was last cleared. Main statement:
the answer is what was set last for the scope that says most about the target and, among those that
say as much, was set first.
-/

namespace XmlBinding

namespace AuthScope

/-! ### What a scope matches, and how much it says -/

/-- A part of a scope against that of a target: it is absent, or the same. -/
def Allows {α : Type} (stored target : Option α) : Prop :=
  stored = none ∨ stored = target

/-- Every part of a scope allows that of a target. Hosts are compared by their small letters. -/
@[mk_iff]
structure Matches (stored target : AuthScope) : Prop where
  host : Allows (stored.host.map foldHost) (target.host.map foldHost)
  port : Allows stored.port target.port
  realm : Allows stored.realm target.realm
  scheme : Allows stored.scheme target.scheme

instance {α : Type} [DecidableEq α] (stored target : Option α) : Decidable (Allows stored target) :=
  inferInstanceAs (Decidable (_ ∨ _))

instance (stored target : AuthScope) : Decidable (stored.Matches target) :=
  decidable_of_iff _ (matches_iff stored target).symm

/-- Which parts a scope says something about, the weightiest first. Scopes are compared by them
lexicographically. -/
def parts (s : AuthScope) : List Bool :=
  [s.host.isSome, s.port.isSome, s.realm.isSome, s.scheme.isSome]

/-- The number with the given binary digits. -/
def weigh : List Bool → Nat
  | [] => 0
  | digit :: digits => digit.toNat * 2 ^ digits.length + weigh digits

theorem weigh_lt (digits : List Bool) : weigh digits < 2 ^ digits.length := by
  induction digits with
  | nil => simp [weigh]
  | cons digit digits ih =>
      rw [weigh, List.length_cons, pow_succ]
      cases digit <;> simp <;> omega

/-- A digit outweighs all that follow it. -/
theorem weigh_lt_weigh_iff {as bs : List Bool} (h : as.length = bs.length) :
    weigh as < weigh bs ↔ as < bs := by
  induction as generalizing bs with
  | nil =>
      obtain rfl := List.length_eq_zero_iff.1 h.symm
      simp
  | cons a as ih =>
      cases bs with
      | nil => cases h
      | cons b bs =>
          have hlength : as.length = bs.length := Nat.succ.inj h
          have has : weigh as < 2 ^ bs.length := hlength ▸ weigh_lt as
          have hbs : weigh bs < 2 ^ bs.length := weigh_lt bs
          rw [List.cons_lt_cons_iff, ← ih hlength, weigh, weigh, hlength]
          cases a <;> cases b <;> simp [Bool.lt_iff] <;> omega

/-- How much a scope says about the targets that it matches. -/
def weight (s : AuthScope) : Nat :=
  weigh s.parts

theorem weight_lt_iff {a b : AuthScope} : a.weight < b.weight ↔ a.parts < b.parts :=
  weigh_lt_weigh_iff rfl

theorem weight_le_iff {a b : AuthScope} : a.weight ≤ b.weight ↔ a.parts ≤ b.parts := by
  rw [← not_lt, ← not_lt, weight_lt_iff]

theorem partScore_eq {α : Type} [DecidableEq α] (weight : Nat) (stored target : Option α) :
    partScore weight stored target =
      if Allows stored target then some (stored.isSome.toNat * weight) else none := by
  cases stored with
  | none => simp [partScore, Allows]
  | some a => cases target <;> simp [partScore, Allows]

/-- The score of a scope that matches weighs its parts. -/
theorem score?_eq (stored target : AuthScope) :
    stored.score? target =
      if stored.Matches target then some stored.weight else none := by
  simp only [score?, partScore_eq, matches_iff]
  by_cases hhost : Allows (stored.host.map foldHost) (target.host.map foldHost)
  · by_cases hport : Allows stored.port target.port
    · by_cases hrealm : Allows stored.realm target.realm
      · by_cases hscheme : Allows stored.scheme target.scheme
        · simp [hhost, hport, hrealm, hscheme, weight, parts, weigh, Nat.add_assoc]
        · simp [hhost, hport, hrealm, hscheme]
      · simp [hhost, hport, hrealm]
    · simp [hhost, hport]
  · simp [hhost]

end AuthScope

namespace CredentialsProvider

variable {p : CredentialsProvider} {target : AuthScope} {credentials : Credentials}

/-! ### The best of the entries that match -/

/-- The entries whose scopes match a target. -/
def matching (p : CredentialsProvider) (target : AuthScope) : List (AuthScope × Credentials) :=
  p.entries.entries.filter fun e => e.1.Matches target

/-- The search for the best candidate is the search for the first entry that scores highest. -/
theorem best?_map {α : Type} (score : α → Nat) (value : α → Credentials) (es : List α) :
    best? (es.map fun e => (score e, value e)) =
      (es.argmax score).map fun e => (score e, value e) := by
  have hfold (es : List α) (e : α) :
      some ((es.map fun e => (score e, value e)).foldl better (score e, value e)) =
        (es.foldl (List.argAux fun b a => score a < score b) (some e)).map
          fun e => (score e, value e) := by
    induction es generalizing e with
    | nil => rfl
    | cons e' es ih =>
        simp only [List.map_cons, List.foldl_cons, List.argAux, better]
        split <;> exact ih _
  cases es with
  | nil => rfl
  | cons e es => exact hfold es e

theorem candidates_eq (p : CredentialsProvider) (target : AuthScope) :
    p.candidates target = (p.matching target).map fun e => (e.1.weight, e.2) := by
  rw [candidates, matching]
  induction p.entries.entries with
  | nil => rfl
  | cons e es ih =>
      rw [List.filterMap_cons, List.filter_cons, AuthScope.score?_eq, ih]
      by_cases h : e.1.Matches target <;> simp [h]

theorem credentials?_eq (p : CredentialsProvider) (target : AuthScope) :
    p.credentials? target =
      ((p.matching target).argmax fun e => e.1.weight).map (·.2) := by
  rw [credentials?, candidates_eq, best?_map, Option.map_map]
  rfl

/-! ### Calls on a provider -/

inductive Call where
  | set (scope : AuthScope) (credentials : Credentials)
  | clear
deriving DecidableEq

def perform (p : CredentialsProvider) : Call → CredentialsProvider
  | .set scope credentials => p.set scope credentials
  | .clear => empty

/-- The provider after some calls on an empty one. -/
def run (calls : List Call) : CredentialsProvider :=
  calls.foldl perform empty

/-- What a call sets. -/
def Call.entry? : Call → Option (AuthScope × Credentials)
  | .set scope credentials => some (scope, credentials)
  | .clear => none

/-- What was set since the last call that cleared the provider, in the order of the calls. -/
def setSince (calls : List Call) : List (AuthScope × Credentials) :=
  ((calls.reverse.takeWhile (· ≠ .clear)).filterMap Call.entry?).reverse

theorem setSince_set (calls : List Call) (scope : AuthScope) (credentials : Credentials) :
    setSince (calls ++ [.set scope credentials]) = setSince calls ++ [(scope, credentials)] := by
  simp [setSince, Call.entry?]

theorem setSince_clear (calls : List Call) : setSince (calls ++ [.clear]) = [] := by
  simp [setSince]

/-- When a scope was first set, as its place in what was set. -/
def rank (past : List (AuthScope × Credentials)) (scope : AuthScope) : Nat :=
  (past.map Prod.fst).idxOf scope

/-- A provider that is known from what was set in it: each scope is stored with what was set last
for it, and the scopes stand in the order in which they were first set. -/
structure Recalls (p : CredentialsProvider) (past : List (AuthScope × Credentials)) : Prop where
  lookup : ∀ scope, p.entries.get? scope = past.reverse.lookup scope
  ordered : p.entries.items.Pairwise fun a b => rank past a < rank past b

section Recalls

variable {past : List (AuthScope × Credentials)}

theorem recalls_empty : Recalls empty [] :=
  ⟨fun _ => rfl, .nil⟩

theorem Recalls.mem_entries_iff (h : p.Recalls past) {scope : AuthScope} :
    (scope, credentials) ∈ p.entries.entries ↔ past.reverse.lookup scope = some credentials := by
  rw [← h.lookup, OrderedTable.get?_eq_some_iff]
  simp

theorem exists_lookup_iff {scope : AuthScope} :
    (∃ credentials, past.reverse.lookup scope = some credentials) ↔
      scope ∈ past.map Prod.fst := by
  rw [← Option.isSome_iff_exists, List.lookup_isSome_iff, List.mem_map]
  refine exists_congr fun e => ?_
  rw [List.mem_reverse, beq_iff_eq, eq_comm (a := scope)]

theorem Recalls.mem_items_iff (h : p.Recalls past) {scope : AuthScope} :
    scope ∈ p.entries.items ↔ scope ∈ past.map Prod.fst := by
  rw [← exists_lookup_iff, OrderedTable.items, List.mem_map]
  constructor
  · rintro ⟨⟨_, credentials⟩, hmem, rfl⟩
    exact ⟨credentials, h.mem_entries_iff.1 hmem⟩
  · rintro ⟨credentials, hlookup⟩
    exact ⟨(scope, credentials), h.mem_entries_iff.2 hlookup, rfl⟩

/-- What is set later does not change when the scopes before it were first set. -/
theorem rank_append {scope : AuthScope} (h : scope ∈ past.map Prod.fst)
    (later : List (AuthScope × Credentials)) : rank (past ++ later) scope = rank past scope := by
  rw [rank, List.map_append, List.idxOf_append_of_mem h, rank]

/-- A scope that is stored already keeps its rank, and a new one stands last. -/
theorem Recalls.set (h : p.Recalls past) (scope : AuthScope) (credentials : Credentials) :
    (p.set scope credentials).Recalls (past ++ [(scope, credentials)]) where
  lookup other := by
    rw [CredentialsProvider.set, OrderedTable.get?_set, List.reverse_append, h.lookup]
    by_cases hsame : scope = other
    · simp [hsame]
    · have hother : (other == scope) = false := by simpa using Ne.symm hsame
      simp [List.lookup_cons, hsame, hother]
  ordered := by
    have hkept : p.entries.items.Pairwise fun a b =>
        rank (past ++ [(scope, credentials)]) a < rank (past ++ [(scope, credentials)]) b := by
      refine h.ordered.imp_of_mem fun ha hb hlt => ?_
      rwa [rank_append (h.mem_items_iff.1 ha), rank_append (h.mem_items_iff.1 hb)]
    have hitems : (p.set scope credentials).entries.items =
        if scope ∈ p.entries.items then p.entries.items else p.entries.items ++ [scope] :=
      keys_writeEntry id (scope, credentials) p.entries.entries
    rw [hitems]
    split
    · exact hkept
    · next hnew =>
        rw [h.mem_items_iff] at hnew
        refine List.pairwise_append.2 ⟨hkept, List.pairwise_singleton _ _, fun a ha b hb => ?_⟩
        obtain rfl := List.mem_singleton.1 hb
        rw [h.mem_items_iff] at ha
        rw [rank_append ha, rank, rank, List.map_append, List.idxOf_append_of_notMem hnew]
        exact Nat.lt_add_right _ (List.idxOf_lt_length_of_mem ha)

theorem recalls_run (calls : List Call) : (run calls).Recalls (setSince calls) := by
  induction calls using List.reverseRecOn with
  | nil => exact recalls_empty
  | append_singleton calls call ih =>
      rw [run, List.foldl_append]
      cases call with
      | set scope credentials =>
          rw [setSince_set]
          exact ih.set scope credentials
      | clear =>
          rw [setSince_clear]
          exact recalls_empty

/-! ### The scope that prevails -/

/-- A scope that was set and matches the target, where no other one that does says more, or as much
and was set before it. -/
structure Prevails (past : List (AuthScope × Credentials)) (target scope : AuthScope) : Prop where
  stored : scope ∈ past.map Prod.fst
  matched : scope.Matches target
  best : ∀ other ∈ past.map Prod.fst, other.Matches target →
    other.parts < scope.parts ∨ other.parts = scope.parts ∧ rank past scope ≤ rank past other

theorem Recalls.mem_matching_iff (h : p.Recalls past) {scope : AuthScope} :
    (scope, credentials) ∈ p.matching target ↔
      past.reverse.lookup scope = some credentials ∧ scope.Matches target := by
  rw [matching, List.mem_filter, h.mem_entries_iff, decide_eq_true_eq]

/-- In a list that is ordered by a measure, the places are ordered alike. -/
theorem idxOf_le_idxOf_iff {α : Type} [DecidableEq α] {f : α → Nat} {l : List α}
    (h : l.Pairwise fun a b => f a < f b) {a b : α} (ha : a ∈ l) (hb : b ∈ l) :
    l.idxOf a ≤ l.idxOf b ↔ f a ≤ f b := by
  have hlt {a b : α} (ha : a ∈ l) (hb : b ∈ l) (hidx : l.idxOf a < l.idxOf b) : f a < f b := by
    have hpair := List.pairwise_iff_getElem.1 h _ _ (List.idxOf_lt_length_of_mem ha)
      (List.idxOf_lt_length_of_mem hb) hidx
    simpa using hpair
  constructor
  · intro hle
    rcases Nat.lt_or_eq_of_le hle with hidx | hidx
    · exact Nat.le_of_lt (hlt ha hb hidx)
    · rw [(List.idxOf_inj ha).1 hidx]
  · intro hle
    by_contra hidx
    exact absurd (hlt hb ha (Nat.lt_of_not_le hidx)) (Nat.not_lt_of_le hle)

/-- The entry that is chosen is that of the scope that prevails. -/
theorem Recalls.argmax_eq_some_iff (h : p.Recalls past) {scope : AuthScope} :
    ((p.matching target).argmax fun e => e.1.weight) = some (scope, credentials) ↔
      Prevails past target scope ∧ past.reverse.lookup scope = some credentials := by
  have hordered : (p.matching target).Pairwise fun a b => rank past a.1 < rank past b.1 :=
    (List.pairwise_map.1 h.ordered).filter _
  rw [List.argmax_eq_some_iff, h.mem_matching_iff]
  constructor
  · rintro ⟨⟨hlookup, hmatches⟩, hmost, hfirst⟩
    have hself := h.mem_matching_iff.2 ⟨hlookup, hmatches⟩
    refine ⟨⟨exists_lookup_iff.1 ⟨_, hlookup⟩, hmatches, fun other hother hmatches' => ?_⟩, hlookup⟩
    obtain ⟨credentials', hlookup'⟩ := exists_lookup_iff.2 hother
    have hmem := h.mem_matching_iff.2 ⟨hlookup', hmatches'⟩
    have hle : other.parts ≤ scope.parts :=
      AuthScope.weight_le_iff.1 (hmost (other, credentials') hmem)
    rcases hle.lt_or_eq with hlt | heq
    · exact .inl hlt
    · have hidx := hfirst _ hmem (AuthScope.weight_le_iff.2 heq.ge)
      exact .inr ⟨heq, (idxOf_le_idxOf_iff hordered hself hmem).1 hidx⟩
  · rintro ⟨⟨hstored, hmatches, hbest⟩, hlookup⟩
    have hself := h.mem_matching_iff.2 ⟨hlookup, hmatches⟩
    have hother (e : AuthScope × Credentials) (he : e ∈ p.matching target) :
        e.1.parts < scope.parts ∨
          e.1.parts = scope.parts ∧ rank past scope ≤ rank past e.1 := by
      obtain ⟨hlookup', hmatches'⟩ := h.mem_matching_iff.1 he
      exact hbest e.1 (exists_lookup_iff.1 ⟨_, hlookup'⟩) hmatches'
    refine ⟨⟨hlookup, hmatches⟩, fun e he => ?_, fun e he hle => ?_⟩
    · rcases hother e he with hlt | ⟨heq, -⟩
      · exact AuthScope.weight_le_iff.2 hlt.le
      · exact AuthScope.weight_le_iff.2 heq.le
    · rw [idxOf_le_idxOf_iff hordered hself he]
      rcases hother e he with hlt | ⟨-, hrank⟩
      · exact absurd (AuthScope.weight_le_iff.1 hle) (not_le_of_gt hlt)
      · exact hrank

/-- Whatever was set and cleared: a provider has no answer exactly if no scope that was set since
it was last cleared matches the target; else it answers with what was set last for the one that
prevails. -/
theorem credentials?_run (calls : List Call) (target : AuthScope) :
    ((run calls).credentials? target = none ↔
      ∀ scope ∈ (setSince calls).map Prod.fst, ¬scope.Matches target) ∧
    ∀ credentials, (run calls).credentials? target = some credentials ↔
      ∃ scope, Prevails (setSince calls) target scope ∧
        (setSince calls).reverse.lookup scope = some credentials := by
  have h : (run calls).Recalls (setSince calls) := recalls_run calls
  refine ⟨?_, fun credentials => ?_⟩
  · rw [credentials?_eq, Option.map_eq_none_iff, List.argmax_eq_none,
      List.eq_nil_iff_forall_not_mem]
    constructor
    · intro hnone scope hscope hmatches
      obtain ⟨credentials, hlookup⟩ := exists_lookup_iff.2 hscope
      exact hnone _ (h.mem_matching_iff.2 ⟨hlookup, hmatches⟩)
    · rintro hnone ⟨scope, credentials⟩ hmem
      obtain ⟨hlookup, hmatches⟩ := h.mem_matching_iff.1 hmem
      exact hnone scope (exists_lookup_iff.1 ⟨_, hlookup⟩) hmatches
  · rw [credentials?_eq, Option.map_eq_some_iff]
    constructor
    · rintro ⟨⟨scope, _⟩, hbest, rfl⟩
      exact ⟨scope, h.argmax_eq_some_iff.1 hbest⟩
    · rintro ⟨scope, hprevails⟩
      exact ⟨(scope, credentials), h.argmax_eq_some_iff.2 hprevails, rfl⟩

end Recalls

end CredentialsProvider

end XmlBinding
