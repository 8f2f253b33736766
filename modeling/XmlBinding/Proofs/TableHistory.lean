import Mathlib.Data.List.DropRight
import Mathlib.Data.List.InsertIdx
import XmlBinding.Name.QName
import XmlBinding.Proofs.Table

/-!
Tables over whole histories of calls. A key lives from the call that first sets it after its last
removal; setting it again changes its entry and not its place. So the entries stand in the order of
their births, each as the last call about its key has left it. A table may keep this order by
positions, taking the old entry out and putting the new one in where it was. Main statement: any
calls on an empty table of names.
-/

namespace XmlBinding

variable {ι κ α : Type} [DecidableEq κ] {key : ι → κ}

/-- A call that changes a table. -/
inductive TableCall (ι α : Type) where
  | set (item : ι) (value : α)
  | remove (item : ι)

namespace TableCall

/-- The item that a call is about. -/
def item : TableCall ι α → ι
  | set item _ | remove item => item

/-- The entry that a call leaves under its key. -/
def left? : TableCall ι α → Option (ι × α)
  | set item value => some (item, value)
  | remove _ => none

def sets (key : ι → κ) (k : κ) : TableCall ι α → Bool
  | set item _ => key item == k
  | remove _ => false

def removes (key : ι → κ) (k : κ) : TableCall ι α → Bool
  | set _ _ => false
  | remove item => key item == k

/-- What the last call about a key has left under it. -/
def latest? (key : ι → κ) (k : κ) (calls : List (TableCall ι α)) : Option (ι × α) :=
  (calls.reverse.find? fun call => key call.item == k).bind left?

/-- The calls from the one on that first set a key after its last removal; none if the key is
absent. All lifetimes end with the last call, so the longer one began earlier. -/
def lifetime (key : ι → κ) (k : κ) (calls : List (TableCall ι α)) : List (TableCall ι α) :=
  (calls.rtakeWhile fun call => !call.removes key k).dropWhile fun call => !call.sets key k

variable {calls : List (TableCall ι α)} {call : TableCall ι α} {k k' : κ}

@[simp] theorem latest?_nil : latest? key k ([] : List (TableCall ι α)) = none := rfl

@[simp] theorem lifetime_nil : lifetime key k ([] : List (TableCall ι α)) = [] := rfl

theorem latest?_append_singleton (calls : List (TableCall ι α)) (call : TableCall ι α) (k : κ) :
    latest? key k (calls ++ [call]) =
      if key call.item = k then call.left? else latest? key k calls :=
  find?_reverse_bind_append_singleton (fun call : TableCall ι α => key call.item) left? k calls call

theorem lifetime_append_remove {i : ι} (h : key i = k) :
    lifetime key k (calls ++ [remove i]) = [] := by
  rw [lifetime, List.rtakeWhile_concat_neg _ _ _ (by simp [removes, h]), List.dropWhile_nil]

/-- A call that does not remove a key prolongs its life, if it has one. -/
theorem lifetime_append_singleton (h : call.removes key k = false) :
    lifetime key k (calls ++ [call]) =
      if call.sets key k = true ∨ lifetime key k calls ≠ [] then lifetime key k calls ++ [call]
      else [] := by
  rw [lifetime, List.rtakeWhile_concat_pos _ _ _ (by simp [h]), List.dropWhile_append]
  rw [← lifetime]
  cases hsets : call.sets key k <;> cases hlife : lifetime key k calls <;> simp [hsets]

/-- The keys that are alive are those under which there is an entry. -/
theorem lifetime_ne_nil_iff : lifetime key k calls ≠ [] ↔ latest? key k calls ≠ none := by
  induction calls using List.reverseRecOn with
  | nil => simp
  | append_singleton calls call ih =>
      rw [latest?_append_singleton]
      cases call with
      | remove i =>
          by_cases hkey : key i = k
          · simp [lifetime_append_remove hkey, item, hkey, left?]
          · rw [lifetime_append_singleton (by simpa [removes] using hkey)]
            simp [sets, item, hkey, ih]
      | set i v =>
          rw [lifetime_append_singleton rfl]
          by_cases hkey : key i = k
          · simp [sets, item, hkey, left?]
          · simp [sets, item, hkey, ih]

theorem length_lifetime_append (h : call.removes key k = false)
    (hlife : lifetime key k calls ≠ []) :
    (lifetime key k (calls ++ [call])).length = (lifetime key k calls).length + 1 := by
  rw [lifetime_append_singleton h, if_pos (.inr hlife), List.length_append, List.length_singleton]

/-! ### Keeping the order by positions -/

/-- Puts an entry in the place of the one with its key, which is taken out first, or at the end. -/
def setInPlace (key : ι → κ) (entry : ι × α) (entries : List (ι × α)) : List (ι × α) :=
  match entries.findIdx? fun e => key e.1 == key entry.1 with
  | some n => (entries.eraseIdx n).insertIdx n entry
  | none => entries ++ [entry]

/-- Takes the entry with a key out; the value that it had, and the entries without it. -/
def takeOut (key : ι → κ) (k : κ) (entries : List (ι × α)) : Option α × List (ι × α) :=
  match entries.findIdx? fun e => key e.1 == k with
  | some n => (entries[n]?.map (·.2), entries.eraseIdx n)
  | none => (none, entries)

/-- The entries after a call, kept in order by their positions. -/
def shift (key : ι → κ) (entries : List (ι × α)) : TableCall ι α → List (ι × α)
  | set item value => setInPlace key (item, value) entries
  | remove item => (takeOut key (key item) entries).2

def shiftAll (key : ι → κ) (calls : List (TableCall ι α)) : List (ι × α) :=
  calls.foldl (shift key) []

theorem setInPlace_eq_writeEntry (entry : ι × α) (entries : List (ι × α)) :
    setInPlace key entry entries = writeEntry key entry entries := by
  induction entries with
  | nil => rfl
  | cons first rest ih =>
      rw [setInPlace, List.findIdx?_cons, writeEntry]
      by_cases hkey : key first.1 = key entry.1
      · simp [hkey]
      · rw [setInPlace] at ih
        rw [if_neg (by simpa using hkey), if_neg hkey, ← ih]
        cases rest.findIdx? fun e => key e.1 == key entry.1 <;> rfl

/-- Where no two entries have one key, taking the first out takes all out. -/
theorem takeOut_eq {entries : List (ι × α)} (h : (entries.map fun e => key e.1).Nodup) (k : κ) :
    takeOut key k entries =
      ((entries.find? fun e => key e.1 == k).map (·.2), entries.filter fun e => key e.1 != k) := by
  induction entries with
  | nil => rfl
  | cons first rest ih =>
      rw [List.map_cons, List.nodup_cons] at h
      rw [takeOut, List.findIdx?_cons]
      by_cases hkey : key first.1 = k
      · have hrest : rest.filter (fun e => key e.1 != k) = rest := by
          rw [List.filter_eq_self]
          intro e he
          rw [bne_iff_ne]
          rintro rfl
          exact h.1 (hkey ▸ List.mem_map_of_mem he)
        simp [hkey, hrest]
      · have ih := ih h.2
        rw [takeOut] at ih
        rw [if_neg (by simpa using hkey), List.find?_cons_of_neg (by simpa using hkey),
          List.filter_cons_of_pos (by simpa using hkey)]
        cases hfound : rest.findIdx? fun e => key e.1 == k with
        | none =>
            rw [hfound] at ih
            obtain ⟨hvalue, hrest⟩ := Prod.mk.inj ih
            rw [← hvalue, ← hrest]
            rfl
        | some n =>
            rw [hfound] at ih
            obtain ⟨hvalue, hrest⟩ := Prod.mk.inj ih
            rw [← hvalue, ← hrest]
            rfl

/-! ### One call, and many -/

/-- The table after a call. -/
def on (call : TableCall ι α) (t : OrderedTable key α) : OrderedTable key α :=
  match call with
  | set item value => t.set item value
  | remove item => t.erase (key item)

/-- The table that calls make of an empty one. -/
def run (calls : List (TableCall ι α)) : OrderedTable key α :=
  calls.foldl (fun t call => call.on t) .empty

theorem run_append_singleton (calls : List (TableCall ι α)) (call : TableCall ι α) :
    (run (calls ++ [call]) : OrderedTable key α) = call.on (run calls) := by
  rw [run, List.foldl_append]
  rfl

theorem shift_entries (call : TableCall ι α) (t : OrderedTable key α) :
    shift key t.entries call = (call.on t).entries := by
  cases call with
  | set item value => exact setInPlace_eq_writeEntry (item, value) t.entries
  | remove item => exact congrArg Prod.snd (takeOut_eq t.distinct (key item))

theorem shiftAll_eq (calls : List (TableCall ι α)) :
    shiftAll key calls = (run calls : OrderedTable key α).entries := by
  induction calls using List.reverseRecOn with
  | nil => rfl
  | append_singleton calls call ih =>
      rw [run_append_singleton, ← shift_entries, ← ih, shiftAll, List.foldl_append]
      rfl

theorem entry?_on (call : TableCall ι α) (t : OrderedTable key α) (k : κ) :
    OrderedTable.entry? (call.on t) k =
      if key call.item = k then call.left? else t.entry? k := by
  cases call with
  | set i v => exact OrderedTable.entry?_set t i v k
  | remove i => exact OrderedTable.entry?_erase t (key i) k

theorem entry?_run (calls : List (TableCall ι α)) (k : κ) :
    OrderedTable.entry? (run calls : OrderedTable key α) k = latest? key k calls := by
  induction calls using List.reverseRecOn with
  | nil => rfl
  | append_singleton calls call ih =>
      rw [run_append_singleton, entry?_on, ih, latest?_append_singleton]

theorem mem_run_iff {e : ι × α} :
    e ∈ (run calls : OrderedTable key α).entries ↔ latest? key (key e.1) calls = some e := by
  rw [← entry?_run, OrderedTable.entry?_eq_some_iff, and_iff_left rfl]

theorem mem_keys_run_iff :
    (k ∈ (run calls : OrderedTable key α).entries.map fun e => key e.1) ↔
      lifetime key k calls ≠ [] := by
  rw [lifetime_ne_nil_iff, ← entry?_run, OrderedTable.mem_keys_iff, OrderedTable.get?,
    Option.isSome_map, Option.isSome_iff_ne_none]

/-- Keys that a call does not remove stay in the order of their births. -/
theorem ordered_append {ks : List κ} (hlife : ∀ k ∈ ks, lifetime key k calls ≠ [])
    (hkept : ∀ k ∈ ks, call.removes key k = false)
    (h : ks.Pairwise fun k k' => (lifetime key k' calls).length < (lifetime key k calls).length) :
    ks.Pairwise fun k k' => (lifetime key k' (calls ++ [call])).length <
      (lifetime key k (calls ++ [call])).length := by
  refine h.imp_of_mem fun {k k'} hk hk' hlt => ?_
  rw [length_lifetime_append (hkept k hk) (hlife k hk),
    length_lifetime_append (hkept k' hk') (hlife k' hk')]
  exact Nat.succ_lt_succ hlt

/-- Keys stand in the order of their births. -/
theorem ordered_run (calls : List (TableCall ι α)) :
    ((run calls : OrderedTable key α).entries.map fun e => key e.1).Pairwise fun k k' =>
      (lifetime key k' calls).length < (lifetime key k calls).length := by
  induction calls using List.reverseRecOn with
  | nil => exact List.Pairwise.nil
  | append_singleton calls call ih =>
      have hlife : ∀ k ∈ (run calls : OrderedTable key α).entries.map fun e => key e.1,
          lifetime key k calls ≠ [] := fun k => mem_keys_run_iff.1
      rw [run_append_singleton]
      cases call with
      | set i v =>
          have hkept : ∀ k ∈ (run calls : OrderedTable key α).entries.map fun e => key e.1,
              (set i v).removes key k = false := fun _ _ => rfl
          have hold := ordered_append hlife hkept ih
          rw [on, OrderedTable.entries_set, keys_writeEntry]
          split
          · exact hold
          · next habsent =>
              -- A key that was absent is the youngest: the call that sets it is all its life.
              refine List.pairwise_append.2 ⟨hold, List.pairwise_singleton _ _, ?_⟩
              intro k hk k' hk'
              rw [List.mem_singleton] at hk'
              have hnone : lifetime key (key i) calls = [] := by
                by_contra hne
                exact habsent (mem_keys_run_iff.2 hne)
              rw [hk', length_lifetime_append rfl (hlife k hk), lifetime_append_singleton rfl,
                hnone]
              simpa [sets] using List.length_pos_iff.2 (hlife k hk)
      | remove i =>
          rw [on, OrderedTable.entries_erase]
          have hsub := (List.filter_sublist
            (p := fun e => key e.1 != key i) (l := (run calls : OrderedTable key α).entries)).map
            fun e => key e.1
          refine ordered_append (fun k hk => hlife k (hsub.subset hk)) (fun k hk => ?_)
            (ih.sublist hsub)
          obtain ⟨e, he, rfl⟩ := List.mem_map.1 hk
          have hne : key e.1 ≠ key i := by simpa using (List.mem_filter.1 he).2
          simpa [removes] using hne.symm

/-- A list of entries as the calls that made it tell it: each key that lives is there once, with
what its latest call has left, and the keys stand in the order of their births. -/
structure Listed (key : ι → κ) (calls : List (TableCall ι α)) (entries : List (ι × α)) : Prop where
  once : (entries.map fun e => key e.1).Nodup
  latest : ∀ e, e ∈ entries ↔ latest? key (key e.1) calls = some e
  ordered : (entries.map fun e => key e.1).Pairwise fun k k' =>
    (lifetime key k' calls).length < (lifetime key k calls).length

theorem listed_run (calls : List (TableCall ι α)) :
    Listed key calls (run calls : OrderedTable key α).entries where
  once := (run calls).distinct
  latest _ := mem_run_iff
  ordered := ordered_run calls

end TableCall

/-! ### Tables of names -/

/-- A table whose look-ups agree with a list of entries. -/
structure OrderedTable.Answers (t : OrderedTable key α) (entries : List (ι × α)) : Prop where
  entry? : ∀ k e, t.entry? k = some e ↔ e ∈ entries ∧ key e.1 = k
  get? : ∀ k v, t.get? k = some v ↔ ∃ item, (item, v) ∈ entries ∧ key item = k
  contains : ∀ k, t.contains k = true ↔ k ∈ entries.map fun e => key e.1
  size : t.size = entries.length

theorem OrderedTable.answers_entries (t : OrderedTable key α) : t.Answers t.entries where
  entry? _ _ := entry?_eq_some_iff
  get? _ _ := get?_eq_some_iff
  contains k := by rw [mem_keys_iff, contains_eq_isSome]
  size := rfl

/-- Any calls on an empty table of names, with its entries kept in order by their positions: they
are listed as the calls tell, every look-up agrees with the list, and a removal hands out the value
that it takes away and leaves the others in their order. -/
theorem TableCall.run_exactly (calls : List (TableCall QName String)) :
    let entries := shiftAll QName.expanded calls
    let t : NameTable String := run calls
    t.entries = entries ∧ Listed QName.expanded calls entries ∧ t.Answers entries ∧
      ∀ name : QName, takeOut QName.expanded name.expanded entries =
          (t.get? name.expanded, (t.erase name.expanded).entries) ∧
        (t.erase name.expanded).entries = entries.filter fun e => !e.1.same name := by
  intro entries t
  have hentries : t.entries = entries := (shiftAll_eq calls).symm
  refine ⟨hentries, hentries ▸ listed_run calls, hentries ▸ t.answers_entries, fun name => ?_⟩
  have hrest : (t.erase name.expanded).entries = entries.filter fun e => !e.1.same name :=
    congrArg (List.filter _) hentries
  refine ⟨?_, hrest⟩
  rw [← hentries, takeOut_eq t.distinct]
  rfl

/-- A name that is set again keeps its place and takes the new prefix. -/
example : TableCall.shiftAll QName.expanded [.set (.unqualified "a") "1",
    .set (.namespaced "urn:ext" "extra") "1", .set (.unqualified "b") "2",
    .set (.prefixed "urn:ext" "extra" "ext") "2"] = [(.unqualified "a", "1"),
    (.prefixed "urn:ext" "extra" "ext", "2"), (.unqualified "b", "2")] := by
  decide

end XmlBinding
