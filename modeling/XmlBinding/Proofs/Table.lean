import Mathlib.Data.List.Forall2
import Mathlib.Data.List.Nodup
import Mathlib.Data.List.Perm.Subperm
import XmlBinding.OrderedTable

/-!
Tables as finite maps. Since no two entries have one key, what is found under a key is the one entry
that has it, and every operation is known by what it does to look-ups. Where the order counts, an
operation is known by what it does to the list of entries.
-/

namespace XmlBinding

variable {ι κ α : Type} [DecidableEq κ] {key : ι → κ}

theorem writeEntry_of_absent {entry : ι × α} {entries : List (ι × α)}
    (h : key entry.1 ∉ entries.map fun e => key e.1) :
    writeEntry key entry entries = entries ++ [entry] := by
  induction entries with
  | nil => rfl
  | cons first rest ih =>
      rw [List.map_cons, List.mem_cons, not_or] at h
      rw [writeEntry, if_neg fun e => h.1 e.symm, ih h.2, List.cons_append]

/-- The entries after a write are the one written and the others of before. -/
theorem mem_writeEntry {entry e : ι × α} {entries : List (ι × α)}
    (h : (entries.map fun e => key e.1).Nodup) :
    e ∈ writeEntry key entry entries ↔ e = entry ∨ e ∈ entries ∧ key e.1 ≠ key entry.1 := by
  induction entries with
  | nil => simp [writeEntry]
  | cons first rest ih =>
      rw [List.map_cons, List.nodup_cons] at h
      rw [writeEntry]
      split
      · next same =>
          rw [List.mem_cons, List.mem_cons]
          refine or_congr_right ⟨fun hr => ⟨.inr hr, ?_⟩, ?_⟩
          · intro he
            exact h.1 (same.trans he.symm ▸ List.mem_map_of_mem hr)
          · rintro ⟨rfl | hr, hne⟩
            · exact absurd same hne
            · exact hr
      · next other =>
          rw [List.mem_cons, List.mem_cons, ih h.2]
          constructor
          · rintro (rfl | rfl | ⟨hr, hne⟩)
            · exact .inr ⟨.inl rfl, other⟩
            · exact .inl rfl
            · exact .inr ⟨.inr hr, hne⟩
          · rintro (rfl | ⟨rfl | hr, hne⟩)
            · exact .inr (.inl rfl)
            · exact .inl rfl
            · exact .inr (.inr ⟨hr, hne⟩)

/-- What the last of some calls about a key has left is what one more call leaves, if it is about
this key. -/
theorem find?_reverse_bind_append_singleton {γ β : Type} (about : γ → κ) (left? : γ → Option β)
    (k : κ) (calls : List γ) (call : γ) :
    ((calls ++ [call]).reverse.find? fun c => about c == k).bind left? =
      if about call = k then left? call
      else (calls.reverse.find? fun c => about c == k).bind left? := by
  rw [List.reverse_append, List.reverse_singleton, List.singleton_append, List.find?_cons]
  split
  · next h => rw [if_pos (eq_of_beq h), Option.bind_some]
  · next h => rw [if_neg (beq_eq_false_iff_ne.1 h)]

namespace OrderedTable

theorem entry?_eq_some_iff {t : OrderedTable key α} {k : κ} {e : ι × α} :
    t.entry? k = some e ↔ e ∈ t.entries ∧ key e.1 = k := by
  refine ⟨fun h => ?_, ?_⟩
  · exact ⟨List.mem_of_find?_eq_some h, by simpa using List.find?_some h⟩
  · rintro ⟨hmem, hkey⟩
    cases hfound : t.entry? k with
    | none => exact absurd hkey (by simpa using List.find?_eq_none.1 hfound e hmem)
    | some e' =>
        have hmem' := List.mem_of_find?_eq_some hfound
        have hkey' : key e'.1 = k := by simpa using List.find?_some hfound
        rw [List.inj_on_of_nodup_map t.distinct hmem' hmem (hkey'.trans hkey.symm)]

theorem entry?_eq_none_iff {t : OrderedTable key α} {k : κ} :
    t.entry? k = none ↔ ∀ e ∈ t.entries, key e.1 ≠ k := by
  unfold entry?
  rw [List.find?_eq_none]
  simp

theorem get?_eq_some_iff {t : OrderedTable key α} {k : κ} {v : α} :
    t.get? k = some v ↔ ∃ i, (i, v) ∈ t.entries ∧ key i = k := by
  rw [get?, Option.map_eq_some_iff]
  constructor
  · rintro ⟨⟨i, _⟩, he, rfl⟩
    exact ⟨i, entry?_eq_some_iff.1 he⟩
  · rintro ⟨i, he⟩
    exact ⟨(i, v), entry?_eq_some_iff.2 he, rfl⟩

theorem get?_eq_none_iff {t : OrderedTable key α} {k : κ} :
    t.get? k = none ↔ ∀ e ∈ t.entries, key e.1 ≠ k := by
  rw [get?, Option.map_eq_none_iff, entry?_eq_none_iff]

theorem get?_of_mem {t : OrderedTable key α} {e : ι × α} (h : e ∈ t.entries) :
    t.get? (key e.1) = some e.2 :=
  get?_eq_some_iff.2 ⟨e.1, h, rfl⟩

theorem mem_keys_iff {t : OrderedTable key α} {k : κ} :
    (k ∈ t.entries.map fun e => key e.1) ↔ (t.get? k).isSome = true := by
  rw [Option.isSome_iff_exists, List.mem_map]
  simp only [get?_eq_some_iff]
  constructor
  · rintro ⟨e, he, rfl⟩
    exact ⟨e.2, e.1, he, rfl⟩
  · rintro ⟨v, i, hmem, rfl⟩
    exact ⟨(i, v), hmem, rfl⟩

@[simp] theorem get?_empty (k : κ) : (empty : OrderedTable key α).get? k = none := rfl

@[simp] theorem entry?_empty (k : κ) : entry? (empty : OrderedTable key α) k = none := rfl

theorem mem_entries_set {t : OrderedTable key α} {i : ι} {v : α} {e : ι × α} :
    e ∈ (t.set i v).entries ↔ e = (i, v) ∨ e ∈ t.entries ∧ key e.1 ≠ key i :=
  mem_writeEntry t.distinct

theorem entry?_set (t : OrderedTable key α) (i : ι) (v : α) (k : κ) :
    entry? (t.set i v) k = if key i = k then some (i, v) else t.entry? k := by
  split
  · next h => exact entry?_eq_some_iff.2 ⟨mem_entries_set.2 (.inl rfl), h⟩
  · next h =>
      ext e
      rw [entry?_eq_some_iff, entry?_eq_some_iff, mem_entries_set]
      constructor
      · rintro ⟨rfl | ⟨hmem, -⟩, hkey⟩
        · exact absurd hkey h
        · exact ⟨hmem, hkey⟩
      · rintro ⟨hmem, hkey⟩
        exact ⟨.inr ⟨hmem, fun he => h (he.symm.trans hkey)⟩, hkey⟩

theorem get?_set (t : OrderedTable key α) (i : ι) (v : α) (k : κ) :
    (t.set i v).get? k = if key i = k then some v else t.get? k := by
  rw [get?, entry?_set]
  split <;> rfl

/-- The item that a key is stored with has this key. -/
theorem key_stored (t : OrderedTable key α) (i : ι) :
    key (((t.entry? (key i)).map (·.1)).getD i) = key i := by
  cases h : t.entry? (key i) with
  | none => rfl
  | some e => exact (entry?_eq_some_iff.1 h).2

theorem get?_put (t : OrderedTable key α) (i : ι) (v : α) (k : κ) :
    (t.put i v).get? k = if key i = k then some v else t.get? k := by
  rw [put, get?_set, key_stored t i]

/-- An item that a write leaves in a table was there before or is the one written. -/
theorem mem_items_put {t : OrderedTable key α} {i : ι} {v : α} {e : ι × α}
    (h : e ∈ (t.put i v).entries) : e.1 = i ∨ ∃ e' ∈ t.entries, e'.1 = e.1 := by
  rw [put, mem_entries_set] at h
  rcases h with rfl | ⟨hmem, -⟩
  · cases hstored : t.entry? (key i) with
    | none => exact .inl rfl
    | some e' => exact .inr ⟨e', (entry?_eq_some_iff.1 hstored).1, rfl⟩
  · exact .inr ⟨e, hmem, rfl⟩

/-- An entry after a write was there before, or has the key and the value that were written. -/
theorem mem_entries_put {t : OrderedTable key α} {i : ι} {v : α} {e : ι × α}
    (h : e ∈ (t.put i v).entries) : key e.1 = key i ∧ e.2 = v ∨ e ∈ t.entries := by
  rw [put, mem_entries_set] at h
  rcases h with rfl | ⟨hmem, -⟩
  · exact .inl ⟨key_stored t i, rfl⟩
  · exact .inr hmem

theorem entry?_erase (t : OrderedTable key α) (k k' : κ) :
    entry? (t.erase k) k' = if k = k' then none else t.entry? k' := by
  split
  · next h =>
      rw [entry?_eq_none_iff]
      intro e he hkey
      rw [entries_erase, List.mem_filter] at he
      exact absurd (hkey.trans h.symm) (by simpa using he.2)
  · next h =>
      ext e
      rw [entry?_eq_some_iff, entry?_eq_some_iff, entries_erase, List.mem_filter]
      constructor
      · rintro ⟨⟨hmem, -⟩, hkey⟩
        exact ⟨hmem, hkey⟩
      · rintro ⟨hmem, hkey⟩
        exact ⟨⟨hmem, by simpa using fun he : key e.1 = k => h (he.symm.trans hkey)⟩, hkey⟩

theorem get?_erase (t : OrderedTable key α) (k k' : κ) :
    (t.erase k).get? k' = if k = k' then none else t.get? k' := by
  rw [get?, entry?_erase]
  split <;> rfl

/-- Erasing what is absent changes nothing. -/
theorem erase_of_get?_eq_none {t : OrderedTable key α} {k : κ} (h : t.get? k = none) :
    t.erase k = t := by
  apply OrderedTable.ext
  rw [entries_erase, List.filter_eq_self]
  intro e he
  exact bne_iff_ne.2 (get?_eq_none_iff.1 h e he)

/-- Writing under a new key adds the entry at the end. -/
theorem entries_set_of_absent {t : OrderedTable key α} {i : ι} (v : α)
    (h : t.get? (key i) = none) : (t.set i v).entries = t.entries ++ [(i, v)] := by
  apply writeEntry_of_absent
  intro hmem
  obtain ⟨e, he, hkey⟩ := List.mem_map.1 hmem
  exact absurd ((congrArg t.get? hkey.symm).trans (get?_of_mem he)) (by simp [h])

theorem entries_put_of_absent {t : OrderedTable key α} {i : ι} (v : α)
    (h : t.get? (key i) = none) : (t.put i v).entries = t.entries ++ [(i, v)] := by
  have hentry : t.entry? (key i) = none := by
    simpa [get?] using h
  rw [put, hentry]
  exact entries_set_of_absent v h

/-- A table made of entries with distinct keys has these entries, in their order. -/
theorem entries_ofList {es : List (ι × α)} (h : (es.map fun e => key e.1).Nodup) :
    (ofList es : OrderedTable key α).entries = es := by
  have hput {es : List (ι × α)} {t : OrderedTable key α}
      (hdistinct : ((t.entries ++ es).map fun e => key e.1).Nodup) :
      (es.foldl (fun t e => t.put e.1 e.2) t).entries = t.entries ++ es := by
    induction es generalizing t with
    | nil => exact (List.append_nil _).symm
    | cons e es ih =>
        have habsent : t.get? (key e.1) = none := by
          rw [get?_eq_none_iff]
          intro e' he' hkey
          rw [List.map_append, List.nodup_append] at hdistinct
          exact hdistinct.2.2 _ (List.mem_map_of_mem he') _ List.mem_cons_self hkey
        have hentries : (t.put e.1 e.2).entries = t.entries ++ [e] :=
          entries_put_of_absent _ habsent
        have hall : t.entries ++ e :: es = (t.put e.1 e.2).entries ++ es := by
          rw [hentries, List.append_assoc, List.singleton_append]
        rw [hall] at hdistinct ⊢
        exact ih hdistinct
  exact hput h

theorem mem_keys_put {t : OrderedTable key α} {i : ι} {v : α} {k : κ} :
    k ∈ (t.put i v).entries.map (fun e => key e.1) ↔
      k = key i ∨ k ∈ t.entries.map fun e => key e.1 := by
  rw [mem_keys_iff, mem_keys_iff, get?_put]
  split
  · next hkey => simp [hkey]
  · next hkey => exact (or_iff_right fun heq => hkey heq.symm).symm

/-- The keys of a table are those of the entries that it is made of. -/
theorem mem_keys_ofList {es : List (ι × α)} {k : κ} :
    k ∈ (ofList es : OrderedTable key α).entries.map (fun e => key e.1) ↔
      k ∈ es.map fun e => key e.1 := by
  have hput {t : OrderedTable key α} :
      k ∈ (es.foldl (fun t e => t.put e.1 e.2) t).entries.map (fun e => key e.1) ↔
        k ∈ (es.map fun e => key e.1) ∨ k ∈ t.entries.map fun e => key e.1 := by
    induction es generalizing t with
    | nil => simp
    | cons e es ih =>
        rw [List.foldl_cons, ih, mem_keys_put, List.map_cons, List.mem_cons, or_left_comm, or_assoc]
  rw [ofList, hput]
  simp

/-- Every item of a table is one of those that it is made of. -/
theorem mem_items_ofList {es : List (ι × α)} {e : ι × α}
    (h : e ∈ (ofList es : OrderedTable key α).entries) : ∃ e' ∈ es, e'.1 = e.1 := by
  have hput (es : List (ι × α)) {t : OrderedTable key α}
      (h : e ∈ (es.foldl (fun t e => t.put e.1 e.2) t).entries) :
      (∃ e' ∈ es, e'.1 = e.1) ∨ ∃ e' ∈ t.entries, e'.1 = e.1 := by
    induction es generalizing t with
    | nil => exact .inr ⟨e, h, rfl⟩
    | cons first es ih =>
        rcases ih h with ⟨e', he', heq⟩ | ⟨e', he', heq⟩
        · exact .inl ⟨e', List.mem_cons_of_mem first he', heq⟩
        · rcases mem_items_put he' with hfirst | ⟨e'', he'', heq'⟩
          · exact .inl ⟨first, List.mem_cons_self, hfirst.symm.trans heq⟩
          · exact .inr ⟨e'', he'', heq'.trans heq⟩
  rcases hput es h with h | ⟨e', he', -⟩
  · exact h
  · cases he'

theorem contains_eq_isSome (t : OrderedTable key α) (k : κ) :
    t.contains k = (t.get? k).isSome := by
  rw [contains, get?, Option.isSome_map]

/-- The part of a table whose entries have a property. -/
def filter (t : OrderedTable key α) (p : ι × α → Bool) : OrderedTable key α :=
  ⟨t.entries.filter p, t.distinct.sublist (List.filter_sublist.map _)⟩

omit [DecidableEq κ] in
@[simp] theorem entries_filter (t : OrderedTable key α) (p : ι × α → Bool) :
    (t.filter p).entries = t.entries.filter p := rfl

/-- A part that is told by the keys has the look-ups of the keys in it. -/
theorem get?_filter {p : ι × α → Bool} {q : κ → Bool} (h : ∀ e, p e = q (key e.1))
    (t : OrderedTable key α) (k : κ) :
    (t.filter p).get? k = if q k = true then t.get? k else none := by
  ext v
  rw [get?_eq_some_iff]
  split
  · next hk =>
      rw [get?_eq_some_iff]
      refine exists_congr fun i => and_congr_left fun hi => ?_
      rw [entries_filter, List.mem_filter, h, hi]
      exact and_iff_left hk
  · next hk =>
      refine ⟨?_, nofun⟩
      rintro ⟨i, hmem, hi⟩
      rw [entries_filter, List.mem_filter, h, hi] at hmem
      exact absurd hmem.2 hk

/-! ### Runs over the entries -/

/-- What only the entry of one key writes is, after a run over a table, what that entry wrote. -/
theorem foldl_entries_of_key {σ β : Type} {f : σ → ι × α → σ} {get : σ → β} {write : α → β} {k : κ}
    (step : ∀ s e, get (f s e) = if key e.1 = k then write e.2 else get s)
    (t : OrderedTable key α) (s : σ) :
    get (t.entries.foldl f s) = ((t.get? k).map write).getD (get s) := by
  -- An entry with the key is the only one, so no later step writes over it.
  obtain ⟨es, hnodup⟩ := t
  show get (es.foldl f s) = (((es.find? fun e => key e.1 == k).map (·.2)).map write).getD (get s)
  induction es generalizing s with
  | nil => rfl
  | cons e es ih =>
      rw [List.map_cons, List.nodup_cons] at hnodup
      rw [List.foldl_cons, ih _ hnodup.2, step]
      split
      · next hkey =>
          have hrest : es.find? (fun e => key e.1 == k) = none := by
            rw [List.find?_eq_none]
            intro e' he' hkey'
            exact hnodup.1 (hkey.trans (beq_iff_eq.1 hkey').symm ▸ List.mem_map_of_mem he')
          rw [hrest, List.find?_cons_of_pos (by simpa using hkey)]
          rfl
      · next hkey => rw [List.find?_cons_of_neg (by simpa using hkey)]

/-- A table that a run over new entries stores some of has these at its end. -/
theorem entries_foldl_set {σ : Type} {f : σ → ι × α → σ} {I : σ → Prop}
    {g : σ → OrderedTable key α} {p : ι × α → Bool} (keep : ∀ s e, I s → I (f s e))
    (hit : ∀ s e, I s → p e = true → g (f s e) = (g s).set e.1 e.2)
    (miss : ∀ s e, I s → p e = false → g (f s e) = g s) {es : List (ι × α)} {s : σ}
    (nodup : (es.map fun e => key e.1).Nodup) (start : I s)
    (absent : ∀ e ∈ es, (g s).get? (key e.1) = none) :
    (g (es.foldl f s)).entries = (g s).entries ++ es.filter p := by
  -- The keys still to come stay absent: an entry that is stored has another key than they.
  induction es generalizing s with
  | nil => simp
  | cons e es ih =>
      rw [List.map_cons, List.nodup_cons] at nodup
      rw [List.forall_mem_cons] at absent
      have habsent : ∀ e' ∈ es, (g (f s e)).get? (key e'.1) = none := by
        intro e' he'
        cases hp : p e with
        | false => rw [miss s e start hp, absent.2 e' he']
        | true =>
            rw [hit s e start hp, get?_set, if_neg, absent.2 e' he']
            exact fun hkey => nodup.1 (hkey ▸ List.mem_map_of_mem he')
      rw [List.foldl_cons, ih nodup.2 (keep s e start) habsent]
      cases hp : p e with
      | false => rw [miss s e start hp, List.filter_cons_of_neg (by simp [hp])]
      | true =>
          rw [hit s e start hp, entries_set_of_absent _ absent.1, List.filter_cons_of_pos hp,
            List.append_assoc, List.singleton_append]

/-- A table whose entries are all found in another one has only keys of that one. -/
theorem keys_subset_of_get? {s t : OrderedTable key α}
    (h : ∀ e ∈ s.entries, t.get? (key e.1) = some e.2) :
    (s.entries.map fun e => key e.1) ⊆ t.entries.map fun e => key e.1 := by
  intro k hk
  obtain ⟨e, he, rfl⟩ := List.mem_map.1 hk
  rw [mem_keys_iff, h e he]
  rfl

theorem size_le_of_get? {s t : OrderedTable key α}
    (h : ∀ e ∈ s.entries, t.get? (key e.1) = some e.2) : s.size ≤ t.size := by
  simpa [size] using s.distinct.length_le_of_subset (keys_subset_of_get? h)

/-- Tables with the same look-ups have equally many entries, since each entry is one look-up. -/
theorem size_eq_of_get?_eq {s t : OrderedTable key α} (h : ∀ k, s.get? k = t.get? k) :
    s.size = t.size := by
  refine Nat.le_antisymm (size_le_of_get? fun e he => ?_) (size_le_of_get? fun e he => ?_)
  · rw [← h, get?_of_mem he]
  · rw [h, get?_of_mem he]

/-- The keys that have an entry give the number of the entries. -/
theorem size_eq_length {t : OrderedTable key α} {ks : List κ} (hks : ks.Nodup)
    (h : ∀ k, k ∈ ks ↔ (t.get? k).isSome = true) : t.size = ks.length := by
  have hperm : (t.entries.map fun e => key e.1).Perm ks := by
    rw [List.perm_ext_iff_of_nodup t.distinct hks]
    intro k
    rw [h, mem_keys_iff]
  rw [← hperm.length_eq, List.length_map, size]

/-- Tables have the same content exactly if they have the same look-ups. -/
theorem sameContent_iff [BEq α] [LawfulBEq α] {s t : OrderedTable key α} :
    s.sameContent t = true ↔ ∀ k, s.get? k = t.get? k := by
  rw [sameContent, Bool.and_eq_true, beq_iff_eq, List.all_eq_true]
  simp only [beq_iff_eq]
  refine ⟨?_, fun h => ⟨size_eq_of_get?_eq h, fun e he => by rw [← h, get?_of_mem he]⟩⟩
  rintro ⟨hsize, hall⟩ k
  cases hfound : s.get? k with
  | some v =>
      obtain ⟨i, hmem, rfl⟩ := get?_eq_some_iff.1 hfound
      exact (hall _ hmem).symm
  | none =>
      -- The second table has no more keys than the first, so it has no others.
      have hkeys := (s.distinct.subperm (keys_subset_of_get? hall)).perm_of_length_le
        (by simpa [size] using Nat.le_of_eq hsize.symm)
      rw [eq_comm, ← Option.not_isSome_iff_eq_none, ← mem_keys_iff, ← hkeys.mem_iff, mem_keys_iff,
        hfound]
      simp

end OrderedTable

end XmlBinding
