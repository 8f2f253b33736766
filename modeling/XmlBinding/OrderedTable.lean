/-!
Tables in the order of insertion. Entries are looked up by a key of the stored item, so two items
with one key (names that differ in the prefix alone) share one entry. Writing to a key that is
present keeps its position; no two entries of a table have one key.
-/

namespace XmlBinding

variable {ι κ α : Type} [DecidableEq κ]

/-- The entry takes the place of the one with its key, or stands last. -/
def writeEntry (key : ι → κ) (entry : ι × α) : List (ι × α) → List (ι × α)
  | [] => [entry]
  | first :: rest =>
      if key first.1 = key entry.1 then entry :: rest else first :: writeEntry key entry rest

theorem keys_writeEntry (key : ι → κ) (entry : ι × α) (entries : List (ι × α)) :
    (writeEntry key entry entries).map (fun e => key e.1) =
      if key entry.1 ∈ entries.map (fun e => key e.1) then entries.map (fun e => key e.1)
      else entries.map (fun e => key e.1) ++ [key entry.1] := by
  induction entries with
  | nil => simp [writeEntry]
  | cons first rest ih =>
      by_cases h : key first.1 = key entry.1
      · simp [writeEntry, h]
      · have h' : ¬key entry.1 = key first.1 := fun e => h e.symm
        simp only [writeEntry, h, if_false, List.map_cons, ih, List.mem_cons, h', false_or]
        split <;> simp

theorem nodup_writeEntry (key : ι → κ) (entry : ι × α) {entries : List (ι × α)}
    (h : (entries.map fun e => key e.1).Nodup) :
    ((writeEntry key entry entries).map fun e => key e.1).Nodup := by
  rw [keys_writeEntry]
  split
  · exact h
  · next absent =>
      refine List.nodup_append.2 ⟨h, by simp, ?_⟩
      intro a ha b hb
      rw [List.mem_singleton] at hb
      rintro rfl
      exact absent (hb ▸ ha)

/-- A list of entries whose keys are distinct. -/
structure OrderedTable (key : ι → κ) (α : Type) where
  entries : List (ι × α)
  distinct : (entries.map fun e => key e.1).Nodup

namespace OrderedTable

variable {key : ι → κ}

omit [DecidableEq κ] in
theorem ext {s t : OrderedTable key α} (h : s.entries = t.entries) : s = t := by
  cases s
  cases t
  simp_all

def empty : OrderedTable key α :=
  ⟨[], List.nodup_nil⟩

instance : Inhabited (OrderedTable key α) :=
  ⟨empty⟩

/-- The stored item and value under a key. -/
def entry? (t : OrderedTable key α) (k : κ) : Option (ι × α) :=
  t.entries.find? fun e => key e.1 == k

def get? (t : OrderedTable key α) (k : κ) : Option α :=
  (t.entry? k).map (·.2)

def contains (t : OrderedTable key α) (k : κ) : Bool :=
  (t.entry? k).isSome

def size (t : OrderedTable key α) : Nat :=
  t.entries.length

def items (t : OrderedTable key α) : List ι :=
  t.entries.map (·.1)

def values (t : OrderedTable key α) : List α :=
  t.entries.map (·.2)

/-- Stores the item and the value, in place of what its key had before. -/
def set (t : OrderedTable key α) (item : ι) (value : α) : OrderedTable key α :=
  ⟨writeEntry key (item, value) t.entries, nodup_writeEntry key _ t.distinct⟩

/-- Stores the value; an item that is stored already under the same key stays. -/
def put (t : OrderedTable key α) (item : ι) (value : α) : OrderedTable key α :=
  t.set (((t.entry? (key item)).map (·.1)).getD item) value

def erase (t : OrderedTable key α) (k : κ) : OrderedTable key α :=
  ⟨t.entries.filter fun e => key e.1 != k,
    t.distinct.sublist ((List.filter_sublist).map _)⟩

/-- Later entries replace the values of earlier ones with the same key. -/
def ofList (entries : List (ι × α)) : OrderedTable key α :=
  entries.foldl (fun t e => t.put e.1 e.2) empty

/-- Whether two tables hold equal values under the same keys, in whatever order. -/
def sameContent [BEq α] (s t : OrderedTable key α) : Bool :=
  s.size == t.size && s.entries.all fun e => t.get? (key e.1) == some e.2

omit [DecidableEq κ] in
@[simp] theorem entries_empty : (empty : OrderedTable key α).entries = [] := rfl

theorem entries_set (t : OrderedTable key α) (item : ι) (value : α) :
    (t.set item value).entries = writeEntry key (item, value) t.entries := rfl

theorem entries_erase (t : OrderedTable key α) (k : κ) :
    (t.erase k).entries = t.entries.filter fun e => key e.1 != k := rfl

end OrderedTable

end XmlBinding
