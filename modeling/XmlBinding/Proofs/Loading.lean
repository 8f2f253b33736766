import XmlBinding.Catalog.Bundled
import XmlBinding.Proofs.Registrations

/-!
Loading tables of descriptors. The descriptors of a table are registered one after the other, up to
the first that has a key which is taken, by the registry or by the table itself. Main statement: a
table is loaded as a whole exactly if it fits; what it has before the first descriptor that does not
fit stays registered.
-/

namespace XmlBinding

namespace Registry

variable {r r' : Registry} {d : TypeDescriptor} {ds ds' : List TypeDescriptor}

/-- What some descriptors are to be found under: each under its name and, if that is another one,
its type name. -/
def entriesOf (ds : List TypeDescriptor) : List (QName × TypeDescriptor) :=
  ds.flatMap fun d => (d.name, d) :: d.distinctTypeName.toList.map fun key => (key, d)

theorem entriesOf_append (ds ds' : List TypeDescriptor) :
    entriesOf (ds ++ ds') = entriesOf ds ++ entriesOf ds' :=
  List.flatMap_append

theorem entriesOf_singleton (d : TypeDescriptor) :
    entriesOf [d] = (keysOf d).map fun key => (key, d) := by
  rw [keysOf_eq, List.map_cons, entriesOf, List.flatMap_singleton]

/-- A registry to which some descriptors were added, and nothing else. -/
structure Extends (r' r : Registry) (ds : List TypeDescriptor) : Prop where
  entries : r'.types.entries = r.types.entries ++ entriesOf ds
  fallback : r'.fallback = r.fallback

theorem Extends.refl (r : Registry) : r.Extends r [] :=
  ⟨(List.append_nil _).symm, rfl⟩

theorem Extends.trans {r'' : Registry} (h : r'.Extends r ds) (h' : r''.Extends r' ds') :
    r''.Extends r (ds ++ ds') where
  entries := by rw [h'.entries, h.entries, entriesOf_append, List.append_assoc]
  fallback := h'.fallback.trans h.fallback

theorem Extends.of_registerType (h : r.registerType d = (r', .ok ())) : r'.Extends r [d] where
  entries := by rw [entries_of_registerType h, entriesOf_singleton]
  fallback := by
    obtain ⟨-, -, rfl⟩ := registerType_eq_ok_iff.1 h
    rfl

/-- Only the registry itself is an extension of it that has nothing new. -/
theorem Extends.eq_iff (h : r'.Extends r ds) : r' = r ↔ ds = [] := by
  constructor
  · rintro rfl
    have hnone : entriesOf ds = [] := List.self_eq_append_right.1 h.entries
    cases ds with
    | nil => rfl
    | cons d ds => simp [entriesOf] at hnone
  · rintro rfl
    have hentries : r'.types = r.types :=
      OrderedTable.ext (h.entries.trans (List.append_nil _))
    have hfallback := h.fallback
    cases r
    cases r'
    simp_all

theorem Extends.taken_iff (h : r'.Extends r ds) {key : QName} :
    r'.Taken key ↔ r.Taken key ∨ ∃ entry ∈ entriesOf ds, entry.1.same key = true := by
  simp [Taken, keys, OrderedTable.items, h.entries, or_and_right, exists_or]

/-- Descriptors whose keys are free in a registry and differ among each other. -/
structure Fits (r : Registry) (ds : List TypeDescriptor) : Prop where
  free : ∀ entry ∈ entriesOf ds, ¬r.Taken entry.1
  distinct : ((entriesOf ds).map fun entry => entry.1.expanded).Nodup

theorem fits_nil (r : Registry) : r.Fits [] :=
  ⟨fun _ hentry => absurd hentry List.not_mem_nil, List.nodup_nil⟩

theorem fits_singleton : r.Fits [d] ↔ ∀ key ∈ keysOf d, ¬r.Taken key := by
  constructor
  · rintro ⟨hfree, -⟩ key hkey
    rw [entriesOf_singleton] at hfree
    exact hfree (key, d) (List.mem_map_of_mem hkey)
  · intro h
    constructor
    · rw [entriesOf_singleton, List.forall_mem_map]
      exact h
    · rw [entriesOf_singleton, List.map_map]
      exact nodup_keysOf d

/-- Descriptors fit after others if they fit into the registry that has those. -/
theorem Extends.fits_append (h : r'.Extends r ds) :
    r.Fits (ds ++ ds') ↔ r.Fits ds ∧ r'.Fits ds' := by
  constructor
  · rintro ⟨hfree, hdistinct⟩
    rw [entriesOf_append, List.forall_mem_append] at hfree
    rw [entriesOf_append, List.map_append, List.nodup_append] at hdistinct
    refine ⟨⟨hfree.1, hdistinct.1⟩, fun entry hentry htaken => ?_, hdistinct.2.1⟩
    rcases h.taken_iff.1 htaken with htaken | ⟨earlier, hearlier, hsame⟩
    · exact hfree.2 entry hentry htaken
    · exact hdistinct.2.2 _ (List.mem_map_of_mem hearlier) _ (List.mem_map_of_mem hentry)
        (QName.same_iff.1 hsame)
  · rintro ⟨⟨hfree, hdistinct⟩, hfree', hdistinct'⟩
    simp only [h.taken_iff, not_or] at hfree'
    constructor
    · rw [entriesOf_append, List.forall_mem_append]
      exact ⟨hfree, fun entry hentry => (hfree' entry hentry).1⟩
    · rw [entriesOf_append, List.map_append, List.nodup_append]
      refine ⟨hdistinct, hdistinct', ?_⟩
      rintro _ hkey _ hkey' rfl
      obtain ⟨earlier, hearlier, rfl⟩ := List.mem_map.1 hkey
      obtain ⟨entry, hentry, hsame⟩ := List.mem_map.1 hkey'
      exact (hfree' entry hentry).2 ⟨earlier, hearlier, QName.same_iff.2 hsame.symm⟩

/-! ### Registering one after the other -/

/-- A checked descriptor is registered exactly if it fits. -/
theorem exists_registerType_eq_ok (hcheck : d.check = .ok ()) :
    (∃ r', r.registerType d = (r', .ok ())) ↔ r.Fits [d] := by
  simp only [registerType_eq_ok_iff, fits_singleton]
  constructor
  · rintro ⟨r', -, hfree, -⟩
    exact hfree
  · intro hfree
    exact ⟨_, hcheck, hfree, rfl⟩

/-- Checked descriptors are registered up to the first that has a key which is taken by then. -/
theorem registerTypes_cases (hchecked : ∀ d ∈ ds, d.check = .ok ()) :
    (r.Fits ds ∧ (r.registerTypes ds).1.Extends r ds ∧ (r.registerTypes ds).2 = .ok ()) ∨
      ∃ loaded d rest key, ds = loaded ++ d :: rest ∧ r.Fits loaded ∧
        (r.registerTypes ds).1.Extends r loaded ∧ key ∈ keysOf d ∧
        (r.registerTypes ds).1.Taken key ∧
        (r.registerTypes ds).2 = .error (.duplicateRegistration key) := by
  induction ds generalizing r with
  | nil => exact .inl ⟨fits_nil r, Extends.refl r, rfl⟩
  | cons d ds ih =>
      rw [List.forall_mem_cons] at hchecked
      rw [registerTypes]
      rcases hresult : r.registerType d with ⟨r', fault | ⟨⟩⟩
      · rw [registerType_eq_error, hchecked.1] at hresult
        obtain ⟨rfl, ⟨_, hfault, -⟩ | ⟨-, key, hfound, rfl⟩⟩ := hresult
        · cases hfault
        · have hown : key ∈ keysOf d := List.mem_of_find?_eq_some hfound
          have htaken : r'.Taken key := taken_iff_contains.2 (List.find?_some hfound)
          exact .inr ⟨[], d, ds, key, rfl, fits_nil r', Extends.refl r', hown, htaken, rfl⟩
      · have hadded := Extends.of_registerType hresult
        have hfits : r.Fits [d] := (exists_registerType_eq_ok hchecked.1).1 ⟨r', hresult⟩
        -- What fits into the registry that has the first descriptor fits after it.
        have hcons {ds : List TypeDescriptor} (h : r'.Fits ds) : r.Fits (d :: ds) :=
          hadded.fits_append.2 ⟨hfits, h⟩
        rcases ih hchecked.2 (r := r') with ⟨hrest, hextends, hok⟩ |
          ⟨loaded, d', rest, key, rfl, hloaded, hextends, hkey, htaken, herror⟩
        · exact .inl ⟨hcons hrest, hadded.trans hextends, hok⟩
        · exact .inr ⟨d :: loaded, d', rest, key, rfl, hcons hloaded, hadded.trans hextends, hkey,
            htaken, herror⟩

/-- A descriptor with a key that is taken by those before it does not fit after them. -/
theorem Extends.not_fits {key : QName} (h : r'.Extends r ds) (hkey : key ∈ keysOf d)
    (htaken : r'.Taken key) : ¬r.Fits (ds ++ d :: ds') := by
  intro hfits
  have hrest : r'.Fits (d :: ds') := (h.fits_append.1 hfits).2
  refine hrest.free (key, d) ?_ htaken
  rw [← List.singleton_append, entriesOf_append, List.mem_append, entriesOf_singleton]
  exact .inl (List.mem_map_of_mem hkey)

/-- The first descriptors fit where all do. -/
theorem Fits.left (h : r.Fits (ds ++ ds')) : r.Fits ds := by
  obtain ⟨hfree, hdistinct⟩ := h
  rw [entriesOf_append, List.forall_mem_append] at hfree
  rw [entriesOf_append, List.map_append] at hdistinct
  exact ⟨hfree.1, hdistinct.of_append_left⟩

/-! ### Loading a table -/

/-- How a load can end, given what the table was read as: the table cannot be read, it is registered
as a whole, or it is registered up to a descriptor with a key that is taken by then. -/
inductive Loads (r : Registry) :
    Except DescriptorFault (List TypeDescriptor) → Registry × Except Error Nat → Prop where
  | unreadable (fault : DescriptorFault) : Loads r (.error fault) (r, .error (.descriptor fault))
  | whole {r' : Registry} {ds : List TypeDescriptor} (fits : r.Fits ds)
      (extended : r'.Extends r ds) : Loads r (.ok ds) (r', .ok ds.length)
  | inPart {r' : Registry} {loaded rest : List TypeDescriptor} {d : TypeDescriptor} {key : QName}
      (fits : r.Fits loaded) (extended : r'.Extends r loaded) (own : key ∈ keysOf d)
      (taken : r'.Taken key) :
      Loads r (.ok (loaded ++ d :: rest)) (r', .error (.duplicateRegistration key))

section Loads

variable {table : Except DescriptorFault (List TypeDescriptor)}
  {result : Registry × Except Error Nat}

/-- A load ends well exactly if the table can be read and fits. -/
theorem Loads.exists_ok_iff (h : r.Loads table result) :
    (∃ n, result.2 = .ok n) ↔ ∃ ds, table = .ok ds ∧ r.Fits ds := by
  cases h with
  | unreadable fault => simp
  | @whole _ ds fits _ => exact ⟨fun _ => ⟨ds, rfl, fits⟩, fun _ => ⟨ds.length, rfl⟩⟩
  | @inPart _ loaded rest d _ _ extended own taken =>
      have hstop : ¬r.Fits (loaded ++ d :: rest) := extended.not_fits own taken
      constructor
      · rintro ⟨n, ⟨⟩⟩
      · rintro ⟨ds, ⟨⟩, fits⟩
        exact absurd fits hstop

/-- A load that fails changes nothing, exactly if the table cannot be read, or fits, or starts with
a descriptor that does not fit. -/
theorem Loads.unchanged_iff (h : r.Loads table result) :
    (∀ fault, result.2 = .error fault → result.1 = r) ↔
      ∀ d ds, table = .ok (d :: ds) → r.Fits [d] → r.Fits (d :: ds) := by
  cases h with
  | unreadable fault => exact ⟨fun _ _ _ => nofun, fun _ _ _ => rfl⟩
  | whole fits _ =>
      refine ⟨fun _ d ds h _ => ?_, fun _ _ => nofun⟩
      cases h
      exact fits
  | @inPart r' loaded rest d key fits extended own taken =>
      have hstop (rest : List TypeDescriptor) : ¬r.Fits (loaded ++ d :: rest) :=
        extended.not_fits own taken
      have hloaded : (∀ fault,
          .error (.duplicateRegistration key) = (.error fault : Except Error Nat) → r' = r) ↔
            loaded = [] := by
        rw [← extended.eq_iff]
        exact ⟨fun h => h _ rfl, fun h _ _ => h⟩
      dsimp only
      rw [hloaded]
      constructor
      · -- Nothing was registered, so the first descriptor is the one that does not fit.
        rintro rfl first ds heq hfirst
        cases heq
        exact absurd hfirst (hstop [])
      · intro hwhole
        cases loaded with
        | nil => rfl
        | cons first loaded =>
            rw [← List.singleton_append] at fits
            exact absurd (hwhole first _ rfl fits.left) (hstop rest)

end Loads

end Registry

namespace TypeDescriptor

variable {text : String} {ds : List TypeDescriptor}

/-- A table is read if its text is one value that is a list of descriptors, all of which pass their
checks. -/
theorem readTable_eq_ok : readTable text = .ok ds ↔
    ∃ table, Json.parse text = (table, true) ∧
      Table.list Table.typeDescriptor table = .ok ds ∧ ∀ d ∈ ds, d.check = .ok () := by
  rw [readTable]
  obtain ⟨table, whole⟩ := Json.parse text
  dsimp only
  rw [ofTable, bind_eq_ok]
  constructor
  · rintro ⟨ds', hread, h⟩
    split at h
    · next hwhole =>
        rw [checkAll, check_bind_eq_ok, pure_eq_ok] at h
        obtain ⟨hchecks, rfl⟩ := h
        exact ⟨table, by rw [hwhole], mapError_eq_ok.1 hread, forM_eq_ok.1 hchecks⟩
    · cases h
  · rintro ⟨table', hparse, hread, hchecks⟩
    cases hparse
    refine ⟨ds, mapError_eq_ok.2 hread, ?_⟩
    rw [if_pos rfl, checkAll, check_bind_eq_ok]
    exact ⟨forM_eq_ok.2 hchecks, rfl⟩

theorem check_of_readTable (h : readTable text = .ok ds) : ∀ d ∈ ds, d.check = .ok () := by
  obtain ⟨-, -, -, hchecks⟩ := readTable_eq_ok.1 h
  exact hchecks

end TypeDescriptor

namespace Registry

theorem loads_registerTable (r : Registry) (text : String) :
    r.Loads (TypeDescriptor.readTable text) (r.registerTable text) := by
  rw [registerTable]
  cases hread : TypeDescriptor.readTable text with
  | error fault => exact .unreadable fault
  | ok ds =>
      have hchecked := TypeDescriptor.check_of_readTable hread
      dsimp only
      rcases registerTypes_cases (r := r) hchecked with
        ⟨hfits, hextends, hok⟩ | ⟨loaded, d, rest, key, rfl, hfits, hextends, hkey, htaken, herror⟩
      · rw [hok]
        exact .whole hfits hextends
      · rw [herror]
        exact .inPart hfits hextends hkey htaken

/-- A table that cannot be read changes nothing. One that can be read is loaded as a whole exactly
if it fits; otherwise what stands before the first descriptor with a key that is taken stays
registered. So a load that fails changes nothing exactly if the table cannot be read, or fails at
its first descriptor. -/
theorem registerTable_exactly (r : Registry) (text : String) :
    r.Loads (TypeDescriptor.readTable text) (r.registerTable text) ∧
    ((∃ n, (r.registerTable text).2 = .ok n) ↔
      ∃ ds, TypeDescriptor.readTable text = .ok ds ∧ r.Fits ds) ∧
    ((∀ fault, (r.registerTable text).2 = .error fault → (r.registerTable text).1 = r) ↔
      ∀ d ds, TypeDescriptor.readTable text = .ok (d :: ds) → r.Fits [d] → r.Fits (d :: ds)) := by
  have hloads := loads_registerTable r text
  exact ⟨hloads, hloads.exists_ok_iff, hloads.unchanged_iff⟩

end Registry

/-- A table with the same descriptor twice. -/
def twiceText : String :=
  let entry := "\x7b\"name\": \x7b\"local_name\": \"A\"\x7d\x7d"
  "[" ++ entry ++ ", " ++ entry ++ "]"

/-- The load fails at the second descriptor, and the first one stays registered. -/
theorem twice_loaded_in_part :
    (∃ fault, (Registry.empty.registerTable twiceText).2 = .error fault) ∧
      (Registry.empty.registerTable twiceText).1.keys = [.unqualified "A"] ∧
      Registry.empty.keys = [] := by
  have hresult : (Registry.empty.registerTable twiceText).2.toOption = none ∧
      (Registry.empty.registerTable twiceText).1.keys = [.unqualified "A"] := by
    decide +kernel
  exact ⟨exists_eq_error hresult.1, hresult.2, rfl⟩

end XmlBinding
