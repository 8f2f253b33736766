import XmlBinding.Proofs.Outcome
import XmlBinding.Proofs.Table
import XmlBinding.Registry.Basic

/-!
Registries over whole runs of calls. A run keeps a log of the keys that were taken and given up; the
registry is then known from the log alone. Main statement: whatever calls are made on an empty
registry, and whichever of them fail, it holds the registrations whose keys were not given up since,
in their order, and under each key the only one there is.
-/

namespace XmlBinding

/-- The type name of a descriptor, if that is another name than its own. -/
def TypeDescriptor.distinctTypeName (d : TypeDescriptor) : Option QName :=
  d.typeName.filter fun typeName => !typeName.same d.name

namespace Registry

variable {r r' : Registry} {key other : QName} {keys : List QName} {d : TypeDescriptor}

/-! ### Registering under several keys -/

/-- Whether something is registered under a key, whatever its prefix. -/
def Taken (r : Registry) (key : QName) : Prop :=
  ∃ other ∈ r.keys, other.same key = true

theorem taken_iff_contains : r.Taken key ↔ r.contains key = true := by
  rw [contains, OrderedTable.contains, OrderedTable.entry?, List.find?_isSome, Taken, keys,
    OrderedTable.items]
  simp [QName.same]

theorem taken_iff_lookup : r.Taken key ↔ (r.lookup key).isSome = true := by
  rw [taken_iff_contains, contains, OrderedTable.contains_eq_isSome, lookup]

theorem not_taken_iff : ¬r.Taken key ↔ r.lookup key = none := by
  rw [taken_iff_lookup, Option.not_isSome_iff_eq_none]

/-- Registering writes all keys, if all of them are free. -/
theorem registerKeys_eq_ok : r.registerKeys keys d = (r', .ok ()) ↔
    (∀ key ∈ keys, ¬r.Taken key) ∧
      r' = { r with types := keys.foldl (fun types key => types.set key d) r.types } := by
  simp only [taken_iff_contains]
  rw [registerKeys]
  cases hfound : keys.find? r.contains with
  | some key =>
      refine ⟨nofun, ?_⟩
      rintro ⟨hfree, -⟩
      exact absurd (List.find?_some hfound) (hfree key (List.mem_of_find?_eq_some hfound))
  | none =>
      rw [Prod.mk.injEq, and_iff_left rfl, eq_comm, and_iff_right]
      exact List.find?_eq_none.1 hfound

/-- Registering is refused for the first key that is taken, and writes nothing then. -/
theorem registerKeys_eq_error {fault : Error} : r.registerKeys keys d = (r', .error fault) ↔
    r' = r ∧ ∃ key, keys.find? r.contains = some key ∧ fault = .duplicateRegistration key := by
  rw [registerKeys]
  cases keys.find? r.contains with
  | some key => simp [eq_comm]
  | none => simp

/-- Keys that are free and differ are added at the end. -/
theorem entries_foldl_set {types : NameTable TypeDescriptor}
    (hfree : ∀ key ∈ keys, types.get? key.expanded = none)
    (hdistinct : (keys.map QName.expanded).Nodup) :
    (keys.foldl (fun types key => types.set key d) types).entries =
      types.entries ++ keys.map fun key => (key, d) := by
  have hentries : ((keys.map fun key => (key, d)).map fun e => e.1.expanded).Nodup := by
    rwa [List.map_map]
  have habsent : ∀ e ∈ keys.map fun key => (key, d), types.get? e.1.expanded = none := by
    simpa using hfree
  have hrun := OrderedTable.entries_foldl_set
    (f := fun (types : NameTable TypeDescriptor) e => types.set e.1 e.2) (I := fun _ => True)
    (g := id) (p := fun _ => true) (fun _ _ _ => trivial) (fun _ _ _ _ => rfl)
    (fun _ _ _ h => absurd h.symm Bool.false_ne_true) hentries trivial habsent
  rwa [List.foldl_map, List.filter_true] at hrun

theorem keysOf_eq (d : TypeDescriptor) : keysOf d = d.name :: d.distinctTypeName.toList := by
  rw [keysOf, TypeDescriptor.distinctTypeName]
  cases d.typeName with
  | none => rfl
  | some typeName =>
      cases hsame : typeName.same d.name <;> simp [Option.filter_some, hsame]

theorem nodup_keysOf (d : TypeDescriptor) : ((keysOf d).map QName.expanded).Nodup := by
  rw [keysOf_eq]
  cases htype : d.distinctTypeName with
  | none => simp
  | some typeName =>
      rw [TypeDescriptor.distinctTypeName, Option.filter_eq_some_iff, Bool.not_eq_true'] at htype
      have hne : d.name.expanded ≠ typeName.expanded := by
        intro heq
        exact Bool.false_ne_true (htype.2.symm.trans (QName.same_iff.2 heq.symm))
      simpa using hne

/-- A key is taken among those of a descriptor if its name or its type name is. -/
theorem exists_taken_keysOf : (∃ key ∈ keysOf d, r.Taken key) ↔
    r.Taken d.name ∨ ∃ typeName, d.typeName = some typeName ∧ r.Taken typeName := by
  rw [keysOf_eq, List.exists_mem_cons_iff, TypeDescriptor.distinctTypeName]
  cases d.typeName with
  | none => simp
  | some typeName =>
      rw [Option.filter_some]
      cases hsame : typeName.same d.name with
      | false => simp
      | true =>
          -- A type name that is the name is taken with it.
          have htaken : r.Taken typeName ↔ r.Taken d.name := by
            rw [taken_iff_lookup, taken_iff_lookup, lookup, lookup, QName.same_iff.1 hsame]
          simp [htaken]

/-! ### Calls -/

/-- A call that may change a registry. -/
inductive Call where
  | register (key : QName) (d : TypeDescriptor)
  | registerType (d : TypeDescriptor)
  | deregister (key : QName)

/-- The registry after a call, and the answer: a fault, or the descriptor that was taken out. -/
def perform (r : Registry) : Call → Registry × Except Error (Option TypeDescriptor)
  | .register key d => (r.register key d).map id (Except.map fun _ => none)
  | .registerType d => (r.registerType d).map id (Except.map fun _ => none)
  | .deregister key => ((r.deregister key).2, .ok (r.deregister key).1)

/-- What each call does to a registry. -/
structure Obeys (r : Registry) : Prop where
  failed : ∀ call fault, (r.perform call).2 = .error fault → (r.perform call).1 = r
  register_error : ∀ key d fault, (r.perform (.register key d)).2 = .error fault ↔
    r.Taken key ∧ fault = .duplicateRegistration key
  register_ok : ∀ key d, ¬r.Taken key →
    (r.perform (.register key d)).1.types.entries = r.types.entries ++ [(key, d)]
  registerType_error : ∀ d, (∃ fault, (r.perform (.registerType d)).2 = .error fault) ↔
    (∃ fault, d.check = .error fault) ∨ r.Taken d.name ∨
      ∃ typeName, d.typeName = some typeName ∧ r.Taken typeName
  registerType_ok : ∀ d, d.check = .ok () → ¬r.Taken d.name →
    (∀ typeName, d.typeName = some typeName → ¬r.Taken typeName) →
    (r.perform (.registerType d)).1.types.entries =
      r.types.entries ++ (d.name, d) :: d.distinctTypeName.toList.map fun key => (key, d)
  deregister : ∀ key, (r.perform (.deregister key)).2 = .ok (r.lookup key) ∧
    (r.perform (.deregister key)).1.types.entries =
      r.types.entries.filter fun entry => !entry.1.same key
  fallback : ∀ call, (r.perform call).1.fallback = r.fallback

/-- Registering a type is refused for a fault in its descriptor first, then for a key. Nothing is
written then. -/
theorem registerType_eq_error {fault : Error} : r.registerType d = (r', .error fault) ↔
    r' = r ∧ ((∃ cause, d.check = .error cause ∧ fault = .descriptor cause) ∨
      d.check = .ok () ∧
        ∃ key, (keysOf d).find? r.contains = some key ∧ fault = .duplicateRegistration key) := by
  rw [registerType]
  cases d.check with
  | error cause => simp [eq_comm]
  | ok _ => simp [registerKeys_eq_error]

theorem registerType_eq_ok_iff : r.registerType d = (r', .ok ()) ↔ d.check = .ok () ∧
    (∀ key ∈ keysOf d, ¬r.Taken key) ∧
      r' = { r with types := (keysOf d).foldl (fun types key => types.set key d) r.types } := by
  rw [registerType]
  cases d.check with
  | error cause => simp
  | ok _ => rw [registerKeys_eq_ok, and_iff_right rfl]

theorem exists_find?_taken :
    (∃ key, keys.find? r.contains = some key) ↔ ∃ key ∈ keys, r.Taken key := by
  simp only [taken_iff_contains]
  rw [← List.find?_isSome, Option.isSome_iff_exists]

theorem answer_eq_error {result : Registry × Except Error Unit} {fault : Error} :
    (result.map id (Except.map fun _ => (none : Option TypeDescriptor))).2 = .error fault ↔
      ∃ r', result = (r', .error fault) := by
  rw [Prod.map_snd, map_eq_error]
  refine ⟨fun h => ⟨result.1, Prod.ext rfl h⟩, ?_⟩
  rintro ⟨r', rfl⟩
  rfl

theorem fallback_registerKeys (r : Registry) (keys : List QName) (d : TypeDescriptor) :
    (r.registerKeys keys d).1.fallback = r.fallback := by
  rw [registerKeys]
  split <;> rfl

theorem fallback_registerType (r : Registry) (d : TypeDescriptor) :
    (r.registerType d).1.fallback = r.fallback := by
  rw [registerType]
  split
  · exact fallback_registerKeys r _ d
  · rfl

/-- Registering a type adds its descriptor under its keys. -/
theorem entries_of_registerType (h : r.registerType d = (r', .ok ())) :
    r'.types.entries = r.types.entries ++ (keysOf d).map fun key => (key, d) := by
  obtain ⟨-, hfree, rfl⟩ := registerType_eq_ok_iff.1 h
  exact entries_foldl_set (fun key hkey => not_taken_iff.1 (hfree key hkey)) (nodup_keysOf d)

/-- Each call does what is said of it, to any registry. -/
theorem obeys (r : Registry) : r.Obeys where
  failed call fault h := by
    cases call with
    | register key d =>
        have hfault : (r.register key d).2 = .error fault := map_eq_error.1 h
        exact (registerKeys_eq_error.1 (Prod.ext rfl hfault)).1
    | registerType d =>
        have hfault : (r.registerType d).2 = .error fault := map_eq_error.1 h
        exact (registerType_eq_error.1 (Prod.ext rfl hfault)).1
    | deregister key => cases h
  register_error key d fault := by
    rw [perform, answer_eq_error, register]
    simp only [registerKeys_eq_error, taken_iff_contains]
    cases hkey : r.contains key <;> simp [hkey]
  register_ok key d hfree := by
    have hok : r.register key d = ({ r with types := r.types.set key d }, .ok ()) :=
      registerKeys_eq_ok.2 ⟨by simpa using hfree, rfl⟩
    rw [perform, hok]
    exact OrderedTable.entries_set_of_absent d (not_taken_iff.1 hfree)
  registerType_error d := by
    simp only [perform, answer_eq_error, registerType_eq_error]
    rw [← exists_taken_keysOf, ← exists_find?_taken]
    cases d.check <;> simp
  registerType_ok d hcheck hname htype := by
    have hfree : ∀ key ∈ keysOf d, ¬r.Taken key := by
      intro key hkey htaken
      rcases exists_taken_keysOf.1 ⟨key, hkey, htaken⟩ with h | ⟨typeName, heq, h⟩
      · exact hname h
      · exact htype typeName heq h
    have hok := registerType_eq_ok_iff.2 ⟨hcheck, hfree, rfl⟩
    have hkeys : (keysOf d).map (fun key => (key, d)) =
        (d.name, d) :: d.distinctTypeName.toList.map fun key => (key, d) := by
      rw [keysOf_eq, List.map_cons]
    rw [perform, hok]
    exact (entries_of_registerType hok).trans (congrArg (r.types.entries ++ ·) hkeys)
  deregister key := by
    refine ⟨rfl, List.filter_congr fun entry _ => ?_⟩
    rfl
  fallback call := by
    cases call with
    | register key d => exact fallback_registerKeys r [key] d
    | registerType d => exact fallback_registerType r d
    | deregister key => rfl

/-! ### The log of a run -/

/-- What a log tells: a descriptor was registered under a key, or a key was given up. -/
inductive Event where
  | registered (key : QName) (d : TypeDescriptor)
  | freed (key : QName)

/-- What a call that ended well leaves in the log. -/
def Call.events : Call → List Event
  | .register key d => [.registered key d]
  | .registerType d => .registered d.name d :: d.distinctTypeName.toList.map (.registered · d)
  | .deregister key => [.freed key]

/-- Performs one more call of a run. A call that fails leaves nothing in the log. -/
def advance (run : Registry × List Event) (call : Call) : Registry × List Event :=
  match run.1.perform call with
  | (r, .ok _) => (r, run.2 ++ call.events)
  | (r, .error _) => (r, run.2)

/-- The registry after a run of calls, and the log of the run. -/
def run (r : Registry) (calls : List Call) : Registry × List Event :=
  calls.foldl advance (r, [])

def Event.frees (key : QName) : Event → Bool
  | .registered _ _ => false
  | .freed other => other.same key

/-- The descriptor that an event registers under a key. -/
def Event.descriptor? (key : QName) : Event → Option TypeDescriptor
  | .registered other d => if other.same key then some d else none
  | .freed _ => none

/-- What was registered under a key since it was last given up, the latest first. -/
def registeredSince (key : QName) (log : List Event) : List TypeDescriptor :=
  (log.reverse.takeWhile fun event => !event.frees key).filterMap (Event.descriptor? key)

/-- The registrations whose keys were not given up later, in the order in which they were made. -/
def standing : List Event → List (QName × TypeDescriptor)
  | [] => []
  | .registered key d :: log =>
      if log.any (Event.frees key) then standing log else (key, d) :: standing log
  | .freed _ :: log => standing log

/-- A registry that is known from the log of the calls on it. -/
structure LoggedBy (r : Registry) (log : List Event) : Prop where
  distinct : (r.keys.map QName.expanded).Nodup
  lookup : ∀ key, registeredSince key log = (r.lookup key).toList
  entries : r.types.entries = standing log

section Log

variable {log : List Event}

theorem standing_registered (log : List Event) (key : QName) (d : TypeDescriptor) :
    standing (log ++ [.registered key d]) = standing log ++ [(key, d)] := by
  induction log with
  | nil => rfl
  | cons event log ih =>
      rw [List.cons_append]
      cases event with
      | registered other d' =>
          rw [standing, standing, ih, List.any_append]
          cases log.any (Event.frees other) <;> simp [Event.frees]
      | freed other => rw [standing, standing, ih]

/-- Giving a key up takes its registration away and leaves the others as they are. -/
theorem standing_freed (log : List Event) (key : QName) :
    standing (log ++ [.freed key]) =
      (standing log).filter fun entry => !entry.1.same key := by
  induction log with
  | nil => rfl
  | cons event log ih =>
      rw [List.cons_append]
      cases event with
      | registered other d =>
          have hsame : key.same other = other.same key := by
            rw [QName.same, QName.same, Bool.beq_comm]
          rw [standing, standing, ih, List.any_append]
          cases hlater : log.any (Event.frees other) with
          | true => simp
          | false => cases hkey : other.same key <;> simp [Event.frees, hsame, hkey]
      | freed other => rw [standing, standing, ih]

theorem registeredSince_registered (log : List Event) (key other : QName) (d : TypeDescriptor) :
    registeredSince key (log ++ [.registered other d]) =
      if other.same key then d :: registeredSince key log else registeredSince key log := by
  rw [registeredSince, List.reverse_append, List.reverse_singleton, List.singleton_append,
    List.takeWhile_cons_of_pos rfl, List.filterMap_cons, Event.descriptor?]
  cases other.same key <;> rfl

theorem registeredSince_freed (log : List Event) (key other : QName) :
    registeredSince key (log ++ [.freed other]) =
      if other.same key then [] else registeredSince key log := by
  rw [registeredSince, List.reverse_append, List.reverse_singleton, List.singleton_append,
    List.takeWhile_cons, Event.frees]
  cases other.same key <;> rfl

/-! ### What one call keeps -/

theorem LoggedBy.distinct_keys (r : Registry) : (r.keys.map QName.expanded).Nodup := by
  rw [Registry.keys, OrderedTable.items, List.map_map]
  exact r.types.distinct

theorem loggedBy_empty (fallback : Option TypeDescriptor) :
    LoggedBy ⟨OrderedTable.empty, fallback⟩ [] where
  distinct := List.nodup_nil
  lookup _ := rfl
  entries := rfl

/-- Under a key that is free nothing was registered since it was last given up. -/
theorem LoggedBy.set (h : r.LoggedBy log) (hfree : ¬r.Taken key) :
    LoggedBy { r with types := r.types.set key d } (log ++ [.registered key d]) where
  distinct := LoggedBy.distinct_keys _
  lookup other := by
    rw [registeredSince_registered, h.lookup, Registry.lookup, Registry.lookup,
      OrderedTable.get?_set]
    by_cases hsame : key.expanded = other.expanded
    · rw [not_taken_iff, Registry.lookup, hsame] at hfree
      rw [if_pos hsame, if_pos (QName.same_iff.2 hsame), hfree]
      rfl
    · rw [if_neg hsame, if_neg (mt QName.same_iff.1 hsame)]
  entries := by
    rw [standing_registered, ← h.entries]
    exact OrderedTable.entries_set_of_absent d (not_taken_iff.1 hfree)

theorem LoggedBy.setAll (h : r.LoggedBy log) (hfree : ∀ key ∈ keys, ¬r.Taken key)
    (hdistinct : (keys.map QName.expanded).Nodup) :
    LoggedBy { r with types := keys.foldl (fun types key => types.set key d) r.types }
      (log ++ keys.map (.registered · d)) := by
  induction keys generalizing r log with
  | nil => simpa using h
  | cons key keys ih =>
      rw [List.forall_mem_cons] at hfree
      rw [List.map_cons, List.nodup_cons] at hdistinct
      have hrest : ∀ other ∈ keys, ¬Taken { r with types := r.types.set key d } other := by
        intro other hother
        rw [not_taken_iff, Registry.lookup, OrderedTable.get?_set, if_neg]
        · exact not_taken_iff.1 (hfree.2 other hother)
        · exact fun hsame => hdistinct.1 (hsame ▸ List.mem_map_of_mem hother)
      rw [List.map_cons, List.append_cons]
      exact ih (h.set hfree.1) hrest hdistinct.2

theorem LoggedBy.deregister (h : r.LoggedBy log) (key : QName) :
    LoggedBy (r.deregister key).2 (log ++ [.freed key]) where
  distinct := LoggedBy.distinct_keys _
  lookup other := by
    rw [registeredSince_freed, h.lookup, Registry.deregister, Registry.lookup, Registry.lookup,
      OrderedTable.get?_erase]
    by_cases hsame : key.expanded = other.expanded
    · rw [if_pos hsame, if_pos (QName.same_iff.2 hsame)]
      rfl
    · rw [if_neg hsame, if_neg (mt QName.same_iff.1 hsame)]
  entries := by
    rw [standing_freed, ← h.entries]
    exact (obeys r).deregister key |>.2

/-- A call that ends well adds to the log what it did; one that fails leaves both as they were. -/
theorem LoggedBy.advance (h : r.LoggedBy log) (call : Call) :
    (Registry.advance (r, log) call).1.LoggedBy (Registry.advance (r, log) call).2 := by
  cases call with
  | register key d =>
      rw [Registry.advance, perform]
      rcases hresult : r.register key d with ⟨r', fault | ⟨⟩⟩
      · obtain ⟨rfl, -⟩ := registerKeys_eq_error.1 hresult
        exact h
      · obtain ⟨hfree, rfl⟩ := registerKeys_eq_ok.1 hresult
        exact h.set (hfree key List.mem_cons_self)
  | registerType d =>
      rw [Registry.advance, perform]
      rcases hresult : r.registerType d with ⟨r', fault | ⟨⟩⟩
      · obtain ⟨rfl, -⟩ := registerType_eq_error.1 hresult
        exact h
      · obtain ⟨-, hfree, rfl⟩ := registerType_eq_ok_iff.1 hresult
        have hall := h.setAll (d := d) hfree (nodup_keysOf d)
        rwa [keysOf_eq] at hall ⊢
  | deregister key => exact h.deregister key

end Log

/-- Whatever calls are made on an empty registry, and whichever of them fail: its keys differ, what
it holds under a key is the only registration of it since it was last given up, and its entries are
the registrations that stand, in their order. On the registry that is reached each call does what is
said of it. -/
theorem run_of_empty (fallback : Option TypeDescriptor) (calls : List Call) :
    let reached := run ⟨OrderedTable.empty, fallback⟩ calls
    reached.1.LoggedBy reached.2 ∧ reached.1.Obeys := by
  refine ⟨?_, obeys _⟩
  have hrun : ∀ state : Registry × List Event, state.1.LoggedBy state.2 →
      (calls.foldl advance state).1.LoggedBy (calls.foldl advance state).2 := by
    induction calls with
    | nil => exact fun _ h => h
    | cons call calls ih => exact fun state h => ih _ (LoggedBy.advance h call)
  exact hrun _ (loggedBy_empty fallback)

end Registry

end XmlBinding
