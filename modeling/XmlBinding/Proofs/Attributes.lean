import XmlBinding.Proofs.RoundTrip

/-!
The attributes of an object as one map. An object keeps two tables, for the names that its
descriptor models and for all others, and a look-up or a removal stops at the first that has the
name. As no name is ever in both, this is right: after any calls, an attribute is what the last call
about its name has left. Main statement: the calls on an object built from a descriptor.
-/

namespace XmlBinding

namespace ObjectHead

variable {head : ObjectHead}

theorem Routed.attribute?_setAttribute (h : head.Routed) (name other : QName) (value : String) :
    (head.setAttribute name value).attribute? other =
      if name.expanded = other.expanded then some value else head.attribute? other := by
  cases hmodels : head.descriptor.models name with
  | true =>
      rw [ObjectHead.setAttribute, if_pos hmodels, attribute?, OrderedTable.get?_set]
      split
      · rfl
      · rfl
  | false =>
      rw [ObjectHead.setAttribute, if_neg (Bool.eq_false_iff.1 hmodels), attribute?,
        OrderedTable.get?_set]
      split
      -- The look-up goes past the first table, which cannot have the name.
      · next hsame => rw [← hsame, h.attributes_get?_eq_none hmodels, Option.none_or]
      · rfl

/-- A removal that stops at the first table does no less than one from both. -/
theorem Routed.removeAttribute_eq_erase (h : head.Routed) (name : QName) :
    head.removeAttribute name =
      (head.attribute? name,
        { head with
          attributes := head.attributes.erase name.expanded
          unknown := head.unknown.erase name.expanded }) := by
  rw [ObjectHead.removeAttribute, attribute?]
  -- Where the name is in one table, there is nothing to erase in the other.
  cases hvalue : head.attributes.get? name.expanded with
  | some value =>
      have hmodels : head.descriptor.models name = true := by
        by_contra hother
        rw [h.attributes_get?_eq_none (Bool.eq_false_iff.2 hother)] at hvalue
        cases hvalue
      rw [OrderedTable.erase_of_get?_eq_none (h.unknown_get?_eq_none hmodels)]
      rfl
  | none =>
      rw [OrderedTable.erase_of_get?_eq_none hvalue]
      rfl

theorem Routed.attribute?_removeAttribute (h : head.Routed) (name other : QName) :
    (head.removeAttribute name).2.attribute? other =
      if name.expanded = other.expanded then none else head.attribute? other := by
  rw [h.removeAttribute_eq_erase, attribute?, OrderedTable.get?_erase, OrderedTable.get?_erase]
  split
  · rfl
  · rfl

/-- Heads that are alike have the same attributes. -/
theorem attribute?_eq_of_same {head' : ObjectHead} (h : head.same head' = true) (name : QName) :
    head.attribute? name = head'.attribute? name := by
  simp only [same, Bool.and_eq_true, OrderedTable.sameContent_iff] at h
  rw [attribute?, attribute?, h.1.2, h.2]

end ObjectHead

/-! ### Calls -/

inductive AttributeCall where
  | set (name : QName) (value : String)
  | setValue (name : QName) (value : Value)
  | remove (name : QName)

namespace AttributeCall

/-- The name that a call is about. -/
def name : AttributeCall → QName
  | set name _ | setValue name _ | remove name => name

/-- What a call leaves under its name. -/
def left? : AttributeCall → Option String
  | set _ value => some value
  | setValue _ value => some value.write
  | remove _ => none

/-- The object after a call. -/
def on : AttributeCall → TypedObject → TypedObject
  | set name value, o => o.setAttribute name value
  | setValue name value, o => o.setValue name value
  | remove name, o => (o.removeAttribute name).2

/-- What the last call about a name has left under it, whatever the prefix; none if there was no
call about it. -/
def lastLeft? (name : QName) (calls : List AttributeCall) : Option String :=
  (calls.reverse.find? fun call => call.name.same name).bind left?

theorem lastLeft?_append_singleton (name : QName) (calls : List AttributeCall)
    (call : AttributeCall) :
    lastLeft? name (calls ++ [call]) =
      if call.name.expanded = name.expanded then call.left? else lastLeft? name calls :=
  find?_reverse_bind_append_singleton (fun call : AttributeCall => call.name.expanded) left?
    name.expanded calls call

/-- The object after some calls, in order. -/
def runOn (calls : List AttributeCall) (o : TypedObject) : TypedObject :=
  calls.foldl (fun o call => call.on o) o

theorem runOn_append_singleton (calls : List AttributeCall) (call : AttributeCall)
    (o : TypedObject) : runOn (calls ++ [call]) o = call.on (runOn calls o) := by
  rw [runOn, List.foldl_append]
  rfl

/-! ### One call -/

variable {o : TypedObject}

theorem descriptor_on (call : AttributeCall) (o : TypedObject) :
    (call.on o).descriptor = o.descriptor := by
  cases call with
  | set name value => exact ObjectHead.descriptor_setAttribute ..
  | setValue name value => exact ObjectHead.descriptor_setAttribute ..
  | remove name =>
      obtain ⟨_, _, heq⟩ := o.toObjectHead.removeAttribute_eq name
      exact (congrArg ObjectHead.descriptor heq :)

theorem routed_on (h : o.Routed) (call : AttributeCall) : (call.on o).Routed := by
  cases call with
  | set name value => exact h.setAttribute name value
  | setValue name value => exact h.setAttribute name value.write
  | remove name => exact h.removeAttribute name

theorem attribute?_on (h : o.Routed) (call : AttributeCall) (name : QName) :
    (call.on o).attribute? name =
      if call.name.expanded = name.expanded then call.left? else o.attribute? name := by
  cases call with
  | set other value => exact h.attribute?_setAttribute other name value
  | setValue other value => exact h.attribute?_setAttribute other name value.write
  | remove other => exact h.attribute?_removeAttribute other name

/-! ### Many calls, taken at the last one -/

theorem descriptor_runOn (calls : List AttributeCall) (o : TypedObject) :
    (runOn calls o).descriptor = o.descriptor := by
  induction calls using List.reverseRecOn with
  | nil => rfl
  | append_singleton calls call ih => rw [runOn_append_singleton, descriptor_on, ih]

theorem routed_runOn (h : o.Routed) (calls : List AttributeCall) : (runOn calls o).Routed := by
  induction calls using List.reverseRecOn with
  | nil => exact h
  | append_singleton calls call ih => exact runOn_append_singleton calls call o ▸ routed_on ih call

theorem attribute?_runOn (h : o.Routed) (hnone : ∀ name, o.attribute? name = none)
    (calls : List AttributeCall) (name : QName) :
    (runOn calls o).attribute? name = lastLeft? name calls := by
  induction calls using List.reverseRecOn with
  | nil => exact hnone name
  | append_singleton calls call ih =>
      rw [runOn_append_singleton, attribute?_on (routed_runOn h calls), ih,
        lastLeft?_append_singleton]

end AttributeCall

/-! ### The map -/

namespace TypedObject

/-- Every name is in the table where the descriptor wants it, and in no other. -/
structure Parted (o : TypedObject) (d : TypeDescriptor) : Prop where
  descriptor : o.descriptor = d
  modeled : ∀ e ∈ o.attributes.entries, d.models e.1 = true
  others : ∀ e ∈ o.unknown.entries, d.models e.1 = false
  disjoint : ∀ e ∈ o.attributes.entries, ∀ e' ∈ o.unknown.entries, e.1.expanded ≠ e'.1.expanded

/-- A removal hands out the attribute and takes it away; all else stays, in its order. -/
structure Removes (o : TypedObject) (name : QName) (removed : Option String) (o' : TypedObject) :
    Prop where
  removed : removed = o.attribute? name
  absent : o'.attribute? name = none
  kept : ∀ other, name.expanded ≠ other.expanded → o'.attribute? other = o.attribute? other
  modeled : o'.attributes.entries = o.attributes.entries.filter (!·.1.same name)
  others : o'.unknown.entries = o.unknown.entries.filter (!·.1.same name)
  rest : o' = { o with attributes := o'.attributes, unknown := o'.unknown }

variable {o : TypedObject}

theorem parted_of_routed (h : o.Routed) : o.Parted o.descriptor where
  descriptor := rfl
  modeled := h.attributes
  others := h.unknown
  disjoint e he e' he' hsame := by
    have hmodels := h.attributes e he
    rw [TypeDescriptor.models_congr hsame, h.unknown e' he'] at hmodels
    cases hmodels

theorem removes_removeAttribute (h : o.Routed) (name : QName) :
    o.Removes name (o.removeAttribute name).1 (o.removeAttribute name).2 := by
  have herase := h.removeAttribute_eq_erase name
  have hattribute := h.attribute?_removeAttribute name
  rw [removeAttribute]
  exact
    { removed := congrArg Prod.fst herase
      absent := (hattribute name).trans (if_pos rfl)
      kept := fun other hother => (hattribute other).trans (if_neg hother)
      modeled := by rw [herase]; rfl
      others := by rw [herase]; rfl
      rest := by rw [herase] }

/-- An object with an empty attribute is not like the one without the attribute. -/
theorem same_removeAttribute_of_empty (h : o.Routed) (name : QName) :
    (o.setAttribute name "").same (o.removeAttribute name).2 = false := by
  rw [Bool.eq_false_iff]
  intro hsame
  have heq := ObjectHead.attribute?_eq_of_same (TypedObject.same_iff.1 hsame).1 name
  have hset : (o.setAttribute name "").attribute? name = some "" :=
    (h.attribute?_setAttribute name name "").trans (if_pos rfl)
  rw [hset, (removes_removeAttribute h name).absent] at heq
  cases heq

/-- What holds of the attributes of an object after some calls. -/
structure OneMap (o : TypedObject) (d : TypeDescriptor) (calls : List AttributeCall) : Prop where
  parted : o.Parted d
  lookup : ∀ name, o.attribute? name = AttributeCall.lastLeft? name calls
  removal : ∀ name, o.Removes name (o.removeAttribute name).1 (o.removeAttribute name).2
  empty : ∀ name, (o.setAttribute name "").attribute? name = some "" ∧
    (o.setAttribute name "").same (o.removeAttribute name).2 = false

end TypedObject

namespace TypeDescriptor

variable {d : TypeDescriptor} {o : TypedObject}

/-- The objects that are built from a descriptor. -/
inductive Builds (d : TypeDescriptor) : TypedObject → Prop where
  | own : Builds d d.build
  | named (elementName : QName) : Builds d (d.buildNamed elementName)

theorem Builds.descriptor (h : d.Builds o) : o.descriptor = d := by
  cases h <;> rfl

theorem Builds.routed (h : d.Builds o) : o.Routed := by
  cases h <;> exact ⟨nofun, nofun⟩

theorem Builds.attribute? (h : d.Builds o) (name : QName) : o.attribute? name = none := by
  cases h <;> rfl

/-- After any calls on an object that was built from a descriptor, its attributes are one map. -/
theorem Builds.oneMap_runOn (h : d.Builds o) (calls : List AttributeCall) :
    (AttributeCall.runOn calls o).OneMap d calls := by
  have hrouted := AttributeCall.routed_runOn h.routed calls
  have hdescriptor : (AttributeCall.runOn calls o).descriptor = d :=
    (AttributeCall.descriptor_runOn calls o).trans h.descriptor
  exact
    { parted := hdescriptor ▸ TypedObject.parted_of_routed hrouted
      lookup := AttributeCall.attribute?_runOn h.routed h.attribute? calls
      removal := TypedObject.removes_removeAttribute hrouted
      empty := fun name =>
        ⟨(hrouted.attribute?_setAttribute name name "").trans (if_pos rfl),
          TypedObject.same_removeAttribute_of_empty hrouted name⟩ }

/-- An object with a modeled attribute, set twice under two prefixes, and one that is not modeled,
set to the empty text. -/
theorem oneMap_thing :
    let d := (ofName (.namespaced "urn:test" "Thing")).withAttribute (.namespaced "urn:a" "name")
      .string
    let calls : List AttributeCall := [.set (.prefixed "urn:a" "name" "a") "first",
      .set (.unqualified "extra") "", .set (.prefixed "urn:a" "name" "b") "second"]
    let o := AttributeCall.runOn calls d.build
    d.Builds d.build ∧ o.OneMap d calls ∧
      o.attribute? (.namespaced "urn:a" "name") = some "second" ∧
      o.attribute? (.unqualified "extra") = some "" :=
  ⟨.own, Builds.oneMap_runOn .own _, by decide, by decide⟩

end TypeDescriptor

end XmlBinding
