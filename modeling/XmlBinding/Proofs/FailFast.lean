import XmlBinding.Proofs.Collecting

/-!
Stopping at the first fault. A run that stops and a run that collects go the same way up to the
first fault; there the one ends, and what the other does afterwards adds to the end of its list
only. Main statement: the run that stops gives the first of the faults that the other one collects.
-/

namespace XmlBinding

/-- A rule that judges objects alike in both modes, as all those do that look at the object only. -/
def Rule.Steady (rule : Rule) : Prop :=
  ∀ path o, rule.check ⟨.strict, path⟩ o = rule.check ⟨.lax, path⟩ o

/-- Every rule looks at the object only, but for a rule of the caller's that does not. -/
theorem Rule.steady_of_object {rule : Rule}
    (h : ∀ name check, rule = .custom name check →
      ∀ context context' o, check context o = check context' o) : rule.Steady := by
  intro path o
  cases rule with
  | custom name check => exact h name check rfl _ _ o
  | _ => rfl

/-- A suite of rules that judge objects alike in both modes. -/
def Suite.Steady (s : Suite) : Prop :=
  ∀ type, ∀ rule ∈ s.rulesFor type, rule.Steady

theorem Suite.steady_registerAll {rules : List (QName × Rule)}
    (h : ∀ entry ∈ rules, entry.2.Steady) : (Suite.empty.registerAll rules).Steady :=
  Suite.forall_rulesFor_registerAll h

/-- The first of some faults, or a value where there are none. -/
def ValidationFault.firstOr {α : Type} (faults : List ValidationFault) (value : α) :
    Except ValidationFault α :=
  match faults with
  | [] => .ok value
  | fault :: _ => .error fault

/-- A visit that is carried on twice: once all faults are collected, once the first of them ends it.
Where there are none, both come out alike. -/
def Visit.StopsAtFirst (v : Visit) (stopping collecting : Except ValidationFault Visit) : Prop :=
  ∃ v' found, collecting = .ok v' ∧ v'.faults = v.faults ++ found ∧
    stopping = ValidationFault.firstOr found v'

namespace Visit

variable {v : Visit} {r r' : Except ValidationFault Visit}

theorem stopsAtFirst_ok (v : Visit) : v.StopsAtFirst (.ok v) (.ok v) :=
  ⟨v, [], rfl, by simp, rfl⟩

/-- Marking a place as visited finds nothing. -/
theorem StopsAtFirst.of_mark (place : Place)
    (h : StopsAtFirst { v with visited := place :: v.visited } r r') : v.StopsAtFirst r r' :=
  h

theorem StopsAtFirst.bind {f g : Visit → Except ValidationFault Visit} (h : v.StopsAtFirst r r')
    (next : ∀ v' : Visit, v'.StopsAtFirst (f v') (g v')) : v.StopsAtFirst (r >>= f) (r' >>= g) := by
  obtain ⟨v', found, rfl, hfaults, rfl⟩ := h
  obtain ⟨v'', found', hcollecting, hfaults', hstopping⟩ := next v'
  refine ⟨v'', found ++ found', hcollecting, ?_, ?_⟩
  · rw [hfaults', hfaults, List.append_assoc]
  · -- A fault of the first part has ended the run that stops before the second part.
    cases found with
    | nil => exact hstopping
    | cons fault rest => rfl

theorem stopsAtFirst_apply {rule : Rule} (hrule : rule.Steady) (v : Visit) (path : ObjectPath)
    (o : TypedObject) :
    v.StopsAtFirst (v.apply ⟨.strict, path⟩ rule o) (v.apply ⟨.lax, path⟩ rule o) := by
  rw [apply, apply, hrule path o]
  cases rule.check ⟨.lax, path⟩ o with
  | ok _ => exact stopsAtFirst_ok v
  | error fault => exact ⟨_, [_], rfl, rfl, rfl⟩

theorem stopsAtFirst_foldlM {rules : List Rule} {f g : Visit → Rule → Except ValidationFault Visit}
    (step : ∀ rule ∈ rules, ∀ v : Visit, v.StopsAtFirst (f v rule) (g v rule)) (v : Visit) :
    v.StopsAtFirst (rules.foldlM f v) (rules.foldlM g v) := by
  induction rules generalizing v with
  | nil => exact stopsAtFirst_ok v
  | cons rule rules ih =>
      rw [List.forall_mem_cons] at step
      rw [List.foldlM_cons, List.foldlM_cons]
      exact (step.1 v).bind (ih step.2)

end Visit

theorem Child.stopsAtFirst_each
    {visit visit' : Place → TypedObject → Visit → Except ValidationFault Visit}
    {children : List Child}
    (hvisit : ∀ o, .object o ∈ children → ∀ (place : Place) (v : Visit),
      v.StopsAtFirst (visit place o v) (visit' place o v))
    (place : Place) (index : Nat) (v : Visit) :
    v.StopsAtFirst (Child.each visit place index children v)
      (Child.each visit' place index children v) := by
  induction children generalizing index v with
  | nil => exact Visit.stopsAtFirst_ok v
  | cons c cs ih =>
      have hrest := ih fun o ho => hvisit o (List.mem_cons_of_mem c ho)
      cases c with
      | text value => exact hrest (index + 1) v
      | object o => exact (hvisit o List.mem_cons_self _ v).bind (hrest (index + 1))

namespace TypedObject

variable {s : Suite}

/-- The rules of an object, with all that they hand on. -/
theorem stopsAtFirst_run (hs : s.Steady) (x : TypedObject) (place : Place) (above : ObjectPath)
    (v : Visit) :
    v.StopsAtFirst (x.run s .strict place above v) (x.run s .lax place above v) := by
  induction x generalizing place above v with
  | mk head children ih =>
      rw [TypedObject.run, TypedObject.run]
      by_cases hseen : v.visited.contains place = true
      · rw [if_pos hseen, if_pos hseen]
        exact Visit.stopsAtFirst_ok v
      · rw [if_neg hseen, if_neg hseen]
        apply Visit.StopsAtFirst.of_mark place
        apply Visit.stopsAtFirst_foldlM
        intro rule hrule v
        split
        · rw [Child.runAll_eq_each, Child.runAll_eq_each]
          exact Child.stopsAtFirst_each (fun o ho place v => ih o ho place _ v) place 0 v
        · exact Visit.stopsAtFirst_apply (hs _ rule hrule) v _ _

/-- The walk through a tree. -/
theorem stopsAtFirst_walk (hs : s.Steady) (x : TypedObject) (place : Place) (above : ObjectPath)
    (v : Visit) :
    v.StopsAtFirst (x.walk s .strict place above v) (x.walk s .lax place above v) := by
  induction x generalizing place above v with
  | mk head children ih =>
      rw [TypedObject.walk, TypedObject.walk]
      refine (stopsAtFirst_run hs ⟨head, children⟩ place above v).bind fun v' => ?_
      rw [Child.walkAll_eq_each, Child.walkAll_eq_each]
      exact Child.stopsAtFirst_each (fun o ho place v => ih o ho place _ v) place 0 v'

/-- What ends the rules of the outermost object ends the walk. -/
theorem walk_eq_error {x : TypedObject} {mode : ValidationMode} {place : Place}
    {above : ObjectPath} {v : Visit} {fault : ValidationFault}
    (h : x.run s mode place above v = .error fault) :
    x.walk s mode place above v = .error fault := by
  obtain ⟨head, children⟩ := x
  rw [TypedObject.walk, h]
  rfl

end TypedObject

/-- Validation that stops gives the first fault of all those that can be collected, with its
message, element, attribute and path; it passes if there are none. What the rules of the outermost
object alone stop at, validation of the whole tree stops at. -/
theorem Suite.strict_eq_first_lax {s : Suite} (hs : s.Steady) (x : TypedObject) :
    s.faults .strict x = (s.faults .lax x).take 1 ∧
      s.validateTree x = ValidationFault.firstOr (s.faults .lax x) () ∧
      (s.isValid x = true ↔ s.faults .lax x = []) ∧
      ∀ fault, s.validate x = .error fault → s.validateTree x = .error fault := by
  obtain ⟨v, found, hlax, hfaults, hstrict⟩ := TypedObject.stopsAtFirst_walk hs x [] [] .start
  rw [Visit.start, List.nil_append] at hfaults
  have hfound : s.faults .lax x = found := by
    rw [faults_of_walk (by decide) hlax, hfaults]
  have htree : s.validateTree x = ValidationFault.firstOr found () := by
    rw [validateTree, hstrict]
    cases found <;> rfl
  rw [hfound]
  refine ⟨?_, htree, ?_, fun fault hfault => ?_⟩
  · have hmode : ValidationMode.strict ≠ .skip := by decide
    rw [faults, if_neg hmode, hstrict]
    cases found with
    | nil => exact hfaults
    | cons fault rest => rfl
  · rw [isValid, htree]
    cases found <;> simp [ValidationFault.firstOr, Except.isOk, Except.toBool]
  · rw [validate] at hfault
    rw [validateTree]
    cases hrun : x.run s .strict [] [] .start with
    | ok v => simp [hrun, Except.map] at hfault
    | error fault' =>
        rw [TypedObject.walk_eq_error hrun]
        rwa [hrun] at hfault

/-- A rule that hands the children on, one that looks at an attribute, and one of the caller's. -/
def familyRules : List (QName × Rule) :=
  [(.namespaced "urn:t" "Parent", .validChildren),
    (.namespaced "urn:t" "Parent", .requiredAttribute (.unqualified "id") none),
    (.namespaced "urn:t" "Child",
      .custom "refused" fun _ o => .error ⟨"refused", o.elementName, none, none⟩)]

/-- A parent with two children. -/
def family : TypedObject :=
  let child := (TypeDescriptor.ofName (.namespaced "urn:t" "Child")).build
  ((TypeDescriptor.ofName (.namespaced "urn:t" "Parent")).build.addChild
    (.object child)).addChild (.object child)

theorem family_steady : ∀ entry ∈ familyRules, entry.2.Steady := by
  intro entry hentry
  simp only [familyRules, List.mem_cons, List.not_mem_nil, or_false] at hentry
  apply Rule.steady_of_object
  intro name check hcustom context context' o
  rcases hentry with rfl | rfl | rfl
  · cases hcustom
  · cases hcustom
  · cases hcustom
    rfl

theorem family_first_fault :
    let s := Suite.empty.registerAll familyRules
    s.Steady ∧ (s.faults .lax family).length = 3 ∧
      s.faults .strict family = (s.faults .lax family).take 1 ∧
      s.validateTree family = ValidationFault.firstOr (s.faults .lax family) () ∧
      (s.isValid family = true ↔ s.faults .lax family = []) ∧
      ∀ fault, s.validate family = .error fault → s.validateTree family = .error fault := by
  have hsteady := Suite.steady_registerAll family_steady
  exact ⟨hsteady, by decide, Suite.strict_eq_first_lax hsteady family⟩

end XmlBinding
