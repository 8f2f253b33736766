import Mathlib.Logic.Relation
import XmlBinding.Proofs.Collecting

/-!
Validation as judgment. The places that a run has visited spare it work that was done before, and
no more: a judgment that keeps no such places, but has the child objects judged anew by each rule
that hands them on, comes to the same result. It ends well exactly if every check passes on all
objects that are handed on, one by the rules of the other, from the outermost one; and it depends on
the rules of their types only, whatever their order.
-/

namespace XmlBinding

/-! ### Judgments -/

/-- What a rule says of an object that it checks itself. -/
def Rule.verdict (rule : Rule) (path : ObjectPath) (o : TypedObject) :
    Except ValidationFault Unit :=
  match rule.fault? ⟨.strict, path⟩ o with
  | some fault => .error fault
  | none => .ok ()

mutual

/-- The rules of an object one after the other, up to the first fault. -/
def TypedObject.judge (s : Suite) (above : ObjectPath) : TypedObject → Except ValidationFault Unit
  | ⟨head, children⟩ =>
      let path := above ++ [head.elementName.prefixedName]
      (s.rulesFor head.descriptor.name).forM fun rule =>
        if rule.delegates then Child.judgeAll s path children
        else rule.verdict path ⟨head, children⟩
termination_by structural o => o

def Child.judge (s : Suite) (above : ObjectPath) : Child → Except ValidationFault Unit
  | .text _ => .ok ()
  | .object o => TypedObject.judge s above o
termination_by structural c => c

def Child.judgeAll (s : Suite) (above : ObjectPath) : List Child → Except ValidationFault Unit
  | [] => .ok ()
  | child :: children => do
      Child.judge s above child
      Child.judgeAll s above children
termination_by structural cs => cs

end

section Verdicts

variable {rule : Rule} {path : ObjectPath} {o : TypedObject} {fault : ValidationFault}

theorem Rule.verdict_eq_ok :
    rule.verdict path o = .ok () ↔ rule.check ⟨.strict, path⟩ o = .ok () := by
  rw [verdict, fault?]
  cases rule.check ⟨.strict, path⟩ o <;> simp

theorem Rule.verdict_eq_error :
    rule.verdict path o = .error fault ↔ rule.fault? ⟨.strict, path⟩ o = some fault := by
  rw [verdict]
  cases rule.fault? ⟨.strict, path⟩ o <;> simp

end Verdicts

theorem Child.judgeAll_eq_forM (s : Suite) (above : ObjectPath) (children : List Child) :
    Child.judgeAll s above children = children.forM (Child.judge s above) := by
  induction children with
  | nil =>
      rw [Child.judgeAll]
      rfl
  | cons c cs ih =>
      rw [Child.judgeAll, ih]
      rfl

/-! ### Runs and judgments -/

namespace Visit

/-- Neither a place nor any place below it was visited. -/
def Untouched (v : Visit) (place : Place) : Prop :=
  ∀ seen ∈ v.visited, ¬place <:+ seen

/-- What is visited more is at a place or below it. -/
structure GrowsBelow (v v' : Visit) (place : Place) : Prop where
  kept : v.visited ⊆ v'.visited
  added : ∀ seen ∈ v'.visited, seen ∈ v.visited ∨ place <:+ seen

variable {v v' v'' : Visit} {place : Place} {i j : Nat}

theorem GrowsBelow.refl (v : Visit) (place : Place) : v.GrowsBelow v place :=
  ⟨List.Subset.refl _, fun _ h => .inl h⟩

theorem GrowsBelow.trans (h : v.GrowsBelow v' place) (h' : v'.GrowsBelow v'' place) :
    v.GrowsBelow v'' place where
  kept := List.Subset.trans h.kept h'.kept
  added seen hseen := by
    rcases h'.added seen hseen with hold | hbelow
    · exact h.added seen hold
    · exact .inr hbelow

theorem GrowsBelow.of_child (h : v.GrowsBelow v' (i :: place)) : v.GrowsBelow v' place where
  kept := h.kept
  added seen hseen := (h.added seen hseen).imp_right (List.suffix_cons i place).trans

/-- What is visited below an object that was marked is visited at or below the object, and the
object is. -/
theorem GrowsBelow.of_mark
    (h : GrowsBelow { v with visited := place :: v.visited } v' place) :
    v.GrowsBelow v' place ∧ place ∈ v'.visited := by
  obtain ⟨hkept, hadded⟩ := h
  refine ⟨⟨fun seen hseen => hkept (List.mem_cons_of_mem place hseen), fun seen hseen => ?_⟩,
    hkept List.mem_cons_self⟩
  rcases hadded seen hseen with hold | hbelow
  · rcases List.mem_cons.1 hold with rfl | hold
    · exact .inr (List.suffix_refl seen)
    · exact .inl hold
  · exact .inr hbelow

/-- What is visited below one child leaves the others untouched. -/
theorem Untouched.of_growsBelow (hj : v.Untouched (j :: place))
    (h : v.GrowsBelow v' (i :: place)) (hne : i ≠ j) : v'.Untouched (j :: place) := by
  intro seen hseen hbelow
  rcases h.added seen hseen with hold | hother
  · exact hj seen hold hbelow
  · exact hne (Place.index_eq hother hbelow)

/-- Marking an object leaves what is below it untouched. -/
theorem Untouched.child_of_mark (h : v.Untouched place) (i : Nat) :
    Untouched { v with visited := place :: v.visited } (i :: place) := by
  intro seen hseen hbelow
  rcases List.mem_cons.1 hseen with rfl | hold
  · exact absurd hbelow.length_le (by simp)
  · exact h seen hold ((List.suffix_cons i place).trans hbelow)

/-- A part of a run that comes to what was judged. If it goes on, something is known of the visit
afterwards. -/
inductive Renders (post : Visit → Prop) :
    Except ValidationFault Visit → Except ValidationFault Unit → Prop where
  | passed {v : Visit} (h : post v) : Renders post (.ok v) (.ok ())
  | failed (fault : ValidationFault) : Renders post (.error fault) (.error fault)

variable {post post' : Visit → Prop} {r : Except ValidationFault Visit}
  {judged judged' : Except ValidationFault Unit}

theorem Renders.mono (h : Renders post r judged)
    (imp : ∀ v, judged = .ok () → post v → post' v) : Renders post' r judged := by
  cases h with
  | passed h => exact .passed (imp _ rfl h)
  | failed fault => exact .failed fault

theorem Renders.bind {f : Visit → Except ValidationFault Visit} (h : Renders post r judged)
    (next : ∀ v, post v → Renders post' (f v) judged') :
    Renders post' (r >>= f) (judged >>= fun _ => judged') := by
  cases h with
  | passed h => exact next _ h
  | failed fault => exact .failed fault

/-- What every step of a run keeps, while it comes to what was judged, the run keeps. -/
theorem renders_foldlM {α : Type} {f : Visit → α → Except ValidationFault Visit}
    {judge : α → Except ValidationFault Unit} {as : List α}
    (step : ∀ a ∈ as, ∀ v, post v → Renders post (f v a) (judge a)) {v : Visit} (start : post v) :
    Renders post (as.foldlM f v) (as.forM judge) := by
  induction as generalizing v with
  | nil => exact .passed start
  | cons a as ih =>
      rw [List.forall_mem_cons] at step
      rw [List.foldlM_cons]
      exact (step.1 v start).bind fun v' hv' => ih step.2 hv'

theorem renders_apply {rule : Rule} {path : ObjectPath} {o : TypedObject} (h : post v) :
    Renders post (v.apply ⟨.strict, path⟩ rule o) (rule.verdict path o) := by
  rw [apply, Rule.verdict, Rule.fault?]
  cases rule.check ⟨.strict, path⟩ o with
  | ok _ => exact .passed h
  | error fault => exact .failed _

/-- The children of an object are handed on as a whole: nothing below it is visited yet, or all of
them are, and they have passed. -/
def HandsWhole (v : Visit) (place : Place) (children : List Child)
    (judged : Except ValidationFault Unit) : Prop :=
  (∀ i, v.Untouched (i :: place)) ∨
    judged = .ok () ∧ ∀ i o, children[i]? = some (.object o) → i :: place ∈ v.visited

end Visit

open Visit

/-- Child objects that are untouched are visited one after the other; each is judged once. -/
theorem Child.renders_each {s : Suite} {path : ObjectPath} {place : Place}
    {visit : Place → TypedObject → Visit → Except ValidationFault Visit} {children : List Child}
    (hvisit : ∀ o, .object o ∈ children → ∀ (place : Place) (v : Visit), v.Untouched place →
      Renders (fun v' => v.GrowsBelow v' place ∧ place ∈ v'.visited) (visit place o v)
        (o.judge s path))
    {index : Nat} {v : Visit} (hfresh : ∀ i, index ≤ i → v.Untouched (i :: place)) :
    Renders (fun v' => v.GrowsBelow v' place ∧
        ∀ i o, children[i]? = some (.object o) → (index + i) :: place ∈ v'.visited)
      (Child.each visit place index children v) (children.forM (Child.judge s path)) := by
  induction children generalizing index v with
  | nil => exact .passed ⟨.refl v place, nofun⟩
  | cons c cs ih =>
      have hrest {v : Visit} (hfresh : ∀ i, index + 1 ≤ i → v.Untouched (i :: place)) :=
        ih (fun o ho => hvisit o (List.mem_cons_of_mem c ho)) hfresh
      cases c with
      | text value =>
          refine (hrest fun i hi => hfresh i (Nat.le_of_succ_le hi)).mono ?_
          rintro v' - ⟨hgrows, hcovered⟩
          refine ⟨hgrows, fun i o hc => ?_⟩
          cases i with
          | zero => cases hc
          | succ i => exact Nat.add_right_comm index i 1 ▸ hcovered i o hc
      | object o =>
          refine (hvisit o List.mem_cons_self _ v (hfresh index (Nat.le_refl _))).bind ?_
          rintro v' ⟨hgrows, hself⟩
          have hfresh' : ∀ i, index + 1 ≤ i → v'.Untouched (i :: place) := fun i hi =>
            (hfresh i (Nat.le_of_succ_le hi)).of_growsBelow hgrows (Nat.ne_of_lt hi)
          refine (hrest hfresh').mono ?_
          rintro v'' - ⟨hgrows', hcovered⟩
          refine ⟨hgrows.of_child.trans hgrows', fun i o' hc => ?_⟩
          cases i with
          | zero => exact hgrows'.kept hself
          | succ i => exact Nat.add_right_comm index i 1 ▸ hcovered i o' hc

/-- Child objects that were visited before are passed over. -/
theorem Child.each_of_visited {visit : Place → TypedObject → Visit → Except ValidationFault Visit}
    {place : Place} {children : List Child} {v : Visit}
    (hvisit : ∀ place o, place ∈ v.visited → visit place o v = .ok v) {index : Nat}
    (h : ∀ i o, children[i]? = some (.object o) → (index + i) :: place ∈ v.visited) :
    Child.each visit place index children v = .ok v := by
  induction children generalizing index with
  | nil => rfl
  | cons c cs ih =>
      have hrest : Child.each visit place (index + 1) cs v = .ok v := by
        refine ih fun i o hc => ?_
        have hvisited := h (i + 1) o hc
        rwa [← Nat.add_assoc, Nat.add_right_comm] at hvisited
      cases c with
      | text value => exact hrest
      | object o =>
          have hself : visit (index :: place) o v = .ok v := hvisit _ o (h 0 o rfl)
          rw [Child.each, hself]
          exact hrest

theorem TypedObject.run_of_visited {s : Suite} {mode : ValidationMode} {x : TypedObject}
    {place : Place} {above : ObjectPath} {v : Visit} (h : place ∈ v.visited) :
    x.run s mode place above v = .ok v := by
  obtain ⟨head, children⟩ := x
  rw [TypedObject.run, if_pos (by simpa using h)]

/-- A rule that hands the children on comes to what is judged of them. The first such rule finds
them untouched, the others find them done. -/
theorem Child.renders_runAll {s : Suite} {path : ObjectPath} {place : Place} {children : List Child}
    (hrun : ∀ o, .object o ∈ children → ∀ (place : Place) (v : Visit), v.Untouched place →
      Renders (fun v' => v.GrowsBelow v' place ∧ place ∈ v'.visited)
        (o.run s .strict place path v) (o.judge s path))
    {v : Visit} (h : v.HandsWhole place children (Child.judgeAll s path children)) :
    Renders (fun v' => v.GrowsBelow v' place ∧
        v'.HandsWhole place children (Child.judgeAll s path children))
      (Child.runAll s .strict place path 0 children v) (Child.judgeAll s path children) := by
  rw [Child.runAll_eq_each]
  rcases h with hfresh | ⟨hjudged, hdone⟩
  · have heach := Child.renders_each hrun fun i (_ : 0 ≤ i) => hfresh i
    rw [← Child.judgeAll_eq_forM] at heach
    refine heach.mono fun v' hjudged => ?_
    rintro ⟨hgrows, hcovered⟩
    exact ⟨hgrows, .inr ⟨hjudged, fun i o hc => Nat.zero_add i ▸ hcovered i o hc⟩⟩
  · rw [hjudged, Child.each_of_visited (fun _ _ => TypedObject.run_of_visited)
      fun i o hc => (Nat.zero_add i).symm ▸ hdone i o hc]
    exact .passed ⟨.refl v place, .inr ⟨rfl, hdone⟩⟩

/-- A run that comes to an object for the first time comes to what is judged of it. -/
theorem TypedObject.renders_run (s : Suite) (x : TypedObject) (place : Place)
    (above : ObjectPath) {v : Visit} (h : v.Untouched place) :
    Renders (fun v' => v.GrowsBelow v' place ∧ place ∈ v'.visited)
      (x.run s .strict place above v) (x.judge s above) := by
  induction x generalizing place above v with
  | mk head children ih =>
      have hnew : place ∉ v.visited := fun hmem => h place hmem (List.suffix_refl place)
      rw [TypedObject.run, if_neg (by simpa using hnew), TypedObject.judge]
      let path : ObjectPath := above ++ [head.elementName.prefixedName]
      let marked : Visit := { v with visited := place :: v.visited }
      let inv (v' : Visit) : Prop := marked.GrowsBelow v' place ∧
        v'.HandsWhole place children (Child.judgeAll s path children)
      have step : ∀ rule ∈ s.rulesFor head.descriptor.name, ∀ v', inv v' →
          Renders inv
            (if rule.delegates then Child.runAll s .strict place path 0 children v'
              else v'.apply ⟨.strict, path⟩ rule ⟨head, children⟩)
            (if rule.delegates then Child.judgeAll s path children
              else rule.verdict path ⟨head, children⟩) := by
        intro rule _ v' hv'
        cases rule.delegates with
        | true =>
            have hhand := Child.renders_runAll (fun o ho place _ hv => ih o ho place path hv) hv'.2
            exact hhand.mono fun v'' _ hv'' => ⟨hv'.1.trans hv''.1, hv''.2⟩
        | false => exact renders_apply hv'
      have start : inv marked := ⟨.refl marked place, .inl h.child_of_mark⟩
      exact (renders_foldlM step start).mono fun v' _ hv' => hv'.1.of_mark

/-- Validation is judgment: the visited places spare work only. -/
theorem Suite.validate_eq_judge (s : Suite) (x : TypedObject) : s.validate x = x.judge s [] := by
  have huntouched : Visit.start.Untouched [] := nofun
  have hrenders := TypedObject.renders_run s x [] [] huntouched
  rw [validate]
  generalize x.run s .strict [] [] .start = r at hrenders ⊢
  generalize x.judge s [] = judged at hrenders ⊢
  cases hrenders <;> rfl

/-! ### What is handed on -/

/-- An object at a place, with the names above it. -/
def TypedObject.site (place : Place) (above : ObjectPath) (x : TypedObject) : Site :=
  ⟨place, above ++ [x.elementName.prefixedName], x⟩

namespace Suite

/-- Whether a rule for a type hands the child objects on. -/
def Delegates (s : Suite) (type : QName) : Prop :=
  ∃ rule ∈ s.rulesFor type, rule.delegates = true

instance (s : Suite) (type : QName) : Decidable (s.Delegates type) :=
  inferInstanceAs (Decidable (∃ rule ∈ s.rulesFor type, rule.delegates = true))

/-- From an object whose type has such a rule to any of its child objects. -/
inductive HandsOn (s : Suite) (site : Site) : Site → Prop where
  | child {i : Nat} {o : TypedObject} (delegates : s.Delegates site.object.descriptor.name)
      (found : site.object.children[i]? = some (.object o)) :
      HandsOn s site (o.site (i :: site.place) site.path)

/-- The objects handed on from one: it itself and, with each of them whose type has a rule that
hands child objects on, all its child objects. -/
def Reaches (s : Suite) : Site → Site → Prop :=
  Relation.ReflTransGen s.HandsOn

/-- Every rule that checks something passes on an object. -/
def Passes (s : Suite) (site : Site) : Prop :=
  ∀ rule ∈ s.checksFor site.object.descriptor.name,
    rule.check ⟨.strict, site.path⟩ site.object = .ok ()

variable {s s' : Suite} {x o : TypedObject} {place : Place} {above : ObjectPath} {site : Site}
  {i : Nat}

theorem Reaches.of_child
    (h : s.Reaches (o.site (i :: place) (above ++ [x.elementName.prefixedName])) site)
    (delegates : s.Delegates x.descriptor.name) (found : x.children[i]? = some (.object o)) :
    s.Reaches (x.site place above) site := by
  have hstep : s.HandsOn (x.site place above)
      (o.site (i :: place) (above ++ [x.elementName.prefixedName])) := .child delegates found
  exact Relation.ReflTransGen.head hstep h

/-- What is handed on is the object itself and, if its type has a rule for that, whatever is handed
on from its child objects. -/
theorem reaches_iff : s.Reaches (x.site place above) site ↔
    site = x.site place above ∨ s.Delegates x.descriptor.name ∧
      ∃ (i : Nat) (o : TypedObject), x.children[i]? = some (.object o) ∧
        s.Reaches (o.site (i :: place) (above ++ [x.elementName.prefixedName])) site := by
  constructor
  · intro h
    rcases Relation.ReflTransGen.cases_head h with heq | ⟨_, ⟨delegates, found⟩, hrest⟩
    · exact .inl heq.symm
    · exact .inr ⟨delegates, _, _, found, hrest⟩
  · rintro (rfl | ⟨delegates, i, o, found, h⟩)
    · exact .refl
    · exact h.of_child delegates found

theorem forall_reaches {P : Site → Prop} :
    (∀ site, s.Reaches (x.site place above) site → P site) ↔
      P (x.site place above) ∧ (s.Delegates x.descriptor.name →
        ∀ (i : Nat) (o : TypedObject), x.children[i]? = some (.object o) → ∀ site,
          s.Reaches (o.site (i :: place) (above ++ [x.elementName.prefixedName])) site →
            P site) := by
  refine ⟨fun h => ⟨h _ .refl, fun delegates i o found site hsite => ?_⟩, ?_⟩
  · exact h site (hsite.of_child delegates found)
  · rintro ⟨hself, hbelow⟩ site hsite
    rcases reaches_iff.1 hsite with rfl | ⟨delegates, i, o, found, hrest⟩
    · exact hself
    · exact hbelow delegates i o found site hrest

end Suite

section Closure

variable {s : Suite} {x : TypedObject} {above : ObjectPath} {fault : ValidationFault}

theorem Child.judgeAll_eq_ok {children : List Child} :
    Child.judgeAll s above children = .ok () ↔
      ∀ (i : Nat) (o : TypedObject), children[i]? = some (.object o) →
        o.judge s above = .ok () := by
  rw [Child.judgeAll_eq_forM, forM_eq_ok]
  refine ⟨fun h i o hc => ?_, fun h c hc => ?_⟩
  · have hjudged := h _ (List.mem_of_getElem? hc)
    rwa [Child.judge] at hjudged
  · cases c with
    | text value => rw [Child.judge]
    | object o =>
        obtain ⟨i, hi⟩ := List.getElem?_of_mem hc
        rw [Child.judge]
        exact h i o hi

/-- Children that are judged alike, one by one, are judged alike. -/
theorem Child.judgeAll_congr {children children' : List Child}
    (h : children.map (Child.judge s above) = children'.map (Child.judge s above)) :
    Child.judgeAll s above children = Child.judgeAll s above children' := by
  have hmap (cs : List Child) :
      Child.judgeAll s above cs = forM (cs.map (Child.judge s above)) id := by
    rw [List.forM_map, Child.judgeAll_eq_forM]
    rfl
  rw [hmap, hmap, h]

theorem Child.exists_of_judgeAll_eq_error {children : List Child}
    (h : Child.judgeAll s above children = .error fault) :
    ∃ (i : Nat) (o : TypedObject), children[i]? = some (.object o) ∧
      o.judge s above = .error fault := by
  rw [Child.judgeAll_eq_forM] at h
  obtain ⟨c, hc, h⟩ := exists_of_forM_eq_error h
  cases c with
  | text value =>
      rw [Child.judge] at h
      cases h
  | object o =>
      obtain ⟨i, hi⟩ := List.getElem?_of_mem hc
      rw [Child.judge] at h
      exact ⟨i, o, hi, h⟩

/-- An object is judged well if its checks pass and, where its children are handed on, they are
judged well. -/
theorem TypedObject.judge_eq_ok_iff (place : Place) : x.judge s above = .ok () ↔
    s.Passes (x.site place above) ∧ (s.Delegates x.descriptor.name →
      ∀ (i : Nat) (o : TypedObject), x.children[i]? = some (.object o) →
        o.judge s (above ++ [x.elementName.prefixedName]) = .ok ()) := by
  obtain ⟨head, children⟩ := x
  rw [TypedObject.judge, forM_eq_ok]
  constructor
  · intro h
    refine ⟨fun rule hrule => ?_, ?_⟩
    · rw [Suite.checksFor, List.mem_filter, Bool.not_eq_true'] at hrule
      have hverdict := h rule hrule.1
      rwa [hrule.2, if_neg Bool.false_ne_true, Rule.verdict_eq_ok] at hverdict
    · rintro ⟨rule, hrule, hdelegates⟩
      have hjudged := h rule hrule
      rwa [hdelegates, if_pos rfl, Child.judgeAll_eq_ok] at hjudged
  · rintro ⟨hpasses, hbelow⟩ rule hrule
    cases hdelegates : rule.delegates with
    | true => exact Child.judgeAll_eq_ok.2 (hbelow ⟨rule, hrule, hdelegates⟩)
    | false =>
        exact Rule.verdict_eq_ok.2 (hpasses rule (List.mem_filter.2 ⟨hrule, by simp [hdelegates]⟩))

/-- An object is judged well exactly if all that is handed on from it passes its checks. -/
theorem TypedObject.judge_eq_ok (s : Suite) (x : TypedObject) (place : Place) (above : ObjectPath) :
    x.judge s above = .ok () ↔
      ∀ site, s.Reaches (x.site place above) site → s.Passes site := by
  induction x generalizing place above with
  | mk head children ih =>
      rw [TypedObject.judge_eq_ok_iff place, Suite.forall_reaches]
      refine and_congr_right fun _ => forall_congr' fun _ => forall_congr' fun i => ?_
      refine forall_congr' fun o => forall_congr' fun found => ?_
      exact ih o (List.mem_of_getElem? found) (i :: place) _

/-- The fault that ends a judgment is found by a check of an object that is handed on. -/
theorem TypedObject.exists_of_judge_eq_error (s : Suite) (x : TypedObject) (place : Place)
    (above : ObjectPath) (h : x.judge s above = .error fault) :
    ∃ site, s.Reaches (x.site place above) site ∧
      ∃ rule ∈ s.checksFor site.object.descriptor.name,
        rule.fault? ⟨.strict, site.path⟩ site.object = some fault := by
  induction x generalizing place above with
  | mk head children ih =>
      rw [TypedObject.judge] at h
      obtain ⟨rule, hrule, h⟩ := exists_of_forM_eq_error h
      cases hdelegates : rule.delegates with
      | true =>
          rw [hdelegates, if_pos rfl] at h
          obtain ⟨i, o, found, h⟩ := Child.exists_of_judgeAll_eq_error h
          obtain ⟨site, hsite, hfault⟩ := ih o (List.mem_of_getElem? found) (i :: place) _ h
          exact ⟨site, hsite.of_child ⟨rule, hrule, hdelegates⟩ found, hfault⟩
      | false =>
          rw [hdelegates, if_neg Bool.false_ne_true, Rule.verdict_eq_error] at h
          exact ⟨_, .refl, rule, List.mem_filter.2 ⟨hrule, by simp [hdelegates]⟩, h⟩

end Closure

/-! ### Which rules count -/

namespace Suite

/-- Suites with the same rules for a type, in whatever order and however often each. -/
def AgreesOn (s s' : Suite) (type : QName) : Prop :=
  ∀ rule, rule ∈ s'.rulesFor type ↔ rule ∈ s.rulesFor type

variable {s s' : Suite} {type : QName} {start site : Site}

theorem AgreesOn.delegates_iff (h : s.AgreesOn s' type) : s'.Delegates type ↔ s.Delegates type :=
  exists_congr fun rule => and_congr_left fun _ => h rule

theorem AgreesOn.passes_iff (h : s.AgreesOn s' site.object.descriptor.name) :
    s'.Passes site ↔ s.Passes site := by
  refine forall_congr' fun rule => ?_
  rw [checksFor, checksFor, List.mem_filter, List.mem_filter, h rule]

/-- Suites that agree on all that the one hands on hand on the same objects. -/
theorem reaches_iff_of_agreesOn
    (h : ∀ site, s.Reaches start site → s.AgreesOn s' site.object.descriptor.name) :
    s'.Reaches start site ↔ s.Reaches start site := by
  constructor
  · intro hreaches
    induction hreaches with
    | refl => exact .refl
    | @tail middle _ _ hstep ih =>
        obtain ⟨delegates, found⟩ := hstep
        exact ih.tail (.child ((h middle ih).delegates_iff.1 delegates) found)
  · intro hreaches
    induction hreaches with
    | refl => exact .refl
    | @tail middle _ hbefore hstep ih =>
        obtain ⟨delegates, found⟩ := hstep
        exact ih.tail (.child ((h middle hbefore).delegates_iff.2 delegates) found)

end Suite

end XmlBinding
