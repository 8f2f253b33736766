import XmlBinding.Proofs.Delegation

/-!
What validation of an object looks at. Cut back to the objects that its rules hand on, a tree says
nearly all that matters: of what was cut away a check sees child objects by their number, and only a
rule of the caller's can see more. Main statement: validation passes exactly if every check passes
on all objects that are handed on, and comes to the same for trees that are the same when cut back,
if their checks see the same.
-/

namespace XmlBinding

/-! ### A tree cut back to what is handed on -/

mutual

/-- A tree without the objects that no rule hands on. The texts around them stay. -/
def TypedObject.handedOn (s : Suite) : TypedObject → TypedObject
  | ⟨head, children⟩ =>
      ⟨head, if s.Delegates head.descriptor.name then Child.handedOnAll s children
        else children.filter fun child => child.object?.isNone⟩
termination_by structural o => o

def Child.handedOn (s : Suite) : Child → Child
  | .text value => .text value
  | .object o => .object (TypedObject.handedOn s o)
termination_by structural c => c

def Child.handedOnAll (s : Suite) : List Child → List Child
  | [] => []
  | child :: children => Child.handedOn s child :: Child.handedOnAll s children
termination_by structural cs => cs

end

/-- Whether a rule sees the same in the child objects of two objects: as many of the name that it
counts, or, if the rule is one of the caller's, whatever it looks for. The others look at none. -/
def Rule.SeesSame (rule : Rule) (path : ObjectPath) (o o' : TypedObject) : Prop :=
  match rule with
  | .childCount child _ _ => (o'.findAll child).length = (o.findAll child).length
  | .custom _ check => check ⟨.strict, path⟩ o' = check ⟨.strict, path⟩ o
  | _ => True

/-- The checks of the objects that are handed on see the same from two objects on, place by
place. -/
def Suite.SeesSame (s : Suite) (start start' : Site) : Prop :=
  ∀ site site', s.Reaches start site → s.Reaches start' site' → site'.place = site.place →
    ∀ rule ∈ s.checksFor site.object.descriptor.name,
      rule.SeesSame site.path site.object site'.object

theorem Child.handedOnAll_eq_map (s : Suite) (children : List Child) :
    Child.handedOnAll s children = children.map (Child.handedOn s) := by
  induction children with
  | nil => rw [Child.handedOnAll, List.map_nil]
  | cons c cs ih => rw [Child.handedOnAll, ih, List.map_cons]

/-- Lists that one function does not tell apart are not told apart by another one that tells apart
no more. -/
theorem map_eq_of_map_eq {α β γ : Type} {f : α → β} {g : α → γ} {as as' : List α}
    (h : as'.map f = as.map f)
    (imp : ∀ (i : Nat) (a a' : α), as[i]? = some a → as'[i]? = some a' → f a' = f a → g a' = g a) :
    as'.map g = as.map g := by
  refine List.ext_getElem? fun i => ?_
  have hi : (as'.map f)[i]? = (as.map f)[i]? := congrArg (·[i]?) h
  rw [List.getElem?_map, List.getElem?_map] at hi ⊢
  cases ha : as[i]? with
  | none =>
      rw [ha, Option.map_none, Option.map_eq_none_iff] at hi
      rw [hi]
  | some a =>
      rw [ha, Option.map_some, Option.map_eq_some_iff] at hi
      obtain ⟨a', ha', hf⟩ := hi
      rw [ha', Option.map_some, Option.map_some, imp i a a' ha ha' hf]

section HandedOn

variable {s : Suite} {x x' o o' : TypedObject} {place : Place} {above : ObjectPath}

@[simp] theorem TypedObject.toObjectHead_handedOn (s : Suite) (x : TypedObject) :
    (x.handedOn s).toObjectHead = x.toObjectHead := by
  obtain ⟨head, children⟩ := x
  rw [TypedObject.handedOn]

@[simp] theorem TypedObject.text?_handedOn (s : Suite) (x : TypedObject) :
    (x.handedOn s).text? = x.text? := by
  have htexts :
      (x.handedOn s).children.filterMap Child.text? = x.children.filterMap Child.text? := by
    obtain ⟨head, children⟩ := x
    rw [TypedObject.handedOn]
    split
    · rw [Child.handedOnAll_eq_map, List.filterMap_map]
      refine List.filterMap_congr fun c _ => ?_
      cases c <;> rfl
    · rw [List.filterMap_filter]
      refine List.filterMap_congr fun c _ => ?_
      cases c <;> rfl
  rw [TypedObject.text?, htexts, TypedObject.text?]

theorem TypedObject.handedOn_children (delegates : s.Delegates x.descriptor.name) :
    (x.handedOn s).children = x.children.map (Child.handedOn s) := by
  obtain ⟨head, children⟩ := x
  rw [TypedObject.handedOn, if_pos delegates, Child.handedOnAll_eq_map]

/-- A child in one tree is an object if the child in the other is one, and both are alike in what is
handed on. -/
theorem Child.eq_object_of_handedOn {c : Child} (h : c.handedOn s = Child.handedOn s (.object o)) :
    ∃ o', c = .object o' ∧ o'.handedOn s = o.handedOn s := by
  cases c with
  | text value => simp [Child.handedOn] at h
  | object o' =>
      rw [Child.handedOn, Child.handedOn, Child.object.injEq] at h
      exact ⟨o', rfl, h⟩

theorem Child.eq_text_of_handedOn {c : Child} {value : String}
    (h : c.handedOn s = Child.handedOn s (.text value)) : c = .text value := by
  cases c with
  | text value' => rwa [Child.handedOn, Child.handedOn] at h
  | object o => simp [Child.handedOn] at h

theorem TypedObject.getElem?_children_handedOn {i : Nat} :
    (x.handedOn s).children[i]? = some (.object o') ↔ s.Delegates x.descriptor.name ∧
      ∃ o, x.children[i]? = some (.object o) ∧ o.handedOn s = o' := by
  obtain ⟨head, children⟩ := x
  rw [TypedObject.handedOn]
  split
  · next delegates =>
      rw [and_iff_right delegates, Child.handedOnAll_eq_map, List.getElem?_map,
        Option.map_eq_some_iff]
      constructor
      · rintro ⟨c, hc, hobject⟩
        cases c with
        | text value => simp [Child.handedOn] at hobject
        | object o =>
            rw [Child.handedOn, Child.object.injEq] at hobject
            exact ⟨o, hc, hobject⟩
      · rintro ⟨o, hc, rfl⟩
        exact ⟨.object o, hc, rfl⟩
  · next keeps =>
      refine ⟨fun h => ?_, fun h => absurd h.1 keeps⟩
      have hmem := List.mem_of_getElem? h
      simp [Child.object?] at hmem

/-- What is left of a tree are the objects that are handed on, each at its place. -/
theorem TypedObject.mem_sites_handedOn {site : Site} :
    site ∈ (x.handedOn s).sites place above ↔ ∃ reached, s.Reaches (x.site place above) reached ∧
      { reached with object := reached.object.handedOn s } = site := by
  induction x generalizing place above with
  | mk head children ih =>
      have hleft : (TypedObject.handedOn s ⟨head, children⟩).sites place above =
          { TypedObject.site place above ⟨head, children⟩ with
            object := TypedObject.handedOn s ⟨head, children⟩ } ::
          Child.sitesAll place (above ++ [head.elementName.prefixedName]) 0
            (TypedObject.handedOn s ⟨head, children⟩).children := by
        rw [TypedObject.handedOn, TypedObject.sites_mk]
        rfl
      simp only [hleft, List.mem_cons, Child.mem_sitesAll, getElem?_children_handedOn, Nat.zero_add]
      constructor
      · rintro (rfl | ⟨i, _, ⟨delegates, o, found, rfl⟩, h⟩)
        · exact ⟨_, .refl, rfl⟩
        · obtain ⟨reached, hreached, rfl⟩ := (ih o (List.mem_of_getElem? found)).1 h
          exact ⟨reached, hreached.of_child delegates found, rfl⟩
      · rintro ⟨reached, hreached, rfl⟩
        rcases Suite.reaches_iff.1 hreached with rfl | ⟨delegates, i, o, found, hrest⟩
        · exact .inl rfl
        · refine .inr ⟨i, _, ⟨delegates, o, found, rfl⟩, ?_⟩
          exact (ih o (List.mem_of_getElem? found)).2 ⟨reached, hrest, rfl⟩

/-- A check tells two objects apart by what they are themselves, by their texts, or by what it sees
in their child objects. -/
theorem Rule.check_of_seesSame {rule : Rule} {path : ObjectPath}
    (hinside : o'.handedOn s = o.handedOn s) (hsees : rule.SeesSame path o o') :
    rule.check ⟨.strict, path⟩ o' = rule.check ⟨.strict, path⟩ o := by
  have hhead : o'.toObjectHead = o.toObjectHead := by
    rw [← TypedObject.toObjectHead_handedOn s o', hinside, TypedObject.toObjectHead_handedOn]
  have htext : o'.text? = o.text? := by
    rw [← TypedObject.text?_handedOn s o', hinside, TypedObject.text?_handedOn]
  cases rule with
  | requiredAttribute attr message => simp only [Rule.check, hhead]
  | requiredText message => simp only [Rule.check, hhead, htext]
  | childCount child min max =>
      have hcount : (o'.findAll child).length = (o.findAll child).length := hsees
      simp only [Rule.check, hhead, hcount]
  | lexicalAttribute attr kind => simp only [Rule.check, hhead]
  | validChildren => rfl
  | custom name check => exact hsees

theorem Rule.verdict_of_seesSame {rule : Rule} {path : ObjectPath}
    (hinside : o'.handedOn s = o.handedOn s) (hsees : rule.SeesSame path o o') :
    rule.verdict path o' = rule.verdict path o := by
  rw [Rule.verdict, Rule.verdict, Rule.fault?, Rule.fault?, Rule.check_of_seesSame hinside hsees]

theorem Suite.SeesSame.of_child {i : Nat}
    (h : s.SeesSame (x.site place above) (x'.site place above))
    (hhead : x'.toObjectHead = x.toObjectHead) (delegates : s.Delegates x.descriptor.name)
    (found : x.children[i]? = some (.object o)) (found' : x'.children[i]? = some (.object o')) :
    s.SeesSame (o.site (i :: place) (above ++ [x.elementName.prefixedName]))
      (o'.site (i :: place) (above ++ [x.elementName.prefixedName])) := by
  intro site site' hsite hsite'
  refine h site site' (hsite.of_child delegates found) ?_
  rw [← hhead] at hsite' delegates
  exact hsite'.of_child delegates found'

/-- Trees with the same objects handed on are judged alike, to the fault that ends the judgment, if
the checks see the same in them. -/
theorem TypedObject.judge_of_seesSame (hinside : x'.handedOn s = x.handedOn s)
    (hsees : s.SeesSame (x.site place above) (x'.site place above)) :
    x'.judge s above = x.judge s above := by
  induction x generalizing x' place above with
  | mk head children ih =>
      obtain ⟨head', children'⟩ := x'
      obtain rfl : head' = head := by
        rw [TypedObject.handedOn, TypedObject.handedOn] at hinside
        exact congrArg TypedObject.toObjectHead hinside
      rw [TypedObject.judge, TypedObject.judge]
      refine forM_congr_of_mem fun rule hrule => ?_
      cases hdelegates : rule.delegates with
      | false =>
          have hmem : rule ∈ s.checksFor head'.descriptor.name :=
            List.mem_filter.2 ⟨hrule, by simp [hdelegates]⟩
          exact Rule.verdict_of_seesSame hinside (hsees _ _ .refl .refl rfl rule hmem)
      | true =>
          have delegates : s.Delegates head'.descriptor.name := ⟨rule, hrule, hdelegates⟩
          have hchildren : children'.map (Child.handedOn s) = children.map (Child.handedOn s) := by
            have h := congrArg TypedObject.children hinside
            rwa [TypedObject.handedOn_children delegates,
              TypedObject.handedOn_children delegates] at h
          refine Child.judgeAll_congr (map_eq_of_map_eq hchildren fun i c c' hc hc' hsame => ?_)
          cases c with
          | text value => rw [Child.eq_text_of_handedOn hsame]
          | object o =>
              obtain ⟨o', rfl, hbelow⟩ := Child.eq_object_of_handedOn hsame
              rw [Child.judge, Child.judge]
              exact ih o (List.mem_of_getElem? hc) hbelow (hsees.of_child rfl delegates hc hc')

end HandedOn

/-- Validation passes exactly if every check passes on every object that is handed on from the
outermost one; a fault is what such a check finds. So nothing depends on where among the rules of a
type the ones that hand objects on stand, how often they are registered, or what rules there are for
other types. Objects that are not handed on count only as far as a check sees them: as children of a
name, or in whatever way a rule of the caller's does. -/
theorem Suite.validate_exactly (s : Suite) (x : TypedObject) :
    (s.validate x = .ok () ↔ ∀ site, s.Reaches (x.site [] []) site → s.Passes site) ∧
    (∀ fault, s.validate x = .error fault → ∃ site, s.Reaches (x.site [] []) site ∧
      ∃ rule ∈ s.checksFor site.object.descriptor.name,
        rule.fault? ⟨.strict, site.path⟩ site.object = some fault) ∧
    (∀ s' : Suite,
      (∀ site, s.Reaches (x.site [] []) site → s.AgreesOn s' site.object.descriptor.name) →
        (s'.validate x = .ok () ↔ s.validate x = .ok ())) ∧
    (∀ site, site ∈ (x.handedOn s).sites [] [] ↔ ∃ reached, s.Reaches (x.site [] []) reached ∧
      { reached with object := reached.object.handedOn s } = site) ∧
    (∀ x' : TypedObject, x'.handedOn s = x.handedOn s →
      s.SeesSame (x.site [] []) (x'.site [] []) → s.validate x' = s.validate x) := by
  have hok (s : Suite) := TypedObject.judge_eq_ok s x [] []
  simp only [Suite.validate_eq_judge, hok]
  refine ⟨trivial, fun fault => TypedObject.exists_of_judge_eq_error s x [] [], ?_,
    fun site => TypedObject.mem_sites_handedOn, ?_⟩
  · intro s' hagree
    refine forall_congr' fun site => ?_
    rw [reaches_iff_of_agreesOn hagree]
    exact forall_congr' fun hsite => (hagree site hsite).passes_iff
  · intro x' hinside hsees
    exact TypedObject.judge_of_seesSame hinside hsees

/-! ### Orders whose lines have remarks -/

def orderName : QName := .namespaced "urn:t" "Order"

def lineName : QName := .namespaced "urn:t" "Line"

def remarkName : QName := .namespaced "urn:t" "Remark"

/-- A line with an object below it. -/
def orderLine (below : TypedObject) : TypedObject :=
  (TypeDescriptor.ofName lineName).build.addChild (.object below)

def order (below : TypedObject) : TypedObject :=
  (TypeDescriptor.ofName orderName).build.addChild (.object (orderLine below))

def emptyRemark : TypedObject :=
  (TypeDescriptor.ofName remarkName).build

/-- Orders hand their lines on, and do so twice; lines keep their remarks to themselves. -/
def orderSuite : Suite :=
  .registerAll .empty
    [(orderName, .validChildren), (orderName, .childCount lineName 1 none),
      (orderName, .validChildren), (lineName, .optionalChild remarkName),
      (remarkName, .requiredText none)]

/-- The order and its line are all that is handed on. -/
theorem order_reaches {below : TypedObject} {site : Site}
    (h : orderSuite.Reaches ((order below).site [] []) site) :
    site = (order below).site [] [] ∨ site = (orderLine below).site [0] ["Order"] := by
  have hline : ¬orderSuite.Delegates (orderLine below).descriptor.name :=
    show ¬orderSuite.Delegates lineName by decide
  rcases Suite.reaches_iff.1 h with hself | ⟨-, i, o, found, hrest⟩
  · exact .inl hself
  · have hfound : [Child.object (orderLine below)][i]? = some (.object o) := found
    obtain ⟨rfl, hobject⟩ : i = 0 ∧ Child.object (orderLine below) = .object o := by
      simpa [List.getElem?_singleton] using hfound
    cases hobject
    rcases Suite.reaches_iff.1 hrest with hself | ⟨delegates, -⟩
    · exact .inr hself
    · exact absurd delegates hline

/-- Whatever stands below the line in place of a remark, no check sees it but by its name. -/
theorem order_seesSame {below below' : TypedObject}
    (hname : below'.elementName.same remarkName = below.elementName.same remarkName) :
    orderSuite.SeesSame ((order below).site [] []) ((order below').site [] []) := by
  intro site site' hsite hsite' hplace rule hrule
  rcases order_reaches hsite with rfl | rfl <;> rcases order_reaches hsite' with rfl | rfl
  · obtain rfl : rule = .childCount lineName 1 none := List.mem_singleton.1 hrule
    rfl
  · cases hplace
  · cases hplace
  · obtain rfl : rule = .optionalChild remarkName := List.mem_singleton.1 hrule
    show ([below'].filter fun o => o.elementName.same remarkName).length =
      ([below].filter fun o => o.elementName.same remarkName).length
    rw [List.filter_singleton, List.filter_singleton, hname]
    cases below.elementName.same remarkName <;> rfl

/-- The remark has no text, but no rule of an order or of a line minds; nor would one mind another
remark. -/
theorem order_validated :
    let site : Site := ⟨[0, 0], ["Order", "Line", "Remark"], emptyRemark⟩
    let urgent := order (emptyRemark.setText "urgent")
    site ∈ (order emptyRemark).sites [] [] ∧ ¬orderSuite.Passes site ∧
      ¬orderSuite.Reaches ((order emptyRemark).site [] []) site ∧
      orderSuite.validate (order emptyRemark) = .ok () ∧
      urgent.handedOn orderSuite = (order emptyRemark).handedOn orderSuite ∧
      orderSuite.SeesSame ((order emptyRemark).site [] []) (urgent.site [] []) ∧
      orderSuite.validate urgent = orderSuite.validate (order emptyRemark) := by
  intro site urgent
  have hsites : (order emptyRemark).sites [] [] =
      [(order emptyRemark).site [] [], (orderLine emptyRemark).site [0] ["Order"], site] := rfl
  have hfaulty : ¬orderSuite.Passes site := fun h => by
    have hchecks : orderSuite.checksFor remarkName = [.requiredText none] := rfl
    cases h (.requiredText none) (hchecks ▸ List.mem_singleton_self _)
  have houtside : ¬orderSuite.Reaches ((order emptyRemark).site [] []) site := fun h => by
    rcases order_reaches h with h | h <;> cases congrArg Site.place h
  have hinside : urgent.handedOn orderSuite = (order emptyRemark).handedOn orderSuite := rfl
  have hsees : orderSuite.SeesSame ((order emptyRemark).site [] []) (urgent.site [] []) :=
    order_seesSame rfl
  have hsame := (orderSuite.validate_exactly (order emptyRemark)).2.2.2.2 urgent hinside hsees
  exact ⟨by simp [hsites], hfaulty, houtside, rfl, hinside, hsees, hsame⟩

/-- A line that is not handed on matters all the same: to a rule that counts the lines of an order
if it is taken away, and to one of the caller's that looks into the lines if its remark is. -/
theorem line_noticed :
    let site := (orderLine emptyRemark).site [0] ["Order"]
    let counting := Suite.empty.register orderName (.childCount lineName 1 none)
    let looking := Suite.empty.register orderName (.custom "remarked" fun _ o =>
      if o.objects.all (·.children.length = 1) then .ok ()
      else .error ⟨"no remark", o.elementName, none, none⟩)
    let bare := (TypeDescriptor.ofName orderName).build
    let plain := bare.addChild (.object (TypeDescriptor.ofName lineName).build)
    (site ∈ (order emptyRemark).sites [] [] ∧
      ¬counting.Reaches ((order emptyRemark).site [] []) site ∧
      bare.handedOn counting = (order emptyRemark).handedOn counting ∧
      counting.validate (order emptyRemark) = .ok () ∧
      counting.validate bare = .error ⟨"expected at least 1 Line child element(s), found 0",
        orderName, none, some "/Order"⟩) ∧
    ¬looking.Reaches ((order emptyRemark).site [] []) site ∧
      plain.handedOn looking = (order emptyRemark).handedOn looking ∧
      looking.validate (order emptyRemark) = .ok () ∧
      looking.validate plain = .error ⟨"no remark", orderName, none, some "/Order"⟩ := by
  intro site counting looking bare plain
  have hsites : (order emptyRemark).sites [] [] = [(order emptyRemark).site [] [], site,
      ⟨[0, 0], ["Order", "Line", "Remark"], emptyRemark⟩] := rfl
  -- No rule hands anything on, so the order itself is all that is reached.
  have houtside {s : Suite} (hs : ¬s.Delegates orderName) :
      ¬s.Reaches ((order emptyRemark).site [] []) site := by
    intro h
    rcases Suite.reaches_iff.1 h with h | ⟨delegates, -⟩
    · cases congrArg Site.place h
    · exact hs delegates
  exact ⟨⟨by simp [hsites], houtside (by decide), rfl, rfl, rfl⟩,
    houtside (by decide), rfl, rfl, rfl⟩

end XmlBinding
