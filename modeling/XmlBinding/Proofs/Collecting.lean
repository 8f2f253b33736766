import Mathlib.Data.List.Nodup
import XmlBinding.Proofs.Outcome
import XmlBinding.Proofs.Table
import XmlBinding.Proofs.Tree
import XmlBinding.Validation.Suite

/-!
Collecting the faults of a tree. Two ways lead to an object, the walk through the tree and the rules
that hand child objects on; the places seen so far keep them apart. Main statement: a run that
collects finds every fault of every object once. Rules that hand objects on change the order only.
-/

namespace XmlBinding

/-! ### The objects of a tree at their places -/

/-- An object at its place in a tree, with the names from the outermost object down to it. -/
structure Site where
  place : Place
  path : ObjectPath
  object : TypedObject

mutual

/-- All objects of a tree, parents before children. -/
def TypedObject.sites (place : Place) (above : ObjectPath) : TypedObject → List Site
  | ⟨head, children⟩ =>
      let path := above ++ [head.elementName.prefixedName]
      ⟨place, path, ⟨head, children⟩⟩ :: Child.sitesAll place path 0 children
termination_by structural o => o

def Child.sites (place : Place) (above : ObjectPath) : Child → List Site
  | .text _ => []
  | .object value => TypedObject.sites place above value
termination_by structural c => c

def Child.sitesAll (place : Place) (above : ObjectPath) (index : Nat) : List Child → List Site
  | [] => []
  | child :: children =>
      Child.sites (index :: place) above child ++ Child.sitesAll place above (index + 1) children
termination_by structural cs => cs

end

theorem TypedObject.sites_mk (place : Place) (above : ObjectPath) (head : ObjectHead)
    (children : List Child) :
    TypedObject.sites place above ⟨head, children⟩ =
      ⟨place, above ++ [head.elementName.prefixedName], ⟨head, children⟩⟩ ::
        Child.sitesAll place (above ++ [head.elementName.prefixedName]) 0 children := by
  rw [TypedObject.sites]

/-- The sites are the objects of the graph, each where it stands. -/
theorem TypedObject.map_object_sites (x : TypedObject) (place : Place) (above : ObjectPath) :
    (x.sites place above).map Site.object = x.graph := by
  induction x generalizing place above with
  | mk head children ih =>
      have hall : ∀ (above : ObjectPath) (index : Nat) (cs : List Child), cs ⊆ children →
          (Child.sitesAll place above index cs).map Site.object = Child.graphAll cs := by
        intro above index cs
        induction cs generalizing index with
        | nil => intro _; simp [Child.sitesAll, Child.graphAll]
        | cons c cs ihcs =>
            intro hsub
            rw [List.cons_subset] at hsub
            rw [Child.sitesAll, Child.graphAll, List.map_append, ihcs _ hsub.2]
            cases c with
            | text value => simp [Child.sites, Child.graph]
            | object o => rw [Child.sites, Child.graph, ih o hsub.1]
      rw [TypedObject.sites_mk, TypedObject.graph, List.map_cons, hall _ _ _ (List.Subset.refl _)]

theorem Child.mem_sitesAll {site : Site} {place : Place} {above : ObjectPath} {index : Nat}
    {children : List Child} :
    site ∈ Child.sitesAll place above index children ↔
      ∃ (i : Nat) (o : TypedObject), children[i]? = some (.object o) ∧
        site ∈ o.sites ((index + i) :: place) above := by
  induction children generalizing index with
  | nil => simp [Child.sitesAll]
  | cons c cs ih =>
      have hfirst : site ∈ c.sites (index :: place) above ↔
          ∃ o, c = .object o ∧ site ∈ o.sites (index :: place) above := by
        cases c <;> simp [Child.sites]
      rw [Child.sitesAll, List.mem_append, ih, hfirst]
      constructor
      · rintro (⟨o, rfl, h⟩ | ⟨i, o, hc, h⟩)
        · exact ⟨0, o, rfl, h⟩
        · refine ⟨i + 1, o, hc, ?_⟩
          rwa [Nat.add_right_comm] at h
      · rintro ⟨_ | i, o, hc, h⟩
        · exact .inl ⟨o, Option.some.inj hc, h⟩
        · refine .inr ⟨i, o, hc, ?_⟩
          rwa [Nat.add_right_comm]

/-- A place below an object leads through the object. -/
theorem TypedObject.suffix_of_mem_sites {x : TypedObject} {site : Site} {place : Place}
    {above : ObjectPath} (h : site ∈ x.sites place above) : place <:+ site.place := by
  induction x generalizing place above with
  | mk head children ih =>
      rw [TypedObject.sites_mk, List.mem_cons, Child.mem_sitesAll] at h
      rcases h with rfl | ⟨i, o, hc, h⟩
      · exact List.suffix_refl place
      · have hbelow := ih o (List.mem_of_getElem? hc) h
        exact (List.suffix_cons (0 + i) place).trans hbelow

/-- No object below another one has its place. -/
theorem Child.place_ne_of_mem_sitesAll {site : Site} {place : Place} {above : ObjectPath}
    {index : Nat} {children : List Child} (h : site ∈ Child.sitesAll place above index children) :
    site.place ≠ place := by
  intro hplace
  obtain ⟨i, o, -, hbelow⟩ := Child.mem_sitesAll.1 h
  have hlength := (TypedObject.suffix_of_mem_sites hbelow).length_le
  rw [hplace, List.length_cons] at hlength
  exact absurd hlength (Nat.not_succ_le_self _)

/-- A place below an object leads through one of its children only. -/
theorem Place.index_eq {place below : Place} {i j : Nat} (hi : i :: place <:+ below)
    (hj : j :: place <:+ below) : i = j := by
  have hsuffix : i :: place <:+ j :: place := List.suffix_of_suffix_length_le hi hj (by simp)
  have hsame : i :: place = j :: place := hsuffix.eq_of_length (by simp)
  exact (List.cons.inj hsame).1

/-- No two objects of a tree have one place. -/
theorem TypedObject.nodup_sites (x : TypedObject) (place : Place) (above : ObjectPath) :
    ((x.sites place above).map Site.place).Nodup := by
  induction x generalizing place above with
  | mk head children ih =>
      have hall : ∀ (above : ObjectPath) (index : Nat) (cs : List Child), cs ⊆ children →
          ((Child.sitesAll place above index cs).map Site.place).Nodup := by
        intro above index cs
        induction cs generalizing index with
        | nil =>
            intro _
            rw [Child.sitesAll]
            exact List.nodup_nil
        | cons c cs ihcs =>
            intro hsub
            rw [List.cons_subset] at hsub
            rw [Child.sitesAll, List.map_append, List.nodup_append]
            refine ⟨?_, ihcs _ hsub.2, ?_⟩
            · cases c with
              | text value => simp [Child.sites]
              | object o => exact ih o hsub.1 _ _
            · -- Places below different children differ in the index of the child.
              rintro p hp q hq rfl
              obtain ⟨site, hsite, rfl⟩ := List.mem_map.1 hp
              obtain ⟨site', hsite', hplace⟩ := List.mem_map.1 hq
              obtain ⟨i, o', -, hsite'⟩ := Child.mem_sitesAll.1 hsite'
              have hlater : (index + 1 + i) :: place <:+ site.place :=
                hplace ▸ TypedObject.suffix_of_mem_sites hsite'
              have hfirst : index :: place <:+ site.place := by
                cases c with
                | text value => simp [Child.sites] at hsite
                | object o => exact TypedObject.suffix_of_mem_sites hsite
              have hindex : index = index + 1 + i := Place.index_eq hfirst hlater
              omega
      rw [TypedObject.sites_mk, List.map_cons, List.nodup_cons]
      refine ⟨fun hmem => ?_, hall _ _ _ (List.Subset.refl _)⟩
      obtain ⟨site, hsite, hplace⟩ := List.mem_map.1 hmem
      exact Child.place_ne_of_mem_sitesAll hsite hplace

/-! ### The faults of an object -/

/-- The fault that a rule finds in an object, with the path of the object unless the rule gives
one. -/
def Rule.fault? (rule : Rule) (context : RuleContext) (o : TypedObject) :
    Option ValidationFault :=
  match rule.check context o with
  | .ok _ => none
  | .error fault => some { fault with path := some (fault.path.getD context.path.display) }

/-- A rule that hands objects on finds nothing itself. -/
def Rule.ownFaults (rule : Rule) (context : RuleContext) (o : TypedObject) :
    List ValidationFault :=
  if rule.delegates then [] else (rule.fault? context o).toList

namespace Suite

/-- The rules of a type that check something themselves. -/
def checksFor (s : Suite) (type : QName) : List Rule :=
  (s.rulesFor type).filter fun rule => !rule.delegates

/-- What the rules of its type find in an object. -/
def faultsAt (s : Suite) (site : Site) : List ValidationFault :=
  (s.checksFor site.object.descriptor.name).filterMap fun rule =>
    rule.fault? ⟨.lax, site.path⟩ site.object

theorem faultsAt_eq_flatMap (s : Suite) (site : Site) :
    s.faultsAt site = (s.rulesFor site.object.descriptor.name).flatMap fun rule =>
      rule.ownFaults ⟨.lax, site.path⟩ site.object := by
  rw [faultsAt, checksFor]
  induction s.rulesFor site.object.descriptor.name with
  | nil => rfl
  | cons rule rules ih =>
      rw [List.flatMap_cons, ← ih, Rule.ownFaults]
      cases hdelegates : rule.delegates with
      | true => simp [hdelegates]
      | false => cases h : rule.fault? ⟨.lax, site.path⟩ site.object <;> simp [hdelegates, h]

theorem rulesFor_register (s : Suite) (type type' : QName) (rule : Rule) :
    (s.register type rule).rulesFor type' =
      s.rulesFor type' ++ if type.same type' = true then [rule] else [] := by
  rw [register, rulesFor, OrderedTable.get?_put]
  by_cases hsame : type.expanded = type'.expanded <;> simp [hsame, QName.same_iff, rulesFor]

theorem rulesFor_registerAll (s : Suite) (rules : List (QName × Rule)) (type : QName) :
    (s.registerAll rules).rulesFor type =
      s.rulesFor type ++ (rules.filter fun entry => entry.1.same type).map (·.2) := by
  rw [registerAll]
  induction rules generalizing s with
  | nil => simp
  | cons entry rules ih =>
      rw [List.foldl_cons, ih, rulesFor_register, List.append_assoc]
      cases hsame : entry.1.same type <;> simp [hsame]

/-- A suite has no rules but those that were registered. -/
theorem forall_rulesFor_registerAll {P : Rule → Prop} {rules : List (QName × Rule)}
    (h : ∀ entry ∈ rules, P entry.2) (type : QName) :
    ∀ rule ∈ (Suite.empty.registerAll rules).rulesFor type, P rule := by
  intro rule hrule
  rw [rulesFor_registerAll] at hrule
  obtain ⟨entry, hentry, rfl⟩ := List.mem_map.1 (List.mem_append.1 hrule |>.resolve_left nofun)
  exact h entry (List.mem_of_mem_filter hentry)

/-- What is registered for a type is checked after what was there before, in its order. -/
theorem checksFor_registerAll (s : Suite) (rules : List (QName × Rule)) (type : QName) :
    (s.registerAll rules).checksFor type = s.checksFor type ++
      ((rules.filter fun entry => !entry.2.delegates).filter fun entry => entry.1.same type).map
        (·.2) := by
  rw [checksFor, rulesFor_registerAll, List.filter_append, List.filter_map, List.filter_comm]
  rfl

/-! ### What a part of a run collects -/

/-- A part of a run visits objects that were not visited before, each once. It adds their faults,
and others of its own, to those found before. -/
structure Collects (s : Suite) (own : List ValidationFault) (sites : List Site) (v v' : Visit) :
    Prop where
  fresh : ∀ site ∈ sites, site.place ∉ v.visited
  distinct : (sites.map Site.place).Nodup
  visited : ∀ place, place ∈ v'.visited ↔ place ∈ v.visited ∨ place ∈ sites.map Site.place
  faults : v'.faults.Perm (v.faults ++ (own ++ sites.flatMap s.faultsAt))

variable {s : Suite} {own own' : List ValidationFault} {sites sites' : List Site}
  {v v' v'' : Visit}

theorem Collects.refl (s : Suite) (v : Visit) : s.Collects [] [] v v where
  fresh := nofun
  distinct := List.nodup_nil
  visited place := by simp
  faults := by simp

theorem Collects.trans (h : s.Collects own sites v v') (h' : s.Collects own' sites' v' v'') :
    s.Collects (own ++ own') (sites ++ sites') v v'' where
  fresh site hsite := by
    rcases List.mem_append.1 hsite with hsite | hsite
    · exact h.fresh site hsite
    · exact fun hmem => h'.fresh site hsite ((h.visited _).2 (.inl hmem))
  distinct := by
    rw [List.map_append, List.nodup_append]
    refine ⟨h.distinct, h'.distinct, ?_⟩
    -- What the first part has visited is not fresh for the second.
    rintro place hplace _ hplace' rfl
    obtain ⟨site, hsite, rfl⟩ := List.mem_map.1 hplace'
    exact h'.fresh site hsite ((h.visited _).2 (.inr hplace))
  visited place := by rw [h'.visited, h.visited, List.map_append, List.mem_append, or_assoc]
  faults := by
    refine h'.faults.trans ((h.faults.append_right _).trans ?_)
    rw [List.flatMap_append]
    grind

/-- An object counts as visited from the start; its own faults are added bit by bit. -/
theorem Collects.visit {site : Site} (hfresh : site.place ∉ v.visited)
    (h : s.Collects (s.faultsAt site) sites { v with visited := site.place :: v.visited } v') :
    s.Collects [] (site :: sites) v v' where
  fresh := by
    rw [List.forall_mem_cons]
    refine ⟨hfresh, fun other hother hmem => ?_⟩
    exact h.fresh other hother (List.mem_cons_of_mem _ hmem)
  distinct := by
    rw [List.map_cons, List.nodup_cons]
    refine ⟨fun hmem => ?_, h.distinct⟩
    obtain ⟨other, hother, hplace⟩ := List.mem_map.1 hmem
    exact h.fresh other hother (hplace ▸ List.mem_cons_self)
  visited place := by
    rw [h.visited, List.map_cons, List.mem_cons, List.mem_cons]
    grind
  faults := by simpa using h.faults

/-- A computation that collects ends well. It visits only objects within a list, and afterwards all
places of another list are visited. -/
def Gathers (s : Suite) (own : List ValidationFault) (within : List Site) (covered : List Place)
    (v : Visit) (r : Except ValidationFault Visit) : Prop :=
  ∃ v' sites, r = .ok v' ∧ sites ⊆ within ∧ s.Collects own sites v v' ∧ covered ⊆ v'.visited

variable {within within' : List Site} {covered covered' : List Place}
  {r : Except ValidationFault Visit} {f : Visit → Except ValidationFault Visit}

theorem gathers_nothing (s : Suite) (v : Visit) : s.Gathers [] [] [] v (.ok v) :=
  ⟨v, [], rfl, List.Subset.refl _, Collects.refl s v, List.nil_subset _⟩

theorem Gathers.mono (h : s.Gathers own within covered v r) (hwithin : within ⊆ within')
    (hcovered : covered' ⊆ covered) : s.Gathers own within' covered' v r := by
  obtain ⟨v', sites, hr, hsites, hcollects, hvisited⟩ := h
  exact ⟨v', sites, hr, List.Subset.trans hsites hwithin, hcollects,
    List.Subset.trans hcovered hvisited⟩

theorem Gathers.bind (h : s.Gathers own within covered v r)
    (next : ∀ v', s.Gathers own' within' covered' v' (f v')) :
    s.Gathers (own ++ own') (within ++ within') (covered ++ covered') v (r >>= f) := by
  obtain ⟨v', sites, rfl, hsites, hcollects, hvisited⟩ := h
  obtain ⟨v'', sites', hr, hsites', hcollects', hvisited'⟩ := next v'
  refine ⟨v'', sites ++ sites', hr, ?_, hcollects.trans hcollects', ?_⟩
  · exact List.append_subset.2 ⟨List.subset_append_of_subset_left _ hsites,
      List.subset_append_of_subset_right _ hsites'⟩
  · refine List.append_subset.2 ⟨fun place hplace => ?_, hvisited'⟩
    exact (hcollects'.visited place).2 (.inl (hvisited hplace))

theorem gathers_apply (s : Suite) (v : Visit) (path : ObjectPath) (rule : Rule) (o : TypedObject) :
    s.Gathers (rule.fault? ⟨.lax, path⟩ o).toList [] [] v (v.apply ⟨.lax, path⟩ rule o) := by
  rw [Visit.apply, Rule.fault?]
  cases rule.check ⟨.lax, path⟩ o with
  | ok _ => exact gathers_nothing s v
  | error fault =>
      refine ⟨_, [], rfl, List.Subset.refl _, ?_, List.nil_subset _⟩
      exact ⟨nofun, List.nodup_nil, fun place => by simp, by simp⟩

/-- The rules of an object find its faults; those that hand objects on gather what is below. -/
theorem gathers_rules (site : Site) {hand : Visit → Except ValidationFault Visit}
    (hhand : ∀ v, s.Gathers [] within [] v (hand v)) (v : Visit) :
    s.Gathers (s.faultsAt site) within [] v
      ((s.rulesFor site.object.descriptor.name).foldlM (fun v rule =>
        if rule.delegates then hand v else v.apply ⟨.lax, site.path⟩ rule site.object) v) := by
  rw [faultsAt_eq_flatMap]
  induction s.rulesFor site.object.descriptor.name generalizing v with
  | nil => exact (gathers_nothing s v).mono (List.nil_subset _) (List.Subset.refl _)
  | cons rule rules ih =>
      have hrule : s.Gathers (rule.ownFaults ⟨.lax, site.path⟩ site.object) within [] v
          (if rule.delegates then hand v else v.apply ⟨.lax, site.path⟩ rule site.object) := by
        rw [Rule.ownFaults]
        cases rule.delegates with
        | true => exact hhand v
        | false =>
            have happly := gathers_apply s v site.path rule site.object
            exact happly.mono (List.nil_subset _) (List.Subset.refl _)
      rw [List.foldlM_cons, List.flatMap_cons]
      exact (hrule.bind ih).mono (by simp) (List.Subset.refl _)

end Suite

/-! ### Runs over children -/

/-- Visits the child objects in their order, each at its place. -/
def Child.each (visit : Place → TypedObject → Visit → Except ValidationFault Visit) (place : Place)
    (index : Nat) : List Child → Visit → Except ValidationFault Visit
  | [], v => .ok v
  | .text _ :: children, v => Child.each visit place (index + 1) children v
  | .object o :: children, v => do
      let v ← visit (index :: place) o v
      Child.each visit place (index + 1) children v

variable {s : Suite} {mode : ValidationMode} {place : Place} {above : ObjectPath}

theorem Child.runAll_eq_each (index : Nat) (children : List Child) (v : Visit) :
    Child.runAll s mode place above index children v =
      Child.each (fun place o v => o.run s mode place above v) place index children v := by
  induction children generalizing index v with
  | nil => rw [Child.runAll, Child.each]
  | cons c cs ih =>
      rw [Child.runAll]
      cases c with
      | text value =>
          rw [Child.run, Child.each, ← ih]
          rfl
      | object o =>
          rw [Child.run, Child.each]
          simp only [ih]

theorem Child.walkAll_eq_each (index : Nat) (children : List Child) (v : Visit) :
    Child.walkAll s mode place above index children v =
      Child.each (fun place o v => o.walk s mode place above v) place index children v := by
  induction children generalizing index v with
  | nil => rw [Child.walkAll, Child.each]
  | cons c cs ih =>
      rw [Child.walkAll]
      cases c with
      | text value =>
          rw [Child.walk, Child.each, ← ih]
          rfl
      | object o =>
          rw [Child.walk, Child.each]
          simp only [ih]

/-- What is gathered from each child object is gathered from all of them. -/
theorem Child.gathers_each {visit : Place → TypedObject → Visit → Except ValidationFault Visit}
    (cover : Site → List Place) {children : List Child}
    (hvisit : ∀ o, .object o ∈ children → ∀ place v,
      s.Gathers [] (o.sites place above) ((o.sites place above).flatMap cover) v
        (visit place o v))
    (index : Nat) (v : Visit) :
    s.Gathers [] (Child.sitesAll place above index children)
      ((Child.sitesAll place above index children).flatMap cover) v
      (Child.each visit place index children v) := by
  induction children generalizing index v with
  | nil =>
      rw [Child.sitesAll, Child.each]
      exact Suite.gathers_nothing s v
  | cons c cs ih =>
      have hrest := ih fun o ho => hvisit o (List.mem_cons_of_mem c ho)
      rw [Child.sitesAll, List.flatMap_append]
      cases c with
      | text value =>
          rw [Child.sites, Child.each]
          exact hrest (index + 1) v
      | object o =>
          rw [Child.sites, Child.each]
          exact (hvisit o List.mem_cons_self _ v).bind (hrest (index + 1))

/-! ### The two recursions -/

/-- The rules of an object and those of the objects that it hands on find all faults of the objects
that they visit. The object itself is visited. -/
theorem TypedObject.gathers_run (s : Suite) (x : TypedObject) (place : Place) (above : ObjectPath)
    (v : Visit) :
    s.Gathers [] (x.sites place above) [place] v (x.run s .lax place above v) := by
  induction x generalizing place above v with
  | mk head children ih =>
      rw [TypedObject.run, TypedObject.sites_mk]
      by_cases hseen : place ∈ v.visited
      · rw [if_pos (by simpa using hseen)]
        exact ⟨v, [], rfl, List.nil_subset _, Suite.Collects.refl s v, by simpa using hseen⟩
      · rw [if_neg (by simpa using hseen)]
        let path : ObjectPath := above ++ [head.elementName.prefixedName]
        let site : Site := ⟨place, path, ⟨head, children⟩⟩
        have hbelow (v : Visit) : s.Gathers [] (Child.sitesAll place path 0 children) [] v
            (Child.runAll s .lax place path 0 children v) := by
          rw [Child.runAll_eq_each]
          refine (Child.gathers_each (fun _ => []) (fun o ho place v => ?_) 0 v).mono
            (List.Subset.refl _) (List.nil_subset _)
          exact (ih o ho place path v).mono (List.Subset.refl _) (by simp)
        -- The object is marked before its rules run, so no way from below leads back to it.
        obtain ⟨v', sites, hrun, hsites, hcollects, -⟩ :=
          Suite.gathers_rules site hbelow { v with visited := place :: v.visited }
        have hvisit : s.Collects [] (site :: sites) v v' := hcollects.visit hseen
        have hself : place ∈ v'.visited := (hvisit.visited place).2 (.inr List.mem_cons_self)
        exact ⟨v', site :: sites, hrun, List.cons_subset_cons site hsites, hvisit, by simpa⟩

/-- The walk through a tree visits all its objects and finds all their faults. -/
theorem TypedObject.gathers_walk (s : Suite) (x : TypedObject) (place : Place) (above : ObjectPath)
    (v : Visit) :
    s.Gathers [] (x.sites place above) ((x.sites place above).flatMap fun site => [site.place]) v
      (x.walk s .lax place above v) := by
  induction x generalizing place above v with
  | mk head children ih =>
      let path : ObjectPath := above ++ [head.elementName.prefixedName]
      have hself := TypedObject.gathers_run s ⟨head, children⟩ place above v
      have hbelow (v : Visit) : s.Gathers [] (Child.sitesAll place path 0 children)
          ((Child.sitesAll place path 0 children).flatMap fun site => [site.place]) v
          (Child.walkAll s .lax place path 0 children v) := by
        rw [Child.walkAll_eq_each]
        exact Child.gathers_each (fun site => [site.place])
          (fun o ho place v => ih o ho place path v) 0 v
      rw [TypedObject.walk]
      rw [TypedObject.sites_mk] at hself ⊢
      exact (hself.bind hbelow).mono (by simp [path]) (by simp [path])

theorem Suite.faults_of_walk {s : Suite} {mode : ValidationMode} {x : TypedObject} {v : Visit}
    (hmode : mode ≠ .skip) (h : x.walk s mode [] [] .start = .ok v) :
    s.faults mode x = v.faults := by
  rw [faults, if_neg hmode, h]

/-- A run over a whole tree finds the faults of all its objects, those of each object once. -/
theorem Suite.perm_faults_lax (s : Suite) (x : TypedObject) :
    (s.faults .lax x).Perm ((x.sites [] []).flatMap s.faultsAt) := by
  obtain ⟨v, sites, hwalk, hsub, hcollects, hcovered⟩ :=
    TypedObject.gathers_walk s x [] [] .start
  have hsites : sites.Perm (x.sites [] []) := by
    have hnodup := TypedObject.nodup_sites x [] []
    rw [List.perm_ext_iff_of_nodup hcollects.distinct.of_map hnodup.of_map]
    refine fun site => ⟨fun h => hsub h, fun h => ?_⟩
    -- The place of an object is visited, so an object of this place is; there is no other.
    have hplace : site.place ∈ v.visited := hcovered (List.mem_flatMap.2 ⟨site, h, by simp⟩)
    rw [hcollects.visited, Visit.start] at hplace
    obtain ⟨other, hother, hsame⟩ := List.mem_map.1 (hplace.resolve_left List.not_mem_nil)
    rwa [← List.inj_on_of_nodup_map hnodup (hsub hother) h hsame]
  rw [Suite.faults_of_walk (by decide) hwalk]
  have hfaults := hcollects.faults
  rw [Visit.start, List.nil_append, List.nil_append] at hfaults
  exact hfaults.trans (hsites.flatMap_right _)

/-- A run that collects finds every fault of every object once: one for each object of the tree and
each rule for its type that fails on it. Rules that hand objects on, wherever they are registered,
change nothing but the order. -/
theorem Suite.faults_lax_exactly (s : Suite) (x : TypedObject) :
    (x.sites [] []).map Site.object = x.graph ∧
      (s.faults .lax x).Perm ((x.sites [] []).flatMap s.faultsAt) ∧
      ∀ rules : List (QName × Rule), ((s.registerAll rules).faults .lax x).Perm
        ((s.registerAll (rules.filter fun entry => !entry.2.delegates)).faults .lax x) := by
  refine ⟨x.map_object_sites [] [], s.perm_faults_lax x, fun rules => ?_⟩
  refine ((s.registerAll rules).perm_faults_lax x).trans (List.Perm.trans ?_
    ((s.registerAll _).perm_faults_lax x).symm)
  -- The checks of a type are the same in both suites.
  have hsame : (s.registerAll rules).faultsAt =
      (s.registerAll (rules.filter fun entry => !entry.2.delegates)).faultsAt := by
    funext site
    simp [Suite.faultsAt, Suite.checksFor_registerAll]
  rw [hsame]

end XmlBinding
