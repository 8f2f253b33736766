import XmlBinding.Binding.Unmarshal
import XmlBinding.Proofs.Scope

/-!
Element trees and object graphs, level by level. A statement about a whole tree is a statement about
each element, in the scope in force on it and at its depth; a statement about an object graph and
the tree written for it is one about each object and its element. Both inductions, along elements
and along objects, are stated once here.
-/

namespace XmlBinding

/-! ### Induction along a tree -/

@[elab_as_elim, induction_eliminator]
theorem Element.induction {motive : Element → Prop}
    (mk : ∀ tag nodes, (∀ e, .element e ∈ nodes → motive e) → motive ⟨tag, nodes⟩) (e : Element) :
    motive e := by
  -- A node, or a list of nodes, has the motive for the elements in it.
  refine Element.rec (motive_1 := motive) (motive_2 := fun n => ∀ e, n = .element e → motive e)
    (motive_3 := fun ns => ∀ e, .element e ∈ ns → motive e) mk ?_ ?_ ?_ ?_ e
  · intro _ e h
    cases h
  · intro _ ih e h
    cases h
    exact ih
  · intro e h
    cases h
  · intro n ns ihn ihns e h
    rcases List.mem_cons.1 h with h | h
    · exact ihn e h.symm
    · exact ihns e h

@[elab_as_elim, induction_eliminator]
theorem TypedObject.induction {motive : TypedObject → Prop}
    (mk : ∀ head children, (∀ o, .object o ∈ children → motive o) → motive ⟨head, children⟩)
    (o : TypedObject) : motive o := by
  refine TypedObject.rec (motive_1 := motive)
    (motive_2 := fun c => ∀ o, c = .object o → motive o)
    (motive_3 := fun cs => ∀ o, .object o ∈ cs → motive o) mk ?_ ?_ ?_ ?_ o
  · intro _ o h
    cases h
  · intro _ ih o h
    cases h
    exact ih
  · intro o h
    cases h
  · intro c cs ihc ihcs o h
    rcases List.mem_cons.1 h with h | h
    · exact ihc o h.symm
    · exact ihcs o h

/-! ### The objects of a graph -/

mutual

/-- The object itself and all objects below it, in document order. -/
def TypedObject.graph : TypedObject → List TypedObject
  | ⟨head, children⟩ => ⟨head, children⟩ :: Child.graphAll children
termination_by structural o => o

def Child.graph : Child → List TypedObject
  | .text _ => []
  | .object o => TypedObject.graph o
termination_by structural c => c

def Child.graphAll : List Child → List TypedObject
  | [] => []
  | c :: cs => Child.graph c ++ Child.graphAll cs
termination_by structural cs => cs

end

theorem Child.mem_graphAll {o : TypedObject} {children : List Child} :
    o ∈ Child.graphAll children ↔ ∃ c, .object c ∈ children ∧ o ∈ c.graph := by
  induction children with
  | nil => simp [Child.graphAll]
  | cons c cs ih =>
      rw [Child.graphAll, List.mem_append, ih]
      cases c with
      | text v => simp [Child.graph]
      | object c => simp [Child.graph, or_and_right, exists_or]

theorem TypedObject.mem_graph {x o : TypedObject} :
    o ∈ x.graph ↔ o = x ∨ ∃ c, .object c ∈ x.children ∧ o ∈ c.graph := by
  obtain ⟨head, children⟩ := x
  rw [TypedObject.graph, List.mem_cons, Child.mem_graphAll]

theorem TypedObject.forall_mem_graph {P : TypedObject → Prop} {x : TypedObject} :
    (∀ o ∈ x.graph, P o) ↔ P x ∧ ∀ c, .object c ∈ x.children → ∀ o ∈ c.graph, P o := by
  refine ⟨fun h => ?_, ?_⟩
  · exact ⟨h x (TypedObject.mem_graph.2 (.inl rfl)),
      fun c hc o ho => h o (TypedObject.mem_graph.2 (.inr ⟨c, hc, ho⟩))⟩
  · rintro ⟨hself, hbelow⟩ o hmem
    rcases TypedObject.mem_graph.1 hmem with rfl | ⟨c, hc, ho⟩
    · exact hself
    · exact hbelow c hc o ho

/-- What is below an object of the graph is below the outermost one. -/
theorem TypedObject.mem_graph_of_child {x o c : TypedObject} (ho : o ∈ x.graph)
    (hc : .object c ∈ o.children) : c ∈ x.graph := by
  induction x with
  | mk head children ih =>
      rcases TypedObject.mem_graph.1 ho with rfl | ⟨p, hp, ho⟩
      · exact TypedObject.mem_graph.2 (.inr ⟨c, hc, TypedObject.mem_graph.2 (.inl rfl)⟩)
      · exact TypedObject.mem_graph.2 (.inr ⟨p, hp, ih p hp ho⟩)

/-! ### Every element of a tree -/

section Everywhere

variable {P Q : Scope → Nat → Element → Prop} {scope : Scope} {depth : Nat} {tag : Tag}
  {nodes : List Node}

mutual

/-- A statement about every element of a tree, given the scope in force on the element and its
depth. The scope of the surroundings and their depth are those of the outermost element. -/
def Element.Everywhere (P : Scope → Nat → Element → Prop) (scope : Scope) (depth : Nat) :
    Element → Prop
  | ⟨tag, nodes⟩ =>
      P (scope.declareAll tag.declarations) depth ⟨tag, nodes⟩ ∧
        Node.everywhereAll P (scope.declareAll tag.declarations) (depth + 1) nodes
termination_by structural e => e

def Node.everywhere (P : Scope → Nat → Element → Prop) (scope : Scope) (depth : Nat) :
    Node → Prop
  | .text _ => True
  | .element e => Element.Everywhere P scope depth e
termination_by structural n => n

def Node.everywhereAll (P : Scope → Nat → Element → Prop) (scope : Scope) (depth : Nat) :
    List Node → Prop
  | [] => True
  | n :: ns => Node.everywhere P scope depth n ∧ Node.everywhereAll P scope depth ns
termination_by structural ns => ns

end

theorem Node.everywhereAll_iff :
    Node.everywhereAll P scope depth nodes ↔
      ∀ e, .element e ∈ nodes → e.Everywhere P scope depth := by
  induction nodes with
  | nil => simp [Node.everywhereAll]
  | cons n ns ih =>
      rw [Node.everywhereAll, ih]
      cases n with
      | text v => simp [Node.everywhere]
      | element e => simp [Node.everywhere]

theorem Element.everywhere_mk :
    Element.Everywhere P scope depth ⟨tag, nodes⟩ ↔
      P (scope.declareAll tag.declarations) depth ⟨tag, nodes⟩ ∧
        ∀ e, .element e ∈ nodes →
          e.Everywhere P (scope.declareAll tag.declarations) (depth + 1) := by
  rw [Element.Everywhere, Node.everywhereAll_iff]

theorem Element.Everywhere.imp {e : Element}
    (h : ∀ scope depth e, P scope depth e → Q scope depth e) (he : e.Everywhere P scope depth) :
    e.Everywhere Q scope depth := by
  induction e generalizing scope depth with
  | mk tag nodes ih =>
      rw [Element.everywhere_mk] at he ⊢
      exact ⟨h _ _ _ he.1, fun e hmem => ih e hmem (he.2 e hmem)⟩

theorem Element.everywhere_and {e : Element} :
    e.Everywhere (fun scope depth el => P scope depth el ∧ Q scope depth el) scope depth ↔
      e.Everywhere P scope depth ∧ e.Everywhere Q scope depth := by
  induction e generalizing scope depth with
  | mk tag nodes ih =>
      rw [Element.everywhere_mk, Element.everywhere_mk, Element.everywhere_mk]
      constructor
      · rintro ⟨⟨hp, hq⟩, hbelow⟩
        exact ⟨⟨hp, fun e he => ((ih e he).1 (hbelow e he)).1⟩, hq,
          fun e he => ((ih e he).1 (hbelow e he)).2⟩
      · rintro ⟨⟨hp, hbelow⟩, hq, hbelow'⟩
        exact ⟨⟨hp, hq⟩, fun e he => (ih e he).2 ⟨hbelow e he, hbelow' e he⟩⟩

/-- An element with no element below it is the whole tree. -/
theorem Element.everywhere_leaf {e : Element} (h : ∀ inner, .element inner ∉ e.children) :
    e.Everywhere P scope depth ↔ P (scope.declareAll e.declarations) depth e := by
  obtain ⟨tag, nodes⟩ := e
  rw [Element.everywhere_mk]
  exact and_iff_left fun inner hinner => absurd hinner (h inner)

/-- An element with one element below it, and none below that. -/
theorem Element.everywhere_over_leaf {e leaf : Element}
    (h : ∀ inner, .element inner ∈ e.children ↔ inner = leaf)
    (hleaf : ∀ inner, .element inner ∉ leaf.children) :
    e.Everywhere P scope depth ↔ P (scope.declareAll e.declarations) depth e ∧
      P ((scope.declareAll e.declarations).declareAll leaf.declarations) (depth + 1) leaf := by
  obtain ⟨tag, nodes⟩ := e
  rw [Element.everywhere_mk]
  simp only [h, forall_eq, Element.everywhere_leaf hleaf]

end Everywhere

/-! ### Members of a tree at their depths -/

/-- The members of a tree with their depths, where the outermost has the depth that it is given. -/
inductive Inside {α : Type} (below : α → α → Prop) : Nat → α → Nat → α → Prop where
  | self (depth : Nat) (a : α) : Inside below depth a depth a
  | under {depth depth' : Nat} {a b c : α} :
      below a b → Inside below (depth + 1) b depth' c → Inside below depth a depth' c

def Element.Below (e child : Element) : Prop :=
  .element child ∈ e.children

def TypedObject.Below (o child : TypedObject) : Prop :=
  .object child ∈ o.children

/-- What is said about every element is said about each, in the scope that is in force on it. -/
theorem Element.Everywhere.of_inside {P : Scope → Nat → Element → Prop} {scope : Scope}
    {depth depth' : Nat} {e el : Element} (hinside : Inside Element.Below depth e depth' el)
    (h : e.Everywhere P scope depth) : ∃ scope', P scope' depth' el := by
  induction hinside generalizing scope with
  | self depth e =>
      obtain ⟨tag, nodes⟩ := e
      exact ⟨_, (Element.everywhere_mk.1 h).1⟩
  | @under depth depth' e child el hbelow _ ih =>
      obtain ⟨tag, nodes⟩ := e
      exact ih ((Element.everywhere_mk.1 h).2 child hbelow)

/-! ### Nodes and children in their places -/

/-- A node and the child in its place, given how elements and objects belong together. -/
inductive Node.Matches (R : Element → TypedObject → Prop) : Node → Child → Prop where
  | text (value : String) : Matches R (.text value) (.text value)
  | element {e : Element} {o : TypedObject} (h : R e o) : Matches R (.element e) (.object o)

section Matches

variable {R S : Element → TypedObject → Prop} {nodes : List Node} {children : List Child}

theorem Node.matches_text_iff {value : String} {c : Child} :
    (Node.text value).Matches R c ↔ c = .text value := by
  constructor
  · rintro ⟨⟩
    rfl
  · rintro rfl
    exact .text value

theorem Node.matches_element_iff {e : Element} {c : Child} :
    (Node.element e).Matches R c ↔ ∃ o, c = .object o ∧ R e o := by
  refine ⟨fun h => ?_, ?_⟩
  · cases h with
    | element h => exact ⟨_, rfl, h⟩
  · rintro ⟨o, rfl, h⟩
    exact .element h

theorem Node.matches_object_iff {o : TypedObject} {n : Node} :
    n.Matches R (.object o) ↔ ∃ e, n = .element e ∧ R e o := by
  refine ⟨fun h => ?_, ?_⟩
  · cases h with
    | element h => exact ⟨_, rfl, h⟩
  · rintro ⟨e, rfl, h⟩
    exact .element h

theorem Node.Matches.text?_eq {n : Node} {c : Child} (h : n.Matches R c) : c.text? = n.text? := by
  cases h <;> rfl

theorem Node.forall₂_matches_imp (h : List.Forall₂ (Node.Matches R) nodes children)
    (imp : ∀ e o, .element e ∈ nodes → .object o ∈ children → R e o → S e o) :
    List.Forall₂ (Node.Matches S) nodes children := by
  induction h with
  | nil => exact .nil
  | @cons n c ns cs hn _ ih =>
      refine .cons ?_ (ih fun e o he ho =>
        imp e o (List.mem_cons_of_mem n he) (List.mem_cons_of_mem c ho))
      cases hn with
      | text value => exact .text value
      | element h => exact .element (imp _ _ List.mem_cons_self List.mem_cons_self h)

/-- What holds of each element exactly if it is related to the object in its place. -/
theorem Node.forall_element_iff {T : Element → Prop}
    (h : List.Forall₂ (Node.Matches R) nodes children)
    (hiff : ∀ e o, .object o ∈ children → R e o → (T e ↔ S e o)) :
    (∀ e, .element e ∈ nodes → T e) ↔ List.Forall₂ (Node.Matches S) nodes children := by
  induction h with
  | nil => exact iff_of_true nofun .nil
  | @cons n c ns cs hn _ ih =>
      have hrest := ih fun e o ho => hiff e o (List.mem_cons_of_mem c ho)
      rw [List.forall₂_cons, ← hrest]
      cases hn with
      | text value =>
          rw [and_iff_right (.text value)]
          simp
      | element he =>
          rw [Node.matches_element_iff]
          simp [hiff _ _ List.mem_cons_self he]

/-- Lists of nodes and children in their places have the same texts. -/
theorem text?_of_forall₂ {head : ObjectHead} {tag : Tag}
    (h : List.Forall₂ (Node.Matches R) nodes children) :
    Element.text? ⟨tag, nodes⟩ = TypedObject.text? ⟨head, children⟩ := by
  have htexts : nodes.filterMap Node.text? = children.filterMap Child.text? := by
    induction h with
    | nil => rfl
    | cons hn _ ih => rw [List.filterMap_cons, List.filterMap_cons, hn.text?_eq, ih]
  rw [Element.text?, TypedObject.text?]
  generalize nodes.filterMap Node.text? = texts at htexts
  subst htexts
  cases children.filterMap Child.text? <;> rfl

/-- Each object has its element. -/
theorem exists_element_of_mem {o : TypedObject} (h : List.Forall₂ (Node.Matches R) nodes children)
    (ho : .object o ∈ children) : ∃ e, .element e ∈ nodes ∧ R e o := by
  obtain ⟨n, hn, hmatch⟩ := exists_mem_left_of_forall₂ h ho
  obtain ⟨e, rfl, he⟩ := Node.matches_object_iff.1 hmatch
  exact ⟨e, hn, he⟩

/-- Each element has its object. -/
theorem exists_object_of_mem {e : Element} (h : List.Forall₂ (Node.Matches R) nodes children)
    (he : .element e ∈ nodes) : ∃ o, .object o ∈ children ∧ R e o := by
  obtain ⟨c, hc, hmatch⟩ := exists_mem_left_of_forall₂ h.flip he
  obtain ⟨o, rfl, ho⟩ := Node.matches_element_iff.1 hmatch
  exact ⟨o, hc, ho⟩

end Matches

/-! ### An object graph alongside the tree written for it -/

section Alongside

variable {P Q : Scope → Nat → TypedObject → Element → Prop} {scope : Scope} {depth : Nat}
  {head : ObjectHead} {children : List Child} {tag : Tag} {nodes : List Node}

mutual

/-- A statement about every object of a graph and the element that stands in its place, given the
scope in force on the element and its depth. Texts stand in their own places, unchanged. -/
def TypedObject.Alongside (P : Scope → Nat → TypedObject → Element → Prop) (scope : Scope)
    (depth : Nat) : TypedObject → Element → Prop
  | ⟨head, children⟩, e =>
      P (scope.declareAll e.declarations) depth ⟨head, children⟩ e ∧
        Child.alongsideAll P (scope.declareAll e.declarations) (depth + 1) children e.children
termination_by structural o => o

def Child.alongside (P : Scope → Nat → TypedObject → Element → Prop) (scope : Scope)
    (depth : Nat) : Child → Node → Prop
  | .text value, n => n = .text value
  | .object o, n => ∃ e, n = .element e ∧ TypedObject.Alongside P scope depth o e
termination_by structural c => c

def Child.alongsideAll (P : Scope → Nat → TypedObject → Element → Prop) (scope : Scope)
    (depth : Nat) : List Child → List Node → Prop
  | [], nodes => nodes = []
  | c :: cs, nodes =>
      ∃ n ns, nodes = n :: ns ∧ Child.alongside P scope depth c n ∧
        Child.alongsideAll P scope depth cs ns
termination_by structural cs => cs

end

theorem Child.alongside_iff {c : Child} {n : Node} :
    c.alongside P scope depth n ↔ n.Matches (fun e o => o.Alongside P scope depth e) c := by
  cases c with
  | text value =>
      rw [Child.alongside]
      constructor
      · rintro rfl
        exact .text value
      · rintro ⟨⟩
        rfl
  | object o => rw [Child.alongside, Node.matches_object_iff]

theorem Child.alongsideAll_iff :
    Child.alongsideAll P scope depth children nodes ↔
      List.Forall₂ (Node.Matches fun e o => o.Alongside P scope depth e) nodes children := by
  induction children generalizing nodes with
  | nil => rw [Child.alongsideAll, List.forall₂_nil_right_iff]
  | cons c cs ih =>
      rw [Child.alongsideAll, List.forall₂_cons_right_iff]
      simp only [ih, Child.alongside_iff]
      constructor
      · rintro ⟨n, ns, rfl, hn, hns⟩
        exact ⟨n, ns, hn, hns, rfl⟩
      · rintro ⟨n, ns, hn, hns, rfl⟩
        exact ⟨n, ns, rfl, hn, hns⟩

theorem TypedObject.alongside_mk :
    TypedObject.Alongside P scope depth ⟨head, children⟩ ⟨tag, nodes⟩ ↔
      P (scope.declareAll tag.declarations) depth ⟨head, children⟩ ⟨tag, nodes⟩ ∧
        List.Forall₂ (Node.Matches fun e o =>
          o.Alongside P (scope.declareAll tag.declarations) (depth + 1) e) nodes children := by
  rw [TypedObject.Alongside, Child.alongsideAll_iff]

theorem TypedObject.Alongside.outermost {x : TypedObject} {e : Element}
    (h : x.Alongside P scope depth e) : P (scope.declareAll e.declarations) depth x e := by
  obtain ⟨head, children⟩ := x
  obtain ⟨tag, nodes⟩ := e
  exact (TypedObject.alongside_mk.1 h).1

theorem TypedObject.Alongside.imp {x : TypedObject} {e : Element}
    (h : ∀ scope depth o e, o ∈ x.graph → P scope depth o e → Q scope depth o e)
    (hx : x.Alongside P scope depth e) : x.Alongside Q scope depth e := by
  induction x generalizing scope depth e with
  | mk head children ih =>
      obtain ⟨tag, nodes⟩ := e
      rw [TypedObject.alongside_mk] at hx ⊢
      refine ⟨h _ _ _ _ (TypedObject.mem_graph.2 (.inl rfl)) hx.1, ?_⟩
      refine Node.forall₂_matches_imp hx.2 fun e o he ho hbelow => ih o ho ?_ hbelow
      intro scope depth o' e' hmem
      exact h scope depth o' e' (TypedObject.mem_graph.2 (.inr ⟨o, ho, hmem⟩))

/-- What holds of each object because of its element, holds of all objects of the graph. -/
theorem TypedObject.Alongside.forall_graph {T : TypedObject → Prop} {x : TypedObject} {e : Element}
    (h : ∀ scope depth o e, P scope depth o e → T o) (hx : x.Alongside P scope depth e) :
    ∀ o ∈ x.graph, T o := by
  induction x generalizing scope depth e with
  | mk head children ih =>
      obtain ⟨tag, nodes⟩ := e
      rw [TypedObject.alongside_mk] at hx
      rw [TypedObject.forall_mem_graph]
      refine ⟨h _ _ _ _ hx.1, fun o ho => ?_⟩
      obtain ⟨e, -, hbelow⟩ := exists_element_of_mem hx.2 ho
      exact ih o ho hbelow

/-- What holds of each element because of the object it stands for, holds everywhere in the tree. -/
theorem TypedObject.Alongside.everywhere {T : Scope → Nat → Element → Prop} {x : TypedObject}
    {e : Element} (h : ∀ scope depth o e, P scope depth o e → T scope depth e)
    (hx : x.Alongside P scope depth e) : e.Everywhere T scope depth := by
  induction x generalizing scope depth e with
  | mk head children ih =>
      obtain ⟨tag, nodes⟩ := e
      rw [TypedObject.alongside_mk] at hx
      rw [Element.everywhere_mk]
      refine ⟨h _ _ _ _ hx.1, fun e he => ?_⟩
      obtain ⟨o, ho, hbelow⟩ := exists_object_of_mem hx.2 he
      exact ih o ho hbelow

/-- What holds of an element exactly if something holds of its object, holds everywhere in the tree
exactly if that holds of all objects of the graph. -/
theorem TypedObject.Alongside.everywhere_iff {T : Scope → Nat → Element → Prop}
    {S : TypedObject → Prop} {x : TypedObject} {e : Element}
    (h : ∀ scope depth o e, o ∈ x.graph → P scope depth o e → (T scope depth e ↔ S o))
    (hx : x.Alongside P scope depth e) : e.Everywhere T scope depth ↔ ∀ o ∈ x.graph, S o := by
  have hboth : x.Alongside (fun scope depth o e => T scope depth e ↔ S o) scope depth e := hx.imp h
  clear h hx
  induction x generalizing scope depth e with
  | mk head children ih =>
      obtain ⟨tag, nodes⟩ := e
      obtain ⟨hself, hbelow⟩ := TypedObject.alongside_mk.1 hboth
      rw [Element.everywhere_mk, TypedObject.forall_mem_graph, hself]
      refine and_congr_right fun _ => ⟨fun hnodes o ho => ?_, fun hobjects e he => ?_⟩
      · obtain ⟨e, he, hrest⟩ := exists_element_of_mem hbelow ho
        exact (ih o ho hrest).1 (hnodes e he)
      · obtain ⟨o, ho, hrest⟩ := exists_object_of_mem hbelow he
        exact (ih o ho hrest).2 (hobjects o ho)

end Alongside

end XmlBinding
