import XmlBinding.Element.Reader
import XmlBinding.Proofs.Frame
import XmlBinding.Proofs.InForce
import XmlBinding.Proofs.Joined

/-!
The bindings in force in a document and the scopes of the tree that is read of it. A document keeps
its bindings in a list, nearest declarations first, and searches it; a scope is what declarations
make of another one. As long as no tag declares a prefix twice, the two give the same look-ups.
-/

namespace XmlBinding.Markup

/-- Searching the bindings in force is searching the declarations of the tag, then what is around
it. -/
theorem find?_inForce (declared outer : List Declaration) (k : Option String) :
    (inForce declared outer).find? (fun d => d.nsPrefix == k) =
      (declared.find? fun d => d.nsPrefix == k).or (outer.find? fun d => d.nsPrefix == k) := by
  have hadd (outer ds : List Declaration) :
      (outer.foldl (fun ds d => if ds.any (·.nsPrefix == d.nsPrefix) then ds else ds ++ [d])
        ds).find? (fun d => d.nsPrefix == k) =
        (ds.find? fun d => d.nsPrefix == k).or (outer.find? fun d => d.nsPrefix == k) := by
    induction outer generalizing ds with
    | nil => exact (Option.or_none).symm
    | cons d outer ih =>
        rw [List.foldl_cons, ih]
        split
        · next hhidden =>
            -- A binding that is hidden has the prefix of one found before it.
            rw [List.any_eq_true] at hhidden
            obtain ⟨d', hd', hsame⟩ := hhidden
            rw [beq_iff_eq] at hsame
            by_cases hk : d.nsPrefix = k
            · have hfound : (ds.find? fun d => d.nsPrefix == k).isSome = true := by
                rw [List.find?_isSome]
                exact ⟨d', hd', by simp [hsame, hk]⟩
              obtain ⟨d'', hd''⟩ := Option.isSome_iff_exists.1 hfound
              rw [hd'', Option.some_or, Option.some_or]
            · rw [List.find?_cons_of_neg (by simpa using hk)]
        · rw [List.find?_append, Option.or_assoc, List.find?_cons]
          cases hk : d.nsPrefix == k with
          | true => simp [hk]
          | false => simp [hk]
  rw [inForce]
  split
  · next hempty => rw [List.isEmpty_iff.1 hempty, List.find?_nil, Option.none_or]
  · exact hadd outer declared

/-- A list of bindings in which every prefix but `xml` stands for what it stands for in a scope, and
the default likewise. -/
def Agrees (bindings : List Declaration) (scope : Scope) : Prop :=
  ∀ k, k ≠ some "xml" →
    scope.lookup k = (bindings.find? fun d => d.nsPrefix == k).bind Declaration.meaning

variable {bindings outer declared : List Declaration} {scope : Scope}

theorem agrees_empty : Agrees [] .empty := by
  intro k hk
  cases k with
  | none => rfl
  | some p =>
      have hp : p ≠ "xml" := fun h => hk (congrArg some h)
      rw [Scope.lookup_some, Scope.prefixUri, if_neg hp]
      rfl

/-- Declarations of distinct prefixes, on a tag and in a scope. -/
theorem Agrees.declareAll (h : Agrees outer scope)
    (hdistinct : (declared.map Declaration.nsPrefix).Nodup) :
    Agrees (inForce declared outer) (scope.declareAll declared) := by
  intro k hk
  rw [find?_inForce]
  cases hfound : declared.find? fun d => d.nsPrefix == k with
  | some d =>
      have hd := List.mem_of_find?_eq_some hfound
      have hsame : d.nsPrefix = k := by simpa using List.find?_some hfound
      rw [← hsame, Scope.lookup_declareAll_of_mem hdistinct hd]
      rfl
  | none =>
      have habsent : ∀ d ∈ declared, d.nsPrefix ≠ k := by
        simpa using List.find?_eq_none.1 hfound
      rw [Scope.lookup_declareAll_of_absent habsent, h k hk]
      rfl

theorem Agrees.uriOf?_some (h : Agrees bindings scope) {p : String} (hp : p ≠ "xml") :
    uriOf? bindings (some p) = scope.prefixUri p := by
  rw [uriOf?, ← Scope.lookup_some, h (some p) fun heq => hp (Option.some.inj heq)]
  cases hfound : bindings.find? fun d => d.nsPrefix == some p with
  | none => rfl
  | some d =>
      have hsame : d.nsPrefix = some p := by simpa using List.find?_some hfound
      rw [Option.map_some, Option.bind_some, Declaration.meaning, hsame]
      dsimp only
      rw [if_neg hp]

theorem Agrees.uriOf?_none (h : Agrees bindings scope) :
    present (uriOf? bindings none) = scope.defaultUri := by
  rw [uriOf?, ← Scope.lookup_none, h none nofun]
  cases hfound : bindings.find? fun d => d.nsPrefix == none with
  | none => rfl
  | some d =>
      have hsame : d.nsPrefix = none := by simpa using List.find?_some hfound
      rw [Option.map_some, Option.bind_some, Declaration.meaning, hsame]

/-! ### The names of a written tag -/

theorem ne_nil_of_ne_empty {s : String} (h : s ≠ "") : s.toList ≠ [] :=
  fun hnil => h (String.toList_eq_nil_iff.1 hnil)

/-- An element name that means its namespace is read with this namespace. -/
theorem Agrees.elementUri? (h : Agrees bindings scope) {name : QName} (hnormal : name.Normal)
    (hnamed : name.NamedIn scope) (hxml : name.nsPrefix ≠ some "xml") :
    ∃ uri, Markup.elementUri? bindings name.raw = some uri ∧ present uri = name.uri := by
  have hlookup := hnamed.1
  rw [Markup.elementUri?, QName.raw]
  cases hp : name.nsPrefix with
  | none =>
      rw [hp, Scope.lookup_none, ← h.uriOf?_none] at hlookup
      exact ⟨_, rfl, hlookup⟩
  | some p =>
      have hne : p ≠ "xml" := fun heq => hxml (hp.trans (congrArg some heq))
      rw [hp, Scope.lookup_some, ← h.uriOf?_some hne] at hlookup
      obtain ⟨uri, huri⟩ : ∃ uri, name.uri = some uri := by
        cases huri : name.uri with
        | some uri => exact ⟨uri, rfl⟩
        | none => cases hp.symm.trans (hnamed.2 huri)
      have hempty : p.toList.isEmpty = false := by
        rw [List.isEmpty_eq_false_iff]
        exact ne_nil_of_ne_empty (hnormal.prefix_ne hp)
      rw [Option.getD_some, hempty, String.ofList_toList, hlookup, huri]
      exact ⟨some uri, rfl, present_of_ne (hnormal.uri_ne huri)⟩

/-- The prefix `xml` of an element is bound to nothing in a document. -/
theorem elementUri?_xml (hbindings : ∀ d ∈ bindings, d.nsPrefix ≠ some "xml") {name : QName}
    (hp : name.nsPrefix = some "xml") : elementUri? bindings name.raw = none := by
  have hnone : bindings.find? (fun d => d.nsPrefix == some "xml") = none := by
    rw [List.find?_eq_none]
    simpa using hbindings
  rw [elementUri?, QName.raw, hp]
  show (uriOf? bindings (some (String.ofList "xml".toList))).map some = none
  rw [String.ofList_toList, uriOf?, hnone]
  rfl

/-- An attribute whose prefix stands for its namespace is read with this namespace. -/
theorem Agrees.attributeUri? (h : Agrees bindings scope) {name : QName} (hnormal : name.Normal)
    (hbound : name.BoundIn scope) : Markup.attributeUri? bindings name.raw = some name.uri := by
  rw [Markup.attributeUri?, QName.raw]
  cases huri : name.uri with
  | none =>
      rw [QName.BoundIn, huri] at hbound
      have hp : name.nsPrefix = none := hbound
      rw [hp]
      rfl
  | some uri =>
      obtain ⟨p, hp, hlookup⟩ := (QName.boundIn_iff huri).1 hbound
      have hempty : p.toList.isEmpty = false := by
        rw [List.isEmpty_eq_false_iff]
        exact ne_nil_of_ne_empty (hnormal.prefix_ne hp)
      rw [hp, Option.getD_some, hempty]
      by_cases hxml : p = "xml"
      · subst hxml
        rw [Scope.prefixUri_xml] at hlookup
        rw [if_neg Bool.false_ne_true, if_pos rfl, hlookup]
      · have hne : p.toList ≠ "xml".toList := fun heq => hxml (String.toList_inj.1 heq)
        rw [if_neg Bool.false_ne_true, if_neg hne, String.ofList_toList, h.uriOf?_some hxml,
          hlookup]
        rfl

/-! ### Reading a tree -/

/-- What holds of the declarations of a tag, and of what is around it, and is kept by one more
binding that is not hidden, holds of the bindings in force. -/
theorem inForce_induction {motive : List Declaration → Prop} (hdeclared : motive declared)
    (houter : motive outer)
    (hadd : ∀ ds, motive ds → ∀ d ∈ outer, (∀ d' ∈ ds, d'.nsPrefix ≠ d.nsPrefix) →
      motive (ds ++ [d])) : motive (inForce declared outer) := by
  rw [inForce]
  split
  · exact houter
  · refine List.foldlRecOn outer _ hdeclared fun ds hds d hd => ?_
    split
    · exact hds
    · next hfresh =>
        refine hadd ds hds d hd fun d' hd' hsame => hfresh ?_
        exact List.any_eq_true.2 ⟨d', hd', beq_iff_eq.2 hsame⟩

theorem forall_mem_inForce {P : Declaration → Prop} (hdeclared : ∀ d ∈ declared, P d)
    (houter : ∀ d ∈ outer, P d) : ∀ d ∈ inForce declared outer, P d := by
  refine inForce_induction (motive := fun ds => ∀ d ∈ ds, P d) hdeclared houter
    fun ds hds d hd _ => ?_
  exact List.forall_mem_append.2 ⟨hds, List.forall_mem_singleton.2 (houter d hd)⟩

/-- What a run of reading a tree consists of. -/
theorem Tree.element?_eq_some {name : RawName} {attributes : List RawAttribute}
    {pieces : List Piece} {e : Element} :
    Tree.element? outer ⟨name, attributes, pieces⟩ = some e ↔
      name.nsPrefix ≠ "xmlns".toList ∧
        ∃ split uri table nodes, splitTag? attributes = some split ∧
          Markup.elementUri? (inForce split.declared outer) name = some uri ∧
          resolveAttributes? (inForce split.declared outer) split.attributes = some table ∧
          Piece.nodes? (inForce split.declared outer) pieces = some nodes ∧
          ⟨⟨qualified (inForce split.declared outer) uri name.localName,
            newDeclarations (inForce split.declared outer) outer, table⟩, nodes⟩ = e := by
  rw [Tree.element?]
  by_cases hxmlns : name.nsPrefix = "xmlns".toList
  · rw [if_pos hxmlns]
    exact ⟨nofun, fun h => absurd hxmlns h.1⟩
  · rw [if_neg hxmlns]
    simp only [Option.bind_eq_bind, Option.bind_eq_some_iff, Option.pure_def, Option.some.injEq,
      ne_eq, hxmlns, not_false_eq_true, true_and]
    constructor
    · rintro ⟨split, hsplit, uri, huri, table, htable, nodes, hnodes, he⟩
      exact ⟨split, uri, table, nodes, hsplit, huri, htable, hnodes, he⟩
    · rintro ⟨split, uri, table, nodes, hsplit, huri, htable, hnodes, he⟩
      exact ⟨split, hsplit, uri, huri, table, htable, nodes, hnodes, he⟩

theorem Piece.nodes?_eq_some {pieces : List Piece} {nodes : List Node} :
    Piece.nodes? outer pieces = some nodes ↔
      List.Forall₂ (fun piece n => Piece.node? outer piece = some n) pieces nodes := by
  induction pieces generalizing nodes with
  | nil =>
      rw [Piece.nodes?, List.forall₂_nil_left_iff]
      exact ⟨fun h => (Option.some.inj h).symm, fun h => congrArg some h.symm⟩
  | cons piece pieces ih =>
      rw [Piece.nodes?, List.forall₂_cons_left_iff]
      simp only [Option.bind_eq_bind, Option.bind_eq_some_iff, Option.pure_def, Option.some.injEq,
        ih]
      constructor
      · rintro ⟨n, hn, ns, hns, rfl⟩
        exact ⟨n, ns, hn, hns, rfl⟩
      · rintro ⟨n, ns, hn, hns, rfl⟩
        exact ⟨n, hn, ns, hns, rfl⟩

end XmlBinding.Markup
