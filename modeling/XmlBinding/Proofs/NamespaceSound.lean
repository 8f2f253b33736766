import XmlBinding.Proofs.Writing

/-!
Written trees are well formed as to namespaces: read from the surroundings they were written for,
every name in them means what it was written for. Where the prefix of the attributes that every
element may have is left to the surroundings, it is enough that these bind it.
-/

namespace XmlBinding

/-- Surroundings in which a tree that is written for a scope may stand: the scope itself, or, where
the prefix of the attributes that every element may have is not declared, a scope that has the same
default and all its prefixes, and binds that prefix if the scope leaves it unbound. That there is no
default counts as a binding, too: names without a prefix are written for it, so surroundings that
have one do not suit a scope that has none. -/
def MarshalConfig.Suits (config : MarshalConfig) (scope surroundings : Scope) : Prop :=
  if config.declareInstance then surroundings = scope
  else surroundings.Extends scope ∧
    (scope.prefixUri instancePrefix = none →
      surroundings.prefixUri instancePrefix = some instanceUri)

/-- A start tag whose names have their meanings in a scope, with no prefix declared twice. -/
structure Tag.NamespaceSound (tag : Tag) (scope : Scope) : Prop where
  element : tag.name.NamedIn scope
  attributes : ∀ e ∈ tag.attributes.entries, e.1.BoundIn scope
  declarations : (tag.declarations.map Declaration.nsPrefix).Nodup

/-- The values of an object that are names can be read in a scope, and they stand on the element as
they are in the object. -/
structure TypedObject.ValuesRead (scope : Scope) (o : TypedObject) (e : Element) : Prop where
  attributes : ∀ spec ∈ o.descriptor.attributes, spec.kind = .qName →
    ∀ value, o.attribute? spec.name = some value →
      (∃ name, readQName scope value = .ok name) ∧
        (o.Routed → e.attribute? spec.name = some value)
  content : o.descriptor.content = .simple .qName →
    ∀ text, e.text? = some text → ∃ name, readQName scope text = .ok name

theorem MarshalConfig.tracking_suits (config : MarshalConfig) :
    Scope.Tracking config.declareInstance config.Suits := by
  cases hdeclare : config.declareInstance with
  | true =>
      have hsuits : config.Suits = fun s t => t = s := by
        funext s t
        rw [MarshalConfig.Suits, hdeclare]
        simp
      rw [hsuits]
      exact ⟨fun h => h ▸ Scope.Extends.refl _, fun d h => congrArg (Scope.declare · d) h, nofun⟩
  | false =>
      have hsuits {s t : Scope} : config.Suits s t ↔ t.Extends s ∧
          (s.prefixUri instancePrefix = none → t.prefixUri instancePrefix = some instanceUri) := by
        rw [MarshalConfig.Suits, hdeclare]
        simp
      -- A declaration hides the prefix on both sides or on none; taken for granted, it is the
      -- binding that the surroundings have.
      refine ⟨fun h => (hsuits.1 h).1, fun {s t} d h => ?_, fun {s t} _ h hfree => ?_⟩
      · obtain ⟨hextends, hinstance⟩ := hsuits.1 h
        refine hsuits.2 ⟨hextends.declare d, fun hfree => ?_⟩
        rw [← Scope.lookup_some, Scope.lookup_declare] at hfree ⊢
        split at hfree
        · next hsame =>
            rw [Declaration.meaning, hsame] at hfree
            dsimp only at hfree
            split at hfree <;> cases hfree
        · next hother => rw [if_neg hother, Scope.lookup_some, hinstance hfree]
      · obtain ⟨hextends, hinstance⟩ := hsuits.1 h
        refine hsuits.2 ⟨⟨fun {p uri} hp => ?_, hextends.defaultUri⟩, fun hbound => ?_⟩
        · rw [Scope.prefixUri_bindPrefix] at hp
          split at hp
          · next hsame =>
              rw [← hsame, hinstance hfree]
              exact hp
          · exact hextends.prefixUri hp
        · rw [Scope.prefixUri_bindPrefix, if_pos rfl] at hbound
          exact absurd hbound (by decide)

/-- Reading a written tree from surroundings that suit it, every element, attribute and name among
the values has the meaning it was written for, and no prefix is declared twice on one element. -/
theorem TypedObject.namespaceSound_of_marshal {x : TypedObject} {config : MarshalConfig}
    {scope surroundings : Scope} {e : Element} (hx : ∀ o ∈ x.graph, o.Legal fun p => p ≠ "")
    (hscope : scope.PrefixesIn fun p => p ≠ "") (hsuits : config.Suits scope surroundings)
    (h : x.marshal config scope = .ok e) :
    e.Everywhere (fun inForce _ el => el.NamespaceSound inForce) surroundings 1 ∧
      x.Alongside (fun inForce _ o el => o.ValuesRead inForce el) surroundings 1 e := by
  have hwritten :=
    writtenAs_of_marshalAt config.tracking_suits prefixClass_ne_empty hx hscope hsuits h
  constructor
  · apply hwritten.everywhere
    intro inForce depth o el hel
    exact ⟨hel.named, hel.bound, hel.distinct⟩
  · refine hwritten.imp fun inForce depth o el ho hel => ⟨?_, ?_⟩
    · intro spec hspec hkind value hvalue
      refine ⟨exists_readQName_iff.2 (hel.meant.attributes spec hspec hkind value hvalue), ?_⟩
      intro hrouted
      obtain ⟨typeText, -, hvalues⟩ := hel.values
      rw [Tag.attribute?, hvalues, hrouted.valueIn_entries]
      rw [ObjectHead.attribute?] at hvalue
      rw [hvalue]
      rfl
    · intro hcontent text htext
      rw [hel.text_eq] at htext
      exact exists_readQName_iff.2 (hel.meant.content hcontent text htext)

/-- An object whose name and type have one prefix for two namespaces, and a value that is a name. -/
def sharedPrefix : TypedObject :=
  ((TypeDescriptor.ofName (.prefixed "urn:a" "Thing" "t"))
    |>.withTypeName (.prefixed "urn:b" "Kind" "t")
    |>.withAttribute (.unqualified "ref") .qName
    |>.buildNamed (.prefixed "urn:a" "Other" "t")).setAttribute (.unqualified "ref") "t:Thing"

theorem sharedPrefix_legal : sharedPrefix.Legal fun p => p ≠ "" := by
  have hattributes : ∀ e ∈ sharedPrefix.attributes.entries, e.1.Normal := by decide
  refine ⟨QName.Normal.legal (by decide), nofun, fun type htype => ?_, fun e he => ?_, nofun, nofun⟩
  · cases htype
    exact QName.Normal.legal (by decide)
  · exact (hattributes e he).legal

/-- Two such objects, one in the other. Both carry their type, and the prefix for it is declared on
neither. -/
def sharedPrefixes : TypedObject :=
  sharedPrefix.addChild (.object sharedPrefix)

theorem sharedPrefix_namespaceSound :
    ∃ e, sharedPrefixes.marshal ⟨.standard, false⟩ .empty = .ok e ∧
      e.Everywhere (fun inForce _ el => el.NamespaceSound inForce)
        (Scope.empty.bindPrefix instancePrefix instanceUri) 1 ∧
      sharedPrefixes.Alongside (fun inForce _ o el => o.ValuesRead inForce el)
        (Scope.empty.bindPrefix instancePrefix instanceUri) 1 e := by
  have hwritten : (sharedPrefixes.marshal ⟨.standard, false⟩ .empty).toOption.isSome = true := by
    decide
  obtain ⟨e, he⟩ := exists_eq_ok hwritten
  have hlegal : ∀ o ∈ sharedPrefixes.graph, o.Legal fun p => p ≠ "" := by
    intro o ho
    have hgraph : sharedPrefixes.graph = [sharedPrefixes, sharedPrefix] := rfl
    rw [hgraph, List.mem_cons, List.mem_singleton] at ho
    rcases ho with rfl | rfl <;> exact sharedPrefix_legal
  have hsuits : MarshalConfig.Suits ⟨.standard, false⟩ .empty
      (Scope.empty.bindPrefix instancePrefix instanceUri) :=
    ⟨Scope.extends_bindPrefix (by decide) instanceUri, fun _ => rfl⟩
  exact ⟨e, he, TypedObject.namespaceSound_of_marshal hlegal Scope.prefixesIn_empty hsuits he⟩

end XmlBinding
