import XmlBinding.Proofs.Qualify

/-!
The text for a type while the tag of an object is written. Whatever was written before, the
declarations of the tag are in force and its prefixes can be read again, so the text denotes the
type, and no attribute that is written later changes this. Main statement: this, and for which types
there is no text.
-/

namespace XmlBinding

/-- The scope has no text for a type, and the type has no prefix to make one with: without a
namespace it would be read as in the default one, and with one nothing stands for the
namespace. -/
def Scope.NoText (s : Scope) (type : QName) : Prop :=
  type.uri = none ∧ s.defaultUri ≠ none ∨
    ∃ uri, type.uri = some uri ∧ type.nsPrefix = none ∧ (∀ p, s.prefixUri p ≠ some uri) ∧
      s.defaultUri ≠ some uri

theorem ObjectHead.Legal.demands {allowed : String → Prop} {head : ObjectHead}
    (h : head.Legal allowed) : ∀ d ∈ head.demands, d.PrefixIn allowed := by
  intro d hd
  rcases List.mem_append.1 hd with hd | hd
  · exact h.declarations d hd
  · rw [List.mem_singleton.1 hd]
    intro p hp
    refine ⟨h.elementName.prefixIn p hp, ?_⟩
    rintro rfl
    rw [h.xmlName hp]
    rfl

namespace Frame

variable {f f' : Frame} {type : QName} {text : String}

/-- The frames that are reached while a tag is written, from the point on where its name is bound:
types may be spelled and attributes be written, in any order. -/
inductive Reached : Frame → Prop where
  | opened {head : ObjectHead} {scope : Scope} {f : Frame}
      (demands : ∀ d ∈ head.demands, d.PrefixIn fun p => isNCName p = true)
      (prefixes : scope.PrefixesIn fun p => isNCName p = true)
      (opens : head.openTag scope = .ok f) : Reached f
  | typed {f f' : Frame} {type : QName} {text : String} (before : Reached f) (proper : type.Proper)
      (spells : f.typeText type = .ok (text, f')) : Reached f'
  | written {f f' : Frame} {w : Entry} (before : Reached f)
      (legal : w.1.Legal fun p => isNCName p = true) (writes : f.write w = .ok f') : Reached f'

theorem Reached.reflected (h : Reached f) : f.Reflected := by
  induction h with
  | opened demands prefixes opens =>
      refine foldlM_invariant (fun d hd f f' hf hbind => hf.bind ?_ hbind) (reflected_start _ _)
        (ObjectHead.openTag_eq_ok.1 opens).2
      intro hempty
      exact ne_empty_of_isNCName (demands d hd "" hempty).1 rfl
  | typed before proper spells ih => exact ih.grows (typeText_grows proper.normal spells).2
  | written before legal writes ih =>
      obtain ⟨f₁, name, hgrows, -, rfl⟩ := write_grows legal.normal writes
      have h₁ : f₁.Reflected := ih.grows hgrows
      exact h₁

theorem Reached.prefixes (h : Reached f) : f.scope.PrefixesIn fun p => isNCName p = true := by
  induction h with
  | opened demands prefixes opens =>
      have hopened := (opened_start rfl prefixes).bindAll Scope.tracking_eq prefixClass_isNCName
        demands (ObjectHead.openTag_eq_ok.1 opens).2
      exact hopened.prefixes
  | typed before proper spells ih =>
      have hspells := typeText_sound true prefixClass_isNCName ih proper.legal spells
      exact hspells.run.prefixes prefixClass_isNCName ih
  | written before legal writes ih =>
      obtain ⟨⟨name, f₁⟩, hqualify, heq⟩ := bind_eq_ok.1 writes
      rw [pure_eq_ok] at heq
      subst heq
      have h₁ : f₁.scope.PrefixesIn fun p => isNCName p = true :=
        prefixesIn_of_qualify prefixClass_isNCName ih legal hqualify
      exact h₁

/-- A frame whose tag is complete is one of them. -/
theorem reached_of_writeTag {head : ObjectHead} {content : Option String} {config : MarshalConfig}
    {scope : Scope} (hhead : head.Legal fun p => isNCName p = true)
    (hscope : scope.PrefixesIn fun p => isNCName p = true)
    (htype : ∀ type, head.schemaType = some type → type.Proper)
    (h : head.writeTag content config scope = .ok f) : Reached f := by
  obtain ⟨-, -, -, f₀, typeText, f₁, hopen, hspell, hwrite⟩ := ObjectHead.writeTag_eq_ok.1 h
  have h₀ : Reached f₀ := .opened hhead.demands hscope hopen
  have h₁ : Reached f₁ := by
    cases hschema : head.schemaType with
    | none =>
        rw [hschema] at hspell
        cases hspell
        exact h₀
    | some type =>
        rw [hschema] at hspell
        obtain ⟨⟨value, f₁⟩, hspell, heq⟩ := map_eq_ok.1 hspell
        cases heq
        exact .typed h₀ (htype type hschema) hspell
  refine foldlM_invariant (fun w hw f f' hf hwrites => ?_) h₁ hwrite
  exact .written hf (hhead.entries prefixClass_isNCName typeText w hw).1 hwrites

theorem extends_of_writeAll {ws : List Entry} (hws : ∀ w ∈ ws, w.1.Normal)
    (h : ws.foldlM write f = .ok f') : f'.scope.Extends f.scope := by
  refine foldlM_invariant (motive := fun f' => f'.scope.Extends f.scope)
    (fun w hw f₁ f₂ hf hwrites => ?_) (Scope.Extends.refl _) h
  obtain ⟨f₃, name, hgrows, -, rfl⟩ := write_grows (hws w hw) hwrites
  exact hgrows.extends.trans hf

/-- There is no text for a type exactly where its name cannot be qualified nor go without a
prefix. -/
theorem typeText_eq_error_iff {allowed : String → Prop} (hf : f.Reflected)
    (hs : f.scope.PrefixesIn allowed) (htype : type.Normal) {fault : MarshalFault} :
    f.typeText type = .error fault ↔
      f.scope.NoText type ∧
        fault = ⟨.unresolvableType type, some f.tag.name, some xsiTypeName⟩ := by
  rw [typeText, Scope.NoText]
  cases huri : type.uri with
  | none =>
      cases hdefault : f.scope.defaultUri with
      | none => simp
      | some uri => simp [fail, eq_comm]
  | some uri =>
      dsimp only
      split
      · next hplain =>
          rw [Bool.and_eq_true, beq_iff_eq] at hplain
          constructor
          · rintro ⟨⟩
          · rintro ⟨⟨⟨⟩, -⟩ | ⟨_, ⟨⟩, -, -, hother⟩, -⟩
            exact absurd hplain.2 hother
      · next hplain =>
          cases hqualify : f.qualify type true with
          | ok x =>
              constructor
              · rintro ⟨⟩
              · rintro ⟨⟨⟨⟩, -⟩ | ⟨_, ⟨⟩, hbare, hall, -⟩, -⟩
                have herror : f.qualify type true = .error _ :=
                  (qualify_eq_error_iff hf hs htype).2 ⟨⟨uri, huri, hbare, hall⟩, rfl⟩
                cases hqualify.symm.trans herror
          | error fault' =>
              obtain ⟨⟨_, huri', hbare, hall⟩, -⟩ := (qualify_eq_error_iff hf hs htype).1 hqualify
              cases huri.symm.trans huri'
              have hother : f.scope.defaultUri ≠ some uri := by
                simpa [hbare, hs.findPrefix_eq_none_iff.2 hall] using hplain
              dsimp only
              rw [fail, Except.error.injEq, eq_comm, iff_and_self]
              rintro -
              exact .inr ⟨uri, rfl, hbare, hall, hother⟩

/-- The text for a type is read as the type, at once and after any attributes more. There is none
exactly where the type has no namespace but there is a default, and where the type has a namespace
but no prefix, and neither a prefix nor the default stands for the namespace. -/
theorem typeText_exactly (reached : f.Reached) (proper : type.Proper) :
    (∀ text f', f.typeText type = .ok (text, f') →
      ∀ (ws : List Entry) (f'' : Frame), (∀ w ∈ ws, w.1.Normal) → ws.foldlM write f' = .ok f'' →
        ∃ q, f''.scope.resolve text = .ok q ∧ q.expanded = type.expanded) ∧
    (∀ fault, f.typeText type = .error fault ↔
      f.scope.NoText type ∧
        fault = ⟨.unresolvableType type, some f.tag.name, some xsiTypeName⟩) := by
  refine ⟨fun text f' htext ws f'' hws hwrites => ?_,
    fun fault => typeText_eq_error_iff reached.reflected reached.prefixes proper.normal⟩
  have hspells := typeText_sound true prefixClass_isNCName reached.prefixes proper.legal htext
  have hdenotes : f''.scope.denotes text = some type.expanded :=
    (extends_of_writeAll hws hwrites).denotes (hspells.denotes (fun _ hp => hp) proper.localName)
  obtain ⟨q, hq, hexpanded⟩ := Option.map_eq_some_iff.1 hdenotes
  exact ⟨q, toOption_eq_some.1 hq, hexpanded⟩

/-- The prefix of the type is bound to the namespace of the element. -/
theorem typeText_numbered :
    ∃ f f' f'', (TypeDescriptor.ofName (.prefixed "urn:test" "ThingType" "t")
        |>.buildNamed (.prefixed "urn:other" "Other" "t")).openTag .empty = .ok f ∧
      f.typeText (.prefixed "urn:test" "ThingType" "t") = .ok ("ns1:ThingType", f') ∧
      [(QName.prefixed "urn:ext" "extra" "t", "", true)].foldlM write f' = .ok f'' ∧
      ∃ q, f''.scope.resolve "ns1:ThingType" = .ok q ∧
        q.expanded = ⟨some "urn:test", "ThingType"⟩ := by
  have hdemands : ∀ d ∈ (TypeDescriptor.ofName (.prefixed "urn:test" "ThingType" "t")
      |>.buildNamed (.prefixed "urn:other" "Other" "t")).demands,
      d.PrefixIn fun p => isNCName p = true := by
    intro d hd
    rw [List.mem_singleton.1 hd]
    rintro _ ⟨⟩
    exact ⟨by decide, by decide⟩
  refine ⟨_, _, _, rfl, rfl, rfl, ?_⟩
  have hproper : (QName.prefixed "urn:test" "ThingType" "t").Proper := by decide
  have hreached := Reached.opened hdemands Scope.prefixesIn_empty rfl
  have hnormal : ∀ w ∈ [(QName.prefixed "urn:ext" "extra" "t", "", true)], w.1.Normal := by decide
  exact (typeText_exactly hreached hproper).1 _ _ rfl _ _ hnormal rfl

end Frame

end XmlBinding
