import XmlBinding.Proofs.Measure

/-!
Whose fault an error is. Whatever goes wrong in reading is put on the document: an element of it
says what cannot be read, or exceeds a limit. Writing fails for what an object says, and this is put
on the local program, or because an object exceeds a limit. The error for the limit does not tell
the directions apart, so it is put on a document here, too, although there is none.
-/

namespace XmlBinding

/-! ### Errors in writing -/

section Writing

variable {scope : Scope} {depth : Nat} {error : Error}

/-- A child that cannot be written is an object that cannot be. -/
theorem Child.marshalAll_eq_error {config : MarshalConfig} {children : List Child}
    (h : Child.marshalAll config scope depth children = .error error) :
    ∃ o, .object o ∈ children ∧ o.marshalAt config scope depth = .error error := by
  induction children with
  | nil => cases h
  | cons child children ih =>
      rw [Child.marshalAll] at h
      rcases bind_eq_error.1 h with hchild | ⟨node, -, hrest⟩
      · cases child with
        | text value => cases hchild
        | object o =>
            rw [Child.marshal, map_eq_error] at hchild
            exact ⟨o, List.mem_cons_self, hchild⟩
      · rcases bind_eq_error.1 hrest with hchildren | ⟨nodes, -, hpure⟩
        · obtain ⟨o, ho, herror⟩ := ih hchildren
          exact ⟨o, List.mem_cons_of_mem child ho, herror⟩
        · cases hpure

/-- An object cannot be written for what one in it says, or for the size of one in it. -/
theorem TypedObject.marshalAt_eq_error {config : MarshalConfig} {x : TypedObject}
    (h : x.marshalAt config scope depth = .error error) :
    (∃ fault, error = .marshalling fault) ∨
      ∃ depth' o, Inside TypedObject.Below depth x depth' o ∧
        config.limits.Refuses
          (Measure.found depth' (o.attributes.size + o.unknown.size) o.children.length) error := by
  induction x generalizing scope depth with
  | mk head children ih =>
      rw [marshalAt] at h
      rcases bind_eq_error.1 h with hframe | ⟨f, -, h⟩
      · rw [frame] at hframe
        rcases bind_eq_error.1 hframe with hlimits | ⟨-, -, htag⟩
        · exact .inr ⟨depth, ⟨head, children⟩, .self _ _, refuses_of_checkLimits hlimits⟩
        · obtain ⟨fault, -, rfl⟩ := mapError_eq_error.1 htag
          exact .inl ⟨fault, rfl⟩
      rcases bind_eq_error.1 h with hchildren | ⟨nodes, -, hpure⟩
      · obtain ⟨child, hchild, hunwritten⟩ := Child.marshalAll_eq_error hchildren
        refine (ih child hchild hunwritten).imp_right ?_
        rintro ⟨depth', o, hinside, hrefuses⟩
        exact ⟨depth', o, .under hchild hinside, hrefuses⟩
      · cases hpure

end Writing

/-- Whatever is read and written: an error in reading is put on the document, and is about what an
element of it says or about its size. An error in writing is put on the local program exactly if it
is about what an object says; it is put on a document exactly if it is about the size of an object
that exceeds a limit. -/
theorem Error.isRejected_exactly (r : Registry) (reader : UnmarshalConfig) (writer : MarshalConfig)
    (scope : Scope) (e : Element) (x : TypedObject) :
    (∀ error, e.unmarshal r reader scope = .error error →
      error.isRejected = true ∧
        ((∃ fault, error = .unmarshalling fault) ∨
          ∃ depth el, Inside Element.Below 1 e depth el ∧
            reader.limits.Refuses (Measure.found depth el.attributes.size el.children.length)
              error)) ∧
    ∀ error, x.marshal writer scope = .error error →
      (error.isRejected = false ↔ ∃ fault, error = .marshalling fault) ∧
        (error.isRejected = true ↔ ∃ depth o, Inside TypedObject.Below 1 x depth o ∧
          writer.limits.Refuses
            (Measure.found depth (o.attributes.size + o.unknown.size) o.children.length)
            error) := by
  constructor
  · intro error herror
    have hcause := Element.unmarshalAt_eq_error herror
    refine ⟨?_, hcause⟩
    rcases hcause with ⟨fault, rfl⟩ | ⟨depth, el, -, hrefuses⟩
    · rfl
    · exact hrefuses.isRejected
  · intro error herror
    rcases TypedObject.marshalAt_eq_error herror with ⟨fault, rfl⟩ | ⟨depth, o, hholds, hrefuses⟩
    · have hlocal : (Error.marshalling fault).isRejected = false := rfl
      refine ⟨⟨fun _ => ⟨fault, rfl⟩, fun _ => hlocal⟩, nofun, ?_⟩
      rintro ⟨depth, o, -, hrefuses⟩
      exact hrefuses.isRejected
    · have hremote : error.isRejected = true := hrefuses.isRejected
      refine ⟨⟨fun hlocal => ?_, ?_⟩, fun _ => ⟨depth, o, hholds, hrefuses⟩, fun _ => hremote⟩
      · rw [hremote] at hlocal
        cases hlocal
      · rintro ⟨fault, rfl⟩
        cases hremote

/-- An object with a text in it. -/
def crowded : TypedObject :=
  ((TypeDescriptor.ofName (.prefixed "urn:n" "Thing" "t")).withContent .mixed).build.addChild
    (.text "a")

/-- Where no child is allowed, the object cannot be written, and a document is said to be to blame
that was never read. -/
theorem crowded_blamed :
    ∃ error, crowded.marshal ⟨{ Limits.standard with maxChildren := 0 }, true⟩ .empty =
      .error error ∧ error.isRejected = true :=
  ⟨.limitExceeded (.exceeded .children 1 0), rfl, rfl⟩

end XmlBinding
