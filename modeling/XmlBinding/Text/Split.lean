/-!
Cutting a text at separators.
-/

namespace XmlBinding.Text

/-- The parts between separators; there is one more of them than separators. -/
def splitOn (isSeparator : Char → Bool) : List Char → List (List Char)
  | [] => [[]]
  | c :: rest =>
      if isSeparator c then [] :: splitOn isSeparator rest
      else
        match splitOn isSeparator rest with
        | [] => [[c]]
        | first :: others => (c :: first) :: others

/-- The parts before and after the last separator, if there is one. -/
def cutLast (isSeparator : Char → Bool) (cs : List Char) : Option (List Char × List Char) :=
  match cs.reverse.dropWhile (fun c => !isSeparator c) with
  | [] => none
  | _ :: before => some (before.reverse, (cs.reverse.takeWhile fun c => !isSeparator c).reverse)

/-- The parts before and after the first occurrence of a pattern. -/
def cut (pattern : List Char) : List Char → Option (List Char × List Char)
  | [] => none
  | c :: rest =>
      if pattern.isPrefixOf (c :: rest) then some ([], (c :: rest).drop pattern.length)
      else (cut pattern rest).map fun (before, after) => (c :: before, after)

theorem length_of_cut {pattern cs before after : List Char}
    (h : cut pattern cs = some (before, after)) :
    before.length + pattern.length + after.length = cs.length := by
  induction cs generalizing before with
  | nil => simp [cut] at h
  | cons c rest ih =>
      rw [cut] at h
      split at h
      · next hp =>
          obtain ⟨rfl, rfl⟩ := Prod.mk.inj (Option.some.inj h)
          have := (List.isPrefixOf_iff_prefix.1 hp).length_le
          simp only [List.length_nil, List.length_drop]
          omega
      · obtain ⟨⟨b, a⟩, hb, he⟩ := Option.map_eq_some_iff.1 h
        obtain ⟨rfl, rfl⟩ := Prod.mk.inj he
        have := ih hb
        simp only [List.length_cons]
        omega

end XmlBinding.Text
