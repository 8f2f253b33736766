/-!
Character classes given by closed intervals of code points, in ascending order, and properties given
by a value for each interval.
-/

namespace XmlBinding.Text

/-- Membership in a class listed as closed intervals of code points. -/
def inRanges (ranges : List (Nat × Nat)) (c : Char) : Bool :=
  ranges.any fun range => decide (range.1 ≤ c.toNat) && decide (c.toNat ≤ range.2)

theorem inRanges_iff {ranges : List (Nat × Nat)} {c : Char} :
    inRanges ranges c = true ↔ ∃ range ∈ ranges, range.1 ≤ c.toNat ∧ c.toNat ≤ range.2 := by
  simp [inRanges]

/-- The value that stands in a table for a character. -/
def valueInRanges? (table : List (Nat × Nat × α)) (c : Char) : Option α :=
  (table.find? fun entry => decide (entry.1 ≤ c.toNat) && decide (c.toNat ≤ entry.2.1)).map (·.2.2)

end XmlBinding.Text
