/-!
Bounds on the depth of nesting and on the attributes and children of one element, which reading and
writing both enforce.
-/

namespace XmlBinding

structure Limits where
  maxDepth : Nat
  maxAttributes : Nat
  maxChildren : Nat
deriving DecidableEq, Inhabited

/-- What exceeds its bound. -/
inductive Measure where
  | depth
  | attributes
  | children

/-- Why an element is refused for its size. -/
inductive LimitFault where
  | exceeded (measure : Measure) (found maximum : Nat)
  | other (message : String)

def Measure.display : Measure → String
  | .depth => "element depth"
  | .attributes => "attribute count"
  | .children => "child count"

def LimitFault.message : LimitFault → String
  | .exceeded measure found maximum => s!"{measure.display} {found} exceeds maximum {maximum}"
  | .other message => message

namespace Limits

def standard : Limits := ⟨256, 1000, 100000⟩

def strict : Limits := ⟨64, 100, 10000⟩

def permissive : Limits := ⟨4096, 10000, 1000000⟩

def maximum (l : Limits) : Measure → Nat
  | .depth => l.maxDepth
  | .attributes => l.maxAttributes
  | .children => l.maxChildren

/-- The bound itself is still allowed. -/
def check (l : Limits) (measure : Measure) (found : Nat) : Except LimitFault Unit :=
  if found ≤ l.maximum measure then .ok () else .error (.exceeded measure found (l.maximum measure))

theorem check_eq_ok_iff {l : Limits} {measure : Measure} {found : Nat} :
    l.check measure found = .ok () ↔ found ≤ l.maximum measure := by
  unfold check
  split <;> simp [*]

end Limits

end XmlBinding
