/-!
Days of the proleptic Gregorian calendar. An offset from universal time is shorter than a day, so
all the calendar has to answer is which day comes next and which came before.
-/

namespace XmlBinding

structure Date where
  year : Int
  month : Nat
  day : Nat
deriving DecidableEq, Inhabited

namespace Date

def isLeapYear (year : Int) : Bool :=
  year % 4 == 0 && (year % 100 != 0 || year % 400 == 0)

def daysInMonth (year : Int) (month : Nat) : Nat :=
  match month with
  | 2 => if isLeapYear year then 29 else 28
  | 4 | 6 | 9 | 11 => 30
  | _ => 31

/-- Whether the calendar has such a day. -/
def Valid (d : Date) : Prop :=
  1 ≤ d.month ∧ d.month ≤ 12 ∧ 1 ≤ d.day ∧ d.day ≤ daysInMonth d.year d.month

instance (d : Date) : Decidable d.Valid :=
  inferInstanceAs (Decidable (_ ∧ _))

def next (d : Date) : Date :=
  if d.day < daysInMonth d.year d.month then ⟨d.year, d.month, d.day + 1⟩
  else if d.month < 12 then ⟨d.year, d.month + 1, 1⟩
  else ⟨d.year + 1, 1, 1⟩

def previous (d : Date) : Date :=
  if 1 < d.day then ⟨d.year, d.month, d.day - 1⟩
  else if 1 < d.month then ⟨d.year, d.month - 1, daysInMonth d.year (d.month - 1)⟩
  else ⟨d.year - 1, 12, 31⟩

theorem one_le_daysInMonth (year : Int) (month : Nat) : 1 ≤ daysInMonth year month := by
  unfold daysInMonth
  repeat' split
  all_goals decide

theorem valid_next {d : Date} (h : d.Valid) : d.next.Valid := by
  obtain ⟨h1, h2, h3, h4⟩ := h
  unfold next
  split
  · exact ⟨h1, h2, by simp, by simp only; omega⟩
  split
  · exact ⟨by simp, by simp only; omega, by simp, one_le_daysInMonth _ _⟩
  · exact ⟨by simp, by simp, by simp, one_le_daysInMonth _ _⟩

theorem valid_previous {d : Date} (h : d.Valid) : d.previous.Valid := by
  obtain ⟨h1, h2, h3, h4⟩ := h
  unfold previous
  split
  · exact ⟨h1, h2, by simp only; omega, by simp only; omega⟩
  split
  · exact ⟨by simp only; omega, by simp only; omega, one_le_daysInMonth _ _, Nat.le_refl _⟩
  · exact ⟨by simp, by simp, by simp, by simp [daysInMonth]⟩

end Date

end XmlBinding
