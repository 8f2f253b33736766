import Mathlib.Data.List.TakeWhile
import XmlBinding.Binding.Frame
import XmlBinding.Proofs.Outcome

/-!
Names as they are written. A proper name is one that the checked constructor returns unchanged; its
written form can be taken apart again at the one colon. The numbered prefixes that are made up while
writing are names themselves, and no two of them are equal.
-/

namespace XmlBinding

theorem present_of_ne {s : String} (h : s ≠ "") : present (some s) = some s := by
  simp [present, h]

@[simp] theorem present_empty : present (some "") = none := rfl

@[simp] theorem present_none : present none = none := rfl

theorem present_eq_self_iff {s : Option String} : present s = s ↔ s ≠ some "" := by
  cases s with
  | none => simp
  | some s =>
      by_cases h : s = ""
      · subst h
        simp
      · simp [present_of_ne h, h]

theorem checkNCName_eq_ok {s : String} : checkNCName s = .ok () ↔ isNCName s = true := by
  unfold checkNCName
  split <;> simp [*]

theorem ne_empty_of_isNCName {s : String} (h : isNCName s = true) : s ≠ "" := by
  rintro rfl
  exact absurd h (by decide)

theorem isNCName_xml : isNCName "xml" = true := by
  decide

theorem isNCName_instancePrefix : isNCName instancePrefix = true := by
  decide

/-! ### Taking a written name apart -/

theorem splitColon_of_not_mem {s : String} (h : ':' ∉ s.toList) : splitColon s = (none, s) := by
  have hdrop : s.toList.dropWhile (· != ':') = [] := by
    rw [List.dropWhile_eq_nil_iff]
    intro c hc
    simpa using fun e : c = ':' => h (e ▸ hc)
  rw [splitColon, hdrop]

theorem splitColon_join {p l : String} (h : ':' ∉ p.toList) :
    splitColon s!"{p}:{l}" = (some p, l) := by
  have hall : ∀ c ∈ p.toList, (c != ':') = true := by
    intro c hc
    simpa using fun e : c = ':' => h (e ▸ hc)
  have hlist : (s!"{p}:{l}").toList = p.toList ++ ':' :: l.toList := by
    simp [toString]
  have hdrop : (s!"{p}:{l}").toList.dropWhile (· != ':') = ':' :: l.toList := by
    rw [hlist, List.dropWhile_append_of_pos hall, List.dropWhile_cons_of_neg (by simp)]
  have htake : (s!"{p}:{l}").toList.takeWhile (· != ':') = p.toList := by
    rw [hlist, List.takeWhile_append_of_pos hall, List.takeWhile_cons_of_neg (by simp),
      List.append_nil]
  rw [splitColon, hdrop]
  simp only [htake, String.ofList_toList]

/-! ### Names that pass the checks -/

namespace QName

theorem check_eq_ok {q : QName} :
    q.check = .ok () ↔
      isNCName q.localName = true ∧ ∀ p, q.nsPrefix = some p → isNCName p = true := by
  rw [check, bind_eq_ok]
  constructor
  · rintro ⟨⟨⟩, hlocal, hrest⟩
    refine ⟨checkNCName_eq_ok.1 hlocal, fun p hp => ?_⟩
    rw [hp] at hrest
    exact checkNCName_eq_ok.1 hrest
  · rintro ⟨hlocal, hnsPrefix⟩
    refine ⟨(), checkNCName_eq_ok.2 hlocal, ?_⟩
    cases hp : q.nsPrefix with
    | none => rfl
    | some p => exact checkNCName_eq_ok.2 (hnsPrefix p hp)

theorem of?_eq_ok {uri nsPrefix : Option String} {localName : String} {q : QName} :
    of? uri localName nsPrefix = .ok q ↔ q = of uri localName nsPrefix ∧ q.check = .ok () := by
  rw [of?, bind_eq_ok]
  constructor
  · rintro ⟨⟨⟩, hcheck, hq⟩
    rw [pure_eq_ok] at hq
    exact ⟨hq.symm, hq ▸ hcheck⟩
  · rintro ⟨rfl, hcheck⟩
    exact ⟨(), hcheck, rfl⟩

/-- A name as the constructor makes it: neither its namespace nor its prefix is the empty text. -/
def Normal (q : QName) : Prop :=
  of q.uri q.localName q.nsPrefix = q

/-- A name that the checked constructor returns unchanged. -/
def Proper (q : QName) : Prop :=
  of? q.uri q.localName q.nsPrefix = .ok q

instance (q : QName) : Decidable q.Normal :=
  inferInstanceAs (Decidable (_ = _))

theorem normal_iff {q : QName} : q.Normal ↔ q.uri ≠ some "" ∧ q.nsPrefix ≠ some "" := by
  obtain ⟨⟨uri, localName⟩, nsPrefix⟩ := q
  simp only [Normal, of, QName.mk.injEq, ExpandedName.mk.injEq, and_true, present_eq_self_iff]

theorem proper_iff {q : QName} : q.Proper ↔
    q.Normal ∧ isNCName q.localName = true ∧ ∀ p, q.nsPrefix = some p → isNCName p = true := by
  rw [Proper, of?_eq_ok, check_eq_ok]
  constructor
  · rintro ⟨h, hnames⟩
    exact ⟨h.symm, hnames⟩
  · rintro ⟨h, hnames⟩
    exact ⟨h.symm, hnames⟩

instance (q : QName) : Decidable q.Proper :=
  decidable_of_iff (q.Normal ∧ isNCName q.localName = true ∧
    ∀ p ∈ q.nsPrefix, isNCName p = true) proper_iff.symm

theorem Normal.uri_ne {q : QName} (h : q.Normal) {uri : String} (hu : q.uri = some uri) :
    uri ≠ "" := by
  rintro rfl
  exact (normal_iff.1 h).1 hu

theorem Normal.prefix_ne {q : QName} (h : q.Normal) {p : String} (hp : q.nsPrefix = some p) :
    p ≠ "" := by
  rintro rfl
  exact (normal_iff.1 h).2 hp

/-- With the empty text for no namespace, a name has its own again. -/
theorem Normal.present_uri {q : QName} (h : q.Normal) : present (some (q.uri.getD "")) = q.uri := by
  cases huri : q.uri with
  | none => rfl
  | some uri => exact present_of_ne (h.uri_ne huri)

theorem Proper.normal {q : QName} (h : q.Proper) : q.Normal :=
  (proper_iff.1 h).1

theorem Proper.localName {q : QName} (h : q.Proper) : isNCName q.localName = true :=
  (proper_iff.1 h).2.1

theorem Proper.nsPrefix {q : QName} (h : q.Proper) {p : String} (hp : q.nsPrefix = some p) :
    isNCName p = true :=
  (proper_iff.1 h).2.2 p hp

theorem withPrefix_eq {q : QName} (h : q.Normal) {p : String} (hp : p ≠ "") :
    q.withPrefix (some p) = ⟨q.expanded, some p⟩ := by
  have huri := present_eq_self_iff.2 (normal_iff.1 h).1
  simp only [withPrefix, of, present_of_ne hp, huri]

theorem normal_of (uri nsPrefix : Option String) (localName : String) :
    (of uri localName nsPrefix).Normal := by
  refine normal_iff.2 ⟨fun h => ?_, fun h => ?_⟩
  · exact absurd (Option.mem_filter_iff.1 h).2 (by simp)
  · exact absurd (Option.mem_filter_iff.1 h).2 (by simp)

end QName

/-! ### Numbered prefixes -/

namespace Frame

theorem toList_numberedPrefix (n : Nat) :
    (numberedPrefix n).toList = 'n' :: 's' :: Nat.toDigits 10 n := by
  simp [numberedPrefix, toString, Nat.repr]

theorem numberedPrefix_inj {m n : Nat} (h : numberedPrefix m = numberedPrefix n) : m = n := by
  have hlist := congrArg String.toList h
  rw [toList_numberedPrefix, toList_numberedPrefix, List.cons.injEq, List.cons.injEq] at hlist
  rw [← Nat.ofDigitChars_ten_toDigits (n := m), hlist.2.2, Nat.ofDigitChars_ten_toDigits]

theorem isPart_of_isDigit {c : Char} (h : c.isDigit = true) : NCName.isPart c = true := by
  simp only [Char.isDigit, Bool.and_eq_true, decide_eq_true_eq] at h
  rw [NCName.isPart, Bool.or_eq_true]
  apply Or.inr
  rw [Text.inRanges_iff]
  refine ⟨(0x30, 0x39), by decide, ?_⟩
  exact h

theorem isNCName_numberedPrefix (n : Nat) : isNCName (numberedPrefix n) = true := by
  rw [isNCName, toList_numberedPrefix, NCName.accepts, Bool.and_eq_true, List.all_eq_true]
  refine ⟨by decide, ?_⟩
  intro c hc
  rcases List.mem_cons.1 hc with rfl | hdigit
  · decide
  · exact isPart_of_isDigit (Nat.isDigit_of_mem_toDigits (by decide) (by decide) hdigit)

end Frame

end XmlBinding
