import Mathlib.Algebra.Group.Nat.Defs
import Mathlib.Data.List.Induction
import Mathlib.Data.List.TakeWhile
import XmlBinding.Proofs.Attributes

/-!
Instants and their texts. The numerals of a date and a time are read back digit by digit, and an
offset, which is shorter than a day, leads to a neighbouring day at most. So every instant that is
read is written as a text that is read as the same instant, fractions and leap seconds included,
but for two days: the last one before the year 0 and the first one of the year 10000, whose years
are written with a sign. Main statement: this is the exact condition, wherever the text is read.
-/

namespace XmlBinding

/-! ### Numerals -/

namespace Text

theorem isDigit_digitChar {n : Nat} (h : n < 10) : (digitChar n).isDigit = true := by
  revert n
  decide

theorem isDigit_of_mem_fixedDigits {width n : Nat} {c : Char} (h : c ∈ fixedDigits width n) :
    c.isDigit = true := by
  induction width generalizing n with
  | zero => cases h
  | succ width ih =>
      rcases List.mem_append.1 h with h | h
      · exact ih h
      · rw [List.mem_singleton.1 h]
        exact isDigit_digitChar (Nat.mod_lt _ (by decide))

theorem digitValue_lt {c : Char} (h : c.isDigit = true) : digitValue c < 10 := by
  simp only [Char.isDigit, Bool.and_eq_true, decide_eq_true_eq] at h
  have hle : c.toNat ≤ 57 := h.2
  rw [digitValue]
  omega

/-- As many digits cannot make a larger number than nines. -/
theorem numberOf_lt {ds : List Char} (h : ∀ c ∈ ds, c.isDigit = true) :
    numberOf ds < 10 ^ ds.length := by
  induction ds using List.reverseRecOn with
  | nil => decide
  | append_singleton ds c ih =>
      rw [List.forall_mem_append] at h
      have hvalue := digitValue_lt (h.2 c List.mem_cons_self)
      have hrest := ih h.1
      rw [numberOf_append_singleton, List.length_append, List.length_singleton, Nat.pow_succ]
      omega

theorem numberOf_fixedDigits_of_lt {width n : Nat} (h : n < 10 ^ width) :
    numberOf (fixedDigits width n) = n :=
  (numberOf_fixedDigits width n).trans (Nat.mod_eq_of_lt h)

theorem isBlank_of_isDigit {c : Char} (h : c.isDigit = true) : isBlank c = false := by
  simp only [Char.isDigit, Bool.and_eq_true, decide_eq_true_eq] at h
  have hlow : 48 ≤ c.toNat := h.1
  have hhigh : c.toNat ≤ 57 := h.2
  rw [Bool.eq_false_iff, Ne, isBlank, inRanges_iff]
  rintro ⟨range, hrange, hfrom, hto⟩
  simp only [blankRanges, List.mem_cons, List.not_mem_nil, or_false] at hrange
  rcases hrange with rfl | rfl | rfl | rfl | rfl | rfl | rfl | rfl | rfl | rfl <;> omega

/-- A text without blanks at its ends is trimmed already. -/
theorem dropEnds_of_ends {p : Char → Bool} {first last : Char} (hfirst : p first = false)
    (hlast : p last = false) (cs : List Char) :
    dropEnds p (first :: cs ++ [last]) = first :: cs ++ [last] := by
  simp [dropEnds, dropEnd, hfirst, hlast]

theorem length_le_utf8ByteSize (cs : List Char) :
    cs.length ≤ (String.ofList cs).utf8ByteSize := by
  induction cs with
  | nil => exact Nat.le_refl _
  | cons c cs ih =>
      rw [String.ofList_cons, String.utf8ByteSize_append, String.utf8ByteSize_singleton,
        List.length_cons, Nat.add_comm]
      exact Nat.add_le_add c.utf8Size_pos ih

end Text

/-! ### Days and times of day -/

namespace Date

theorem daysInMonth_le (year : Int) (month : Nat) : daysInMonth year month ≤ 31 := by
  unfold daysInMonth
  repeat' split
  all_goals decide

/-- Whether four digits are enough for the year, without a sign. -/
def FourDigit (d : Date) : Prop :=
  0 ≤ d.year ∧ d.year ≤ 9999

instance (d : Date) : Decidable d.FourDigit :=
  inferInstanceAs (Decidable (_ ∧ _))

theorem fourDigit_previous {d : Date} (h : d.FourDigit) :
    d.previous.FourDigit ∨ d.previous = ⟨-1, 12, 31⟩ := by
  obtain ⟨hlow, hhigh⟩ := h
  unfold previous
  split
  · exact .inl ⟨hlow, hhigh⟩
  split
  · exact .inl ⟨hlow, hhigh⟩
  · rcases Int.lt_or_eq_of_le hlow with hpos | hzero
    · exact .inl ⟨by simp only; omega, by simp only; omega⟩
    · exact .inr (by rw [← hzero]; rfl)

theorem fourDigit_next {d : Date} (h : d.FourDigit) :
    d.next.FourDigit ∨ d.next = ⟨10000, 1, 1⟩ := by
  obtain ⟨hlow, hhigh⟩ := h
  unfold next
  split
  · exact .inl ⟨hlow, hhigh⟩
  split
  · exact .inl ⟨hlow, hhigh⟩
  · rcases Int.lt_or_eq_of_le hhigh with hlt | hlast
    · exact .inl ⟨by simp only; omega, by simp only; omega⟩
    · exact .inr (by rw [hlast]; rfl)

end Date

/-- A time of day as it can be read; the second 60 is a leap second. -/
def Clock.Valid (c : Clock) : Prop :=
  c.hour < 24 ∧ c.minute < 60 ∧ c.second ≤ 60 ∧ c.nanos < 10 ^ 9

/-- An attribute that is set to a value is read from the text of this value. -/
theorem TypedObject.value?_setValue {o : TypedObject} (routed : o.Routed) (name : QName)
    (value : Value) (type : ValueType) :
    (o.setValue name value).value? type name = (o.convert type value.write).map some := by
  have htext : (o.setValue name value).attribute? name = some value.write := by
    exact (routed.attribute?_setAttribute name name value.write).trans (if_pos rfl)
  have hname : (o.setValue name value).elementName = o.elementName := by
    obtain ⟨_, _, hset⟩ := o.setAttribute_eq name value.write
    show (o.toObjectHead.setAttribute name value.write).elementName = _
    rw [hset]
  rw [TypedObject.value?, htext, TypedObject.convert?, TypedObject.convert, hname]
  rfl

namespace Instant

variable {cs rest : List Char}

/-! ### What is read back -/

theorem digits_eq_ok {width n m : Nat} :
    digits width n cs = .ok (m, rest) ↔
      ∃ ds, ds.length = width ∧ (∀ c ∈ ds, c.isDigit = true) ∧ cs = ds ++ rest ∧
        m = Text.continueNumber n ds := by
  induction width generalizing n cs with
  | zero =>
      simp only [digits, Except.ok.injEq, Prod.mk.injEq, List.length_eq_zero_iff]
      constructor
      · rintro ⟨rfl, rfl⟩
        exact ⟨[], rfl, nofun, rfl, rfl⟩
      · rintro ⟨ds, rfl, -, rfl, rfl⟩
        exact ⟨rfl, rfl⟩
  | succ width ih =>
      cases cs with
      | nil =>
          refine ⟨nofun, ?_⟩
          rintro ⟨ds, hlength, -, hnil, -⟩
          rw [(List.append_eq_nil_iff.1 hnil.symm).1] at hlength
          cases hlength
      | cons c cs =>
          rw [digits]
          by_cases hc : c.isDigit = true
          · rw [if_pos hc, ih]
            constructor
            · rintro ⟨ds, hlength, hall, rfl, rfl⟩
              exact ⟨c :: ds, congrArg (· + 1) hlength, List.forall_mem_cons.2 ⟨hc, hall⟩, rfl, rfl⟩
            · rintro ⟨ds, hlength, hall, happend, rfl⟩
              obtain ⟨d, ds, rfl⟩ := List.exists_cons_of_length_eq_add_one hlength
              obtain ⟨rfl, rfl⟩ := List.cons.inj happend
              exact ⟨ds, Nat.succ.inj hlength, (List.forall_mem_cons.1 hall).2, rfl, rfl⟩
          · rw [if_neg hc]
            refine ⟨nofun, ?_⟩
            rintro ⟨ds, hlength, hall, happend, -⟩
            obtain ⟨d, ds, rfl⟩ := List.exists_cons_of_length_eq_add_one hlength
            obtain ⟨rfl, rfl⟩ := List.cons.inj happend
            exact absurd (hall c List.mem_cons_self) hc

theorem digits_fixedDigits {width n : Nat} (h : n < 10 ^ width) (rest : List Char) :
    digits width 0 (Text.fixedDigits width n ++ rest) = .ok (n, rest) :=
  digits_eq_ok.2 ⟨_, Text.length_fixedDigits width n, fun _ => Text.isDigit_of_mem_fixedDigits, rfl,
    (Text.numberOf_fixedDigits_of_lt h).symm⟩

theorem lt_of_digits {width n : Nat} (h : digits width 0 cs = .ok (n, rest)) : n < 10 ^ width := by
  obtain ⟨ds, rfl, hall, -, rfl⟩ := digits_eq_ok.1 h
  exact Text.numberOf_lt hall

theorem pass_cons {p : Char → Bool} {c : Char} (h : p c = true) (rest : List Char) :
    pass p (c :: rest) = .ok rest := by
  rw [pass, if_pos h]

theorem nanosOf_lt {ds : List Char} (h : ∀ c ∈ ds, c.isDigit = true) : nanosOf ds < 10 ^ 9 := by
  have hkept : Text.numberOf (ds.take 9) < 10 ^ (ds.take 9).length :=
    Text.numberOf_lt fun c hc => h c (List.mem_of_mem_take hc)
  have hlength : (ds.take 9).length ≤ 9 := List.length_take_le 9 ds
  have hscale : 0 < 10 ^ (9 - (ds.take 9).length) := Nat.pow_pos (by decide)
  calc Text.numberOf (ds.take 9) * 10 ^ (9 - (ds.take 9).length)
      < 10 ^ (ds.take 9).length * 10 ^ (9 - (ds.take 9).length) :=
        Nat.mul_lt_mul_of_pos_right hkept hscale
    _ = 10 ^ 9 := by rw [← Nat.pow_add, Nat.add_sub_cancel' hlength]

/-- The digits that are written for a fraction, up to nine of them, make the fraction again. -/
theorem readFraction_fixedDigits {width n nanos : Nat} (hpos : 0 < width) (hwidth : width ≤ 9)
    (h : n < 10 ^ width) (hnanos : n * 10 ^ (9 - width) = nanos) {c : Char}
    (hc : c.isDigit = false) (rest : List Char) :
    readFraction ('.' :: Text.fixedDigits width n ++ c :: rest) = .ok (nanos, c :: rest) := by
  have hdigits : ∀ d ∈ Text.fixedDigits width n, d.isDigit = true :=
    fun _ => Text.isDigit_of_mem_fixedDigits
  have hstop : ¬c.isDigit = true := by simp [hc]
  have htake : (Text.fixedDigits width n ++ c :: rest).takeWhile (·.isDigit) =
      Text.fixedDigits width n := by
    rw [List.takeWhile_append_of_pos hdigits, List.takeWhile_cons_of_neg hstop, List.append_nil]
  have hdrop : (Text.fixedDigits width n ++ c :: rest).dropWhile (·.isDigit) = c :: rest := by
    rw [List.dropWhile_append_of_pos hdigits, List.dropWhile_cons_of_neg hstop]
  have hvalue : nanosOf (Text.fixedDigits width n) = nanos := by
    have hkept : (Text.fixedDigits width n).take 9 = Text.fixedDigits width n :=
      List.take_of_length_le ((Text.length_fixedDigits width n).trans_le hwidth)
    show Text.numberOf ((Text.fixedDigits width n).take 9) * 10 ^ _ = _
    rw [hkept, Text.numberOf_fixedDigits_of_lt h, Text.length_fixedDigits]
    exact hnanos
  obtain ⟨d, ds, hcons⟩ : ∃ d ds, Text.fixedDigits width n = d :: ds := by
    apply List.exists_cons_of_length_pos
    rwa [Text.length_fixedDigits]
  rw [hcons] at hdigits htake hdrop hvalue ⊢
  show (if d.isDigit then Except.ok (nanosOf _, _) else _) = _
  rw [if_pos (hdigits d List.mem_cons_self)]
  exact congrArg Except.ok (Prod.ext ((congrArg nanosOf htake).trans hvalue) hdrop)

theorem readFraction_fractionChars {nanos : Nat} (h : nanos < 10 ^ 9) {c : Char}
    (hc : c.isDigit = false) (hpoint : c ≠ '.') (rest : List Char) :
    readFraction (fractionChars nanos ++ c :: rest) = .ok (nanos, c :: rest) := by
  rw [fractionChars]
  -- As many groups of three digits as it takes to leave out nothing but zeros.
  split
  · next hzero =>
      rw [hzero, List.nil_append, readFraction]
      rintro cs ⟨⟩
      exact hpoint rfl
  split
  · next hmillis =>
      exact readFraction_fixedDigits (by decide) (by decide) (by omega) (by omega) hc rest
  split
  · next hmicros =>
      exact readFraction_fixedDigits (by decide) (by decide) (by omega) (by omega) hc rest
  · exact readFraction_fixedDigits (by decide) (by decide) h (by omega) hc rest

theorem readFraction_lt {nanos : Nat} (h : readFraction cs = .ok (nanos, rest)) :
    nanos < 10 ^ 9 := by
  unfold readFraction at h
  split at h
  · split at h
    · cases h
    · split at h
      · cases h
        exact nanosOf_lt fun c hc => by simpa using List.mem_takeWhile_imp hc
      · cases h
  · cases h
    decide

theorem readDate_append {year month day : Nat} (hyear : year < 10 ^ 4)
    (hvalid : Date.Valid ⟨year, month, day⟩) (rest : List Char) :
    readDate (Text.fixedDigits 4 year ++ '-' :: Text.fixedDigits 2 month ++
        '-' :: Text.fixedDigits 2 day ++ rest) = .ok (⟨year, month, day⟩, rest) := by
  have hmonth : month < 10 ^ 2 := Nat.lt_of_le_of_lt hvalid.2.1 (by decide)
  have hday : day < 10 ^ 2 :=
    Nat.lt_of_le_of_lt (hvalid.2.2.2.trans (Date.daysInMonth_le _ _)) (by decide)
  simp only [readDate, List.append_assoc, List.cons_append, digits_fixedDigits hyear,
    digits_fixedDigits hmonth, digits_fixedDigits hday, pass_cons, beq_self_eq_true, ok_bind]
  exact if_pos hvalid

theorem readDate_eq_ok {date : Date} (h : readDate cs = .ok (date, rest)) :
    date.Valid ∧ date.FourDigit := by
  simp only [readDate, bind_eq_ok, Prod.exists] at h
  obtain ⟨year, _, hyear, _, -, month, _, -, _, -, day, _, -, h⟩ := h
  split at h
  · next hvalid =>
      rw [pure_eq_ok, Prod.mk.injEq] at h
      obtain ⟨rfl, -⟩ := h
      have hlt := lt_of_digits hyear
      exact ⟨hvalid, by simp only; omega, by simp only; omega⟩
  · cases h

theorem readClock_append {clock : Clock} (hclock : clock.Valid) (rest : List Char) :
    readClock (Text.fixedDigits 2 clock.hour ++ ':' :: Text.fixedDigits 2 clock.minute ++
        ':' :: Text.fixedDigits 2 clock.second ++ fractionChars clock.nanos ++ 'Z' :: rest) =
      .ok (clock, 'Z' :: rest) := by
  obtain ⟨hhour, hminute, hsecond, hnanos⟩ := hclock
  have hhour' : clock.hour < 10 ^ 2 := Nat.lt_trans hhour (by decide)
  have hminute' : clock.minute < 10 ^ 2 := Nat.lt_trans hminute (by decide)
  have hsecond' : clock.second < 10 ^ 2 := Nat.lt_of_le_of_lt hsecond (by decide)
  have hfraction : readFraction (fractionChars clock.nanos ++ 'Z' :: rest) =
      .ok (clock.nanos, 'Z' :: rest) :=
    readFraction_fractionChars hnanos (by decide) (by decide) rest
  simp only [readClock, List.append_assoc, List.cons_append, digits_fixedDigits hhour',
    digits_fixedDigits hminute', digits_fixedDigits hsecond', pass_cons, beq_self_eq_true,
    hfraction, ok_bind]
  exact if_pos ⟨hhour, hminute, hsecond⟩

theorem readClock_eq_ok {clock : Clock} (h : readClock cs = .ok (clock, rest)) : clock.Valid := by
  simp only [readClock, bind_eq_ok, Prod.exists] at h
  obtain ⟨hour, _, -, _, -, minute, _, -, _, -, second, _, -, nanos, _, hnanos, h⟩ := h
  split at h
  · next hrange =>
      rw [pure_eq_ok, Prod.mk.injEq] at h
      obtain ⟨rfl, -⟩ := h
      exact ⟨hrange.1, hrange.2.1, hrange.2.2, readFraction_lt hnanos⟩
  · cases h

/-! ### Universal time -/

theorem ofLocal_zero (date : Date) {clock : Clock} (h : clock.Valid) :
    ofLocal date clock 0 = ⟨date, clock⟩ := by
  obtain ⟨hhour, hminute, -⟩ := h
  have hofDay : ((60 * (clock.hour : Int) + clock.minute - 0) % 1440).toNat =
      60 * clock.hour + clock.minute := by omega
  have hhours : (60 * clock.hour + clock.minute) / 60 = clock.hour := by omega
  have hminutes : (60 * clock.hour + clock.minute) % 60 = clock.minute := by omega
  simp only [ofLocal, hofDay, hhours, hminutes]
  rw [if_neg (by omega), if_pos (by omega)]

theorem clock_ofLocal_valid (date : Date) {clock : Clock} (h : clock.Valid) (offset : Int) :
    (ofLocal date clock offset).clock.Valid := by
  obtain ⟨-, -, hsecond, hnanos⟩ := h
  simp only [ofLocal]
  refine ⟨?_, ?_, hsecond, hnanos⟩
  · simp only
    omega
  · simp only
    omega

theorem date_ofLocal (date : Date) (clock : Clock) (offset : Int) :
    (ofLocal date clock offset).date = date.previous ∨ (ofLocal date clock offset).date = date ∨
      (ofLocal date clock offset).date = date.next := by
  simp only [ofLocal]
  split
  · exact .inl rfl
  split
  · exact .inr (.inl rfl)
  · exact .inr (.inr rfl)

/-! ### Instants that are read -/

/-- A day of the calendar and a time of day. The year has four digits, unless an offset led over the
first or the last of these years. -/
structure Proper (v : Instant) : Prop where
  date : v.date.Valid
  clock : v.clock.Valid
  year : v.date.FourDigit ∨ v.date = ⟨-1, 12, 31⟩ ∨ v.date = ⟨10000, 1, 1⟩

theorem proper_ofLocal {date : Date} {clock : Clock} (hdate : date.Valid) (hyear : date.FourDigit)
    (hclock : clock.Valid) (offset : Int) : (ofLocal date clock offset).Proper := by
  have hclock' := clock_ofLocal_valid date hclock offset
  rcases date_ofLocal date clock offset with h | h | h
  · refine ⟨?_, hclock', ?_⟩
    · exact h ▸ Date.valid_previous hdate
    · rw [h]
      exact (Date.fourDigit_previous hyear).imp_right .inl
  · refine ⟨?_, hclock', ?_⟩
    · rwa [h]
    · rw [h]
      exact .inl hyear
  · refine ⟨?_, hclock', ?_⟩
    · exact h ▸ Date.valid_next hdate
    · rw [h]
      exact (Date.fourDigit_next hyear).imp_right .inr

theorem proper_of_readChars {v : Instant} (h : readChars cs = .ok v) : v.Proper := by
  simp only [readChars, bind_eq_ok, Prod.exists] at h
  obtain ⟨date, _, hdate, _, -, clock, _, hclock, offset, _, -, h⟩ := h
  obtain ⟨hvalid, hyear⟩ := readDate_eq_ok hdate
  split at h
  · cases h
  split at h
  · rw [pure_eq_ok] at h
    subst h
    exact proper_ofLocal hvalid hyear (readClock_eq_ok hclock) offset
  · cases h

theorem proper_of_read {s : String} {v : Instant} (h : read s = .ok v) : v.Proper := by
  simp only [read] at h
  split at h
  · cases h
  · exact proper_of_readChars h

/-! ### What is written -/

theorem yearChars_of_fourDigit {year : Nat} (h : year < 10 ^ 4) :
    yearChars year = Text.fixedDigits 4 year := by
  have hsize : (year : Int).natAbs = year := Int.natAbs_natCast year
  have hlt : year < 10000 := by omega
  simp only [yearChars, hsize]
  rw [if_pos hlt, if_neg (by omega), if_pos (by omega)]

theorem readChars_writeChars {v : Instant} (h : v.Proper) (hyear : v.date.FourDigit) :
    readChars v.writeChars = .ok v := by
  obtain ⟨⟨year, month, day⟩, clock⟩ := v
  obtain ⟨year, rfl⟩ := Int.eq_ofNat_of_zero_le hyear.1
  have hlt : year < 10 ^ 4 := by
    have := hyear.2
    simp only at this
    omega
  have hchars : writeChars ⟨⟨year, month, day⟩, clock⟩ =
      (Text.fixedDigits 4 year ++ '-' :: Text.fixedDigits 2 month ++
        '-' :: Text.fixedDigits 2 day) ++ 'T' :: (Text.fixedDigits 2 clock.hour ++
          ':' :: Text.fixedDigits 2 clock.minute ++ ':' :: Text.fixedDigits 2 clock.second ++
            fractionChars clock.nanos ++ ['Z']) := by
    rw [← yearChars_of_fourDigit hlt]
    simp only [writeChars, List.append_assoc, List.cons_append]
  have hseparator (rest : List Char) :
      pass (fun c => c == 'T' || c == 't' || c == ' ') ('T' :: rest) = .ok rest := rfl
  have hzone : readOffset ['Z'] = .ok (0, []) := rfl
  rw [hchars]
  simp only [readChars, readDate_append hlt h.date, hseparator, readClock_append h.clock, hzone,
    ok_bind]
  rw [ofLocal_zero _ h.clock]
  rfl

/-- Any other year is written behind a sign, and a sign is not read. -/
theorem readChars_writeChars_of_signed {v : Instant} (h : ¬v.date.FourDigit) :
    readChars v.writeChars = .error .invalid := by
  have hyear : ∃ sign numeral, yearChars v.date.year = sign :: numeral ∧ sign.isDigit = false := by
    simp only [yearChars]
    split
    · exact ⟨'-', _, rfl, by decide⟩
    · next hneg =>
      rw [if_neg fun hle => h ⟨by omega, hle⟩]
      exact ⟨'+', _, rfl, by decide⟩
  obtain ⟨sign, numeral, hchars, hsign⟩ := hyear
  have hdigits (cs : List Char) : digits 4 0 (sign :: cs) = .error .invalid :=
    if_neg (by simp [hsign])
  rw [writeChars, hchars]
  simp only [List.cons_append, readChars, readDate, hdigits]
  rfl

/-- What is written for the year is a sign or a digit, and enough behind it. -/
theorem Proper.yearChars_eq {v : Instant} (h : v.Proper) :
    ∃ first numeral, yearChars v.date.year = first :: numeral ∧ 3 ≤ numeral.length ∧
      Text.isBlank first = false := by
  rcases h.year with hyear | hdate | hdate
  · obtain ⟨year, hnat⟩ := Int.eq_ofNat_of_zero_le hyear.1
    have hlt : year < 10 ^ 4 := by
      have := hyear.2
      omega
    rw [hnat, yearChars_of_fourDigit hlt]
    have hlength := Text.length_fixedDigits 4 year
    obtain ⟨first, numeral, hcons⟩ := List.exists_cons_of_length_eq_add_one hlength
    rw [hcons] at hlength ⊢
    refine ⟨first, numeral, rfl, Nat.le_of_eq (Nat.succ.inj hlength).symm, ?_⟩
    have hmem : first ∈ Text.fixedDigits 4 year := hcons ▸ List.mem_cons_self
    exact Text.isBlank_of_isDigit (Text.isDigit_of_mem_fixedDigits hmem)
  · rw [hdate]
    exact ⟨'-', _, rfl, by decide, by decide⟩
  · rw [hdate]
    exact ⟨'+', _, rfl, by decide, by decide⟩

/-- What is written has no blanks at its ends, and it is long enough for a date and a time. -/
theorem Proper.read_write {v : Instant} (h : v.Proper) : read v.write = readChars v.writeChars := by
  obtain ⟨first, numeral, hyear, hlength, hblank⟩ := h.yearChars_eq
  have hchars : ∃ cs, v.writeChars = first :: cs ++ ['Z'] ∧ 18 ≤ cs.length := by
    refine ⟨_, by rw [writeChars, hyear]; simp only [List.cons_append]; rfl, ?_⟩
    simp only [List.length_append, List.length_cons, Text.length_fixedDigits]
    omega
  obtain ⟨cs, hchars, hlong⟩ := hchars
  have htrim : Text.trim v.write = v.write := by
    rw [Text.trim, write, String.toList_ofList, hchars,
      Text.dropEnds_of_ends hblank (by decide)]
  have hsize : ¬v.write.utf8ByteSize < 19 := by
    have hle := Text.length_le_utf8ByteSize v.writeChars
    rw [hchars, List.length_append, List.length_cons, ← hchars] at hle
    rw [write]
    omega
  simp only [read, htrim]
  rw [if_neg hsize, write, String.toList_ofList]

/-! ### Where the text is read -/

/-- What is written for an instant is read as this instant again: by itself, as the value of an
attribute that was set to it, and by the checks that are made on reading a document. -/
structure ReadBack (v : Instant) : Prop where
  read : Instant.read v.write = .ok v
  check (scope : Scope) : ValueKind.dateTime.check scope v.write = .ok ()
  value (o : TypedObject) (routed : o.Routed) (name : QName) :
    (o.setValue name (.instant v)).value? .instant name = .ok (some (.instant v))
  receive (d : TypeDescriptor) (spec : AttributeSpec) (tag : Tag) (scope : Scope) (name : QName)
    (modeled : d.spec? name = some spec) (kind : spec.kind = .dateTime) :
    d.checkValue tag scope name v.write = .ok ()

/-- What is written for an instant is refused, for the sign of its year. -/
structure Refused (v : Instant) : Prop where
  read : Instant.read v.write = .error .invalid
  check (scope : Scope) : ValueKind.dateTime.check scope v.write = .error (.dateTime .invalid)
  value (o : TypedObject) (routed : o.Routed) (name : QName) :
    (o.setValue name (.instant v)).value? .instant name =
      .error (.unmarshalling
        ⟨.conversion (.dateTime .invalid), some o.elementName, some v.write⟩)
  receive (d : TypeDescriptor) (spec : AttributeSpec) (tag : Tag) (scope : Scope) (name : QName)
    (modeled : d.spec? name = some spec) (kind : spec.kind = .dateTime) :
    d.checkValue tag scope name v.write =
      .error (tag.reject (.attr .dateTime name (.dateTime .invalid)) (some v.write))

theorem readBack_of_read {v : Instant} (h : read v.write = .ok v) : v.ReadBack where
  read := h
  check scope := by rw [ValueKind.check, h]; rfl
  value o routed name := by
    rw [TypedObject.value?_setValue routed, TypedObject.convert, ValueType.read, Value.write, h]
    rfl
  receive d spec tag scope name modeled kind := by
    rw [TypeDescriptor.checkValue, modeled]
    simp only [kind, ValueKind.check, h]
    rfl

theorem refused_of_read {v : Instant} (h : read v.write = .error .invalid) : v.Refused where
  read := h
  check scope := by rw [ValueKind.check, h]; rfl
  value o routed name := by
    rw [TypedObject.value?_setValue routed, TypedObject.convert, ValueType.read, Value.write, h]
    rfl
  receive d spec tag scope name modeled kind := by
    rw [TypeDescriptor.checkValue, modeled]
    simp only [kind, ValueKind.check, h]
    rfl

/-- An instant that was read can be written and read back exactly if its year, in universal time,
has four digits. This is so for all of them but those of two days; the text of these is refused
wherever it is read. -/
theorem readBack_exactly (s : String) (v : Instant) (h : read s = .ok v) :
    (v.ReadBack ↔ v.date.FourDigit) ∧ (v.Refused ↔ ¬v.date.FourDigit) ∧
      (v.date.FourDigit ∨ v.date = ⟨-1, 12, 31⟩ ∨ v.date = ⟨10000, 1, 1⟩) := by
  have hproper := proper_of_read h
  have hback (hyear : v.date.FourDigit) : v.ReadBack :=
    readBack_of_read (hproper.read_write.trans (readChars_writeChars hproper hyear))
  have hrefused (hyear : ¬v.date.FourDigit) : v.Refused :=
    refused_of_read (hproper.read_write.trans (readChars_writeChars_of_signed hyear))
  have hnotBoth (hb : v.ReadBack) (hr : v.Refused) : False := by
    cases hb.read.symm.trans hr.read
  refine ⟨⟨fun hb => ?_, hback⟩, ⟨fun hr hyear => hnotBoth (hback hyear) hr, hrefused⟩,
    hproper.year⟩
  by_contra hyear
  exact hnotBoth hb (hrefused hyear)

theorem readBack_newYear :
    ∃ v, read " 2016-12-31T23:59:60.25-01:30\n" = .ok v ∧ v.write = "2017-01-01T01:29:60.250Z" ∧
      v.date.FourDigit ∧ v.ReadBack := by
  have h : read " 2016-12-31T23:59:60.25-01:30\n" = .ok ⟨⟨2017, 1, 1⟩, ⟨1, 29, 60, 250000000⟩⟩ := by
    rfl
  exact ⟨_, h, by rfl, by decide, (readBack_exactly _ _ h).1.2 (by decide)⟩

/-- The first minute of the year 0 one hour east is in the year before. -/
theorem yearZero_refused :
    ∃ v, read "0000-01-01T00:00:00+01:00" = .ok v ∧ v.write = "-0001-12-31T23:00:00Z" ∧
      read v.write = .error .invalid := by
  refine ⟨⟨⟨-1, 12, 31⟩, ⟨23, 0, 0, 0⟩⟩, ?_, ?_, ?_⟩
  · rfl
  · rfl
  · rfl

end Instant

end XmlBinding
