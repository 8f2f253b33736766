import Mathlib.Computability.Language
import Mathlib.Data.List.TakeWhile
import XmlBinding.Lexical.Check

/-!
Durations as a grammar. The fields of a duration are a structure with a writer, and the texts that
are accepted are those that the writer makes of complete fields, whatever the number of digits: a
field is never taken for another, as each has its own designator where it may stand. The fields
without the condition on them are a regular language, and the condition is two tests of the last
character. Main statement: both descriptions of the texts that the check accepts.
-/

namespace XmlBinding.Duration

/-- A number as it is written: one decimal digit or more, of whatever script. -/
structure Numeral where
  digits : List Char
  nonempty : digits ≠ []
  decimal : ∀ c ∈ digits, Text.isDecimalDigit c = true

/-- A number and the designator behind it; nothing where the field is left out. -/
def fieldChars (designator : Char) : Option Numeral → List Char
  | none => []
  | some n => n.digits ++ [designator]

/-- Seconds, which may have a fraction. -/
def secondsChars : Option (Numeral × Option Numeral) → List Char
  | none => []
  | some (n, none) => n.digits ++ ['S']
  | some (n, some fraction) => n.digits ++ '.' :: fraction.digits ++ ['S']

/-- The fields of a date; any of them may be left out. -/
structure DateFields where
  years : Option Numeral
  months : Option Numeral
  days : Option Numeral

/-- The fields of a time of day; any of them may be left out. -/
structure TimeFields where
  hours : Option Numeral
  minutes : Option Numeral
  seconds : Option (Numeral × Option Numeral)

def DateFields.none : DateFields := ⟨.none, .none, .none⟩

def TimeFields.none : TimeFields := ⟨.none, .none, .none⟩

def DateFields.write (date : DateFields) : List Char :=
  fieldChars 'Y' date.years ++ fieldChars 'M' date.months ++ fieldChars 'D' date.days

def TimeFields.write (time : TimeFields) : List Char :=
  fieldChars 'H' time.hours ++ fieldChars 'M' time.minutes ++ secondsChars time.seconds

/-- All that is written after `P`; a time of day stands behind a `T`. -/
structure Fields where
  date : DateFields
  time : Option TimeFields

def timeChars : Option TimeFields → List Char
  | none => []
  | some time => 'T' :: time.write

def Fields.write (fields : Fields) : List Char :=
  fields.date.write ++ timeChars fields.time

/-- One field is there at all, and one after a `T`. -/
structure Fields.Complete (fields : Fields) : Prop where
  some : fields.date ≠ .none ∨ ∃ time, fields.time = some time ∧ time ≠ .none
  afterT : ∀ time, fields.time = .some time → time ≠ .none

def write (negative : Bool) (fields : Fields) : List Char :=
  (if negative then ['-'] else []) ++ 'P' :: fields.write

/-! ### One field -/

section Fields

variable {d d' : Char} {cs after : List Char}

theorem dropDigits_append {digits : List Char} (h : ∀ c ∈ digits, Text.isDecimalDigit c = true)
    (hd : Text.isDecimalDigit d = false) : dropDigits (digits ++ d :: after) = d :: after := by
  rw [dropDigits, List.dropWhile_append_of_pos h, List.dropWhile_cons_of_neg (by simp [hd])]

/-- What is read at a number is decided by the designator behind it. -/
theorem field?_numeral (n : Numeral) (hd' : Text.isDecimalDigit d' = false) :
    field? d (n.digits ++ d' :: after) = if d' = d then some after else none := by
  obtain ⟨digits, hne, hdecimal⟩ := n
  cases digits with
  | nil => exact absurd rfl hne
  | cons c digits =>
      rw [List.forall_mem_cons] at hdecimal
      rw [List.cons_append, field?, if_pos hdecimal.1, dropDigits_append hdecimal.2 hd']

theorem exists_numeral (h : field? d cs = some after) :
    ∃ n : Numeral, cs = n.digits ++ d :: after := by
  cases cs with
  | nil => cases h
  | cons c rest =>
      rw [field?] at h
      split at h
      · next hc =>
          split at h
          · next d' after' hdrop =>
              split at h
              · next hsame =>
                  cases h
                  subst hsame
                  refine ⟨⟨c :: rest.takeWhile Text.isDecimalDigit, by simp, ?_⟩, ?_⟩
                  · rw [List.forall_mem_cons]
                    exact ⟨hc, fun c' hc' => List.mem_takeWhile_imp hc'⟩
                  · rw [List.cons_append, ← hdrop, dropDigits, List.takeWhile_append_dropWhile]
              · cases h
          · cases h
      · cases h

theorem field?_of_not_digit {c : Char} (hc : Text.isDecimalDigit c = false) :
    field? d (c :: cs) = none := by
  rw [field?, if_neg (by simp [hc])]

/-- A field is not taken for another, nor what stands behind it if it is left out. -/
theorem field?_fieldChars (hd' : Text.isDecimalDigit d' = false) (hne : d' ≠ d)
    (o : Option Numeral) (h : field? d after = none) :
    field? d (fieldChars d' o ++ after) = none := by
  cases o with
  | none => exact h
  | some n =>
      rw [fieldChars, List.append_assoc, List.singleton_append, field?_numeral n hd', if_neg hne]

theorem skip_fieldChars (hd : Text.isDecimalDigit d = false) (o : Option Numeral)
    (h : field? d after = none) : skip (field? d) (fieldChars d o ++ after) = after := by
  cases o with
  | none =>
      rw [skip, fieldChars, List.nil_append, h]
      rfl
  | some n =>
      rw [skip, fieldChars, List.append_assoc, List.singleton_append, field?_numeral n hd,
        if_pos rfl]
      rfl

theorem exists_skip_field (d : Char) (cs : List Char) :
    ∃ o, cs = fieldChars d o ++ skip (field? d) cs := by
  cases h : field? d cs with
  | none =>
      refine ⟨none, ?_⟩
      rw [skip, h]
      rfl
  | some after =>
      obtain ⟨n, hn⟩ := exists_numeral h
      refine ⟨some n, ?_⟩
      rw [skip, h, fieldChars, List.append_assoc, List.singleton_append]
      exact hn

theorem exists_skip_seconds (cs : List Char) : ∃ o, cs = secondsChars o ++ skip seconds? cs := by
  cases h : seconds? cs with
  | none =>
      refine ⟨none, ?_⟩
      rw [skip, h]
      rfl
  | some after =>
      rw [skip, h]
      rw [seconds?] at h
      split at h
      · next fraction hpoint =>
          obtain ⟨n, hn⟩ := exists_numeral hpoint
          obtain ⟨m, hm⟩ := exists_numeral h
          refine ⟨some (n, some m), ?_⟩
          simp [secondsChars, hn, hm]
      · obtain ⟨n, hn⟩ := exists_numeral h
        refine ⟨some (n, none), ?_⟩
        simp [secondsChars, hn]

theorem skip_secondsChars (o : Option (Numeral × Option Numeral)) :
    skip seconds? (secondsChars o) = [] := by
  match o with
  | none => rfl
  | some (n, none) =>
      rw [skip, secondsChars, seconds?, field?_numeral n (by decide), if_neg (by decide)]
      simp only
      rw [field?_numeral n (by decide), if_pos rfl]
      rfl
  | some (n, some m) =>
      rw [skip, secondsChars, seconds?, List.append_assoc, List.cons_append,
        field?_numeral n (by decide), if_pos rfl]
      simp only
      rw [field?_numeral m (by decide), if_pos rfl]
      rfl

theorem field?_secondsChars (hpoint : '.' ≠ d) (hsecond : 'S' ≠ d)
    (o : Option (Numeral × Option Numeral)) : field? d (secondsChars o) = none := by
  match o with
  | none => rfl
  | some (n, none) => rw [secondsChars, field?_numeral n (by decide), if_neg hsecond]
  | some (n, some m) =>
      rw [secondsChars, List.append_assoc, List.cons_append, field?_numeral n (by decide),
        if_neg hpoint]

end Fields

/-! ### Dates, times and what they make up -/

theorem field?_timeChars {d : Char} (time : Option TimeFields) :
    field? d (timeChars time) = none := by
  cases time with
  | none => rfl
  | some time => exact field?_of_not_digit (by decide)

theorem skipDate_write (date : DateFields) (time : Option TimeFields) :
    skipDate (date.write ++ timeChars time) = timeChars time := by
  obtain ⟨years, months, days⟩ := date
  have hdays (d : Char) (hne : 'D' ≠ d) : field? d (fieldChars 'D' days ++ timeChars time) = none :=
    field?_fieldChars (by decide) hne days (field?_timeChars time)
  have hmonths :
      field? 'Y' (fieldChars 'M' months ++ (fieldChars 'D' days ++ timeChars time)) = none :=
    field?_fieldChars (by decide) (by decide) months (hdays 'Y' (by decide))
  rw [DateFields.write, List.append_assoc, List.append_assoc, skipDate,
    skip_fieldChars (by decide) years hmonths,
    skip_fieldChars (by decide) months (hdays 'M' (by decide)),
    skip_fieldChars (by decide) days (field?_timeChars time)]

theorem exists_skipDate (cs : List Char) : ∃ date : DateFields, cs = date.write ++ skipDate cs := by
  obtain ⟨years, hyears⟩ := exists_skip_field 'Y' cs
  obtain ⟨months, hmonths⟩ := exists_skip_field 'M' (skip (field? 'Y') cs)
  obtain ⟨days, hdays⟩ := exists_skip_field 'D' (skip (field? 'M') (skip (field? 'Y') cs))
  refine ⟨⟨years, months, days⟩, ?_⟩
  rw [DateFields.write, skipDate, List.append_assoc, List.append_assoc, ← hdays, ← hmonths,
    ← hyears]

theorem skipTime_write (time : TimeFields) : skipTime time.write = [] := by
  obtain ⟨hours, minutes, seconds⟩ := time
  have hseconds (d : Char) (hpoint : '.' ≠ d) (hne : 'S' ≠ d) :
      field? d (secondsChars seconds) = none :=
    field?_secondsChars hpoint hne seconds
  have hminutes : field? 'H' (fieldChars 'M' minutes ++ secondsChars seconds) = none :=
    field?_fieldChars (by decide) (by decide) minutes (hseconds 'H' (by decide) (by decide))
  rw [TimeFields.write, List.append_assoc, skipTime,
    skip_fieldChars (by decide) hours hminutes,
    skip_fieldChars (by decide) minutes (hseconds 'M' (by decide) (by decide)),
    skip_secondsChars]

theorem exists_skipTime (cs : List Char) : ∃ time : TimeFields, cs = time.write ++ skipTime cs := by
  obtain ⟨hours, hhours⟩ := exists_skip_field 'H' cs
  obtain ⟨minutes, hminutes⟩ := exists_skip_field 'M' (skip (field? 'H') cs)
  obtain ⟨seconds, hseconds⟩ := exists_skip_seconds (skip (field? 'M') (skip (field? 'H') cs))
  refine ⟨⟨hours, minutes, seconds⟩, ?_⟩
  rw [TimeFields.write, skipTime, List.append_assoc, List.append_assoc, ← hseconds, ← hminutes,
    ← hhours]

theorem fieldChars_eq_nil_iff {d : Char} {o : Option Numeral} : fieldChars d o = [] ↔ o = none := by
  cases o <;> simp [fieldChars]

theorem secondsChars_eq_nil_iff {o : Option (Numeral × Option Numeral)} :
    secondsChars o = [] ↔ o = none := by
  match o with
  | none => simp [secondsChars]
  | some (n, none) => simp [secondsChars]
  | some (n, some m) => simp [secondsChars]

theorem DateFields.write_eq_nil_iff {date : DateFields} : date.write = [] ↔ date = .none := by
  obtain ⟨years, months, days⟩ := date
  simp [write, none, fieldChars_eq_nil_iff]

theorem TimeFields.write_eq_nil_iff {time : TimeFields} : time.write = [] ↔ time = .none := by
  obtain ⟨hours, minutes, seconds⟩ := time
  simp [write, none, fieldChars_eq_nil_iff, secondsChars_eq_nil_iff]

theorem acceptsBody_iff {cs : List Char} :
    acceptsBody cs = true ↔ ∃ fields : Fields, fields.Complete ∧ cs = fields.write := by
  constructor
  · intro h
    obtain ⟨date, hdate⟩ := exists_skipDate cs
    rw [acceptsBody] at h
    split at h
    · next hend =>
        rw [hend, List.append_nil] at hdate
        have hne : date ≠ .none := by
          rintro rfl
          rw [hdate] at h
          cases h
        exact ⟨⟨date, none⟩, ⟨.inl hne, nofun⟩, hdate.trans (List.append_nil _).symm⟩
    · next rest hrest =>
        rw [Bool.and_eq_true, Bool.not_eq_true', List.isEmpty_iff] at h
        obtain ⟨time, htime⟩ := exists_skipTime rest
        rw [h.2, List.append_nil] at htime
        have hne : time ≠ .none := by
          rintro rfl
          rw [htime] at h
          cases h.1
        refine ⟨⟨date, some time⟩, ⟨.inr ⟨time, rfl, hne⟩, ?_⟩, ?_⟩
        · rintro _ ⟨⟩
          exact hne
        · rw [Fields.write, timeChars, ← htime, ← hrest]
          exact hdate
    · cases h
  · rintro ⟨⟨date, time⟩, ⟨hsome, hafter⟩, rfl⟩
    rw [acceptsBody, Fields.write, skipDate_write]
    cases time with
    | none =>
        have hdate : date.write ≠ [] := by
          rw [Ne, DateFields.write_eq_nil_iff]
          exact hsome.resolve_right (by simp)
        simpa [timeChars] using hdate
    | some time =>
        have htime : time.write ≠ [] := by
          rw [Ne, TimeFields.write_eq_nil_iff]
          exact hafter time rfl
        simp [timeChars, skipTime_write, htime]

theorem accepts_iff {cs : List Char} :
    accepts cs = true ↔
      ∃ negative, ∃ fields : Fields, fields.Complete ∧ cs = write negative fields := by
  constructor
  · intro h
    unfold accepts at h
    split at h
    · obtain ⟨fields, hcomplete, rfl⟩ := acceptsBody_iff.1 h
      exact ⟨true, fields, hcomplete, rfl⟩
    · obtain ⟨fields, hcomplete, rfl⟩ := acceptsBody_iff.1 h
      exact ⟨false, fields, hcomplete, rfl⟩
    · cases h
  · rintro ⟨negative, fields, hcomplete, rfl⟩
    cases negative with
    | false => exact acceptsBody_iff.2 ⟨fields, hcomplete, rfl⟩
    | true => exact acceptsBody_iff.2 ⟨fields, hcomplete, rfl⟩

/-! ### The pattern -/

open Computability

/-- One decimal digit. -/
def digit : Language Char := {w | ∃ c, Text.isDecimalDigit c = true ∧ w = [c]}

def number : Language Char := digit * digit∗

def literal (c : Char) : Language Char := {[c]}

def optional (l : Language Char) : Language Char := 1 + l

def field (designator : Char) : Language Char := optional (number * literal designator)

def seconds : Language Char := optional (number * optional (literal '.' * number) * literal 'S')

def time : Language Char := optional (literal 'T' * field 'H' * field 'M' * seconds)

/-- The fields in their order, all of them optional, as one regular language. -/
def pattern : Language Char :=
  optional (literal '-') * literal 'P' * field 'Y' * field 'M' * field 'D' * time

theorem mem_literal {c : Char} {cs : List Char} : cs ∈ literal c ↔ cs = [c] := Iff.rfl

theorem mem_optional {l : Language Char} {cs : List Char} : cs ∈ optional l ↔ cs = [] ∨ cs ∈ l := by
  rw [optional, Language.mem_add, Language.mem_one]

theorem mem_kstar_digit {cs : List Char} :
    cs ∈ digit∗ ↔ ∀ c ∈ cs, Text.isDecimalDigit c = true := by
  rw [Language.mem_kstar]
  constructor
  · rintro ⟨words, rfl, hwords⟩ c hc
    obtain ⟨w, hw, hmem⟩ := List.mem_flatten.1 hc
    obtain ⟨d, hd, rfl⟩ := hwords w hw
    rwa [List.mem_singleton.1 hmem]
  · intro h
    refine ⟨cs.map fun c => [c], ?_, ?_⟩
    · rw [← List.flatMap_def, List.flatMap_singleton']
    · intro w hw
      obtain ⟨c, hc, rfl⟩ := List.mem_map.1 hw
      exact ⟨c, h c hc, rfl⟩

theorem mem_number {cs : List Char} : cs ∈ number ↔ ∃ n : Numeral, cs = n.digits := by
  rw [number, Language.mem_mul]
  constructor
  · rintro ⟨_, ⟨c, hc, rfl⟩, rest, hrest, rfl⟩
    have hdecimal : ∀ d ∈ c :: rest, Text.isDecimalDigit d = true :=
      List.forall_mem_cons.2 ⟨hc, mem_kstar_digit.1 hrest⟩
    exact ⟨⟨c :: rest, List.cons_ne_nil c rest, hdecimal⟩, rfl⟩
  · rintro ⟨⟨digits, hne, hdecimal⟩, rfl⟩
    obtain ⟨c, rest, rfl⟩ := List.exists_cons_of_ne_nil hne
    rw [List.forall_mem_cons] at hdecimal
    exact ⟨[c], ⟨c, hdecimal.1, rfl⟩, rest, mem_kstar_digit.2 hdecimal.2, rfl⟩

theorem mem_field {d : Char} {cs : List Char} : cs ∈ field d ↔ ∃ o, cs = fieldChars d o := by
  simp only [field, mem_optional, Language.mem_mul, mem_number, mem_literal]
  constructor
  · rintro (rfl | ⟨_, ⟨n, rfl⟩, _, rfl, rfl⟩)
    · exact ⟨none, rfl⟩
    · exact ⟨some n, rfl⟩
  · rintro ⟨_ | n, rfl⟩
    · exact .inl rfl
    · exact .inr ⟨_, ⟨n, rfl⟩, _, rfl, rfl⟩

theorem mem_seconds {cs : List Char} : cs ∈ seconds ↔ ∃ o, cs = secondsChars o := by
  simp only [seconds, mem_optional, Language.mem_mul, mem_number, mem_literal]
  constructor
  · rintro (rfl | ⟨_, ⟨_, ⟨n, rfl⟩, _, rfl | ⟨_, rfl, _, ⟨m, rfl⟩, rfl⟩, rfl⟩, _, rfl, rfl⟩)
    · exact ⟨none, rfl⟩
    · exact ⟨some (n, none), by rw [secondsChars, List.append_nil]⟩
    · exact ⟨some (n, some m), rfl⟩
  · rintro ⟨_ | ⟨n, _ | m⟩, rfl⟩
    · exact .inl rfl
    · exact .inr ⟨_, ⟨_, ⟨n, rfl⟩, [], .inl rfl, List.append_nil _⟩, _, rfl, rfl⟩
    · exact .inr ⟨_, ⟨_, ⟨n, rfl⟩, _, .inr ⟨_, rfl, _, ⟨m, rfl⟩, rfl⟩, rfl⟩, _, rfl, rfl⟩

theorem mem_time {cs : List Char} : cs ∈ time ↔ ∃ o, cs = timeChars o := by
  simp only [time, mem_optional, Language.mem_mul, mem_field, mem_seconds, mem_literal]
  constructor
  · rintro (rfl | ⟨_, ⟨_, ⟨_, rfl, _, ⟨hours, rfl⟩, rfl⟩, _, ⟨minutes, rfl⟩, rfl⟩, _,
      ⟨seconds, rfl⟩, rfl⟩)
    · exact ⟨none, rfl⟩
    · exact ⟨some ⟨hours, minutes, seconds⟩, rfl⟩
  · rintro ⟨_ | ⟨hours, minutes, seconds⟩, rfl⟩
    · exact .inl rfl
    · exact .inr ⟨_, ⟨_, ⟨_, rfl, _, ⟨hours, rfl⟩, rfl⟩, _, ⟨minutes, rfl⟩, rfl⟩, _,
        ⟨seconds, rfl⟩, rfl⟩

theorem mem_pattern {cs : List Char} :
    cs ∈ pattern ↔ ∃ negative fields, cs = write negative fields := by
  simp only [pattern, Language.mem_mul, mem_optional, mem_field, mem_time, mem_literal]
  constructor
  · rintro ⟨_, ⟨_, ⟨_, ⟨_, ⟨_, hsign, _, rfl, rfl⟩, _, ⟨years, rfl⟩, rfl⟩, _, ⟨months, rfl⟩, rfl⟩,
      _, ⟨days, rfl⟩, rfl⟩, _, ⟨time, rfl⟩, rfl⟩
    rcases hsign with rfl | rfl
    · exact ⟨false, ⟨⟨years, months, days⟩, time⟩, rfl⟩
    · exact ⟨true, ⟨⟨years, months, days⟩, time⟩, rfl⟩
  · rintro ⟨negative, ⟨⟨years, months, days⟩, time⟩, rfl⟩
    refine ⟨_, ⟨_, ⟨_, ⟨_, ⟨if negative then ['-'] else [], ?_, _, rfl, rfl⟩, _, ⟨years, rfl⟩, rfl⟩,
      _, ⟨months, rfl⟩, rfl⟩, _, ⟨days, rfl⟩, rfl⟩, _, ⟨time, rfl⟩, ?_⟩
    · cases negative <;> simp
    · simp [write, Fields.write, DateFields.write]

/-- Fields, or none; the last character of fields is a designator. -/
def EndsInField (cs : List Char) : Prop :=
  cs = [] ∨ ∃ d ∈ ['Y', 'M', 'D', 'H', 'S'], cs.getLast? = some d

theorem EndsInField.append {cs cs' : List Char} (h : EndsInField cs) (h' : EndsInField cs') :
    EndsInField (cs ++ cs') := by
  rcases h' with rfl | ⟨d, hd, hlast⟩
  · rwa [List.append_nil]
  · exact .inr ⟨d, hd, by rw [List.getLast?_append, hlast, Option.some_or]⟩

theorem endsInField_fieldChars {d : Char} (hd : d ∈ ['Y', 'M', 'D', 'H', 'S'])
    (o : Option Numeral) : EndsInField (fieldChars d o) := by
  cases o with
  | none => exact .inl rfl
  | some n => exact .inr ⟨d, hd, by simp [fieldChars]⟩

theorem endsInField_secondsChars (o : Option (Numeral × Option Numeral)) :
    EndsInField (secondsChars o) := by
  match o with
  | none => exact .inl rfl
  | some (n, none) => exact .inr ⟨'S', by decide, by simp [secondsChars]⟩
  | some (n, some m) => exact .inr ⟨'S', by decide, by rw [secondsChars, List.getLast?_concat]⟩

theorem DateFields.endsInField (date : DateFields) : EndsInField date.write :=
  ((endsInField_fieldChars (by decide) _).append (endsInField_fieldChars (by decide) _)).append
    (endsInField_fieldChars (by decide) _)

theorem TimeFields.endsInField (time : TimeFields) : EndsInField time.write :=
  ((endsInField_fieldChars (by decide) _).append (endsInField_fieldChars (by decide) _)).append
    (endsInField_secondsChars _)

/-- Behind a character that is no designator, fields end in another unless there are none. -/
theorem EndsInField.getLast?_eq_iff {c x : Char} (hx : x ∉ ['Y', 'M', 'D', 'H', 'S'])
    {cs : List Char} (h : EndsInField cs) (before : List Char) :
    (before ++ c :: cs).getLast? = some x ↔ cs = [] ∧ c = x := by
  rcases h with rfl | ⟨d, hd, hlast⟩
  · simp
  · have hne : cs ≠ [] := by
      rintro rfl
      cases hlast
    have hlast' : (before ++ c :: cs).getLast? = some d := by
      rw [← List.singleton_append, ← List.append_assoc, List.getLast?_append, hlast, Option.some_or]
    rw [hlast', Option.some.injEq]
    refine ⟨fun hsame => ?_, fun hnil => absurd hnil.1 hne⟩
    exact absurd (hsame ▸ hd) hx

/-- The conditions on the fields are two tests of the last character. -/
theorem complete_iff {negative : Bool} {fields : Fields} :
    fields.Complete ↔ (write negative fields).getLast? ≠ some 'P' ∧
      (write negative fields).getLast? ≠ some 'T' := by
  obtain ⟨date, time⟩ := fields
  rw [write, Fields.write]
  cases time with
  | none =>
      rw [timeChars, List.append_nil, Ne, Ne, date.endsInField.getLast?_eq_iff (by decide),
        date.endsInField.getLast?_eq_iff (by decide), DateFields.write_eq_nil_iff]
      constructor
      · rintro ⟨hsome, -⟩
        refine ⟨fun hnone => ?_, by simp⟩
        exact hsome.elim (absurd hnone.1) (by simp)
      · rintro ⟨hne, -⟩
        exact ⟨.inl fun hnone => hne ⟨hnone, rfl⟩, nofun⟩
  | some time =>
      rw [timeChars, ← List.cons_append, ← List.append_assoc, Ne, Ne,
        time.endsInField.getLast?_eq_iff (by decide), time.endsInField.getLast?_eq_iff (by decide),
        TimeFields.write_eq_nil_iff]
      constructor
      · rintro ⟨-, hafter⟩
        exact ⟨by simp, fun hnone => hafter time rfl hnone.1⟩
      · rintro ⟨-, hne⟩
        have hsome : time ≠ .none := fun hnone => hne ⟨hnone, rfl⟩
        refine ⟨.inr ⟨time, rfl, hsome⟩, ?_⟩
        rintro _ ⟨⟩
        exact hsome

/-- A text is accepted if it matches the pattern and ends in neither of the characters that fields
stand behind. -/
theorem accepts_iff_mem_pattern {cs : List Char} :
    accepts cs = true ↔ cs ∈ pattern ∧ cs.getLast? ≠ some 'P' ∧ cs.getLast? ≠ some 'T' := by
  rw [accepts_iff, mem_pattern]
  constructor
  · rintro ⟨negative, fields, hcomplete, rfl⟩
    exact ⟨⟨negative, fields, rfl⟩, complete_iff.1 hcomplete⟩
  · rintro ⟨⟨negative, fields, rfl⟩, hlast⟩
    exact ⟨negative, fields, complete_iff.2 hlast, rfl⟩

theorem check_eq_ok {scope : Scope} {text : String} :
    ValueKind.duration.check scope text = .ok () ↔ accepts (Text.trim text).toList = true := by
  rw [← isDuration, ValueKind.check]
  split
  · next h => simp [h]
  · next h => simp [h]

/-- The check accepts the texts of complete fields, with blanks around them; or, which is the same,
those that match the pattern and do not end in `P` or `T`. -/
theorem check_exactly (scope : Scope) (text : String) :
    (ValueKind.duration.check scope text = .ok () ↔
      ∃ negative, ∃ fields : Fields, fields.Complete ∧
        (Text.trim text).toList = write negative fields) ∧
    (ValueKind.duration.check scope text = .ok () ↔
      (Text.trim text).toList ∈ pattern ∧ (Text.trim text).toList.getLast? ≠ some 'P' ∧
        (Text.trim text).toList.getLast? ≠ some 'T') := by
  rw [check_eq_ok]
  exact ⟨accepts_iff, accepts_iff_mem_pattern⟩

/-- A month and a minute have the same designator; of the digits, one may be of another script. -/
example : ValueKind.duration.check Scope.empty " -P1M२DT3M4.50S\n" = .ok () := by rfl

end XmlBinding.Duration
