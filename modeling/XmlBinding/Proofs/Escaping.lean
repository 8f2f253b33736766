import Mathlib.Data.List.Basic
import XmlBinding.Element.Writer
import XmlBinding.Markup.Reference

/-!
Texts that are written and read again. Escaping leaves no character that markup begins or ends with,
and every reference is read as the character it was written for. What is not escaped is normalised:
in a text a carriage return may become a line feed, in an attribute value each blank character
becomes a space.
-/

namespace XmlBinding

open Markup

/-- The characters that are written as references. -/
def isEscaped (c : Char) : Bool :=
  ['<', '>', '&', '\'', '"'].contains c

/-- A character is written as a reference that is read as this very character, or as it is. -/
theorem escapeChar_cases (c : Char) :
    (isEscaped c = true ∧ ∃ body, escapeChar c = '&' :: body ++ [';'] ∧
        referredChar? body = some c ∧ ∀ c' ∈ body, NCName.isPart c' = true) ∨
      isEscaped c = false ∧ escapeChar c = [c] := by
  by_cases hc : isEscaped c = true
  · refine .inl ⟨hc, ?_⟩
    simp only [isEscaped, List.contains_iff_mem, List.mem_cons, List.not_mem_nil, or_false] at hc
    rcases hc with rfl | rfl | rfl | rfl | rfl
    · exact ⟨"lt".toList, rfl, rfl, List.all_eq_true.1 rfl⟩
    · exact ⟨"gt".toList, rfl, rfl, List.all_eq_true.1 rfl⟩
    · exact ⟨"amp".toList, rfl, rfl, List.all_eq_true.1 rfl⟩
    · exact ⟨"apos".toList, rfl, rfl, List.all_eq_true.1 rfl⟩
    · exact ⟨"quot".toList, rfl, rfl, List.all_eq_true.1 rfl⟩
  · refine .inr ⟨Bool.eq_false_iff.2 hc, ?_⟩
    simp only [isEscaped, List.contains_iff_mem, List.mem_cons, List.not_mem_nil, or_false,
      not_or] at hc
    obtain ⟨hlt, hgt, hamp, hapos, hquot⟩ := hc
    unfold escapeChar
    split <;> first | contradiction | rfl

theorem escape_append (s t : String) : escape (s ++ t) = escape s ++ escape t := by
  rw [escape, String.toList_append, List.flatMap_append]
  rfl

theorem escape_eq_nil_iff {s : String} : escape s = [] ↔ s = "" := by
  have hne (c : Char) : escapeChar c ≠ [] := by
    rcases escapeChar_cases c with ⟨-, body, heq, -⟩ | ⟨-, heq⟩ <;> simp [heq]
  rw [escape, List.flatMap_eq_nil_iff, ← String.toList_eq_nil_iff, List.eq_nil_iff_forall_not_mem]
  exact forall₂_congr fun c _ => iff_false_intro (hne c)

/-- A character of an escaped text is one of the text, or one of a reference. -/
theorem mem_escape {s : String} {c : Char} (h : c ∈ escape s) :
    c ∈ s.toList ∧ isEscaped c = false ∨ c = '&' ∨ c = ';' ∨ NCName.isPart c = true := by
  obtain ⟨c', hc', hmem⟩ := List.mem_flatMap.1 h
  rcases escapeChar_cases c' with ⟨-, body, heq, -, hbody⟩ | ⟨hplain, heq⟩
  · rw [heq] at hmem
    simp only [List.mem_append, List.mem_cons, List.not_mem_nil, or_false] at hmem
    rcases hmem with (rfl | hmem) | rfl
    · exact .inr (.inl rfl)
    · exact .inr (.inr (.inr (hbody c hmem)))
    · exact .inr (.inr (.inl rfl))
  · rw [heq, List.mem_singleton] at hmem
    subst hmem
    exact .inl ⟨hc', hplain⟩

/-- No character of markup is left but for the ampersand. -/
theorem not_mem_escape {s : String} {c : Char} (hc : isEscaped c = true) (hne : c ≠ '&') :
    c ∉ escape s := by
  intro hmem
  rcases mem_escape hmem with ⟨-, hplain⟩ | rfl | rfl | hpart
  · exact nomatch hc.symm.trans hplain
  · exact hne rfl
  · cases hc
  · have hescaped : ['<', '>', '&', '\'', '"'].all (fun c => !NCName.isPart c) = true := by decide
    have hnone := List.all_eq_true.1 hescaped c (List.contains_iff_mem.1 hc)
    rw [hpart] at hnone
    cases hnone

/-! ### Reading the characters of a text -/

/-- A character that is read from what was written for it. -/
def unitOf (c : Char) : TextUnit :=
  ⟨c, isEscaped c⟩

theorem units?_escapeChar_append (c : Char) (rest : List Char) :
    units? (escapeChar c ++ rest) = (units? rest).map (unitOf c :: ·) := by
  rcases escapeChar_cases c with ⟨hescaped, body, heq, hreferred, hbody⟩ | ⟨hplain, heq⟩
  · -- The reference ends with the first semicolon, and a name has none.
    have hinside : ∀ c' ∈ body, (c' != ';') = true := by
      intro c' hc'
      rw [bne_iff_ne]
      rintro rfl
      exact absurd (hbody _ hc') (by decide)
    have htake : (body ++ ';' :: rest).takeWhile (· != ';') = body := by
      rw [List.takeWhile_append_of_pos hinside]
      simp
    have hdrop : (body ++ ';' :: rest).dropWhile (· != ';') = ';' :: rest := by
      rw [List.dropWhile_append_of_pos hinside]
      simp
    have hchars : escapeChar c ++ rest = '&' :: (body ++ ';' :: rest) := by
      simp [heq]
    rw [hchars, units?, if_pos rfl]
    split
    · next hnone => rw [hdrop] at hnone; cases hnone
    · next after hafter =>
        rw [hdrop] at hafter
        cases hafter
        rw [htake, hreferred, unitOf, hescaped]
        cases units? rest <;> rfl
  · have hne : c ≠ '&' := by
      rintro rfl
      cases hplain
    rw [heq, List.singleton_append, units?, if_neg hne, unitOf, hplain]

/-- Every character of a text is read as itself, and those that were escaped as referred to. -/
theorem units?_escape (s : String) : units? (escape s) = some (s.toList.map unitOf) := by
  rw [escape]
  induction s.toList with
  | nil => rw [List.flatMap_nil, units?, List.map_nil]
  | cons c cs ih =>
      rw [List.flatMap_cons, units?_escapeChar_append, ih]
      rfl

/-- A text between tags, as it is read again. -/
def reread (s : String) : String :=
  String.ofList (lineEnds [] false (s.toList.map unitOf))

/-- An attribute value, as it is read again. -/
def respaced (s : String) : String :=
  String.ofList (blanksToSpaces (s.toList.map unitOf))

theorem textValue?_escape (s : String) : textValue? (escape s) = some (reread s).toList := by
  rw [textValue?, units?_escape, reread, String.toList_ofList]
  rfl

theorem attributeValue?_escape (s : String) :
    attributeValue? (escape s) = some (respaced s).toList := by
  rw [attributeValue?, units?_escape, respaced, String.toList_ofList]
  rfl

/-! ### What stays the same -/

theorem lineEnds_eq {us : List TextUnit} {before : List Char} {afterReference : Bool}
    (hus : ∀ u ∈ us, u.char ≠ '\r') (hbefore : before.head? ≠ some '\r') :
    lineEnds before afterReference us = before.reverse ++ us.map TextUnit.char := by
  induction us generalizing before afterReference with
  | nil => simp [lineEnds]
  | cons u us ih =>
      rw [List.forall_mem_cons] at hus
      have hnext {afterReference : Bool} : lineEnds (u.char :: before) afterReference us =
          before.reverse ++ (u :: us).map TextUnit.char := by
        rw [ih hus.2 (by simpa using hus.1)]
        simp
      have hopen : (us.isEmpty && u.char == '\r') = false := by
        rw [beq_eq_false_iff_ne.2 hus.1, Bool.and_false]
      rw [lineEnds]
      by_cases hreferred : u.referred = true
      · rw [if_pos hreferred]
        exact hnext
      · rw [if_neg hreferred]
        by_cases hafter : afterReference = true
        · rw [if_pos hafter]
          exact hnext
        · rw [if_neg hafter, hopen]
          dsimp only
          split
          · exact absurd rfl hbefore
          · exact hnext

/-- Only carriage returns are lost in a text. -/
theorem reread_eq_self {s : String} (h : '\r' ∉ s.toList) : reread s = s := by
  have hunits : ∀ u ∈ s.toList.map unitOf, u.char ≠ '\r' := by
    intro u hu
    obtain ⟨c, hc, rfl⟩ := List.mem_map.1 hu
    rintro rfl
    exact h hc
  rw [reread, lineEnds_eq hunits (by simp)]
  simp [unitOf, Function.comp_def]

/-- The blank characters that are not spaces. -/
def isControlBlank (c : Char) : Bool :=
  c == '\n' || c == '\r' || c == '\t'

theorem blanksToSpaces_eq {us : List TextUnit}
    (h : ∀ u ∈ us, isControlBlank u.char = false) : blanksToSpaces us = us.map TextUnit.char := by
  induction us with
  | nil => rfl
  | cons u us ih =>
      rw [List.forall_mem_cons] at h
      have hblank := h.1
      have hreturn : u.char ≠ '\r' := by
        intro hc
        rw [hc] at hblank
        cases hblank
      rw [isControlBlank] at hblank
      rw [blanksToSpaces, ih h.2, hblank]
      simp [hreturn]

theorem isControlBlank_of_mem_blanksToSpaces {us : List TextUnit} {c : Char}
    (hus : ∀ u ∈ us, u.referred = true → isControlBlank u.char = false)
    (h : c ∈ blanksToSpaces us) : isControlBlank c = false := by
  induction us with
  | nil => cases h
  | cons u us ih =>
      rw [List.forall_mem_cons] at hus
      rw [blanksToSpaces] at h
      split_ifs at h with hreferred hline hblank
      · rcases List.mem_cons.1 h with rfl | h
        · exact hus.1 hreferred
        · exact ih hus.2 h
      · exact ih hus.2 h
      · rcases List.mem_cons.1 h with rfl | h
        · rfl
        · exact ih hus.2 h
      · rcases List.mem_cons.1 h with rfl | h
        · exact Bool.eq_false_iff.2 hblank
        · exact ih hus.2 h

/-- An attribute value stays the same exactly if spaces are its only blanks of this kind. -/
theorem respaced_eq_self_iff {s : String} :
    respaced s = s ↔ ∀ c ∈ s.toList, isControlBlank c = false := by
  constructor
  · intro h c hc
    rw [← h, respaced, String.toList_ofList] at hc
    refine isControlBlank_of_mem_blanksToSpaces (fun u hu hreferred => ?_) hc
    obtain ⟨c', -, rfl⟩ := List.mem_map.1 hu
    have hescaped : ['<', '>', '&', '\'', '"'].all (fun c => !isControlBlank c) = true := by decide
    have hnone := List.all_eq_true.1 hescaped c' (List.contains_iff_mem.1 hreferred)
    rwa [Bool.not_eq_true'] at hnone
  · intro h
    have hunits : ∀ u ∈ s.toList.map unitOf, isControlBlank u.char = false := by
      intro u hu
      obtain ⟨c, hc, rfl⟩ := List.mem_map.1 hu
      exact h c hc
    rw [respaced, blanksToSpaces_eq hunits]
    simp [unitOf, Function.comp_def]

end XmlBinding
