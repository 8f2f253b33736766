import Mathlib.Data.List.Basic
import XmlBinding.Json.Parser
import XmlBinding.Json.Writer

/-!
What is written as a JSON text is read back. The two halves of the reader are undone one after the
other: the symbols of a text are those that were written, and the value of these symbols is the one
they were made from.
-/

namespace XmlBinding.Json

/-- Values of texts, booleans and null, in arrays and objects. -/
inductive Writable : Json → Prop where
  | null : Writable .null
  | bool (value : Bool) : Writable (.bool value)
  | text (value : String) : Writable (.text value)
  | array {items : List Json} : (∀ item ∈ items, Writable item) → Writable (.array items)
  | record {members : List (String × Json)} :
      (∀ member ∈ members, Writable member.2) → Writable (.record members)

/-- The symbols of such values. -/
inductive Symbol.Writable : Symbol → Prop where
  | openArray : Writable .openArray
  | closeArray : Writable .closeArray
  | openObject : Writable .openObject
  | closeObject : Writable .closeObject
  | comma : Writable .comma
  | colon : Writable .colon
  | null : Writable (.word .null)
  | bool (value : Bool) : Writable (.word (.bool value))
  | text (value : String) : Writable (.string (some value))

/-! ### Strings -/

/-- A part of a string that stands for a character. -/
inductive StringPart.Means : StringPart → Char → Prop where
  | char (c : Char) : Means (.char c) c
  | unit {c : Char} (h : c.toNat < 0x20) : Means (.unit c.toNat) c

theorem StringPart.Means.charsOfParts?_cons {part : StringPart} {c : Char} (h : part.Means c)
    (parts : List StringPart) :
    charsOfParts? (part :: parts) = (charsOfParts? parts).map (c :: ·) := by
  cases h with
  | char => rw [charsOfParts?]
  | unit hc =>
      have hleading : isLeading c.toNat = false := by simp [isLeading]; omega
      have htrailing : isTrailing c.toNat = false := by simp [isTrailing]; omega
      cases parts with
      | nil => simp [charsOfParts?, hleading, htrailing, Char.ofNat_toNat]
      | cons next parts =>
          cases next <;> simp [charsOfParts?, hleading, htrailing, Char.ofNat_toNat]

/-- A control character is read back from its number. -/
theorem unit?_digitChar :
    ∀ n < 0x20, unit? '0' '0' (Nat.digitChar (n / 16)) (Nat.digitChar (n % 16)) = some n := by
  decide

theorem stringParts?_cons {c : Char} (hquote : c ≠ '"') (hbackslash : c ≠ '\\')
    (hplain : ¬c.toNat < 0x20) (rest : List Char) :
    stringParts? (c :: rest) =
      (stringParts? rest).map fun (parts, rest) => (.char c :: parts, rest) := by
  rw [stringParts?, if_neg (not_or.2 ⟨hplain, hbackslash⟩)]
  · cases stringParts? rest <;> rfl
  · exact hquote
  · exact fun _ _ _ _ _ h => absurd h hbackslash
  · exact fun _ _ h => absurd h hbackslash

/-- What is written for a character is one part of the string. -/
theorem stringParts?_escape (c : Char) (rest : List Char) :
    ∃ part : StringPart, part.Means c ∧ stringParts? (escape c ++ rest) =
      (stringParts? rest).map fun (parts, rest) => (part :: parts, rest) := by
  unfold escape
  split
  case h_8 hquote hbackslash _ _ _ _ _ =>
    split
    · next hcontrol =>
        refine ⟨.unit c.toNat, .unit hcontrol, ?_⟩
        show stringParts? ('\\' :: 'u' :: '0' :: '0' :: _ :: _ :: rest) = _
        rw [stringParts?, unit?_digitChar c.toNat hcontrol]
        cases stringParts? rest <;> rfl
    · next hplain => exact ⟨.char c, .char c, stringParts?_cons hquote hbackslash hplain rest⟩
  all_goals
    refine ⟨.char _, .char _, ?_⟩
    cases h : stringParts? rest <;> simp [stringParts?, escaped?, h]

/-- What is written for a string ends with its closing quote. -/
theorem stringParts?_write (cs rest : List Char) :
    ∃ parts, stringParts? (cs.flatMap escape ++ '"' :: rest) = some (parts, rest) ∧
      charsOfParts? parts = some cs := by
  induction cs with
  | nil => exact ⟨[], by simp [stringParts?], by simp [charsOfParts?]⟩
  | cons c cs ih =>
      obtain ⟨parts, hparts, hchars⟩ := ih
      obtain ⟨part, hmeans, hpart⟩ := stringParts?_escape c (cs.flatMap escape ++ '"' :: rest)
      refine ⟨part :: parts, ?_, ?_⟩
      · rw [List.flatMap_cons, List.append_assoc, hpart, hparts]
        rfl
      · rw [hmeans.charsOfParts?_cons, hchars]
        rfl

/-! ### Symbols -/

namespace Symbol

variable {symbol : Symbol}

/-- A symbol is read back, whatever follows it. -/
theorem Writable.symbol?_write (h : symbol.Writable) (rest : List Char) :
    symbol? (symbol.write ++ rest) = some (symbol, rest) := by
  cases h with
  | bool value => cases value <;> rfl
  | text value =>
      obtain ⟨parts, hparts, hchars⟩ := stringParts?_write value.toList rest
      rw [write, Option.getD_some, List.cons_append, List.append_assoc, List.singleton_append,
        symbol?, hparts]
      simp [hchars]
  | _ => rfl

/-- A symbol does not start with a blank. -/
theorem Writable.exists_write (h : symbol.Writable) :
    ∃ c cs, symbol.write = c :: cs ∧ isSpace c = false := by
  cases h with
  | bool value => cases value <;> exact ⟨_, _, rfl, by decide⟩
  | _ => exact ⟨_, _, rfl, by decide⟩

end Symbol

/-- The symbols of a text are those that were written. -/
theorem symbolsIn_write {input : List Symbol} (h : ∀ symbol ∈ input, symbol.Writable) {fuel : Nat}
    (hfuel : input.length ≤ fuel) : symbolsIn fuel (input.flatMap Symbol.write) = input := by
  induction input generalizing fuel with
  | nil => cases fuel <;> rfl
  | cons symbol input ih =>
      rw [List.forall_mem_cons] at h
      rw [List.length_cons] at hfuel
      obtain ⟨fuel, rfl⟩ := Nat.exists_eq_add_one.2 (Nat.zero_lt_of_lt hfuel)
      obtain ⟨c, cs, hwrite, hspace⟩ := h.1.exists_write
      have hsymbol := h.1.symbol?_write (input.flatMap Symbol.write)
      have hstart : (symbol.write ++ input.flatMap Symbol.write).dropWhile isSpace =
          c :: (cs ++ input.flatMap Symbol.write) := by
        rw [hwrite, List.cons_append, List.dropWhile_cons_of_neg (by simp [hspace])]
      rw [hwrite, List.cons_append] at hsymbol
      rw [List.flatMap_cons, symbolsIn, hstart]
      simp only [hsymbol]
      rw [ih h.2 (Nat.le_of_succ_le_succ hfuel)]

theorem symbols_write {input : List Symbol} (h : ∀ symbol ∈ input, symbol.Writable) :
    symbols (String.ofList (input.flatMap Symbol.write)) = input := by
  have hlength : input.length ≤ (input.flatMap Symbol.write).length := by
    induction input with
    | nil => exact Nat.le_refl 0
    | cons symbol input ih =>
        rw [List.forall_mem_cons] at h
        obtain ⟨c, cs, hwrite, -⟩ := h.1.exists_write
        have hrest := ih h.2
        rw [List.flatMap_cons, hwrite, List.length_append]
        simp only [List.length_cons]
        omega
  rw [symbols, String.toList_ofList, String.length_ofList]
  exact symbolsIn_write h (Nat.le_succ_of_le hlength)

/-! ### Values -/

theorem itemTokens_eq (items : List Json) : itemTokens items = items.map tokens := by
  induction items with
  | nil => rfl
  | cons item items ih => rw [itemTokens, ih, List.map_cons]

theorem memberTokens_eq (members : List (Option String × Json)) :
    memberTokens members =
      members.map fun member => .string member.1 :: .colon :: member.2.tokens := by
  induction members with
  | nil => rfl
  | cons member members ih => rw [memberTokens, ih, List.map_cons]

theorem exists_intercalate {α : Type} (separator first : List α) (others : List (List α)) :
    ∃ rest, separator.intercalate (first :: others) = first ++ rest := by
  cases others with
  | nil => exact ⟨[], by rw [List.intercalate_singleton, List.append_nil]⟩
  | cons next others =>
      refine ⟨separator ++ separator.intercalate (next :: others), ?_⟩
      rw [List.intercalate_cons_cons, List.append_assoc]

theorem forall_mem_intercalate {α : Type} {P : α → Prop} {separator : List α}
    {parts : List (List α)} (hseparator : ∀ a ∈ separator, P a)
    (hparts : ∀ part ∈ parts, ∀ a ∈ part, P a) :
    ∀ a ∈ separator.intercalate parts, P a := by
  induction parts with
  | nil => exact List.forall_mem_nil _
  | cons part parts ih =>
      rw [List.forall_mem_cons] at hparts
      cases parts with
      | nil =>
          rw [List.intercalate_singleton]
          exact hparts.1
      | cons next parts =>
          rw [List.intercalate_cons_cons, List.forall_mem_append, List.forall_mem_append]
          exact ⟨⟨hparts.1, hseparator⟩, ih hparts.2⟩

/-- The symbols of a value do not start with a bracket that closes. -/
theorem Writable.exists_tokens {value : Json} (h : value.Writable) :
    ∃ symbol input, value.tokens = symbol :: input ∧ symbol ≠ .closeArray := by
  cases h <;> exact ⟨_, _, rfl, nofun⟩

/-- What is read back from its symbols, given enough steps. -/
def ReadBack (value : Json) : Prop :=
  ∀ fuel rest, 2 * value.tokens.length ≤ fuel →
    valueIn fuel (value.tokens ++ rest) = (value, some rest)

theorem itemsIn_tokens {item : Json} {items : List Json}
    (h : ∀ item' ∈ item :: items, ReadBack item') {fuel : Nat} {rest : List Symbol}
    (hfuel : 2 * ([Symbol.comma].intercalate ((item :: items).map tokens)).length < fuel) :
    itemsIn fuel ([Symbol.comma].intercalate ((item :: items).map tokens) ++
      .closeArray :: rest) = (item :: items, some rest) := by
  obtain ⟨fuel, rfl⟩ := Nat.exists_eq_add_one.2 (Nat.zero_lt_of_lt hfuel)
  induction items generalizing item fuel with
  | nil =>
      rw [List.map_singleton, List.intercalate_singleton] at hfuel ⊢
      rw [itemsIn, h item List.mem_cons_self _ _ (Nat.le_of_lt_succ hfuel)]
  | cons next items ih =>
      rw [List.forall_mem_cons] at h
      rw [List.map_cons, List.map_cons, List.intercalate_cons_cons] at hfuel ⊢
      rw [← List.map_cons] at hfuel ⊢
      rw [List.length_append, List.length_append, List.length_singleton] at hfuel
      obtain ⟨fuel, rfl⟩ : ∃ n, fuel = n + 1 := Nat.exists_eq_add_one.2 (by omega)
      rw [List.append_assoc, List.append_assoc, List.singleton_append, itemsIn,
        h.1 _ _ (by omega)]
      simp only [ih h.2 fuel (by omega)]

theorem membersIn_tokens {member : Option String × Json} {members : List (Option String × Json)}
    (h : ∀ member' ∈ member :: members, ReadBack member'.2) {fuel : Nat} {rest : List Symbol}
    (hfuel : 2 * ([Symbol.comma].intercalate (memberTokens (member :: members))).length < fuel) :
    membersIn fuel ([Symbol.comma].intercalate (memberTokens (member :: members)) ++
      .closeObject :: rest) = (member :: members, some rest) := by
  obtain ⟨fuel, rfl⟩ := Nat.exists_eq_add_one.2 (Nat.zero_lt_of_lt hfuel)
  induction members generalizing member fuel with
  | nil =>
      obtain ⟨key, value⟩ := member
      rw [memberTokens, memberTokens, List.intercalate_singleton] at hfuel ⊢
      have hvalue : ReadBack value := h _ List.mem_cons_self
      rw [List.length_cons, List.length_cons] at hfuel
      rw [List.cons_append, List.cons_append, membersIn, hvalue _ _ (by omega)]
  | cons next members ih =>
      obtain ⟨key, value⟩ := member
      rw [List.forall_mem_cons] at h
      have hvalue : ReadBack value := h.1
      have hsplit : [Symbol.comma].intercalate (memberTokens ((key, value) :: next :: members)) =
          .string key :: .colon :: (value.tokens ++
            .comma :: [Symbol.comma].intercalate (memberTokens (next :: members))) := by
        rw [memberTokens, memberTokens, List.intercalate_cons_cons]
        simp
      rw [hsplit] at hfuel ⊢
      simp only [List.length_cons, List.length_append] at hfuel
      obtain ⟨fuel, rfl⟩ : ∃ n, fuel = n + 1 := Nat.exists_eq_add_one.2 (by omega)
      rw [List.cons_append, List.cons_append, List.append_assoc, List.cons_append, membersIn,
        hvalue _ _ (by omega)]
      simp only [ih h.2 fuel (by omega)]

/-- An array is read to its end. -/
theorem readBack_array {items : List Json} (hitems : ∀ item ∈ items, item.Writable)
    (h : ∀ item ∈ items, ReadBack item) : ReadBack (.array items) := by
  intro fuel rest hfuel
  rw [tokens, itemTokens_eq] at hfuel ⊢
  simp only [List.length_cons, List.length_append, List.length_nil] at hfuel
  obtain ⟨fuel, rfl⟩ : ∃ n, fuel = n + 1 := Nat.exists_eq_add_one.2 (by omega)
  cases items with
  | nil => rfl
  | cons item items =>
      rw [List.cons_append, List.append_assoc, List.singleton_append, valueIn,
        itemsIn_tokens h (by omega)]
      -- The first symbol after the bracket is that of an item.
      intro input hclose
      obtain ⟨symbol, input', htokens, hne⟩ := (hitems item List.mem_cons_self).exists_tokens
      obtain ⟨after, hjoin⟩ := exists_intercalate [.comma] item.tokens (items.map tokens)
      rw [List.map_cons, hjoin, htokens] at hclose
      exact hne (List.cons.inj hclose).1

theorem readBack_object {members : List (Option String × Json)}
    (h : ∀ member ∈ members, ReadBack member.2) : ReadBack (.object members) := by
  intro fuel rest hfuel
  rw [tokens] at hfuel ⊢
  simp only [List.length_cons, List.length_append, List.length_nil] at hfuel
  obtain ⟨fuel, rfl⟩ : ∃ n, fuel = n + 1 := Nat.exists_eq_add_one.2 (by omega)
  cases members with
  | nil => rfl
  | cons member members =>
      rw [List.cons_append, List.append_assoc, List.singleton_append, valueIn,
        membersIn_tokens h (by omega)]
      intro input hclose
      obtain ⟨after, hjoin⟩ := exists_intercalate [.comma]
        (.string member.1 :: .colon :: member.2.tokens) (memberTokens members)
      rw [memberTokens, hjoin] at hclose
      cases hclose

theorem Writable.readBack {value : Json} (h : value.Writable) : ReadBack value := by
  induction h with
  | null | bool | text =>
      intro fuel rest hfuel
      obtain ⟨fuel, rfl⟩ := Nat.exists_eq_add_one.2 (Nat.lt_of_lt_of_le Nat.zero_lt_two hfuel)
      rfl
  | array hitems ih => exact readBack_array hitems ih
  | record hmembers ih => exact readBack_object (List.forall_mem_map.2 ih)

/-- The symbols of a value are symbols that can be written. -/
theorem Writable.tokens_writable {value : Json} (h : value.Writable) :
    ∀ symbol ∈ value.tokens, symbol.Writable := by
  have hcomma : ∀ symbol ∈ [Symbol.comma], symbol.Writable :=
    List.forall_mem_singleton.2 .comma
  induction h with
  | null => exact List.forall_mem_singleton.2 .null
  | bool value => exact List.forall_mem_singleton.2 (.bool value)
  | text value => exact List.forall_mem_singleton.2 (.text value)
  | @array items hitems ih =>
      rw [tokens, itemTokens_eq, List.forall_mem_cons, List.forall_mem_append]
      refine ⟨.openArray, forall_mem_intercalate hcomma ?_, List.forall_mem_singleton.2 .closeArray⟩
      exact List.forall_mem_map.2 ih
  | @record members hmembers ih =>
      rw [Json.record, tokens, memberTokens_eq, List.forall_mem_cons, List.forall_mem_append]
      refine ⟨.openObject, forall_mem_intercalate hcomma ?_,
        List.forall_mem_singleton.2 .closeObject⟩
      rw [List.map_map, List.forall_mem_map]
      intro member hmember
      rw [Function.comp, List.forall_mem_cons, List.forall_mem_cons]
      exact ⟨.text member.1, .colon, ih member hmember⟩

/-- What is written is read back, as a whole. -/
theorem Writable.parse_write {value : Json} (h : value.Writable) :
    parse value.write = (value, true) := by
  have hsymbols : symbols value.write = value.tokens := symbols_write h.tokens_writable
  have hread := h.readBack (2 * value.tokens.length + 1) [] (Nat.le_succ _)
  rw [List.append_nil] at hread
  rw [parse, hsymbols]
  simp only [hread]
  rfl

end XmlBinding.Json
