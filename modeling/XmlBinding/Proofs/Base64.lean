import XmlBinding.Lexical.Base64

/-!
Binary data and its base64 text. A symbol stands for six bits and six bits have one symbol, so a
group of symbols and the bytes it stands for determine each other; padding and the zero bits before
it leave no second way to write a group. Main statement: what is read are the bytes whose encoding
is the text without its blanks, and nothing else can be read.
-/

namespace XmlBinding.Base64

/-! ### Symbols -/

theorem sextet?_symbol {n : Nat} (h : n < 64) : sextet? (symbol n).toNat = some n := by
  revert n
  decide

theorem symbol_of_sextet? {c : Char} {n : Nat} (h : sextet? c.toNat = some n) :
    n < 64 ∧ symbol n = c := by
  have hchar : Char.ofNat c.toNat = c := Char.ofNat_toNat c
  unfold sextet? at h
  -- The classes of the alphabet in their order: capital and small letters, digits, the last two.
  split at h
  · next hrange =>
      cases h
      refine ⟨by omega, ?_⟩
      rw [symbol, if_pos (by omega), Nat.sub_add_cancel hrange.1, hchar]
  split at h
  · next hrange =>
      cases h
      refine ⟨by omega, ?_⟩
      rw [symbol, if_neg (by omega), if_pos (by omega), Nat.sub_add_cancel (by omega), hchar]
  split at h
  · next hrange =>
      cases h
      refine ⟨by omega, ?_⟩
      rw [symbol, if_neg (by omega), if_neg (by omega), if_pos (by omega), Nat.add_sub_cancel,
        hchar]
  split at h
  · next hcode =>
      cases h
      rw [← hchar, hcode]
      decide
  split at h
  · next hcode =>
      cases h
      rw [← hchar, hcode]
      decide
  · cases h

theorem symbol_ne_padding {n : Nat} (h : n < 64) : symbol n ≠ '=' := by
  intro heq
  have hsextet := sextet?_symbol h
  have hpadding : sextet? '='.toNat = none := rfl
  rw [heq, hpadding] at hsextet
  cases hsextet

/-! ### Groups -/

theorem toNat_byte {n : Nat} (h : n < 256) : (UInt8.ofNat n).toNat = n :=
  UInt8.toNat_ofNat_of_lt' h

section Groups

variable {x y z w : Nat} (hx : x < 64) (hy : y < 64) (hz : z < 64) (hw : w < 64)
include hx hy

/-! A group is read as the bytes that are written as this group. -/

theorem encode_one (hzero : y % 16 = 0) :
    encode [UInt8.ofNat (x * 4 + y / 16)] = [symbol x, symbol y, '=', '='] := by
  have hbyte : (UInt8.ofNat (x * 4 + y / 16)).toNat = x * 4 + y / 16 :=
    toNat_byte (by omega)
  have hfirst : (x * 4 + y / 16) / 4 = x := by omega
  have hsecond : (x * 4 + y / 16) % 4 * 16 = y := by omega
  rw [encode, hbyte, hfirst, hsecond]

theorem decodeLast_one (hzero : y % 16 = 0) :
    decodeLast (symbol x) (symbol y) '=' '=' = some [UInt8.ofNat (x * 4 + y / 16)] := by
  rw [decodeLast, sextet?_symbol hx, sextet?_symbol hy]
  exact if_pos ⟨rfl, hzero⟩

include hz

theorem encode_two (hzero : z % 4 = 0) :
    encode [UInt8.ofNat (x * 4 + y / 16), UInt8.ofNat (y % 16 * 16 + z / 4)] =
      [symbol x, symbol y, symbol z, '='] := by
  have hbyte₁ : (UInt8.ofNat (x * 4 + y / 16)).toNat = x * 4 + y / 16 :=
    toNat_byte (by omega)
  have hbyte₂ : (UInt8.ofNat (y % 16 * 16 + z / 4)).toNat = y % 16 * 16 + z / 4 :=
    toNat_byte (by omega)
  have hfirst : (x * 4 + y / 16) / 4 = x := by omega
  have hsecond : (x * 4 + y / 16) % 4 * 16 + (y % 16 * 16 + z / 4) / 16 = y := by omega
  have hthird : (y % 16 * 16 + z / 4) % 16 * 4 = z := by omega
  rw [encode, hbyte₁, hbyte₂, hfirst, hsecond, hthird]

theorem decodeLast_two (hzero : z % 4 = 0) :
    decodeLast (symbol x) (symbol y) (symbol z) '=' =
      some [UInt8.ofNat (x * 4 + y / 16), UInt8.ofNat (y % 16 * 16 + z / 4)] := by
  rw [decodeLast, sextet?_symbol hx, sextet?_symbol hy, sextet?_symbol hz]
  exact (if_neg (symbol_ne_padding hz)).trans (if_pos hzero)

include hw

theorem encode_three (rest : List UInt8) :
    encode (UInt8.ofNat (x * 4 + y / 16) :: UInt8.ofNat (y % 16 * 16 + z / 4) ::
        UInt8.ofNat (z % 4 * 64 + w) :: rest) =
      symbol x :: symbol y :: symbol z :: symbol w :: encode rest := by
  have hbyte₁ : (UInt8.ofNat (x * 4 + y / 16)).toNat = x * 4 + y / 16 :=
    toNat_byte (by omega)
  have hbyte₂ : (UInt8.ofNat (y % 16 * 16 + z / 4)).toNat = y % 16 * 16 + z / 4 :=
    toNat_byte (by omega)
  have hbyte₃ : (UInt8.ofNat (z % 4 * 64 + w)).toNat = z % 4 * 64 + w :=
    toNat_byte (by omega)
  have hfirst : (x * 4 + y / 16) / 4 = x := by omega
  have hsecond : (x * 4 + y / 16) % 4 * 16 + (y % 16 * 16 + z / 4) / 16 = y := by omega
  have hthird : (y % 16 * 16 + z / 4) % 16 * 4 + (z % 4 * 64 + w) / 64 = z := by omega
  have hfourth : (z % 4 * 64 + w) % 64 = w := by omega
  rw [encode, hbyte₁, hbyte₂, hbyte₃, hfirst, hsecond, hthird, hfourth]

theorem decodeLast_three :
    decodeLast (symbol x) (symbol y) (symbol z) (symbol w) =
      some [UInt8.ofNat (x * 4 + y / 16), UInt8.ofNat (y % 16 * 16 + z / 4),
        UInt8.ofNat (z % 4 * 64 + w)] := by
  rw [decodeLast, sextet?_symbol hx, sextet?_symbol hy, sextet?_symbol hz, sextet?_symbol hw]
  exact (if_neg (symbol_ne_padding hz)).trans (if_neg (symbol_ne_padding hw))

end Groups

/-- What the last group is read as has this group as its encoding. -/
theorem encode_of_decodeLast {a b c d : Char} {bytes : List UInt8}
    (h : decodeLast a b c d = some bytes) : encode bytes = [a, b, c, d] := by
  rw [decodeLast] at h
  obtain ⟨x, hx, htail⟩ := Option.bind_eq_some_iff.1 h
  obtain ⟨y, hy, hcases⟩ := Option.bind_eq_some_iff.1 htail
  obtain ⟨hxlt, rfl⟩ := symbol_of_sextet? hx
  obtain ⟨hylt, rfl⟩ := symbol_of_sextet? hy
  split at hcases
  · next hc =>
      split at hcases
      · next hd =>
          cases hcases
          rw [encode_one hxlt hylt hd.2, hc, hd.1]
      · cases hcases
  · obtain ⟨z, hz, hlast⟩ := Option.bind_eq_some_iff.1 hcases
    obtain ⟨hzlt, rfl⟩ := symbol_of_sextet? hz
    split at hlast
    · next hd =>
        split at hlast
        · next hzero =>
            cases hlast
            rw [encode_two hxlt hylt hzlt hzero, hd]
        · cases hlast
    · obtain ⟨w, hw, hbytes⟩ := Option.bind_eq_some_iff.1 hlast
      obtain ⟨hwlt, rfl⟩ := symbol_of_sextet? hw
      cases hbytes
      exact encode_three hxlt hylt hzlt hwlt []

theorem encode_eq_nil_iff {bytes : List UInt8} : encode bytes = [] ↔ bytes = [] := by
  match bytes with
  | [] => simp [encode]
  | [_] => simp [encode]
  | [_, _] => simp [encode]
  | _ :: _ :: _ :: _ => simp [encode]

/-- A group that does not end in padding stands for three bytes, and more can follow them. -/
theorem encode_append_of_unpadded {a b c d : Char} {bytes : List UInt8} (hd : d ≠ '=')
    (h : encode bytes = [a, b, c, d]) (rest : List UInt8) :
    encode (bytes ++ rest) = a :: b :: c :: d :: encode rest := by
  match bytes with
  | [] => cases h
  | [_] =>
      cases h
      exact absurd rfl hd
  | [_, _] =>
      cases h
      exact absurd rfl hd
  | x :: y :: z :: others =>
      rw [encode] at h
      simp only [List.cons.injEq, encode_eq_nil_iff] at h
      obtain ⟨rfl, rfl, rfl, rfl, rfl⟩ := h
      rfl

theorem encode_of_decode? {cs : List Char} {bytes : List UInt8} (h : decode? cs = some bytes) :
    encode bytes = cs := by
  fun_induction decode? cs generalizing bytes with
  | case1 =>
      cases h
      rfl
  | case2 a b c d rest hrest =>
      rw [List.isEmpty_iff.1 hrest]
      exact encode_of_decodeLast h
  | case3 a b c d rest hrest ih =>
      obtain ⟨first, hfirst, htail⟩ := Option.bind_eq_some_iff.1 h
      obtain ⟨others, hothers, hbytes⟩ := Option.bind_eq_some_iff.1 htail
      cases hbytes
      rw [decodeInner] at hfirst
      split at hfirst
      · cases hfirst
      · next hunpadded =>
          rw [not_or] at hunpadded
          rw [encode_append_of_unpadded hunpadded.2 (encode_of_decodeLast hfirst), ih hothers]
  | case4 => cases h

/-! ### Bytes -/

section Bytes

variable (a b c : UInt8) {m n : Nat}

theorem first_byte (h : n < 16) :
    UInt8.ofNat (a.toNat / 4 * 4 + (a.toNat % 4 * 16 + n) / 16) = a := by
  have hnat : a.toNat / 4 * 4 + (a.toNat % 4 * 16 + n) / 16 = a.toNat := by omega
  rw [hnat, UInt8.ofNat_toNat]

theorem second_byte (h : n < 4) :
    UInt8.ofNat ((m * 16 + b.toNat / 16) % 16 * 16 + (b.toNat % 16 * 4 + n) / 4) = b := by
  have hlt : b.toNat < 256 := b.toNat_lt
  have hnat : (m * 16 + b.toNat / 16) % 16 * 16 + (b.toNat % 16 * 4 + n) / 4 = b.toNat := by omega
  rw [hnat, UInt8.ofNat_toNat]

theorem third_byte :
    UInt8.ofNat ((m * 4 + c.toNat / 64) % 4 * 64 + c.toNat % 64) = c := by
  have hlt : c.toNat < 256 := c.toNat_lt
  have hnat : (m * 4 + c.toNat / 64) % 4 * 64 + c.toNat % 64 = c.toNat := by omega
  rw [hnat, UInt8.ofNat_toNat]

end Bytes

theorem decode?_encode (bytes : List UInt8) : decode? (encode bytes) = some bytes := by
  fun_induction encode bytes with
  | case1 => rfl
  | case2 a =>
      have ha : a.toNat < 256 := a.toNat_lt
      rw [decode?, if_pos List.isEmpty_nil, decodeLast_one (by omega) (by omega) (by omega)]
      exact congrArg (fun a => some [a]) (first_byte a (n := 0) (by omega))
  | case3 a b =>
      have ha : a.toNat < 256 := a.toNat_lt
      have hb : b.toNat < 256 := b.toNat_lt
      rw [decode?, if_pos List.isEmpty_nil,
        decodeLast_two (by omega) (by omega) (by omega) (by omega), first_byte a (by omega)]
      exact congrArg (fun b => some [a, b]) (second_byte b (n := 0) (by omega))
  | case4 a b c rest ih =>
      have ha : a.toNat < 256 := a.toNat_lt
      have hb : b.toNat < 256 := b.toNat_lt
      have hc : c.toNat < 256 := c.toNat_lt
      have hgroup : decodeLast (symbol (a.toNat / 4)) (symbol (a.toNat % 4 * 16 + b.toNat / 16))
          (symbol (b.toNat % 16 * 4 + c.toNat / 64)) (symbol (c.toNat % 64)) = some [a, b, c] := by
        rw [decodeLast_three (by omega) (by omega) (by omega) (by omega), first_byte a (by omega),
          second_byte b (by omega), third_byte c]
      rw [decode?]
      split
      · next hrest =>
          rw [hgroup, encode_eq_nil_iff.1 (List.isEmpty_iff.1 hrest)]
      · rw [decodeInner, if_neg, hgroup, ih]
        · rfl
        · rw [not_or]
          exact ⟨symbol_ne_padding (by omega), symbol_ne_padding (by omega)⟩

/-- Exactly the encoding of some bytes is decoded to them. -/
theorem decode?_eq_some_iff {cs : List Char} {bytes : List UInt8} :
    decode? cs = some bytes ↔ cs = encode bytes := by
  refine ⟨fun h => (encode_of_decode? h).symm, ?_⟩
  rintro rfl
  exact decode?_encode bytes

/-! ### The form of an encoding -/

/-- The texts that are canonical, said without any bytes: symbols in groups of four, where the last
group may end in padding if the bits that no byte is made of are zero. -/
inductive Canonical : List Char → Prop where
  | empty : Canonical []
  | oneByte {a b : Char} {x y : Nat} (first : sextet? a.toNat = some x)
      (second : sextet? b.toNat = some y) (zero : y % 16 = 0) : Canonical [a, b, '=', '=']
  | twoBytes {a b c : Char} {x y z : Nat} (first : sextet? a.toNat = some x)
      (second : sextet? b.toNat = some y) (third : sextet? c.toNat = some z) (zero : z % 4 = 0) :
      Canonical [a, b, c, '=']
  | group {a b c d : Char} {rest : List Char}
      (symbols : ∀ s ∈ [a, b, c, d], isSymbol s.toNat = true) (others : Canonical rest) :
      Canonical (a :: b :: c :: d :: rest)

theorem isSymbol_symbol {n : Nat} (h : n < 64) : isSymbol (symbol n).toNat = true := by
  rw [isSymbol, sextet?_symbol h]
  rfl

theorem exists_of_isSymbol {c : Char} (h : isSymbol c.toNat = true) :
    ∃ n < 64, symbol n = c := by
  obtain ⟨n, hn⟩ := Option.isSome_iff_exists.1 h
  exact ⟨n, symbol_of_sextet? hn⟩

theorem canonical_encode (bytes : List UInt8) : Canonical (encode bytes) := by
  fun_induction encode bytes with
  | case1 => exact .empty
  | case2 a =>
      have ha : a.toNat < 256 := a.toNat_lt
      exact .oneByte (sextet?_symbol (by omega)) (sextet?_symbol (by omega)) (by omega)
  | case3 a b =>
      have ha : a.toNat < 256 := a.toNat_lt
      have hb : b.toNat < 256 := b.toNat_lt
      exact .twoBytes (sextet?_symbol (by omega)) (sextet?_symbol (by omega))
        (sextet?_symbol (by omega)) (by omega)
  | case4 a b c rest ih =>
      have ha : a.toNat < 256 := a.toNat_lt
      have hb : b.toNat < 256 := b.toNat_lt
      have hc : c.toNat < 256 := c.toNat_lt
      refine .group ?_ ih
      simp only [List.forall_mem_cons]
      exact ⟨isSymbol_symbol (by omega), isSymbol_symbol (by omega), isSymbol_symbol (by omega),
        isSymbol_symbol (by omega), List.forall_mem_nil _⟩

theorem Canonical.exists_encode {cs : List Char} (h : Canonical cs) :
    ∃ bytes, cs = encode bytes := by
  induction h with
  | empty => exact ⟨[], rfl⟩
  | oneByte first second zero =>
      obtain ⟨hx, rfl⟩ := symbol_of_sextet? first
      obtain ⟨hy, rfl⟩ := symbol_of_sextet? second
      exact ⟨_, (encode_one hx hy zero).symm⟩
  | twoBytes first second third zero =>
      obtain ⟨hx, rfl⟩ := symbol_of_sextet? first
      obtain ⟨hy, rfl⟩ := symbol_of_sextet? second
      obtain ⟨hz, rfl⟩ := symbol_of_sextet? third
      exact ⟨_, (encode_two hx hy hz zero).symm⟩
  | group symbols others ih =>
      simp only [List.forall_mem_cons] at symbols
      obtain ⟨ha, hb, hc, hd, -⟩ := symbols
      obtain ⟨x, hx, rfl⟩ := exists_of_isSymbol ha
      obtain ⟨y, hy, rfl⟩ := exists_of_isSymbol hb
      obtain ⟨z, hz, rfl⟩ := exists_of_isSymbol hc
      obtain ⟨w, hw, rfl⟩ := exists_of_isSymbol hd
      obtain ⟨bytes, rfl⟩ := ih
      exact ⟨_, (encode_three hx hy hz hw bytes).symm⟩

/-- What is read are the bytes whose encoding is the text without its blanks; and bytes are read
exactly where this text is canonical, so that neither padding nor unused bits nor any other
character leave a choice. -/
theorem read_exactly (text : String) :
    (∀ bytes, read text = .ok bytes ↔ String.ofList (compact text) = write bytes) ∧
      ((∃ bytes, read text = .ok bytes) ↔ Canonical (compact text)) := by
  have hread (bytes : List UInt8) : read text = .ok bytes ↔ compact text = encode bytes := by
    rw [← decode?_eq_some_iff, read]
    cases decode? (compact text) <;> simp
  constructor
  · intro bytes
    rw [hread, write, String.ofList_inj]
  · simp only [hread]
    refine ⟨?_, Canonical.exists_encode⟩
    rintro ⟨bytes, hbytes⟩
    rw [hbytes]
    exact canonical_encode bytes

example : read "aGVs\nbG8=" = .ok [104, 101, 108, 108, 111] := by
  rfl

/-- A bit that no byte is made of is set. -/
example : (read "aGVsbG9=").toOption = none := by
  rfl

end XmlBinding.Base64
