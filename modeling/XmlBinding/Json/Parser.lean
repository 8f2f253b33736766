import XmlBinding.Json.Lexer

/-!
Reading JSON texts. Each reader returns what it has read and the symbols after it, or no rest where
the text breaks off.
-/

namespace XmlBinding.Json

mutual

/-- Reads one value. Every call takes a symbol off, so their number bounds the depth of calls. -/
def valueIn : Nat → List Symbol → Json × Option (List Symbol)
  | _ + 1, .openArray :: .closeArray :: rest => (.array [], some rest)
  | fuel + 1, .openArray :: rest =>
      let (items, rest) := itemsIn fuel rest
      (.array items, rest)
  | _ + 1, .openObject :: .closeObject :: rest => (.object [], some rest)
  | fuel + 1, .openObject :: rest =>
      let (members, rest) := membersIn fuel rest
      (.object members, rest)
  | _ + 1, .word value :: rest => (value, some rest)
  | _ + 1, .string value :: rest => (.string value, some rest)
  | _, _ => (.broken, none)

/-- Reads the items of an array and its closing bracket. -/
def itemsIn : Nat → List Symbol → List Json × Option (List Symbol)
  | fuel + 1, symbols =>
      let (item, rest) := valueIn fuel symbols
      match rest with
      | some (.comma :: rest) =>
          let (items, rest) := itemsIn fuel rest
          (item :: items, rest)
      | some (.closeArray :: rest) => ([item], some rest)
      | some _ => ([item, .broken], none)
      | none => ([item], none)
  | 0, _ => ([.broken], none)

/-- Reads the members of an object and its closing brace. -/
def membersIn : Nat → List Symbol → List (Option String × Json) × Option (List Symbol)
  | fuel + 1, .string key :: .colon :: symbols =>
      let (value, rest) := valueIn fuel symbols
      match rest with
      | some (.comma :: rest) =>
          let (members, rest) := membersIn fuel rest
          ((key, value) :: members, rest)
      | some (.closeObject :: rest) => ([(key, value)], some rest)
      | some _ => ([(key, value), (none, .broken)], none)
      | none => ([(key, value)], none)
  | _, _ => ([(none, .broken)], none)

end

/-- The value of a text and whether nothing follows it. -/
def parse (s : String) : Json × Bool :=
  let input := symbols s
  let (value, rest) := valueIn (2 * input.length + 1) input
  (value, rest.any (·.isEmpty))

end XmlBinding.Json
