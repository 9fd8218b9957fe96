import TestReach.Text.Search

namespace TestReach.Text.Utf8

/-- A character of which some bytes have been read. The next byte must be from `low` to `high`, and
`more` bytes must follow that one. -/
structure Partial where
  code : Nat
  more : Nat
  low : Nat
  high : Nat

/-- What the first byte of a character says: nothing if no character begins with it, a whole
character, or one to be continued. -/
inductive Lead where
  | invalid
  | whole (code : Nat)
  | continued (rest : Partial)

def lead (byte : Nat) : Lead :=
  if byte ≤ 0x7F then .whole byte
  else if 0xC2 ≤ byte && byte ≤ 0xDF then .continued ⟨byte - 0xC0, 0, 0x80, 0xBF⟩
  else if byte == 0xE0 then .continued ⟨0, 1, 0xA0, 0xBF⟩
  else if byte == 0xED then .continued ⟨0xD, 1, 0x80, 0x9F⟩
  else if 0xE1 ≤ byte && byte ≤ 0xEF then .continued ⟨byte - 0xE0, 1, 0x80, 0xBF⟩
  else if byte == 0xF0 then .continued ⟨0, 2, 0x90, 0xBF⟩
  else if 0xF1 ≤ byte && byte ≤ 0xF3 then .continued ⟨byte - 0xF0, 2, 0x80, 0xBF⟩
  else if byte == 0xF4 then .continued ⟨4, 2, 0x80, 0x8F⟩
  else .invalid

/-- The parts of a text from its bytes, after the beginning of a character if one is given: each is a
character, or a longest beginning of one that cannot be completed. -/
def partsFrom (begun : Option Partial) : List UInt8 → List (Option Char)
  | [] => if begun.isSome then [none] else []
  | byte :: rest =>
    let b := byte.toNat
    let fresh (before : List (Option Char)) : List (Option Char) :=
      match lead b with
      | .invalid => before ++ none :: partsFrom none rest
      | .whole code => before ++ some (Char.ofNat code) :: partsFrom none rest
      | .continued p => before ++ partsFrom (some p) rest
    match begun with
    | none => fresh []
    | some p =>
      if p.low ≤ b && b ≤ p.high then
        let code := p.code * 64 + (b - 0x80)
        match p.more with
        | 0 => some (Char.ofNat code) :: partsFrom none rest
        | more + 1 => partsFrom (some ⟨code, more, 0x80, 0xBF⟩) rest
      else fresh [none]

def parts (bytes : List UInt8) : List (Option Char) :=
  partsFrom none bytes

def unifyLineEnds : List Char → List Char
  | '\r' :: '\n' :: rest => '\n' :: unifyLineEnds rest
  | '\r' :: rest => '\n' :: unifyLineEnds rest
  | c :: rest => c :: unifyLineEnds rest
  | [] => []

def decodeLenient (bytes : List UInt8) : String :=
  String.ofList (unifyLineEnds ((parts bytes).map (·.getD (Char.ofNat 0xFFFD))))

/-- The text of `bytes`, if no part is invalid. -/
def decode? (bytes : List UInt8) : Option String :=
  let found := parts bytes
  if found.all Option.isSome then some (String.ofList (unifyLineEnds (found.filterMap id))) else none

def encode (text : String) : List UInt8 :=
  text.toUTF8.toList

end TestReach.Text.Utf8
