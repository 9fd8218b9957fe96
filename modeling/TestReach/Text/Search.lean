namespace TestReach

/-- A stretch of a text, from `start` up to and excluding `stop`. -/
structure Span where
  start : Nat
  stop : Nat
deriving DecidableEq, Repr, Inhabited

namespace Text

def slice (text : List Char) (start stop : Nat) : List Char :=
  (text.take stop).drop start

/-- The position that `i` means in a text of `length` characters; a negative one counts from the end. -/
def position (length : Nat) (i : Int) : Nat :=
  (if i < 0 then i + length else i).toNat

def between (text : List Char) (start stop : Int) : List Char :=
  slice text (position text.length start) (position text.length stop)

def findFrom? (needle : List Char) (pos : Nat) : List Char → Option Nat
  | [] => if needle.isEmpty then some pos else none
  | c :: rest =>
    if needle.isPrefixOf (c :: rest) then some pos else findFrom? needle (pos + 1) rest

def find? (needle text : List Char) : Option Nat :=
  findFrom? needle 0 text

def contains (needle text : List Char) : Bool :=
  (find? needle text).isSome

/-- Spans of the occurrences that do not overlap an earlier one. The text starts at position `pos`
and its first `skip` characters belong to an occurrence already taken. -/
def occurrencesFrom (needle : List Char) (pos skip : Nat) : List Char → List Span
  | [] => []
  | c :: rest =>
    match skip with
    | skip + 1 => occurrencesFrom needle (pos + 1) skip rest
    | 0 =>
      if needle.isPrefixOf (c :: rest) then
        ⟨pos, pos + needle.length⟩ :: occurrencesFrom needle (pos + 1) (needle.length - 1) rest
      else occurrencesFrom needle (pos + 1) 0 rest

/-- Spans of the occurrences of a non-empty `needle`, leftmost first, without overlaps. -/
def occurrences (needle text : List Char) : List Span :=
  occurrencesFrom needle 0 0 text

def replaceFirst (needle replacement text : List Char) : List Char :=
  match find? needle text with
  | some pos => text.take pos ++ replacement ++ text.drop (pos + needle.length)
  | none => text

/-- `text` with every occurrence of a non-empty `needle` replaced, from left to right. -/
def replaceAllFrom (needle replacement : List Char) (skip : Nat) : List Char → List Char
  | [] => []
  | c :: rest =>
    match skip with
    | skip + 1 => replaceAllFrom needle replacement skip rest
    | 0 =>
      if needle.isPrefixOf (c :: rest) then
        replacement ++ replaceAllFrom needle replacement (needle.length - 1) rest
      else c :: replaceAllFrom needle replacement 0 rest

def replaceAll (needle replacement text : List Char) : List Char :=
  replaceAllFrom needle replacement 0 text

/-- The pieces of `text` between the characters that satisfy `isSeparator`; one more than there are
separators. -/
def split (isSeparator : Char → Bool) : List Char → List (List Char)
  | [] => [[]]
  | c :: rest =>
    if isSeparator c then [] :: split isSeparator rest
    else match split isSeparator rest with
      | [] => [[c]]
      | piece :: pieces => (c :: piece) :: pieces

def lines (text : List Char) : List (List Char) :=
  split (· == '\n') text

def endsWith (ending text : List Char) : Bool :=
  ending.isSuffixOf text

end Text
end TestReach
