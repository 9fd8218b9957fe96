import TestReach.Text.Search

namespace TestReach.Glob

inductive Piece where
  | anything
  | anyChar
  | oneOf (negated : Bool) (ranges : List (Nat × Nat))
  | exactly (c : Char)
deriving DecidableEq, Repr

def Piece.admits : Piece → Char → Bool
  | .anything, _ => true
  | .anyChar, _ => true
  | .oneOf negated ranges, c => (ranges.any fun r => r.1 ≤ c.toNat && c.toNat ≤ r.2) != negated
  | .exactly d, c => c == d

def endings : List Char → List (List Char)
  | [] => [[]]
  | c :: rest => (c :: rest) :: endings rest

def matchesName : List Piece → List Char → Bool
  | [], name => name.isEmpty
  | .anything :: pieces, name => (endings name).any (matchesName pieces)
  | piece :: pieces, c :: name => piece.admits c && matchesName pieces name
  | _ :: _, [] => false

/-- Cuts the inside of a bracket at the hyphens that make ranges. A hyphen makes one unless it is
among the first `guarded` characters or less than two characters after the last that did. -/
def chunksFrom (guarded : Nat) (chunk : List Char) : List Char → List (List Char)
  | [] => [chunk.reverse]
  | c :: rest =>
    match guarded with
    | guarded + 1 => chunksFrom guarded (c :: chunk) rest
    | 0 => if c == '-' then chunk.reverse :: chunksFrom 2 [] rest else chunksFrom 0 (c :: chunk) rest

def closeChunks : List (List Char) → List (List Char)
  | [chunk, []] => [chunk ++ ['-']]
  | chunk :: chunks => chunk :: closeChunks chunks
  | [] => []

/-- Drops the ends of ranges that hold nothing, from the last to the first. -/
def dropEmptyRanges : List (List Char) → List (List Char)
  | [] => []
  | chunk :: rest =>
    match dropEmptyRanges rest with
    | next :: more =>
      match chunk.getLast?, next.head? with
      | some last, some first =>
        if last > first then (chunk.dropLast ++ next.drop 1) :: more else chunk :: next :: more
      | _, _ => chunk :: next :: more
    | [] => [chunk]

/-- The ranges of the chunks: from the last character of each to the first of the next, and every
character on its own. -/
def rangesOf : List (List Char) → List (Nat × Nat)
  | [] => []
  | chunk :: rest =>
    let between := match chunk.getLast?, rest.head?.bind List.head? with
      | some last, some first => [(last.toNat, first.toNat)]
      | _, _ => []
    chunk.map (fun c => (c.toNat, c.toNat)) ++ between ++ rangesOf rest

def bracket (inside : List Char) : Piece :=
  let guarded := if inside.head? == some '!' then 2 else 1
  let chunks := dropEmptyRanges (closeChunks (chunksFrom guarded [] inside))
  match chunks with
  | ('!' :: chunk) :: rest =>
    if chunk.isEmpty && rest.isEmpty then .anyChar else .oneOf true (rangesOf (chunk :: rest))
  | chunks => .oneOf false (rangesOf chunks)

/-- The inside of a bracket and what follows it. An exclamation mark and a closing bracket at the
beginning belong to the inside. -/
def cutBracket? (text : List Char) : Option (List Char × List Char) :=
  let opening := if text.head? == some '!' then 1 else 0
  let opening := if (text.drop opening).head? == some ']' then opening + 1 else opening
  let inside := text.take opening ++ (text.drop opening).takeWhile (· != ']')
  match text.drop inside.length with
  | _ :: rest => some (inside, rest)
  | [] => none

/-- The pieces of a pattern of at most `fuel` characters. A bracket that is not closed stands for itself. -/
def piecesFrom : (fuel : Nat) → List Char → List Piece
  | 0, _ => []
  | _, [] => []
  | fuel + 1, c :: rest =>
    if c == '*' then .anything :: piecesFrom fuel rest
    else if c == '?' then .anyChar :: piecesFrom fuel rest
    else if c == '[' then
      match cutBracket? rest with
      | some (inside, rest) => bracket inside :: piecesFrom fuel rest
      | none => .exactly c :: piecesFrom fuel rest
    else .exactly c :: piecesFrom fuel rest

def pieces (pattern : List Char) : List Piece :=
  piecesFrom pattern.length pattern

def isWild (pattern : List Char) : Bool :=
  pattern.any fun c => c == '*' || c == '?' || c == '['

end TestReach.Glob
