import TestReach.Xml.Value

namespace TestReach.Xml

structure Tag where
  name : String
  attributes : List (String × List Piece)
  /-- Whether the element ends with its start tag. -/
  isClosed : Bool

inductive Token where
  | text (text : List Char)
  /-- A section of characters that are no markup. -/
  | verbatim (text : List Char)
  | reference (reference : Reference)
  | start (tag : Tag)
  | stop (name : String)

namespace Token

open Reader

/-- The attributes of a start tag up to its end, and whether the element ends there; `fuel` bounds
their number. -/
def attributes : (fuel : Nat) → Reader (List (String × List Piece) × Bool)
  | 0 => fail
  | fuel + 1 => do
    let spaced ← space
    if ← taken "/>" then return ([], true)
    else if ← taken ">" then return ([], false)
    else
      check spaced
      let name ← qualifiedName
      equals
      let written ← quotedText
      let value ← (pieces written : Option (List Piece))
      let (rest, isClosed) ← attributes fuel
      return ((name, value) :: rest, isClosed)

def start? (fuel : Nat) : Reader Token := do
  let name ← qualifiedName
  let (attributes, isClosed) ← attributes fuel
  return .start { name, attributes, isClosed }

def stop? : Reader Token := do
  let first ← next
  check (isNameStart first)
  let rest ← many fun c => isNameChar c || c == ':'
  discard space
  expect ">"
  return .stop (String.ofList (first :: rest))

/-- Characters up to the next markup; the end of a section may not stand in them. -/
def text? : Reader Token := do
  let text ← many fun c => c != '<' && c != '&'
  check !(Text.contains "]]>".toList text)
  return .text text

/-- The token that comes next, if it is not dropped. -/
def next? (fuel : Nat) : Reader (Option Token) := do
  if ← taken "<!--" then skipComment; return none
  else if ← taken "<![CDATA[" then return some (.verbatim (← upTo "]]>"))
  else if ← taken "<?" then skipInstruction; return none
  else if ← taken "</" then return some (← stop?)
  else if ← taken "<" then return some (← start? fuel)
  else if ← taken "&" then return some (.reference (← Reader.reference))
  else return some (← text?)

/-- The tokens of a text; `fuel` bounds their number. -/
def listFrom : (fuel : Nat) → List Char → Option (List Token)
  | _, [] => some []
  | 0, _ :: _ => none
  | fuel + 1, c :: rest => do
    let (token?, rest) ← next? fuel (c :: rest)
    return token?.toList ++ (← listFrom fuel rest)

def list (text : List Char) : Option (List Token) :=
  listFrom text.length text

end Token
end TestReach.Xml
