import TestReach.Catalog
import TestReach.Xml.Reader

namespace TestReach.Xml

inductive Entity where
  | internal (text : List Char)
  /-- The text lies elsewhere and is not read. -/
  | external
deriving DecidableEq, Repr

structure AttributeRule where
  element : String
  name : String
  /-- Whether values are made of tokens. -/
  isTokenized : Bool
  default? : Option String
deriving DecidableEq, Repr

/-- The declarations of a document; of several for one thing the first counts. -/
structure Declarations where
  entities : List (String × Entity) := []
  attributes : List AttributeRule := []
  standalone : Bool := false
  /-- Whether there may be declarations elsewhere. -/
  isIncomplete : Bool := false
  /-- Whether declarations still count. -/
  isReading : Bool := true

namespace Declarations

def isStrict (declarations : Declarations) : Bool :=
  !declarations.isIncomplete || declarations.standalone

def rule? (declarations : Declarations) (element name : String) : Option AttributeRule :=
  declarations.attributes.find? fun rule => rule.element == element && rule.name == name

/-- Adds a rule, unless there is one for the attribute or declarations do not count any more. -/
def addRule (declarations : Declarations) (rule : AttributeRule) : Declarations :=
  if declarations.isReading && (declarations.rule? rule.element rule.name).isNone then
    { declarations with attributes := declarations.attributes ++ [rule] }
  else declarations

/-- Adds an entity, unless declarations do not count any more. -/
def addEntity (declarations : Declarations) (name : String) (entity : Entity) : Declarations :=
  if declarations.isReading then
    { declarations with entities := declarations.entities ++ [(name, entity)] }
  else declarations

end Declarations

inductive Piece where
  | char (c : Char)
  | reference (reference : Reference)
deriving DecidableEq, Repr

/-- Splits off the references of a text; `fuel` bounds the number of pieces. -/
def piecesFrom : (fuel : Nat) → List Char → Option (List Piece)
  | _, [] => some []
  | 0, _ :: _ => none
  | fuel + 1, c :: rest =>
    if c == '&' then do
      let (reference, rest) ← Reader.reference rest
      return .reference reference :: (← piecesFrom fuel rest)
    else do return .char c :: (← piecesFrom fuel rest)

def pieces (text : List Char) : Option (List Piece) :=
  piecesFrom text.length text

namespace Value

/-- Adds a character to a value, whose last character comes first. -/
def put (isTokenized : Bool) (value : List Char) (c : Char) : List Char :=
  if isTokenized && c == ' ' && (value.isEmpty || value.head? == some ' ') then value else c :: value

def addPieces (entity : String → List Char → Option (List Char)) (isTokenized : Bool) :
    List Piece → List Char → Option (List Char)
  | [], value => some value
  | .char c :: rest, value =>
    if c == '<' then none
    else addPieces entity isTokenized rest (put isTokenized value (if isSpace c then ' ' else c))
  | .reference (.char c) :: rest, value =>
    addPieces entity isTokenized rest (put isTokenized value c)
  | .reference (.entity name) :: rest, value => do
    addPieces entity isTokenized rest (← entity name value)

/-- Adds the text of an entity, which may not refer to one of `opened`; `depth` bounds how many
entities may be inside each other. -/
def addEntity (declarations : Declarations) (isTokenized : Bool) :
    (depth : Nat) → (opened : List String) → String → List Char → Option (List Char)
  | 0, _, _, _ => none
  | depth + 1, opened, name, value =>
    match declarations.entities.lookup name with
    | none => if declarations.isStrict then none else some value
    | some .external => none
    | some (.internal text) =>
      if opened.contains name then none
      else do
        addPieces (addEntity declarations isTokenized depth (name :: opened)) isTokenized
          (← pieces text) value

def ofPieces (declarations : Declarations) (isTokenized : Bool) (written : List Piece) :
    Option String := do
  let entity := addEntity declarations isTokenized (declarations.entities.length + 1) []
  let value ← addPieces entity isTokenized written []
  let trimmed := if isTokenized && value.head? == some ' ' then value.tail else value
  return String.ofList trimmed.reverse

end Value
end TestReach.Xml
