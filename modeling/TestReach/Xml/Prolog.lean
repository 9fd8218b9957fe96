import TestReach.Text.Utf8
import TestReach.Xml.Value

namespace TestReach.Xml.Prolog

open Reader

def isWordChar (c : Char) : Bool :=
  c.isAlphanum || c == '.' || c == '-' || c == '_'

def setting? (key : String) : Reader (Option (List Char)) :=
  (do
    needSpace
    expect key
    equals
    let quote ← next
    check (quote == '"' || quote == '\'')
    let value ← many isWordChar
    expect (String.singleton quote)
    return some value) <|> pure none

/-- The declaration of the version; whether the document needs no declarations from elsewhere. -/
def version : Reader Bool := do
  expect "<?xml"
  check (← setting? "version").isSome
  let encoding ← setting? "encoding"
  check (encoding.all fun value => value.head?.any Char.isAlpha)
  let standalone ← setting? "standalone"
  check (standalone.all fun value => value == "yes".toList || value == "no".toList)
  discard space
  expect "?>"
  return standalone == some "yes".toList

def hasVersion (text : List Char) : Bool :=
  "<?xml".toList.isPrefixOf text && (text.drop 5).head?.any isSpace

def isPublicChar (c : Char) : Bool :=
  c.isAlphanum || " \n-'()+,./:=?;!*#@$_%".toList.contains c

def publicText : Reader Unit := do
  check ((← quotedText).all isPublicChar)

def externalPlace : Reader Bool := do
  if ← taken "SYSTEM" then
    needSpace
    discard quotedText
    return true
  else if ← taken "PUBLIC" then
    needSpace
    publicText
    needSpace
    discard quotedText
    return true
  else return false

def close : Reader Unit := do
  discard space
  expect ">"

/-- The text of an entity as it is kept: numbers of characters are replaced, references to other
entities stay. A percent sign may not stand in it. -/
def entityText : (fuel : Nat) → List Char → Option (List Char)
  | _, [] => some []
  | 0, _ :: _ => none
  | fuel + 1, c :: rest =>
    if c == '%' then none
    else if c == '&' then do
      let (reference, after) ← Reader.reference rest
      match reference, rest.head? == some '#' with
      | .char d, true => return d :: (← entityText fuel after)
      | _, _ => return c :: rest.take (rest.length - after.length) ++ (← entityText fuel after)
    else do return c :: (← entityText fuel rest)

/-- An internal entity from its quoted text, which is looked into only if declarations count. -/
def internalEntity (declarations : Declarations) : Reader Entity := do
  let text ← quotedText
  if declarations.isReading then
    let kept ← (entityText text.length text : Option (List Char))
    return .internal (Text.Utf8.unifyLineEnds kept)
  else return .internal text

/-- A declaration of an entity for use inside declarations; such entities are never used. -/
def parameterEntity (declarations : Declarations) : Reader Unit := do
  needSpace
  discard name
  needSpace
  if !(← externalPlace) then discard (internalEntity declarations)
  close

def entity (declarations : Declarations) : Reader Declarations := do
  needSpace
  if ← taken "%" then
    parameterEntity declarations
    return declarations
  let key ← name
  needSpace
  let declared ← if ← externalPlace then (do
      if (← space) && (← taken "NDATA") then
        needSpace
        discard name
      return Entity.external)
    else internalEntity declarations
  close
  return declarations.addEntity key declared

def isTokenChar (c : Char) : Bool :=
  isNameChar c || c == ':'

/-- Tokens between parentheses, separated by bars, after the opening one; `fuel` bounds their
number. -/
def choices (token : Reader Unit) : (fuel : Nat) → Reader Unit
  | 0 => fail
  | fuel + 1 => do
    discard space
    token
    discard space
    if ← taken "|" then choices token fuel else expect ")"

def listedToken : Reader Unit := do
  check !(← many isTokenChar).isEmpty

def attributeType (fuel : Nat) : Reader Bool := do
  if ← taken "(" then
    choices listedToken fuel
    return true
  let word ← name
  if word == "NOTATION" then
    needSpace
    expect "("
    choices (discard name) fuel
    return true
  check (["CDATA", "ID", "IDREF", "IDREFS", "ENTITY", "ENTITIES", "NMTOKEN", "NMTOKENS"].contains word)
  return word != "CDATA"

def defaultValue (declarations : Declarations) (isTokenized : Bool) : Reader (Option String) := do
  if ← taken "#" then
    let word ← name
    if word == "IMPLIED" || word == "REQUIRED" then return none
    check (word == "FIXED")
    needSpace
  let written ← quotedText
  if declarations.isReading then
    let written ← (pieces written : Option (List Piece))
    return some (← (Value.ofPieces declarations isTokenized written : Option String))
  else return none

/-- The attributes of an element, up to the end of their declaration; `fuel` bounds their number. -/
def attributes (element : String) : (fuel : Nat) → Declarations → Reader Declarations
  | 0, _ => fail
  | fuel + 1, declarations => do
    let spaced ← space
    if ← taken ">" then return declarations
    check spaced
    let name ← qualifiedName
    needSpace
    let isTokenized ← attributeType fuel
    needSpace
    let default? ← defaultValue declarations isTokenized
    attributes element fuel (declarations.addRule { element, name, isTokenized, default? })

def occurrence : Reader Unit := do
  if (← peek).any fun c => c == '?' || c == '*' || c == '+' then discard next

mutual

/-- A part of the content of an element, inside groups that have these separators so far; `fuel`
bounds the number of parts and groups. -/
def part : (fuel : Nat) → (separators : List (Option Char)) → Reader Unit
  | 0, _ => fail
  | fuel + 1, separators => do
    discard space
    if ← taken "(" then part fuel (none :: separators)
    else
      discard qualifiedName
      occurrence
      afterPart fuel separators

def afterPart : (fuel : Nat) → (separators : List (Option Char)) → Reader Unit
  | 0, _ => fail
  | _, [] => pure ()
  | fuel + 1, separator :: outer => do
    discard space
    if ← taken ")" then
      occurrence
      afterPart fuel outer
    else
      let c ← next
      check (c == ',' || c == '|')
      check (separator.all (· == c))
      part fuel (some c :: outer)

end

/-- Text mixed with elements, after the word for text; `fuel` bounds the number of elements. -/
def mixed (isAlone : Bool) : (fuel : Nat) → Reader Unit
  | 0 => fail
  | fuel + 1 => do
    discard space
    if ← taken ")" then
      if !(← taken "*") then check isAlone
    else
      expect "|"
      discard space
      discard qualifiedName
      mixed false fuel

def element (fuel : Nat) : Reader Unit := do
  needSpace
  discard qualifiedName
  needSpace
  if ← taken "(" then
    discard space
    if ← taken "#PCDATA" then mixed true fuel else part fuel [none]
  else
    let word ← name
    check (word == "EMPTY" || word == "ANY")
  close

def notationDecl : Reader Unit := do
  needSpace
  discard name
  needSpace
  if ← taken "PUBLIC" then
    needSpace
    publicText
    if (← space) && (← peek) != some '>' then discard quotedText
  else
    expect "SYSTEM"
    needSpace
    discard quotedText
  close

/-- The declarations up to the closing bracket; `fuel` bounds their number. -/
def subset : (fuel : Nat) → Declarations → Reader Declarations
  | 0, _ => fail
  | fuel + 1, declarations => do
    discard space
    if ← taken "]" then return declarations
    else if ← taken "%" then
      discard name
      expect ";"
      subset fuel { declarations with isIncomplete := true, isReading := declarations.standalone }
    else if ← taken "<!--" then skipComment; subset fuel declarations
    else if ← taken "<?" then skipInstruction; subset fuel declarations
    else if ← taken "<!ENTITY" then subset fuel (← entity declarations)
    else if ← taken "<!ATTLIST" then
      needSpace
      subset fuel (← attributes (← qualifiedName) fuel declarations)
    else if ← taken "<!ELEMENT" then element fuel; subset fuel declarations
    else if ← taken "<!NOTATION" then notationDecl; subset fuel declarations
    else fail

def documentType (fuel : Nat) (standalone : Bool) : Reader Declarations := do
  needSpace
  discard qualifiedName
  let isIncomplete ← if ← space then externalPlace else pure false
  discard space
  let none : Declarations := { standalone, isIncomplete }
  let declarations ← if ← taken "[" then subset fuel none else pure none
  close
  return declarations

/-- All before the root element; `fuel` bounds the number of its parts. Declarations that lie elsewhere
are not read. -/
def read (fuel : Nat) : Reader Declarations := do
  let standalone ← if hasVersion (← get) then version else pure false
  miscellany fuel
  let declarations ← if ← taken "<!DOCTYPE" then documentType fuel standalone
    else pure { standalone }
  miscellany fuel
  return declarations

end TestReach.Xml.Prolog
