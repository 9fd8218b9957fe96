import TestReach.Toml.Number
import TestReach.Toml.Quote

namespace TestReach.Toml

/-- A text whose end has not come yet, and the key that it is for. -/
structure Pending where
  key : String
  text : List Char
  /-- Whether the next line goes on without a line end before it. -/
  joins : Bool

def beginsQuoted (written : List Char) : Bool :=
  let inner := Text.strip written.tail.dropLast
  inner.head? == some '"' || inner.head? == some '\''

def isBounded (text : List Char) : Bool :=
  match text with
  | [] => true
  | first :: rest =>
    text.getLast? == some first && !endsEscaped rest.dropLast

/-- Whether a text begins with three quotes but does not end with them. -/
def isOpenLong (text : List Char) : Bool :=
  match text with
  | a :: b :: c :: _ =>
    a == b && b == c && (text.reverse.drop 1).head? != some a && (text.reverse.drop 2).head? != some a
  | _ => false

/-- Joins an item to those after it until it is a whole quoted text; `fuel` bounds how many. -/
def wholeItem : (fuel : Nat) → List Char → List (List Char) →
    Except Fault (List Char × List (List Char))
  | 0, _, _ => .error .noItem
  | fuel + 1, item, rest =>
    let text := Text.strip item
    if isBounded text && !isOpenLong text then .ok (item, rest)
    else
      match rest with
      | [] => .error .noItem
      | next :: rest => wholeItem fuel (item ++ ',' :: next) rest

/-- Puts the items of a list together that have been cut inside of quotes; the last is left as it is. -/
def wholeItems : (fuel : Nat) → List (List Char) → Except Fault (List (List Char))
  | _, [] => .ok []
  | _, [item] => .ok [item]
  | 0, items => .ok items
  | fuel + 1, item :: rest => do
    let (item, rest) ← wholeItem (rest.length + 1) item rest
    return item :: (← wholeItems fuel rest)

def cutOutside (depth : Int) (item : List Char) : List Char → List (List Char)
  | [] => [item.reverse]
  | c :: rest =>
    if c == ',' && depth == 0 then item.reverse :: cutOutside depth [] rest
    else
      let depth := if c == '[' then depth + 1 else if c == ']' then depth - 1 else depth
      cutOutside depth (c :: item) rest

structure TableScan where
  start : Nat
  stop : Nat
  depth : Nat
  inText : Bool

def tableTexts (written : List Char) : (fuel : Nat) → TableScan → List (List Char)
  | 0, _ => []
  | fuel + 1, scan =>
    if scan.stop + 1 < written.length then
      let c := written.getD scan.stop ' '
      let inText :=
        if c == '"' || c == '\'' then
          if scan.inText && endsEscaped (written.take scan.stop) then scan.inText else !scan.inText
        else scan.inText
      let depth := if !inText && c == '\x7b' then scan.depth + 1 else scan.depth
      if inText || c != '\x7d' then
        tableTexts written fuel { scan with stop := scan.stop + 1, depth, inText }
      else if depth > 1 then
        tableTexts written fuel { scan with stop := scan.stop + 1, depth := depth - 1, inText }
      else
        let stop := scan.stop + 1
        let skipped := ((written.take (written.length - 1)).drop (stop + 1)).takeWhile (· != '\x7b')
        let start := stop + 1 + skipped.length
        Text.slice written scan.start stop ::
          tableTexts written fuel { start, stop := start + 1, depth, inText }
    else []

def itemTexts (written : List Char) : Except Fault (List (List Char)) :=
  let written := Text.strip written
  let inner := written.tail.dropLast
  let beforeBracket := Text.strip (inner.takeWhile (· != '['))
  if inner.contains '[' && beforeBracket.isEmpty then .ok (cutOutside 0 [] inner)
  else
    let items :=
      if (Text.strip inner).head? == some '\x7b' then
        tableTexts written written.length
          ⟨1, 2, if (written.drop 1).head? == some '\x7b' then 1 else 0, false⟩
      else Text.split (· == ',') inner
    if beginsQuoted written then wholeItems items.length items else .ok items

/-- Whether a value ends where it seems to, so that a comma after it separates entries. -/
def isWholeValue (value : List Char) : Bool :=
  let first := value.head?.getD ' '
  let last := value.getLast?.getD ' '
  (first == last && (first == '"' || first == '\'')) || "-0123456789".toList.contains first ||
    value == "true".toList || value == "false".toList || (first == '[' && last == ']') ||
    (first == '\x7b' && last == '\x7d')

def entryTexts : (fuel : Nat) → List (List Char) → Except Fault (List (List Char))
  | _, [] => .ok []
  | 0, _ => .error .malformed
  | fuel + 1, entry :: rest =>
    if !entry.contains '=' then .error .malformed
    else
      let value := Text.strip (entry.dropWhile (· != '=')).tail
      if value.isEmpty then .error .noCharacter
      else if isWholeValue value then do return entry :: (← entryTexts fuel rest)
      else
        match rest with
        | [] => .error .malformed
        | next :: rest => entryTexts fuel ((entry ++ ',' :: next) :: rest)

structure Pair where
  key : List Char
  value : List Char
  isTidy : Bool

/-- Whether a value directly after the equals sign is one that needs no more of the line. -/
def isPlain (value : List Char) : Bool :=
  value.head?.all (fun c => " \t'\"[\x7b".toList.contains c) ||
    Text.strip value == "true".toList || Text.strip value == "false".toList

/-- Moves the equals sign that ends the key to the right until a value follows it; `fuel` bounds how
often. -/
def settle (line : List Char) : (fuel cuts : Nat) → (value : List Char) → (tidy : Bool) →
    Except Fault (List (List Char) × Bool)
  | 0, _, _, _ => .error .malformed
  | fuel + 1, cuts, value, tidy =>
    let parts := (cut ['='] cuts line).dropLast ++ [value]
    if isPlain value || isDecimalText value || isDate value || (clock? value).isSome then
      .ok (parts, tidy)
    else
      let next := ((cut ['='] (cuts + 1) line).getLast?).getD []
      if next == value then .error .malformed
      else settle line fuel (cuts + 1) next (tidy && isTidy next)

def pairOf (line : List Char) : Except Fault Pair := do
  let cuts := 1 + countQuoted ['='] false (quoteTurns line)
  let value := ((cut ['='] cuts line).getLast?).getD []
  let plain := if value.head?.any Char.isDigit then value.filter (· != '_') else value
  let (parts, tidy) ← settle line (line.length + 1) cuts plain (isTidy value)
  return ⟨Text.strip (glue ['='] parts.dropLast), Text.strip (parts.getLast?.getD []), tidy⟩

def namesOf (key : List Char) : Except Fault (List String × String) :=
  if key.contains '.' then
    let levels :=
      if key.contains '"' || key.contains '\'' then
        ((quoteTurns key).zipIdx.map fun (piece, i) =>
          if i % 2 == 1 then [piece] else (Text.split (· == '.') piece).map Text.strip).flatten
      else Text.split (· == '.') key
    match (levels.reverse.dropWhile (·.isEmpty)).reverse with
    | [] => .error .noItem
    | first :: rest =>
      let levels := first :: rest
      .ok ((levels.dropLast.filter (!·.isEmpty)).map String.ofList,
        String.ofList (Text.strip (levels.getLast?.getD [])))
  else
    match key with
    | [] => .error .noCharacter
    | first :: rest =>
      if (first == '"' || first == '\'') && key.getLast? == some first then do
        return ([], String.ofList (← unescaped rest.dropLast))
      else .ok ([], String.ofList key)

def setEntry (name : String) (value : Value) (entries : Table) : Table :=
  if entries.any (·.1 == name) then
    entries.map fun entry => if entry.1 == name then (name, value) else entry
  else entries ++ [(name, value)]

/-- Adds a new entry where the names lead; tables that are not there are made. Without a value
nothing is added. -/
def addEntry (name : String) (value? : Option Value) : List String → Value → Except Fault Value
  | [], .table entries =>
    if entries.any (·.1 == name) then .error .malformed
    else .ok (.table (match value? with
      | some value => entries ++ [(name, value)]
      | none => entries))
  | [], _ => .error .malformed
  | level :: levels, .table entries => do
    let below ← addEntry name value? levels ((entries.lookup level).getD (.table []))
    return .table (setEntry level below entries)
  | _ :: _, _ => .error .noTable

/-- Checks that names lead through tables only; those that are not there can be made. -/
def checkWay : List String → Value → Except Fault Unit
  | [], _ => .ok ()
  | level :: levels, .table entries => checkWay levels ((entries.lookup level).getD (.table []))
  | _ :: _, _ => .error .noTable

/-- Whether a text begins with three quotes and does not end with three others. -/
def isUnclosed (text : List Char) : Bool :=
  match text with
  | a :: b :: c :: _ =>
    (a == '"' || a == '\'') && b == a && c == a &&
      !(text.length > 5 && text.reverse.take 3 == [a, a, a])
  | _ => false

/-- The last items of a list from the last one that begins with a quote on. -/
def lastQuoted : List (List Char) → Except Fault (List Char)
  | [] => .ok []
  | [item] => .ok item
  | last :: before :: rest =>
    match last.head? with
    | none => .error .noCharacter
    | some c =>
      if c == '"' || c == '\'' then .ok last
      else lastQuoted ((before ++ ',' :: last) :: rest)
termination_by items => items.length

def goesOn (written : List Char) : Except Fault Bool :=
  if written.length < 3 then .ok false
  else if written.head? == some '[' && (Text.strip written).getLast? != some ']' &&
      beginsQuoted written then do
    let text ← lastQuoted (Text.split (· == ',') (Text.strip written.tail)).reverse
    return isUnclosed text
  else .ok (isUnclosed written)

mutual

/-- The value that a text stands for; `fuel` bounds how deep values may be inside each other. -/
def valueOf : (fuel : Nat) → (written : List Char) → (tidy : Bool) → Except Fault Value
  | 0, _, _ => .error .malformed
  | fuel + 1, written, tidy =>
    let lower := Text.lower (String.ofList written)
    match written with
    | [] => .error .malformed
    | c :: _ =>
      if written == "true".toList then .ok (.boolean true)
      else if written == "false".toList then .ok (.boolean false)
      else if lower == "true" || lower == "false" then .error .malformed
      else if c == '"' || c == '\'' then quotedValue c written
      else if c == '[' then do
        let items ← listOf fuel (← itemTexts written)
        if items.any (fun item => items.head?.any (·.kind != item.kind)) then throw .malformed
        return .list items
      else if c == '\x7b' then inlineInto fuel written (.table [])
      else
        match clock? written with
        | some (hour, minute, second) =>
          if hour < 24 && minute < 60 && second < 60 then .ok (.time (String.ofList written))
          else .error .malformed
        | none =>
          if isDate written then .ok (.date (String.ofList written))
          else if !tidy then .error .malformed
          else numberOf written

def listOf : (fuel : Nat) → List (List Char) → Except Fault (List Value)
  | 0, _ => .error .malformed
  | _, [] => .ok []
  | fuel + 1, item :: rest => do
    if (Text.strip item).isEmpty then listOf fuel rest
    else
      let value ← valueOf fuel (Text.strip item) true
      return value :: (← listOf fuel rest)

def inlineInto : (fuel : Nat) → (written : List Char) → Value → Except Fault Value
  | 0, _, _ => .error .malformed
  | fuel + 1, written, table => do
    let parts := Text.split (· == ',') written.tail.dropLast
    match parts with
    | [only] =>
      if (Text.strip only).isEmpty then return table
      else entriesInto fuel (← entryTexts 1 parts) table
    | _ => entriesInto fuel (← entryTexts parts.length parts) table

def entriesInto : (fuel : Nat) → List (List Char) → Value → Except Fault Value
  | 0, _, _ => .error .malformed
  | _, [], table => .ok table
  | fuel + 1, entry :: rest, table => do
    let (table, pending?) ← entryInto fuel entry table
    if pending?.isSome then return table else entriesInto fuel rest table

/-- Adds the entry of a line to a table, unless its value goes on in the next line. -/
def entryInto : (fuel : Nat) → (line : List Char) → Value →
    Except Fault (Value × Option Pending)
  | 0, _, _ => .error .malformed
  | fuel + 1, line, table => do
    let pair ← pairOf line
    let (levels, name) ← namesOf pair.key
    checkWay levels table
    if ← goesOn pair.value then
      let joins := endsEscaped pair.value
      let text := if joins then pair.value.dropLast else pair.value ++ ['\n']
      return (← addEntry name none levels table, some ⟨name, text, joins⟩)
    else
      let value ← valueOf fuel pair.value pair.isTidy
      return (← addEntry name (some value) levels table, none)

end

end TestReach.Toml
