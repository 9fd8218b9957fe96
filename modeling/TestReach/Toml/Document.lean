import TestReach.Toml.Entry
import TestReach.Toml.Lines

namespace TestReach.Toml

inductive Step where
  | entry (name : String)
  | last
deriving DecidableEq, Repr

structure Reading where
  root : Value := .table []
  /-- The way from the root to the table that entries are added to. -/
  current : List Step := []
  /-- The names of tables that headers only led through. -/
  implied : List String := []
  pending : Option Pending := none

def changeAt {α : Type} (change : Value → Except Fault (Value × α)) :
    List Step → Value → Except Fault (Value × α)
  | [], value => change value
  | .entry name :: way, .table entries => do
    let (below, found) ← changeAt change way ((entries.lookup name).getD .nothing)
    return (.table (setEntry name below entries), found)
  | .last :: way, .list items => do
    let (below, found) ← changeAt change way (items.getLast?.getD .nothing)
    return (.list (items.dropLast ++ [below]), found)
  | _, _ => .error .noTable

/-- A header: the names that lead to a table, and whether the table is a new one at the end of a
list. -/
structure Header where
  names : List String
  inList : Bool
deriving DecidableEq, Repr

namespace Header

def quotedName (text : List Char) (rest : List (List Char)) :
    Except Fault (List Char × List (List Char)) :=
  let whole := Text.strip text
  if whole.length != 1 && whole.head? == whole.getLast? then .ok (whole.tail.dropLast, rest)
  else
    match rest with
    | [] => .error .malformed
    | next :: rest => quotedName (text ++ '.' :: next) rest
termination_by rest.length

def isBare (name : List Char) : Bool :=
  !name.isEmpty && name.all fun c =>
    ('a' ≤ c && c ≤ 'z') || ('A' ≤ c && c ≤ 'Z') || ('0' ≤ c && c ≤ '9') || c == '_' || c == '-'

/-- The names in a header that was cut at its dots; `fuel` bounds how many. -/
def namesFrom : (fuel : Nat) → List (List Char) → Except Fault (List String)
  | _, [] => .ok []
  | 0, _ => .error .malformed
  | fuel + 1, piece :: rest =>
    let name := Text.strip piece
    if name.head? == some '"' || name.head? == some '\'' then do
      let (name, rest) ← quotedName name rest
      return String.ofList name :: (← namesFrom fuel rest)
    else if isBare name then do return String.ofList name :: (← namesFrom fuel rest)
    else .error .malformed

def ofLine (line : List Char) : Except Fault Header :=
  let inList := line.tail.head? == some '['
  let (text, close) := if inList then (line.drop 2, [']', ']']) else (line.tail, [']'])
  let limit := 1 + countQuoted close false (quoteTurns text)
  let pieces := cut close limit text
  if line.length == 1 || pieces.length < limit + 1 ||
      !(Text.strip (pieces.getLast?.getD [])).isEmpty then .error .malformed
  else do
    let groups := Text.split (· == '.') (glue close pieces.dropLast)
    return ⟨← namesFrom groups.length groups, inList⟩

end Header

structure Opened where
  value : Value
  way : List Step
  implied : List String

/-- The table or list that the last name of a header stands for if there is none yet. -/
def fresh (isLast inList : Bool) : Value :=
  if isLast && inList then .list [.table []] else .table []

/-- What a name of a header stands for in a table, after a table has been added where the header
asks for one. -/
def named (name : String) (isLast inList : Bool) (implied : List String) (entries : Table) :
    Except Fault (Value × List String) :=
  match entries.lookup name with
  | none => .ok (fresh isLast inList, if isLast then implied else implied ++ [name])
  | some value =>
    if !isLast then .ok (value, implied)
    else if implied.contains name then
      if inList then .error .malformed else .ok (value, implied.erase name)
    else if inList then
      match value with
      | .list items => .ok (.list (items ++ [.table []]), implied)
      | _ => .error .noList
    else .error .malformed

/-- Follows the names of a header from a value. A header for a list goes on in the last item of every
list on the way. -/
def openFrom (inList : Bool) (implied : List String) : List String → Value → Except Fault Opened
  | [], value => .ok ⟨value, [], implied⟩
  | name :: names, value =>
    if name == "" then .error .malformed
    else
      let through (implied : List String) (below : Value) : Except Fault Opened :=
        match inList, below with
        | false, _ => openFrom inList implied names below
        | true, .table _ => openFrom inList implied names below
        | true, .list items =>
          match items.getLast? with
          | none => .error .noItem
          | some item => do
            let opened ← openFrom inList implied names item
            return ⟨.list (items.dropLast ++ [opened.value]), .last :: opened.way, opened.implied⟩
        | true, .text text => .error (if text == "" then .noCharacter else .noTable)
        | true, _ => .error .noTable
      match value with
      | .table entries => do
        let (below, implied) ← named name names.isEmpty inList implied entries
        let opened ← through implied below
        return ⟨.table (setEntry name opened.value entries), .entry name :: opened.way,
          opened.implied⟩
      | .list items =>
        match items.getLast? with
        | none => .error .noItem
        | some (.table entries) => do
          let opened ← through implied ((entries.lookup name).getD (fresh names.isEmpty inList))
          return ⟨.list (items.dropLast ++ [.table (setEntry name opened.value entries)]),
            .last :: .entry name :: opened.way, opened.implied⟩
        | some _ => .error .noTable
      | .text text => .error (if text == "" then .noCharacter else .noTable)
      | _ => .error .noTable

namespace Reading

def enter (reading : Reading) (header : Header) : Except Fault Reading := do
  let opened ← openFrom header.inList reading.implied header.names reading.root
  return { reading with root := opened.value, current := opened.way, implied := opened.implied }

/-- Whether a line ends a text that goes over several lines, of which `text` is all so far. -/
def isEnd (text line : List Char) : Except Fault Bool :=
  match text.head? with
  | none => .error .noCharacter
  | some '[' =>
    match line.getLast? with
    | none => .error .noCharacter
    | some c => .ok (c == ']')
  | some quote => .ok (line.reverse.take 3 == [quote, quote, quote])

def set (name : String) (value : Value) : Value → Except Fault (Value × Unit)
  | .table entries => .ok (.table (setEntry name value entries), ())
  | _ => .error .noTable

def enough (text : List Char) : Nat :=
  2 * text.length + 4

def continueWith (reading : Reading) (pending : Pending) (line : List Char) :
    Except Fault Reading := do
  let text := pending.text ++ line
  if ← isEnd text line then
    let value ← valueOf (enough text) text true
    let (root, _) ← changeAt (set pending.key value) reading.current reading.root
    return { reading with root, pending := none }
  else
    let joins := endsEscaped text
    let text := if joins then text.dropLast else text ++ ['\n']
    return { reading with pending := some { pending with text, joins } }

/-- Adds what a line says; one without an equals sign says nothing. -/
def addLine (reading : Reading) (line : List Char) : Except Fault Reading :=
  if line.head? == some '[' then do reading.enter (← Header.ofLine line)
  else if line.head? == some '\x7b' then
    if line.getLast? != some '\x7d' then .error .malformed
    else do
      let add (table : Value) := return (← inlineInto (enough line) line table, ())
      let (root, _) ← changeAt add reading.current reading.root
      return { reading with root }
  else if line.contains '=' then do
    let (root, pending) ← changeAt (entryInto (enough line) line) reading.current reading.root
    return { reading with root, pending }
  else .ok reading

/-- Reads a line. White space around it counts only inside of a text. -/
def readLine (reading : Reading) (line : List Char) : Except Fault Reading :=
  match reading.pending with
  | none =>
    let line := Text.strip line
    if line.isEmpty then .ok reading else reading.addLine line
  | some pending =>
    let line := if pending.joins || !pending.text.contains '\n' then Text.strip line else line
    if line.isEmpty && pending.joins then .ok reading else reading.continueWith pending line

end Reading

/-- The table that a text describes. A table that was made only because a header led through it may get
a header of its own once. -/
def read (text : String) : Except Fault Table := do
  let reading ← (← linesOf text.toList).foldlM Reading.readLine {}
  match reading.root with
  | .table entries => return entries
  | _ => throw .malformed

end TestReach.Toml
