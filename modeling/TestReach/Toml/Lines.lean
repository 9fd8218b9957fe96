import TestReach.Text.Blank
import TestReach.Text.Search
import TestReach.Text.Word
import TestReach.Toml.Value

namespace TestReach.Toml

inductive KeyPlace where
  | outside
  | inside
  | after
deriving DecidableEq, Repr

structure Pass where
  /-- The characters kept so far, the last one first. -/
  done : List Char := []
  /-- Brackets of lists opened and not closed. -/
  depth : Int := 0
  /-- The quote of the text that has begun. -/
  quote : Option Char := none
  /-- Whether a text in three quotes has begun. -/
  inLongText : Bool := false
  inTableName : Bool := false
  inListName : Bool := false
  inComment : Bool := false
  atLineStart : Bool := true
  key : KeyPlace := .outside
  /-- Whether the key has a dot. -/
  isDotted : Bool := false

namespace Pass

def put (pass : Pass) (c : Char) : Pass :=
  { pass with done := c :: pass.done }

def isEscaped (done : List Char) : Bool :=
  (done.takeWhile (· == '\\')).length % 2 == 1

def isKeyChar (c : Char) : Bool :=
  Text.isWord c || c == '-'

def namesFollow (next : Option Char) : Except Fault Bool :=
  match next with
  | none => .error .noItem
  | some c => .ok (!Text.isBlank c && c != '.')

def afterGap (pass : Pass) (next : Option Char) : Except Fault Pass := do
  return if ← namesFollow next then { pass with key := .inside } else pass

/-- Reads a character of a key; nothing if the key has ended before it or ends with it. -/
def inKey (pass : Pass) (c : Char) (next : Option Char) : Except Fault (Option Pass) :=
  if c == '\n' then .error .malformed
  else if pass.quote.isSome then
    if pass.quote == some c && !isEscaped pass.done then
      .ok (some { pass with key := .after, quote := none })
    else .ok (some pass)
  else if pass.key == .inside then
    if Text.isBlank c then .ok (some { pass with key := .after })
    else if c == '.' then .ok (some { pass with isDotted := true })
    else if isKeyChar c then .ok (some pass)
    else if pass.isDotted && pass.done.head? == some '.' && (c == '"' || c == '\'') then
      .ok (some { pass with quote := some c })
    else .ok none
  else if Text.isBlank c then
    if pass.isDotted then do return some (← pass.afterGap next) else .ok (some pass)
  else if c == '.' then
    let dotted : Pass := { pass with isDotted := true }
    do return some (← dotted.afterGap next)
  else .ok none

/-- Whether the two characters before are the same quote. -/
def endsThree (done : List Char) (quote : Char) : Bool :=
  [quote, quote].isPrefixOf done

def isEscapedQuote (done : List Char) : Bool :=
  if endsThree done '"' then isEscaped (done.drop 2)
  else if done.head? == some '"' then false
  else isEscaped done

def atQuote (pass : Pass) (c : Char) : Pass :=
  let toggled :=
    if endsThree pass.done c then
      { pass with
        inLongText := !pass.inLongText, quote := if pass.inLongText then none else some c }
    else { pass with quote := if pass.quote.isSome then none else some c }
  if c == '\'' && pass.quote != some '"' then toggled
  else if c == '"' && pass.quote != some '\'' then
    if isEscapedQuote pass.done then pass else toggled
  else pass

def atBracket (pass : Pass) (c : Char) (next : Option Char) : Pass :=
  if pass.quote.isSome then pass
  else if c == '[' && !pass.inTableName && !pass.inListName then
    if !pass.atLineStart then { pass with depth := pass.depth + 1 }
    else if next == some '[' then { pass with inListName := true }
    else { pass with inTableName := true }
  else if c == ']' then
    if pass.inTableName then { pass with inTableName := false }
    else if pass.inListName then { pass with inListName := pass.done.head? != some ']' }
    else { pass with depth := pass.depth - 1 }
  else pass

/-- Ends a line. The end directly after three quotes is no part of the text; in a list it is a
blank. -/
def atLineEnd (pass : Pass) : Except Fault Pass :=
  if pass.inLongText then
    match pass.done with
    | a :: b :: rest =>
      if (a == '\'' || a == '"') && b == a then
        let rest := if rest.head? == some a then ' ' :: rest.tail else rest
        .ok { pass with done := a :: a :: b :: rest }
      else .ok (pass.put '\n')
    | _ => .ok (pass.put '\n')
  else if pass.quote.isSome then .error .malformed
  else if pass.depth != 0 then .ok (pass.put ' ')
  else .ok ({ pass with atLineStart := true }.put '\n')

/-- Begins a key at the first character of a line that is no blank. -/
def atFirst (pass : Pass) (c : Char) : Except Fault Pass :=
  if !pass.atLineStart || c == ' ' || c == '\t' then .ok pass
  else if pass.inTableName || pass.inListName then .ok { pass with atLineStart := false }
  else if c == '=' then .error .malformed
  else .ok { pass with atLineStart := false, key := .inside }

def outsideKey (pass : Pass) (c : Char) (next : Option Char) : Except Fault Pass :=
  let pass := pass.atQuote c
  if c == '#' && pass.quote.isNone && !pass.inTableName && !pass.inListName then
    .ok ({ pass with inComment := true }.put ' ')
  else
    let pass := pass.atBracket c next
    if c == '\n' then pass.atLineEnd else do return (← pass.atFirst c).put c

def step (pass : Pass) (c : Char) (next : Option Char) : Except Fault Pass :=
  if pass.inComment && c != '\n' then .ok (pass.put ' ')
  else
    let pass := { pass with inComment := false }
    if pass.key == .outside then pass.outsideKey c next
    else do
      match ← pass.inKey c next with
      | some pass => return pass.put c
      | none =>
        if c == '=' then
          let ended : Pass := { pass with key := .outside, isDotted := false }
          ended.outsideKey c next
        else .error .malformed

def readAll (pass : Pass) : List Char → Except Fault Pass
  | [] => .ok pass
  | c :: rest => do readAll (← pass.step c rest.head?) rest

end Pass

/-- The lines of a text: comments become blanks, a list over several lines becomes one line, and keys
and quotes are checked. -/
def linesOf (text : List Char) : Except Fault (List (List Char)) := do
  let pass ← Pass.readAll {} text
  if pass.key != .outside || pass.quote.isSome then .error .malformed
  else return Text.lines pass.done.reverse

end TestReach.Toml
