import TestReach.Text.Search
import TestReach.Toml.Value

namespace TestReach.Toml

/-- The pieces of a text between the first `limit` occurrences of `separator`, which is not empty. -/
def cut (separator : List Char) : (limit : Nat) → List Char → List (List Char)
  | 0, text => [text]
  | limit + 1, text =>
    match Text.find? separator text with
    | none => [text]
    | some pos => text.take pos :: cut separator limit (text.drop (pos + separator.length))

def cutAll (separator : List Char) (text : List Char) : List (List Char) :=
  cut separator text.length text

/-- Pieces put together again, with `separator` between them. -/
def glue (separator : List Char) (pieces : List (List Char)) : List Char :=
  separator.intercalate pieces

/-- Joins double-quoted pieces to the last single-quoted one until its quotes are balanced. -/
def balance (singles : List (List Char)) : List (List Char) → List (List Char) × List (List Char)
  | [] => (singles, [])
  | piece :: rest =>
    if singles.length % 2 == 0 then
      let last := (singles.getLast?.getD []) ++ '"' :: piece
      balance (singles.dropLast ++ Text.split (· == '\'') last) rest
    else (singles, piece :: rest)

def quoteTurns (line : List Char) : List (List Char) :=
  let doubles := Text.split (· == '"') line
  let (singles, doubles) := match doubles with
    | first :: second :: rest =>
      if first.contains '\'' then balance (Text.split (· == '\'') first) (second :: rest)
      else ([], doubles)
    | _ => ([], doubles)
  match doubles with
  | [] => singles
  | first :: rest => singles ++ Text.split (· == '\'') first ++ rest

/-- How often `mark` occurs in quotes before it first occurs outside of them. -/
def countQuoted (mark : List Char) (isQuoted : Bool) : List (List Char) → Nat
  | [] => 0
  | piece :: rest =>
    if !isQuoted && Text.contains mark piece then 0
    else (Text.occurrences mark piece).length + countQuoted mark (!isQuoted) rest

def endsEscaped (text : List Char) : Bool :=
  (text.reverse.takeWhile (· == '\\')).length % 2 == 1

def hexValue? (c : Char) : Option Nat :=
  if '0' ≤ c && c ≤ '9' then some (c.toNat - 48)
  else if 'a' ≤ c && c ≤ 'f' then some (c.toNat - 87)
  else if 'A' ≤ c && c ≤ 'F' then some (c.toNat - 55)
  else none

def escapedChar (digits : List Char) : Except Fault Char :=
  match digits.mapM hexValue? with
  | none => .error .malformed
  | some [] => .error .noCharacter
  | some (first :: rest) =>
    let code := (first :: rest).foldl (fun n d => n * 16 + d) 0
    if first == 13 && rest.head?.any (8 ≤ ·) then .error .malformed
    else if code.isValidChar then .ok (Char.ofNat code)
    else .error .malformed

/-- Replaces numbered characters, given the pieces between their marks. After an escaped backslash
the mark is none. -/
def numberedFrom (mark : List Char) (width : Nat) (isEscaped : Bool) :
    List (List Char) → Except Fault (List Char)
  | [] => .ok []
  | piece :: rest =>
    if isEscaped then do
      return mark ++ piece ++ (← numberedFrom mark width (endsEscaped piece) rest)
    else do
      let c ← escapedChar (piece.take width)
      return c :: piece.drop width ++ (← numberedFrom mark width false rest)

def numbered (mark : List Char) (width : Nat) (text : List Char) : Except Fault (List Char) :=
  match cutAll mark text with
  | [] => .ok []
  | first :: rest => do return first ++ (← numberedFrom mark width (endsEscaped first) rest)

def shortEscapes : List (Char × Char) :=
  [('0', '\x00'), ('b', '\x08'), ('f', '\x0c'), ('n', '\n'), ('r', '\r'), ('t', '\t'), ('"', '"'),
    ('\\', '\\')]

def unescaped : List Char → Except Fault (List Char)
  | '\\' :: c :: rest =>
    match shortEscapes.lookup c with
    | some d => do return d :: (← unescaped rest)
    | none =>
      if c == 'u' || c == 'U' then do return '\\' :: c :: (← unescaped rest) else .error .malformed
  | c :: rest => do return c :: (← unescaped rest)
  | [] => .ok []

/-- Whether nothing follows the quotes that close a text, given the pieces between its quotes. In
three quotes, `quotes` have come in a row so far. -/
def closesLast (isLong : Bool) (quotes : Nat) (isClosed : Bool) : List (List Char) → Bool
  | [] => true
  | piece :: rest =>
    if piece.isEmpty then
      if isLong then closesLast isLong (quotes + 1) isClosed rest
      else closesLast isLong quotes true rest
    else if endsEscaped piece then closesLast isLong quotes isClosed rest
    else if isClosed then false
    else if !isLong || quotes > 1 then closesLast isLong quotes true rest
    else closesLast isLong 0 isClosed rest

def withoutQuotes (text : List Char) : List Char :=
  let text := match text with
    | [a, b] => if a == b then [] else text
    | a :: b :: c :: rest => if a == b && b == c then (c :: rest).dropLast.dropLast else text
    | _ => text
  text.tail.dropLast

/-- The text in quotes that begins with `quote`. In single quotes every character stands for itself. -/
def quotedValue (quote : Char) (written : List Char) : Except Fault Value := do
  let closed := match Text.split (· == quote) written.tail with
    | [] :: [] :: pieces => closesLast true 0 false pieces
    | pieces => closesLast false 0 false pieces
  if !closed then throw .malformed
  if quote == '"' then
    let text ← unescaped (← numbered ['\\', 'U'] 8 (← numbered ['\\', 'u'] 4 written))
    return .text (String.ofList (withoutQuotes text))
  else return .text (String.ofList (withoutQuotes written))

end TestReach.Toml
