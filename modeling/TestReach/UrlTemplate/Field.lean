import TestReach.UrlTemplate.Layout

namespace TestReach.UrlTemplate

structure Field where
  /-- The name and its selectors. -/
  name : List Char
  conversion : Option Char := none
  layout : List Char := []
deriving DecidableEq, Repr

/-- Puts a character before the first part of what has been read. -/
def withChar {α : Type} (c : Char) (read : Except Fault (List Char × α)) :
    Except Fault (List Char × α) :=
  read.map fun (chars, rest) => (c :: chars, rest)

namespace Field

def readName (inBrackets : Bool) : List Char → Except Fault (List Char × List Char)
  | [] => .error .unclosedField
  | c :: rest =>
    if inBrackets then withChar c (readName (c != ']') rest)
    else if c == '\x7b' then .error .openingInName
    else if c == '\x7d' || c == ':' || c == '!' then .ok ([], c :: rest)
    else withChar c (readName (c == '[') rest)

/-- The layout up to the brace that closes the field; `depth` braces have been opened in it. -/
def readLayout (depth : Nat) : List Char → Except Fault (List Char × List Char)
  | [] => .error .unclosedLayout
  | c :: rest =>
    if c == '\x7b' then withChar c (readLayout (depth + 1) rest)
    else if c == '\x7d' then
      match depth with
      | 0 => .ok ([], rest)
      | depth + 1 => withChar c (readLayout depth rest)
    else withChar c (readLayout depth rest)

def read (text : List Char) : Except Fault (Field × List Char) := do
  let (name, rest) ← readName false text
  match rest with
  | '!' :: rest =>
    match rest with
    | [] => .error .noConversion
    | c :: '\x7d' :: rest => return ({ name, conversion := some c }, rest)
    | c :: ':' :: rest =>
      let (layout, rest) ← readLayout 0 rest
      return ({ name, conversion := some c, layout }, rest)
    | [_] => .error .unclosedLayout
    | _ => .error .noColon
  | ':' :: rest =>
    let (layout, rest) ← readLayout 0 rest
    return ({ name, layout }, rest)
  | _ => return ({ name }, rest.tail)

def index? (text : List Char) : Except Fault (Option Nat) := do
  let (index, rest) ← Layout.number? text
  return if rest.isEmpty then index else none

def endsName (c : Char) : Bool :=
  c == '.' || c == '['

def select (value : List Char) : List Char → Except Fault (List Char)
  | [] => .ok value
  | c :: rest =>
    if c == '.' then
      if (rest.takeWhile (!endsName ·)).isEmpty then .error .emptySelector else .error .noAttribute
    else if c == '[' then do
      let key := rest.takeWhile (· != ']')
      match ← index? key with
      | some index =>
        match value[index]? with
        | some chosen => select [chosen] (rest.drop (key.length + 1))
        | none => .error .indexOutOfRange
      | none => if key.isEmpty then .error .emptySelector else .error .noIndex
    else .error .strayAfterIndex
termination_by text => text.length
decreasing_by simp only [List.length_drop, List.length_cons]; omega

def valueOf (path : List Char) (name : List Char) : Except Fault (List Char) := do
  let first := name.takeWhile (!endsName ·)
  match ← index? first with
  | some index => .error (.noArgument index)
  | none =>
    if first.isEmpty then .error (.noArgument 0)
    else if first == "path".toList then select path (name.drop first.length)
    else .error (.unknownName (String.ofList first))

/-- `value` as a conversion asks for: quoted, as it is, or quoted in ASCII. The character zero stands
for no conversion. -/
def convert (value : List Char) : Option Char → Except Fault (List Char)
  | none | some 's' | some '\x00' => .ok value
  | some 'r' => .ok (Text.quoted (String.ofList value)).toList
  | some 'a' => .ok (Text.asciiQuoted (String.ofList value)).toList
  | some c => .error (.unknownConversion c)

end Field
end TestReach.UrlTemplate
