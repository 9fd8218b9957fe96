import TestReach.Text.Digit
import TestReach.UrlTemplate.Fault

namespace TestReach.UrlTemplate

inductive Align where
  | left
  | right
  | center
  /-- Padding after a sign, which only numbers have. -/
  | inner
deriving DecidableEq, Repr

def Align.ofChar? : Char → Option Align
  | '<' => some .left
  | '>' => some .right
  | '^' => some .center
  | '=' => some .inner
  | _ => none

structure Layout where
  fill : Char := ' '
  align : Align := .left
  sign : Option Char := none
  coercesZero : Bool := false
  alternate : Bool := false
  width : Option Nat := none
  separator : Option Char := none
  precision : Option Nat := none
  kind : Char := 's'
deriving DecidableEq, Repr

def largestNumber : Nat := 0x7FFFFFFFFFFFFFFF

namespace Layout

def numberFrom (value : Nat) : List Char → Except Fault (Nat × List Char)
  | [] => .ok (value, [])
  | c :: rest =>
    match Text.decimalValue? c with
    | none => .ok (value, c :: rest)
    | some digit =>
      if value * 10 + digit > largestNumber then .error .numberTooLarge
      else numberFrom (value * 10 + digit) rest

def number? (text : List Char) : Except Fault (Option Nat × List Char) := do
  let (value, rest) ← numberFrom 0 text
  return (if rest.length == text.length then none else some value, rest)

def placing : List Char → Option Char × Option Align × List Char
  | [] => (none, none, [])
  | c :: rest =>
    match rest.head?.bind Align.ofChar? with
    | some align => (some c, some align, rest.tail)
    | none =>
      match Align.ofChar? c with
      | some align => (none, some align, rest)
      | none => (none, none, c :: rest)

/-- The first character of a text, if it is one of `wanted`. -/
def oneOf (wanted : List Char) : List Char → Option Char × List Char
  | c :: rest => if wanted.contains c then (some c, rest) else (none, c :: rest)
  | [] => (none, [])

def separators (text : List Char) : Except Fault (Option Char × List Char) :=
  let (comma, rest) := oneOf [','] text
  let (line, rest) := oneOf ['_'] rest
  if line.isSome && (comma.isSome || rest.head? == some ',') then .error .twoSeparators
  else .ok (comma <|> line, rest)

def precisions (text : List Char) : Except Fault (Option Nat × List Char) :=
  match text with
  | '.' :: rest => do
    let (precision, rest) ← number? rest
    if precision.isNone then .error .noPrecision else .ok (precision, rest)
  | text => .ok (none, text)

def groupedKinds (separator : Char) : List Char :=
  "defgEG%F\x00".toList ++ if separator == '_' then "boxX".toList else []

def read (text : List Char) : Except Fault Layout := do
  let (fill, align, rest) := placing text
  let (sign, rest) := oneOf [' ', '+', '-'] rest
  let (coercion, rest) := oneOf ['z'] rest
  let (alternate, rest) := oneOf ['#'] rest
  let (zero, rest) := if fill.isSome then (none, rest) else oneOf ['0'] rest
  let (width, rest) ← number? rest
  let (separator, rest) ← separators rest
  let (precision, rest) ← precisions rest
  let kind ← match rest with
    | [] => .ok 's'
    | [kind] => .ok kind
    | _ => .error (.invalidLayout (String.ofList text))
  match separator with
  | some separator =>
    if !(groupedKinds separator).contains kind then throw (.notGrouped separator kind)
  | none => pure ()
  return { fill := ((fill <|> zero).getD ' '), align := align.getD .left, sign
           coercesZero := coercion.isSome, alternate := alternate.isSome, width, separator
           precision, kind }

def fault? (layout : Layout) : Option Fault :=
  if layout.kind != 's' then some (.unknownKind layout.kind)
  else if layout.sign == some ' ' then some .spaceForSign
  else if layout.sign.isSome then some .sign
  else if layout.coercesZero then some .zeroCoercion
  else if layout.alternate then some .alternateForm
  else if layout.align == .inner then some .innerAlignment
  else none

def place (layout : Layout) (text : List Char) : List Char :=
  let text := text.take (layout.precision.getD text.length)
  let missing := layout.width.getD 0 - text.length
  let before := match layout.align with
    | .left => 0
    | .center => missing / 2
    | .right | .inner => missing
  List.replicate before layout.fill ++ text ++ List.replicate (missing - before) layout.fill

/-- `text` as a written layout asks for; the empty layout changes nothing. -/
def apply (written text : List Char) : Except Fault (List Char) :=
  if written.isEmpty then .ok text
  else do
    let layout ← read written
    match layout.fault? with
    | some fault => .error fault
    | none => return layout.place text

end Layout
end TestReach.UrlTemplate
