import TestReach.Moment
import TestReach.Text.Case
import TestReach.Text.Integer
import TestReach.Text.Search
import TestReach.Toml.Value

namespace TestReach.Toml

def isTidy (text : List Char) : Bool :=
  let text := Text.strip text
  let unsigned := if text.head? == some '+' || text.head? == some '-' then text.tail else text
  let hasStrayZero := match text with
    | '0' :: c :: _ => !".obx".toList.contains c
    | _ => match unsigned with
      | '0' :: c :: _ => c != '.'
      | _ => false
  match text with
  | [] => false
  | [c] => c != '_'
  | c :: _ =>
    !(c == '_' || text.getLast? == some '_' || Text.contains "_.".toList text ||
      Text.contains "._".toList text || hasStrayZero || Text.contains "__".toList unsigned)

/-- The text after a run of digits with single underscores between them, if there is a digit. -/
def afterDigits? (text : List Char) : Option (List Char) :=
  match text with
  | [] => none
  | c :: rest =>
    if Text.isDecimal c then
      match rest with
      | '_' :: after => afterDigits? after
      | d :: after => if Text.isDecimal d then afterDigits? (d :: after) else some rest
      | [] => some []
    else none

def withoutSign (text : List Char) : List Char :=
  if text.head? == some '+' || text.head? == some '-' then text.tail else text

def isExponent (text : List Char) : Bool :=
  match text with
  | [] => true
  | c :: rest => (c == 'e' || c == 'E') && afterDigits? (withoutSign rest) == some []

def isDecimalText (text : List Char) : Bool :=
  let text := withoutSign (Text.strip text)
  if ["inf", "infinity", "nan"].contains (String.ofList (text.map Text.asciiLower)) then true
  else
    match afterDigits? text with
    | some ('.' :: rest) =>
      match afterDigits? rest with
      | some rest => isExponent rest
      | none => isExponent rest
    | some rest => isExponent rest
    | none =>
      match text with
      | '.' :: rest => (afterDigits? rest).any isExponent
      | _ => false

def digitIn? (base : Nat) (c : Char) : Option Nat :=
  let lower := Text.asciiLower c
  let value? := match Text.decimalValue? c with
    | some value => some value
    | none => if 'a' ≤ lower && lower ≤ 'z' then some (lower.toNat - 87) else none
  value?.filter (· < base)

def naturalIn? (base : Nat) (text : List Char) : Option Nat :=
  if text.isEmpty then none
  else (text.mapM (digitIn? base)).map fun digits => digits.foldl (fun n d => n * base + d) 0

/-- The number that a text without underscores means: hexadecimal, octal or binary if it begins so,
otherwise decimal without leading zeros. -/
def literalNatural? (text : List Char) : Option Nat :=
  match text.map Text.asciiLower with
  | '0' :: 'x' :: rest => naturalIn? 16 rest
  | '0' :: 'o' :: rest => naturalIn? 8 rest
  | '0' :: 'b' :: rest => naturalIn? 2 rest
  | _ =>
    if text.length > Text.digitLimit then none
    else (naturalIn? 10 text).filter fun value => value == 0 || text.head? != some '0'

def literalInteger? (text : List Char) : Option Int :=
  let text := Text.strip text
  if text.head? == some '-' then (literalNatural? text.tail).map fun value => -(value : Int)
  else (literalNatural? (withoutSign text)).map fun value => (value : Int)

def numberOf (written : List Char) : Except Fault Value :=
  let text := (withoutSign written).filter (· != '_')
  let isNegative := written.head? == some '-'
  let hasExponent := !text.contains 'x' && (text.contains 'e' || text.contains 'E')
  let lower := String.ofList (text.map Text.asciiLower)
  if text.contains '.' || hasExponent then
    let fraction := (text.dropWhile (· != '.')).tail
    if text.contains '.' && fraction.isEmpty then .error .malformed
    else if text.head?.any Char.isDigit && isDecimalText text then
      .ok (.decimal (String.ofList written))
    else .error .malformed
  else if lower == "inf" || lower == "nan" then .ok (.decimal (String.ofList written))
  else
    match literalInteger? text with
    | some value => .ok (.integer (if isNegative then -value else value))
    | none => .error .malformed

def partOf (text : List Char) (start stop : Nat) : Option Int :=
  (Text.integer (Text.slice text start stop)).toOption

def isDate (text : List Char) : Bool :=
  text.tail.contains '-' &&
    (do
      let year ← partOf text 0 4
      let month ← partOf text 5 7
      let day ← partOf text 8 10
      if text.length == 10 then return (Moment.ofParts year month day 0 0 0 0).isOk
      let hour ← partOf text 11 13
      let minute ← partOf text 14 16
      let second ← partOf text 17 19
      return (Moment.ofParts year month day hour minute second 0).isOk).getD false

def clock? (text : List Char) : Option (Nat × Nat × Nat) :=
  match text with
  | a :: b :: ':' :: c :: d :: ':' :: e :: f :: _ =>
    let pair (x y : Char) : Option Nat :=
      if x.isDigit && y.isDigit then some ((x.toNat - 48) * 10 + (y.toNat - 48)) else none
    do return (← pair a b, ← pair c d, ← pair e f)
  | _ => none

end TestReach.Toml
