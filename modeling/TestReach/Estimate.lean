import TestReach.Text.Integer
import TestReach.Text.Quoted

namespace TestReach.Estimate

inductive Fault where
  /-- Some character is a digit, such as a superscript, but no decimal one. -/
  | notDecimal (field : String)
  | tooManyDigits (count : Nat)
deriving DecidableEq, Repr

def quotedLimit : Nat := 200

def Fault.message : Fault → String
  | notDecimal field =>
    "invalid literal for int() with base 10: " ++ String.ofList
      ((Text.quotedBy Text.isPrintable field.toList).take quotedLimit)
  | tooManyDigits count => Text.tooManyDigitsMessage count

/-- The value of a field of digits. Its decimal digits are counted before another one is refused. -/
def fieldValue (field : List Char) : Except Fault Nat :=
  let decimals := field.takeWhile Text.isDecimal
  if decimals.length > Text.digitLimit then .error (.tooManyDigits decimals.length)
  else if decimals.length < field.length then .error (.notDecimal (String.ofList field))
  else .ok (Text.ofDigits (field.filterMap Text.decimalValue?))

def secondsFrom (total : Nat) : List (List Char) → Except Fault Nat
  | [] => .ok total
  | field :: fields =>
    if field.isEmpty || !field.all Text.isDigit then .ok 0
    else do secondsFrom (total * 60 + (← fieldValue field)) fields

/-- The seconds that an estimate stands for: numbers separated by colons, each counting sixty of the
next. An estimate of another form counts as zero. -/
def seconds (estimate : String) : Except Fault Nat :=
  secondsFrom 0 (Text.split (· == ':') (Text.strip estimate.toList))

end TestReach.Estimate
