import TestReach.Text.Blank
import TestReach.Text.Digit

namespace TestReach.Text

def digitLimit : Nat := 4300

inductive IntegerError where
  /-- Some character is no digit, or there is no digit at all. -/
  | malformed
  | tooManyDigits (count : Nat)
deriving DecidableEq, Repr

def tooManyDigitsMessage (count : Nat) : String :=
  "Exceeds the limit (" ++ toString digitLimit ++ " digits) for integer string conversion: value has " ++
    toString count ++ " digits; use sys.set_int_max_str_digits() to increase the limit"

def ofDigits (digits : List Nat) : Nat :=
  digits.foldl (fun n d => n * 10 + d) 0

/-- The values of digits that may have one underscore between each two. `between` says whether the
text continues a number, so that an underscore may come next. -/
def digitValues? (between : Bool) : List Char → Option (List Nat)
  | [] => if between then some [] else none
  | c :: rest =>
    if c == '_' then
      if between then digitValues? false rest else none
    else
      match decimalValue? c with
      | some d => (digitValues? true rest).map (d :: ·)
      | none => none

def natural (text : List Char) : Except IntegerError Nat :=
  match digitValues? false text with
  | none => .error .malformed
  | some digits =>
    if digits.length > digitLimit then .error (.tooManyDigits digits.length)
    else .ok (ofDigits digits)

def integer (text : List Char) : Except IntegerError Int :=
  match strip text with
  | '-' :: rest => (natural rest).map fun n => -(n : Int)
  | '+' :: rest => (natural rest).map fun n => (n : Int)
  | rest => (natural rest).map fun n => (n : Int)

end TestReach.Text
