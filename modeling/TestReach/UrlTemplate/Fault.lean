import TestReach.Text.Quoted

namespace TestReach.UrlTemplate

inductive Fault where
  | loneOpening
  | loneClosing
  /-- An opening brace inside the name of a field. -/
  | openingInName
  | unclosedField
  | noConversion
  | noColon
  | unclosedLayout
  /-- A field in the layout of a field that is itself in a layout. -/
  | tooDeep
  /-- A field that asks for a value by its number. -/
  | noArgument (index : Nat)
  | unknownName (name : String)
  | numberTooLarge
  | emptySelector
  | noAttribute
  /-- An index that is no number. -/
  | noIndex
  | indexOutOfRange
  | strayAfterIndex
  | unknownConversion (c : Char)
  | invalidLayout (text : String)
  | noPrecision
  | twoSeparators
  | notGrouped (separator kind : Char)
  | unknownKind (kind : Char)
  | spaceForSign
  | sign
  | zeroCoercion
  | alternateForm
  | innerAlignment
deriving DecidableEq, Repr

/-- A character that a message names; as a number if it is not a visible one below `limit`. -/
def shownChar (limit : Nat) (c : Char) : String :=
  if 32 < c.toNat && c.toNat < limit then String.singleton c
  else "\\x" ++ String.ofList (Nat.toDigits 16 c.toNat)

/-- The text for a fault; those without one are reported by their kind alone. -/
def Fault.message? : Fault → Option String
  | loneOpening => "Single '\x7b' encountered in format string"
  | loneClosing => "Single '\x7d' encountered in format string"
  | openingInName => "unexpected '\x7b' in field name"
  | unclosedField => "expected '\x7d' before end of string"
  | noConversion => "end of string while looking for conversion specifier"
  | noColon => "expected ':' after conversion specifier"
  | unclosedLayout => "unmatched '\x7b' in format spec"
  | tooDeep => "Max string recursion exceeded"
  | noArgument index =>
    "Replacement index " ++ toString index ++ " out of range for positional args tuple"
  | unknownName name => Text.quoted name
  | numberTooLarge => "Too many decimal digits in format string"
  | emptySelector => "Empty attribute in format string"
  | noAttribute => none
  | noIndex => none
  | indexOutOfRange => "string index out of range"
  | strayAfterIndex => "Only '.' or '[' may follow ']' in format field specifier"
  | unknownConversion c => "Unknown conversion specifier " ++ shownChar 127 c
  | invalidLayout text => "Invalid format specifier '" ++ text ++ "' for object of type 'str'"
  | noPrecision => "Format specifier missing precision"
  | twoSeparators => "Cannot specify both ',' and '_'."
  | notGrouped separator kind =>
    "Cannot specify '" ++ String.singleton separator ++ "' with '" ++ shownChar 128 kind ++ "'."
  | unknownKind kind =>
    "Unknown format code '" ++ shownChar 128 kind ++ "' for object of type 'str'"
  | spaceForSign => "Space not allowed in string format specifier"
  | sign => "Sign not allowed in string format specifier"
  | zeroCoercion => "Negative zero coercion (z) not allowed in string format specifier"
  | alternateForm => "Alternate form (#) not allowed in string format specifier"
  | innerAlignment => "'=' alignment not allowed in string format specifier"

end TestReach.UrlTemplate
