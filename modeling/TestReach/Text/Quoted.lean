import TestReach.Text.Printable
import TestReach.Text.Search

namespace TestReach.Text

def hexDigit (n : Nat) : Char :=
  if n < 10 then Char.ofNat (48 + n) else Char.ofNat (87 + n)

def hexDigits : Nat → Nat → List Char
  | 0, _ => []
  | width + 1, n => hexDigits width (n / 16) ++ [hexDigit (n % 16)]

def numericEscape (c : Char) : List Char :=
  if c.toNat < 0x100 then '\\' :: 'x' :: hexDigits 2 c.toNat
  else if c.toNat < 0x10000 then '\\' :: 'u' :: hexDigits 4 c.toNat
  else '\\' :: 'U' :: hexDigits 8 c.toNat

/-- One character of a quoted text; `plain` says which characters stand for themselves. -/
def quotedChar (plain : Char → Bool) (quote c : Char) : List Char :=
  if c == quote || c == '\\' then ['\\', c]
  else if c == '\n' then ['\\', 'n']
  else if c == '\r' then ['\\', 'r']
  else if c == '\t' then ['\\', 't']
  else if plain c then [c]
  else numericEscape c

def quoteFor (text : List Char) : Char :=
  if text.contains '\'' && !text.contains '"' then '"' else '\''

def quotedBy (plain : Char → Bool) (text : List Char) : List Char :=
  let quote := quoteFor text
  quote :: text.flatMap (quotedChar plain quote) ++ [quote]

def quoted (text : String) : String :=
  String.ofList (quotedBy isPrintable text.toList)

def asciiQuoted (text : String) : String :=
  String.ofList (quotedBy (fun c => isPrintable c && c.toNat < 128) text.toList)

end TestReach.Text
