import TestReach.Pattern.Basic
import TestReach.Pattern.Reader
import TestReach.Text.CharacterName

namespace TestReach.Pattern

def controlCode? : Char → Option Nat
  | 'a' => some 7
  | 'b' => some 8
  | 'f' => some 12
  | 'n' => some 10
  | 'r' => some 13
  | 't' => some 9
  | 'v' => some 11
  | '\\' => some 92
  | _ => none

def category? : Char → Option (Category × Bool)
  | 'd' => some (.digit, false)
  | 'D' => some (.digit, true)
  | 's' => some (.blank, false)
  | 'S' => some (.blank, true)
  | 'w' => some (.word, false)
  | 'W' => some (.word, true)
  | _ => none

def isOctalDigit (c : Char) : Bool :=
  '0' ≤ c && c ≤ '7'

def hexValue? (c : Char) : Option Nat :=
  if '0' ≤ c && c ≤ '9' then some (c.toNat - 48)
  else if 'a' ≤ c && c ≤ 'f' then some (c.toNat - 87)
  else if 'A' ≤ c && c ≤ 'F' then some (c.toNat - 55)
  else none

def isHexDigit (c : Char) : Bool :=
  (hexValue? c).isSome

def valueInBase (base : Nat) (digits : List Char) : Nat :=
  digits.foldl (fun n c => n * base + (hexValue? c).getD 0) 0

def hexWidth? : Char → Option Nat
  | 'x' => some 2
  | 'u' => some 4
  | 'U' => some 8
  | _ => none

def escapeText (letter : Char) (digits : List Char) : String :=
  String.ofList ('\\' :: letter :: digits)

namespace Reader

def failEscape {α : Type} (r : Reader) (fault : String → Fault) (letter : Char)
    (digits : List Char) : Reading α :=
  r.failBack (fault (escapeText letter digits)) (digits.length + 2)

def hexEscape (r : Reader) (letter : Char) (width : Nat) : Reading (Nat × Reader) := do
  let (digits, r) ← r.takeWhile isHexDigit width
  if digits.length != width then r.failEscape .incompleteEscape letter digits
  else
    let code := valueInBase 16 digits
    if code > 0x10FFFF then r.failEscape .badEscape letter digits else return (code, r)

def namedEscape (r : Reader) : Reading (Nat × Reader) := do
  let (opened, r) ← r.accept '\x7b'
  if !opened then r.fail .missingNameBrace
  else
    let (name, r) ← r.name '\x7d' "character name"
    match Text.namedChar? name with
    | some c => return (c.toNat, r)
    | none => r.failBack (.unknownCharacterName (String.ofList name)) (name.length + 4)

/-- The code point of an escape whose meaning is the same inside and outside a set. None if the
letter has no such meaning. -/
def codeEscape? (r : Reader) (letter : Char) : Reading (Option Nat × Reader) :=
  match controlCode? letter, hexWidth? letter with
  | some code, _ => .ok (some code, r)
  | none, some width => (r.hexEscape letter width).map fun (code, r) => (some code, r)
  | none, none =>
    if letter == 'N' then r.namedEscape.map fun (code, r) => (some code, r)
    else if Text.isAsciiLetter letter || Text.isAsciiDigit letter then .ok (none, r)
    else .ok (some letter.toNat, r)

end Reader

def specialChars : List Char :=
  "()[]\x7b\x7d?*+-|^$\\.&~# \t\n\r\x0b\x0c".toList

/-- The pattern that matches exactly `text`. -/
def escape (text : List Char) : List Char :=
  text.flatMap fun c => if specialChars.contains c then ['\\', c] else [c]

end TestReach.Pattern
