import TestReach.Text.Case
import TestReach.Text.Search
import TestReach.Xml.Charset

namespace TestReach.Xml

abbrev Reader := StateT (List Char) Option

inductive Reference where
  | char (c : Char)
  | entity (name : String)
deriving DecidableEq, Repr

namespace Reader

def fail {α : Type} : Reader α := fun _ => none

def check (holds : Bool) : Reader Unit :=
  if holds then pure () else fail

def next : Reader Char
  | [] => none
  | c :: rest => some (c, rest)

def peek : Reader (Option Char) := do
  return (← get).head?

def taken (wanted : String) : Reader Bool := do
  if wanted.toList.isPrefixOf (← get) then
    modify (·.drop wanted.toList.length)
    return true
  else return false

def expect (wanted : String) : Reader Unit := do
  check (← taken wanted)

/-- The characters up to the first that does not satisfy `holds`. -/
def many (holds : Char → Bool) : Reader (List Char) := fun text =>
  some (text.takeWhile holds, text.dropWhile holds)

def space : Reader Bool := do
  return !(← many isSpace).isEmpty

def needSpace : Reader Unit := do
  check (← space)

/-- The text before the first occurrence of `ending`, which is taken, too. -/
def upTo (ending : String) : Reader (List Char) := fun text =>
  (Text.find? ending.toList text).map fun pos =>
    (text.take pos, text.drop (pos + ending.toList.length))

def name : Reader String := do
  let first ← next
  check (isNameStart first)
  return String.ofList (first :: (← many isNameChar))

def qualifiedName : Reader String := do
  let first ← name
  if ← taken ":" then return first ++ ":" ++ (← name) else return first

def quotedText : Reader (List Char) := do
  let quote ← next
  check (quote == '"' || quote == '\'')
  upTo (String.singleton quote)

def equals : Reader Unit := do
  discard space
  expect "="
  discard space

def digit? (base : Nat) (c : Char) : Option Nat :=
  let value? :=
    if '0' ≤ c && c ≤ '9' then some (c.toNat - 48)
    else if 'a' ≤ c && c ≤ 'f' then some (c.toNat - 87)
    else if 'A' ≤ c && c ≤ 'F' then some (c.toNat - 55)
    else none
  value?.filter (· < base)

def numbered (base : Nat) : Reader Reference := do
  let digits ← many fun c => (digit? base c).isSome
  expect ";"
  check !digits.isEmpty
  let value := (digits.filterMap (digit? base)).foldl (fun n d => n * base + d) 0
  let c := Char.ofNat value
  check (c.toNat == value && isAllowed c)
  return .char c

def namedCharacters : List (String × Char) :=
  [("lt", '<'), ("gt", '>'), ("amp", '&'), ("quot", '"'), ("apos", '\'')]

def reference : Reader Reference := do
  if ← taken "#x" then numbered 16
  else if ← taken "#" then numbered 10
  else
    let name ← name
    expect ";"
    return match namedCharacters.lookup name with
      | some c => .char c
      | none => .entity name

/-- A comment whose opening has been read; two dashes may only end it. -/
def skipComment : Reader Unit := do
  discard (upTo "--")
  expect ">"

def skipInstruction : Reader Unit := do
  let target ← name
  check (target.toList.map Text.asciiLower != "xml".toList)
  if !(← taken "?>") then
    needSpace
    discard (upTo "?>")

/-- Comments, processing instructions and white space; `fuel` bounds their number. -/
def miscellany : (fuel : Nat) → Reader Unit
  | 0 => pure ()
  | fuel + 1 => do
    if ← space then miscellany fuel
    else if ← taken "<!--" then do skipComment; miscellany fuel
    else if ← taken "<?" then do skipInstruction; miscellany fuel
    else pure ()

end Reader
end TestReach.Xml
