import TestReach.Pattern.Fault
import TestReach.Text.Identifier

namespace TestReach.Pattern

/-- What is left of a pattern, and its position. A backslash and the character after it are one symbol. -/
structure Reader where
  rest : List Char
  pos : Nat
deriving DecidableEq, Repr

inductive Symbol where
  | plain (c : Char)
  | escaped (c : Char)
deriving DecidableEq, Repr

namespace Symbol

def chars : Symbol → List Char
  | plain c => [c]
  | escaped c => ['\\', c]

def text (s : Symbol) : String :=
  String.ofList s.chars

def width : Symbol → Nat
  | plain _ => 1
  | escaped _ => 2

end Symbol

abbrev Reading (α : Type) := Except CompileError α

namespace Reader

/-- Stops with `fault`, `back` characters before the present position. -/
def failBack {α : Type} (r : Reader) (fault : Fault) (back : Nat) : Reading α :=
  .error (.malformed fault (some (r.pos - back)))

def fail {α : Type} (r : Reader) (fault : Fault) : Reading α :=
  r.failBack fault 0

def peek? (r : Reader) : Option Symbol :=
  match r.rest with
  | [] => none
  | '\\' :: c :: _ => some (.escaped c)
  | c :: _ => some (.plain c)

def sees (r : Reader) (c : Char) : Bool :=
  r.peek? == some (.plain c)

def plainIf? (r : Reader) (ok : Char → Bool) : Option Char :=
  match r.peek? with
  | some (.plain c) => if ok c then some c else none
  | _ => none

def skip (r : Reader) (s : Symbol) : Reading Reader :=
  let next : Reader := ⟨r.rest.drop s.width, r.pos + s.width⟩
  if next.rest == ['\\'] then next.fail .danglingEscape else .ok next

def next (r : Reader) : Reading (Option Symbol × Reader) :=
  match r.peek? with
  | none => .ok (none, r)
  | some s => (r.skip s).map (some s, ·)

def accept (r : Reader) (c : Char) : Reading (Bool × Reader) :=
  if r.sees c then (r.skip (.plain c)).map (true, ·) else .ok (false, r)

def takeWhile (ok : Char → Bool) : (limit : Nat) → Reader → Reading (List Char × Reader)
  | 0, r => .ok ([], r)
  | limit + 1, r =>
    match r.plainIf? ok with
    | none => .ok ([], r)
    | some c => do
      let (cs, r) ← takeWhile ok limit (← r.skip (.plain c))
      return (c :: cs, r)

def takeUntil (terminator : Char) (what : String) :
    (fuel : Nat) → (seen : List Char) → Reader → Reading (List Char × Reader)
  | 0, _, r => r.fail .unexpectedEnd
  | fuel + 1, seen, r => do
    let (symbol, r) ← r.next
    match symbol with
    | none =>
      if seen.isEmpty then r.fail (.missing what)
      else r.failBack (.unterminatedName (String.ofList [terminator])) seen.length
    | some s =>
      if s == .plain terminator then
        if seen.isEmpty then r.failBack (.missing what) 1 else return (seen.reverse, r)
      else takeUntil terminator what fuel (s.chars.reverse ++ seen) r

def name (r : Reader) (terminator : Char) (what : String) : Reading (List Char × Reader) :=
  takeUntil terminator what (r.rest.length + 1) [] r

def checkName (r : Reader) (name : List Char) : Reading Unit :=
  if Text.isIdentifier name then .ok ()
  else r.failBack (.badGroupName (String.ofList name)) (name.length + 1)

def skipPast (last : Symbol) : (fuel : Nat) → Reader → Reading (Option Reader)
  | 0, _ => .ok none
  | fuel + 1, r => do
    let (symbol, r) ← r.next
    match symbol with
    | none => return none
    | some s => if s == last then return some r else skipPast last fuel r

end Reader
end TestReach.Pattern
