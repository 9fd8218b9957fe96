import TestReach.Pattern.Basic
import TestReach.Pattern.Reader

namespace TestReach.Pattern

structure Mode where
  ignoreCase : Bool := false
  multiline : Bool := false
  dotAll : Bool := false
  verbose : Bool := false
  ascii : Bool := false
deriving DecidableEq, Repr

/-- The letters that stand for a mode; `L` and `t` do so only to be refused. -/
def modeLetters : List Char :=
  ['i', 'L', 'm', 's', 'x', 'a', 't', 'u']

def typeLetters : List Char :=
  ['a', 'L', 'u']

namespace Mode

def set (mode : Mode) (value : Bool) (letter : Char) : Mode :=
  match letter with
  | 'i' => { mode with ignoreCase := value }
  | 'm' => { mode with multiline := value }
  | 's' => { mode with dotAll := value }
  | 'x' => { mode with verbose := value }
  | 'a' => { mode with ascii := value }
  | 'u' => { mode with ascii := !value }
  | _ => mode

def adjust (mode : Mode) (on off : List Char) : Mode :=
  off.foldl (set · false ·) (on.foldl (set · true ·) mode)

def folding (mode : Mode) : Folding :=
  if mode.ignoreCase then (if mode.ascii then .ascii else .unicode) else .exact

def lineStart (mode : Mode) : Anchor :=
  if mode.multiline then .lineStart else .textStart

def lineEnd (mode : Mode) : Anchor :=
  if mode.multiline then .lineEnd else .lastLineEnd

def dot (mode : Mode) : CharTest :=
  if mode.dotAll then .any else .notLineFeed

end Mode

inductive Member where
  | code (code : Nat)
  | range (first last : Nat)
  | category (kind : Category) (negated : Bool)
deriving DecidableEq, Repr

/-- The folded code points that count as `code`. Beyond the last code point there are none. -/
def Folding.codes (folding : Folding) (code : Nat) : List Nat :=
  if h : code.isValidChar then
    let c := folding.fold (Char.ofNatAux code h)
    c.toNat :: (match folding with
      | .unicode => (Text.kin c).map Char.toNat
      | _ => [])
  else [code]

namespace Mode

def literal (mode : Mode) (negated : Bool) (code : Nat) : CharTest :=
  let c := Char.ofNat code
  let alone := mode.folding.unfold (mode.folding.fold c) == [c]
  if code.isValidChar && alone && !negated then .exactly c
  else if alone then .oneOf .exact negated [.range code code]
  else .oneOf mode.folding negated ((mode.folding.codes code).map fun n => .range n n)

/-- The items for one member of a set. A single code point beyond the first plane is not folded. -/
def items (mode : Mode) : Member → List ClassItem
  | .code code =>
    if code ≤ 0xFFFF then (mode.folding.codes code).map fun n => .range n n
    else [.range code code]
  | .range first last =>
    if mode.folding == .exact then [.range first last]
    else [.foldedRange mode.folding first last]
  | .category kind negated => [.category kind mode.ascii negated]

def setTest (mode : Mode) (negated : Bool) (members : List Member) : CharTest :=
  match members.eraseDups with
  | [.code code] => mode.literal negated code
  | members => .oneOf mode.folding negated (members.flatMap mode.items)

end Mode

/-- The letters of a group that sets modes, and whether they hold for the whole pattern. -/
structure ModeLetters where
  on : List Char
  off : List Char
  global : Bool

namespace Reader

/-- Reads the symbol after a mode letter or a minus; `what` names what should have come. -/
def modeSymbol (r : Reader) (what : String) (ends : List Char) : Reading (Char × Reader) := do
  let (symbol, r) ← r.next
  match symbol with
  | none => r.fail (.missing what)
  | some (.plain c) =>
    if ends.contains c || modeLetters.contains c then return (c, r)
    else if Text.isLetter c then r.failBack .unknownMode 1
    else r.failBack (.missing what) 1
  | some s => r.failBack (.missing what) s.width

/-- The letters turned on, the first of which is `letter`, and the character after them. -/
def modesOn : (fuel : Nat) → (on : List Char) → (letter : Char) → Reader →
    Reading (List Char × Char × Reader)
  | 0, _, _, r => r.fail .unexpectedEnd
  | fuel + 1, on, letter, r => do
    if letter == 'L' then r.fail .localeMode
    else if typeLetters.contains letter && on.any fun c => c != letter && typeLetters.contains c then
      r.fail .incompatibleModes
    else
      let on := on ++ [letter]
      let (c, r) ← r.modeSymbol "-, : or )" [')', '-', ':']
      if modeLetters.contains c then modesOn fuel on c r else return (on, c, r)

def modesOff : (fuel : Nat) → (off : List Char) → (letter : Char) → Reader →
    Reading (List Char × Reader)
  | 0, _, _, r => r.fail .unexpectedEnd
  | fuel + 1, off, letter, r => do
    if typeLetters.contains letter then r.fail .typeModeOff
    else
      let off := off ++ [letter]
      let (c, r) ← r.modeSymbol ":" [':']
      if modeLetters.contains c then modesOff fuel off c r else return (off, r)

/-- The letters of a group that begins with `first`, a mode letter or a minus. -/
def modes (r : Reader) (first : Char) : Reading (ModeLetters × Reader) := do
  let fuel := r.rest.length + 1
  let (on, stop, r) ← if first == '-' then pure ([], '-', r) else modesOn fuel [] first r
  if stop == ')' then return (⟨on, [], true⟩, r)
  else if on.contains 't' then r.failBack .globalModeOn 1
  else
    let (off, r) ←
      if stop == '-' then do
        let (letter, r) ← r.modeSymbol "flag" []
        modesOff fuel [] letter r
      else pure ([], r)
    if off.contains 't' then r.failBack .globalModeOff 1
    else if on.any off.contains then r.failBack .contradictoryModes 1
    else return (⟨on, off, false⟩, r)

end Reader
end TestReach.Pattern
