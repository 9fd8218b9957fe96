import TestReach.Pattern.Escape
import TestReach.Pattern.Mode
import TestReach.Pattern.Width
import TestReach.Text.Integer

namespace TestReach.Pattern

inductive Piece where
  /-- An anchor, which cannot be repeated. -/
  | anchor (place : Anchor)
  /-- A repetition, which cannot be repeated without a group around it. -/
  | repetition (node : Node)
  | atom (node : Node)

def Piece.node : Piece → Node
  | .anchor place => .anchor place
  | .repetition node => node
  | .atom node => node

inductive Opener where
  /-- The whole pattern. -/
  | whole
  | plain
  | capture (group : Nat)
  | atomic
  | ahead (negated : Bool)
  /-- `outermost` if no other look-behind is open. -/
  | behind (negated outermost : Bool)
  | choose (group : Nat)
deriving DecidableEq, Repr

/-- An open group. Alternatives and pieces are held latest first. -/
structure Frame where
  opener : Opener
  /-- The position of the parenthesis. -/
  start : Nat
  mode : Mode
  branches : List Node := []
  pieces : List Piece := []

namespace Frame

def branch (frame : Frame) : Node :=
  .inOrder (frame.pieces.reverse.map Piece.node)

def alternatives (frame : Frame) : List Node :=
  (frame.branch :: frame.branches).reverse

def push (frame : Frame) (piece : Piece) : Frame :=
  { frame with pieces := piece :: frame.pieces }

end Frame

structure Builder where
  frame : Frame
  outer : List Frame := []
  /-- Groups by name. -/
  names : List (String × Nat) := []
  /-- The number of groups opened. -/
  opened : Nat := 0
  /-- The widths of the groups closed. -/
  closed : List (Nat × Width) := []
  /-- The number of groups opened before the outermost open look-behind. -/
  behindFrom : Option Nat := none
  /-- Groups that a condition asks for, and where, in order. -/
  asked : List (Nat × Nat) := []
  /-- Letters turned on for the whole pattern. -/
  global : List Char := []

namespace Builder

def push (b : Builder) (piece : Piece) : Builder :=
  { b with frame := b.frame.push piece }

def atom (b : Builder) (node : Node) : Builder :=
  b.push (.atom node)

def mode (b : Builder) : Mode :=
  b.frame.mode

def isClosed (b : Builder) (group : Nat) : Bool :=
  b.closed.any (·.1 == group)

/-- Inside a look-behind only groups closed before it may be referred to. -/
def checkBehind (b : Builder) (r : Reader) (group : Nat) : Reading Unit :=
  match b.behindFrom with
  | none => .ok ()
  | some before =>
    if !b.isClosed group then r.fail .openGroup
    else if group > before then r.fail .groupInSameLookBehind
    else .ok ()

def enter (b : Builder) (opener : Opener) (start : Nat) (mode : Mode) : Builder :=
  { b with frame := { opener, start, mode }, outer := b.frame :: b.outer }

def close (b : Builder) : Node :=
  let body := Node.anyOf b.frame.alternatives
  match b.frame.opener with
  | .whole | .plain => body
  | .capture group => .capture group body
  | .atomic => .atomic body
  | .ahead negated => .ahead negated body
  | .behind negated _ =>
    let width := body.width b.closed
    .behind negated width.least width.most body
  | .choose group =>
    match b.frame.alternatives with
    | ifMatched :: otherwise :: _ => .choose group ifMatched otherwise
    | _ => .choose group body .empty

def leave (b : Builder) (below : Frame) (outer : List Frame) : Builder :=
  let node := b.close
  let b := match b.frame.opener with
    | .capture group => { b with closed := (group, node.width b.closed) :: b.closed }
    | .behind _ true => { b with behindFrom := none }
    | _ => b
  { b with frame := below.push (.atom node), outer }

end Builder

def readMembers (start : Nat) : (fuel : Nat) → List Member → Reader → Reading (List Member × Reader)
  | 0, _, r => r.fail .unterminatedSet
  | fuel + 1, members, r => do
    let unterminated {α : Type} : Reading α := .error (.malformed .unterminatedSet (some start))
    let member (s : Symbol) (r : Reader) : Reading (Member × Reader) :=
      match s with
      | .plain c => .ok (.code c.toNat, r)
      | .escaped c =>
        match category? c with
        | some (kind, negated) => .ok (.category kind negated, r)
        | none => do
          if isOctalDigit c then
            let (more, r) ← r.takeWhile isOctalDigit 2
            let code := valueInBase 8 (c :: more)
            if code > 0o377 then r.failEscape .octalOutOfRange c more else return (.code code, r)
          else
            match ← r.codeEscape? c with
            | (some code, r) => return (.code code, r)
            | (none, r) => r.failEscape .badEscape c []
    let (symbol, r) ← r.next
    match symbol with
    | none => unterminated
    | some first =>
      if first == .plain ']' && !members.isEmpty then return (members, r)
      else
        let (low, r) ← member first r
        let (dash, r) ← r.accept '-'
        if !dash then readMembers start fuel (members ++ [low]) r
        else
          let (symbol, r) ← r.next
          match symbol with
          | none => unterminated
          | some last =>
            if last == .plain ']' then return (members ++ [low, .code '-'.toNat], r)
            else
              let (high, r) ← member last r
              let bad {α : Type} : Reading α :=
                r.failBack (.badRange first.text last.text) (first.width + 1 + last.width)
              match low, high with
              | .code a, .code b =>
                if b < a then bad else readMembers start fuel (members ++ [.range a b]) r
              | _, _ => bad

def readSet (mode : Mode) (start : Nat) (r : Reader) : Reading (CharTest × Reader) := do
  let (negated, r) ← r.accept '^'
  let (members, r) ← readMembers start (r.rest.length + 1) [] r
  return (mode.setTest negated members, r)

def countLimit : Nat := 0xFFFFFFFF

def readCount (digits : List Char) : Reading (Option Nat) :=
  if digits.isEmpty then .ok none
  else if digits.length > Text.digitLimit then .error (.countTooLong digits.length)
  else
    let n := valueInBase 10 digits
    if n ≥ countLimit then .error .countTooLarge else .ok (some n)

/-- Reads the counts in braces, after the opening brace. None if this is no repetition. -/
def readBraces (r : Reader) : Reading (Option ((Nat × Option Nat) × Reader)) := do
  let after := r
  let limit := r.rest.length
  if r.sees '\x7d' then return none
  else
    let (low, r) ← r.takeWhile Text.isAsciiDigit limit
    let (comma, r) ← r.accept ','
    let (high, r) ← if comma then r.takeWhile Text.isAsciiDigit limit else pure (low, r)
    let (closed, r) ← r.accept '\x7d'
    if !closed then return none
    else
      let least := (← readCount low).getD 0
      let most ← readCount high
      if most.any (· < least) then r.failBack .leastAboveMost (r.pos - after.pos)
      else return some ((least, most), r)

def Builder.repeatLast (b : Builder) (r : Reader) (start least : Nat) (most : Option Nat) :
    Reading (Builder × Reader) := do
  let stop {α : Type} (fault : Fault) : Reading α := .error (.malformed fault (some start))
  match b.frame.pieces with
  | [] | .anchor _ :: _ => stop .nothingToRepeat
  | .repetition _ :: _ => stop .multipleRepeat
  | .atom node :: pieces =>
    let (lazy, r) ← r.accept '?'
    let (possessive, r) ← if lazy then pure (false, r) else r.accept '+'
    let greed : Greed := if lazy then .lazy else if possessive then .possessive else .greedy
    let piece := Piece.repetition (.replicate greed least most node)
    return ({ b with frame := { b.frame with pieces := piece :: pieces } }, r)

def Builder.numericEscape (b : Builder) (r : Reader) (digit : Char) :
    Reading (Builder × Reader) := do
  let character (digits : List Char) (r : Reader) : Reading (Builder × Reader) :=
    let code := valueInBase 8 (digit :: digits)
    if code > 0o377 then r.failEscape .octalOutOfRange digit digits
    else .ok (b.atom (.one (b.mode.literal false code)), r)
  let reference (digits : List Char) (r : Reader) : Reading (Builder × Reader) := do
    let group := valueInBase 10 (digit :: digits)
    if group ≤ b.opened then
      if !b.isClosed group then r.failEscape (fun _ => .openGroup) digit digits
      else
        b.checkBehind r group
        return (b.atom (.recall b.mode.folding group), r)
    else r.failBack (.invalidGroupReference group) (digits.length + 1)
  if digit == '0' then
    let (digits, r) ← r.takeWhile isOctalDigit 2
    character digits r
  else
    let (second, r) ← r.takeWhile Text.isAsciiDigit 1
    if (digit :: second).all isOctalDigit && second.length == 1 then
      let (third, r) ← r.takeWhile isOctalDigit 1
      if third.length == 1 then character (second ++ third) r else reference second r
    else reference second r

def Builder.escape (b : Builder) (r : Reader) (letter : Char) : Reading (Builder × Reader) :=
  match letter with
  | 'A' => .ok (b.push (.anchor .textStart), r)
  | 'Z' => .ok (b.push (.anchor .textEnd), r)
  | 'b' => .ok (b.push (.anchor (.wordBoundary b.mode.ascii false)), r)
  | 'B' => .ok (b.push (.anchor (.wordBoundary b.mode.ascii true)), r)
  | _ =>
    match category? letter with
    | some (kind, negated) =>
      .ok (b.atom (.one (.oneOf .exact false [.category kind b.mode.ascii negated])), r)
    | none =>
      if Text.isAsciiDigit letter then b.numericEscape r letter
      else do
        match ← r.codeEscape? letter with
        | (some code, r) => return (b.atom (.one (b.mode.literal false code)), r)
        | (none, r) => r.failEscape .badEscape letter []

def Builder.enterCapture (b : Builder) (r : Reader) (start : Nat) (name : Option (List Char)) :
    Reading (Builder × Reader) := do
  let group := b.opened + 1
  let names ← match name with
    | none => pure b.names
    | some name =>
      let key := String.ofList name
      match b.names.lookup key with
      | some former => r.failBack (.redefinedGroup key group former) (name.length + 1)
      | none => pure (b.names ++ [(key, group)])
  return ({ b with opened := group, names }.enter (.capture group) start b.mode, r)

def Builder.openNamed (b : Builder) (r : Reader) (start : Nat) : Reading (Builder × Reader) := do
  let (symbol, after) ← r.next
  match symbol with
  | some (.plain '<') =>
    let (name, r) ← after.name '>' "group name"
    r.checkName name
    b.enterCapture r start (some name)
  | some (.plain '=') =>
    let (name, r) ← after.name ')' "group name"
    r.checkName name
    match b.names.lookup (String.ofList name) with
    | none => r.failBack (.unknownGroupName (String.ofList name)) (name.length + 1)
    | some group =>
      if !b.isClosed group then r.failBack .openGroup (name.length + 1)
      else
        b.checkBehind r group
        return (b.atom (.recall b.mode.folding group), r)
  | none => after.fail .unexpectedEnd
  | some s => after.failBack (.unknownExtension ("P" ++ s.text)) (s.width + 2)

def groupLimit : Nat := 0x3FFFFFFF

def Builder.openChoice (b : Builder) (r : Reader) (start : Nat) : Reading (Builder × Reader) := do
  let (name, r) ← r.name ')' "group name"
  let key := String.ofList name
  let back := name.length + 1
  if Text.isIdentifier name then
    match b.names.lookup key with
    | none => r.failBack (.unknownGroupName key) back
    | some group =>
      b.checkBehind r group
      return (b.enter (.choose group) start b.mode, r)
  else
    match Text.integer name with
    | .ok (.ofNat group) =>
      if group == 0 then r.failBack .badGroupNumber back
      else if group ≥ groupLimit then r.failBack (.invalidGroupReference group) back
      else
        let asked :=
          if b.asked.any (·.1 == group) then b.asked else b.asked ++ [(group, r.pos - back)]
        let b := { b with asked }
        b.checkBehind r group
        return (b.enter (.choose group) start b.mode, r)
    | _ => r.failBack (.badGroupName key) back

def Builder.enterBehind (b : Builder) (negated : Bool) (start : Nat) : Builder :=
  let outermost := b.behindFrom.isNone
  { b with behindFrom := some (b.behindFrom.getD b.opened) }.enter (.behind negated outermost) start
    b.mode

def Builder.openExtension (b : Builder) (r : Reader) (start : Nat) :
    Reading (Builder × Reader) := do
  let (symbol, r) ← r.next
  match symbol with
  | none => r.fail .unexpectedEnd
  | some (.plain 'P') => b.openNamed r start
  | some (.plain ':') => return (b.enter .plain start b.mode, r)
  | some (.plain '#') =>
    match ← Reader.skipPast (.plain ')') (r.rest.length + 1) r with
    | some r => return (b, r)
    | none => .error (.malformed .unterminatedComment (some start))
  | some (.plain '=') => return (b.enter (.ahead false) start b.mode, r)
  | some (.plain '!') => return (b.enter (.ahead true) start b.mode, r)
  | some (.plain '<') =>
    let (symbol, r) ← r.next
    match symbol with
    | none => r.fail .unexpectedEnd
    | some (.plain '=') => return (b.enterBehind false start, r)
    | some (.plain '!') => return (b.enterBehind true start, r)
    | some s => r.failBack (.unknownExtension ("<" ++ s.text)) (s.width + 2)
  | some (.plain '(') => b.openChoice r start
  | some (.plain '>') => return (b.enter .atomic start b.mode, r)
  | some s =>
    match s with
    | .plain c =>
      if modeLetters.contains c || c == '-' then
        let (letters, r) ← r.modes c
        if letters.global then
          if !b.outer.isEmpty || !b.frame.branches.isEmpty || !b.frame.pieces.isEmpty then
            .error (.malformed .lateGlobalModes (some start))
          else
            let frame := { b.frame with mode := b.mode.adjust letters.on [] }
            return ({ b with frame, global := b.global ++ letters.on }, r)
        else return (b.enter .plain start (b.mode.adjust letters.on letters.off), r)
      else r.failBack (.unknownExtension s.text) (s.width + 1)
    | .escaped _ => r.failBack (.unknownExtension s.text) (s.width + 1)

def Builder.openGroup (b : Builder) (r : Reader) (start : Nat) : Reading (Builder × Reader) := do
  let (extended, r) ← r.accept '?'
  if extended then b.openExtension r start else b.enterCapture r start none

/-- Reads one symbol, and what belongs to it, in an alternative; `start` is its position. -/
def Builder.read (b : Builder) (r : Reader) (start : Nat) (s : Symbol) :
    Reading (Builder × Reader) := do
  match s with
  | .escaped letter => b.escape r letter
  | .plain c =>
    if b.mode.verbose && Text.isAsciiBlank c then return (b, r)
    else if b.mode.verbose && c == '#' then
      let rest ← Reader.skipPast (.plain '\n') (r.rest.length + 1) r
      return (b, rest.getD ⟨[], r.pos + r.rest.length⟩)
    else match c with
      | '[' =>
        let (test, r) ← readSet b.mode start r
        return (b.atom (.one test), r)
      | '?' => b.repeatLast r start 0 (some 1)
      | '*' => b.repeatLast r start 0 none
      | '+' => b.repeatLast r start 1 none
      | '\x7b' =>
        match ← readBraces r with
        | some ((least, most), r) => b.repeatLast r start least most
        | none => return (b.atom (.one (b.mode.literal false c.toNat)), r)
      | '.' => return (b.atom (.one b.mode.dot), r)
      | '(' => b.openGroup r start
      | '^' => return (b.push (.anchor b.mode.lineStart), r)
      | '$' => return (b.push (.anchor b.mode.lineEnd), r)
      | _ => return (b.atom (.one (b.mode.literal false c.toNat)), r)

/-- Reads one symbol, closing an alternative or a group where it says so. None at a parenthesis that
closes no group. -/
def Builder.step (b : Builder) (r : Reader) (s : Symbol) : Reading (Option (Builder × Reader)) := do
  match s with
  | .plain '|' =>
    match b.frame.opener, b.frame.branches with
    | .choose _, _ :: _ => r.fail .tooManyBranches
    | _, _ =>
      let frame := { b.frame with branches := b.frame.branch :: b.frame.branches, pieces := [] }
      return some ({ b with frame }, ← r.skip s)
  | .plain ')' =>
    match b.outer with
    | [] => return none
    | below :: outer => return some (b.leave below outer, ← r.skip s)
  | s => return some (← b.read (← r.skip s) r.pos s)

/-- Reads symbols until the pattern ends or a parenthesis closes no group. -/
def readSymbols : (fuel : Nat) → Builder → Reader → Reading (Builder × Reader)
  | 0, b, r => .ok (b, r)
  | fuel + 1, b, r =>
    match r.peek? with
    | none => .ok (b, r)
    | some s => do
      match ← b.step r s with
      | none => return (b, r)
      | some (b, r) => readSymbols fuel b r

structure Parsed where
  node : Node
  names : List (String × Nat)

def Builder.finish (b : Builder) (r : Reader) : Reading Parsed := do
  if !b.outer.isEmpty then .error (.malformed .unterminatedGroup (some b.frame.start))
  else if b.global.contains 'a' && b.global.contains 'u' then .error .asciiAndUnicode
  else if r.peek?.isSome then r.fail .unbalanced
  else
    match b.asked.find? (·.1 > b.opened) with
    | some (group, pos) => .error (.malformed (.invalidGroupReference group) (some pos))
    | none =>
      let node := b.close
      match node.fault? (b.global.contains 't') with
      | some fault => .error (.malformed fault none)
      | none => return ⟨node, b.names⟩

def parse (pattern : List Char) : Reading Parsed :=
  if pattern == ['\\'] then .error (.malformed .danglingEscape (some 0))
  else do
    let frame : Frame := { opener := .whole, start := 0, mode := {} }
    let (b, r) ← readSymbols (pattern.length + 1) { frame } ⟨pattern, 0⟩
    b.finish r

end TestReach.Pattern
