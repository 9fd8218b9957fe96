import TestReach.Pattern.Basic
import TestReach.Text.Search

namespace TestReach.Pattern

/-- Where a match stands and which groups it has entered and left, latest first. -/
structure State where
  pos : Nat
  entered : List (Nat × Nat) := []
  left : List (Nat × Nat) := []
deriving DecidableEq, Repr

namespace State

def group? (s : State) (group : Nat) : Option Span :=
  match s.entered.lookup group, s.left.lookup group with
  | some start, some stop => if start ≤ stop then some ⟨start, stop⟩ else none
  | _, _ => none

def enter (s : State) (group : Nat) : State :=
  { s with entered := (group, s.pos) :: s.entered }

def leave (s : State) (group : Nat) : State :=
  { s with left := (group, s.pos) :: s.left }

end State

abbrev Remainder := State → Option State

def runLength (text : Array Char) (test : CharTest) : (limit pos : Nat) → Nat
  | 0, _ => 0
  | limit + 1, pos =>
    match text[pos]? with
    | some c => if test.admits c then runLength text test limit (pos + 1) + 1 else 0
    | none => 0

def tryDown (s : State) (next : Remainder) (pos : Nat) : Nat → Option State
  | 0 => next { s with pos := pos }
  | n + 1 => next { s with pos := pos + (n + 1) } <|> tryDown s next pos n

def tryUp (s : State) (next : Remainder) (pos : Nat) : Nat → Option State
  | 0 => next { s with pos := pos }
  | n + 1 => next { s with pos := pos } <|> tryUp s next (pos + 1) n

def tryRun (text : Array Char) (greed : Greed) (least : Nat) (most : Option Nat) (test : CharTest)
    (s : State) (next : Remainder) : Option State :=
  let room := text.size - s.pos
  let longest := runLength text test ((most.getD room).min room) s.pos
  if longest < least then none
  else match greed with
    | .greedy => tryDown s next (s.pos + least) (longest - least)
    | .lazy => tryUp s next (s.pos + least) (longest - least)
    | .possessive => next { s with pos := s.pos + longest }

def allows (most : Option Nat) (count : Nat) : Bool :=
  match most with
  | some n => count < n
  | none => true

/-- A greedy repetition after `count` passes; `last` is where the latest pass beyond the least
number started. -/
def tryGreedy (body : State → Remainder → Option State) (least : Nat) (most : Option Nat) :
    (fuel count : Nat) → (last : Option Nat) → State → Remainder → Option State
  | 0, _, _, s, next => next s
  | fuel + 1, count, last, s, next =>
    if count < least then
      body s fun s' => tryGreedy body least most fuel (count + 1) last s' next
    else if allows most count && last != some s.pos then
      (body s fun s' => tryGreedy body least most fuel (count + 1) (some s.pos) s' next) <|> next s
    else next s

def tryLazy (body : State → Remainder → Option State) (least : Nat) (most : Option Nat) :
    (fuel count : Nat) → (last : Option Nat) → State → Remainder → Option State
  | 0, _, _, s, next => next s
  | fuel + 1, count, last, s, next =>
    if count < least then
      body s fun s' => tryLazy body least most fuel (count + 1) last s' next
    else
      next s <|>
        if allows most count && last != some s.pos then
          body s fun s' => tryLazy body least most fuel (count + 1) (some s.pos) s' next
        else none

/-- The state after the passes of a possessive repetition, each taken in its first way. -/
def passes (body : State → Remainder → Option State) (least : Nat) (most : Option Nat) :
    (fuel count : Nat) → (last : Option Nat) → State → Option State
  | 0, _, _, s => some s
  | fuel + 1, count, last, s =>
    if count < least then
      (body s some).bind (passes body least most fuel (count + 1) last)
    else if allows most count && last != some s.pos then
      match body s some with
      | some s' => passes body least most fuel (count + 1) (some s.pos) s'
      | none => some s
    else some s

def spells (text : Array Char) (folding : Folding) (pos : Nat) : List Char → Bool
  | [] => true
  | c :: rest =>
    match text[pos]? with
    | some d => folding.fold d == folding.fold c && spells text folding (pos + 1) rest
    | none => false

/-- Runs a node at a state, with `next` after it: the first way in which both match wins, in the order
that the node prefers. A repetition past its least count tries its body only where the previous such
trial did not start, so that it ends. -/
def Node.run (text : Array Char) : Node → State → Remainder → Option State
  | .empty, s, next => next s
  | .one test, s, next =>
    match text[s.pos]? with
    | some c => if test.admits c then next { s with pos := s.pos + 1 } else none
    | none => none
  | .anchor place, s, next => if place.holds text s.pos then next s else none
  | .seq first second, s, next => first.run text s fun s' => second.run text s' next
  | .alt first second, s, next => first.run text s next <|> second.run text s next
  | .capture group body, s, next => body.run text (s.enter group) fun s' => next (s'.leave group)
  | .many greed least most test, s, next => tryRun text greed least most test s next
  | .repeated greed least most body, s, next =>
    let fuel := least + (text.size - s.pos) + 2
    match greed with
    | .greedy => tryGreedy (body.run text) least most fuel 0 none s next
    | .lazy => tryLazy (body.run text) least most fuel 0 none s next
    | .possessive => (passes (body.run text) least most fuel 0 none s).bind next
  | .atomic body, s, next => (body.run text s some).bind next
  | .ahead negated body, s, next =>
    match body.run text s some with
    | some s' => if negated then none else next { s' with pos := s.pos }
    | none => if negated then next s else none
  | .behind negated least _ body, s, next =>
    let found :=
      if s.pos < least then none else body.run text { s with pos := s.pos - least } some
    match found with
    | some s' => if negated then none else next { s' with pos := s.pos }
    | none => if negated then next s else none
  | .recall folding group, s, next =>
    match s.group? group with
    | some span =>
      let spelling := (text.extract span.start span.stop).toList
      if spells text folding s.pos spelling then next { s with pos := s.pos + spelling.length }
      else none
    | none => none
  | .choose group ifMatched otherwise, s, next =>
    if (s.group? group).isSome then ifMatched.run text s next else otherwise.run text s next

structure Found where
  start : Nat
  final : State

def Found.span (found : Found) : Span :=
  ⟨found.start, found.final.pos⟩

/-- The match that starts at `pos`. With `nonEmpty`, only one that holds a character. -/
def Node.matchAt (node : Node) (text : Array Char) (nonEmpty : Bool) (pos : Nat) : Option Found :=
  (node.run text { pos := pos } fun s =>
    if nonEmpty && s.pos == pos then none else some s).map (⟨pos, ·⟩)

/-- The first match at one of the `fuel` positions from `pos` on. Only a match that starts at `pos`
itself may be barred from being empty. -/
def Node.searchFrom (node : Node) (text : Array Char) :
    (fuel : Nat) → (nonEmpty : Bool) → (pos : Nat) → Option Found
  | 0, _, _ => none
  | fuel + 1, nonEmpty, pos =>
    node.matchAt text nonEmpty pos <|> node.searchFrom text fuel false (pos + 1)

def Node.search (node : Node) (text : Array Char) (nonEmpty : Bool) (pos : Nat) : Option Found :=
  node.searchFrom text (text.size + 1 - pos) nonEmpty pos

/-- The spans of successive matches from `pos` on. After an empty match the search goes on at the
same position, where the next match must not be empty. -/
def Node.spansFrom (node : Node) (text : Array Char) :
    (fuel : Nat) → (nonEmpty : Bool) → (pos : Nat) → List Span
  | 0, _, _ => []
  | fuel + 1, nonEmpty, pos =>
    match node.search text nonEmpty pos with
    | some found =>
      found.span :: node.spansFrom text fuel (found.start == found.final.pos) found.final.pos
    | none => []

/-- The spans of all matches that do not overlap, from left to right. -/
def Node.spans (node : Node) (text : Array Char) : List Span :=
  node.spansFrom text (2 * text.size + 2) false 0

end TestReach.Pattern
