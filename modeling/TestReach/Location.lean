import TestReach.Text.Search

namespace TestReach

/-- A place in a text. The line counts from one; columns count from the start of `text`, which runs
from the line feed before the span to the one after it, both excluded. -/
structure Location where
  line : Nat
  column : Int
  columnEnd : Int
  text : String
deriving DecidableEq, Repr

namespace Location

/-- The position after the last line feed before `stop`, or zero. -/
def lineStart (text : List Char) (stop : Nat) : Nat :=
  let before := text.take stop
  before.length - (before.reverse.takeWhile (· != '\n')).length

def lineEnd (text : List Char) (start : Nat) : Nat :=
  match Text.findFrom? ['\n'] start (text.drop start) with
  | some pos => pos
  | none => text.length

/-- Locates what lies between two positions, which need not be in order or inside the text. A missing
line feed counts as an end of the text. -/
def ofBounds (start stop : Int) (source : String) : Location :=
  let text := source.toList
  let before := Text.position text.length start
  let first := lineStart text before
  { line := (text.take before).count '\n' + 1
    column := start - first
    columnEnd := stop - first
    text := String.ofList (Text.slice text first (lineEnd text (Text.position text.length stop))) }

def ofSpan (span : Span) (source : String) : Location :=
  ofBounds span.start span.stop source

end Location
end TestReach
