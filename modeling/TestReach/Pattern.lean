import TestReach.Pattern.Match
import TestReach.Pattern.Parser

namespace TestReach

structure Pattern where
  source : String
  node : Pattern.Node
  names : List (String × Nat)

namespace Pattern

def compile (source : String) : Except CompileError Pattern :=
  (parse source.toList).map fun parsed => ⟨source, parsed.node, parsed.names⟩

def hasGroup (pattern : Pattern) (name : String) : Bool :=
  (pattern.names.lookup name).isSome

def search (pattern : Pattern) (text : String) : Option Found :=
  pattern.node.search text.toList.toArray false 0

def occursIn (pattern : Pattern) (text : String) : Bool :=
  (pattern.search text).isSome

/-- The spans of all matches in `text` that do not overlap, from left to right. -/
def findAll (pattern : Pattern) (text : String) : List Span :=
  pattern.node.spans text.toList.toArray

/-- What the group `name` matched in the leftmost match; empty if there is no match or the group had
no part in it. -/
def element (pattern : Pattern) (name text : String) : String :=
  let chars := text.toList
  match pattern.node.search chars.toArray false 0, pattern.names.lookup name with
  | some found, some group =>
    match found.final.group? group with
    | some span => String.ofList (Text.slice chars span.start span.stop)
    | none => ""
  | _, _ => ""

end Pattern
end TestReach
