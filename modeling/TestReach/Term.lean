import TestReach.Pattern

namespace TestReach

inductive Term where
  | literal (text : String)
  | pattern (compiled : Pattern)

namespace Term

inductive Invalid where
  | emptyLiteral
  | emptyPattern
  | malformed (source : String) (fault : Pattern.Fault) (pos : Option Nat)
  /-- The pattern is refused for a reason other than its form. -/
  | refused (error : Pattern.CompileError)

def Invalid.message : Invalid → String
  | emptyLiteral => "Search term must not be empty"
  | emptyPattern => "Search pattern must not be empty"
  | malformed source fault pos =>
    "Couldn't compile search pattern " ++ Text.quoted source ++ ": " ++
      Pattern.malformedMessage source fault pos
  | refused error => error.message ""

def text : Term → String
  | literal text => text
  | pattern compiled => compiled.source

def ofPattern? (source : String) : Except Invalid Term :=
  if source.isEmpty then .error .emptyPattern
  else
    match Pattern.compile source with
    | .ok compiled => .ok (.pattern compiled)
    | .error (.malformed fault pos) => .error (.malformed source fault pos)
    | .error error => .error (.refused error)

def ofLiteral? (text : String) : Except Invalid Term :=
  if text.isEmpty then .error .emptyLiteral else .ok (.literal text)

def make? (text : String) (isPattern : Bool) : Except Invalid Term :=
  if isPattern then ofPattern? text else ofLiteral? text

/-- The term that finds `name` as a whole word. The name is part of the pattern as it stands. -/
def wholeWord? (name : String) : Except Invalid Term :=
  ofPattern? ("\\b" ++ name ++ "\\b")

/-- The spans of all matches that do not overlap, from left to right. -/
def findAll (term : Term) (source : String) : List Span :=
  match term with
  | literal text => Text.occurrences text.toList source.toList
  | pattern compiled => compiled.findAll source

end Term
end TestReach
