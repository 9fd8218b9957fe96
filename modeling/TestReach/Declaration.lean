import TestReach.Log.Record
import TestReach.Rule

namespace TestReach

structure DeclarationRules where
  pattern : Pattern
  ignored : List Pattern

namespace DeclarationRules

def defaultPattern : String := "\\bdef\\s+(?P<name>\\w+)\\s*\\("

def defaultIgnored : List String := ["^test_(\\d+)_", "^__init__$"]

def compile (pattern : String) (ignored : List String) :
    Except Rule.Invalid DeclarationRules := do
  let compiled ← Rule.compile .declaration pattern
  return ⟨compiled, ← ignored.mapM (Rule.compile .ignoredRoutine)⟩

def declaredName (rules : DeclarationRules) (line : String) : String :=
  rules.pattern.element "name" line

def isDeclaration (rules : DeclarationRules) (line : String) : Bool :=
  rules.declaredName line != ""

def isIgnored (rules : DeclarationRules) (name : String) : Bool :=
  rules.ignored.any (·.occursIn name)

def nameOnLine (rules : DeclarationRules) (line : List Char) : String :=
  if line.all Text.isBlank then "" else rules.declaredName (String.ofList line)

def nearestName (rules : DeclarationRules) (text : List Char) : String :=
  let named (line : List Char) : Option String :=
    if rules.nameOnLine line == "" then none else some (rules.nameOnLine line)
  ((Text.lines text).reverse.findSome? named).getD ""

/-- The routine around the end of `text`, or the empty text: the nearest declaration names it,
whatever the indentation, unless the name is ignored. -/
def enclosing (rules : DeclarationRules) (text : List Char) : String :=
  let name := rules.nearestName text
  if rules.isIgnored name then "" else name

/-- What is logged when the routine around the end of `text` is ignored. -/
def enclosingLog (rules : DeclarationRules) (text : List Char) : List Log.Record :=
  let name := rules.nearestName text
  if name != "" && rules.isIgnored name then
    [Log.record .debug "declarations" ("Ignoring enclosing routine " ++ name)]
  else []

end DeclarationRules
end TestReach
