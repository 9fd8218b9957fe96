import TestReach.Catalog
import TestReach.Log.Record
import TestReach.Rule

namespace TestReach

structure TestCase.Info where
  identifier : String := ""
  setup : String := ""
  estimate : String := ""
deriving DecidableEq, Repr

structure TestCase where
  path : String
  info : TestCase.Info
deriving DecidableEq, Repr

namespace TestCase

abbrev Cases := Catalog TestCase

def Cases.format (cases : Cases) : String :=
  "[" ++ ", ".intercalate (Catalog.sortedKeys cases) ++ "]"

/-- Where test cases lie: the name of the directory ends with `directory`, that of the file begins
with `opening` and ends with `ending`. -/
structure Layout where
  directory : String
  opening : String
  ending : String
deriving DecidableEq, Repr

namespace Layout

def defaultDirectory : String := "test_cases"

def defaultOpening : String := "test_"

def separator (negated : Bool) : Pattern.CharTest :=
  .oneOf .exact negated [.range '\\'.toNat '\\'.toNat, .range '/'.toNat '/'.toNat]

def literal (text : String) : List Pattern.Node :=
  text.toList.map fun c => .one (.exactly c)

def node (layout : Layout) : Pattern.Node :=
  .inOrder (literal layout.directory ++
    [.one (separator false), .many .lazy 0 none .notLineFeed, .one (separator false)] ++
    literal layout.opening ++ [.many .greedy 0 none (separator true)] ++
    literal layout.ending ++ [.anchor .lastLineEnd])

def source (layout : Layout) : String :=
  let escaped (text : String) := String.ofList (Pattern.escape text.toList)
  escaped layout.directory ++ "[\\\\/].*?[\\\\/]" ++ escaped layout.opening ++ "[^\\\\/]*" ++
    escaped layout.ending ++ "$"

def holds (layout : Layout) (path : String) : Bool :=
  (layout.node.search path.toList.toArray false 0).isSome

end Layout

structure Rules where
  layout : Layout
  identifier : Pattern
  setup : Pattern
  estimate : Pattern

namespace Rules

def defaultIdentifier : String := "Polarion ID: (?P<id>[a-zA-Z0-9]+-\\d+)"

def defaultSetup : String := "Setup: (?P<setup>.*?)\\n"

def defaultEstimate : String := "Initial estimate: \\b(?P<estimate>[0-9:]+)\\b"

def compile (layout : Layout) (identifier setup estimate : String) :
    Except Rule.Invalid Rules := do
  let identifier ← Rule.compile .identifier identifier
  let setup ← Rule.compile .setup setup
  return ⟨layout, identifier, setup, ← Rule.compile .estimate estimate⟩

def isTestCase (rules : Rules) (path : String) : Bool :=
  rules.layout.holds path

def info (rules : Rules) (text : String) : Info where
  identifier := rules.identifier.element "id" text
  setup := rules.setup.element "setup" text
  estimate := rules.estimate.element "estimate" text

def infoLog (info : Info) (path : String) : List Log.Record :=
  let warning (what value : String) : List Log.Record :=
    if value == "" then
      [Log.record .warning "testcases" ("Couldn't find " ++ what ++ " for TC " ++ path)]
    else []
  warning "id" info.identifier ++ warning "setup" info.setup ++ warning "estimate" info.estimate

end Rules
end TestCase
end TestReach
