import TestReach.Report.Protocol
import TestReach.WorkItem

namespace TestReach.Report

/-- The first word of a setup, in lower case; empty if there is none. -/
def setupKey (setup : String) : String :=
  ((Text.words setup.toList).head?.map fun word => Text.lower (String.ofList word)).getD ""

def intoGroup (groups : Catalog TestCase.Cases) (entry : String × TestCase) :
    Catalog TestCase.Cases :=
  let key := setupKey entry.2.info.setup
  groups.put key (((groups.get? key).getD []).put entry.1 entry.2)

def groups (cases : TestCase.Cases) : List (String × TestCase.Cases) :=
  (cases.foldl intoGroup ([] : Catalog TestCase.Cases)).mergeSort fun a b => decide (a.1 ≤ b.1)

def standardStatuses : List String := ["approved"]

structure Approval where
  plan : WorkItem.Plan
  statuses : List String := standardStatuses

/-- A part of a group, with its title if it has one. -/
structure Section where
  title : Option String
  cases : TestCase.Cases

/-- The sections of a group; without approval there is one, which has no title and may be empty. -/
def sections (approval : Option Approval) (cases : TestCase.Cases) : List Section :=
  match approval with
  | none => [⟨none, cases⟩]
  | some approval =>
    let approved (entry : String × TestCase) : Bool :=
      approval.plan.approves approval.statuses entry.1
    [⟨some "approved", cases.filter approved⟩, ⟨some "not approved", cases.filter (!approved ·)⟩].filter
      fun s => !s.cases.isEmpty

/-- Whether a test case, with its duration, comes before another one. -/
def precedes (a b : Nat × TestCase) : Bool :=
  a.1 < b.1 || (a.1 == b.1 && decide (a.2.info.identifier ≤ b.2.info.identifier))

def byDuration (cases : TestCase.Cases) : Except Fault (List TestCase) := do
  let timed ← (Catalog.values cases).mapM fun case =>
    ((Estimate.seconds case.info.estimate).map fun seconds => (seconds, case)).mapError Fault.estimate
  return (timed.mergeSort precedes).map (·.2)

def Section.render (options : Options) (part : Section) : Except Fault String := do
  let protocols ← (← byDuration part.cases).mapM (protocol options)
  return (part.title.map fun title => "<!-- " ++ title ++ " -->\n").getD "" ++
    String.join (protocols.map (· ++ "\n"))

def renderGroup (options : Options) (approval : Option Approval)
    (group : String × TestCase.Cases) : Except Fault String := do
  let parts ← (sections approval group.2).mapM (·.render options)
  return "\n" ++ Xml.comment group.1 ++ "\n" ++ String.join parts

/-- The protocols of all test cases: by setup, approved ones first if work items are given, then by
duration and identifier. -/
def protocols (options : Options) (approval : Option Approval) (cases : TestCase.Cases) :
    Except Fault String := do
  return String.join (← (groups cases).mapM (renderGroup options approval))

end TestReach.Report
