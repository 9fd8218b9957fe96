import TestReach.Command.Scan
import TestReach.Command.Search

namespace TestReach.Command

def programVersion : String := "1.0.0"

def listWorkItems (file : Path) : Action Unit := do
  let (plan, _) ← loadWorkItems file
  if plan.isEmpty then say "No work items found."
  else
    print (Display.plain plan.format)
    let incomplete := (Catalog.values plan).filter (!·.isComplete)
    if !incomplete.isEmpty then
      say ("Incomplete work items: " ++ ", ".intercalate (incomplete.map (·.identifier)))

def Request.run (surroundings : Surroundings) : Request → Action Unit
  | .version => print ("used-in-tc v" ++ programVersion ++ "\n")
  | .search request => request.run surroundings
  | .scan request => request.run surroundings
  | .workItems file => listWorkItems file

structure Outcome where
  /-- Why the program stopped early, if it did. -/
  stop : Option Stop
  printed : String
  disk : Disk

namespace Outcome

def exitCode (outcome : Outcome) : Nat :=
  match outcome.stop with
  | none => 0
  | some (.misuse _) => 2
  | some _ => 1

def failure? (outcome : Outcome) : Option Failure :=
  match outcome.stop with
  | some (.failed failure) => some failure
  | _ => none

def complaint? (outcome : Outcome) : Option String :=
  match outcome.stop with
  | some (.misuse message) => some message
  | some (.failed failure) => some failure.message
  | _ => none

end Outcome

def run (surroundings : Surroundings) (disk : Disk) (asked : Except String Request) : Outcome :=
  match asked with
  | .error message => ⟨some (.misuse message), "", disk⟩
  | .ok request =>
    let start : Console := { disk }
    match (request.run surroundings).run start with
    | (.ok (), console) => ⟨none, console.printed, console.disk⟩
    | (.error stop, console) => ⟨some stop, console.printed, console.disk⟩

end TestReach.Command
