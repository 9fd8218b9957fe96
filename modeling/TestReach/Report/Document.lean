import TestReach.Disk
import TestReach.Moment
import TestReach.Report.Section

namespace TestReach.Report

def resultsPlace : String := "<!-- REPLACE WITH RESULTS-->"

def searchPlace : String := "<!-- REPLACE WITH SEARCH PATTERN-->"

def defaultTemplate : String :=
  "<?xml version=\"1.0\" encoding=\"UTF-8\"?>\n<verification-list>\n  " ++ searchPlace ++
    "\n  <protocols>\n" ++ resultsPlace ++ "\n  </protocols>\n</verification-list>\n"

def replaceFirst (place replacement text : String) : String :=
  String.ofList (Text.replaceFirst place.toList replacement.toList text.toList)

def fill (template search protocols : String) : String :=
  replaceFirst searchPlace (Xml.comment ("SEARCH: " ++ search))
    (replaceFirst resultsPlace protocols template)

def templateLog (template : String) : List Log.Record :=
  if Text.contains resultsPlace.toList template.toList then []
  else [Log.record .warning "report" ("Template has no results placeholder " ++ resultsPlace)]

/-- All that a report depends on besides the test cases. -/
structure Request where
  template : String := defaultTemplate
  search : String
  approval : Option Approval := none
  options : Options := {}

def render (request : Request) (cases : TestCase.Cases) : Except Fault String := do
  return fill request.template request.search (← protocols request.options request.approval cases)

def defaultSuffix : String := ".xml"

def stamped (path : Path) (now : Moment) (suffix : String) : Except Path.NameError Path :=
  path.withName (path.stem ++ "_" ++ now.stamp ++ (if path.suffix == "" then suffix else path.suffix))

inductive WriteError where
  | render (fault : Fault)
  | name (error : Path.NameError)
  | trouble (trouble : Trouble)
deriving DecidableEq, Repr

/-- Writes a report next to `path`, and gives where; directories are made as far as needed. The disk
is what it is after a failure, too. -/
def write (disk : Disk) (path : Path) (now : Moment) (request : Request) (cases : TestCase.Cases) :
    Except WriteError Path × Disk :=
  match render request cases with
  | .error fault => (.error (.render fault), disk)
  | .ok text =>
    match stamped path now defaultSuffix with
    | .error error => (.error (.name error), disk)
    | .ok target =>
      let (made, disk) := disk.makeDirectories target.parent
      match made with
      | .error trouble => (.error (.trouble trouble), disk)
      | .ok () =>
        match disk.write target (Text.Utf8.encode text) with
        | .error trouble => (.error (.trouble trouble), disk)
        | .ok disk => (.ok target, disk)

end TestReach.Report
