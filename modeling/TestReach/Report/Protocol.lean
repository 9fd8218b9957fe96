import TestReach.Estimate
import TestReach.TestCase
import TestReach.UrlTemplate
import TestReach.Xml.Escape

namespace TestReach.Report

def standardProject : String := "tests"

def standardScriptUrl : String := "\x7bpath\x7d"

/-- What a report says about every test case. -/
structure Options where
  project : String := standardProject
  /-- The template of the address of a script. -/
  scriptUrl : String := standardScriptUrl
  /-- The directory of test cases, where the path of a script begins. -/
  directory : String := TestCase.Layout.defaultDirectory
deriving DecidableEq, Repr

/-- Why a report cannot be written. -/
inductive Fault where
  | estimate (fault : Estimate.Fault)
  /-- The path of a test case does not lead through the directory of test cases. -/
  | outside (directory path : String)
  | url (fault : UrlTemplate.Fault)
deriving DecidableEq, Repr

def Fault.message? : Fault → Option String
  | estimate fault => some fault.message
  | outside directory path =>
    some ("Couldn't find '" ++ directory ++ "/' in path: " ++ path)
  | url fault => fault.message?

def withSlashes (path : String) : List Char :=
  path.toList.map fun c => if c == '\\' then '/' else c

def scriptPath (directory path : String) : Except Fault String :=
  match Text.find? (directory.toList ++ ['/']) (withSlashes path) with
  | some start => .ok (String.ofList ((withSlashes path).drop start))
  | none => .error (.outside directory path)

def scriptAddress (options : Options) (path : String) : Except Fault String := do
  (UrlTemplate.expand options.scriptUrl (← scriptPath options.directory path)).mapError .url

def summary (info : TestCase.Info) : String :=
  "Duration: " ++ info.estimate ++ "; Setup: " ++ info.setup

def protocol (options : Options) (case : TestCase) : Except Fault String := do
  let address ← scriptAddress options case.path
  return "<protocol project-id=\"" ++ Xml.escapeAttribute options.project ++ "\" id=\"" ++
    Xml.escapeAttribute case.info.identifier ++ "\"> " ++ Xml.comment (summary case.info) ++
    "\n\t<test-script-reference>" ++ Xml.escape address ++ "</test-script-reference>\n</protocol>"

end TestReach.Report
