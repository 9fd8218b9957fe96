import TestReach.Display.Plain
import TestReach.Log.Setup
import TestReach.Report.Document
import TestReach.Settings.Source
import TestReach.WorkItem.Export

namespace TestReach.Command

structure Surroundings where
  now : Moment
  /-- The times at which the records of a log are written, one after the other. -/
  logTime : Nat → String
  /-- The turns that the workers take in the scans of a trace. -/
  turns : Nat → List Nat := fun _ => []
  /-- Where settings are looked for if no file is named. -/
  configFile : Path

/-- Records with their times, which come after the first `count` in a log. -/
def Surroundings.timed (surroundings : Surroundings) (count : Nat) (records : List Log.Record) :
    List (String × Log.Record) :=
  records.mapIdx fun i record => (surroundings.logTime (count + i), record)

structure Console where
  disk : Disk
  printed : String := ""
  log : Log.Setup := {}
  /-- The number of records since the log was started. -/
  count : Nat := 0

def Console.diskAfter (console : Console) (surroundings : Surroundings)
    (records : List Log.Record) : Disk :=
  console.log.emitAll console.disk (surroundings.timed console.count records)

inductive Failure where
  | settings (error : Settings.LoadError)
  | wrongKind (error : Settings.WrongKind)
  | pattern (error : Pattern.CompileError)
  | term (error : Term.Invalid)
  | files (error : SourceFiles.ListError)
  | report (fault : Report.Fault)
  | name (error : Path.NameError)
  | trouble (trouble : Trouble)
  | undecodable

def Failure.message : Failure → String
  | settings error => error.message?.getD "Broken configuration"
  | wrongKind error => "Setting " ++ error.setting.name ++ " has a value of the wrong kind"
  | pattern error => error.message ""
  | term error => error.message
  | files error => error.message
  | report fault => fault.message?.getD "Wrong selector in the address of scripts"
  | name error => error.message
  | trouble cause => cause.describe
  | undecodable => "A file is no UTF-8"

inductive Stop where
  /-- The command line is refused. -/
  | misuse (message : String)
  /-- The user has been told why. -/
  | reported
  | failed (failure : Failure)

abbrev Action := ExceptT Stop (StateM Console)

def fail {α : Type} (failure : Failure) : Action α :=
  throw (.failed failure)

def orStop {ε α : Type} (stop : ε → Stop) (result : Except ε α) : Action α :=
  match result with
  | .ok value => pure value
  | .error error => throw (stop error)

def print (text : String) : Action Unit :=
  modify fun console => { console with printed := console.printed ++ text }

def say (text : String) : Action Unit :=
  print (Display.lineOf text)

def sayResult (result : FileResult) : Action Unit :=
  print (Display.Styled.ofResult result).printed

def report {α : Type} (message : String) : Action α := do
  say ("✗ " ++ message)
  throw .reported

def record (surroundings : Surroundings) (records : List Log.Record) : Action Unit :=
  modify fun console =>
    { console with
      disk := console.diskAfter surroundings records
      count := console.count + records.length }

def startLog (file : Path) (verbose : Bool) : Action Unit := do
  let console ← get
  let (started, log, disk) := Log.Setup.start console.disk (some file) verbose
  set { console with log, disk, count := 0 }
  orStop (fun trouble => .failed (.trouble trouble)) started

def loadSettings (surroundings : Surroundings) (file : Option Path) : Action Settings := do
  match Settings.load (← get).disk surroundings.configFile file with
  | .ok settings => return settings
  | .error .undecodable => fail .undecodable
  | .error (.broken fault) => fail (.settings (.broken fault))
  | .error error => report (error.message?.getD "")

def makeTerm (pattern : String) (isPattern : Bool) : Action Term :=
  match Term.make? pattern isPattern with
  | .ok term => pure term
  | .error (.refused error) => fail (.pattern error)
  | .error error => throw (.misuse error.message)

def makeScanner (settings : Settings) (fileType : Option String) (workers : Option Int) :
    Action Scanner :=
  match settings.scanner fileType workers with
  | .ok scanner => pure scanner
  | .error (.wrongKind error) => fail (.wrongKind error)
  | .error (.scanner (.rule (.refused .countTooLarge))) => fail (.pattern .countTooLarge)
  | .error (.scanner (.rule error)) => report error.message
  | .error (.scanner (.workers count)) => report (Scanner.Invalid.workersMessage count)

def loadWorkItems (file : Path) : Action (WorkItem.Plan × List Log.Record) := do
  match WorkItem.Export.load (← get).disk file with
  | .ok loaded => return loaded
  | .error .undecodable => fail .undecodable
  | .error error => report (error.message?.getD "")

def readText (file : Path) : Action String := do
  match (← get).disk.read file with
  | .ok text => return text
  | .error (.trouble trouble) => fail (.trouble trouble)
  | .error .undecodable => fail .undecodable

def setting {α : Type} (result : Except Settings.WrongKind α) : Action α :=
  orStop (fun error => .failed (.wrongKind error)) result

end TestReach.Command
