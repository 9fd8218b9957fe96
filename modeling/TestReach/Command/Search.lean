import TestReach.Command.Console
import TestReach.Command.Request

namespace TestReach.Command

def truth (value : Bool) : String :=
  if value then "True" else "False"

def valueText : Toml.Value → String
  | .nothing => "None"
  | .boolean value => truth value
  | .integer value => toString value
  | .decimal text | .date text | .time text | .text text => text
  | .list _ | .table _ => ""

namespace SearchRequest

def depthText (request : SearchRequest) (settings : Settings) : String :=
  match request.depth with
  | some depth => toString depth
  | none => valueText (settings.value .depth)

def heading (request : SearchRequest) (settings : Settings) (scanner : Scanner) (term : Term) :
    String :=
  "Searching for: R(" ++ truth request.isPattern ++ ") |" ++ term.text ++ "| (" ++
    scanner.fileType ++ ") " ++ request.directory.toString ++ " D(" ++
    request.depthText settings ++ ")"

def templateSetting (settings : Settings) : Except Settings.WrongKind (Option Path) :=
  match settings.value .template with
  | .nothing | .boolean false | .integer 0 | .text "" | .list [] | .table [] => .ok none
  | .text path => .ok (some (Path.ofString path))
  | _ => .error ⟨.template⟩

def chosenPath (asked : Option Path) (usual : Except Settings.WrongKind String) :
    Except Settings.WrongKind Path :=
  match asked with
  | some path => .ok path
  | none => usual.map Path.ofString

def logPath (request : SearchRequest) (settings : Settings) : Except Settings.WrongKind Path :=
  chosenPath request.logFile (settings.text .logFile)

def outPath (request : SearchRequest) (settings : Settings) : Except Settings.WrongKind Path :=
  chosenPath request.outFile (settings.text .outFile)

def templatePath (request : SearchRequest) (settings : Settings) :
    Except Settings.WrongKind (Option Path) :=
  match request.template with
  | some path => .ok (some path)
  | none => templateSetting settings

def readTemplate (request : SearchRequest) (settings : Settings) : Action String := do
  match ← setting (request.templatePath settings) with
  | some path => readText path
  | none => return Report.defaultTemplate

def loadPlan (request : SearchRequest) (surroundings : Surroundings) :
    Action (Option WorkItem.Plan) := do
  match request.workItems with
  | none => return none
  | some file =>
    let (plan, records) ← loadWorkItems file
    record surroundings records
    return some plan

/-- Traces the term. Each scan sees the files with the records logged before it. What was found before
a failure is printed and logged, too. -/
def trace (request : SearchRequest) (surroundings : Surroundings) (scanner : Scanner) (depth : Int)
    (term : Term) : Action TestCase.Cases := do
  let console ← get
  let (found, journal) := Trace.inLiveTree scanner (console.diskAfter surroundings) surroundings.turns
    request.directory depth.toNat term {}
  record surroundings journal.log
  for result in journal.committed do
    sayResult result
  match found with
  | .ok cases => return cases
  | .error (.term error) => fail (.term error)
  | .error (.files error) => fail (.files error)

def notice (target : Path) : Log.Record :=
  Log.record .debug "report" ("Wrote report " ++ target.toString)

def writeReport (request : SearchRequest) (surroundings : Surroundings) (settings : Settings)
    (plan : Option WorkItem.Plan) (term : Term) (cases : TestCase.Cases) : Action Path := do
  let template ← request.readTemplate settings
  let out ← setting (request.outPath settings)
  let statuses ← setting (settings.texts .approvedStatuses)
  let project ← setting (settings.text .project)
  let scriptUrl ← setting (settings.text .scriptUrl)
  let directory ← setting (settings.text .directory)
  record surroundings (Report.templateLog template)
  let (written, disk) := Report.write (← get).disk out surroundings.now
    { template, search := term.text
      approval := plan.map fun plan => { plan, statuses : Report.Approval }
      options := { project, scriptUrl, directory } } cases
  modify fun console => { console with disk }
  match written with
  | .error (.render fault) => fail (.report fault)
  | .error (.name error) => fail (.name error)
  | .error (.trouble trouble) => fail (.trouble trouble)
  | .ok path =>
    record surroundings [notice path]
    return path

def sayOutcome (term : Term) (cases : TestCase.Cases) (out : Path) : Action Unit := do
  say ""
  say ("Search results for: " ++ term.text)
  say ("Used in test cases (" ++ toString cases.length ++ "):")
  say cases.format
  say ("TC Xml created successfully: " ++ out.toString)
  say "Elapsed time 0.00s"

def traceAndReport (request : SearchRequest) (surroundings : Surroundings) (settings : Settings)
    (scanner : Action Scanner) (depth : Action Int) : Action Unit := do
  let term ← makeTerm request.pattern request.isPattern
  let scanner ← scanner
  let plan ← request.loadPlan surroundings
  say (request.heading settings scanner term)
  let depth ← depth
  let cases ← request.trace surroundings scanner depth term
  let out ← request.writeReport surroundings settings plan term cases
  sayOutcome term cases out

def work (request : SearchRequest) (surroundings : Surroundings) (settings : Settings)
    (scanner : Action Scanner) (depth : Action Int) : Action Unit := do
  let logFile ← setting (request.logPath settings)
  startLog logFile request.verbose
  request.traceAndReport surroundings settings scanner depth

def run (request : SearchRequest) (surroundings : Surroundings) : Action Unit := do
  let settings ← loadSettings surroundings request.config
  request.work surroundings settings (makeScanner settings request.fileType request.workers)
    (setting (settings.chosenDepth request.depth))

end SearchRequest
end TestReach.Command
