import TestReach.Report.Document
import TestReach.Scan
import TestReach.Toml.Value
import TestReach.Trace

namespace TestReach

inductive Setting where
  | fileType
  | depth
  | workers
  | logFile
  | outFile
  | generatedMarkers
  | declarationPattern
  | ignoredRoutines
  | directory
  | opening
  | identifierPattern
  | setupPattern
  | estimatePattern
  | project
  | scriptUrl
  | approvedStatuses
  | template
deriving DecidableEq, Repr

namespace Setting

def all : List Setting :=
  [fileType, depth, workers, logFile, outFile, generatedMarkers, declarationPattern, ignoredRoutines,
    directory, opening, identifierPattern, setupPattern, estimatePattern, project, scriptUrl,
    approvedStatuses, template]

def name : Setting → String
  | fileType => "file_type"
  | depth => "depth"
  | workers => "workers"
  | logFile => "log_file"
  | outFile => "out_file"
  | generatedMarkers => "generated_markers"
  | declarationPattern => "declaration_pattern"
  | ignoredRoutines => "ignored_routines"
  | directory => "directory"
  | opening => "prefix"
  | identifierPattern => "id_pattern"
  | setupPattern => "setup_pattern"
  | estimatePattern => "estimate_pattern"
  | project => "project_id"
  | scriptUrl => "script_url"
  | approvedStatuses => "approved_statuses"
  | template => "template"

def named? (name : String) : Option Setting :=
  all.find? (·.name == name)

def standard : Setting → Toml.Value
  | fileType => .text SourceFiles.defaultFileType
  | depth => .integer Trace.defaultDepth
  | workers => .integer Scanner.defaultWorkers
  | logFile => .text "search.log"
  | outFile => .text "search_tc.xml"
  | generatedMarkers => .list (SourceFiles.defaultMarkers.map .text)
  | declarationPattern => .text DeclarationRules.defaultPattern
  | ignoredRoutines => .list (DeclarationRules.defaultIgnored.map .text)
  | directory => .text TestCase.Layout.defaultDirectory
  | opening => .text TestCase.Layout.defaultOpening
  | identifierPattern => .text TestCase.Rules.defaultIdentifier
  | setupPattern => .text TestCase.Rules.defaultSetup
  | estimatePattern => .text TestCase.Rules.defaultEstimate
  | project => .text Report.standardProject
  | scriptUrl => .text Report.standardScriptUrl
  | approvedStatuses => .list (Report.standardStatuses.map .text)
  | template => .nothing

end Setting

/-- A value for each setting, of whatever kind: the kind is looked at when the setting is used. -/
structure Settings where
  value : Setting → Toml.Value

namespace Settings

def standard : Settings := ⟨Setting.standard⟩

def set (settings : Settings) (setting : Setting) (value : Toml.Value) : Settings :=
  ⟨fun other => if other = setting then value else settings.value other⟩

/-- The settings with those of a table over them. Names that are none of a setting are ignored. -/
def overlay (settings : Settings) (table : Toml.Table) : Settings :=
  table.foldl (fun settings (name, value) =>
    match Setting.named? name with
    | some setting => settings.set setting value
    | none => settings) settings

def tableNames : List String := ["search", "testcases", "report"]

structure NoTable where
  name : String
deriving DecidableEq, Repr

def NoTable.message (error : NoTable) : String :=
  "[" ++ error.name ++ "] must be a table"

def tableOf (configuration : Toml.Table) (name : String) : Except NoTable Toml.Table :=
  match configuration.lookup name with
  | none => .ok []
  | some (.table entries) => .ok entries
  | some _ => .error ⟨name⟩

def ofConfiguration (configuration : Toml.Table) : Except NoTable Settings := do
  return (← tableNames.mapM (tableOf configuration)).foldl overlay standard

/-- The value of a setting is not of the kind that is needed. -/
structure WrongKind where
  setting : Setting
deriving DecidableEq, Repr

def text (settings : Settings) (setting : Setting) : Except WrongKind String :=
  match settings.value setting with
  | .text text => .ok text
  | _ => .error ⟨setting⟩

def integer (settings : Settings) (setting : Setting) : Except WrongKind Int :=
  match settings.value setting with
  | .integer value => .ok value
  | .boolean value => .ok (if value then 1 else 0)
  | _ => .error ⟨setting⟩

/-- A list of texts. A text counts as the list of its characters, a table as that of its names;
without a value the list is the standard one. -/
def texts (settings : Settings) (setting : Setting) : Except WrongKind (List String) :=
  listOf (settings.value setting)
where
  listOf : Toml.Value → Except WrongKind (List String)
    | .list items => items.mapM fun
      | .text text => .ok text
      | _ => .error ⟨setting⟩
    | .text text => .ok (text.toList.map fun c => String.ofList [c])
    | .table entries => .ok (entries.map (·.1))
    | .nothing =>
      match setting.standard with
      | .list items => .ok (items.filterMap fun
        | .text text => some text
        | _ => none)
      | _ => .error ⟨setting⟩
    | _ => .error ⟨setting⟩

/-- Why settings make no scanner. -/
inductive Invalid where
  | wrongKind (error : WrongKind)
  | scanner (error : Scanner.Invalid)

def declarations (settings : Settings) : Except Invalid DeclarationRules := do
  let pattern ← (settings.text .declarationPattern).mapError .wrongKind
  let ignored ← (settings.texts .ignoredRoutines).mapError .wrongKind
  (DeclarationRules.compile pattern ignored).mapError fun error => .scanner (.rule error)

def testCases (settings : Settings) (fileType : String) : Except Invalid TestCase.Rules := do
  let text (setting : Setting) : Except Invalid String := (settings.text setting).mapError .wrongKind
  let layout := ⟨← text .directory, ← text .opening, fileType⟩
  (TestCase.Rules.compile layout (← text .identifierPattern) (← text .setupPattern)
    (← text .estimatePattern)).mapError fun error => .scanner (.rule error)

/-- The type of source files: the one asked for, unless it is empty, otherwise the one set. -/
def chosenFileType (settings : Settings) (asked : Option String) : Except WrongKind String :=
  match asked.filter (· != "") with
  | some fileType => .ok fileType
  | none => settings.text .fileType

/-- The number of workers: the one asked for, unless it is zero, otherwise the one set. -/
def chosenWorkers (settings : Settings) (asked : Option Int) : Except WrongKind Int :=
  match asked.filter (· != 0) with
  | some workers => .ok workers
  | none => settings.integer .workers

def chosenDepth (settings : Settings) (asked : Option Int) : Except WrongKind Int :=
  match asked with
  | some depth => .ok depth
  | none => settings.integer .depth

def scanner (settings : Settings) (fileType : Option String) (workers : Option Int) :
    Except Invalid Scanner := do
  let fileType ← (settings.chosenFileType fileType).mapError .wrongKind
  let declarations ← settings.declarations
  let testCases ← settings.testCases fileType
  let workers ← (settings.chosenWorkers workers).mapError .wrongKind
  let markers ← (settings.texts .generatedMarkers).mapError .wrongKind
  (Scanner.make? fileType workers declarations testCases markers).mapError .scanner

end Settings
end TestReach
