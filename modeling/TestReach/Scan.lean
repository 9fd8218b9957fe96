import TestReach.Declaration
import TestReach.Location
import TestReach.SourceFiles
import TestReach.Term
import TestReach.TestCase

namespace TestReach

structure Match where
  path : String
  /-- The line, from one. -/
  line : Nat
  /-- The columns in `text`. -/
  column : Int
  columnEnd : Int
  /-- The line or lines around the match. -/
  text : String
  /-- The routine around a use; empty if there is none. -/
  routine : String := ""
  isDeclaration : Bool := false
deriving DecidableEq, Repr

def Match.matched (m : Match) : String :=
  String.ofList (Text.between m.text.toList m.column m.columnEnd)

structure FileResult where
  path : String
  hits : List Match
  isTestCase : Bool := false
  info : TestCase.Info := {}
deriving DecidableEq, Repr

/-- Where a worker's visit of a file stands: the file is still to be read, or records about it are
still to be written. -/
inductive Visit where
  | waiting (path : Path)
  | read (result : Option FileResult) (records : List Log.Record)

/-- How files are found, matched and classified. -/
structure Scanner where
  fileType : String
  workers : Nat
  declarations : DeclarationRules
  testCases : TestCase.Rules
  markers : List String

namespace Scanner

def defaultWorkers : Nat := 4

inductive Invalid where
  | rule (error : Rule.Invalid)
  /-- There must be at least one worker. -/
  | workers (count : Int)

def Invalid.workersMessage (count : Int) : String :=
  "Worker count must be positive, got " ++ toString count

def make? (fileType : String) (workers : Int) (declarations : DeclarationRules)
    (testCases : TestCase.Rules) (markers : List String) : Except Invalid Scanner :=
  if workers < 1 then .error (.workers workers)
  else .ok { fileType, workers := workers.toNat, declarations, testCases, markers }

/-- The match at a span of a file's text. Only a use has a routine around it. -/
def hit (scanner : Scanner) (path source : String) (span : Span) : Match :=
  let place := Location.ofSpan span source
  let isDeclaration := scanner.declarations.isDeclaration place.text
  { path
    line := place.line
    column := place.column
    columnEnd := place.columnEnd
    text := place.text
    routine :=
      if isDeclaration then "" else scanner.declarations.enclosing (source.toList.take span.start)
    isDeclaration }

def hitLog (scanner : Scanner) (source : String) (span : Span) : List Log.Record :=
  if scanner.declarations.isDeclaration (Location.ofSpan span source).text then []
  else scanner.declarations.enclosingLog (source.toList.take span.start)

/-- The matches in a file's text; nothing if there is none. -/
def scanText (scanner : Scanner) (path source : String) (term : Term) : Option FileResult :=
  match (term.findAll source).map (scanner.hit path source) with
  | [] => none
  | hits =>
    let isTestCase := scanner.testCases.isTestCase path
    some { path, hits, isTestCase, info := if isTestCase then scanner.testCases.info source else {} }

/-- What is logged when a file's text is scanned with `result`. -/
def textLog (scanner : Scanner) (path source : String) (term : Term) (result : Option FileResult) :
    List Log.Record :=
  let classified := (term.findAll source).flatMap (scanner.hitLog source)
  match result with
  | some result =>
    classified ++ if result.isTestCase then TestCase.Rules.infoLog result.info path else []
  | none => classified

/-- Scans one file, and gives what is logged. A file that cannot be read has no matches. -/
def visit (scanner : Scanner) (disk : Disk) (path : Path) (term : Term) :
    Option FileResult × List Log.Record :=
  match disk.readLenient path with
  | .ok source =>
    let result := scanner.scanText path.toString source term
    (result, scanner.textLog path.toString source term result)
  | .error trouble =>
    (none, [Log.record .error "scanner" ("Couldn't read file " ++ path.toString ++ ": " ++
      trouble.message path)])

def scanFile (scanner : Scanner) (disk : Disk) (path : Path) (term : Term) : Option FileResult :=
  (scanner.visit disk path term).1

def files (scanner : Scanner) (disk : Disk) (root : Path) :
    Except SourceFiles.ListError (List Path) :=
  SourceFiles.list disk root scanner.fileType scanner.markers

/-- The next step of a visit, after what has been logged so far: its file is read, or one of its
records is written. -/
def step (scanner : Scanner) (live : List Log.Record → Disk) (term : Term) (log : List Log.Record) :
    Visit → Visit × List Log.Record
  | .waiting path =>
    let (result, records) := scanner.visit (live log) path term
    (.read result records, log)
  | .read result [] => (.read result [], log)
  | .read result (record :: records) => (.read result records, log ++ [record])

def finish (scanner : Scanner) (live : List Log.Record → Disk) (term : Term)
    (log : List Log.Record) : Visit → Option FileResult × List Log.Record
  | .waiting path =>
    let (result, records) := scanner.visit (live log) path term
    (result, log ++ records)
  | .read result records => (result, log ++ records)

def takeTurn (scanner : Scanner) (live : List Log.Record → Disk) (term : Term)
    (state : List Visit × List Log.Record) (turn : Nat) : List Visit × List Log.Record :=
  match state.1[turn]? with
  | some visit =>
    let (visit, log) := scanner.step live term state.2 visit
    (state.1.set turn visit, log)
  | none => state

def finishAll (scanner : Scanner) (live : List Log.Record → Disk) (term : Term) :
    List Visit → List Log.Record → List FileResult × List Log.Record
  | [], log => ([], log)
  | visit :: visits, log =>
    let (result, log) := scanner.finish live term log visit
    let (results, log) := scanner.finishAll live term visits log
    (result.toList ++ results, log)

/-- Scans files while records are written, and gives what is logged. A file is read from the disk as
the records before it have left it. The workers take `turns` at the visits; what is then left of them
is done file by file. -/
def visitAllLive (scanner : Scanner) (live : List Log.Record → Disk) (turns : List Nat)
    (files : List Path) (term : Term) : List FileResult × List Log.Record :=
  let begun := "Scanning " ++ toString files.length ++ " files for " ++ term.text ++ " with " ++
    toString scanner.workers ++ " workers"
  let (visits, log) := turns.foldl (scanner.takeTurn live term)
    (files.map .waiting, [Log.record .debug "scanner" begun])
  let (results, log) := scanner.finishAll live term visits log
  let ended := toString results.length ++ " files matched " ++ term.text
  (results, log ++ [Log.record .debug "scanner" ended])

def visitAll (scanner : Scanner) (disk : Disk) (files : List Path) (term : Term) :
    List FileResult × List Log.Record :=
  scanner.visitAllLive (fun _ => disk) [] files term

/-- Scans all source files below `root`, in ascending order of their paths, while records are
written. -/
def surveyLive (scanner : Scanner) (live : List Log.Record → Disk) (turns : List Nat) (root : Path)
    (term : Term) : Except SourceFiles.ListError (List FileResult × List Log.Record) :=
  (scanner.files (live []) root).map fun files => scanner.visitAllLive live turns files term

def survey (scanner : Scanner) (disk : Disk) (root : Path) (term : Term) :
    Except SourceFiles.ListError (List FileResult × List Log.Record) :=
  scanner.surveyLive (fun _ => disk) [] root term

def scan (scanner : Scanner) (disk : Disk) (root : Path) (term : Term) :
    Except SourceFiles.ListError (List FileResult) :=
  (scanner.survey disk root term).map (·.1)

end Scanner
end TestReach
