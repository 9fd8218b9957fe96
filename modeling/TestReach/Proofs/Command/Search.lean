import TestReach.Command.Run
import TestReach.Proofs.Command.Action
import TestReach.Proofs.Report.Written
import TestReach.Proofs.Trace.Live

namespace TestReach.Command

open Disk

variable {request : SearchRequest} {surroundings : Surroundings} {settings : Settings}
  {scanner : Scanner} {depth : Int} {term : Term} {plan : Option WorkItem.Plan}
  {cases : TestCase.Cases} {console console' : Console} {disk disk' : Disk} {stop : Stop}

namespace SearchRequest

def templateOn (disk : Disk) : Option Path → Except ReadError String
  | some path => disk.read path
  | none => .ok Report.defaultTemplate

def planOn (request : SearchRequest) (disk : Disk) :
    Except WorkItem.Export.LoadError (Option WorkItem.Plan × List Log.Record) :=
  match request.workItems with
  | some file => (WorkItem.Export.load disk file).map fun (plan, records) => (some plan, records)
  | none => .ok (none, [])

structure Drafts (request : SearchRequest) (settings : Settings) (disk : Disk) (term : Term)
    (plan : Option WorkItem.Plan) (report : Report.Request) : Prop where
  template : ∃ path, request.templatePath settings = .ok path ∧
    templateOn disk path = .ok report.template
  search : report.search = term.text
  approval : ∃ statuses, settings.texts .approvedStatuses = .ok statuses ∧
    report.approval = plan.map fun plan => { plan, statuses }
  project : settings.text .project = .ok report.options.project
  scriptUrl : settings.text .scriptUrl = .ok report.options.scriptUrl
  directory : settings.text .directory = .ok report.options.directory

structure Course where
  settings : Settings
  log : Path
  setup : Log.Setup
  /-- The disk once the log is started. -/
  opened : Disk
  term : Term
  scanner : Scanner
  plan : Option WorkItem.Plan
  planLog : List Log.Record
  depth : Int
  cases : TestCase.Cases
  journal : Trace.Journal
  report : Report.Request
  text : String
  out : Path
  target : Path

namespace Course

def searched (course : Course) (surroundings : Surroundings) (records : List Log.Record) : Disk :=
  course.setup.emitAll course.opened (surroundings.timed 0 (course.planLog ++ records))

def traced (course : Course) (surroundings : Surroundings) : Disk :=
  course.searched surroundings course.journal.log

def count (course : Course) : Nat :=
  course.planLog.length + course.journal.log.length +
    (Report.templateLog course.report.template).length

end Course

/-- The bytes after the text of a report in its file. There are none unless the log is in that file,
too. -/
def trailer (request : SearchRequest) (time : String) (log target : Path) (disk : Disk) (key : Key) :
    List UInt8 :=
  match disk.locate log with
  | .ok shared =>
    if shared = key ∧ request.verbose = true then Text.Utf8.encode ((notice target).line time)
    else []
  | .error _ => []

/-- A search ends with one report, of the cases that the trace has found. -/
structure Completes (request : SearchRequest) (surroundings : Surroundings) (course : Course)
    (disk disk' : Disk) : Prop where
  settings : Settings.load disk surroundings.configFile request.config = .ok course.settings
  log : request.logPath course.settings = .ok course.log
  opened : Log.Setup.start disk (some course.log) request.verbose =
    (.ok (), course.setup, course.opened)
  term : Term.make? request.pattern request.isPattern = .ok course.term
  scanner : course.settings.scanner request.fileType request.workers = .ok course.scanner
  plan : request.planOn course.opened = .ok (course.plan, course.planLog)
  depth : course.settings.chosenDepth request.depth = .ok course.depth
  cases : Trace.inLiveTree course.scanner (course.searched surroundings) surroundings.turns
    request.directory course.depth.toNat course.term {} = (.ok course.cases, course.journal)
  report : request.Drafts course.settings (course.traced surroundings) course.term course.plan
    course.report
  text : Report.render course.report course.cases = .ok course.text
  out : request.outPath course.settings = .ok course.out
  target : Report.stamped course.out surroundings.now Report.defaultSuffix = .ok course.target
  content : ∃ key, disk'.locate course.target = .ok key ∧ disk'.entry? key =
    some (.file (Text.Utf8.encode course.text ++
      request.trailer (surroundings.logTime course.count) course.log course.target disk' key))
  changes : disk.Changes (disk.reached disk' course.log ∪ disk.reached disk' course.target)
    {course.log.parent, course.target.parent} disk'

/-- Where the log is no source file, a search reports what a trace finds in the files as they are when
the log is started. -/
theorem Completes.cases_of_log_apart {course : Course}
    (h : request.Completes surroundings course disk disk')
    (hlog : ∀ files, course.scanner.files course.opened request.directory = .ok files →
      ∀ path ∈ files, course.opened.locate path ≠ course.opened.locate course.log) :
    (Trace.inTree course.scanner course.opened request.directory course.depth.toNat course.term
      {}).1 = .ok course.cases := by
  have hfile (key : Key) (hkey : key ∈ course.setup.files) :=
    Log.Setup.located_of_mem_files h.opened hkey
  have hsteady : course.scanner.Steady course.opened (course.searched surroundings)
      request.directory := by
    refine Scanner.steady_of_log (fun key hkey => (hfile key hkey).2) ?_ fun records =>
      surroundings.timed 0 (course.planLog ++ records)
    intro files hfiles path hpath key hkey
    rw [← (hfile key hkey).1]
    exact hlog files hfiles path hpath
  have halike := Trace.inLiveTree_alike hsteady surroundings.turns course.depth.toNat course.term {}
  rw [halike.result, h.cases]

end SearchRequest

namespace Sample

def morning : Surroundings where
  now := ⟨2024, 1, 31, 8, 5, 9⟩
  logTime _ := "08:05:09"
  configFile := ⟨"", ["config.toml"]⟩

def shared : Path := ⟨"/", ["w", "o_2024_01_31__08_05_09.xml"]⟩

end Sample

end TestReach.Command
