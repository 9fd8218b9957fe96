import TestReach.Command.Run
import TestReach.CommandLine.Arguments
import TestReach.Text.Integer

namespace TestReach.CommandLine

open Command

structure Checks where
  isFile : Path → Bool
  isDirectory : Path → Bool

def helpOption : OptionSpec := { name := "--help" }

def generalOptions : List OptionSpec :=
  [{ name := "--version", letter := some 'v' }, helpOption]

def commonOptions : List OptionSpec :=
  [{ name := "--regex", letter := some 'r' },
    { name := "--type", letter := some 't', takesValue := true },
    { name := "--workers", letter := some 'w', takesValue := true },
    { name := "--config", letter := some 'c', takesValue := true }, helpOption]

def searchOptions : List OptionSpec :=
  commonOptions ++
  [{ name := "--dist", letter := some 'd', takesValue := true },
    { name := "--log", letter := some 'l', takesValue := true },
    { name := "--out", letter := some 'o', takesValue := true },
    { name := "--template", takesValue := true },
    { name := "--work-items", letter := some 'p', takesValue := true },
    { name := "--verbose", letter := some 'V' }]

def integer? (arguments : Arguments) (name : String) : Except Misuse (Option Int) :=
  match arguments.value? name with
  | none => .ok none
  | some text =>
    match Text.integer text.toList with
    | .ok value => .ok (some value)
    | .error _ => .error (.noInteger name text)

def path? (arguments : Arguments) (name : String) : Option Path :=
  (arguments.value? name).map Path.ofString

def meansDirectory (path : String) : Bool :=
  path.toList.reverse.head? == some '/' || path.toList.reverse.take 2 == ['.', '/']

def file (checks : Checks) (path : String) : Except Misuse Path :=
  if path == "" || meansDirectory path || !checks.isFile (Path.ofString path) then
    .error (.badPath path)
  else .ok (Path.ofString path)

def directory (checks : Checks) (path : String) : Except Misuse Path :=
  if path == "" || !checks.isDirectory (Path.ofString path) then .error (.badPath path)
  else .ok (Path.ofString path)

def file? (checks : Checks) (arguments : Arguments) (name : String) : Except Misuse (Option Path) :=
  match arguments.value? name with
  | none => .ok none
  | some path => (file checks path).map some

def twoOperands (arguments : Arguments) : Except Misuse (String × String) :=
  match arguments.operands with
  | [first, second] => .ok (first, second)
  | operands => .error (.operandCount operands.length)

def ofSearch (checks : Checks) (arguments : Arguments) : Except Misuse Request := do
  let (pattern, root) ← twoOperands arguments
  return .search
    { pattern
      directory := ← directory checks root
      isPattern := arguments.has "--regex"
      fileType := arguments.value? "--type"
      depth := ← integer? arguments "--dist"
      workers := ← integer? arguments "--workers"
      logFile := path? arguments "--log"
      outFile := path? arguments "--out"
      template := ← file? checks arguments "--template"
      workItems := ← file? checks arguments "--work-items"
      config := path? arguments "--config"
      verbose := arguments.has "--verbose" }

def ofScan (checks : Checks) (arguments : Arguments) : Except Misuse Request := do
  let (pattern, root) ← twoOperands arguments
  return .scan
    { pattern
      directory := ← directory checks root
      isPattern := arguments.has "--regex"
      fileType := arguments.value? "--type"
      workers := ← integer? arguments "--workers"
      config := path? arguments "--config" }

def ofWorkItems (checks : Checks) (arguments : Arguments) : Except Misuse Request :=
  match arguments.operands with
  | [path] => (file checks path).map .workItems
  | operands => .error (.operandCount operands.length)

/-- Reads the arguments of one command. Asking for help goes before what else is wrong. -/
def ofCommand (specs : List OptionSpec) (read : Arguments → Except Misuse Request)
    (texts : List String) : Except Misuse (Option Request) := do
  let arguments ← Arguments.read specs true texts
  if arguments.has "--help" then return none else return some (← read arguments)

def ofArguments (checks : Checks) (texts : List String) : Except Misuse (Option Request) := do
  let arguments ← Arguments.read generalOptions false texts
  match arguments.options, arguments.operands with
  | (name, _) :: _, _ => return if name == "--version" then some .version else none
  | [], [] => throw .noCommand
  | [], "search" :: texts => ofCommand searchOptions (ofSearch checks) texts
  | [], "scan" :: texts => ofCommand commonOptions (ofScan checks) texts
  | [], "work-items" :: texts => ofCommand [helpOption] (ofWorkItems checks) texts
  | [], name :: _ => throw (.unknownCommand name)

/-- Runs a command line. Help is not written out. -/
def run (surroundings : Surroundings) (disk : Disk) (arguments : List String) : Outcome :=
  match ofArguments ⟨disk.isFile, disk.isDirectory⟩ arguments with
  | .error misuse => Command.run surroundings disk (.error misuse.message)
  | .ok none => ⟨none, "", disk⟩
  | .ok (some request) => Command.run surroundings disk (.ok request)

end TestReach.CommandLine
