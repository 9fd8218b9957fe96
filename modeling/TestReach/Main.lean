import Std.Time.Zoned
import TestReach.CommandLine.Run
import TestReach.Home

namespace TestReach.Main

/-- Adds what is at `key` in the file system. A file that cannot be read is noted as it is spelled. -/
def addEntry (disk : Disk) (key : Key) (path : Path) : IO Disk := do
  let place := System.mkFilePath ("/" :: key)
  if key.isEmpty || !(← place.pathExists) then return disk
  else if ← place.isDir then
    return if (disk.entry? key).isSome then disk else disk.set key .directory
  else
    try return disk.set key (.file (← IO.FS.readBinFile place).toList)
    catch _ =>
      return { disk.set key (.file []) with unreadable := path.toString :: disk.unreadable }

def addWay (disk : Disk) (path : Path) : IO (Disk × Key) := do
  let mut disk := disk
  let mut key := if path.root == "" then disk.working else []
  for name in path.names do
    key := if name == ".." then key.dropLast else key ++ [name]
    disk ← addEntry disk key path
  return (disk, key)

partial def addBelow (disk : Disk) (key : Key) (path : Path) : IO Disk := do
  let mut disk := disk
  for entry in ← (System.mkFilePath ("/" :: key)).readDir do
    let key := key ++ [entry.fileName]
    let path := path.child entry.fileName
    disk ← addEntry disk key path
    if disk.entry? key == some .directory then disk ← addBelow disk key path
  return disk

/-- Adds a whole tree, if there is a directory. -/
def addTree (disk : Disk) (path : Path) : IO Disk := do
  let (disk, key) ← addWay disk path
  if disk.entry? key == some .directory then addBelow disk key path else return disk

def named : Command.Request → List Path × List Path
  | .version => ([], [])
  | .search request =>
    ([request.directory], [request.logFile, request.outFile, request.template, request.workItems,
      request.config].filterMap id)
  | .scan request => ([request.directory], request.config.toList)
  | .workItems file => ([], [file])

def namedBy (settings : Settings) : List Path :=
  [Setting.logFile, .outFile, .template].filterMap fun setting =>
    ((settings.text setting).toOption.filter (· != "")).map Path.ofString

def diskFor (working : Key) (surroundings : Command.Surroundings) (request : Command.Request) :
    IO Disk := do
  let (trees, files) := named request
  let (disk, _) ← addWay { working } ⟨"/", working⟩
  let disk ← trees.foldlM addTree disk
  let add (disk : Disk) (path : Path) : IO Disk := return (← addWay disk path).1
  let disk ← (surroundings.configFile :: files).foldlM add disk
  let config := match request with
    | .search request => request.config
    | _ => none
  match Settings.load disk surroundings.configFile config with
  | .ok settings => (namedBy settings).foldlM add disk
  | .error _ => return disk

def writeChanges (before after : Disk) : IO Unit := do
  for (key, _) in before.entries do
    if (after.entry? key).isNone then IO.FS.removeFile (System.mkFilePath ("/" :: key))
  for (key, entry) in after.entries do
    if before.entry? key != some entry then
      let place := System.mkFilePath ("/" :: key)
      match entry with
      | .directory => IO.FS.createDirAll place
      | .file bytes => IO.FS.writeBinFile place ⟨bytes.toArray⟩

def clock : IO (Moment × Nat) := do
  let now ← Std.Time.PlainDateTime.now
  let moment := Moment.ofParts now.date.year.toInt now.date.month.val now.date.day.val
    now.time.hour.val now.time.minute.val now.time.second.val 0
  return (moment.toOption.getD ⟨1, 1, 1, 0, 0, 0⟩, now.time.nanosecond.val.toNat / 1000000)

end TestReach.Main

open TestReach in
def main (arguments : List String) : IO UInt32 := do
  let (now, milliseconds) ← Main.clock
  let home ← IO.getEnv "HOME"
  let named ← IO.getEnv "USED_IN_TC_HOME"
  let here ← IO.currentDir
  let surroundings : Command.Surroundings :=
    { now
      logTime := fun _ => now.logTime milliseconds
      configFile := Home.configFile (Home.directory (home.getD "") named) }
  let working := (Path.ofString here.toString).names
  -- What a command line names is looked for first as if it were all there.
  let before ← match CommandLine.ofArguments ⟨fun _ => true, fun _ => true⟩ arguments with
    | .ok (some request) => Main.diskFor working surroundings request
    | _ => pure { working }
  let outcome := CommandLine.run surroundings before arguments
  Main.writeChanges before outcome.disk
  IO.print outcome.printed
  if let some complaint := outcome.complaint? then IO.eprintln complaint
  return UInt32.ofNat outcome.exitCode
