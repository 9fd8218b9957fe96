import TestReach.Disk
import TestReach.Log.Record

namespace TestReach.Log

/-- Where a handler puts the records that it lets through. -/
inductive Target where
  | console
  | file (key : Key)
deriving DecidableEq, Repr

structure Handler where
  target : Target
  /-- The lowest level that is let through. -/
  threshold : Level
deriving DecidableEq, Repr

structure Setup where
  /-- The lowest level that reaches the handlers. -/
  threshold : Level := .warning
  handlers : List Handler := []
deriving DecidableEq, Repr

namespace Setup

def thresholdFor (verbose : Bool) : Level :=
  if verbose then .debug else .info

def console (verbose : Bool) : Setup :=
  ⟨thresholdFor verbose, [⟨.console, thresholdFor verbose⟩]⟩

def clear (disk : Disk) (path : Path) : Except Trouble Disk :=
  match disk.remove path with
  | .error .notFound => .ok disk
  | result => result

/-- Makes a log file and the directories on the way to it. A file that only these directories lead to
keeps what it holds. The disk is what it is after a failure, too. -/
def prepare (disk : Disk) (path : Path) : Except Trouble Key × Disk :=
  match clear disk path with
  | .error trouble => (.error trouble, disk)
  | .ok disk =>
    match disk.makeDirectories path.parent with
    | (.error trouble, disk) => (.error trouble, disk)
    | (.ok (), disk) =>
      match disk.place path with
      | .error trouble => (.error trouble, disk)
      | .ok key =>
        match disk.entry? key with
        | some .directory => (.error .isDirectory, disk)
        | some (.file _) => (.ok key, disk)
        | none => (.ok key, disk.set key (.file []))

/-- The setup for a log file, if one is wanted. After a failure only the console is left. -/
def start (disk : Disk) (file : Option Path) (verbose : Bool) : Except Trouble Unit × Setup × Disk :=
  match file with
  | none => (.ok (), console verbose, disk)
  | some path =>
    match prepare disk path with
    | (.error trouble, disk) => (.error trouble, console verbose, disk)
    | (.ok key, disk) =>
      let setup := console verbose
      (.ok (), { setup with handlers := setup.handlers ++ [⟨.file key, setup.threshold⟩] }, disk)

def reaches (setup : Setup) (handler : Handler) (record : Record) : Bool :=
  isOwn record.logger && setup.threshold.rank ≤ record.level.rank &&
    handler.threshold.rank ≤ record.level.rank

def filesFor (setup : Setup) (record : Record) : List Key :=
  setup.handlers.filterMap fun handler =>
    match handler.target with
    | .console => none
    | .file key => if setup.reaches handler record then some key else none

def emit (setup : Setup) (time : String) (disk : Disk) (record : Record) : Disk :=
  (setup.filesFor record).foldl (fun disk key =>
    disk.append key (Text.Utf8.encode (record.line time))) disk

def emitAll (setup : Setup) (disk : Disk) (records : List (String × Record)) : Disk :=
  records.foldl (fun disk (time, record) => setup.emit time disk record) disk

end Setup
end TestReach.Log
