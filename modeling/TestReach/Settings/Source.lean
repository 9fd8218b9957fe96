import TestReach.Disk
import TestReach.Settings
import TestReach.Toml.Document

namespace TestReach.Settings

inductive LoadError where
  | notFound (path : Path)
  /-- The file cannot be read, or is no configuration. -/
  | unreadable (path : Path)
  | noTable (error : NoTable)
  | undecodable
  /-- Reading stops at something that is missing or of the wrong kind. -/
  | broken (fault : Toml.Fault)
deriving DecidableEq, Repr

/-- The text for an error; the place of the fault in a configuration is not told. -/
def LoadError.message? : LoadError → Option String
  | notFound path => some ("Config file not found: " ++ path.toString)
  | unreadable path => some ("Couldn't load config " ++ path.toString ++ ": <toml>")
  | noTable error => some error.message
  | undecodable => none
  | broken fault => fault.message?

def configuration (disk : Disk) (path : Path) : Except LoadError Toml.Table :=
  match disk.read path with
  | .error (.trouble _) => .error (.unreadable path)
  | .error .undecodable => .error .undecodable
  | .ok text =>
    match Toml.read text with
    | .ok table => .ok table
    | .error .malformed => .error (.unreadable path)
    | .error fault => .error (.broken fault)

def ofFile (disk : Disk) (path : Path) : Except LoadError Settings := do
  (ofConfiguration (← configuration disk path)).mapError .noTable

/-- The settings in the file at `named`, which has to be there, or else at the usual place, if there is
a file. -/
def load (disk : Disk) (usual : Path) (named : Option Path) : Except LoadError Settings :=
  match named with
  | some path => if disk.holds path then ofFile disk path else .error (.notFound path)
  | none => if disk.holds usual then ofFile disk usual else .ok standard

end TestReach.Settings
