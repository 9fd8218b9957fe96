import TestReach.Path
import TestReach.Text.Utf8

namespace TestReach

inductive Entry where
  | file (bytes : List UInt8)
  | directory
deriving DecidableEq, Repr

inductive Trouble where
  | notFound
  | isDirectory
  | notDirectory
  | permissionDenied
  | alreadyExists
deriving DecidableEq, Repr

def Trouble.describe : Trouble → String
  | notFound => "[Errno 2] No such file or directory"
  | isDirectory => "[Errno 21] Is a directory"
  | notDirectory => "[Errno 20] Not a directory"
  | permissionDenied => "[Errno 13] Permission denied"
  | alreadyExists => "[Errno 17] File exists"

def Trouble.message (trouble : Trouble) (path : Path) : String :=
  trouble.describe ++ ": " ++ Text.quoted path.toString

/-- The names that lead from the top of the file system to an entry, without detours. -/
abbrev Key := List String

structure Disk where
  /-- The entries; every entry but those at the top has its directory among them. -/
  entries : List (Key × Entry) := []
  /-- The directory that paths without a root start from. -/
  working : Key := []
  /-- Paths, as written, whose text may not be read. -/
  unreadable : List String := []

namespace Disk

def entry? (disk : Disk) (key : Key) : Option Entry :=
  if key.isEmpty then some .directory else disk.entries.lookup key

/-- Follows `names` from the entry at `key`. Above the top there is only the top. -/
def follow (disk : Disk) (key : Key) : List String → Except Trouble Key
  | [] => if (disk.entry? key).isSome then .ok key else .error .notFound
  | name :: names =>
    match disk.entry? key with
    | none => .error .notFound
    | some (.file _) => .error .notDirectory
    | some .directory =>
      if name == ".." then disk.follow key.dropLast names else disk.follow (key ++ [name]) names

def start (disk : Disk) (path : Path) : Except Trouble Key :=
  if path.root != "" then .ok []
  else do
    let key ← disk.follow [] disk.working
    match disk.entry? key with
    | some .directory => return key
    | _ => .error .notDirectory

def locate (disk : Disk) (path : Path) : Except Trouble Key := do
  disk.follow (← disk.start path) path.names

def found? (disk : Disk) (path : Path) : Option Entry :=
  match disk.locate path with
  | .ok key => disk.entry? key
  | .error _ => none

def holds (disk : Disk) (path : Path) : Bool :=
  (disk.found? path).isSome

def isDirectory (disk : Disk) (path : Path) : Bool :=
  disk.found? path == some .directory

def isFile (disk : Disk) (path : Path) : Bool :=
  match disk.found? path with
  | some (.file _) => true
  | _ => false

def bytes (disk : Disk) (path : Path) : Except Trouble (List UInt8) := do
  let key ← disk.locate path
  match disk.entry? key with
  | some (.file bytes) => return bytes
  | some .directory => .error .isDirectory
  | none => .error .notFound

def textBytes (disk : Disk) (path : Path) : Except Trouble (List UInt8) :=
  if disk.unreadable.contains path.toString then .error .permissionDenied else disk.bytes path

def readLenient (disk : Disk) (path : Path) : Except Trouble String :=
  (disk.textBytes path).map Text.Utf8.decodeLenient

inductive ReadError where
  | trouble (trouble : Trouble)
  /-- The bytes are no UTF-8. -/
  | undecodable
deriving DecidableEq, Repr

def read (disk : Disk) (path : Path) : Except ReadError String :=
  match disk.textBytes path with
  | .error trouble => .error (.trouble trouble)
  | .ok bytes =>
    match Text.Utf8.decode? bytes with
    | some text => .ok text
    | none => .error .undecodable

def namesIn (disk : Disk) (key : Key) : List String :=
  disk.entries.filterMap fun (k, _) =>
    if k.dropLast == key && !k.isEmpty then k.getLast? else none

def set (disk : Disk) (key : Key) (entry : Entry) : Disk :=
  if disk.entries.any (·.1 == key) then
    { disk with entries := disk.entries.map fun (k, e) => if k == key then (k, entry) else (k, e) }
  else { disk with entries := disk.entries ++ [(key, entry)] }

/-- Adds bytes at the end of a file, which is made if it is not there. -/
def append (disk : Disk) (key : Key) (bytes : List UInt8) : Disk :=
  match disk.entry? key with
  | some (.file old) => disk.set key (.file (old ++ bytes))
  | some .directory => disk
  | none => disk.set key (.file bytes)

def plant (disk : Disk) (key : Key) (entry : Entry) : Disk :=
  let above := (List.range key.length).map key.take
  let disk := above.foldl (fun disk k =>
    if (disk.entry? k).isSome then disk else disk.set k .directory) disk
  disk.set key entry

/-- The place of an entry that need not exist, in a directory that must. -/
def place (disk : Disk) (path : Path) : Except Trouble Key :=
  match path.names.getLast? with
  | none => disk.locate path
  | some name =>
    if name == ".." then disk.locate path
    else do
      let key ← disk.locate path.parent
      match disk.entry? key with
      | some .directory => return key ++ [name]
      | _ => .error .notDirectory

def write (disk : Disk) (path : Path) (bytes : List UInt8) : Except Trouble Disk := do
  let key ← disk.place path
  match disk.entry? key with
  | some .directory => .error .isDirectory
  | _ => return disk.set key (.file bytes)

def remove (disk : Disk) (path : Path) : Except Trouble Disk := do
  let key ← disk.locate path
  match disk.entry? key with
  | some .directory => .error .isDirectory
  | _ => return { disk with entries := disk.entries.filter (·.1 != key) }

/-- Makes the directory that `names` lead to, and those on the way; `made` names are done. What has
been made before a failure stays. -/
def makeFrom (root : String) (disk : Disk) (made : List String) :
    List String → Except Trouble Unit × Disk
  | [] => (.ok (), disk)
  | name :: names =>
    match disk.place ⟨root, made ++ [name]⟩ with
    | .error trouble => (.error trouble, disk)
    | .ok key =>
      match disk.entry? key with
      | some .directory => makeFrom root disk (made ++ [name]) names
      | some (.file _) =>
        (.error (if names.isEmpty then .alreadyExists else .notDirectory), disk)
      | none => makeFrom root (disk.set key .directory) (made ++ [name]) names

def makeDirectories (disk : Disk) (path : Path) : Except Trouble Unit × Disk :=
  makeFrom path.root disk [] path.names

def files (disk : Disk) : List (Key × List UInt8) :=
  (disk.entries.filterMap fun (key, entry) =>
    match entry with
    | .file bytes => some (key, bytes)
    | .directory => none).mergeSort fun a b => Path.namesPrecede a.1 b.1

end Disk
end TestReach
