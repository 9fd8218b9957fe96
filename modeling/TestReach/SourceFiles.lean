import TestReach.Disk
import TestReach.Glob

namespace TestReach.SourceFiles

inductive ListError where
  | notDirectory (root : Path)
  /-- Two stars next to each other in a name. -/
  | doubleStar
deriving DecidableEq, Repr

def ListError.message : ListError → String
  | notDirectory root => "Couldn't list files of " ++ root.toString ++ ": not a directory"
  | doubleStar => "Invalid pattern: '**' can only be an entire path component"

def defaultFileType : String := ".py"

/-- Endings of the names of generated files, before the file type. -/
def defaultMarkers : List String := ["_pb2"]

inductive Step where
  /-- The directory itself and all directories below it. -/
  | below
  | named (name : String)
  | like (pieces : List Glob.Piece)
deriving DecidableEq, Repr

def Step.ofName (name : String) : Except ListError Step :=
  let text := name.toList
  if name == "**" then .ok .below
  else if Text.contains ['*', '*'] text then .error .doubleStar
  else if Glob.isWild text then .ok (.like (Glob.pieces text))
  else .ok (.named name)

def steps (fileType : String) : Except ListError (List Step × Bool) := do
  let names := Path.namesOf ('*' :: fileType.toList)
  return (← names.mapM Step.ofName, fileType.toList.getLast? == some '/')

/-- The directory at `path` and all directories below it; `fuel` bounds their depth. -/
def directoriesBelow (disk : Disk) : (fuel : Nat) → Path → List Path
  | 0, path => [path]
  | fuel + 1, path =>
    let names := match disk.locate path with
      | .ok key => disk.namesIn key
      | .error _ => []
    path :: (names.map path.child).flatMap fun child =>
      if disk.isDirectory child then directoriesBelow disk fuel child else []

def depth (disk : Disk) : Nat :=
  (disk.entries.map (·.1.length)).foldl max 0

def select (disk : Disk) (directoriesOnly : Bool) : List Step → Path → List Path
  | [], path => [path]
  | step :: steps, path =>
    let wanted (child : Path) : Bool :=
      if steps.isEmpty && !directoriesOnly then disk.holds child else disk.isDirectory child
    let next := match step with
      | .below => directoriesBelow disk (depth disk) path
      | .named name => [path.child name].filter wanted
      | .like pieces =>
        match disk.locate path with
        | .ok key =>
          (((disk.namesIn key).filter fun (name : String) => Glob.matchesName pieces name.toList).map
            path.child).filter wanted
        | .error _ => []
    (next.flatMap (select disk directoriesOnly steps)).eraseDups

def isGenerated (name fileType : String) (markers : List String) : Bool :=
  markers.any fun marker => Text.endsWith (marker ++ fileType).toList name.toList

/-- The source files below `root`, in ascending order. The file type is the end of a wildcard pattern;
with slashes it asks for several names at the end of a path. -/
def list (disk : Disk) (root : Path) (fileType : String) (markers : List String) :
    Except ListError (List Path) :=
  if !disk.isDirectory root then .error (.notDirectory root)
  else do
    let (steps, directoriesOnly) ← steps fileType
    let found := select disk directoriesOnly (.below :: steps) root
    return (found.mergeSort Path.precedes).filter fun path =>
      disk.isFile path && !isGenerated path.name fileType markers

end TestReach.SourceFiles
