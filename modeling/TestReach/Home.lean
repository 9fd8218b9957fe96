import TestReach.Path

namespace TestReach.Home

/-- The home of the user, from its text; without any it is the root. -/
def ofUser (home : String) : Path :=
  let kept := (home.toList.reverse.dropWhile (· == '/')).reverse
  if kept.isEmpty then ⟨"/", []⟩ else Path.ofString (String.ofList kept)

def expand (user path : Path) : Path :=
  if path.root == "" && path.names.head? == some "~" then
    user.join ⟨"", path.names.tail⟩
  else path

def directoryName : String := ".used_in_tc"

def directory (home : String) (named : Option String) : Path :=
  let user := ofUser home
  expand user (match named with
    | some path => Path.ofString path
    | none => user.child directoryName)

def configFile (directory : Path) : Path :=
  directory.child "config.toml"

end TestReach.Home
