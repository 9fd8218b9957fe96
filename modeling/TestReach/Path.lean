import TestReach.Text.Quoted

namespace TestReach

/-- An optional root and the names after it. Empty names and single dots are dropped when a path is
read; double dots stay. -/
structure Path where
  /-- Empty, a slash, or exactly two slashes, which are kept apart. -/
  root : String := ""
  names : List String := []
deriving DecidableEq, Repr

namespace Path

def namesOf (text : List Char) : List String :=
  ((Text.split (· == '/') text).filter fun name => name != [] && name != ['.']).map String.ofList

def rootOf (text : List Char) : String :=
  match (text.takeWhile (· == '/')).length with
  | 0 => ""
  | 2 => "//"
  | _ => "/"

def ofString (text : String) : Path :=
  ⟨rootOf text.toList, namesOf text.toList⟩

def toString (path : Path) : String :=
  if path.root == "" && path.names.isEmpty then "."
  else path.root ++ "/".intercalate path.names

def name (path : Path) : String :=
  path.names.getLast?.getD ""

def parent (path : Path) : Path :=
  { path with names := path.names.dropLast }

def child (path : Path) (name : String) : Path :=
  { path with names := path.names ++ [name] }

def join (path other : Path) : Path :=
  if other.root == "" then { path with names := path.names ++ other.names } else other

/-- The position of the last dot of a name, if it is neither its first nor its last character. -/
def dot? (name : List Char) : Option Nat :=
  let after := (name.reverse.takeWhile (· != '.')).length
  if after == 0 || after + 1 ≥ name.length then none else some (name.length - after - 1)

def suffix (path : Path) : String :=
  let name := path.name.toList
  match dot? name with
  | some pos => String.ofList (name.drop pos)
  | none => ""

def stem (path : Path) : String :=
  let name := path.name.toList
  match dot? name with
  | some pos => String.ofList (name.take pos)
  | none => path.name

inductive NameError where
  /-- The path has no last name to replace. -/
  | emptyName (path : Path)
  | invalid (name : String)
deriving DecidableEq, Repr

def NameError.message : NameError → String
  | emptyName path => "PosixPath(" ++ Text.quoted path.toString ++ ") has an empty name"
  | invalid name => "Invalid name " ++ Text.quoted name

def withName (path : Path) (name : String) : Except NameError Path :=
  if path.name == "" then .error (.emptyName path)
  else if (namesOf name.toList).length != 1 || name.toList.head? == some '/' ||
      name.toList.getLast? == some '/' then .error (.invalid name)
  else .ok { path with names := path.names.dropLast ++ [name] }

/-- Whether one list of names comes before another or is the same; names are compared one by one, and
a list comes before those that go on after it. -/
def namesPrecede : List String → List String → Bool
  | [], _ => true
  | _ :: _, [] => false
  | name :: names, other :: others => name < other || (name == other && namesPrecede names others)

def precedes (p q : Path) : Bool :=
  let key (path : Path) : List String :=
    if path.root == "" then path.names else path.root :: path.names
  namesPrecede (key p) (key q)

end Path
end TestReach
