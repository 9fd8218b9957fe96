import TestReach.Disk
import TestReach.Log.Record
import TestReach.Text.Blank
import TestReach.WorkItem
import TestReach.Xml.Document

namespace TestReach.WorkItem.Export

def measuresField : String := "riskreductionmeasure"

inductive Skip where
  | noFields
  | noIdentifier (title : String)
deriving DecidableEq, Repr

def Skip.message : Skip → String
  | noFields => "Skipping work item without fields"
  | noIdentifier title => "Skipping work item without id: " ++ title

/-- The trimmed text of the first child of a name; empty if there is none. -/
def textOf (element : Xml.Element) (name : String) : String :=
  match element.child? name with
  | some child => String.ofList (Text.strip child.text.toList)
  | none => ""

/-- The value of an attribute; empty if there is none. -/
def valueOf (element : Xml.Element) (name : String) : String :=
  (element.attribute? name).getD ""

def measures (element : Xml.Element) : List String :=
  let fields := (element.childrenNamed "customFields").flatMap (·.childrenNamed "field")
  let chosen := fields.filter fun field => field.attribute? "id" == some measuresField
  let options := (chosen.flatMap (·.childrenNamed "multi-enum")).flatMap (·.childrenNamed "option")
  options.map (valueOf · "name")

def item (element : Xml.Element) : Except Skip WorkItem :=
  match element.child? "fields" with
  | none => .error .noFields
  | some fields =>
    let identifier := textOf fields "id"
    let title := textOf fields "title"
    if identifier == "" then .error (.noIdentifier title)
    else
      let status := ((fields.child? "status").map (valueOf · "name")).getD ""
      .ok { identifier, title, status, measures := measures element }

/-- The elements for work items below `root`, itself included, in the order in which they begin. -/
def elements (root : Xml.Element) : List Xml.Element :=
  root.all.filter (·.isNamed "workItem")

def plan (root : Xml.Element) : Plan :=
  .ofList ((elements root).filterMap fun element => do
    let item ← (item element).toOption
    return (item.identifier, item))

def log (root : Xml.Element) : List Log.Record :=
  (elements root).filterMap fun element =>
    match item element with
    | .ok _ => none
    | .error skip => some (Log.record .warning "work_items" skip.message)

/-- Why work items cannot be loaded. -/
inductive LoadError where
  | malformed
  | unreadable (path : Path) (trouble : Trouble)
  | undecodable
deriving DecidableEq, Repr

/-- The text for an error; the place of the fault in a malformed document is not told. -/
def LoadError.message? : LoadError → Option String
  | malformed => "Failed to parse work items: <xml>"
  | unreadable path trouble => "Failed to read work items file " ++ path.toString ++ ": " ++
      trouble.message path
  | undecodable => none

/-- The work items in a text, and what is logged. Of several elements with one identifier the last counts. -/
def parse (text : String) : Except LoadError (Plan × List Log.Record) :=
  match Xml.document? text with
  | some root => .ok (plan root, log root)
  | none => .error .malformed

def load (disk : Disk) (path : Path) : Except LoadError (Plan × List Log.Record) :=
  match disk.read path with
  | .ok text => parse text
  | .error (.trouble trouble) => .error (.unreadable path trouble)
  | .error .undecodable => .error .undecodable

end TestReach.WorkItem.Export
