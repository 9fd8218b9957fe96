import TestReach.Catalog
import TestReach.Text.Case

namespace TestReach

structure WorkItem where
  identifier : String
  title : String := ""
  status : String := ""
  /-- The names of the measures that reduce a risk. -/
  measures : List String := []
deriving DecidableEq, Repr

namespace WorkItem

def isComplete (item : WorkItem) : Bool :=
  item.identifier != "" && item.title != "" && item.status != ""

def isApproved (item : WorkItem) (statuses : List String) : Bool :=
  (statuses.map Text.lower).contains (Text.lower item.status)

def format (item : WorkItem) : String :=
  ",".intercalate [item.identifier, item.title, item.status, ", ".intercalate item.measures]

abbrev Plan := Catalog WorkItem

def Plan.format (plan : Plan) : String :=
  String.join ((Catalog.values plan).map fun item => item.format ++ "\n")

def Plan.approves (plan : Plan) (statuses : List String) (identifier : String) : Bool :=
  (Catalog.get? plan identifier).any (·.isApproved statuses)

end WorkItem
end TestReach
