namespace TestReach.Toml

inductive Value where
  | nothing
  | boolean (value : Bool)
  | integer (value : Int)
  | decimal (written : String)
  | date (written : String)
  | time (written : String)
  | text (value : String)
  | list (items : List Value)
  | table (entries : List (String × Value))
deriving Inhabited

abbrev Table := List (String × Value)

inductive Kind where
  | nothing
  | boolean
  | integer
  | decimal
  | date
  | time
  | text
  | list
  | table
deriving DecidableEq, Repr

def Value.kind : Value → Kind
  | nothing => .nothing
  | boolean _ => .boolean
  | integer _ => .integer
  | decimal _ => .decimal
  | date _ => .date
  | time _ => .time
  | text _ => .text
  | list _ => .list
  | table _ => .table

inductive Fault where
  | malformed
  /-- A character was needed where a text ends. -/
  | noCharacter
  /-- An item was needed where a list ends. -/
  | noItem
  /-- A name leads through something that is no table. -/
  | noTable
  /-- A table was to be added to something that is no list. -/
  | noList
deriving DecidableEq, Repr

def Fault.message? : Fault → Option String
  | noCharacter => some "string index out of range"
  | noItem => some "list index out of range"
  | malformed | noTable | noList => none

end TestReach.Toml
