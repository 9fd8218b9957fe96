namespace TestReach.Log

inductive Level where
  | debug
  | info
  | warning
  | error
  | critical
deriving DecidableEq, Repr

namespace Level

def name : Level → String
  | debug => "DEBUG"
  | info => "INFO"
  | warning => "WARNING"
  | error => "ERROR"
  | critical => "CRITICAL"

def all : List Level := [debug, info, warning, error, critical]

def named? (name : String) : Option Level :=
  all.find? (·.name == name)

def rank : Level → Nat
  | debug => 10
  | info => 20
  | warning => 30
  | error => 40
  | critical => 50

end Level

structure Record where
  level : Level
  logger : String
  message : String
deriving DecidableEq, Repr

def rootLogger : String := "used_in_tc"

def isOwn (logger : String) : Bool :=
  logger == rootLogger || (rootLogger ++ ".").toList.isPrefixOf logger.toList

def record (level : Level) (part message : String) : Record :=
  ⟨level, rootLogger ++ "." ++ part, message⟩

def Record.line (record : Record) (time : String) : String :=
  let level := record.level.name
  let padding := String.ofList (List.replicate (8 - level.length) ' ')
  time ++ " " ++ level ++ padding ++ " " ++ record.logger ++ ": " ++ record.message ++ "\n"

end TestReach.Log
