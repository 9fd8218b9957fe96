namespace TestReach.CommandLine

structure OptionSpec where
  /-- The long name, with its hyphens. -/
  name : String
  letter : Option Char := none
  takesValue : Bool := false
deriving DecidableEq, Repr

inductive Misuse where
  | unknownOption (text : String)
  | noValue (name : String)
  | needlessValue (name : String)
  | noInteger (name text : String)
  | noCommand
  | unknownCommand (name : String)
  | operandCount (count : Nat)
  /-- A path that does not lead to what it should. -/
  | badPath (path : String)
deriving DecidableEq, Repr

def Misuse.message : Misuse → String
  | unknownOption text => "There is no option " ++ text
  | noValue name => "Option " ++ name ++ " needs a value"
  | needlessValue name => "Option " ++ name ++ " takes no value"
  | noInteger name text => "Option " ++ name ++ " needs an integer, got " ++ text
  | noCommand => "One of the commands search, scan and work-items is needed"
  | unknownCommand name => "There is no command " ++ name
  | operandCount count => "Wrong number of operands: " ++ toString count
  | badPath path => "No such file or directory of the kind needed: " ++ path

structure Arguments where
  /-- The options by their long names, with their values, in order. -/
  options : List (String × String) := []
  operands : List String := []
deriving DecidableEq, Repr

namespace Arguments

def addOption (arguments : Arguments) (name value : String) : Arguments :=
  { arguments with options := arguments.options ++ [(name, value)] }

def addOperands (arguments : Arguments) (operands : List String) : Arguments :=
  { arguments with operands := arguments.operands ++ operands }

def has (arguments : Arguments) (name : String) : Bool :=
  arguments.options.any (·.1 == name)

def value? (arguments : Arguments) (name : String) : Option String :=
  (arguments.options.reverse.find? (·.1 == name)).map (·.2)

inductive Reading where
  | done (arguments : Arguments)
  /-- The next argument is the value of this option. -/
  | wantsValue (name : String) (arguments : Arguments)

def readLetters (specs : List OptionSpec) (arguments : Arguments) : List Char → Except Misuse Reading
  | [] => .ok (.done arguments)
  | c :: rest =>
    match specs.find? (·.letter == some c) with
    | none => .error (.unknownOption (String.ofList ['-', c]))
    | some spec =>
      if !spec.takesValue then readLetters specs (arguments.addOption spec.name "") rest
      else if rest.isEmpty then .ok (.wantsValue spec.name arguments)
      else .ok (.done (arguments.addOption spec.name (String.ofList rest)))

def readOption (specs : List OptionSpec) (arguments : Arguments) (text : List Char) :
    Except Misuse Reading :=
  let name := String.ofList (text.takeWhile (· != '='))
  match specs.find? (·.name == name) with
  | some spec =>
    match text.dropWhile (· != '='), spec.takesValue with
    | [], true => .ok (.wantsValue name arguments)
    | [], false => .ok (.done (arguments.addOption name ""))
    | _ :: value, true => .ok (.done (arguments.addOption name (String.ofList value)))
    | _ :: _, false => .error (.needlessValue name)
  | none =>
    if text.take 2 == ['-', '-'] then .error (.unknownOption name)
    else readLetters specs arguments text.tail

def isOption (text : List Char) : Bool :=
  text.head? == some '-' && text.length > 1

/-- Reads arguments. Unless they are mixed, all are operands from the first operand on. -/
def readFrom (specs : List OptionSpec) (mixed : Bool) (arguments : Arguments) :
    List String → Except Misuse Arguments
  | [] => .ok arguments
  | text :: rest =>
    if text == "--" then .ok (arguments.addOperands rest)
    else if isOption text.toList then do
      match ← readOption specs arguments text.toList, rest with
      | .done arguments, rest => readFrom specs mixed arguments rest
      | .wantsValue name _, [] => .error (.noValue name)
      | .wantsValue name arguments, value :: rest =>
        readFrom specs mixed (arguments.addOption name value) rest
    else if mixed then readFrom specs mixed (arguments.addOperands [text]) rest
    else .ok (arguments.addOperands (text :: rest))

def read (specs : List OptionSpec) (mixed : Bool) (texts : List String) : Except Misuse Arguments :=
  readFrom specs mixed {} texts

end Arguments
end TestReach.CommandLine
