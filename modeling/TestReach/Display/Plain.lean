import TestReach.Display.Styled

namespace TestReach.Display

def tabWidth : Nat := 8

/-- Spaces from a column up to the next tab stop; at a tab stop there are none. -/
def spacesTo (column : Nat) : List Char :=
  List.replicate ((tabWidth - column % tabWidth) % tabWidth) ' '

def expandParts (column : Nat) : List (List Char) → List Char
  | [] => []
  | [part] => part
  | part :: rest =>
    let part := part ++ [' ']
    let spaces := spacesTo (column + cells part)
    part ++ spaces ++ expandParts (column + cells part + spaces.length) rest

/-- A line without tabs: they become spaces up to the next column that is a multiple of eight. -/
def expandLine (line : List Char) : List Char :=
  expandParts 0 (Text.split (· == '\t') line)

def shown (text : List Char) : List Char :=
  ['\n'].intercalate ((Text.lines text).map expandLine)

def Styled.printed (styled : Styled) : String :=
  String.ofList (shown styled.text ++ ['\n'])

/-- What is shown for a text from elsewhere, without a line end. -/
def plain (text : String) : String :=
  String.ofList (shown (cleaned text.toList))

def lineOf (text : String) : String :=
  plain text ++ "\n"

end TestReach.Display
