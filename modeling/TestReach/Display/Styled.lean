import TestReach.Display.Cells
import TestReach.Scan

namespace TestReach.Display

inductive Style where
  | important
  | fileName
  | found
  | info
  | warning
  | error
deriving DecidableEq, Repr

namespace Style

def all : List Style := [important, fileName, found, info, warning, error]

def name : Style → String
  | important => "important"
  | fileName => "filename"
  | found => "match"
  | info => "info"
  | warning => "warning"
  | error => "error"

def color : Style → Nat
  | important => 3
  | fileName => 6
  | found => 5
  | info => 12
  | warning => 11
  | error => 9

def look (style : Style) : String :=
  "bold color(" ++ toString style.color ++ ")"

def named? (name : String) : Option Style :=
  all.find? (·.name == name)

end Style

structure Stretch where
  start : Nat
  stop : Nat
  style : Style
deriving DecidableEq, Repr

structure Styled where
  text : List Char := []
  /-- The style of the whole. -/
  style : Option Style := none
  stretches : List Stretch := []
deriving DecidableEq, Repr

def isLeftOut (c : Char) : Bool :=
  [7, 8, 11, 12, 13].contains c.toNat

def cleaned (piece : List Char) : List Char :=
  piece.filter (!isLeftOut ·)

namespace Styled

/-- Adds a piece in a style. A piece of left-out characters only has an empty stretch. -/
def add (styled : Styled) (piece : List Char) (style : Style) : Styled :=
  if piece.isEmpty then styled
  else
    let start := styled.text.length
    let text := styled.text ++ cleaned piece
    { styled with text, stretches := styled.stretches ++ [⟨start, text.length, style⟩] }

def addPlain (styled : Styled) (piece : List Char) : Styled :=
  { styled with text := styled.text ++ cleaned piece }

def addStyled (styled other : Styled) : Styled :=
  let moved := other.stretches.map fun stretch =>
    { stretch with
      start := styled.text.length + stretch.start, stop := styled.text.length + stretch.stop }
  { styled with text := styled.text ++ other.text, stretches := styled.stretches ++ moved }

def ofMatch (m : Match) : Styled :=
  let text := m.text.toList
  let line : Styled := {}
  (((line.add (toString m.line ++ ": ").toList .found).addPlain
    (Text.between text 0 m.column)).add (Text.between text m.column m.columnEnd) .found).addPlain
      (Text.between text m.columnEnd text.length)

def ofResult (result : FileResult) : Styled :=
  let head : Styled := { text := cleaned result.path.toList, style := some .fileName }
  result.hits.foldl (fun styled m =>
    ((styled.addPlain ['\t']).addStyled (ofMatch m)).addPlain ['\n']) (head.addPlain ['\n'])

end Styled
end TestReach.Display
