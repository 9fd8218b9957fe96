import TestReach.Pattern.Basic
import TestReach.Pattern.Fault

namespace TestReach.Pattern

structure Width where
  least : Nat
  most : Nat
deriving DecidableEq, Repr

def widthLimit : Nat := 0x10000000000000000

def lookBehindLimit : Nat := 0xFFFFFFFF

namespace Width

def zero : Width := ⟨0, 0⟩

def one : Width := ⟨1, 1⟩

def cut (w : Width) : Width :=
  ⟨min w.least widthLimit, min w.most widthLimit⟩

def add (v w : Width) : Width :=
  cut ⟨v.least + w.least, v.most + w.most⟩

def join (v w : Width) : Width :=
  ⟨min v.least w.least, max v.most w.most⟩

def times (w : Width) (least : Nat) (most : Option Nat) : Width :=
  cut ⟨w.least * least,
    match most with
    | some n => w.most * n
    | none => if w.most == 0 then 0 else widthLimit⟩

end Width

def Node.width (groups : List (Nat × Width)) : Node → Width
  | .empty => .zero
  | .one _ => .one
  | .anchor _ => .zero
  | .seq first second => (first.width groups).add (second.width groups)
  | .alt first second => (first.width groups).join (second.width groups)
  | .capture _ body => body.width groups
  | .many _ least most _ => Width.one.times least most
  | .repeated _ least most body => (body.width groups).times least most
  | .atomic body => body.width groups
  | .ahead .. => .zero
  | .behind .. => .zero
  | .recall _ group => (groups.lookup group).getD .zero
  | .choose _ ifMatched otherwise => (ifMatched.width groups).join (otherwise.width groups)

def Greed.operator : Greed → String
  | .greedy => "MAX_REPEAT"
  | .lazy => "MIN_REPEAT"
  | .possessive => "POSSESSIVE_REPEAT"

/-- The first fault of a tree. A pattern in template mode may not repeat anything. -/
def Node.fault? (template : Bool) : Node → Option Fault
  | .seq first second | .alt first second | .choose _ first second =>
    first.fault? template <|> second.fault? template
  | .capture _ body | .atomic body | .ahead _ body => body.fault? template
  | .many greed .. => if template then some (.templateRepeat greed.operator) else none
  | .repeated greed _ _ body =>
    if template then some (.templateRepeat greed.operator) else body.fault? template
  | .behind _ least most body =>
    if least > lookBehindLimit then some .longLookBehind
    else if least != most then some .variableLookBehind
    else body.fault? template
  | _ => none

end TestReach.Pattern
