import TestReach.Scan

namespace TestReach

/-- What the number of declarations says about a round. -/
inductive Decision where
  | noDeclarations
  | unique
  | ambiguous
deriving DecidableEq, Repr

/-- A classified round: the uses that are kept, file by file. -/
structure Round where
  decision : Decision
  results : List FileResult := []
  declarations : Nat := 0
deriving DecidableEq, Repr

namespace FileResult

def uses (result : FileResult) : List Match :=
  result.hits.filter (! ·.isDeclaration)

def declarationCount (result : FileResult) : Nat :=
  (result.hits.filter (·.isDeclaration)).length

end FileResult

namespace Round

/-- Classifies the remaining results, after those kept and the declarations counted so far. Counting
ends with the first file that makes the round ambiguous. -/
def classifyFrom (declarations : Nat) (kept : List FileResult) : List FileResult → Round
  | [] =>
    { decision := if declarations == 1 then .unique else .noDeclarations
      results := kept
      declarations }
  | result :: rest =>
    let declarations := declarations + result.declarationCount
    if declarations > 1 then { decision := .ambiguous, declarations }
    else if result.uses.isEmpty then classifyFrom declarations kept rest
    else classifyFrom declarations (kept ++ [{ result with hits := result.uses }]) rest

def classify (results : List FileResult) : Round :=
  classifyFrom 0 [] results

end Round
end TestReach
