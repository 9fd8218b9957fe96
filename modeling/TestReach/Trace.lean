import TestReach.Round

namespace TestReach

namespace Trace

/-- What a trace leaves behind besides its result. -/
structure Journal where
  /-- The texts of the terms claimed so far. -/
  claimed : List String := []
  /-- The terms scanned for, in order. -/
  scanned : List Term := []
  /-- The results committed, in order. -/
  committed : List FileResult := []
  log : List Log.Record := []

namespace Journal

def note (journal : Journal) (level : Log.Level) (message : String) : Journal :=
  { journal with log := journal.log ++ [Log.record level "tracer" message] }

def adding (journal : Journal) (text : String) : Journal :=
  { journal with claimed := journal.claimed ++ [text] }

/-- Claims a term unless it has been claimed, and tells whether it is new. -/
def claim (journal : Journal) (text : String) : Bool × Journal :=
  if text ∈ journal.claimed then (false, journal) else (true, journal.adding text)

/-- Begins the round of `term`, the first of `depth` that are left. -/
def begun (journal : Journal) (term : Term) (depth : Nat) : Journal :=
  { journal.note .info ("Searching for " ++ term.text ++ " (depth " ++ toString depth ++ ")") with
    scanned := journal.scanned ++ [term] }

def logged (journal : Journal) (records : List Log.Record) : Journal :=
  { journal with log := journal.log ++ records }

def discarded (journal : Journal) (term : Term) : Journal :=
  journal.note .warning ("Found multiple method declarations for " ++ term.text ++
    ". Discarding TC results")

def commits (journal : Journal) (term : Term) (results : List FileResult) (cases others : Nat) :
    Journal :=
  { journal with committed := journal.committed ++ results }.note .info (term.text ++ ": " ++
    toString cases ++ " test case files, " ++ toString others ++ " non TC files")

def extended (journal : Journal) (term next : Term) : Journal :=
  journal.note .info ("Extending search for " ++ term.text ++ " by " ++ next.text)

end Journal

/-- Why a trace ends without a result. -/
inductive Failure where
  /-- The name of a routine makes no pattern. -/
  | term (error : Term.Invalid)
  | files (error : SourceFiles.ListError)

abbrev Outcome := Except Failure TestCase.Cases × Journal

abbrev Survey := Term → Except SourceFiles.ListError (List FileResult × List Log.Record)

def defaultDepth : Nat := 6

def casesOf (results : List FileResult) : TestCase.Cases :=
  .ofList ((results.filter (·.info.identifier != "")).map fun result =>
    (result.info.identifier, ⟨result.path, result.info⟩))

def othersOf (results : List FileResult) : List FileResult :=
  results.filter (·.info.identifier == "")

def orphanMessage (m : Match) : String :=
  "No containing method found for match:\n" ++ m.path ++ "\n" ++ toString m.line ++ ": " ++ m.text

/-- Follows the routines around uses of `term`, each by `trace`, adding to what has been found. -/
def follow (trace : Term → Journal → Outcome) (term : Term) (found : TestCase.Cases) :
    List Match → Journal → Outcome
  | [], journal => (.ok found, journal)
  | m :: rest, journal =>
    if m.routine = "" then follow trace term found rest (journal.note .warning (orphanMessage m))
    else
      match Term.wholeWord? m.routine with
      | .error error => (.error (.term error), journal)
      | .ok next =>
        match journal.claim next.text with
        | (false, journal) => follow trace term found rest journal
        | (true, journal) =>
          match trace next (journal.extended term next) with
          | (.error error, journal) => (.error error, journal)
          | (.ok more, journal) => follow trace term (found.merge more) rest journal

theorem follow_cons (trace : Term → Journal → Outcome) (term : Term) (found : TestCase.Cases)
    (m : Match) (rest : List Match) (journal : Journal) :
    follow trace term found (m :: rest) journal =
      if m.routine = "" then follow trace term found rest (journal.note .warning (orphanMessage m))
      else
        match Term.wholeWord? m.routine with
        | .error error => (.error (.term error), journal)
        | .ok next =>
          if next.text ∈ journal.claimed then follow trace term found rest journal
          else
            match trace next ((journal.adding next.text).extended term next) with
            | (.error error, journal) => (.error error, journal)
            | (.ok more, journal) => follow trace term (found.merge more) rest journal := by
  rw [follow]
  split
  · rfl
  split
  · rfl
  rename_i next _
  by_cases hclaimed : next.text ∈ journal.claimed
  · rw [Journal.claim, if_pos hclaimed, if_pos hclaimed]
  · rw [Journal.claim, if_neg hclaimed, if_neg hclaimed]

def usesOf (results : List FileResult) : List Match :=
  (othersOf results).flatMap (·.hits)

/-- Traces a term through at most `depth` rounds, each with a scan that may see what has been logged
so far. -/
def runLive (survey : Journal → Survey) : (depth : Nat) → Term → Journal → Outcome
  | 0, _, journal => (.ok [], journal)
  | depth + 1, term, journal =>
    let journal := journal.begun term (depth + 1)
    match survey journal term with
    | .error error => (.error (.files error), journal)
    | .ok (results, scanLog) =>
      let journal := journal.logged scanLog
      let round := Round.classify results
      if round.decision = .ambiguous then (.ok [], journal.discarded term)
      else
        let found := casesOf round.results
        let journal :=
          journal.commits term round.results found.length (othersOf round.results).length
        match follow (runLive survey depth) term [] (usesOf round.results) journal with
        | (.error error, journal) => (.error error, journal)
        | (.ok more, journal) => (.ok (found.merge more), journal)

def run (survey : Survey) : (depth : Nat) → Term → Journal → Outcome :=
  runLive fun _ => survey

theorem run_zero (survey : Survey) (term : Term) (journal : Journal) :
    run survey 0 term journal = (.ok [], journal) :=
  rfl

theorem run_succ (survey : Survey) (depth : Nat) (term : Term) (journal : Journal) :
    run survey (depth + 1) term journal =
      match survey term with
      | .error error => (.error (.files error), journal.begun term (depth + 1))
      | .ok (results, scanLog) =>
        let journal := (journal.begun term (depth + 1)).logged scanLog
        let round := Round.classify results
        if round.decision = .ambiguous then (.ok [], journal.discarded term)
        else
          let found := casesOf round.results
          let journal :=
            journal.commits term round.results found.length (othersOf round.results).length
          match follow (run survey depth) term [] (usesOf round.results) journal with
          | (.error error, journal) => (.error error, journal)
          | (.ok more, journal) => (.ok (found.merge more), journal) :=
  rfl

def inTree (scanner : Scanner) (disk : Disk) (root : Path) (depth : Nat) (term : Term)
    (journal : Journal) : Outcome :=
  run (scanner.survey disk root) depth term journal

/-- Traces a term in source files that records may be written to while they are traced. `live` is the
disk with records on it, and `turns` are those of the workers, scan by scan. -/
def inLiveTree (scanner : Scanner) (live : List Log.Record → Disk) (turns : Nat → List Nat)
    (root : Path) (depth : Nat) (term : Term) (journal : Journal) : Outcome :=
  runLive (fun journal => scanner.surveyLive (fun records => live (journal.log ++ records))
    (turns journal.scanned.length) root) depth term journal

/-- What traces one after the other come to, and the terms claimed when the last one has ended. -/
structure Session where
  outcomes : List Outcome
  claimed : List String

/-- Traces terms one after the other, each with a depth of its own. A trace starts with the terms
claimed by those before it, and is run whatever became of them. -/
def session (survey : Survey) : List (Term × Nat) → (claimed : List String) → Session
  | [], claimed => ⟨[], claimed⟩
  | (term, depth) :: rest, claimed =>
    let outcome := run survey depth term { claimed }
    let later := session survey rest outcome.2.claimed
    ⟨outcome :: later.outcomes, later.claimed⟩

end Trace
end TestReach
