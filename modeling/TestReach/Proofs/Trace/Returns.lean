import TestReach.Proofs.Trace.Links

namespace TestReach.Trace

/-- What a trace adds to the journal, without the log. -/
structure Trail where
  claimed : List String := []
  scanned : List Term := []
  committed : List FileResult := []

namespace Trail

instance : Append Trail where
  append a b := ⟨a.claimed ++ b.claimed, a.scanned ++ b.scanned, a.committed ++ b.committed⟩

@[simp] theorem claimed_append (a b : Trail) : (a ++ b).claimed = a.claimed ++ b.claimed := rfl

@[simp] theorem scanned_append (a b : Trail) : (a ++ b).scanned = a.scanned ++ b.scanned := rfl

@[simp] theorem committed_append (a b : Trail) :
    (a ++ b).committed = a.committed ++ b.committed := rfl

end Trail

/-- `journal'` is `journal` with a trail added, whatever has been logged besides. -/
structure Journal.Adds (journal : Journal) (trail : Trail) (journal' : Journal) : Prop where
  claimed : journal'.claimed = journal.claimed ++ trail.claimed
  scanned : journal'.scanned = journal.scanned ++ trail.scanned
  committed : journal'.committed = journal.committed ++ trail.committed

theorem Journal.Adds.refl (journal : Journal) : journal.Adds {} journal := by
  constructor <;> simp

theorem Journal.Adds.trans {journal journal' journal'' : Journal} {first second : Trail}
    (h : journal.Adds first journal') (h' : journal'.Adds second journal'') :
    journal.Adds (first ++ second) journal'' where
  claimed := by rw [h'.claimed, h.claimed, Trail.claimed_append, List.append_assoc]
  scanned := by rw [h'.scanned, h.scanned, Trail.scanned_append, List.append_assoc]
  committed := by rw [h'.committed, h.committed, Trail.committed_append, List.append_assoc]

/-- What is to be done: a term to trace, or uses to follow after some test cases have been found. -/
inductive Task where
  | trace (term : Term)
  | follow (found : TestCase.Cases) (uses : List Match)

namespace Task

@[simp] def found : Task → TestCase.Cases
  | trace _ => []
  | follow found _ => found

@[simp] def uses : Task → List Match
  | trace _ => []
  | follow _ uses => uses

/-- The text of a term to trace. It is not claimed by the task. -/
@[simp] def entry : Task → List String
  | trace term => [term.text]
  | follow _ _ => []

end Task

/-- With the texts in `claimed` claimed, the task finds test cases and leaves a trail. Uses are
followed by traces of at most `depth` rounds. -/
inductive Returns (survey : Survey) :
    (depth : Nat) → Task → (claimed : List String) → TestCase.Cases → Trail → Prop where
  | spent {term claimed} : Returns survey 0 (.trace term) claimed [] {}
  | ambiguous {depth term claimed results records} (hsurvey : survey term = .ok (results, records))
      (hround : (Round.classify results).decision = .ambiguous) :
      Returns survey (depth + 1) (.trace term) claimed [] { scanned := [term] }
  | round {depth term claimed results records more trail}
      (hsurvey : survey term = .ok (results, records))
      (hround : (Round.classify results).decision ≠ .ambiguous)
      (hfollow : Returns survey depth (.follow [] (usesOf (Round.classify results).results)) claimed
        more trail) :
      Returns survey (depth + 1) (.trace term) claimed
        ((casesOf (Round.classify results).results).merge more)
        ({ scanned := [term], committed := (Round.classify results).results } ++ trail)
  | done {depth found claimed} : Returns survey depth (.follow found []) claimed found {}
  | orphan {depth found m rest claimed cases trail} (hroutine : m.routine = "")
      (hrest : Returns survey depth (.follow found rest) claimed cases trail) :
      Returns survey depth (.follow found (m :: rest)) claimed cases trail
  | known {depth found m rest claimed cases trail next} (hwithin : m.Within next)
      (hknown : next.text ∈ claimed)
      (hrest : Returns survey depth (.follow found rest) claimed cases trail) :
      Returns survey depth (.follow found (m :: rest)) claimed cases trail
  | extended {depth found m rest claimed more cases first second next} (hwithin : m.Within next)
      (hnew : next.text ∉ claimed)
      (hfirst : Returns survey depth (.trace next) (claimed ++ [next.text]) more first)
      (hrest : Returns survey depth (.follow (found.merge more) rest)
        (claimed ++ [next.text] ++ first.claimed) cases second) :
      Returns survey depth (.follow found (m :: rest)) claimed cases
        ({ claimed := [next.text] } ++ first ++ second)

variable {survey : Survey} {depth : Nat}

theorem returns_of_follow {term : Term}
    (htrace : ∀ next journal cases journal', run survey depth next journal = (.ok cases, journal') →
      ∃ trail, Returns survey depth (.trace next) journal.claimed cases trail ∧
        journal.Adds trail journal')
    (uses : List Match) (found : TestCase.Cases) (journal : Journal) {cases : TestCase.Cases}
    {journal' : Journal}
    (h : follow (run survey depth) term found uses journal = (.ok cases, journal')) :
    ∃ trail, Returns survey depth (.follow found uses) journal.claimed cases trail ∧
      journal.Adds trail journal' := by
  induction uses generalizing found journal with
  | nil =>
    cases h
    exact ⟨{}, .done, .refl _⟩
  | cons m rest ih =>
    rw [follow_cons] at h
    split at h
    · rename_i hroutine
      obtain ⟨trail, hreturns, hadds⟩ := ih _ _ h
      exact ⟨trail, .orphan hroutine hreturns, hadds.claimed, hadds.scanned, hadds.committed⟩
    rename_i hroutine
    split at h
    · cases h
    rename_i next hnext
    split at h
    · rename_i hknown
      obtain ⟨trail, hreturns, hadds⟩ := ih _ _ h
      exact ⟨trail, .known ⟨hroutine, hnext⟩ hknown hreturns, hadds⟩
    rename_i hnew
    split at h
    · cases h
    rename_i more middle hmore
    obtain ⟨first, hfirst, haddsFirst⟩ := htrace _ _ _ _ hmore
    obtain ⟨second, hsecond, haddsSecond⟩ := ih _ _ h
    -- The rest is followed with what the first trace has claimed.
    rw [haddsFirst.claimed] at hsecond
    have hclaim : journal.Adds { claimed := [next.text] } ((journal.adding next.text).extended term next) := by
      constructor <;> simp [Journal.extended, Journal.adding, Journal.note]
    exact ⟨_, .extended ⟨hroutine, hnext⟩ hnew hfirst hsecond,
      (hclaim.trans haddsFirst).trans haddsSecond⟩

theorem returns_of_run (depth : Nat) (term : Term) (journal : Journal) {cases : TestCase.Cases}
    {journal' : Journal} (h : run survey depth term journal = (.ok cases, journal')) :
    ∃ trail, Returns survey depth (.trace term) journal.claimed cases trail ∧
      journal.Adds trail journal' := by
  induction depth generalizing term journal cases journal' with
  | zero =>
    cases h
    exact ⟨{}, .spent, .refl _⟩
  | succ depth ih =>
    rw [run_succ] at h
    split at h
    · cases h
    rename_i results records hsurvey
    dsimp only at h
    split at h
    · rename_i hround
      cases h
      refine ⟨_, .ambiguous hsurvey hround, ?_⟩
      constructor <;> simp [Journal.discarded, Journal.logged, Journal.begun, Journal.note]
    rename_i hround
    split at h
    · cases h
    rename_i more last hmore
    cases h
    obtain ⟨trail, hreturns, hadds⟩ := returns_of_follow (fun _ _ _ _ => ih _ _) _ _ _ hmore
    refine ⟨_, .round hsurvey hround hreturns, Journal.Adds.trans ?_ hadds⟩
    constructor <;> simp [Journal.commits, Journal.logged, Journal.begun, Journal.note]

theorem ok_of_toOption {outcome : Outcome} {cases : TestCase.Cases}
    (h : outcome.1.toOption = some cases) : outcome.1 = .ok cases := by
  obtain ⟨found, journal⟩ := outcome
  cases found with
  | error error => cases h
  | ok found => exact congrArg Except.ok (Option.some.inj h)

theorem exists_journal_of_ok {outcome : Outcome} {cases : TestCase.Cases}
    (h : outcome.1 = .ok cases) : ∃ journal, outcome = (.ok cases, journal) :=
  ⟨outcome.2, Prod.ext h rfl⟩

end TestReach.Trace
