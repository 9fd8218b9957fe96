import TestReach.Proofs.Enclosing
import TestReach.Proofs.Trace.Exactness

namespace TestReach

open Text

namespace Trace

variable {scanner : Scanner} {disk : Disk} {root file : Path} {term next : Term} {source : String}
  {m : Match}

/-- The round of `next` meets the declaration that the routine around `m` is taken from: a match on
the same line of the same file, of the name itself. So the round is never without declarations, and
where it has a single one it is this. -/
def MeetsDeclaration (scanner : Scanner) (disk : Disk) (root : Path) (m : Match) (next : Term) :
    Prop :=
  ∃ term file source n, scanner.Finds disk root term file source m ∧
    m.RoutineAt scanner.declarations source n ∧
    ∃ results records, scanner.survey disk root next = .ok (results, records) ∧
      ∃ declaration ∈ declarationsOf results, scanner.Finds disk root next file source declaration ∧
        declaration.line = n + 1 ∧ declaration.matched = m.routine ∧
        (Round.classify results).decision ≠ .noDeclarations ∧
        ((Round.classify results).decision = .unique → declarationsOf results = [declaration])

theorem exists_meetsDeclaration (hrules : scanner.declarations.IsDefault)
    (hm : scanner.Finds disk root term file source m) (hroutine : m.routine ≠ "") :
    ∃ next, m.Within next ∧ MeetsDeclaration scanner disk root m next := by
  obtain ⟨⟨files, hfiles, hfile⟩, hread, span, hspan, hhit⟩ := hm
  obtain ⟨hle, hstop⟩ := Term.span_bounds hspan
  obtain ⟨n, hat⟩ := Scanner.exists_routineAt hrules hle hstop (hhit ▸ hroutine)
  rw [← hhit] at hat
  obtain ⟨line, hline, hname⟩ := hat.declares
  obtain ⟨next, hnext, found, hfound, hdeclares, hn, hmatched⟩ :=
    Scanner.exists_declaration_on_line hrules hline (by rwa [hname]) file.toString
  rw [hname] at hnext hmatched
  have hdeclaration : scanner.Finds disk root next file source
      (scanner.hit file.toString source found) :=
    ⟨⟨files, hfiles, hfile⟩, hread, found, hfound, rfl⟩
  have hsurvey : scanner.survey disk root next = .ok (scanner.visitAll disk files next) :=
    congrFun (Scanner.survey_of_files hfiles) next
  obtain ⟨result, hresult, hhits⟩ := (Scanner.finds_iff hsurvey).mpr ⟨file, source, hdeclaration⟩
  have hmem := mem_declarationsOf.mpr ⟨result, hresult, hhits, hdeclares⟩
  refine ⟨next, ⟨hroutine, hnext⟩, term, file, source, n,
    ⟨⟨files, hfiles, hfile⟩, hread, span, hspan, hhit⟩, hat, _, _, hsurvey, _, hmem, hdeclaration, hn,
    hmatched, ?_, ?_⟩
  · rw [Round.decision_classify, Ne, Decision.ofCount_eq_noDeclarations, List.length_eq_zero_iff]
    exact List.ne_nil_of_mem hmem
  · rw [Round.decision_classify, Decision.ofCount_eq_unique, List.length_eq_one_iff]
    rintro ⟨only, hone⟩
    rw [hone, List.mem_singleton] at hmem
    rw [hone, hmem]

theorem exists_meetsDeclaration_of_keeps (hrules : scanner.declarations.IsDefault)
    {result : FileResult} (hkeeps : Keeps (scanner.survey disk root) term result)
    (hm : m ∈ result.hits) (hroutine : m.routine ≠ "") :
    ∃ next, m.Within next ∧ MeetsDeclaration scanner disk root m next := by
  obtain ⟨results, records, hsurvey, hscanned⟩ := exists_scanned_of_keeps hkeeps hm
  obtain ⟨file, source, hfinds⟩ := (Scanner.finds_iff hsurvey).mp hscanned
  exact exists_meetsDeclaration hrules hfinds hroutine

theorem inTree_returns (hrules : scanner.declarations.IsDefault) {files : List Path}
    (hfiles : scanner.files disk root = .ok files) (depth : Nat) (term : Term) (journal : Journal) :
    ∃ cases, (inTree scanner disk root depth term journal).1 = .ok cases := by
  refine run_returns Set.univ (fun _ _ _ _ => Set.mem_univ _) ?_ ?_ depth (Set.mem_univ term) journal
  · exact fun term _ => ⟨_, congrFun (Scanner.survey_of_files hfiles) term⟩
  · intro term _ result hkeeps _ m hm hroutine
    obtain ⟨next, hwithin, -⟩ := exists_meetsDeclaration_of_keeps hrules hkeeps hm hroutine
    exact ⟨next, hwithin⟩

/-- Every term that a trace scans for, its own apart, is named by a use in a committed result; and
wherever a committed use lies in a routine, the round of the routine's term meets the declaration that
the routine was taken from. So no round but a trace's first is without declarations. -/
theorem recursive_round_meets_declaration (scanner : Scanner)
    (hrules : scanner.declarations.IsDefault) (disk : Disk) (root : Path) (depth : Nat) (term : Term)
    (journal : Journal) {outcome : Outcome}
    (h : inTree scanner disk root depth term journal = outcome) :
    ∃ own followed committed, (own = [] ∨ own = [term]) ∧
      outcome.2.scanned = journal.scanned ++ own ++ followed ∧
      outcome.2.committed = journal.committed ++ committed ∧
      (∀ next ∈ followed, ∃ result ∈ committed, result.Names next) ∧
      ∀ result ∈ committed, ∀ m ∈ result.hits, ∀ next, m.Within next →
        MeetsDeclaration scanner disk root m next := by
  subst h
  cases hfiles : scanner.files disk root with
  | error error =>
    -- Without files there is at most the attempt to scan for the term itself.
    cases depth with
    | zero =>
      exact ⟨[], [], [], Or.inl rfl, by simp [inTree, run_zero],
        by simp [inTree, run_zero], by simp, by simp⟩
    | succ depth =>
      have hrun : inTree scanner disk root (depth + 1) term journal =
          (.error (.files error), journal.begun term (depth + 1)) := by
        rw [inTree, Scanner.survey_of_error hfiles, run_succ]
      rw [hrun]
      exact ⟨[term], [], [], Or.inr rfl, by simp [Journal.begun],
        by simp [Journal.begun, Journal.note], by simp, by simp⟩
  | ok files =>
    obtain ⟨cases, hcases⟩ := inTree_returns hrules hfiles depth term journal
    obtain ⟨trail, hreturns, hadds⟩ := returns_of_run depth term journal (Prod.ext hcases rfl)
    refine ⟨trail.scanned.take 1, trail.scanned.drop 1, trail.committed, ?_, ?_, hadds.committed, ?_,
      ?_⟩
    · rcases hreturns.scanned_trace with hnone | ⟨rest, hrest⟩
      · exact Or.inl (by rw [hnone, List.take_nil])
      · exact Or.inr (by rw [hrest, List.take_succ_cons, List.take_zero])
    · rw [List.append_assoc, List.take_append_drop]
      exact hadds.scanned
    · intro next hnext
      exact (hreturns.named_of_scanned hnext).resolve_left (by simp)
    · intro result hresult m hm next hwithin
      obtain ⟨last, -, hkeeps⟩ := hreturns.mem_committed.mp hresult
      obtain ⟨next', hwithin', hmeets⟩ := exists_meetsDeclaration_of_keeps hrules hkeeps hm hwithin.1
      rwa [hwithin'.unique hwithin] at hmeets

/-- The sample follows `x` to a routine around it, whose round meets that routine's declaration. -/
theorem sample_round_meets_declaration :
    Sample.scanner.declarations.IsDefault ∧ ∃ m next,
      next ∈ (inTree Sample.scanner Sample.tree Sample.root 2 (.literal "x") {}).2.scanned ∧
      m.Within next ∧ MeetsDeclaration Sample.scanner Sample.tree Sample.root m next := by
  obtain ⟨own, followed, committed, hown, hscanned, -, hnamed, hmeets⟩ :=
    recursive_round_meets_declaration Sample.scanner sample_isDefault Sample.tree Sample.root 2
      (.literal "x") {} rfl
  have htexts : ((inTree Sample.scanner Sample.tree Sample.root 2
      (.literal "x") {}).2.scanned.map Term.text) = ["x", "\\ba\\b", "\\bc\\b"] := by
    rw [inTree, Sample.survey_eq]
    decide +kernel
  have hfollowed : followed ≠ [] := by
    rintro rfl
    have hlength := congrArg List.length htexts
    rw [hscanned, List.length_map] at hlength
    rcases hown with rfl | rfl <;> cases hlength
  obtain ⟨next, hnext⟩ := List.exists_mem_of_ne_nil followed hfollowed
  obtain ⟨result, hresult, -, m, hm, hwithin⟩ := hnamed next hnext
  refine ⟨sample_isDefault, m, next, ?_, hwithin, hmeets result hresult m hm next hwithin⟩
  rw [hscanned]
  exact List.mem_append_right _ hnext

/-- A name of word characters makes a term, which finds it just where it stands as a whole word, from
left to right. Under the standard pattern routines have such names, so that no trace fails on one. -/
theorem wholeWord_exact_and_never_fails :
    (∀ name : String, name ≠ "" → (∀ c ∈ name.toList, isWord c = true) →
      ∃ term, Term.wholeWord? name = .ok term ∧ ∀ source, term.findAll source =
        ((List.range source.toList.length).filter (WordAt name.toList source.toList ·)).map
          fun p => ⟨p, p + name.toList.length⟩) ∧
    ∀ scanner : Scanner, scanner.declarations.IsDefault → ∀ disk root depth term journal error,
      (inTree scanner disk root depth term journal).1 ≠ .error (.term error) := by
  refine ⟨fun name hne hword => Term.findAll_wholeWord hne hword, ?_⟩
  intro scanner hrules disk root depth term journal error
  cases hfiles : scanner.files disk root with
  | error listError =>
    cases depth with
    | zero =>
      intro h
      cases h
    | succ depth =>
      have hfailed := run_of_survey_error (congrFun (Scanner.survey_of_error hfiles) term)
        (Nat.succ_pos depth) journal
      rw [inTree, hfailed]
      intro h
      cases h
  | ok files =>
    obtain ⟨cases, hcases⟩ := inTree_returns hrules hfiles depth term journal
    rw [hcases]
    intro h
    cases h

theorem sample_wholeWord_never_fails :
    (∃ term, Term.wholeWord? "1é" = .ok term ∧ ∀ source, term.findAll source =
      ((List.range source.toList.length).filter (WordAt "1é".toList source.toList ·)).map
        fun p => ⟨p, p + "1é".toList.length⟩) ∧
    ∀ error, (inTree Sample.scanner Sample.tree Sample.root 2 (.literal "x") {}).1 ≠
      .error (.term error) :=
  ⟨wholeWord_exact_and_never_fails.1 "1é" (by decide) (List.all_eq_true.mp (by decide)),
    wholeWord_exact_and_never_fails.2 Sample.scanner sample_isDefault _ _ _ _ _⟩

end Trace
end TestReach
