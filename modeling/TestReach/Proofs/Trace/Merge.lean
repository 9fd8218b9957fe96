import TestReach.Proofs.Trace.Soundness

namespace TestReach.Trace

/-- Puts the test case that a result stands for. A result without an identifier is passed by. -/
def record (found : TestCase.Cases) (result : FileResult) : TestCase.Cases :=
  if result.info.identifier = "" then found
  else found.put result.info.identifier ⟨result.path, result.info⟩

theorem foldl_record (results : List FileResult) (found : TestCase.Cases) :
    results.foldl record found = found.merge (casesOf results) := by
  rw [casesOf, Catalog.merge_ofList]
  induction results generalizing found with
  | nil => rfl
  | cons result rest ih =>
    rw [List.foldl_cons, ih]
    by_cases hid : result.info.identifier = ""
    · simp [record, hid]
    · simp [record, hid, Catalog.merge_cons]

theorem foldl_record_nil (results : List FileResult) : results.foldl record [] = casesOf results := by
  rw [foldl_record, casesOf, Catalog.merge_ofList]
  rfl

variable {survey : Survey} {depth : Nat} {task : Task} {claimed : List String}
  {cases : TestCase.Cases} {trail : Trail}

theorem Returns.cases_eq_foldl (h : Returns survey depth task claimed cases trail) :
    cases = trail.committed.foldl record task.found := by
  induction h with
  | spent | ambiguous | done => rfl
  | round _ _ _ ih =>
    rw [Task.found, foldl_record_nil] at ih
    rw [ih, Trail.committed_append, List.foldl_append, Task.found, foldl_record_nil, foldl_record]
  | orphan _ _ ih | known _ _ _ ih => exact ih
  | extended _ _ _ _ ihFirst ihRest =>
    -- The trace of the use's name starts from nothing, and its test cases are merged into `found`.
    rw [Task.found, foldl_record_nil] at ihFirst
    rw [ihRest, Task.found, ihFirst, ← foldl_record]
    simp only [Trail.committed_append, List.nil_append, List.foldl_append, Task.found]

/-- The map that a trace returns is what recording the committed results in order makes, so that its
keys are their identifiers. Each of these results holds a match, and none holds a declaration. -/
theorem cases_eq_fold_committed (scanner : Scanner) (disk : Disk) (root : Path) (depth : Nat)
    (term : Term) (journal : Journal) {cases : TestCase.Cases} {journal' : Journal}
    (h : inTree scanner disk root depth term journal = (.ok cases, journal')) :
    ∃ results, journal'.committed = journal.committed ++ results ∧
      cases = results.foldl record [] ∧
      (∀ k, k ∈ cases.keys ↔ k ≠ "" ∧ ∃ result ∈ results, result.info.identifier = k) ∧
      ∀ result ∈ results, result.hits ≠ [] ∧ ∀ m ∈ result.hits, m.isDeclaration = false := by
  obtain ⟨trail, hreturns, hadds⟩ := returns_of_run depth term journal h
  refine ⟨trail.committed, hadds.committed, hreturns.cases_eq_foldl, ?_, ?_⟩
  · intro k
    rw [hreturns.mem_keys]
    simp [Catalog.keys]
  · intro result hresult
    obtain ⟨last, -, results, records, -, -, hkept⟩ := hreturns.mem_committed.mp hresult
    exact Round.mem_classify_hits hkept

theorem sample_cases_fold : ∃ journal results,
    inTree Sample.scanner Sample.tree Sample.root 2 (.literal "x") {} = (.ok Sample.found, journal) ∧
      journal.committed = results ∧ Sample.found = results.foldl record [] ∧
      ∃ result ∈ results, result.info.identifier = "P-1" := by
  obtain ⟨journal, hjournal⟩ := sample_trace_two
  obtain ⟨results, hcommitted, hfold, hkeys, -⟩ := cases_eq_fold_committed _ _ _ _ _ _ hjournal
  exact ⟨journal, results, hjournal, hcommitted, hfold, ((hkeys "P-1").mp List.mem_cons_self).2⟩

end TestReach.Trace
